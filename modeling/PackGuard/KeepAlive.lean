import PackGuard.Settings
import PackGuard.Storage.Deadline

/-!
# The keep-alive

While it is on, the pack stays connected only as long as somebody keeps renewing: once the deadline
is reached, or if there is none, the keep-alive has expired. Renewals come through `renewUntil`, or
from another process through the stored deadline. **A deadline is never accepted later than one
period after the moment of acceptance**. A stored value is accepted once, when it is first seen, so
that an old store grants no more time; after a restart it is seen for the first time again.
-/

namespace PackGuard

/-- Moments are counted in 64 bits; sums beyond stay at the last one. -/
def addMoments (a b : Nat) : Nat := min (a + b) (UInt64.size - 1)

/-- The keep-alive: its period (0 for off), where the deadline is stored, the deadline, and the
    value last seen in or written to the store. -/
structure KeepAlive where
  period : Nat
  path : Option String
  deadline : Option Nat := none
  seen : Option Nat := none
deriving DecidableEq, Repr

namespace KeepAlive

/-- A keep-alive without a deadline. -/
def new (s : KeepAliveSettings) : KeepAlive := { period := s.period, path := s.path }

def enabled (k : KeepAlive) : Bool := 0 < k.period

/-- Whether the deadline is reached or missing. -/
def expired (k : KeepAlive) (now : Nat) : Bool := k.enabled && k.deadline.all (· ≤ now)

/-- The time left, unless the keep-alive is off. -/
def remaining (k : KeepAlive) (now : Nat) : Option Nat :=
  if k.enabled then some ((k.deadline.map (· - now)).getD 0) else none

/-- The latest deadline that is accepted now. -/
def latest (k : KeepAlive) (now : Nat) : Nat := addMoments now k.period

/-- Why a keep-alive that is off cannot be renewed. -/
def disabled : Failure := .configInvalid "keep-alive disabled (poll.k = 0)"

/-- Accept a deadline, no later than one period from now, and store it. -/
def renewUntil (k : KeepAlive) (fs : Files) (now deadline : Nat) :
    Except Failure Nat × KeepAlive × Files :=
  if !k.enabled then (.error disabled, k, fs)
  else
    let accepted := min deadline (k.latest now)
    match k.path with
    | none => (.ok accepted, { k with deadline := some accepted }, fs)
    | some path =>
      let (failure, fs) := Deadline.write fs path accepted
      match failure with
      | some f => (.error f, k, fs)
      | none => (.ok accepted, { k with deadline := some accepted, seen := some accepted }, fs)

/-- Renew for a whole period. -/
def renew (k : KeepAlive) (fs : Files) (now : Nat) : Except Failure Nat × KeepAlive × Files :=
  k.renewUntil fs now (k.latest now)

/-- The keep-alive after a value was read from the store: a value not seen before is accepted, no
    later than one period from now; a store that is gone leaves the deadline. -/
def accept (k : KeepAlive) (now : Nat) (stored : Option Nat) : KeepAlive :=
  if stored = k.seen then k
  else match stored with
    | none => { k with seen := none }
    | some d => { k with seen := some d, deadline := some (min d (k.latest now)) }

/-- Look for a renewal in the store: whether the deadline changed. -/
def refresh (k : KeepAlive) (fs : Files) (now : Nat) : Except Failure Bool × KeepAlive :=
  match k.path with
  | none => (.ok false, k)
  | some path =>
    if !k.enabled then (.ok false, k)
    else match Deadline.read fs path with
      | .error f => (.error f, k)
      | .ok stored =>
        let next := k.accept now stored
        (.ok (next.deadline != k.deadline), next)

/-- A keep-alive with what the store holds; a store that cannot be read counts as empty. -/
def load (s : KeepAliveSettings) (fs : Files) (now : Nat) : KeepAlive :=
  ((new s).refresh fs now).2

end KeepAlive

end PackGuard
