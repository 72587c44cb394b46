import PackGuard.Label

/-!
# Why an operation fails

* `DeviceFault`: what a device link reports.
* `Failure`: why an operation of the controller fails.
* `BuildFailure`: why no controller can be assembled.
* `LinkFault`: anything that a sensor link or an output may answer with. `Failure.ofSensor` and
  `Failure.ofOutput` are the failures these become.

Each has one text, given by its `message`.
-/

namespace PackGuard

/-! ## 1. Kinds of failure -/

/-- A failure of a device link. -/
inductive DeviceFault where
  | gpio (text : String)
  | timeout (channel : Channel)
  | noSuchChannel (channel : Channel)
  | linkDown
  | io (text : String)
deriving DecidableEq, Repr

def DeviceFault.message : DeviceFault → String
  | gpio text => "gpio error: " ++ text
  | timeout ch => "sensor timeout on " ++ ch.label
  | noSuchChannel ch => "no such channel: " ++ ch.label
  | linkDown => "link down"
  | io text => "io: " ++ text

/-- A failure of an operation of the controller. -/
inductive Failure where
  | sensorUnavailable (text : String)
  | channelStale (channel : Channel)
  | limitExceeded (kind : FaultKind)
  | keepAliveExpired
  | configInvalid (text : String)
  | relay (text : String)
  | io (text : String)
  | state (text : String)
deriving DecidableEq, Repr

namespace Failure

def message : Failure → String
  | sensorUnavailable text => "sensor unavailable: " ++ text
  | channelStale ch => "channel stale: " ++ ch.label
  | limitExceeded kind => "limit exceeded: " ++ kind.label
  | keepAliveExpired => "keep-alive expired"
  | configInvalid text => "invalid configuration: " ++ text
  | relay text => "relay output error: " ++ text
  | io text => "io error: " ++ text
  | state text => "invalid state: " ++ text

/-- The short name of a kind of failure. -/
def name : Failure → String
  | sensorUnavailable _ => "SensorUnavailable"
  | channelStale _ => "ChannelStale"
  | limitExceeded _ => "LimitExceeded"
  | keepAliveExpired => "KeepAliveExpired"
  | configInvalid _ => "ConfigInvalid"
  | relay _ => "Relay"
  | io _ => "Io"
  | state _ => "State"

end Failure

/-- Why no controller can be assembled. -/
inductive BuildFailure where
  | missingRelay
  | missingBalancer
  | missingConfig
  | invalidConfig (text : String)
deriving DecidableEq, Repr

namespace BuildFailure

def message : BuildFailure → String
  | missingRelay => "missing relay output"
  | missingBalancer => "missing balance output"
  | missingConfig => "missing configuration"
  | invalidConfig text => "invalid config: " ++ text

/-- The short name of a kind of build failure. -/
def name : BuildFailure → String
  | missingRelay => "MissingRelay"
  | missingBalancer => "MissingBalancer"
  | missingConfig => "MissingConfig"
  | invalidConfig _ => "InvalidConfig"

end BuildFailure

/-! ## 2. What links and outputs answer -/

/-- The failure of a sensor link or an output: one of the known kinds, a failure of the operating
    system, or a plain text. -/
inductive LinkFault where
  | device (fault : DeviceFault)
  | failure (failure : Failure)
  | system (text : String)
  | text (text : String)
deriving DecidableEq, Repr

def LinkFault.message : LinkFault → String
  | device f => f.message
  | failure f => f.message
  | system t => t
  | text t => t

namespace Failure

/-- What a failed sensor reading becomes: a failure of the controller's own kinds stays what it is,
    all else means that the sensor is unavailable. -/
def ofSensor : LinkFault → Failure
  | .device (.timeout ch) => sensorUnavailable ("timeout on " ++ ch.label)
  | .failure f => f
  | f => sensorUnavailable f.message

/-- What a failed command to an output becomes. -/
def ofOutput : LinkFault → Failure
  | .device (.io text) => io text
  | f => relay f.message

end Failure

end PackGuard
