import PackGuard.Proofs.Storage.Places
import PackGuard.Proofs.Toml.Line
import PackGuard.Storage.Deadline

/-!
# A stored deadline is read back

* `ofText_document`: the document of a deadline holds this deadline, or the greatest number.
* `read_eq_ok_some_iff`: **a deadline is read where a text stands that holds it**;
  `readText_of_holds`: nothing but the content of the file decides which.
* `holds_writeAtomic`: a file that was replaced without a fault stands with its new content.
* `read_write`: **what was stored without a fault is read back.**
-/

namespace PackGuard

namespace Files

variable {fs fs' : Files} {path : String} {content : ByteArray}

/-- **A file that was replaced without a fault stands with its new content**, also where it is its
    own temporary file. -/
theorem holds_writeAtomic (replaced : fs.writeAtomic path content = (none, fs')) :
    ∃ q, fs'.Holds path q content := by
  unfold writeAtomic at replaced
  cases created : fs.create (temporary path) with
  | error fault => simp [created] at replaced
  | ok emptied =>
      cases target : emptied.writable (temporary path) with
      | error fault => simp [created, write, target, Except.map] at replaced
      | ok p =>
          cases renamed : (emptied.put p (.file content)).rename (temporary path) path with
          | error fault => simp [created, write, target, Except.map, renamed] at replaced
          | ok result =>
              obtain ⟨q, -, -, holds⟩ := holds_rename (holds_put target content) renamed
              obtain rfl : result = fs' := by
                simpa [created, write, target, Except.map, renamed] using replaced
              exact ⟨q, holds⟩

end Files

namespace Deadline

open Files

variable {fs fs' : Files} {path : String} {p q : List String} {content : ByteArray}

/-! ## 1. The document of a deadline -/

/-- A text is the text of its bytes. -/
theorem fromUTF8?_toUTF8 (s : String) : String.fromUTF8? s.toUTF8 = some s := by
  simp [String.fromUTF8?, String.fromUTF8, s.isValidUTF8]

theorem document_eq (deadline : Nat) :
    document deadline =
      String.ofList ("deadline_ms".toList ++ Toml.assignment (min deadline greatest)) := by
  apply String.toList_inj.1
  simp [document, Toml.assignment, Toml.figures]

/-- **The document of a deadline holds this deadline**, or the greatest number a document can
    hold. -/
theorem ofText_document (path : String) (deadline : Nat) :
    ofText path (document deadline) = .ok (min deadline greatest) := by
  have fitting : Toml.fits (min deadline greatest : Nat) = true := by
    have le : min deadline greatest ≤ 9223372036854775807 := Nat.min_le_right _ _
    simp only [Toml.fits, Bool.and_eq_true, decide_eq_true_eq]
    omega
  have bare := List.all_eq_true.1 (show "deadline_ms".toList.all Toml.isBareKeyChar = true by decide)
  have read := Toml.document?_line "deadline_ms".toList (by simp) bare fitting
  rw [← document_eq] at read
  generalize min deadline greatest = stored at read ⊢
  simp [ofText, Toml.freeDocument?, read, Toml.entryMoments?, Toml.Value.readMoments?, ofDocument?,
    Toml.Value.get?, Toml.Value.integer?]

/-! ## 2. What is read -/

/-- A deadline is read where a text stands that holds it. -/
theorem read_eq_ok_some_iff {d : Nat} :
    read fs path = .ok (some d) ↔ ∃ text, fs.readText path = .ok text ∧ ofText path text = .ok d := by
  unfold read
  cases fs.readText path with
  | error fault => cases fault <;> simp
  | ok text => cases h : ofText path text <;> simp [Except.map, h]

theorem readText_of_holds (h : fs.Holds path p content) :
    fs.readText path = match String.fromUTF8? content with
      | some text => .ok text
      | none => .error .notText := by
  have bytes := read_eq_ok_iff.2 ⟨p, h⟩
  cases found : String.fromUTF8? content <;> simp [readText, bytes, found]

/-- Where a deadline is read, a file stands. -/
theorem exists_holds {d : Nat} (found : read fs path = .ok (some d)) :
    ∃ p content, fs.Holds path p content := by
  obtain ⟨text, read, -⟩ := read_eq_ok_some_iff.1 found
  unfold readText at read
  cases bytes : fs.read path with
  | error fault => simp [bytes] at read
  | ok content =>
      obtain ⟨p, holds⟩ := read_eq_ok_iff.1 bytes
      exact ⟨p, content, holds⟩

theorem read_of_document {deadline : Nat} (h : fs.Holds path p (document deadline).toUTF8) :
    read fs path = .ok (some (min deadline greatest)) :=
  read_eq_ok_some_iff.2 ⟨document deadline, by rw [readText_of_holds h, fromUTF8?_toUTF8],
    ofText_document path deadline⟩

/-- **A deadline that was stored without a fault is read back.** -/
theorem read_write {deadline : Nat} (stored : (write fs path deadline).1 = none) :
    read (write fs path deadline).2 path = .ok (some (min deadline greatest)) := by
  unfold write at stored ⊢
  generalize replaced : fs.writeAtomic path (document deadline).toUTF8 = result at stored ⊢
  obtain ⟨fault, fs'⟩ := result
  obtain rfl : fault = none := Option.map_eq_none_iff.1 stored
  obtain ⟨q, holds⟩ := holds_writeAtomic replaced
  exact read_of_document holds

end Deadline

end PackGuard
