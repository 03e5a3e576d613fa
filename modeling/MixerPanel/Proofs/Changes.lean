import Mathlib.Tactic.SplitIfs
import MixerPanel.Proofs.Reading
import MixerPanel.Store.Basic

/-!
# Changes of the store

A change works on the store in place, so what it did before it failed would stay done.  None does
anything by then: a document is read, and a patch is applied to a copy, before the first field is
assigned.

* `Store.install` — what comes of a store when a status is put into place
* `Store.written_replaceDocument`, `Store.written_applyPatch`, `Store.written_select` — what comes
  of it under each change, whether the change fails or not
* `Store.Attempt.AllOrNothing` — an attempt that fails has done nothing; so it is with all three
* `Store.replaceStatus`, `Store.replaceDocument`, `Store.applyPatch`, `Store.select` — what comes of
  a change that succeeds
* `Store.Attempt.AllOrNothing.written_of_failure` — nothing comes of one that fails
-/

namespace MixerPanel

namespace Store

/-! ## What comes of a change -/

/-- What comes of a store when a status is put into place, with its document if it came as one. -/
def install (s : Store) (status : Status) (raw : Option Json) : Update :=
  let next : Store := { s with
    status := status
    raw := raw
    activeSerial := reselect status s.activeSerial }
  let changed := s.activeSerial ≠ next.activeSerial ∨ s.activeModel ≠ next.activeModel
  { store := next
    log := [Log.debug ("Status replaced: " ++ toString status.devices.length ++
      " device(s), active " ++ Text.quotedOption next.activeSerial)]
    events := .statusReplaced ::
      (if changed then [.activeDeviceChanged s.activeSerial next.activeSerial] else []) }

/-- **Step by step** a status comes into place as a whole. -/
theorem written_install (s : Store) (status : Status) :
    s.written (Writing.install status) = ((), s.install status s.raw) := by
  simp only [written, Writing.install, install, StateT.run_bind, StateT.run_get, pure_bind,
    Writing.run_assign, Writing.run_note, Writing.run_tell, unchanged]
  split_ifs with changed
  · rfl
  · rfl

theorem written_replaceStatus (s : Store) (status : Status) :
    s.written (Writing.replaceStatus status) = ((), s.install status none) :=
  written_install { s with raw := none } status

theorem written_replaceDocument (s : Store) (document : Json) :
    s.written (Writing.replaceDocument document).run
      = match Status.ofValue document with
        | .ok status => (.ok (), s.install status (some document))
        | .error e => (.error e, s.unchanged) := by
  unfold Writing.replaceDocument
  cases Status.ofValue document with
  | error e => rfl
  | ok status =>
      have installed := written_install { s with raw := some document } status
      exact congrArg (fun done : Unit × Update => (Except.ok (), done.2)) installed

theorem written_applyPatch (s : Store) (patch : Json.Patch) :
    s.written (Writing.applyPatch patch).run
      = match patch.apply s.document with
        | .ok document => s.written (Writing.replaceDocument document).run
        | .error e => (.error (.patchFailed e), s.unchanged) := by
  rw [written, Writing.applyPatch, Attempt.run_get_bind, unchanged_store]
  cases patch.apply s.document with
  | error e => rfl
  | ok document => rfl

theorem written_select (s : Store) (serial : String) :
    s.written (Writing.select serial).run
      = if (s.status.device? serial).isNone then (.error (.unknownDevice serial), s.unchanged)
        else if s.activeSerial = some serial then (.ok (), s.unchanged)
        else
          (.ok (),
            { store := { s with activeSerial := some serial }
              log := [Log.info ("Active device changed to " ++ serial)]
              events := [.activeDeviceChanged s.activeSerial (some serial)] }) := by
  rw [written, Writing.select, Attempt.run_get_bind, unchanged]
  dsimp only
  split
  · rfl
  · split
    · rfl
    · rfl

/-! ## All or nothing -/

/-- Where an attempt fails, the store is as it was, nothing is logged and nobody is told. -/
def Attempt.AllOrNothing (attempt : Attempt Unit) : Prop :=
  ∀ (s : Store) (e : StatusError), (s.written attempt.run).1 = .error e →
    (s.written attempt.run).2 = s.unchanged

/-- **A document that is refused** leaves nothing behind. -/
theorem allOrNothing_replaceDocument (document : Json) :
    (Writing.replaceDocument document).AllOrNothing := by
  intro s e failed
  rw [written_replaceDocument] at failed ⊢
  cases read : Status.ofValue document with
  | ok status => simp [read] at failed
  | error _ => rfl

/-- **A patch that fails** leaves nothing behind, be it that it does not apply or that the document
it leads to is refused. -/
theorem allOrNothing_applyPatch (patch : Json.Patch) :
    (Writing.applyPatch patch).AllOrNothing := by
  intro s e failed
  rw [written_applyPatch] at failed ⊢
  cases patched : patch.apply s.document with
  | error _ => rfl
  | ok document =>
      rw [patched] at failed
      exact allOrNothing_replaceDocument document s e failed

/-- What a change that cannot fail comes to, as one that may. -/
theorem written_lift (s : Store) (writing : Writing Unit) :
    s.written (liftM writing : Attempt Unit).run = (.ok (), (s.written writing).2) := rfl

theorem allOrNothing_lift (writing : Writing Unit) :
    (liftM writing : Attempt Unit).AllOrNothing := by
  intro s e failed
  rw [written_lift] at failed
  cases failed

theorem allOrNothing_select (serial : String) : (Writing.select serial).AllOrNothing := by
  intro s e failed
  rw [written_select] at failed ⊢
  split_ifs at failed ⊢
  rfl

/-! ## Changes that succeed -/

/-- What comes of a change that succeeds, or why it fails. -/
def success {ε α : Type} (done : Except ε α × Update) : Except ε Update :=
  done.1.map fun _ => done.2

section Success

variable {s : Store} {attempt : Attempt Unit} {update : Update} {e : StatusError}

theorem written_of_success (succeeds : success (s.written attempt.run) = .ok update) :
    s.written attempt.run = (.ok (), update) := by
  rcases done : s.written attempt.run with ⟨_ | ⟨⟩, after⟩
  · simp [success, done, Except.map] at succeeds
  · rw [done] at succeeds
    have same : after = update := Except.ok.inj succeeds
    rw [same]

/-- **Nothing but an error** comes of an attempt that fails, if it is all or nothing. -/
theorem Attempt.AllOrNothing.written_of_failure (allOrNothing : attempt.AllOrNothing)
    (fails : success (s.written attempt.run) = .error e) :
    s.written attempt.run = (.error e, s.unchanged) := by
  have kept := allOrNothing s e
  rcases done : s.written attempt.run with ⟨reason | _, after⟩
  · rw [done] at fails kept
    obtain rfl := Except.error.inj fails
    have same : after = s.unchanged := kept rfl
    rw [same]
  · simp [success, done, Except.map] at fails

end Success

/-- What comes of a typed status. -/
def replaceStatus (s : Store) (status : Status) : Update :=
  (s.written (Writing.replaceStatus status)).2

/-- What comes of a status document that can be read. -/
def replaceDocument (s : Store) (document : Json) : Except StatusError Update :=
  success (s.written (Writing.replaceDocument document).run)

/-- What comes of a patch that is taken. -/
def applyPatch (s : Store) (patch : Json.Patch) : Except StatusError Update :=
  success (s.written (Writing.applyPatch patch).run)

/-- What comes of the choice of a device that is listed. -/
def select (s : Store) (serial : String) : Except StatusError Update :=
  success (s.written (Writing.select serial).run)

theorem replaceDocument_eq (s : Store) (document : Json) :
    s.replaceDocument document
      = (Status.ofValue document).map fun status => s.install status (some document) := by
  rw [replaceDocument, written_replaceDocument]
  cases Status.ofValue document <;> rfl

theorem applyPatch_eq (s : Store) (patch : Json.Patch) :
    s.applyPatch patch = (patch.apply s.document).mapError .patchFailed >>= s.replaceDocument := by
  rw [applyPatch, written_applyPatch]
  cases patch.apply s.document <;> rfl

/-- **A document is taken** if it is accepted, and it is in place then. -/
theorem replaceDocument_eq_ok_iff {s : Store} {document : Json} {update : Update} :
    s.replaceDocument document = .ok update ↔ ∃ status,
      Status.ofValue document = .ok status ∧ update = s.install status (some document) := by
  simp only [replaceDocument_eq, map_eq_ok_iff, eq_comm (b := update)]

/-- **A patch is taken** if it applies to the document and what comes of it is accepted, which is
then in place. -/
theorem applyPatch_eq_ok_iff {s : Store} {patch : Json.Patch} {update : Update} :
    s.applyPatch patch = .ok update ↔ ∃ document status,
      patch.apply s.document = .ok document ∧ Status.ofValue document = .ok status ∧
        update = s.install status (some document) := by
  simp only [applyPatch_eq, bind_eq_ok_iff, mapError_eq_ok_iff, replaceDocument_eq_ok_iff,
    exists_and_left]

theorem select_eq (s : Store) (serial : String) :
    s.select serial
      = if (s.status.device? serial).isNone then .error (.unknownDevice serial)
        else if s.activeSerial = some serial then .ok s.unchanged
        else
          .ok
            { store := { s with activeSerial := some serial }
              log := [Log.info ("Active device changed to " ++ serial)]
              events := [.activeDeviceChanged s.activeSerial (some serial)] } := by
  rw [select, written_select]
  split_ifs <;> rfl

end Store

end MixerPanel
