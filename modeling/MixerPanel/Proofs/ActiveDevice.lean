import MixerPanel.Proofs.Calls

/-!
# The active device

The store keeps the serial of the active device apart from the list of devices, so every writer has
to restore the link between the two.  It does so by `Store.reselect`: the serial stays if a device
has it, otherwise that of the first device takes its place.

* `Store.Marked` — the mark is on a listed device, or there is no device to mark
* `Store.marked_of_served` — every call that is served keeps it so
* `Store.Call.Brings`, `Store.install_of_served` — what a status update brings, and that it is put
  into place
* `Desk.activeSerial_step` — when the mark moves, and where to
* `active_device_invariant` — the three together, for every run from the empty store

The serials themselves may be repeated as long as typed statuses that repeat one are installed; the
mark then stands for the first device that has it.
-/

namespace MixerPanel

namespace Store

/-- The active serial is that of a listed device; there is none only if no device is listed. -/
def Marked (s : Store) : Prop :=
  match s.activeSerial with
  | none => s.devices = []
  | some serial => (s.status.device? serial).isSome

theorem marked_empty : empty.Marked := rfl

/-! ## Where the mark goes -/

theorem reselect_of_listed {status : Status} {serial : String}
    (listed : ∃ d ∈ status.devices, d.serial = serial) :
    reselect status (some serial) = some serial := by
  simp [reselect, Status.device?_isSome_iff.mpr listed]

theorem reselect_of_unlisted {status : Status} {before : Option String}
    (unlisted : ∀ serial, before = some serial → ∀ d ∈ status.devices, d.serial ≠ serial) :
    reselect status before = firstSerial status := by
  cases before with
  | none => rfl
  | some serial =>
      have unknown : ¬ (status.device? serial).isSome := by
        rw [Status.device?_isSome_iff]
        rintro ⟨d, mem, same⟩
        exact unlisted serial rfl d mem same
      simp [reselect, unknown]

/-- Whatever was marked before, the new mark is on a device of the new status. -/
theorem marked_install (s : Store) (status : Status) (raw : Option Json) :
    (s.install status raw).store.Marked := by
  -- the serial that is fallen back on is that of the first device, if there is one
  have first : ∀ before, reselect status before = firstSerial status →
      match reselect status before with
      | none => status.devices = []
      | some serial => (status.device? serial).isSome := by
    intro before fallback
    rw [fallback]
    cases devices : status.devices with
    | nil => simp [firstSerial, devices]
    | cons d rest => simp [firstSerial, devices, Status.device?]
  show match reselect status s.activeSerial with
    | none => status.devices = []
    | some serial => (status.device? serial).isSome
  cases marked : s.activeSerial with
  | none => exact first none rfl
  | some serial =>
      by_cases listed : (status.device? serial).isSome
      · simp [reselect, listed]
      · exact first (some serial) (by simp [reselect, listed])

/-- **Every call that is served keeps the mark on a listed device.** -/
theorem marked_of_served {s : Store} {call : Call} {update : Update}
    (served : s.serve call = .ok update) (marked : s.Marked) : update.store.Marked := by
  have ended := s.served call
  rw [served] at ended
  cases ended with
  | installed writes document reads checked => exact marked_install s _ _
  | selected log isSelect listed => exact listed
  | listening isListening => exact marked

/-- The status that a call brings to a store with a document: the one that it is made with, or the
one that its document or the patched document is accepted as. -/
inductive Call.Brings (before : Json) : Call → Status → Prop where
  | typed (status : Status) : Brings before (.replaceStatus status) status
  | read {document : Json} {status : Status} (accepted : Status.ofValue document = .ok status) :
      Brings before (.replaceDocument document) status
  | patched {patch : Json.Patch} {document : Json} {status : Status}
      (applied : patch.apply before = .ok document)
      (accepted : Status.ofValue document = .ok status) : Brings before (.applyPatch patch) status

/-- **A status update puts into place what it brings**, and selects among it. -/
theorem install_of_served {s : Store} {call : Call} {update : Update}
    (served : s.serve call = .ok update) (writes : call.writes = true) :
    ∃ status raw, call.Brings s.document status ∧ update = s.install status raw := by
  cases call with
  | replaceStatus status =>
      rw [serve_replaceStatus] at served
      exact ⟨status, none, .typed status, (Except.ok.inj served).symm⟩
  | replaceDocument document =>
      obtain ⟨status, accepted, installed⟩ := replaceDocument_eq_ok_iff.mp served
      exact ⟨status, some document, .read accepted, installed⟩
  | applyPatch patch =>
      obtain ⟨document, status, applied, accepted, installed⟩ := applyPatch_eq_ok_iff.mp served
      exact ⟨status, some document, .patched applied accepted, installed⟩
  | select _ | subscribe | unsubscribe _ => cases writes

/-- What the mark being on a listed device means for those who ask for the device. -/
theorem active_of_marked {s : Store} (marked : s.Marked) :
    (s.activeSerial = none ↔ s.devices = []) ∧
      ∀ serial, s.activeSerial = some serial → ∃ before device after,
        s.devices = before ++ device :: after ∧ device.serial = serial ∧
        (∀ earlier ∈ before, earlier.serial ≠ serial) ∧
        s.active = some device ∧ activeDevice s = some device := by
  cases active : s.activeSerial with
  | none => simpa [Marked, active] using marked
  | some serial =>
      have found : (s.status.device? serial).isSome := by simpa [Marked, active] using marked
      obtain ⟨device, isDevice⟩ := Option.isSome_iff_exists.mp found
      obtain ⟨before, after, split, same, none⟩ := Status.device?_eq_some_iff.mp isDevice
      have isActive : s.active = some device := by simp [Store.active, active, isDevice]
      refine ⟨by simp [devices, split], ?_⟩
      rintro _ ⟨⟩
      exact ⟨before, device, after, split, same, none, isActive, isActive⟩

/-- Documents are checked before they are installed, so only a typed status can repeat a serial. -/
theorem serialsDistinct_of_served {s : Store} {call : Call} {update : Update}
    (allowed : ∀ status, call = .replaceStatus status → status.SerialsDistinct)
    (served : s.serve call = .ok update) (distinct : s.status.SerialsDistinct) :
    update.store.status.SerialsDistinct := by
  have ended := s.served call
  rw [served] at ended
  cases ended with
  | installed writes document reads checked =>
      rcases checked with isTyped | distinctNow
      · exact allowed _ isTyped
      · exact distinctNow
  | selected log isSelect listed => exact distinct
  | listening isListening => exact distinct

end Store

namespace Desk

/-- **When the mark moves, and where to**: a status update puts the new status into place and
selects among it, a selection that succeeds moves the mark to the device it names, and nothing else
moves it. -/
theorem activeSerial_step (d : Desk) (operation : Operation) :
    let o := d.step operation
    (operation.installs o.reply = true → ∃ call status,
      d.session.call? operation = some call ∧ call.Brings d.store.document status ∧
      o.desk.store.status = status ∧
      o.desk.store.activeSerial = Store.reselect status d.store.activeSerial) ∧
    (∀ serial reply, operation = .select serial → o.reply = .ok reply →
      o.desk.store.activeSerial = some serial) ∧
    (operation.installs o.reply = false →
      (∀ serial reply, operation = .select serial → o.reply ≠ .ok reply) →
      o.desk.store.activeSerial = d.store.activeSerial) := by
  intro o
  cases asked : d.session.call? operation with
  | none =>
      obtain ⟨store, -, installs⟩ := step_of_no_call asked
      refine ⟨?_, ?_, ?_⟩
      · intro installed
        rw [installs] at installed
        cases installed
      · rintro serial reply rfl
        cases asked
      · intro _ _
        rw [store]
  | some call =>
      have ended := d.store.served call
      cases outcome : d.store.serve call with
      | error e =>
          obtain ⟨store, -, reply⟩ := step_of_refused asked outcome
          refine ⟨?_, ?_, ?_⟩
          · simp [o, reply]
          · simp [o, reply]
          · intro _ _
            rw [store]
      | ok update =>
          obtain ⟨store, -, answer, reply, installs⟩ := step_of_call asked outcome
          rw [outcome] at ended
          -- A selection is the call it asks for, so that each way to end tells the clauses apart.
          have noSelect : call.writes = true → ∀ serial, operation ≠ .select serial := by
            rintro writes serial rfl
            obtain rfl := Option.some.inj asked
            simp [Store.Call.writes] at writes
          simp only [o, store, reply, installs]
          cases ended with
          | installed writes document reads checked =>
              refine ⟨fun _ => ?_, ?_, ?_⟩
              · obtain ⟨brought, raw, brings, installed⟩ := Store.install_of_served outcome writes
                rw [installed]
                exact ⟨call, brought, rfl, brings, rfl, rfl⟩
              · intro serial _ isSelect _
                exact absurd isSelect (noSelect writes serial)
              · intro quiet _
                simp [writes] at quiet
          | selected log isSelect listed =>
              obtain rfl := Session.call?_eq_select (isSelect ▸ asked)
              subst isSelect
              refine ⟨by simp [Store.Call.writes], ?_, ?_⟩
              · rintro serial _ ⟨⟩ _
                rfl
              · intro _ unselected
                exact absurd rfl (unselected _ answer rfl)
          | listening isListening =>
              refine ⟨?_, ?_, fun _ _ => rfl⟩
              · intro writes
                rcases isListening with rfl | ⟨id, rfl⟩ <;> simp [Store.Call.writes] at writes
              · rintro serial _ rfl _
                obtain rfl := Option.some.inj asked
                rcases isListening with isSubscribe | ⟨id, isUnsubscribe⟩
                · cases isSubscribe
                · cases isUnsubscribe

end Desk

/-- **The active device.**  After any run of operations on the empty store there is an active serial
exactly if there is a device; it is the serial of a listed device, and the active device is the
first that has it.  The next operation then does one of three things:

* a status update puts into place what it brings, which is the status that it is made with or the
  one that its document or the patched document is accepted as; it keeps the active serial if a
  device of that status has it, and otherwise takes that of the first device of that status, or
  none;
* a selection that succeeds makes the selected serial the active one;
* anything else, failures of the two included, leaves the active serial as it is.

If the typed statuses of the run pass the check, no two devices have the same serial. -/
theorem active_device_invariant (session : Session) (operations : List Desk.Operation) :
    let d := Desk.run ⟨session, .empty⟩ operations
    ((d.store.activeSerial = none ↔ d.store.devices = []) ∧
      ∀ serial, d.store.activeSerial = some serial → ∃ before device after,
        d.store.devices = before ++ device :: after ∧ device.serial = serial ∧
        (∀ earlier ∈ before, earlier.serial ≠ serial) ∧
        d.store.active = some device ∧ activeDevice d.store = some device) ∧
    (∀ operation, let o := d.step operation
      (operation.installs o.reply = true → ∃ call status,
        d.session.call? operation = some call ∧ call.Brings d.store.document status ∧
        o.desk.store.status = status ∧ o.desk.store.devices = status.devices ∧
        (∀ serial, d.store.activeSerial = some serial →
          (∃ device ∈ status.devices, device.serial = serial) →
          o.desk.store.activeSerial = some serial) ∧
        ((∀ serial, d.store.activeSerial = some serial →
          ∀ device ∈ status.devices, device.serial ≠ serial) →
          o.desk.store.activeSerial = status.devices.head?.map Device.serial)) ∧
      (∀ serial reply, operation = .select serial → o.reply = .ok reply →
        o.desk.store.activeSerial = some serial) ∧
      (operation.installs o.reply = false →
        (∀ serial reply, operation = .select serial → o.reply ≠ .ok reply) →
        o.desk.store.activeSerial = d.store.activeSerial)) ∧
    ((∀ status, .replaceStatus status ∈ operations → status.validate = .ok ()) →
      (d.store.devices.map Device.serial).Nodup) := by
  intro d
  have marked : d.store.Marked :=
    Desk.store_run_induction Store.Marked (fun _ => True) Store.marked_empty
      (fun _ _ _ _ served => Store.marked_of_served served) (fun _ _ _ _ _ => trivial)
  refine ⟨Store.active_of_marked marked, ?_, ?_⟩
  · intro operation o
    obtain ⟨updated, selected, otherwise⟩ := d.activeSerial_step operation
    refine ⟨fun installs => ?_, selected, otherwise⟩
    obtain ⟨call, status, asked, brings, installed, reselected⟩ := updated installs
    refine ⟨call, status, asked, brings, installed, congrArg Status.devices installed, ?_, ?_⟩
    · intro serial before listed
      rw [reselected, before]
      exact Store.reselect_of_listed listed
    · intro unlisted
      rw [reselected]
      exact Store.reselect_of_unlisted unlisted
  · intro checked
    have start : Store.empty.status.SerialsDistinct := List.nodup_nil
    refine Desk.store_run_induction (fun s => s.status.SerialsDistinct)
      (fun call => ∀ status, call = .replaceStatus status → status.SerialsDistinct)
      start (fun _ _ _ allowed served => Store.serialsDistinct_of_served allowed served) ?_
    rintro operation mem asking _ asked status rfl
    obtain rfl := Session.call?_eq_replaceStatus asked
    exact Status.validate_eq_ok_iff.mp (checked status mem)

/-- Three devices are listed, and the second is chosen. -/
def middleChosen : List Desk.Operation :=
  let hardware : Hardware := ⟨"", "", .mini, .zero, []⟩
  [.replaceStatus ⟨[⟨"A", hardware⟩, ⟨"B", hardware⟩, ⟨"C", hardware⟩]⟩, .select "B"]

/-- The active device is unplugged by a patch, and the first of those that are left takes its
place. -/
theorem active_device_unplugged :
    let d := Desk.run ⟨.empty, .empty⟩ middleChosen
    let unplug : Desk.Operation := .applyPatch [.remove "/devices/1"]
    (∀ status, .replaceStatus status ∈ middleChosen → status.validate = .ok ()) ∧
      d.store.activeSerial = some "B" ∧ unplug.installs (d.step unplug).reply = true ∧
      (d.step unplug).desk.store.devices.map Device.serial = ["A", "C"] ∧
      (d.step unplug).desk.store.activeSerial = some "A" := by
  let hardware : Hardware := ⟨"", "", .mini, .zero, []⟩
  let left : Status := ⟨[⟨"A", hardware⟩, ⟨"C", hardware⟩]⟩
  have checked : ∀ status, .replaceStatus status ∈ middleChosen → status.validate = .ok () := by
    intro status mem
    obtain rfl : status = _ := by simpa [middleChosen] using mem
    rfl
  have active : (Desk.run ⟨.empty, .empty⟩ middleChosen).store.activeSerial = some "B" := by decide
  have installs : Desk.Operation.installs (.applyPatch [.remove "/devices/1"])
      ((Desk.run ⟨.empty, .empty⟩ middleChosen).step (.applyPatch [.remove "/devices/1"])).reply
        = true := by
    decide +kernel
  have patched : Json.Patch.apply (Desk.run ⟨.empty, .empty⟩ middleChosen).store.document
      [.remove "/devices/1"] = .ok left.toValue := by
    rfl
  have accepted : Status.ofValue left.toValue = .ok left := by decide
  have steps := (active_device_invariant .empty middleChosen).2.1
  -- what the run was is of no more use, and Lean would compute it over and over
  generalize Desk.run ⟨.empty, .empty⟩ middleChosen = d at *
  obtain ⟨call, status, asked, brings, -, devices, -, fallback⟩ := (steps _).1 installs
  obtain rfl : .applyPatch [.remove "/devices/1"] = call := Option.some.inj asked
  -- the status is what the patched document is accepted as, whatever the store makes of it
  obtain rfl : status = left := by
    cases brings with
    | patched applied read =>
        obtain rfl := Except.ok.inj (applied.symm.trans patched)
        exact Except.ok.inj (read.symm.trans accepted)
  refine ⟨checked, active, installs, congrArg (List.map Device.serial) devices,
    fallback fun serial marked => ?_⟩
  obtain rfl := Option.some.inj (marked.symm.trans active)
  decide

end MixerPanel
