import MixerPanel.Device.Capability
import MixerPanel.Proofs.ActiveDevice
import MixerPanel.Proofs.ReadFrom

/-!
# The small model and the document

What may be offered depends on whether the active device is of the small model.  The question is
asked of the store, which answers from its typed status and its mark; the answer is meant to follow
the document, where a patch may at any time change the model of the active device, move the device
in the list, or take it out.

The store is `Settled`: its status is what is read from its document, its mark is on a listed
device, and no serial is repeated.  Every run keeps it so.  In a settled store with a plain
document, each entry of the document describes the device in the same place
(`Status.describes_of_read`), and the answers are read off the one entry that has the active serial.

* `Store.Settled`, `Desk.settled_run` — what holds of the store after every run
* `Desk.installed` — the documents that a run puts into place, and `Desk.document_run`, that the
  document of the store is the last of them
* `Store.entry_of_active` — the entry of the active device
* `mini_query_follows_document` — the answers, in terms of the document
-/

namespace MixerPanel

/-! ## The questions -/

section Questions

variable {σ : Type} [HasActiveDevice σ] {source : σ}

theorem isMini_eq_error_iff :
    isMini source = .error .noActiveDevice ↔ activeDevice source = none := by
  cases active : activeDevice source <;> simp [isMini, active]

theorem capabilities_eq_error_iff :
    capabilities source = .error .noActiveDevice ↔ activeDevice source = none := by
  cases active : activeDevice source <;> simp [capabilities, active]

theorem isMini_of_active {d : Device} (active : activeDevice source = some d) :
    isMini source = .ok d.model.isMini := by
  simp only [isMini, active]

theorem capabilities_of_active {d : Device} (active : activeDevice source = some d) :
    capabilities source = .ok (Capabilities.of d.hardware) := by
  simp only [capabilities, active]

end Questions

theorem Model.isMini_eq_true_iff {m : Model} : m.isMini = true ↔ m = .mini := beq_iff_eq

/-! ## Lists in step -/

section Related

variable {α β : Type} {R : α → β → Prop} {xs : List α} {ys : List β}

theorem exists_related_of_mem (related : List.Forall₂ R xs ys) {x : α} (mem : x ∈ xs) :
    ∃ y ∈ ys, R x y := by
  induction related with
  | nil => cases mem
  | cons first _ ih =>
      rcases List.mem_cons.mp mem with rfl | later
      · exact ⟨_, List.mem_cons_self, first⟩
      · obtain ⟨y, mem, isRelated⟩ := ih later
        exact ⟨y, List.mem_cons_of_mem _ mem, isRelated⟩

/-- A split of one list is one of the other. -/
theorem exists_split_of_related {before after : List β} {y : β}
    (related : List.Forall₂ R xs (before ++ y :: after)) :
    ∃ front x back, xs = front ++ x :: back ∧ R x y ∧
      List.Forall₂ R (front ++ back) (before ++ after) := by
  have front := List.forall₂_take_append _ _ _ related
  have rest := List.forall₂_drop_append _ _ _ related
  obtain ⟨x, back, isRelated, others, split⟩ := List.forall₂_cons_right_iff.mp rest
  refine ⟨xs.take before.length, x, back, ?_, isRelated, List.rel_append front others⟩
  rw [← split, List.take_append_drop]

end Related

/-! ## Settled stores -/

namespace Store

/-- The status is read from the document, the mark is on a listed device, and no serial is
repeated. -/
structure Settled (s : Store) : Prop where
  coherent : s.Coherent
  marked : s.Marked
  distinct : s.status.SerialsDistinct

theorem settled_empty : empty.Settled := ⟨coherent_empty, marked_empty, List.nodup_nil⟩

theorem settled_of_served {s : Store} {call : Call} {update : Update}
    (allowed : ∀ status, call = .replaceStatus status → status.SerialsDistinct)
    (served : s.serve call = .ok update) (settled : s.Settled) : update.store.Settled where
  coherent := (document_of_served served settled.coherent).2
  marked := marked_of_served served settled.marked
  distinct := serialsDistinct_of_served allowed served settled.distinct

/-- A call that writes nothing leaves the document alone. -/
theorem document_of_quiet {s : Store} {call : Call} {update : Update}
    (served : s.serve call = .ok update) (quiet : call.writes = false) :
    update.store.document = s.document := by
  have ended := s.served call
  rw [served] at ended
  cases ended with
  | installed writes document reads checked => simp [quiet] at writes
  | selected log isSelect listed => rfl
  | listening isListening => rfl

/-- No device is marked exactly if none is listed in the document. -/
theorem activeSerial_eq_none_iff {s : Store} (settled : s.Settled)
    (plain : Status.PlainDocument s.document) :
    s.activeSerial = none ↔ s.document.items ["devices"] = [] := by
  have lengths := (Status.describes_of_read settled.coherent plain).length_eq
  rw [(active_of_marked settled.marked).1, ← List.length_eq_zero_iff, ← List.length_eq_zero_iff,
    lengths]
  rfl

theorem active_eq_none_iff {s : Store} (settled : s.Settled)
    (plain : Status.PlainDocument s.document) :
    activeDevice s = none ↔ s.document.items ["devices"] = [] := by
  rw [← activeSerial_eq_none_iff settled plain]
  cases isSerial : s.activeSerial with
  | none => simp [active, isSerial]
  | some serial =>
      obtain ⟨-, device, -, -, -, -, isActive, -⟩ :=
        (active_of_marked settled.marked).2 serial isSerial
      simp [isActive]

/-- **The entry of the active device.**  If a device is listed, exactly one entry of a plain
document has the active serial, and it describes the active device. -/
theorem entry_of_active {s : Store} (settled : s.Settled)
    (plain : Status.PlainDocument s.document) (listed : s.document.items ["devices"] ≠ []) :
    ∃ serial before entry after device,
      s.activeSerial = some serial ∧
      s.document.items ["devices"] = before ++ entry :: after ∧
      entry.get? ["serial"] = some (.string serial) ∧
      (∀ other ∈ before ++ after, other.get? ["serial"] ≠ some (.string serial)) ∧
      activeDevice s = some device ∧ Device.Describes entry device := by
  have describes := Status.describes_of_read settled.coherent plain
  have marked : s.activeSerial ≠ none := mt (activeSerial_eq_none_iff settled plain).mp listed
  obtain ⟨serial, isSerial⟩ := Option.ne_none_iff_exists'.mp marked
  obtain ⟨before, device, after, split, same, -, -, isActive⟩ :=
    (active_of_marked settled.marked).2 serial isSerial
  have inPlace : s.status.devices = before ++ device :: after := split
  rw [inPlace] at describes
  obtain ⟨front, entry, back, entries, isDescribed, others⟩ := exists_split_of_related describes
  refine ⟨serial, front, entry, back, device, isSerial, entries, same ▸ isDescribed.serial, ?_,
    isActive, isDescribed⟩
  -- another entry with the serial would describe another device with it
  intro other mem hasSerial
  obtain ⟨d, isOther, describesOther⟩ := exists_related_of_mem others mem
  have again : d.serial = device.serial := by
    have both := describesOther.serial.symm.trans hasSerial
    rw [Option.some.injEq, Json.string.injEq] at both
    rw [both, same]
  have distinct : ((before ++ device :: after).map Device.serial).Nodup :=
    inPlace ▸ settled.distinct
  rw [List.map_append, List.map_cons, List.nodup_middle, ← List.map_append, List.nodup_cons]
    at distinct
  exact distinct.1 (List.mem_map.mpr ⟨d, isOther, again⟩)

end Store

namespace Desk

/-- After a run whose typed statuses pass the check the store is settled. -/
theorem settled_run {session : Session} {operations : List Operation}
    (checked : ∀ status, .replaceStatus status ∈ operations → status.validate = .ok ()) :
    (run ⟨session, .empty⟩ operations).store.Settled := by
  refine store_run_induction Store.Settled
    (fun call => ∀ status, call = .replaceStatus status → status.SerialsDistinct)
    Store.settled_empty (fun _ _ _ allowed served => Store.settled_of_served allowed served) ?_
  rintro operation mem asking _ asked status rfl
  obtain rfl := Session.call?_eq_replaceStatus asked
  exact Status.validate_eq_ok_iff.mp (checked status mem)

/-- The documents that a run puts into place, in their order. -/
def installed (d : Desk) (operations : List Operation) : List Json :=
  noted (fun d operation =>
    let o := d.step operation
    if operation.installs o.reply then [o.desk.store.document] else []) d operations

section Installed

variable {d : Desk} {operation : Operation} (rest : List Operation)

theorem installed_of_installs (installs : operation.installs (d.step operation).reply = true) :
    d.installed (operation :: rest)
      = (d.step operation).desk.store.document :: (d.step operation).desk.installed rest := by
  rw [installed, noted_cons, if_pos installs]
  rfl

theorem installed_of_not_installs (quiet : operation.installs (d.step operation).reply = false) :
    d.installed (operation :: rest) = (d.step operation).desk.installed rest := by
  rw [installed, noted_cons, if_neg (ne_true_of_eq_false quiet)]
  rfl

end Installed

/-- An operation that puts no document into place leaves the one that is there. -/
theorem document_step_of_not_installs {d : Desk} {operation : Operation}
    (quiet : operation.installs (d.step operation).reply = false) :
    (d.step operation).desk.store.document = d.store.document := by
  cases asked : d.session.call? operation with
  | none => rw [(step_of_no_call asked).1]
  | some call =>
      cases outcome : d.store.serve call with
      | error e => rw [(step_of_refused asked outcome).1]
      | ok update =>
          obtain ⟨store, -, answer, reply, installs⟩ := step_of_call asked outcome
          rw [reply, installs] at quiet
          rw [store]
          exact Store.document_of_quiet outcome quiet

/-- A patch that applies puts what comes of it into place, if that is accepted. -/
theorem document_step_of_patched {d : Desk} {patch : Json.Patch} {document : Json} {status : Status}
    (applied : patch.apply d.store.document = .ok document)
    (accepted : Status.ofValue document = .ok status) :
    (d.step (.applyPatch patch)).desk.store.document = document := by
  have served : d.store.serve (.applyPatch patch) = .ok (d.store.install status (some document)) :=
    Store.applyPatch_eq_ok_iff.mpr ⟨document, status, applied, accepted, rfl⟩
  rw [(step_of_call rfl served).1]
  rfl

/-- **The document of the store is the one that was put into place last.** -/
theorem document_run (d : Desk) (operations : List Operation) :
    (d.run operations).store.document = (d.installed operations).getLastD d.store.document := by
  induction operations generalizing d with
  | nil => rfl
  | cons operation rest ih =>
      rw [run_cons, ih]
      cases installs : operation.installs (d.step operation).reply with
      | true => rw [installed_of_installs rest installs, List.getLastD_cons]
      | false =>
          rw [installed_of_not_installs rest installs, document_step_of_not_installs installs]

end Desk

/-- **The answers about the small model follow the document.**  Take any run of operations on the
empty store that puts only plain documents into place, typed statuses among them being valid.  Then
it cannot be told whether the active device is of the small model, nor what it can do, exactly if
the document lists no device.  Otherwise exactly one entry of the document has the active serial,
and

* the active device is of the small model exactly if the entry says so in its hardware section;
* effects, sampler and scribbles are offered exactly if it is not;
* sub-mix, animation and the voice of disappearing are offered exactly if the entry lists them. -/
theorem mini_query_follows_document (session : Session) (operations : List Desk.Operation)
    (checked : ∀ status, .replaceStatus status ∈ operations → status.validate = .ok ())
    (plain : ∀ document ∈ Desk.installed ⟨session, .empty⟩ operations,
      Status.PlainDocument document) :
    let s := (Desk.run ⟨session, .empty⟩ operations).store
    let entries := s.document.items ["devices"]
    (isMini s = .error .noActiveDevice ↔ entries = []) ∧
    (capabilities s = .error .noActiveDevice ↔ entries = []) ∧
    (entries ≠ [] → ∃ serial before entry after mini offered,
      s.activeSerial = some serial ∧ entries = before ++ entry :: after ∧
      entry.get? ["serial"] = some (.string serial) ∧
      (∀ other ∈ before ++ after, other.get? ["serial"] ≠ some (.string serial)) ∧
      isMini s = .ok mini ∧ capabilities s = .ok offered ∧
      (mini = true ↔ entry.get? ["hardware", "device_type"] = some (.string "Mini")) ∧
      (offered.effects = true ↔ mini = false) ∧
      (offered.sampler = true ↔ mini = false) ∧
      (offered.scribbles = true ↔ mini = false) ∧
      let features := entry.items ["hardware", "features"]
      (offered.submix = true ↔ .string "SubMix" ∈ features) ∧
      (offered.animation = true ↔ .string "Animation" ∈ features) ∧
      (offered.vod = true ↔ .string "VoD" ∈ features)) := by
  intro s entries
  have settled : s.Settled := Desk.settled_run checked
  have plainNow : Status.PlainDocument s.document := by
    have last := Desk.document_run ⟨session, .empty⟩ operations
    show Status.PlainDocument (Desk.run ⟨session, .empty⟩ operations).store.document
    rw [last]
    rcases List.mem_cons.mp List.getLastD_mem_cons with same | mem
    · rw [same]
      exact Status.empty.plainDocument_toValue
    · exact plain _ mem
  have unanswered : activeDevice s = none ↔ entries = [] :=
    Store.active_eq_none_iff settled plainNow
  refine ⟨isMini_eq_error_iff.trans unanswered, capabilities_eq_error_iff.trans unanswered, ?_⟩
  intro listed
  obtain ⟨serial, before, entry, after, device, isSerial, split, hasSerial, others, active,
    describes⟩ := Store.entry_of_active settled plainNow listed
  have answers : (!device.model.isMini) = true ↔ device.model.isMini = false := by
    rw [Bool.not_eq_true']
  exact ⟨serial, before, entry, after, device.model.isMini, Capabilities.of device.hardware,
    isSerial, split, hasSerial, others, isMini_of_active active, capabilities_of_active active,
    Model.isMini_eq_true_iff.trans describes.mini.symm, answers, answers, answers,
    describes.hasFeature_iff .subMix, describes.hasFeature_iff .animation,
    describes.hasFeature_iff .voiceOfDisappearing⟩

/-- Two devices, the second of a given model. -/
def besideFull (model : Model) : Status :=
  ⟨[⟨"A", ⟨"", "", .full, .zero, []⟩⟩, ⟨"B", ⟨"", "", model, .zero, [.subMix]⟩⟩]⟩

/-- The second of two devices is selected, and then turned into a small one by a patch. -/
theorem selected_and_patched_to_mini :
    let operations : List Desk.Operation :=
      [.replaceDocument (besideFull .full).toValue, .select "B",
        .applyPatch [.replace "/devices/1/hardware/device_type" (.string "Mini")]]
    (∀ status, .replaceStatus status ∈ operations → status.validate = .ok ()) ∧
      (∀ document ∈ Desk.installed ⟨.empty, .empty⟩ operations, Status.PlainDocument document) ∧
      isMini (Desk.run ⟨.empty, .empty⟩ operations).store = .ok true := by
  intro operations
  have checked : ∀ status, .replaceStatus status ∈ operations → status.validate = .ok () := by
    intro status mem
    simp [operations] at mem
  have written :
      ((Desk.step ⟨.empty, .empty⟩ (.replaceDocument (besideFull .full).toValue)).desk.step
        (.select "B")).desk.store.document = (besideFull .full).toValue := rfl
  have accepted : Status.ofValue (besideFull .mini).toValue = .ok (besideFull .mini) := by decide
  have installed : Desk.installed ⟨.empty, .empty⟩ operations
      = [(besideFull .full).toValue, (besideFull .mini).toValue] := by
    rw [Desk.installed_of_installs _ (by decide +kernel),
      Desk.installed_of_not_installs _ (by decide +kernel),
      Desk.installed_of_installs _ (by decide +kernel),
      Desk.document_step_of_patched ?_ accepted]
    · rfl
    · rw [written]
      rfl
  have plain : ∀ document ∈ Desk.installed ⟨.empty, .empty⟩ operations,
      Status.PlainDocument document := by
    rw [installed]
    simp [Status.plainDocument_toValue]
  have document : (Desk.run ⟨.empty, .empty⟩ operations).store.document
      = (besideFull .mini).toValue := by
    rw [Desk.document_run, installed]
    rfl
  have marked : (Desk.run ⟨.empty, .empty⟩ operations).store.activeSerial = some "B" := by
    decide +kernel
  obtain ⟨-, -, answers⟩ := mini_query_follows_document .empty operations checked plain
  rw [document] at answers
  obtain ⟨serial, before, entry, after, mini, offered, isSerial, split, hasSerial, -, isMini, -,
    small, -⟩ := answers (List.cons_ne_nil _ _)
  obtain rfl := Option.some.inj (marked.symm.trans isSerial)
  have isEntry : entry ∈ (besideFull .mini).toValue.items ["devices"] := by
    rw [split]
    exact List.mem_append_right _ List.mem_cons_self
  have isSecond : entry.get? ["hardware", "device_type"] = some (.string "Mini") := by
    rcases List.mem_cons.mp isEntry with rfl | later
    · have same : "A" = "B" := Json.string.inj (Option.some.inj hasSerial)
      exact absurd same (by decide)
    · obtain rfl := List.mem_singleton.mp later
      rfl
  exact ⟨checked, plain, isMini.trans (congrArg Except.ok (small.mpr isSecond))⟩

end MixerPanel
