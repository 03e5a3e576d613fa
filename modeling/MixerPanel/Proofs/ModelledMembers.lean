import MixerPanel.Desk
import MixerPanel.Proofs.Changes
import MixerPanel.Proofs.ReadFrom
import MixerPanel.Proofs.StatusParsers

/-!
# The members that the typed view is made of

A status document holds far more than is shown, on every level: beside the devices, in each device,
in its hardware section and among its firmware versions.  The typed view is read from a few members
of each level and passes over the rest, so a document may be stripped down to these members without
any difference to the view, or to the reason for which it is refused.

The members that count depend on the level.  A member `serial` beside the devices is nothing that a
device could be known by, and is stripped like any other.

* `Json.keep`, `Json.eachItem` — an object stripped down to some members, a list item by item
* `Status.modelled` — a status document stripped down to what the typed view is made of
* `Json.Overlooks` — a reader takes the same from a value and from what is left of it;
  `overlooks_listOf`, `overlooks_record` and the lemmas on `Json.Fields.Overlooks` carry this
  through lists and records
* `unmodelled_members_ignored` — two documents with the same modelled members have the same
  outcome, and bring a store into the same state but for the document itself
-/

namespace MixerPanel

/-! ## Stripped documents -/

namespace Json

/-- The members that are known, each with the change that goes with its name. -/
def kept (known : List (String × (Json → Json))) (members : List (String × Json)) :
    List (String × Json) :=
  members.filterMap fun member =>
    (Keyed.lookup member.1 known).map fun change => (member.1, change member.2)

/-- The object with the known members only.  What is no object stays as it is. -/
def keep (known : List (String × (Json → Json))) : Json → Json
  | object members => object (kept known members)
  | j => j

/-- The list with each of its items changed.  What is no list stays as it is. -/
def eachItem (change : Json → Json) : Json → Json
  | list items => list (items.map change)
  | j => j

end Json

/-- Firmware versions with the members that are modelled. -/
def Firmware.modelled : Json → Json :=
  Json.keep [("firmware", id), ("fpga_count", id), ("dice", id)]

/-- A hardware section with the members that are modelled. -/
def Hardware.modelled : Json → Json :=
  Json.keep [("serial", id), ("manufacture_date", id), ("device_type", id),
    ("firmware", Firmware.modelled), ("features", id)]

/-- A device with the members that are modelled. -/
def Device.modelled : Json → Json :=
  Json.keep [("serial", id), ("hardware", Hardware.modelled)]

/-- A status document with the members that are modelled, on all levels. -/
def Status.modelled : Json → Json :=
  Json.keep [("devices", Json.eachItem Device.modelled)]

namespace Json

section Kept

variable {known : List (String × (Json → Json))} {members : List (String × Json)}

/-- A known member is found where it was, with its change. -/
theorem lookup_kept {name : String} {change : Json → Json}
    (isKnown : Keyed.lookup name known = some change) :
    Keyed.lookup name (kept known members) = (Keyed.lookup name members).map change := by
  induction members with
  | nil => rfl
  | cons member rest ih =>
      obtain ⟨key, value⟩ := member
      rw [kept, List.filterMap_cons]
      by_cases same : key = name
      · subst same
        simp [isKnown, Keyed.lookup_cons]
      · rw [Keyed.lookup_cons, if_neg same, ← ih]
        cases Keyed.lookup key known with
        | none => rfl
        | some other => simp [Keyed.lookup_cons, same, kept]

theorem nodup_keys_kept (distinct : (members.map Prod.fst).Nodup) :
    ((kept known members).map Prod.fst).Nodup := by
  refine distinct.sublist ?_
  induction members with
  | nil => exact .slnil
  | cons member rest ih =>
      have later := ih (List.nodup_cons.mp distinct).2
      rw [kept, List.filterMap_cons]
      cases Keyed.lookup member.1 known with
      | none => exact later.cons _
      | some change => exact later.cons_cons _

end Kept

/-! ## Readers that overlook the rest -/

/-- The reader takes the same from a document and from what a change leaves of it. -/
def Overlooks {α : Type} (read : Reader α) (change : Json → Json) : Prop :=
  ∀ j : Json, j.Ordered → Alike (· = ·) (ofValue read j) (ofValue read (change j))

section Combinators

variable {α β : Type}

theorem overlooks_id (read : Reader α) : Overlooks read id := fun _ _ => .refl _

theorem overlooks_listOf {read : Reader α} {change : Json → Json}
    (overlooks : Overlooks read change) : Overlooks (listOf read) (eachItem change) := by
  intro j ordered
  cases j with
  | list items =>
      have each : Alike (· = ·) (readItems read .value (Outline.ofItems items))
          (readItems read .value (Outline.ofItems (items.map change))) := by
        have ordered := ordered_list.mp ordered
        induction items with
        | nil => exact .ok rfl
        | cons item rest ih =>
            obtain ⟨first, others⟩ := List.forall_mem_cons.mp ordered
            refine (overlooks item first).bind fun a _ same => ?_
            subst same
            refine (ih (ordered_list.mpr others) others).bind fun as _ same => ?_
            subst same
            exact .ok rfl
      refine each.bind fun values _ same => ?_
      subst same
      exact .ok rfl
  | _ => exact .refl _

namespace Fields

/-- The members of an object whose keys are distinct make the record, or both fail. -/
theorem alike_fromMembers {fields : Fields α} (checked : fields.Checked) (name : String)
    {members : List (String × Json)} (distinct : (members.map Prod.fst).Nodup) :
    Alike (· = ·) (ofValue (record name fields) (object members)) (fields.fromMembers members) := by
  have found : find (Outline.ofMembers members)
      = fun field => (Keyed.lookup field members).map Outline.ofJson :=
    funext (find_ofMembers members)
  have alike := alike_readMembers checked .value (named_ofMembers members) distinct
    (passable_ofMembers members)
  rw [found] at alike
  exact alike

theorem ofValue_record_eq_ok_iff {fields : Fields α} (checked : fields.Checked) {name : String}
    {members : List (String × Json)} (distinct : (members.map Prod.fst).Nodup) {a : α} :
    ofValue (record name fields) (object members) = .ok a ↔ fields.fromMembers members = .ok a := by
  have alike := alike_fromMembers checked name distinct
  constructor
  · intro read
    exact (read ▸ alike.symm).eq_ok
  · intro made
    exact (made ▸ alike).eq_ok

/-- The fields make the same record of the members of an object and of those that are known. -/
structure Overlooks (fields : Fields α) (known : List (String × (Json → Json))) : Prop where
  fromMembers : ∀ {members : List (String × Json)}, (∀ member ∈ members, member.2.Ordered) →
    Alike (· = ·) (fields.fromMembers members) (fields.fromMembers (kept known members))
  checked : fields.Checked

variable {known : List (String × (Json → Json))}

theorem overlooks_field {read : Reader α} {change : Json → Json}
    (overlooks : Json.Overlooks read change) {name : String}
    (isKnown : Keyed.lookup name known = some change) (fallback : Option α) :
    (field name read fallback).Overlooks known where
  fromMembers := by
    intro members ordered
    simp only [Fields.fromMembers, field, lookup_kept isKnown]
    cases found : Keyed.lookup name members with
    | none => cases fallback <;> exact .refl _
    | some j => exact overlooks j (ordered _ (Keyed.mem_of_lookup found))
  checked := checked_field name read fallback

theorem Overlooks.map {fields : Fields α} (overlooks : fields.Overlooks known) (f : α → β) :
    (f <$> fields).Overlooks known where
  fromMembers ordered := (overlooks.fromMembers ordered).map_eq f
  checked := checked_map overlooks.checked

theorem Overlooks.seq {fields : Fields (α → β)} {last : Fields α}
    (overlooks : fields.Overlooks known) (overlooksLast : last.Overlooks known) :
    (fields <*> last).Overlooks known where
  fromMembers ordered := by
    simp only [Fields.fromMembers, ofNames_seq]
    refine (overlooks.fromMembers ordered).bind fun f _ same => ?_
    subst same
    exact (overlooksLast.fromMembers ordered).map_eq f
  checked := checked_seq overlooks.checked overlooksLast.checked

end Fields

/-- **A record overlooks** the members that are none of its fields. -/
theorem overlooks_record {fields : Fields α} {known : List (String × (Json → Json))}
    (overlooks : fields.Overlooks known) (name : String) :
    Overlooks (Fields.record name fields) (keep known) := by
  intro j ordered
  cases j with
  | object members =>
      obtain ⟨ascending, each⟩ := ordered_object.mp ordered
      have distinct := ascending.nodup_keys
      have whole := Fields.alike_fromMembers overlooks.checked name distinct
      have distinctKept : ((kept known members).map Prod.fst).Nodup := nodup_keys_kept distinct
      have stripped := Fields.alike_fromMembers overlooks.checked name distinctKept
      exact (whole.trans (overlooks.fromMembers each)).trans stripped.symm
  | _ => exact .refl _

end Combinators

end Json

open Json Json.Fields

theorem Firmware.overlooks : Overlooks Firmware.reader Firmware.modelled := by
  refine overlooks_record (((Overlooks.map ?_ mk).seq ?_).seq ?_) _
  · exact overlooks_field (overlooks_id Version.reader) rfl none
  · exact overlooks_field (overlooks_id word32) rfl none
  · exact overlooks_field (overlooks_id Version.reader) rfl none

theorem Hardware.overlooks : Overlooks Hardware.reader Hardware.modelled := by
  refine overlooks_record (((((Overlooks.map ?_ mk).seq ?_).seq ?_).seq ?_).seq ?_) _
  · exact overlooks_field (overlooks_id text) rfl none
  · exact overlooks_field (overlooks_id text) rfl none
  · exact overlooks_field (overlooks_id Model.reader) rfl none
  · exact overlooks_field Firmware.overlooks rfl none
  · exact overlooks_field (overlooks_id (listOf Feature.reader)) rfl (some [])

theorem Device.overlooks : Overlooks Device.reader Device.modelled := by
  refine overlooks_record ((Overlooks.map ?_ mk).seq ?_) _
  · exact overlooks_field (overlooks_id text) rfl none
  · exact overlooks_field Hardware.overlooks rfl none

namespace Status

/-- **A status is the same** from a document and from the members of it that are modelled. -/
theorem overlooks : Overlooks reader modelled :=
  overlooks_record ((overlooks_field (overlooks_listOf Device.overlooks) rfl (some [])).map mk) _

/-! ## The outcome -/

/-- What is read alike is accepted alike: the check looks at nothing but the status. -/
theorem accept_of_alike {one other : Json.Result Status} (alike : Alike (· = ·) one other) :
    (∃ s, accept one = .ok s ∧ accept other = .ok s) ∨
    (∃ serial, accept one = .error (.duplicateSerial serial) ∧
      accept other = .error (.duplicateSerial serial)) ∨
    ∃ e f, accept one = .error (.unreadable e) ∧ accept other = .error (.unreadable f) := by
  cases alike with
  | @error e f => exact .inr (.inr ⟨e, f, rfl, rfl⟩)
  | @ok s _ same =>
      subst same
      rw [accept_ok]
      cases repeatedSerial? [] s.devices with
      | none => exact .inl ⟨s, rfl, rfl⟩
      | some serial => exact .inr (.inl ⟨serial, rfl, rfl⟩)

end Status

namespace Desk

variable {d : Desk} {document : Json}

theorem step_replaceDocument_of_ok {status : Status} (read : Status.ofValue document = .ok status) :
    d.step (.replaceDocument document)
      = d.updated d.session (.ok .done) (d.store.install status (some document)) := by
  rw [step, attempted, Store.written_replaceDocument, read]
  rfl

theorem step_replaceDocument_of_error {e : StatusError}
    (refused : Status.ofValue document = .error e) :
    d.step (.replaceDocument document) = ⟨d, .error (.status e), [], []⟩ := by
  rw [step, attempted, Store.written_replaceDocument, refused]
  rfl

end Desk

/-- **Members that are not modelled make no difference.**  Take two documents with the same modelled
members on all levels, whatever else they hold and wherever they hold it.  They have the same
outcome: the same status, or the same repeated serial, or neither can be read.  Wherever the one is
installed, the other leads to the same status and the same active device, and the same is logged and
told to the listeners. -/
theorem unmodelled_members_ignored {document other : Json} (ordered : document.Ordered)
    (orderedOther : other.Ordered) (same : Status.modelled document = Status.modelled other) :
    ((∃ s, Status.ofValue document = .ok s ∧ Status.ofValue other = .ok s) ∨
      (∃ serial, Status.ofValue document = .error (.duplicateSerial serial) ∧
        Status.ofValue other = .error (.duplicateSerial serial)) ∨
      ∃ e f, Status.ofValue document = .error (.unreadable e) ∧
        Status.ofValue other = .error (.unreadable f)) ∧
    ∀ d : Desk,
      let o := d.step (.replaceDocument document)
      let o' := d.step (.replaceDocument other)
      o.desk.store.status = o'.desk.store.status ∧
      o.desk.store.activeSerial = o'.desk.store.activeSerial ∧
      activeDevice o.desk.store = activeDevice o'.desk.store ∧
      o.deliveries = o'.deliveries ∧ o.log = o'.log := by
  have stripped := Status.overlooks document ordered
  rw [same] at stripped
  have outcome := Status.accept_of_alike (stripped.trans (Status.overlooks other orderedOther).symm)
  refine ⟨outcome, fun d => ?_⟩
  rcases outcome with ⟨s, read, readOther⟩ | ⟨serial, refused, refusedOther⟩ |
    ⟨e, f, refused, refusedOther⟩
  · rw [Desk.step_replaceDocument_of_ok read, Desk.step_replaceDocument_of_ok readOther]
    exact ⟨rfl, rfl, rfl, rfl, rfl⟩
  · rw [Desk.step_replaceDocument_of_error refused, Desk.step_replaceDocument_of_error refusedOther]
    exact ⟨rfl, rfl, rfl, rfl, rfl⟩
  · rw [Desk.step_replaceDocument_of_error refused, Desk.step_replaceDocument_of_error refusedOther]
    exact ⟨rfl, rfl, rfl, rfl, rfl⟩

/-- A device as the typed view has it. -/
def uncrowded : Status :=
  ⟨[⟨"A", ⟨"A", "", .mini, ⟨⟨1, 4, 2, 107⟩, 21, ⟨1, 4, 2, 107⟩⟩, []⟩⟩]⟩

/-- The same device in a document with more than the typed view knows, on every level.  What is
added has names that are known on other levels, and values that could not be read there. -/
def crowded : Json :=
  let version : Json := .list [.nat 1, .nat 4, .nat 2, .nat 107]
  let firmware : Json := .object [("firmware", version), ("serial", .null), ("fpga_count", .nat 21),
    ("devices", .list [.null]), ("dice", version)]
  let hardware : Json := .object [("hardware", .bool true), ("serial", .string "A"),
    ("manufacture_date", .string ""), ("device_type", .string "Mini"), ("firmware", firmware),
    ("features", .list []), ("mixers", .object [("features", .object [])])]
  let device : Json := .object [("device_type", .nat 0), ("serial", .string "A"),
    ("features", .string "VoD"), ("hardware", hardware)]
  Json.canonical (.object [("serial", .list []), ("devices", .list [device]), ("firmware", .null)])

theorem crowded_read_as_uncrowded :
    Status.modelled crowded = Status.modelled uncrowded.toValue ∧
      Status.ofValue crowded = .ok uncrowded := by
  have ordered : crowded.Ordered := ordered_canonical _
  have orderedOther : uncrowded.toValue.Ordered := ordered_canonical _
  have strip : Status.modelled crowded = uncrowded.toValue := by rfl
  have keeps : Status.modelled uncrowded.toValue = uncrowded.toValue := by rfl
  have same : Status.modelled crowded = Status.modelled uncrowded.toValue := strip.trans keeps.symm
  have read : Status.ofValue uncrowded.toValue = .ok uncrowded := by decide
  have outcome := (unmodelled_members_ignored ordered orderedOther same).1
  rw [read] at outcome
  refine ⟨same, ?_⟩
  rcases outcome with ⟨s, readCrowded, isUncrowded⟩ | ⟨serial, -, refused⟩ | ⟨e, f, -, refused⟩
  · rw [readCrowded, isUncrowded]
  · cases refused
  · cases refused

end MixerPanel
