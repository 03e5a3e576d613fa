import MixerPanel.Proofs.DocumentRefinement
import MixerPanel.Proofs.ModelledMembers
import MixerPanel.Proofs.PatchSequences
import MixerPanel.Proofs.WrittenPointers

/-!
# A model that is not known

The daemon may come to know models that nobody here has heard of.  The name of a model is one
member, deep in the document; whatever text it holds, the document is read, and all that depends on
the text is the model of that one device.

* `Model.named` — the model that a name stands for
* `Device.asModel` — a device, as another model
* `Hardware.ofValue_insert_model`, `Device.ofValue_insert_hardware`,
  `Status.ofValue_insert_devices` — what is read where one member has another value
* `Json.modifyAt?_member`, `Json.modifyAt?_item` — a change inside a member, or inside an item
* `Status.modifyAt?_model` — a document with another name for the model of a device
* `Status.SerialsDistinct.device?_set_asModel` — a change of the model moves no device
* `Store.install_asModel` — what the store makes of it
* `unknown_model_keeps_document` — the document, and the patch that leads to it
-/

namespace MixerPanel

/-! ## Names of models -/

/-- The model that a name stands for. -/
def Model.named (name : String) : Model :=
  if name = "Full" then full else if name = "Mini" then mini else other

theorem Model.ofValue_named (name : String) :
    Json.ofValue reader (.string name) = .ok (named name) := by
  rw [ofValue_string, named]
  simp only [eq_comm]

/-- The device as another model. -/
def Device.asModel (d : Device) (m : Model) : Device :=
  { d with hardware := { d.hardware with model := m } }

@[simp] theorem Device.serial_asModel (d : Device) (m : Model) : (d.asModel m).serial = d.serial :=
  rfl

@[simp] theorem Device.model_asModel (d : Device) (m : Model) : (d.asModel m).model = m := rfl

/-! ## Documents with another value for a member -/

/-- Two lists that agree place by place still do with two more values at one place. -/
theorem forall₂_set {α β : Type} {R : α → β → Prop} {as : List α} {bs : List β}
    (agree : List.Forall₂ R as bs) {a : α} {b : β} (same : R a b) (k : Nat) :
    List.Forall₂ R (as.set k a) (bs.set k b) := by
  induction agree generalizing k with
  | nil => exact .nil
  | cons first rest ih =>
      cases k with
      | zero => exact .cons same rest
      | succ k => exact .cons first (ih k)

section Members

open Json Json.Fields

variable {members : List (String × Json)}

theorem Hardware.ofValue_object_eq_ok_iff (distinct : (members.map Prod.fst).Nodup) {h : Hardware} :
    Json.ofValue reader (.object members) = .ok h ↔
      Keyed.lookup "serial" members = some (.string h.serial) ∧
      Keyed.lookup "manufacture_date" members = some (.string h.manufactureDate) ∧
      (∃ j, Keyed.lookup "device_type" members = some j ∧
        Json.ofValue Model.reader j = .ok h.model) ∧
      (∃ j, Keyed.lookup "firmware" members = some j ∧
        Json.ofValue Firmware.reader j = .ok h.firmware) ∧
      ((∃ j, Keyed.lookup "features" members = some j ∧
          Json.ofValue (Json.listOf Feature.reader) j = .ok h.features) ∨
        Keyed.lookup "features" members = none ∧ h.features = []) := by
  refine ⟨members_of_read, fun ⟨serial, date, model, firmware, features⟩ => ?_⟩
  refine (ofValue_record_eq_ok_iff
    (by apply_rules [checked_seq, checked_map, checked_field]) distinct).mpr ?_
  simp only [required_eq, optional_eq, fromMembers_seq_eq_ok_iff, fromMembers_map_eq_ok_iff,
    fromMembers_field_eq_ok_iff, ofValue_text_eq_ok_iff, reduceCtorEq, and_false, or_false,
    Option.some.injEq]
  have features := features.imp_right fun absent => absent.imp_right Eq.symm
  exact ⟨_, ⟨_, ⟨_, ⟨_, ⟨_, ⟨_, serial, rfl⟩, rfl⟩, _, ⟨_, date, rfl⟩, rfl⟩, _, model, rfl⟩,
    _, firmware, rfl⟩, _, features, rfl⟩

theorem Device.ofValue_object_eq_ok_iff (distinct : (members.map Prod.fst).Nodup) {d : Device} :
    Json.ofValue reader (.object members) = .ok d ↔
      Keyed.lookup "serial" members = some (.string d.serial) ∧
      ∃ j, Keyed.lookup "hardware" members = some j ∧
        Json.ofValue Hardware.reader j = .ok d.hardware := by
  refine ⟨members_of_read, fun ⟨serial, hardware⟩ => ?_⟩
  refine (ofValue_record_eq_ok_iff
    (by apply_rules [checked_seq, checked_map, checked_field]) distinct).mpr ?_
  simp only [required_eq, fromMembers_seq_eq_ok_iff, fromMembers_map_eq_ok_iff,
    fromMembers_field_eq_ok_iff, ofValue_text_eq_ok_iff, reduceCtorEq, and_false, or_false]
  exact ⟨_, ⟨_, ⟨_, serial, rfl⟩, rfl⟩, _, hardware, rfl⟩

theorem Status.ofValue_object_of_devices (distinct : (members.map Prod.fst).Nodup) {j : Json}
    {devices : List Device} (isDevices : Keyed.lookup "devices" members = some j)
    (read : Json.ofValue (Json.listOf Device.reader) j = .ok devices) :
    Json.ofValue reader (.object members) = .ok ⟨devices⟩ := by
  refine (ofValue_record_eq_ok_iff
    (by apply_rules [checked_seq, checked_map, checked_field]) distinct).mpr ?_
  simp only [optional_eq, fromMembers_map_eq_ok_iff, fromMembers_field_eq_ok_iff]
  exact ⟨_, .inl ⟨j, isDevices, read⟩, rfl⟩

/-- A hardware section with another name for its model. -/
theorem Hardware.ofValue_insert_model (ascending : Keyed.Ascending members) {h : Hardware}
    (read : Json.ofValue reader (.object members) = .ok h) (name : String) :
    Json.ofValue reader (.object (Keyed.insert "device_type" (.string name) members))
      = .ok { h with model := .named name } := by
  have distinct := (ascending.insert "device_type" (.string name)).nodup_keys
  obtain ⟨serial, date, -, firmware, features⟩ := members_of_read read
  rw [ofValue_object_eq_ok_iff distinct]
  simp only [Keyed.lookup_insert, String.reduceEq, if_true, if_false]
  exact ⟨serial, date, ⟨_, rfl, Model.ofValue_named name⟩, firmware, features⟩

/-- A device with another hardware section. -/
theorem Device.ofValue_insert_hardware (ascending : Keyed.Ascending members) {d : Device}
    (read : Json.ofValue reader (.object members) = .ok d) {j : Json} {h : Hardware}
    (readHardware : Json.ofValue Hardware.reader j = .ok h) :
    Json.ofValue reader (.object (Keyed.insert "hardware" j members))
      = .ok { d with hardware := h } := by
  have distinct := (ascending.insert "hardware" j).nodup_keys
  obtain ⟨serial, -⟩ := members_of_read read
  rw [ofValue_object_eq_ok_iff distinct]
  simp only [Keyed.lookup_insert, String.reduceEq, if_true, if_false]
  exact ⟨serial, j, rfl, readHardware⟩

/-- A status of which one device is read from another item. -/
theorem Status.ofValue_insert_devices (ascending : Keyed.Ascending members) {items : List Json}
    {s : Status} (read : List.Forall₂ (fun item d => Json.ofValue Device.reader item = .ok d)
      items s.devices) (k : Nat) {item : Json} {d : Device}
    (readItem : Json.ofValue Device.reader item = .ok d) :
    Json.ofValue reader (.object (Keyed.insert "devices" (.list (items.set k item)) members))
      = .ok ⟨s.devices.set k d⟩ := by
  have distinct := (ascending.insert "devices" (.list (items.set k item))).nodup_keys
  have read := ofValue_listOf_eq_ok_iff.mpr ⟨_, rfl, forall₂_set read readItem k⟩
  exact ofValue_object_of_devices distinct (by rw [Keyed.lookup_insert, if_pos rfl]) read

end Members

/-! ## The change along its path -/

namespace Json

variable {change : Json → Option Json} {child changed : Json} {steps : List String}

/-- A member of an object is changed inside. -/
theorem modifyAt?_member {members : List (String × Json)} {key : String}
    (found : Keyed.lookup key members = some child)
    (inside : child.modifyAt? change steps = some changed) :
    (object members).modifyAt? change (key :: steps)
      = some (object (Keyed.insert key changed members)) := by
  simp [modifyAt?, child?, setChild, found, inside]

/-- An item of a list is changed inside. -/
theorem modifyAt?_item {items : List Json} {n : Nat} (found : items[n]? = some child)
    (inside : child.modifyAt? change steps = some changed) :
    (list items).modifyAt? change (toString n :: steps) = some (list (items.set n changed)) := by
  simp only [modifyAt?, child?, setChild, index?_toString, found, inside, Option.bind_eq_bind,
    Option.bind_some, Option.pure_def]

end Json

/-- The path to the name of the model of a device, from the top of a document. -/
def Status.modelPath (k : Nat) : List String := ["devices", toString k, "hardware", "device_type"]

/-- An entry of a document with another name for the model. -/
theorem Device.modifyAt?_model {fields parts : List (String × Json)}
    (ordered : (Json.object fields).Ordered)
    (isHardware : Keyed.lookup "hardware" fields = some (.object parts)) {d : Device}
    (read : Json.ofValue reader (.object fields) = .ok d) (name : String) :
    ∃ changed, (Json.object fields).modifyAt? (fun _ => some (.string name))
        ["hardware", "device_type"] = some changed ∧
      Json.ofValue reader changed = .ok (d.asModel (.named name)) := by
  obtain ⟨ascending, each⟩ := Json.ordered_object.mp ordered
  obtain ⟨ascendingParts, -⟩ := Json.ordered_object.mp (each _ (Keyed.mem_of_lookup isHardware))
  obtain ⟨-, hardware, found, readHardware⟩ := members_of_read read
  obtain rfl := Option.some.inj (found.symm.trans isHardware)
  obtain ⟨-, -, ⟨model, isModel, -⟩, -⟩ := Hardware.members_of_read readHardware
  refine ⟨_, Json.modifyAt?_member isHardware (Json.modifyAt?_member isModel rfl), ?_⟩
  exact ofValue_insert_hardware ascending read
    (Hardware.ofValue_insert_model ascendingParts readHardware name)

/-- An entry that is an object, and has a hardware section that is one. -/
structure Device.ObjectEntry (entry : Json) : Prop where
  isObject : ∃ fields, entry = .object fields
  hardware : ∃ parts, entry.get? ["hardware"] = some (.object parts)

/-- A document that is an object, with entries that are objects. -/
structure Status.ObjectDocument (document : Json) : Prop where
  isObject : ∃ members, document = .object members
  entries : ∀ entry ∈ document.items ["devices"], Device.ObjectEntry entry

theorem Device.objectEntry_toJson (d : Device) : ObjectEntry d.toJson.canonical where
  isObject := ⟨_, rfl⟩
  hardware := by
    simp only [toJson, Json.get?_canonical_object, List.reverse_cons, List.reverse_nil,
      List.nil_append, List.cons_append, Keyed.lookup_cons, if_true, Option.bind_some]
    exact ⟨_, rfl⟩

theorem Status.objectDocument_toValue (s : Status) : ObjectDocument s.toValue where
  isObject := ⟨_, rfl⟩
  entries := by
    have listed : s.toValue.get? ["devices"]
        = some (.list ((s.devices.map Device.toJson).map Json.canonical)) := by
      simp [toValue, toJson, Json.get?_canonical_object, Keyed.lookup_cons, Json.canonical_list]
    rw [Json.items_of_list listed, List.map_map]
    intro entry mem
    obtain ⟨d, -, rfl⟩ := List.mem_map.mp mem
    exact d.objectEntry_toJson

/-- **Another name for the model of a device** can be put into a document, and the document is read
as before except for the model of that device. -/
theorem Status.modifyAt?_model {document : Json} (ordered : document.Ordered)
    (objects : ObjectDocument document) {s : Status} (read : Json.ofValue reader document = .ok s)
    {k : Nat} (listed : k < s.devices.length) (name : String) :
    ∃ changed, document.modifyAt? (fun _ => some (.string name)) (modelPath k) = some changed ∧
      Json.ofValue reader changed
        = .ok ⟨s.devices.set k (s.devices[k].asModel (.named name))⟩ := by
  obtain ⟨members, rfl⟩ := objects.isObject
  obtain ⟨ascending, each⟩ := Json.ordered_object.mp ordered
  obtain ⟨list, isList, readList⟩ | ⟨-, none⟩ := members_of_read read
  swap
  · simp [none] at listed
  obtain ⟨items, rfl, readItems⟩ := Json.ofValue_listOf_eq_ok_iff.mp readList
  have atDevices : (Json.object members).items ["devices"] = items :=
    Json.items_of_list ((Json.get?_object_singleton members "devices").trans isList)
  have inRange : k < items.length := by rwa [readItems.length_eq]
  have mem : items[k] ∈ items := List.getElem_mem inRange
  have isObject : Device.ObjectEntry items[k] := objects.entries _ (by rwa [atDevices])
  obtain ⟨⟨fields, isEntry⟩, parts, isHardware⟩ := isObject
  have orderedEntry := Json.ordered_list.mp (each _ (Keyed.mem_of_lookup isList)) _ mem
  have readEntry : Json.ofValue Device.reader items[k] = .ok s.devices[k] :=
    readItems.get inRange listed
  rw [isEntry] at isHardware orderedEntry readEntry
  rw [Json.get?_object_singleton] at isHardware
  obtain ⟨entry, inEntry, readChanged⟩ :=
    Device.modifyAt?_model orderedEntry isHardware readEntry name
  have found : items[k]? = some (.object fields) := by
    rw [List.getElem?_eq_getElem inRange, isEntry]
  refine ⟨_, Json.modifyAt?_member isList (Json.modifyAt?_item found inEntry), ?_⟩
  exact ofValue_insert_devices ascending readItems k readChanged

/-! ## What depends on the model -/

namespace Status

variable {s : Status} {k : Nat} {m : Model}

/-- The device at a place is the only one with its serial. -/
theorem SerialsDistinct.set_asModel (distinct : s.SerialsDistinct) (listed : k < s.devices.length) :
    s.devices.set k (s.devices[k].asModel m)
      = s.devices.map fun d => if d.serial = s.devices[k].serial then d.asModel m else d := by
  refine List.ext_getElem (by simp) fun i before after => ?_
  have inRange : i < s.devices.length := by simpa using after
  rw [List.getElem_set, List.getElem_map]
  by_cases here : k = i
  · subst here
    rw [if_pos rfl, if_pos rfl]
  · have other : s.devices[i].serial ≠ s.devices[k].serial := by
      intro same
      have equal : s.devices[k] = s.devices[i] :=
        List.inj_on_of_nodup_map distinct (List.getElem_mem listed) (List.getElem_mem inRange)
          same.symm
      exact here ((List.Nodup.getElem_inj_iff distinct.of_map).mp equal)
    rw [if_neg here, if_neg other]

/-- **A change of the model moves no device**: what is found under a serial is the device from
before, as the other model if it is that one. -/
theorem SerialsDistinct.device?_set_asModel (distinct : s.SerialsDistinct)
    (listed : k < s.devices.length) (serial : String) :
    device? ⟨s.devices.set k (s.devices[k].asModel m)⟩ serial
      = (s.device? serial).map fun d =>
          if d.serial = s.devices[k].serial then d.asModel m else d := by
  rw [distinct.set_asModel listed, device?, device?, List.find?_map]
  congr 2
  funext d
  show ((if _ then _ else d).serial == serial) = _
  split_ifs <;> rfl

theorem SerialsDistinct.set (distinct : s.SerialsDistinct) (listed : k < s.devices.length) :
    SerialsDistinct ⟨s.devices.set k (s.devices[k].asModel m)⟩ := by
  have same : (s.devices.set k (s.devices[k].asModel m)).map Device.serial
      = s.devices.map Device.serial := by
    rw [List.map_set, Device.serial_asModel, ← List.getElem_map Device.serial (h := by simpa),
      List.set_getElem_self]
  rw [SerialsDistinct, same]
  exact distinct

end Status

namespace Store

variable {s : Store} {k : Nat} {m : Model}

/-- Where the mark stays, only the model of the active device can be news. -/
theorem events_install_of_kept {status : Status} {document : Option Json}
    (kept : (s.install status document).store.activeSerial = s.activeSerial) :
    (s.install status document).events = .statusReplaced ::
      if s.activeModel ≠ (s.install status document).store.activeModel then
        [.activeDeviceChanged s.activeSerial s.activeSerial]
      else [] := by
  show _ :: (if s.activeSerial ≠ (s.install status document).store.activeSerial ∨
      s.activeModel ≠ (s.install status document).store.activeModel then
    [StoreEvent.activeDeviceChanged _ (s.install status document).store.activeSerial] else []) = _
  simp only [kept, ne_eq, not_true, false_or]

/-- **Where a device is of another model**, the mark stays where it is, and the listeners are told of
the active device exactly if it is the one and its model differs. -/
theorem install_asModel (marked : s.Marked) (distinct : s.status.SerialsDistinct)
    (listed : k < s.status.devices.length) (document : Option Json) :
    let device := s.status.devices[k]
    let update := s.install ⟨s.status.devices.set k (device.asModel m)⟩ document
    update.store.activeSerial = s.activeSerial ∧
      update.events = .statusReplaced ::
        if s.activeSerial = some device.serial ∧ device.model ≠ m then
          [.activeDeviceChanged s.activeSerial s.activeSerial]
        else [] := by
  intro device update
  obtain ⟨noneIff, whole⟩ := active_of_marked marked
  have mem : device ∈ s.status.devices := List.getElem_mem listed
  cases active : s.activeSerial with
  | none =>
      have empty : s.status.devices = [] := noneIff.mp active
      exact absurd mem (by simp [empty])
  | some serial =>
      obtain ⟨before, d, after, split, rfl, -, isActive, -⟩ := whole serial active
      have found : s.status.device? d.serial = some d := by
        simpa [Store.active, active] using isActive
      have foundNow : update.store.status.device? d.serial
          = some (if d.serial = device.serial then d.asModel m else d) := by
        show Status.device? ⟨_⟩ _ = _
        rw [distinct.device?_set_asModel listed, found]
        rfl
      have kept : update.store.activeSerial = some d.serial := by
        show reselect _ s.activeSerial = _
        rw [active]
        exact reselect_of_listed (Status.device?_isSome_iff.mp (foundNow ▸ rfl))
      have model : s.activeModel = some d.model := by rw [activeModel, isActive]; rfl
      have modelNow : update.store.activeModel
          = some (if d.serial = device.serial then m else d.model) := by
        rw [activeModel, Store.active, kept, Option.bind_some, foundNow]
        split_ifs <;> rfl
      refine ⟨kept, ?_⟩
      rw [events_install_of_kept (kept.trans active.symm), model, modelNow, active]
      congr 1
      by_cases same : d.serial = device.serial
      · have listed : d ∈ s.status.devices := by
          rw [show s.status.devices = _ from split]
          exact List.mem_append_right _ List.mem_cons_self
        have isDevice : d = device := List.inj_on_of_nodup_map distinct listed mem same
        simp [isDevice]
      · simp [same]

end Store

/-- A patch that puts a value in the place of another. -/
theorem Json.Patch.apply_replace {doc changed value : Json} {steps : List String}
    (changes : doc.modifyAt? (fun _ => some value) steps = some changed) :
    Json.Patch.apply doc [.replace (Pointer.write steps) value] = .ok changed := by
  simp [apply, applyFrom, Operation.apply, Operation.orFault, replaceAt?, Pointer.steps?_write,
    changes]

/-- **A model that is not known takes nothing down with it.**  In a document that is accepted, and
whose devices and their hardware sections are objects, let any text stand for the model of any one
device.  The document is accepted with the same devices, of which that one is of the model that the
text names; every text but the two that are known names another model.

A store with the document takes the change as a patch.  The mark stays where it is, and beside the
new document the listeners are told of the active device exactly if it is that device and its model
is not what it was. -/
theorem unknown_model_keeps_document {document : Json} (ordered : document.Ordered)
    (objects : Status.ObjectDocument document) {s : Status}
    (accepted : Status.ofValue document = .ok s) {k : Nat} (listed : k < s.devices.length)
    (name : String) :
    let device := s.devices[k]
    let next : Status := ⟨s.devices.set k (device.asModel (.named name))⟩
    ∃ changed,
      document.modifyAt? (fun _ => some (.string name)) (Status.modelPath k) = some changed ∧
      Status.ofValue changed = .ok next ∧
      ∀ session operations, let d := Desk.run ⟨session, .empty⟩ operations
        d.store.document = document →
        let patch : Json.Patch :=
          [.replace (Json.Pointer.write (Status.modelPath k)) (.string name)]
        let o := d.step (.applyPatch patch)
        o.reply = .ok .done ∧
        o.desk.store.document = changed ∧ o.desk.store.status = next ∧
        o.desk.store.activeSerial = d.store.activeSerial ∧
        o.deliveries = d.store.deliveries (.statusReplaced ::
          if d.store.activeSerial = some device.serial ∧ device.model ≠ .named name then
            [.activeDeviceChanged d.store.activeSerial d.store.activeSerial]
          else []) := by
  intro device next
  obtain ⟨read, distinct⟩ := Status.ofValue_eq_ok_iff.mp accepted
  obtain ⟨changed, changes, readChanged⟩ := Status.modifyAt?_model ordered objects read listed name
  have acceptedChanged : Status.ofValue changed = .ok next :=
    Status.ofValue_eq_ok_iff.mpr ⟨readChanged, distinct.set listed⟩
  refine ⟨changed, changes, acceptedChanged, ?_⟩
  intro session operations d holds patch o
  have coherent : d.store.Coherent := (Desk.ledger_run Store.coherent_empty operations).2
  have marked : d.store.Marked :=
    Desk.store_run_induction Store.Marked (fun _ => True) Store.marked_empty
      (fun _ _ _ _ served => Store.marked_of_served served) (fun _ _ _ _ _ => trivial)
  obtain rfl : d.store.status = s :=
    Except.ok.inj (coherent.symm.trans (holds ▸ read))
  have taken : d.store.serve (.applyPatch patch) = .ok (d.store.install next (some changed)) :=
    Store.applyPatch_eq_ok_iff.mpr
      ⟨changed, next, by rw [holds, Json.Patch.apply_replace changes], acceptedChanged, rfl⟩
  have outcome : o = d.updated d.session (.ok .done) (d.store.install next (some changed)) := by
    show d.attempted (Store.Call.applyPatch patch).attempt = _
    exact Desk.attempted_of_success taken
  obtain ⟨kept, told⟩ := Store.install_asModel (m := .named name) marked distinct listed
    (some changed)
  rw [outcome]
  exact ⟨rfl, rfl, rfl, kept, congrArg d.store.deliveries told⟩

/-- Somebody listens, two devices are listed, and the second is chosen. -/
def secondChosen : List Desk.Operation :=
  [.subscribe, .replaceDocument (pluggedIn ["A", "B"]).toValue, .select "B"]

/-- A listener hears of it where the device that is active is of a model that is not known. -/
theorem unknown_model_told_of :
    let d := Desk.run ⟨.empty, .empty⟩ secondChosen
    let o := d.step (.applyPatch [.replace "/devices/1/hardware/device_type" (.string "full")])
    o.desk.store.devices.map Device.model = [.full, .other] ∧
      o.deliveries = [(⟨0⟩, .statusReplaced), (⟨0⟩, .activeDeviceChanged (some "B") (some "B"))] := by
  have objects := Status.objectDocument_toValue (pluggedIn ["A", "B"])
  have accepted : Status.ofValue (pluggedIn ["A", "B"]).toValue = .ok (pluggedIn ["A", "B"]) := by
    decide
  obtain ⟨changed, -, -, everywhere⟩ := unknown_model_keeps_document (k := 1)
    (Json.ordered_canonical _) objects accepted Nat.one_lt_two "full"
  have here := everywhere .empty secondChosen
  have holds : (Desk.run ⟨.empty, .empty⟩ secondChosen).store.document
      = (pluggedIn ["A", "B"]).toValue := by rfl
  have active : (Desk.run ⟨.empty, .empty⟩ secondChosen).store.activeSerial = some "B" := by decide
  have listening : (Desk.run ⟨.empty, .empty⟩ secondChosen).store.listeners = [⟨0⟩] := by decide
  have path : Json.Pointer.write (Status.modelPath 1) = "/devices/1/hardware/device_type" := by
    decide +kernel
  rw [path] at here
  -- what the run was is of no more use, and Lean would compute it over and over
  generalize Desk.run ⟨.empty, .empty⟩ secondChosen = d at *
  obtain ⟨-, -, status, -, told⟩ := here holds
  have models := congrArg (fun s : Status => s.devices.map Device.model) status
  refine ⟨models.trans (by decide), told.trans ?_⟩
  rw [active, if_pos ⟨by decide, by decide +kernel⟩, Store.deliveries, listening]
  rfl

end MixerPanel
