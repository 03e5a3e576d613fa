import Mathlib.Data.List.Forall2
import MixerPanel.Json.Pointer
import MixerPanel.Proofs.StatusReadBack

/-!
# What a status was read from

`Proofs.Reading` says when a document can be read.  Here is the other direction: from a status that
was read, what the document must have held.  A reader accepts more than one form of most things; a
record may come as the list of its fields, and a variant as an object with its name.  Documents that
are plain, as the daemon writes them, have objects for records and strings for variants, and in
those every part of the status is found at a place of its own.

* `Json.ofValue_text_eq_ok_iff`, `Json.ofValue_listOf_eq_ok_iff`,
  `Json.Fields.fromMembers_of_record`, `Json.Fields.fromMembers_field_eq_ok_iff` — one lemma per
  combinator of readers
* `Status.members_of_read` and its like — which member each part was read from
* `Device.PlainEntry`, `Status.PlainDocument` — the plain documents, and
  `Status.plainDocument_toValue`, that a status is written as one
* `Device.Describes` — what an entry of the document has in common with the device read from it
* `Status.describes_of_read` — a status that is read from a plain document has one device for each
  entry, which the entry describes
-/

namespace MixerPanel

namespace Json

/-- The items of the list at a place; none where there is no list. -/
def items (path : List String) (j : Json) : List Json :=
  match j.get? path with
  | some (list items) => items
  | _ => []

@[simp] theorem get?_nil (j : Json) : j.get? [] = some j := rfl

theorem get?_object_cons (members : List (String × Json)) (key : String) (rest : List String) :
    (object members).get? (key :: rest) = (Keyed.lookup key members).bind (·.get? rest) := rfl

/-- A path of one key leads to the member with that key. -/
theorem get?_object_singleton (members : List (String × Json)) (key : String) :
    (object members).get? [key] = Keyed.lookup key members := by
  rw [get?_object_cons]
  cases Keyed.lookup key members <;> rfl

theorem get?_canonical_object (members : List (String × Json)) (key : String)
    (rest : List String) :
    (object members).canonical.get? (key :: rest)
      = (Keyed.lookup key members.reverse).bind fun value => value.canonical.get? rest := by
  rw [canonical, canonicalMembers_eq_map, get?_object_cons, Keyed.lookup_sort, ← List.map_reverse,
    Keyed.lookup_map, Option.bind_map]
  rfl

theorem canonical_list (items : List Json) :
    (list items).canonical = list (items.map canonical) := by
  rw [canonical, canonicalItems_eq_map]

theorem items_of_list {path : List String} {j : Json} {found : List Json}
    (there : j.get? path = some (list found)) : j.items path = found := by
  simp only [items, there]

theorem items_of_none {path : List String} {j : Json} (absent : j.get? path = none) :
    j.items path = [] := by
  simp only [items, absent]

/-! ## The readers of plain types -/

theorem ofValue_text_eq_ok_iff {j : Json} {s : String} :
    ofValue text j = .ok s ↔ j = string s := by
  cases j <;>
    simp [ofValue, Outline.ofJson, text, Outline.mistaken, Result.mismatch]

theorem readItems_ofItems_eq_ok_iff {α : Type} {read : Reader α} {items : List Json}
    {values : List α} :
    readItems read .value (Outline.ofItems items) = .ok values ↔
      List.Forall₂ (fun item value => ofValue read item = .ok value) items values := by
  induction items generalizing values with
  | nil => simp [Outline.ofItems, readItems, eq_comm]
  | cons item rest ih =>
      simp only [Outline.ofItems, readItems, bind_eq_ok_iff, pure, Except.pure, Except.ok.injEq, ih,
        List.forall₂_cons_left_iff]
      constructor
      · rintro ⟨value, first, later, others, rfl⟩
        exact ⟨value, later, first, others, rfl⟩
      · rintro ⟨value, later, first, others, rfl⟩
        exact ⟨value, first, later, others, rfl⟩

/-- **A list is read item by item**, and from nothing but a list. -/
theorem ofValue_listOf_eq_ok_iff {α : Type} {read : Reader α} {j : Json} {values : List α} :
    ofValue (listOf read) j = .ok values ↔
      ∃ items, j = list items ∧
        List.Forall₂ (fun item value => ofValue read item = .ok value) items values := by
  cases j with
  | list items =>
      simp only [ofValue, Outline.ofJson, listOf, enter_value, fault?_list_closed, check_none,
        ok_bind, bind_eq_ok_iff, pure, Except.pure, Except.ok.injEq, readItems_ofItems_eq_ok_iff,
        exists_eq_right, list.injEq, exists_eq_left']
  | _ => simp [ofValue, Outline.ofJson, listOf, Outline.mistaken, Result.mismatch]

/-! ## Records -/

namespace Fields

variable {α : Type} {members : List (String × Json)}

/-- The record that the members of an object make, once they have been looked at. -/
def fromMembers (fields : Fields α) (members : List (String × Json)) : Result α :=
  fields.ofNames .value fun field => (Keyed.lookup field members).map Outline.ofJson

/-- A field is read from the member with its name; only without one can something stand in. -/
theorem fromMembers_field_eq_ok_iff {name : String} {read : Reader α} {fallback : Option α}
    {a : α} :
    (field name read fallback).fromMembers members = .ok a ↔
      (∃ j, Keyed.lookup name members = some j ∧ ofValue read j = .ok a) ∨
        (Keyed.lookup name members = none ∧ fallback = some a) := by
  cases found : Keyed.lookup name members with
  | some j => simp [fromMembers, field, found, ofValue]
  | none => cases fallback <;> simp [fromMembers, field, found, Result.mismatch]

theorem fromMembers_map_eq_ok_iff {β : Type} {f : α → β} {fields : Fields α} {b : β} :
    (f <$> fields).fromMembers members = .ok b ↔
      ∃ a, fields.fromMembers members = .ok a ∧ f a = b :=
  map_eq_ok_iff

theorem fromMembers_seq_eq_ok_iff {β : Type} {fields : Fields (α → β)} {last : Fields α} {b : β} :
    (fields <*> last).fromMembers members = .ok b ↔
      ∃ f, fields.fromMembers members = .ok f ∧
        ∃ a, last.fromMembers members = .ok a ∧ f a = b := by
  simp only [fromMembers, ofNames_seq, bind_eq_ok_iff, map_eq_ok_iff]

/-- **A record that is read from an object** is the one that its members make. -/
theorem fromMembers_of_record {name : String} {fields : Fields α} {a : α}
    (read : ofValue (record name fields) (object members) = .ok a) :
    fields.fromMembers members = .ok a := by
  simp only [ofValue, Outline.ofJson, record, readMembers, enter_value, ok_bind, bind_eq_ok_iff,
    funext (find_ofMembers members)] at read
  obtain ⟨-, -, -, -, made⟩ := read
  exact made

end Fields

end Json

/-! ## The parts of a status -/

/-- A model is read from a string by its name, and every other name is that of another model. -/
theorem Model.ofValue_string (name : String) :
    Json.ofValue reader (.string name)
      = .ok (if "Full" = name then full else if "Mini" = name then mini else other) := by
  show Json.Variants.ofName _ name = _
  simp only [Json.Variants.ofName, Json.Variants.named, Keyed.lookup_cons, Keyed.lookup_nil]
  split_ifs <;> rfl

/-- A feature is read from a string as the one with that name. -/
theorem Feature.ofValue_string_eq_ok_iff {name : String} {f : Feature} :
    Json.ofValue reader (.string name) = .ok f ↔ name = f.wireName := by
  constructor
  · intro read
    change Json.Variants.ofName _ name = _ at read
    simp only [Json.Variants.ofName, Json.Variants.named, Keyed.lookup_cons, Keyed.lookup_nil, all,
      List.map_cons, List.map_nil] at read
    split_ifs at read with animation subMix vod
    · obtain rfl := Except.ok.inj read
      exact animation.symm
    · obtain rfl := Except.ok.inj read
      exact subMix.symm
    · obtain rfl := Except.ok.inj read
      exact vod.symm
    · cases read
  · rintro rfl
    exact Feature.readsBack f

open Json.Fields in
/-- What the members hold that a hardware section was read from. -/
theorem Hardware.members_of_read {members : List (String × Json)} {h : Hardware}
    (read : Json.ofValue reader (.object members) = .ok h) :
    Keyed.lookup "serial" members = some (.string h.serial) ∧
      Keyed.lookup "manufacture_date" members = some (.string h.manufactureDate) ∧
      (∃ j, Keyed.lookup "device_type" members = some j ∧
        Json.ofValue Model.reader j = .ok h.model) ∧
      (∃ j, Keyed.lookup "firmware" members = some j ∧
        Json.ofValue Firmware.reader j = .ok h.firmware) ∧
      ((∃ j, Keyed.lookup "features" members = some j ∧
          Json.ofValue (Json.listOf Feature.reader) j = .ok h.features) ∨
        Keyed.lookup "features" members = none ∧ h.features = []) := by
  have made := fromMembers_of_record read
  simp only [required_eq, optional_eq, fromMembers_seq_eq_ok_iff, fromMembers_map_eq_ok_iff,
    fromMembers_field_eq_ok_iff, Json.ofValue_text_eq_ok_iff, reduceCtorEq, and_false, or_false,
    exists_eq_right, Option.some.injEq] at made
  obtain ⟨_, ⟨_, ⟨_, ⟨_, ⟨serial, isSerial, rfl⟩, date, isDate, rfl⟩, model, isModel, rfl⟩,
    firmware, isFirmware, rfl⟩, features, isFeatures, rfl⟩ := made
  refine ⟨isSerial, isDate, isModel, isFirmware, isFeatures.imp_right ?_⟩
  rintro ⟨absent, rfl⟩
  exact ⟨absent, rfl⟩

open Json.Fields in
/-- What the members hold that a device was read from. -/
theorem Device.members_of_read {members : List (String × Json)} {d : Device}
    (read : Json.ofValue reader (.object members) = .ok d) :
    Keyed.lookup "serial" members = some (.string d.serial) ∧
      ∃ j, Keyed.lookup "hardware" members = some j ∧
        Json.ofValue Hardware.reader j = .ok d.hardware := by
  have made := fromMembers_of_record read
  simp only [required_eq, fromMembers_seq_eq_ok_iff, fromMembers_map_eq_ok_iff,
    fromMembers_field_eq_ok_iff, Json.ofValue_text_eq_ok_iff, reduceCtorEq, and_false, or_false,
    exists_eq_right] at made
  obtain ⟨_, ⟨serial, isSerial, rfl⟩, hardware, isHardware, rfl⟩ := made
  exact ⟨isSerial, isHardware⟩

open Json.Fields in
/-- What the members hold that a status was read from. -/
theorem Status.members_of_read {members : List (String × Json)} {s : Status}
    (read : Json.ofValue reader (.object members) = .ok s) :
    (∃ j, Keyed.lookup "devices" members = some j ∧
        Json.ofValue (Json.listOf Device.reader) j = .ok s.devices) ∨
      Keyed.lookup "devices" members = none ∧ s.devices = [] := by
  have made := fromMembers_of_record read
  simp only [optional_eq, fromMembers_map_eq_ok_iff, fromMembers_field_eq_ok_iff,
    Option.some.injEq] at made
  obtain ⟨devices, isDevices, rfl⟩ := made
  refine isDevices.imp_right ?_
  rintro ⟨absent, rfl⟩
  exact ⟨absent, rfl⟩

/-! ## Plain documents -/

/-- An entry of the list of devices that is an object, with a hardware section that is one, and a
model and features that are strings. -/
structure Device.PlainEntry (entry : Json) : Prop where
  isObject : ∃ members, entry = .object members
  hardware : ∀ part, entry.get? ["hardware"] = some part → ∃ members, part = .object members
  model : ∀ part, entry.get? ["hardware", "device_type"] = some part → ∃ name, part = .string name
  features : ∀ feature ∈ entry.items ["hardware", "features"], ∃ name, feature = .string name

/-- A document that is an object and lists plain entries. -/
structure Status.PlainDocument (document : Json) : Prop where
  isObject : ∃ members, document = .object members
  entries : ∀ entry ∈ document.items ["devices"], Device.PlainEntry entry

/-- A device is written as a plain entry. -/
theorem Device.plainEntry_toJson (d : Device) : PlainEntry d.toJson.canonical where
  isObject := ⟨_, rfl⟩
  hardware := by
    intro part there
    simp [toJson, Json.get?_canonical_object, Keyed.lookup_cons] at there
    exact ⟨_, there.symm⟩
  model := by
    intro part there
    simp [toJson, Hardware.toJson, Json.get?_canonical_object, Keyed.lookup_cons] at there
    exact ⟨_, there.symm⟩
  features := by
    have listed : d.toJson.canonical.get? ["hardware", "features"]
        = some (.list ((d.hardware.features.map Feature.toJson).map Json.canonical)) := by
      simp [toJson, Hardware.toJson, Json.get?_canonical_object, Keyed.lookup_cons,
        Json.canonical_list]
    rw [Json.items_of_list listed]
    rintro feature mem
    obtain ⟨_, written, rfl⟩ := List.mem_map.mp mem
    obtain ⟨f, -, rfl⟩ := List.mem_map.mp written
    exact ⟨f.wireName, rfl⟩

/-- **A status is written as a plain document.** -/
theorem Status.plainDocument_toValue (s : Status) : PlainDocument s.toValue where
  isObject := ⟨_, rfl⟩
  entries := by
    have listed : s.toValue.get? ["devices"]
        = some (.list ((s.devices.map Device.toJson).map Json.canonical)) := by
      simp [toValue, toJson, Json.get?_canonical_object, Keyed.lookup_cons, Json.canonical_list]
    rw [Json.items_of_list listed]
    intro entry mem
    obtain ⟨_, written, rfl⟩ := List.mem_map.mp mem
    obtain ⟨d, -, rfl⟩ := List.mem_map.mp written
    exact d.plainEntry_toJson

/-- An entry describes a device: it has the serial of it, it names the small model exactly if the
device is of that model, and it lists the features of the device. -/
structure Device.Describes (entry : Json) (d : Device) : Prop where
  serial : entry.get? ["serial"] = some (.string d.serial)
  mini : entry.get? ["hardware", "device_type"] = some (.string "Mini") ↔ d.model = .mini
  features : entry.items ["hardware", "features"] = d.hardware.features.map Feature.toJson

/-- Features that are read from strings are those the strings name. -/
theorem Feature.eq_map_toJson_of_read {items : List Json} {features : List Feature}
    (read : List.Forall₂ (fun item f => Json.ofValue Feature.reader item = .ok f) items features)
    (plain : ∀ item ∈ items, ∃ name, item = .string name) : items = features.map toJson := by
  induction read with
  | nil => rfl
  | cons first _ ih =>
      obtain ⟨⟨name, rfl⟩, plainRest⟩ := List.forall_mem_cons.mp plain
      obtain rfl := Feature.ofValue_string_eq_ok_iff.mp first
      rw [List.map_cons, ← ih plainRest]
      rfl

theorem Feature.toJson_injective : Function.Injective toJson := by
  intro f g same
  cases f <;> cases g <;> simp [toJson, wireName] at same ⊢

/-- A device offers a feature exactly if its entry lists it by name. -/
theorem Device.Describes.hasFeature_iff {entry : Json} {d : Device} (describes : Describes entry d)
    (f : Feature) :
    d.hardware.hasFeature f = true ↔
      .string f.wireName ∈ entry.items ["hardware", "features"] := by
  rw [describes.features, Hardware.hasFeature, List.contains_iff_mem]
  exact (List.mem_map_of_injective Feature.toJson_injective).symm

/-- **A device that is read from a plain entry** is the one that the entry describes. -/
theorem Device.describes_of_read {entry : Json} {d : Device}
    (read : Json.ofValue reader entry = .ok d) (plain : PlainEntry entry) :
    Describes entry d := by
  obtain ⟨members, rfl⟩ := plain.isObject
  obtain ⟨serial, hardware, isHardware, readHardware⟩ := members_of_read read
  have inHardware : ∀ path,
      (Json.object members).get? ("hardware" :: path) = hardware.get? path := by
    intro path
    rw [Json.get?_object_cons, isHardware, Option.bind_some]
  obtain ⟨parts, rfl⟩ := plain.hardware hardware (inHardware [])
  have atPart : ∀ name,
      (Json.object members).get? ["hardware", name] = Keyed.lookup name parts := by
    intro name
    rw [inHardware, Json.get?_object_singleton]
  obtain ⟨-, -, ⟨model, isModel, readModel⟩, -, features⟩ := Hardware.members_of_read readHardware
  refine ⟨?_, ?_, ?_⟩
  · rw [Json.get?_object_singleton, serial]
  · obtain ⟨name, rfl⟩ := plain.model model ((atPart _).trans isModel)
    rw [Model.ofValue_string, Except.ok.injEq] at readModel
    rw [atPart, isModel, Option.some.injEq, Json.string.injEq, Device.model, ← readModel]
    split_ifs with full mini
    · simp [← full]
    · simp [← mini]
    · simpa using Ne.symm mini
  · rcases features with ⟨list, isList, readList⟩ | ⟨absent, none⟩
    · obtain ⟨items, rfl, readItems⟩ := Json.ofValue_listOf_eq_ok_iff.mp readList
      have listed := Json.items_of_list ((atPart _).trans isList)
      rw [listed]
      exact Feature.eq_map_toJson_of_read readItems (listed ▸ plain.features)
    · rw [Json.items_of_none ((atPart _).trans absent), none, List.map_nil]

/-- **A status that is read from a plain document** has a device for each of its entries, in their
order, and the entry describes it. -/
theorem Status.describes_of_read {document : Json} {s : Status}
    (read : Json.ofValue reader document = .ok s) (plain : PlainDocument document) :
    List.Forall₂ Device.Describes (document.items ["devices"]) s.devices := by
  obtain ⟨members, rfl⟩ := plain.isObject
  have atDevices := Json.get?_object_singleton members "devices"
  rcases members_of_read read with ⟨list, isList, readList⟩ | ⟨absent, none⟩
  · obtain ⟨items, rfl, readItems⟩ := Json.ofValue_listOf_eq_ok_iff.mp readList
    have listed := Json.items_of_list (atDevices.trans isList)
    rw [listed]
    have both := (List.forall₂_and_left _ _).mpr ⟨listed ▸ plain.entries, readItems⟩
    exact both.imp fun entry d ⟨isPlain, readEntry⟩ => Device.describes_of_read readEntry isPlain
  · rw [Json.items_of_none (atDevices.trans absent), none]
    exact .nil

end MixerPanel
