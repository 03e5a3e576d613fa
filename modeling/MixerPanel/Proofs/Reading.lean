import Mathlib.Data.List.Forall2
import Mathlib.Data.List.Nodup
import MixerPanel.Json.Choice
import MixerPanel.Json.Record
import MixerPanel.Proofs.Entries

/-!
# Reading documents

The readers go through an `Outline`, which may come from a faulty text.  The outline of a document
has no faults: everything in it can be passed over, every key can be read, and no levels of nesting
are counted.  This module says what is left of the readers there.

* `pass_ofJson` — whatever a record does not know is passed over without an error.
* `find_ofMembers` — a field is found exactly where a lookup in the members finds it.
* `survey_eq_ok` — the first walk over the members is silent when no key is repeated and every known
  field can be read.
* `Fields.Checked` — every known field has been read once a record is made; this holds of all fields
  that are put together.
* `record_ofJson` — so a record is read as soon as it can be made of its fields.
* `ReadsBack` — the reader takes the document of a value back to the value; `readsBack_listOf` and
  `readsBack_record` carry this through lists and records.

The members of a document in canonical order are `Keyed.sort` of those that were written, so
`readsBack_record` speaks about a lookup in the written members and leaves the sorting behind.
-/

namespace MixerPanel

/-! ## Results -/

section Results

variable {ε α β : Type}

@[simp] theorem ok_bind (a : α) (f : α → Except ε β) : (Except.ok a >>= f) = f a := rfl

@[simp] theorem error_bind (e : ε) (f : α → Except ε β) : (Except.error e >>= f) = .error e := rfl

@[simp] theorem except_map_ok (f : α → β) (a : α) :
    (Except.ok a : Except ε α).map f = .ok (f a) := rfl

@[simp] theorem except_map_error (f : α → β) (e : ε) :
    (Except.error e : Except ε α).map f = .error e := rfl

/-- A sequence of two attempts succeeds exactly when both do. -/
theorem bind_eq_ok_iff {attempt : Except ε α} {f : α → Except ε β} {b : β} :
    (attempt >>= f) = .ok b ↔ ∃ a, attempt = .ok a ∧ f a = .ok b := by
  cases attempt <;> simp

/-- The same where the first attempt is made for its error only. -/
theorem then_eq_ok_iff {attempt : Except ε Unit} {f : Unit → Except ε β} {b : β} :
    (attempt >>= f) = .ok b ↔ attempt = .ok () ∧ f () = .ok b := by
  cases attempt <;> simp

theorem map_eq_ok_iff {attempt : Except ε α} {f : α → β} {b : β} :
    attempt.map f = .ok b ↔ ∃ a, attempt = .ok a ∧ f a = b := by
  cases attempt <;> simp

theorem mapError_eq_ok_iff {δ : Type} {attempt : Except ε α} {f : ε → δ} {a : α} :
    attempt.mapError f = .ok a ↔ attempt = .ok a := by
  cases attempt <;> simp [Except.mapError]

end Results

namespace Json

/-- **A text is read** as the outline of it is, if nothing comes after that. -/
theorem ofText_eq_ok_iff {α : Type} {read : Reader α} {text : String} {value : α} :
    ofText read text = .ok value ↔
      read (.text Origin.maxLevels) (layOut text).root = .ok value ∧
        (layOut text).trailing = false := by
  simp only [ofText, bind_eq_ok_iff]
  cases (layOut text).trailing <;> simp [check, Result.fault, pure, Except.pure]

open Outline

/-! ## The outline of a document -/

@[simp] theorem enter_value : Origin.value.enter = .ok .value := rfl

@[simp] theorem read_ok {α : Type} (a : α) : (Lexeme.ok a).read = .ok a := rfl

@[simp] theorem pass_ok {α : Type} (a : α) : (Lexeme.ok a).pass = .ok () := rfl

@[simp] theorem fault?_list_closed : ListEnd.closed.fault? = none := rfl

@[simp] theorem fault?_object_closed : ObjectEnd.closed.fault? = none := rfl

mutual

/-- A document can be passed over. -/
theorem pass_ofJson : ∀ j : Json, pass (ofJson j) = .ok ()
  | .null | .bool _ | .number _ | .string _ => rfl
  | .list items => by simp [ofJson, pass, passItems_ofItems items, ListEnd.obstacle]
  | .object members => by simp [ofJson, pass, passMembers_ofMembers members, ObjectEnd.obstacle]

theorem passItems_ofItems : ∀ items : List Json, passItems (ofItems items) = .ok ()
  | [] => rfl
  | item :: rest => by simp [ofItems, passItems, pass_ofJson item, passItems_ofItems rest]

theorem passMembers_ofMembers :
    ∀ members : List (String × Json), passMembers (ofMembers members) = .ok ()
  | [] => rfl
  | (_, value) :: rest => by
      simp [ofMembers, passMembers, pass_ofJson value, passMembers_ofMembers rest]

end

theorem ofItems_eq_map (items : List Json) : ofItems items = items.map ofJson := by
  induction items with
  | nil => rfl
  | cons item rest ih => rw [ofItems, ih, List.map_cons]

theorem ofMembers_eq_map (members : List (String × Json)) :
    ofMembers members = members.map fun member => (.ok member.1, ofJson member.2) := by
  induction members with
  | nil => rfl
  | cons member rest ih => rw [ofMembers, ih, List.map_cons]

theorem canonicalItems_eq_map (items : List Json) : canonicalItems items = items.map canonical := by
  induction items with
  | nil => rfl
  | cons item rest ih => simp [canonicalItems, ih]

theorem canonicalMembers_eq_map (members : List (String × Json)) :
    canonicalMembers members = members.map fun member => (member.1, canonical member.2) := by
  induction members with
  | nil => rfl
  | cons member rest ih => simp [canonicalMembers, ih]

/-! ## Fields -/

namespace Fields

variable {α β : Type}

@[simp] theorem checks_map (f : α → β) (fields : Fields α) :
    (f <$> fields).checks = fields.checks := rfl

@[simp] theorem checks_seq (fields : Fields (α → β)) (last : Fields α) :
    (fields <*> last).checks = fields.checks ++ last.checks := rfl

@[simp] theorem required_eq (name : String) (read : Reader α) :
    required name read = field name read none := rfl

@[simp] theorem optional_eq (name : String) (read : Reader α) (fallback : α) :
    Fields.optional name read fallback = field name read (some fallback) := rfl

@[simp] theorem checks_field (name : String) (read : Reader α) (fallback : Option α) :
    (field name read fallback).checks = [(name, fun origin o => (read origin o).map fun _ => ())] :=
  rfl

@[simp] theorem ofNames_map (f : α → β) (fields : Fields α) (origin : Origin)
    (find : String → Option Outline) :
    (f <$> fields).ofNames origin find = (fields.ofNames origin find).map f := rfl

@[simp] theorem ofNames_seq (fields : Fields (α → β)) (last : Fields α) (origin : Origin)
    (find : String → Option Outline) :
    (fields <*> last).ofNames origin find
      = fields.ofNames origin find >>= fun f => (last.ofNames origin find).map f := by
  cases found : fields.ofNames origin find <;>
    cases lastFound : last.ofNames origin find <;>
      simp [Seq.seq, found, lastFound, pure, Except.pure]

/-- A field that is there is read, whether or not something could stand in for it. -/
theorem ofNames_field_of_some {name : String} {read : Reader α} {fallback : Option α}
    {origin : Origin} {find : String → Option Outline} {o : Outline} (found : find name = some o) :
    (field name read fallback).ofNames origin find = read origin o := by
  simp [field, found]

@[simp] theorem ofItems_map (f : α → β) (fields : Fields α) (origin : Origin) (expected : String)
    (index : Nat) (items : List Outline) (ending : ListEnd) :
    (f <$> fields).ofItems origin expected index items ending
      = (fields.ofItems origin expected index items ending).map fun (a, rest) => (f a, rest) := rfl

@[simp] theorem ofItems_seq (fields : Fields (α → β)) (last : Fields α) (origin : Origin)
    (expected : String) (index : Nat) (items : List Outline) (ending : ListEnd) :
    (fields <*> last).ofItems origin expected index items ending
      = fields.ofItems origin expected index items ending >>= fun (f, rest) =>
        (last.ofItems origin expected (index + fields.checks.length) rest ending).map
          fun (a, rest) => (f a, rest) := by
  simp only [Seq.seq]
  refine congrArg (_ >>= ·) (funext fun (f, rest) => ?_)
  cases last.ofItems origin expected (index + fields.checks.length) rest ending <;> rfl

@[simp] theorem ofItems_field_cons (name : String) (read : Reader α) (fallback : Option α)
    (origin : Origin) (expected : String) (index : Nat) (item : Outline) (rest : List Outline)
    (ending : ListEnd) :
    (field name read fallback).ofItems origin expected index (item :: rest) ending
      = (read origin item).map fun a => (a, rest) := rfl

/-- A field is found exactly where a lookup finds it. -/
theorem find_ofMembers (members : List (String × Json)) (name : String) :
    find (ofMembers members) name = (Keyed.lookup name members).map ofJson := by
  induction members with
  | nil => rfl
  | cons member rest ih =>
      obtain ⟨key, value⟩ := member
      rw [Keyed.lookup_cons, ofMembers]
      by_cases same : key = name
      · simp [find, same, Except.toOption]
      · simpa [find, same, Except.toOption] using ih

/-- **The first walk over members is silent** when no key is repeated, every member can be passed
over, and every known field can be read. -/
theorem survey_eq_ok {checks : List (String × (Origin → Outline → Result Unit))} {origin : Origin}
    {seen : List String} {members : List (Lexeme String × Outline)} {names : List String}
    (named : List.Forall₂ (fun member name => member.1.read = .ok name) members names)
    (distinct : names.Nodup) (fresh : ∀ name ∈ names, name ∉ seen)
    (passable : ∀ member ∈ members, pass member.2 = .ok ())
    (readable : ∀ member ∈ members, ∀ name, member.1.read = .ok name →
      ∀ checkField, Keyed.lookup name checks = some checkField →
        checkField origin member.2 = .ok ()) :
    survey checks origin seen members = .ok () := by
  induction named generalizing seen with
  | nil => rfl
  | @cons member name members names isName named ih =>
      obtain ⟨key, o⟩ := member
      obtain ⟨notLater, distinctRest⟩ := List.nodup_cons.mp distinct
      obtain ⟨notSeen, freshRest⟩ := List.forall_mem_cons.mp fresh
      obtain ⟨passed, passableRest⟩ := List.forall_mem_cons.mp passable
      obtain ⟨readableFirst, readableRest⟩ := List.forall_mem_cons.mp readable
      simp only [survey, isName, ok_bind]
      cases known : Keyed.lookup name checks with
      | none =>
          simp only [passed, ok_bind]
          exact ih distinctRest freshRest passableRest readableRest
      | some checkField =>
          have checked := readableFirst name isName checkField known
          simp only [notSeen, if_false, checked, ok_bind]
          -- the key counts as seen from here on, which no later member minds
          refine ih distinctRest (fun later mem => ?_) passableRest readableRest
          rw [List.mem_cons, not_or]
          exact ⟨fun same => notLater (same ▸ mem), freshRest later mem⟩

theorem named_ofMembers (members : List (String × Json)) :
    List.Forall₂ (fun member name => member.1.read = .ok name) (ofMembers members)
      (members.map Prod.fst) := by
  rw [ofMembers_eq_map, List.forall₂_map_left_iff, List.forall₂_map_right_iff, List.forall₂_same]
  exact fun _ _ => rfl

theorem passable_ofMembers (members : List (String × Json)) :
    ∀ member ∈ ofMembers members, pass member.2 = .ok () := by
  rw [ofMembers_eq_map, List.forall_mem_map]
  exact fun member _ => pass_ofJson member.2

theorem mem_of_named {members : List (Lexeme String × Outline)} {names : List String}
    (named : List.Forall₂ (fun member name => member.1.read = .ok name) members names)
    {member : Lexeme String × Outline} (mem : member ∈ members) {name : String}
    (isName : member.1.read = .ok name) : name ∈ names := by
  induction named with
  | nil => cases mem
  | cons isFirst _ ih =>
      rcases List.mem_cons.mp mem with rfl | mem
      · obtain rfl := Except.ok.inj (isFirst.symm.trans isName)
        exact List.mem_cons_self
      · exact List.mem_cons_of_mem _ (ih mem)

/-- Where no key is there twice, every member is found. -/
theorem find_of_mem {members : List (Lexeme String × Outline)} {names : List String}
    (named : List.Forall₂ (fun member name => member.1.read = .ok name) members names)
    (distinct : names.Nodup) {member : Lexeme String × Outline} (mem : member ∈ members)
    {name : String} (isName : member.1.read = .ok name) : find members name = some member.2 := by
  induction named with
  | nil => cases mem
  | @cons first firstName rest restNames isFirst namedRest ih =>
      obtain ⟨notLater, distinctRest⟩ := List.nodup_cons.mp distinct
      rcases List.mem_cons.mp mem with rfl | mem
      · simp [find, isName, Except.toOption]
      · have later : name ∈ restNames := mem_of_named namedRest mem isName
        have other : firstName ≠ name := fun same => notLater (same ▸ later)
        simpa [find, isFirst, Except.toOption, other] using ih distinctRest mem

/-- A record that is made has read every field that is there. -/
def Checked (fields : Fields α) : Prop :=
  ∀ ⦃origin : Origin⦄ ⦃find : String → Option Outline⦄ ⦃a : α⦄,
    fields.ofNames origin find = .ok a → ∀ check ∈ fields.checks, ∀ o, find check.1 = some o →
      check.2 origin o = .ok ()

theorem checked_field (name : String) (read : Reader α) (fallback : Option α) :
    (field name read fallback).Checked := by
  intro origin find a made check mem o there
  obtain rfl := List.mem_singleton.mp mem
  rw [ofNames_field_of_some there] at made
  show (read origin o).map _ = _
  rw [made]
  rfl

theorem checked_map {f : α → β} {fields : Fields α} (checked : fields.Checked) :
    (f <$> fields).Checked := by
  intro origin find b made
  obtain ⟨a, madeFirst, -⟩ := map_eq_ok_iff.mp made
  exact checked madeFirst

theorem checked_seq {fields : Fields (α → β)} {last : Fields α} (checked : fields.Checked)
    (checkedLast : last.Checked) : (fields <*> last).Checked := by
  intro origin find b made check mem o there
  rw [ofNames_seq] at made
  obtain ⟨f, madeFirst, made⟩ := bind_eq_ok_iff.mp made
  obtain ⟨a, madeLast, -⟩ := map_eq_ok_iff.mp made
  rcases List.mem_append.mp mem with mem | mem
  · exact checked madeFirst check mem o there
  · exact checkedLast madeLast check mem o there

variable {fields : Fields α}

/-- **The members of an object make a record** as soon as its fields are read, if no key is there
twice: what the first walk over the members looks at has been read then. -/
theorem readMembers_eq_ok (checked : fields.Checked) {origin : Origin}
    {members : List (Lexeme String × Outline)} {names : List String} {a : α}
    (named : List.Forall₂ (fun member name => member.1.read = .ok name) members names)
    (distinct : names.Nodup) (passable : ∀ member ∈ members, pass member.2 = .ok ())
    (made : fields.ofNames origin (find members) = .ok a) :
    fields.readMembers origin members .closed = .ok a := by
  have silent : survey fields.checks origin [] members = .ok () := by
    refine survey_eq_ok named distinct (fun _ _ => List.not_mem_nil) passable ?_
    intro member mem name isName checkField known
    exact checked made _ (Keyed.mem_of_lookup known) _ (find_of_mem named distinct mem isName)
  simp [readMembers, silent, made]

theorem readMembers_ofMembers (checked : fields.Checked) {origin : Origin}
    {members : List (String × Json)} {a : α} (distinct : (members.map Prod.fst).Nodup)
    (made : fields.ofNames origin (fun field => (Keyed.lookup field members).map ofJson) = .ok a) :
    fields.readMembers origin (ofMembers members) .closed = .ok a := by
  have found : find (ofMembers members) = fun field => (Keyed.lookup field members).map ofJson :=
    funext (find_ofMembers members)
  exact readMembers_eq_ok checked (named_ofMembers members) distinct (passable_ofMembers members)
    (found ▸ made)

/-- **A record is read from a document** with distinct keys as soon as its fields are. -/
theorem record_ofJson (checked : fields.Checked) {name : String} {origin inner : Origin}
    {members : List (String × Json)} {a : α} (entered : origin.enter = .ok inner)
    (distinct : (members.map Prod.fst).Nodup)
    (made : fields.ofNames inner (fun field => (Keyed.lookup field members).map ofJson) = .ok a) :
    record name fields origin (ofJson (.object members)) = .ok a := by
  simp [ofJson, record, entered, readMembers_ofMembers checked distinct made]

/-- A record without names is read from a list as soon as its fields use up the items. -/
theorem tuple_ofJson {name : String} {origin inner : Origin} {items : List Json} {a : α}
    (entered : origin.enter = .ok inner)
    (made : ∀ expected,
      fields.ofItems inner expected 0 (Outline.ofItems items) .closed = .ok (a, [])) :
    tuple name fields origin (ofJson (.list items)) = .ok a := by
  simp [ofJson, tuple, Fields.readItems, entered, made, ListEnd.surplus, pure, Except.pure]

end Fields

/-! ## Reading back what was written -/

/-- The reader takes the document of a value back to the value. -/
abbrev ReadsBack {α : Type} (read : Reader α) (write : α → Json) : Prop :=
  ∀ a, read .value (ofJson (canonical (write a))) = .ok a

theorem readsBack_text : ReadsBack text string := fun _ => rfl

theorem readsBack_word32 : ReadsBack word32 fun n => nat n.toUInt64 := by
  intro n
  have bound : n.toNat < UInt32.size := n.toNat_lt
  simp [canonical, ofJson, word32, natural, Lexeme.ok, bound]

theorem readsBack_listOf {α : Type} {read : Reader α} {write : α → Json}
    (back : ReadsBack read write) :
    ReadsBack (listOf read) fun items => list (items.map write) := by
  intro items
  have each : readItems read .value (ofItems (canonicalItems (items.map write))) = .ok items := by
    induction items with
    | nil => rfl
    | cons item rest ih =>
        simp [canonicalItems, ofItems, readItems, back item, ih, pure, Except.pure]
  simp [canonical, ofJson, listOf, each, pure, Except.pure]

/-- **A record is read back** as soon as its fields are, whatever the order in which the members are
written. -/
theorem Fields.readsBack_record {α : Type} {name : String} {fields : Fields α}
    (checked : fields.Checked) {members : α → List (String × Json)}
    (made : ∀ a, fields.ofNames .value (fun field =>
      (Keyed.lookup field (members a).reverse).map fun value => ofJson (canonical value)) = .ok a) :
    ReadsBack (record name fields) fun a => object (members a) := by
  intro a
  rw [canonical, canonicalMembers_eq_map]
  refine record_ofJson checked enter_value (Keyed.ascending_sort _).nodup_keys ?_
  simpa only [Keyed.lookup_sort, ← List.map_reverse, Keyed.lookup_map, Option.map_map,
    Function.comp_def] using made a

/-- A variant without content is read back from its name. -/
theorem choice_ofJson_string {α : Type} {variants : Variants α} {name : String} {a : α}
    (named : variants.ofName name = .ok a) :
    variants.choice .value (ofJson (canonical (string name))) = .ok a := named

end Json

end MixerPanel
