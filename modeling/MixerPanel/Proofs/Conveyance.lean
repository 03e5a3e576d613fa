import MixerPanel.Proofs.Reading

/-!
# Outlines that convey a value

The outline of a text conveys a value when it can be read as one.  That says everything about the
outline: no token in it has a fault, every list and object is closed, and what is inside conveys the
parts of the value.  Only the order of the members is lost, and what stood under a repeated key;
where no key is repeated nothing is.

* `Outline.KeysDistinct` — no object in the outline has a key twice
* `Outline.Conveys` — the outline is that of a value, in which no object has a key twice
* `Outline.Conveys.shape` — for each kind of outline, what the value is and what its parts convey
* `pass_of_any` — what can be read can be passed over
-/

namespace MixerPanel.Json

/-! ## Definitions -/

namespace Outline

/-- The keys that can be read, in their order. -/
def keys (members : List (Lexeme String × Outline)) : List String :=
  members.filterMap fun member => member.1.read.toOption

/-- No object in the outline has a key twice. -/
inductive KeysDistinct : Outline → Prop
  | fault (f : Fault) : KeysDistinct (.fault f)
  | atom (a : Lexeme Atom) : KeysDistinct (.atom a)
  | quotation (s : Lexeme String) : KeysDistinct (.quotation s)
  | list {items : List Outline} {ending : ListEnd} (each : ∀ item ∈ items, KeysDistinct item) :
      KeysDistinct (.list items ending)
  | object {members : List (Lexeme String × Outline)} {ending : ObjectEnd}
      (distinct : (keys members).Nodup) (each : ∀ member ∈ members, KeysDistinct member.2) :
      KeysDistinct (.object members ending)

/-- The outline is that of a value, and no object in it has a key twice. -/
structure Conveys (origin : Origin) (o : Outline) (v : Json) : Prop where
  any : any origin o = .ok v
  distinct : o.KeysDistinct

/-- What an outline is that conveys a value, kind by kind. -/
inductive Shape (origin : Origin) : Outline → Json → Prop
  | atom (a : Atom) : Shape origin (.atom (.ok a)) a.toJson
  | quotation (s : String) : Shape origin (.quotation (.ok s)) (.string s)
  | list {inner : Origin} {items : List Outline} {values : List Json}
      (entered : origin.enter = .ok inner)
      (each : List.Forall₂ (Conveys inner) items values) :
      Shape origin (.list items .closed) (.list values)
  | object {inner : Origin} {members : List (Lexeme String × Outline)}
      {values : List (String × Json)} (entered : origin.enter = .ok inner)
      (each : List.Forall₂
        (fun member value => member.1 = .ok value.1 ∧ Conveys inner member.2 value.2)
        members values)
      (distinct : (values.map Prod.fst).Nodup) :
      Shape origin (.object members .closed) (.object (Keyed.sort values))

end Outline

open Outline

/-! ## What can be read -/

theorem Lexeme.read_eq_ok_iff {α : Type} {l : Lexeme α} {a : α} : l.read = .ok a ↔ l = .ok a := by
  constructor
  · intro read
    refine Lexeme.eq_ok_of_content ?_
    unfold Lexeme.read at read
    split at read
    · next content => exact content.trans (congrArg _ (Except.ok.inj read))
    · cases read
  · rintro rfl
    rfl

theorem Lexeme.pass_of_eq_ok {α : Type} {l : Lexeme α} {a : α} (isOk : l = .ok a) :
    l.pass = .ok () :=
  isOk ▸ rfl

theorem check_eq_ok_iff {fault : Option Fault} {u : Unit} : check fault = .ok u ↔ fault = none := by
  cases fault <;> simp [check, Result.fault]

theorem ListEnd.fault?_eq_none_iff {ending : ListEnd} : ending.fault? = none ↔ ending = closed := by
  cases ending <;> simp [ListEnd.fault?]

theorem ObjectEnd.fault?_eq_none_iff {ending : ObjectEnd} :
    ending.fault? = none ↔ ending = closed := by
  cases ending <;> simp [ObjectEnd.fault?]

theorem anyItems_eq_ok_iff {origin : Origin} {items : List Outline} {values : List Json} :
    anyItems origin items = .ok values ↔
      List.Forall₂ (fun item value => any origin item = .ok value) items values := by
  induction items generalizing values with
  | nil => simp [anyItems, eq_comm]
  | cons item rest ih =>
      simp only [anyItems, bind_eq_ok_iff, pure, Except.pure, Except.ok.injEq, ih,
        List.forall₂_cons_left_iff]
      constructor
      · rintro ⟨value, first, later, others, rfl⟩
        exact ⟨value, later, first, others, rfl⟩
      · rintro ⟨value, later, first, others, rfl⟩
        exact ⟨value, first, later, others, rfl⟩

theorem anyMembers_eq_ok_iff {origin : Origin} {members : List (Lexeme String × Outline)}
    {values : List (String × Json)} :
    anyMembers origin members = .ok values ↔
      List.Forall₂ (fun member value => member.1 = .ok value.1 ∧
        any origin member.2 = .ok value.2) members values := by
  induction members generalizing values with
  | nil => simp [anyMembers, eq_comm]
  | cons member rest ih =>
      simp only [anyMembers, bind_eq_ok_iff, Lexeme.read_eq_ok_iff, pure, Except.pure,
        Except.ok.injEq, ih, List.forall₂_cons_left_iff, Prod.exists]
      constructor
      · rintro ⟨name, isName, value, first, later, others, rfl⟩
        exact ⟨name, value, later, ⟨isName, first⟩, others, rfl⟩
      · rintro ⟨name, value, later, ⟨isName, first⟩, others, rfl⟩
        exact ⟨name, isName, value, first, later, others, rfl⟩

theorem any_list_eq_ok_iff {origin : Origin} {items : List Outline} {ending : ListEnd} {v : Json} :
    any origin (.list items ending) = .ok v ↔
      ending = .closed ∧ ∃ inner values, origin.enter = .ok inner ∧
        List.Forall₂ (fun item value => any inner item = .ok value) items values ∧
        v = .list values := by
  simp only [any, bind_eq_ok_iff, check_eq_ok_iff, ListEnd.fault?_eq_none_iff, pure, Except.pure,
    Except.ok.injEq, anyItems_eq_ok_iff]
  constructor
  · rintro ⟨inner, entered, values, each, -, closed, rfl⟩
    exact ⟨closed, inner, values, entered, each, rfl⟩
  · rintro ⟨closed, inner, values, entered, each, rfl⟩
    exact ⟨inner, entered, values, each, (), closed, rfl⟩

theorem any_object_eq_ok_iff {origin : Origin} {members : List (Lexeme String × Outline)}
    {ending : ObjectEnd} {v : Json} :
    any origin (.object members ending) = .ok v ↔
      ending = .closed ∧ ∃ inner values, origin.enter = .ok inner ∧
        List.Forall₂ (fun member value => member.1 = .ok value.1 ∧
          any inner member.2 = .ok value.2) members values ∧
        v = .object (Keyed.sort values) := by
  simp only [any, bind_eq_ok_iff, check_eq_ok_iff, ObjectEnd.fault?_eq_none_iff, pure, Except.pure,
    Except.ok.injEq, anyMembers_eq_ok_iff]
  constructor
  · rintro ⟨inner, entered, values, each, -, closed, rfl⟩
    exact ⟨closed, inner, values, entered, each, rfl⟩
  · rintro ⟨closed, inner, values, entered, each, rfl⟩
    exact ⟨inner, entered, values, each, (), closed, rfl⟩

mutual

/-- **What can be read can be passed over.** -/
theorem pass_of_any : ∀ (o : Outline) {origin : Origin} {v : Json}, any origin o = .ok v →
    pass o = .ok ()
  | .fault _, _, _, read => by cases read
  | .atom l, _, _, read => by
      obtain ⟨a, isContent, -⟩ := map_eq_ok_iff.mp read
      obtain rfl := Lexeme.read_eq_ok_iff.mp isContent
      rfl
  | .quotation l, _, _, read => by
      obtain ⟨s, isContent, -⟩ := map_eq_ok_iff.mp read
      obtain rfl := Lexeme.read_eq_ok_iff.mp isContent
      rfl
  | .list items ending, _, _, read => by
      obtain ⟨rfl, inner, values, -, each, -⟩ := any_list_eq_ok_iff.mp read
      simp [pass, passItems_of_any items each, ListEnd.obstacle]
  | .object members ending, _, _, read => by
      obtain ⟨rfl, inner, values, -, each, -⟩ := any_object_eq_ok_iff.mp read
      simp [pass, passMembers_of_any members each, ObjectEnd.obstacle]

theorem passItems_of_any : ∀ (items : List Outline) {origin : Origin} {values : List Json},
    List.Forall₂ (fun item value => any origin item = .ok value) items values →
      passItems items = .ok ()
  | [], _, _, _ => rfl
  | item :: rest, _, _, .cons first others => by
      simp [passItems, pass_of_any item first, passItems_of_any rest others]

theorem passMembers_of_any : ∀ (members : List (Lexeme String × Outline)) {origin : Origin}
    {values : List (String × Json)},
    List.Forall₂ (fun member value => member.1 = .ok value.1 ∧
      any origin member.2 = .ok value.2) members values → passMembers members = .ok ()
  | [], _, _, _ => rfl
  | (_, o) :: rest, _, _, .cons ⟨isName, first⟩ others => by
      simp [passMembers, Lexeme.pass_of_eq_ok isName, pass_of_any o first,
        passMembers_of_any rest others]

end

namespace Outline

/-! ## The shape of an outline -/

theorem keys_of_named {members : List (Lexeme String × Outline)} {names : List String}
    (named : List.Forall₂ (fun member name => member.1 = .ok name) members names) :
    keys members = names := by
  induction named with
  | nil => rfl
  | cons isName _ ih => simp [keys, isName, Except.toOption, ← ih]

/-- **An outline that conveys a value** has the shape of that value, and its parts convey the parts
of the value. -/
theorem Conveys.shape {origin : Origin} {o : Outline} {v : Json} (conveys : Conveys origin o v) :
    Shape origin o v := by
  obtain ⟨read, distinct⟩ := conveys
  cases distinct with
  | fault f => cases read
  | atom l =>
      obtain ⟨a, isContent, rfl⟩ := map_eq_ok_iff.mp read
      obtain rfl := Lexeme.read_eq_ok_iff.mp isContent
      exact .atom a
  | quotation l =>
      obtain ⟨s, isContent, rfl⟩ := map_eq_ok_iff.mp read
      obtain rfl := Lexeme.read_eq_ok_iff.mp isContent
      exact .quotation s
  | list distinct =>
      obtain ⟨rfl, inner, values, entered, each, rfl⟩ := any_list_eq_ok_iff.mp read
      refine .list entered ?_
      exact (List.forall₂_and_left _ _).mpr ⟨distinct, each⟩ |>.imp
        fun _ _ both => ⟨both.2, both.1⟩
  | object distinctKeys distinct =>
      obtain ⟨rfl, inner, values, entered, each, rfl⟩ := any_object_eq_ok_iff.mp read
      refine .object entered ?_ ?_
      · exact (List.forall₂_and_left _ _).mpr ⟨distinct, each⟩ |>.imp
          fun _ _ both => ⟨both.2.1, both.2.2, both.1⟩
      · rw [← keys_of_named (List.forall₂_map_right_iff.mpr (each.imp fun _ _ both => both.1))]
        exact distinctKeys

theorem Conveys.pass {origin : Origin} {o : Outline} {v : Json} (conveys : Conveys origin o v) :
    Json.pass o = .ok () :=
  pass_of_any o conveys.any

end Outline

end MixerPanel.Json
