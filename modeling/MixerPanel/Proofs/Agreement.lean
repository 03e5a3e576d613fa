import MixerPanel.Proofs.Conveyance

/-!
# Reading a text and reading its value

A text is read in one go, and what is not needed is passed over without being built; a value is
there as a whole before it is read.  Both ways use the same readers, so that the question is what
the readers make of two outlines: that of the text, and that of the value which the text is.  The
members of the value are sorted, its levels of nesting are not counted, and a few errors have
another wording.  None of this decides whether something can be read, or what is read.

* `Alike` — two attempts fail together, or succeed with related results
* `Agrees` — a reader takes from every outline what it takes from the value that the outline conveys
* `agrees_listOf`, `agrees_choice`, `agrees_tuple`, `agrees_record` — one lemma per combinator of
  readers; `Fields.Agrees` is the law for the fields of a record, with one lemma for each way in
  which fields are put together

That an outline conveys a value is used through `Conveys.shape`, which says for each kind of outline
what the value is and what its parts convey.
-/

namespace MixerPanel

/-! ## Attempts that end alike -/

/-- Two attempts both fail, or both succeed and their results are related. -/
inductive Alike {ε δ α β : Type} (R : α → β → Prop) : Except ε α → Except δ β → Prop
  | ok {a : α} {b : β} (related : R a b) : Alike R (.ok a) (.ok b)
  | error {e : ε} {f : δ} : Alike R (.error e) (.error f)

namespace Alike

variable {ε δ η α β α' β' : Type} {R : α → β → Prop} {S : α' → β' → Prop}
  {x : Except ε α} {y : Except δ β}

theorem refl (x : Except ε α) : Alike (· = ·) x x := by
  cases x with
  | ok a => exact .ok rfl
  | error e => exact .error

theorem symm {x : Except ε α} {y : Except δ α} (alike : Alike (· = ·) x y) :
    Alike (· = ·) y x := by
  cases alike with
  | ok same => exact .ok same.symm
  | error => exact .error

theorem trans {x : Except ε α} {y : Except δ α} {z : Except η α} (first : Alike (· = ·) x y)
    (second : Alike (· = ·) y z) : Alike (· = ·) x z := by
  cases first with
  | ok same =>
      cases second with
      | ok same' => exact .ok (same.trans same')
  | error =>
      cases second with
      | error => exact .error

theorem eq_ok {x : Except ε α} {a : α} (alike : Alike (· = ·) x (.ok a : Except δ α)) :
    x = .ok a := by
  cases alike with
  | ok same => exact congrArg _ same

theorem bind {f : α → Except ε α'} {g : β → Except δ β'} (first : Alike R x y)
    (next : ∀ a b, R a b → Alike S (f a) (g b)) : Alike S (x >>= f) (y >>= g) := by
  cases first with
  | ok related => exact next _ _ related
  | error => exact .error

theorem map {f : α → α'} {g : β → β'} (first : Alike R x y) (next : ∀ a b, R a b → S (f a) (g b)) :
    Alike S (x.map f) (y.map g) := by
  cases first with
  | ok related => exact .ok (next _ _ related)
  | error => exact .error

theorem map_eq {x : Except ε α} {y : Except δ α} (f : α → α') (alike : Alike (· = ·) x y) :
    Alike (· = ·) (x.map f) (y.map f) :=
  alike.map fun _ _ => congrArg f

end Alike

namespace Json

open Outline

/-! ## Readers of plain types -/

/-- The reader takes from every outline what it takes from the value that the outline conveys, or
fails with both. -/
def Agrees {α : Type} (read : Reader α) : Prop :=
  ∀ origin o v, Conveys origin o v → Alike (· = ·) (read origin o) (ofValue read v)

/-- **A reader that looks at the outermost token only** takes the same from both, since that token
is the same. -/
theorem agrees_of_outermost {α : Type} {read : Reader α}
    (origins : ∀ origin o, read origin o = read .value o)
    (lists : ∀ items ending values,
      read .value (.list items ending) = ofValue read (.list values))
    (objects : ∀ members ending values,
      read .value (.object members ending) = ofValue read (.object values)) : Agrees read := by
  intro origin o v conveys
  rw [origins]
  cases conveys.shape with
  | atom a => cases a <;> exact .refl _
  | quotation s => exact .refl _
  | list entered each => exact lists _ _ _ ▸ .refl _
  | object entered each distinct => exact objects _ _ _ ▸ .refl _

theorem agrees_text : Agrees text :=
  agrees_of_outermost (fun _ o => by cases o <;> rfl) (fun _ _ _ => rfl) fun _ _ _ => rfl

theorem agrees_unit : Agrees unit := by
  refine agrees_of_outermost (fun origin o => ?_) (fun _ _ _ => rfl) fun _ _ _ => rfl
  fun_cases unit origin o <;> simp_all [unit]

theorem agrees_natural (bound : Nat) (name : String) : Agrees (natural bound name) := by
  refine agrees_of_outermost (fun origin o => ?_) (fun _ _ _ => rfl) fun _ _ _ => rfl
  fun_cases natural bound name origin o <;> simp_all [natural]

theorem agrees_word32 : Agrees word32 := fun origin o v conveys =>
  (agrees_natural _ _ origin o v conveys).map_eq UInt32.ofNat

/-! ## Lists and choices -/

section Combinators

variable {α : Type}

theorem alike_readItems {read : Reader α} (agrees : Agrees read) {origin : Origin}
    {items : List Outline} {values : List Json}
    (each : List.Forall₂ (Conveys origin) items values) :
    Alike (· = ·) (readItems read origin items) (readItems read .value (ofItems values)) := by
  induction each with
  | nil => exact .ok rfl
  | cons first _ ih =>
      refine (agrees _ _ _ first).bind fun a _ same => ?_
      subst same
      refine ih.bind fun as _ same => ?_
      subst same
      exact .ok rfl

theorem agrees_listOf {read : Reader α} (agrees : Agrees read) : Agrees (listOf read) := by
  intro origin o v conveys
  cases conveys.shape with
  | atom a => cases a <;> exact .error
  | quotation s => exact .error
  | list entered each =>
      simp only [ofValue, ofJson, listOf, entered, enter_value, ok_bind, fault?_list_closed,
        check_none]
      refine (alike_readItems agrees each).bind fun values _ same => ?_
      subst same
      exact .ok rfl
  | object entered each distinct => exact .error

/-- Every variant with a content agrees on the content. -/
def Variants.Agrees (variants : Variants α) : Prop :=
  ∀ name read, variants.named name = .ok (.holding read) → Json.Agrees read

variable {variants : Variants α}

theorem alike_ofMember (agrees : variants.Agrees) {origin : Origin} {o : Outline} {v : Json}
    (conveys : Conveys origin o v) (name : String) :
    Alike (· = ·) (variants.ofMember origin name o) (variants.ofMember .value name (ofJson v)) := by
  unfold Variants.ofMember
  cases named : variants.named name with
  | error e => exact .error
  | ok variant =>
      cases variant with
      | plain a => exact (agrees_unit origin o v conveys).bind fun _ _ _ => .ok rfl
      | holding read => exact agrees name read named origin o v conveys

/-- An object chooses a variant only if it has one member. -/
theorem choice_of_length_ne_one (variants : Variants α) (origin : Origin)
    {members : List (Lexeme String × Outline)} (several : members.length ≠ 1) :
    ∃ e, variants.choice origin (.object members .closed) = .error e := by
  cases origin with
  | text levels =>
      simp only [Variants.choice]
      cases (Origin.text levels).enter with
      | error e => exact ⟨e, rfl⟩
      | ok inner =>
          match members, several with
          | [], _ => exact ⟨_, rfl⟩
          | (key, o) :: second :: rest, _ =>
              -- whatever the first member is, the second is one too many
              cases isName : key.read with
              | error e => exact ⟨e, by simp [Variants.ofMembers, isName]⟩
              | ok name =>
                  cases chosen : variants.ofMember inner name o with
                  | error e => exact ⟨e, by simp [Variants.ofMembers, isName, chosen]⟩
                  | ok a => exact ⟨_, by simp [Variants.ofMembers, isName, chosen]; rfl⟩
  | value | setAside =>
      match members, several with
      | [], _ => exact ⟨_, rfl⟩
      | _ :: _ :: _, _ => exact ⟨_, rfl⟩

theorem choice_of_member {origin inner : Origin} (entered : origin.enter = .ok inner)
    (name : String) (o : Outline) :
    variants.choice origin (.object [(.ok name, o)] .closed) = variants.ofMember inner name o := by
  cases origin with
  | text levels =>
      simp only [Variants.choice, Variants.ofMembers, entered, read_ok, ok_bind]
      cases variants.ofMember inner name o <;> rfl
  | value | setAside =>
      obtain rfl := Except.ok.inj entered
      rfl

/-- **A choice** is the same from both. -/
theorem agrees_choice (agrees : variants.Agrees) : Agrees variants.choice := by
  intro origin o v conveys
  cases conveys.shape with
  | atom a => cases origin <;> cases a <;> exact .error
  | quotation s => cases origin <;> exact .refl _
  | list entered each => cases origin <;> exact .error
  | @object inner members values entered each distinct =>
      by_cases single : members.length = 1
      · obtain ⟨⟨key, o⟩, rfl⟩ := List.length_eq_one_iff.mp single
        obtain ⟨⟨name, value⟩, _, ⟨isName, conveysValue⟩, nothing, rfl⟩ :=
          List.forall₂_cons_left_iff.mp each
        cases nothing
        obtain rfl : key = .ok name := isName
        rw [choice_of_member entered]
        exact alike_ofMember agrees conveysValue name
      · have length : (ofMembers (Keyed.sort values)).length = members.length := by
          rw [ofMembers_eq_map, List.length_map, (Keyed.perm_sort distinct).length_eq,
            each.length_eq]
        obtain ⟨e, first⟩ := choice_of_length_ne_one variants origin single
        obtain ⟨f, second⟩ := choice_of_length_ne_one variants .value (length ▸ single)
        show Alike _ _ (variants.choice .value (.object (ofMembers (Keyed.sort values)) .closed))
        rw [first, second]
        exact .error

/-! ## Records -/

namespace Fields

/-- The fields make the same record from both, and what is made has been checked. -/
structure Agrees (fields : Fields α) : Prop where
  ofNames : ∀ {origin : Origin} {find : String → Option Outline} {found : String → Option Json},
    (∀ name, Option.Rel (Conveys origin) (find name) (found name)) →
      Alike (· = ·) (fields.ofNames origin find)
        (fields.ofNames .value fun name => (found name).map ofJson)
  ofItems : ∀ {origin : Origin} {items : List Outline} {values : List Json} (expected : String)
    (index : Nat), List.Forall₂ (Conveys origin) items values →
      Alike (fun one other => one.1 = other.1 ∧
          ∃ left, other.2 = Outline.ofItems left ∧ List.Forall₂ (Conveys origin) one.2 left)
        (fields.ofItems origin expected index items .closed)
        (fields.ofItems .value expected index (Outline.ofItems values) .closed)
  checked : fields.Checked

theorem agrees_field {read : Reader α} (agrees : Json.Agrees read) (name : String)
    (fallback : Option α) : (field name read fallback).Agrees where
  ofNames := by
    intro origin find found related
    have here := related name
    simp only [field]
    generalize find name = o at here
    generalize found name = v at here
    cases here with
    | some conveys => exact agrees _ _ _ conveys
    | none => cases fallback <;> exact .refl _
  ofItems := by
    intro origin items values expected index each
    cases each with
    | nil => cases fallback with
      | some a => exact .ok ⟨rfl, [], rfl, .nil⟩
      | none => exact .error
    | cons first others =>
        exact (agrees _ _ _ first).map fun _ _ same => ⟨same, _, rfl, others⟩
  checked := checked_field name read fallback

variable {β : Type}

theorem Agrees.map {fields : Fields α} (agrees : fields.Agrees) (f : α → β) :
    (f <$> fields).Agrees where
  ofNames related := (agrees.ofNames related).map_eq f
  ofItems expected index each :=
    (agrees.ofItems expected index each).map fun _ _ both => ⟨congrArg f both.1, both.2⟩
  checked := checked_map agrees.checked

theorem Agrees.seq {fields : Fields (α → β)} {last : Fields α} (agrees : fields.Agrees)
    (agreesLast : last.Agrees) : (fields <*> last).Agrees where
  ofNames related := by
    rw [ofNames_seq, ofNames_seq]
    refine (agrees.ofNames related).bind fun f _ same => ?_
    subst same
    exact (agreesLast.ofNames related).map_eq f
  ofItems expected index each := by
    rw [ofItems_seq, ofItems_seq]
    refine (agrees.ofItems expected index each).bind ?_
    rintro ⟨f, rest⟩ ⟨_, _⟩ ⟨rfl, left, rfl, eachRest⟩
    exact (agreesLast.ofItems expected _ eachRest).map fun _ _ both =>
      ⟨congrArg f both.1, both.2⟩
  checked := checked_seq agrees.checked agreesLast.checked

variable {fields : Fields α}

/-- The first walk over the members decides nothing: where it fails, the record cannot be made. -/
theorem alike_readMembers (checked : fields.Checked) (origin : Origin)
    {members : List (Lexeme String × Outline)} {names : List String}
    (named : List.Forall₂ (fun member name => member.1.read = .ok name) members names)
    (distinct : names.Nodup) (passable : ∀ member ∈ members, pass member.2 = .ok ()) :
    Alike (· = ·) (fields.readMembers origin members .closed)
      (fields.ofNames origin (find members)) := by
  cases made : fields.ofNames origin (find members) with
  | error e =>
      simp only [readMembers, fault?_object_closed, check_none, ok_bind, made]
      cases survey fields.checks origin [] members <;> exact .error
  | ok a =>
      rw [readMembers_eq_ok checked named distinct passable made]
      exact .ok rfl

theorem rel_find {origin : Origin} {members : List (Lexeme String × Outline)}
    {values : List (String × Json)}
    (each : List.Forall₂ (fun member value => member.1 = .ok value.1 ∧
      Conveys origin member.2 value.2) members values) (name : String) :
    Option.Rel (Conveys origin) (find members name) (Keyed.lookup name values) := by
  induction each with
  | nil => exact .none
  | @cons member value _ _ first _ ih =>
      obtain ⟨key, o⟩ := member
      obtain ⟨k, v⟩ := value
      obtain ⟨rfl, conveys⟩ : key = .ok k ∧ Conveys origin o v := first
      rw [Keyed.lookup_cons]
      split_ifs with same
      · simpa [find, same, Except.toOption] using Option.Rel.some conveys
      · simpa [find, same, Except.toOption] using ih

/-- The members of an object make the record that is made of the values found under their names. -/
theorem Agrees.alike_ofNames (agrees : fields.Agrees) {origin : Origin}
    {members : List (Lexeme String × Outline)} {values : List (String × Json)}
    (each : List.Forall₂ (fun member value => member.1 = .ok value.1 ∧
      Conveys origin member.2 value.2) members values)
    (distinct : (values.map Prod.fst).Nodup) :
    Alike (· = ·) (fields.readMembers origin members .closed)
      (fields.ofNames .value fun name => (Keyed.lookup name values).map ofJson) := by
  have named : List.Forall₂ (fun member name => member.1.read = .ok name) members
      (values.map Prod.fst) :=
    List.forall₂_map_right_iff.mpr
      (each.imp fun _ _ both => Lexeme.read_eq_ok_iff.mpr both.1)
  have passable : ∀ member ∈ members, pass member.2 = .ok () :=
    ((List.forall₂_and_left _ _).mp (each.imp fun _ _ both => ⟨both.2.pass, both.1⟩)).1
  exact (alike_readMembers agrees.checked origin named distinct passable).trans
    (agrees.ofNames (rel_find each))

/-- **The members of an object** make the same record as those of the value, which are sorted. -/
theorem Agrees.readMembers (agrees : fields.Agrees) {origin : Origin}
    {members : List (Lexeme String × Outline)} {values : List (String × Json)}
    (each : List.Forall₂ (fun member value => member.1 = .ok value.1 ∧
      Conveys origin member.2 value.2) members values)
    (distinct : (values.map Prod.fst).Nodup) :
    Alike (· = ·) (fields.readMembers origin members .closed)
      (fields.readMembers .value (ofMembers (Keyed.sort values)) .closed) := by
  have sorted := alike_readMembers agrees.checked .value (named_ofMembers (Keyed.sort values))
    (Keyed.ascending_sort values).nodup_keys (passable_ofMembers _)
  have found : find (ofMembers (Keyed.sort values)) =
      fun name => (Keyed.lookup name values).map ofJson := by
    funext name
    rw [find_ofMembers, Keyed.lookup_sort_of_nodup distinct]
  rw [found] at sorted
  exact (agrees.alike_ofNames each distinct).trans sorted.symm

/-- **The items of a list** make the same record as those of the value. -/
theorem Agrees.readItems (agrees : fields.Agrees) (expected : String) {origin : Origin}
    {items : List Outline} {values : List Json}
    (each : List.Forall₂ (Conveys origin) items values) :
    Alike (· = ·) (fields.readItems expected origin items .closed)
      (fields.readItems expected .value (Outline.ofItems values) .closed) := by
  refine (agrees.ofItems expected 0 each).bind ?_
  rintro ⟨a, rest⟩ ⟨_, _⟩ ⟨rfl, left, rfl, eachRest⟩
  cases eachRest with
  | nil => exact .ok rfl
  | cons => exact .error

end Fields

theorem agrees_record {fields : Fields α} (agrees : fields.Agrees) (name : String) :
    Agrees (fields.record name) := by
  intro origin o v conveys
  cases conveys.shape with
  | atom a => cases a <;> exact .error
  | quotation s => exact .error
  | list entered each =>
      simp only [ofValue, ofJson, Fields.record, entered, enter_value, ok_bind]
      exact agrees.readItems _ each
  | object entered each distinct =>
      simp only [ofValue, ofJson, Fields.record, entered, enter_value, ok_bind]
      exact agrees.readMembers each distinct

theorem agrees_tuple {fields : Fields α} (agrees : fields.Agrees) (name : String) :
    Agrees (fields.tuple name) := by
  intro origin o v conveys
  cases conveys.shape with
  | atom a => cases a <;> exact .error
  | quotation s => exact .error
  | list entered each =>
      simp only [ofValue, ofJson, Fields.tuple, entered, enter_value, ok_bind]
      exact agrees.readItems _ each
  | object entered each distinct => exact .error

end Combinators

end Json

end MixerPanel
