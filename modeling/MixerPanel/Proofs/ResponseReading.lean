import MixerPanel.Proofs.Agreement
import MixerPanel.Proofs.Layout
import MixerPanel.Proofs.ReadFrom
import MixerPanel.Protocol.Frame

/-!
# A response is the same from a text and from its value

An operation of a patch is read in two walks.  The first looks for its kind and sets the other
members aside as values; the second reads these as the fields of that kind, without any limit of
nesting.  So the kind may stand before its fields, between them or after them, and neither the order
of the members nor the way in which they are written matters to the operation.

* `ordered_of_any` — what is read from a text is in canonical order
* `Outline.Conveys.unlimited` — what is set aside is still the same value
* `Operation.fromValue` — the operation that a value is, said without an order of the members
* `Operation.agrees`, `Response.agrees` — an operation, and a whole response, is what its value is
-/

namespace MixerPanel

namespace Json

open Outline Fields

/-! ## What is read is a document -/

mutual

/-- **Whatever is read** as a value has its members in canonical order. -/
theorem ordered_of_any : ∀ (o : Outline) {origin : Origin} {v : Json}, any origin o = .ok v →
    v.Ordered
  | .fault _, _, _, read => by cases read
  | .atom _, _, _, read => by
      obtain ⟨a, -, rfl⟩ := map_eq_ok_iff.mp read
      cases a <;> trivial
  | .quotation _, _, _, read => by
      obtain ⟨s, -, rfl⟩ := map_eq_ok_iff.mp read
      trivial
  | .list items _, _, _, read => by
      obtain ⟨-, inner, values, -, each, rfl⟩ := any_list_eq_ok_iff.mp read
      exact ordered_list.mpr (ordered_of_anyItems items each)
  | .object members _, _, _, read => by
      obtain ⟨-, inner, values, -, each, rfl⟩ := any_object_eq_ok_iff.mp read
      exact ordered_object.mpr ⟨Keyed.ascending_sort _, fun member mem =>
        ordered_of_anyMembers members each member (Keyed.mem_of_mem_sort mem)⟩

theorem ordered_of_anyItems : ∀ (items : List Outline) {origin : Origin} {values : List Json},
    List.Forall₂ (fun item value => any origin item = .ok value) items values →
      ∀ value ∈ values, value.Ordered
  | [], _, _, .nil => nofun
  | item :: rest, _, _, .cons first others =>
      List.forall_mem_cons.mpr ⟨ordered_of_any item first, ordered_of_anyItems rest others⟩

theorem ordered_of_anyMembers : ∀ (members : List (Lexeme String × Outline)) {origin : Origin}
    {values : List (String × Json)},
    List.Forall₂ (fun member value => member.1 = .ok value.1 ∧
      any origin member.2 = .ok value.2) members values → ∀ value ∈ values, value.2.Ordered
  | [], _, _, .nil => nofun
  | (_, o) :: rest, _, _, .cons first others =>
      List.forall_mem_cons.mpr ⟨ordered_of_any o first.2, ordered_of_anyMembers rest others⟩

end

mutual

/-- Where no level is counted, whatever could be read before is read again. -/
theorem any_of_any {free : Origin} (unlimited : free.enter = .ok free) : ∀ (o : Outline)
    {origin : Origin} {v : Json}, any origin o = .ok v → any free o = .ok v
  | .fault _, _, _, read => read
  | .atom _, _, _, read => read
  | .quotation _, _, _, read => read
  | .list items _, _, _, read => by
      obtain ⟨closed, inner, values, -, each, rfl⟩ := any_list_eq_ok_iff.mp read
      exact any_list_eq_ok_iff.mpr
        ⟨closed, free, values, unlimited, any_of_anyItems unlimited items each, rfl⟩
  | .object members _, _, _, read => by
      obtain ⟨closed, inner, values, -, each, rfl⟩ := any_object_eq_ok_iff.mp read
      exact any_object_eq_ok_iff.mpr
        ⟨closed, free, values, unlimited, any_of_anyMembers unlimited members each, rfl⟩

theorem any_of_anyItems {free : Origin} (unlimited : free.enter = .ok free) :
    ∀ (items : List Outline) {origin : Origin} {values : List Json},
      List.Forall₂ (fun item value => any origin item = .ok value) items values →
        List.Forall₂ (fun item value => any free item = .ok value) items values
  | [], _, _, .nil => .nil
  | item :: rest, _, _, .cons first others =>
      .cons (any_of_any unlimited item first) (any_of_anyItems unlimited rest others)

theorem any_of_anyMembers {free : Origin} (unlimited : free.enter = .ok free) :
    ∀ (members : List (Lexeme String × Outline)) {origin : Origin} {values : List (String × Json)},
      List.Forall₂ (fun member value => member.1 = .ok value.1 ∧
        any origin member.2 = .ok value.2) members values →
        List.Forall₂ (fun member value => member.1 = .ok value.1 ∧
          any free member.2 = .ok value.2) members values
  | [], _, _, .nil => .nil
  | (_, o) :: rest, _, _, .cons first others =>
      .cons ⟨first.1, any_of_any unlimited o first.2⟩ (any_of_anyMembers unlimited rest others)

end

mutual

/-- In canonical order no key is there twice. -/
theorem keysDistinct_of_ordered : ∀ j : Json, j.Ordered → (ofJson j).KeysDistinct
  | .null, _ | .bool _, _ | .number _, _ => .atom _
  | .string _, _ => .quotation _
  | .list items, ordered =>
      keysDistinct_ofJson_list.mpr (keysDistinct_items items (ordered_list.mp ordered))
  | .object members, ordered =>
      have ⟨ascending, each⟩ := ordered_object.mp ordered
      keysDistinct_ofJson_object.mpr ⟨ascending.nodup_keys, keysDistinct_members members each⟩

theorem keysDistinct_items : ∀ items : List Json, (∀ item ∈ items, item.Ordered) →
    ∀ item ∈ items, (ofJson item).KeysDistinct
  | [], _ => nofun
  | item :: rest, ordered =>
      have ⟨first, others⟩ := List.forall_mem_cons.mp ordered
      List.forall_mem_cons.mpr ⟨keysDistinct_of_ordered item first, keysDistinct_items rest others⟩

theorem keysDistinct_members : ∀ members : List (String × Json),
    (∀ member ∈ members, member.2.Ordered) → ∀ member ∈ members, (ofJson member.2).KeysDistinct
  | [], _ => nofun
  | (_, value) :: rest, ordered =>
      have ⟨first, others⟩ := List.forall_mem_cons.mp ordered
      List.forall_mem_cons.mpr
        ⟨keysDistinct_of_ordered value first, keysDistinct_members rest others⟩

end

section

variable {origin : Origin} {o : Outline} {v : Json}

/-- A value that was read is conveyed by its own outline. -/
theorem Outline.Conveys.ofJson (conveys : Conveys origin o v) :
    Conveys .value (Outline.ofJson v) v := by
  have ordered := ordered_of_any o conveys.any
  have room : Origin.value.Fits v := trivial
  refine ⟨?_, keysDistinct_of_ordered v ordered⟩
  rw [any_ofJson v room, canonical_of_ordered v ordered]

theorem Outline.Conveys.unlimited (conveys : Conveys origin o v) :
    Conveys .setAside o v :=
  ⟨any_of_any rfl o conveys.any, conveys.distinct⟩

/-- **A reader agrees** if what it takes is determined by the value. -/
theorem agrees_of_determined {α : Type} {read : Reader α} (made : Json → Result α)
    (determined : ∀ origin o v, Conveys origin o v → Alike (· = ·) (read origin o) (made v)) :
    Agrees read := by
  intro origin o v conveys
  exact (determined _ _ _ conveys).trans (determined _ _ _ conveys.ofJson).symm

end

theorem agrees_any : Agrees any :=
  agrees_of_determined Except.ok fun origin o v conveys => by
    rw [conveys.any]
    exact .ok rfl

/-! ## Operations -/

theorem OperationKind.agrees : Agrees reader :=
  agrees_of_outermost (fun _ o => by cases o <;> rfl) (fun _ _ _ => rfl) fun _ _ _ => rfl

theorem OperationKind.agrees_fields (kind : OperationKind) : kind.fields.Agrees := by
  cases kind <;>
    apply_rules [Fields.Agrees.seq, Fields.Agrees.map, agrees_field, agrees_text, agrees_any]

namespace Operation

section Members

variable {origin : Origin} {members : List (Lexeme String × Outline)}
  {values : List (String × Json)}

/-- Without a member that names the kind, the first walk finds nothing new. -/
theorem surveyTag_of_untagged (each : List.Forall₂ (fun member value => member.1 = .ok value.1 ∧
      Conveys origin member.2 value.2) members values)
    (none : ∀ value ∈ values, value.1 ≠ tag) (kind : Option OperationKind) :
    surveyTag origin kind members = .ok kind := by
  induction each with
  | nil => rfl
  | @cons member value members values first _ ih =>
      obtain ⟨key, o⟩ := member
      obtain ⟨rfl, conveys⟩ : key = .ok value.1 ∧ Conveys origin o value.2 := first
      obtain ⟨other, noneLater⟩ := List.forall_mem_cons.mp none
      simp [surveyTag, other, conveys.any, ih noneLater]

/-- **The first walk finds the kind** wherever it stands. -/
theorem alike_surveyTag (each : List.Forall₂ (fun member value => member.1 = .ok value.1 ∧
      Conveys origin member.2 value.2) members values) (distinct : (values.map Prod.fst).Nodup) :
    Alike (· = ·) (surveyTag origin none members)
      (match Keyed.lookup tag values with
        | none => .ok none
        | some j => (ofValue OperationKind.reader j).map some) := by
  induction each with
  | nil => exact .ok rfl
  | @cons member value members values first others ih =>
      obtain ⟨key, o⟩ := member
      obtain ⟨name, v⟩ := value
      obtain ⟨rfl, conveys⟩ : key = .ok name ∧ Conveys origin o v := first
      obtain ⟨notLater, distinctLater⟩ := List.nodup_cons.mp distinct
      rw [Keyed.lookup_cons]
      by_cases isTag : name = tag
      · subst isTag
        have later : ∀ found, surveyTag origin (some found) members = .ok (some found) :=
          fun found => surveyTag_of_untagged others
            (fun value mem same => notLater (List.mem_map.mpr ⟨value, mem, same⟩)) _
        simp only [surveyTag, read_ok, ok_bind, if_true, Option.isSome_none, Bool.false_eq_true,
          if_false, later]
        exact (OperationKind.agrees _ _ _ conveys).map_eq some
      · simp only [surveyTag, read_ok, ok_bind, isTag, if_false, conveys.any]
        exact ih distinctLater

/-- What is set aside are the values under the other names. -/
theorem each_untagged (each : List.Forall₂ (fun member value => member.1 = .ok value.1 ∧
      Conveys origin member.2 value.2) members values) :
    List.Forall₂ (fun member value => member.1 = .ok value.1 ∧
        Conveys .setAside member.2 value.2)
      (untagged members) (values.filter fun value => value.1 != tag) := by
  induction each with
  | nil => exact .nil
  | @cons member value members values first _ ih =>
      obtain ⟨key, o⟩ := member
      obtain ⟨name, v⟩ := value
      obtain ⟨rfl, conveys⟩ : key = .ok name ∧ Conveys origin o v := first
      by_cases isTag : name = tag
      · simpa [untagged, isTag, Except.toOption] using ih
      · rw [untagged, List.filter_cons_of_pos (by simpa [Except.toOption] using isTag),
          List.filter_cons_of_pos (by simpa using isTag)]
        exact .cons ⟨rfl, conveys.unlimited⟩ ih

end Members

/-- The operation that a value is.  Neither its members nor those of its parts have an order. -/
def fromValue : Json → Result Operation
  | .object members => do
    match Keyed.lookup tag members with
    | none => .mismatch (.missingField tag)
    | some j =>
      let kind ← ofValue OperationKind.reader j
      kind.fields.fromMembers (members.filter fun member => member.1 != tag)
  | .list (first :: rest) => do
    let kind ← ofValue OperationKind.reader first
    kind.fields.readItems (kind.fields.describe "struct" kind.recordName) .value (ofItems rest)
      .closed
  | _ => .mismatch (.missingField tag)

/-- **An operation is determined** by the value that its outline conveys. -/
theorem alike_fromValue (origin : Origin) (o : Outline) (v : Json) (conveys : Conveys origin o v) :
    Alike (· = ·) (reader origin o) (fromValue v) := by
  cases conveys.shape with
  | atom a => cases a <;> exact .error
  | quotation s => exact .error
  | list entered each =>
      simp only [reader, entered, ok_bind]
      cases each with
      | nil => exact .error
      | cons first others =>
          refine (OperationKind.agrees _ _ _ first).bind fun kind _ same => ?_
          subst same
          have rest := anyItems_eq_ok_iff.mpr (others.imp fun _ _ conveys => conveys.any)
          simp only [rest, ok_bind, fault?_list_closed, check_none]
          exact kind.agrees_fields.readItems _ (others.imp fun _ _ conveys => conveys.unlimited)
  | @object inner members values entered each distinct =>
      have survey := alike_surveyTag each distinct
      have sorted := Keyed.lookup_sort_of_nodup distinct
      simp only [reader, entered, ok_bind, fault?_object_closed, check_none, fromValue, sorted]
      cases named : Keyed.lookup tag values with
      | none =>
          rw [named] at survey
          rw [survey.eq_ok]
          exact .error
      | some j =>
          rw [named] at survey
          dsimp only at survey ⊢
          cases found : ofValue OperationKind.reader j with
          | error e =>
              rw [found] at survey
              generalize surveyTag inner none members = walk at survey
              cases survey
              exact .error
          | ok kind =>
              rw [found] at survey
              rw [survey.eq_ok]
              have distinctLeft : ((values.filter fun value => value.1 != tag).map Prod.fst).Nodup :=
                distinct.sublist (List.filter_sublist.map _)
              have alike := kind.agrees_fields.alike_ofNames (each_untagged each) distinctLeft
              simpa only [ok_bind, fromMembers, Keyed.lookup_filter_ne, sorted] using alike

theorem agrees : Agrees reader := agrees_of_determined fromValue alike_fromValue

end Operation

/-! ## Responses -/

theorem Patch.agrees : Agrees Patch.reader := agrees_listOf Operation.agrees

theorem Agrees.map {α β : Type} {read : Reader α} (agrees : Agrees read) (f : α → β) :
    Agrees fun origin o => (read origin o).map f :=
  fun origin o v conveys => (agrees origin o v conveys).map_eq f

theorem Variants.agrees_of_known {α : Type} {variants : Variants α}
    (known : ∀ entry ∈ variants.known, ∀ read, entry.2 = .holding read → Json.Agrees read)
    (noOther : variants.other = none) : variants.Agrees := by
  intro name read named
  unfold Variants.named at named
  split at named
  · next found => exact known _ (Keyed.mem_of_lookup found) read (Except.ok.inj named)
  · next isOther => simp [noOther] at isOther
  · cases named

end Json

open Json

/-- **A response is the same** from a text and from the value that the text is. -/
theorem Response.agrees : Agrees reader := by
  refine agrees_choice (Variants.agrees_of_known ?_ rfl)
  simp only [List.forall_mem_cons, List.not_mem_nil, false_imp_iff, implies_true, and_true]
  refine ⟨nofun, ?_, ?_, ?_⟩ <;> rintro read ⟨⟩
  · exact agrees_text.map err
  · exact agrees_any.map status
  · exact Json.Patch.agrees.map patch

end MixerPanel
