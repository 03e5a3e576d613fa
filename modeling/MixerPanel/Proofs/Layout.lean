import MixerPanel.Proofs.Grammar

/-!
# What was written is laid out as the value

A written value is a text by the grammar, so its layout is the outline of the value, with nothing
left over: no token has a fault, and every list and object is closed where it ends.  What can be
read of the text is then what can be read of the outline, which is the value in canonical order, as
long as it is not nested too deeply.

* `Integral` — no number in the value is a real
* `NestsWithin`, `Origin.Fits` — how many levels of lists and objects there are, and may be
* `Spelled.value_toChars`, `layOut_write` — a written value is spelled, so its layout is known
* `any_ofJson` — what is read of an outline within the limit of nesting
* `parse_write` — so a written value is read as itself, in canonical order
* `canonical_of_ordered`, `ordered_canonical` — canonical order is the order of ordered values
-/

namespace MixerPanel.Json

open Outline Layout

/-! ## Integral values -/

mutual

/-- No number in the value is a real. -/
def Integral : Json → Prop
  | .number n => n.IsInteger
  | .list items => IntegralItems items
  | .object members => IntegralMembers members
  | _ => True

/-- Every item of a list is `Integral`. -/
def IntegralItems : List Json → Prop
  | [] => True
  | item :: rest => Integral item ∧ IntegralItems rest

/-- The value of every member is `Integral`. -/
def IntegralMembers : List (String × Json) → Prop
  | [] => True
  | (_, value) :: rest => Integral value ∧ IntegralMembers rest

end

@[simp] theorem integral_null : Integral .null := trivial

@[simp] theorem integral_bool (b : Bool) : Integral (.bool b) := trivial

@[simp] theorem integral_string (s : String) : Integral (.string s) := trivial

@[simp] theorem integral_nat (n : UInt64) : Integral (nat n) := trivial

@[simp] theorem integral_negative (k : Fin 0x8000000000000000) :
    Integral (.number (.negative k)) := trivial

@[simp] theorem integral_list {items : List Json} :
    Integral (.list items) ↔ ∀ item ∈ items, Integral item := by
  show IntegralItems items ↔ _
  induction items with
  | nil => simp [IntegralItems]
  | cons item rest ih => simp [IntegralItems, ih]

@[simp] theorem integral_object {members : List (String × Json)} :
    Integral (.object members) ↔ ∀ member ∈ members, Integral member.2 := by
  show IntegralMembers members ↔ _
  induction members with
  | nil => simp [IntegralMembers]
  | cons member rest ih => simp [IntegralMembers, ih]

/-! ## The layout of a written value -/

namespace Spelled

theorem Chars.charChars (c : Char) {l t : List Char} {pieces : List Quotation.Piece}
    (more : Chars l pieces t) :
    Chars (Quotation.charChars c ++ l) (Quotation.piece c :: pieces) t := by
  unfold Quotation.charChars
  split_ifs with quote backslash b f n r tab control
  · subst quote; exact .escape rfl more
  · subst backslash; exact .escape rfl more
  · subst b; exact .escape rfl more
  · subst f; exact .escape rfl more
  · subst n; exact .escape rfl more
  · subst r; exact .escape rfl more
  · subst tab; exact .escape rfl more
  · have numbered : Quotation.piece c = .unit c.toNat := by simp [Quotation.piece, *]
    rw [Quotation.unitChars_of_lt _ control, numbered]
    exact .unit (Quotation.unit?_of_lt _ control) more
  · have plain : Quotation.piece c = .char c := by simp [Quotation.piece, control]
    rw [plain]
    exact .plain quote backslash (Nat.le_of_not_lt control) more

theorem chars_written (cs t : List Char) :
    Chars (cs.flatMap Quotation.charChars ++ '"' :: t) (cs.map Quotation.piece) t := by
  induction cs with
  | nil => exact .closed t
  | cons c cs ih =>
      rw [List.flatMap_cons, List.append_assoc]
      exact ih.charChars c

theorem digits_of_isDigit {cs : List Char} (nonempty : cs ≠ []) (each : ∀ c ∈ cs, c.isDigit)
    (t : List Char) : Digits (cs ++ t) (cs.map Json.Numeral.digitValue) t := by
  induction cs with
  | nil => exact absurd rfl nonempty
  | cons c cs ih =>
      obtain ⟨first, others⟩ := List.forall_mem_cons.mp each
      have digit := Json.Numeral.digit?_of_isDigit first
      cases cs with
      | nil => exact .one digit t
      | cons next cs => exact .cons digit (ih (List.cons_ne_nil _ _) others)

theorem whole_toDigits (n : Nat) (t : List Char) :
    Whole (Nat.toDigits 10 n ++ t) (Json.Numeral.decimal n) t := by
  by_cases zero : n = 0
  · subst zero
    exact .zero t
  · have digits : Digits (Nat.toDigits 10 n ++ t) (Json.Numeral.decimal n) t :=
      digits_of_isDigit Nat.toDigits_ne_nil
        (fun _ mem => Nat.isDigit_of_mem_toDigits (by decide) (by decide) mem) t
    have nonzero := Json.Numeral.head?_decimal zero
    cases ds : Json.Numeral.decimal n with
    | nil => exact absurd ds digits.ne_nil
    | cons d rest =>
        rw [ds] at digits nonzero
        exact .positive digits fun isZero => nonzero (congrArg some isZero)

theorem magnitude_toDigits (negative : Bool) (n : Nat) (t : List Char) :
    Magnitude negative (Nat.toDigits 10 n ++ t) ⟨negative, Json.Numeral.decimal n, none, none⟩ t :=
  ⟨whole_toDigits n t, .absent t, .absent t⟩

theorem value_number {x : Number} (integer : x.IsInteger) (t : List Char) :
    Value (x.toChars ++ t) (.atom (.ok (.number x))) t := by
  cases x with
  | natural n =>
      have value := Value.number (.unsigned (magnitude_toDigits false n.toNat t))
      rwa [numbered, Json.Numeral.lexeme_natural] at value
  | negative k =>
      have value := Value.number (.signed (magnitude_toDigits true (k.val + 1) t))
      rwa [numbered, Json.Numeral.lexeme_negative] at value
  | real x => cases integer

theorem value_string (s : String) (t : List Char) :
    Value (Quotation.write s ++ t) (.quotation (.ok s)) t := by
  have value := Value.quotation (chars_written s.toList t)
  rw [quoted, Quotation.lexeme_map_piece] at value
  simpa [Quotation.write] using value

/-- A key is written without blanks. -/
theorem key_written (s : String) (t : List Char) :
    Key (Quotation.write s ++ ':' :: t) (.ok s) t := by
  have key := Key.mk (.nil _) (chars_written s.toList (':' :: t)) (.nil _) (.nil t)
  rw [quoted, Quotation.lexeme_map_piece] at key
  simpa [Quotation.write] using key

mutual

/-- **A written value is spelled**, whatever follows. -/
theorem value_toChars : ∀ (j : Json), j.Integral → ∀ t : List Char,
    Value (j.toChars ++ t) (ofJson j) t
  | .null, _, t => .null t
  | .bool true, _, t => .true t
  | .bool false, _, t => .false t
  | .number _, integral, t => value_number integral t
  | .string s, _, t => value_string s t
  | .list [], _, t => .emptyList (.nil _)
  | .list (item :: more), integral, t => by
      have inside := items_toChars (item :: more) integral (List.cons_ne_nil _ _) t
      simpa [toChars, ofJson] using Value.list inside
  | .object [], _, t => .emptyObject (.nil _)
  | .object (member :: more), integral, t => by
      have inside := members_toChars (member :: more) integral (List.cons_ne_nil _ _) t
      simpa [toChars, ofJson] using Value.object inside

theorem items_toChars : ∀ (items : List Json), IntegralItems items → items ≠ [] →
    ∀ t : List Char, Items (itemsToChars items ++ ']' :: t) (ofItems items) t
  | [], _, nonempty, _ => absurd rfl nonempty
  | [item], integral, _, t => .last (.nil _) (value_toChars item integral.1 _) (.nil _)
  | item :: next :: more, integral, _, t => by
      have later := items_toChars (next :: more) integral.2 (List.cons_ne_nil _ _) t
      rw [itemsToChars, List.append_assoc, List.cons_append]
      · exact .cons (.nil _) (value_toChars item integral.1 _) (.nil _) later
      · exact List.cons_ne_nil _ _

theorem members_toChars : ∀ (members : List (String × Json)), IntegralMembers members →
    members ≠ [] → ∀ t : List Char,
      Members (membersToChars members ++ '\x7d' :: t) (ofMembers members) t
  | [], _, nonempty, _ => absurd rfl nonempty
  | [(key, value)], integral, _, t => by
      rw [membersToChars, List.append_assoc, List.cons_append]
      exact .last (key_written key _) (value_toChars value integral.1 _) (.nil _)
  | (key, value) :: next :: more, integral, _, t => by
      have later := members_toChars (next :: more) integral.2 (List.cons_ne_nil _ _) t
      rw [membersToChars, List.append_assoc, List.append_assoc, List.cons_append, List.cons_append]
      · exact .cons (key_written key _) (value_toChars value integral.1 _) (.nil _) later
      · exact List.cons_ne_nil _ _

end

end Spelled

theorem spells_write {j : Json} (integral : j.Integral) : Spells j.write (ofJson j) := by
  have value := Spelled.value_toChars j integral []
  rw [List.append_nil, ← String.toList_ofList (l := j.toChars)] at value
  exact ⟨.nil _, value, .nil _⟩

/-- **The layout of a written value** is its outline, and nothing comes after it. -/
theorem layOut_write {j : Json} (integral : j.Integral) : layOut j.write = ⟨ofJson j, false⟩ :=
  layOut_of_spells (spells_write integral)

/-! ## What is read of the layout -/

/-- Lists and objects are nested in the value at most so many levels deep. -/
def NestsWithin : Nat → Json → Prop
  | 0, .list _ => False
  | 0, .object _ => False
  | levels + 1, .list items => ∀ item ∈ items, NestsWithin levels item
  | levels + 1, .object members => ∀ member ∈ members, NestsWithin levels member.2
  | _, _ => True

/-- The limit of nesting leaves room for the value. -/
def Origin.Fits : Origin → Json → Prop
  | .text levels, j => j.NestsWithin (levels - 1)
  | _, _ => True

theorem Origin.fits_list {origin : Origin} {items : List Json} :
    origin.Fits (.list items) ↔
      ∃ inner, origin.enter = .ok inner ∧ ∀ item ∈ items, inner.Fits item := by
  cases origin with
  | text levels =>
      match levels with
      | 0 | 1 => simp [Fits, NestsWithin, enter, Result.fault]
      | levels + 2 => simp [Fits, NestsWithin, enter]
  | value | setAside => simp [Fits, enter]

theorem Origin.fits_object {origin : Origin} {members : List (String × Json)} :
    origin.Fits (.object members) ↔
      ∃ inner, origin.enter = .ok inner ∧ ∀ member ∈ members, inner.Fits member.2 := by
  cases origin with
  | text levels =>
      match levels with
      | 0 | 1 => simp [Fits, NestsWithin, enter, Result.fault]
      | levels + 2 => simp [Fits, NestsWithin, enter]
  | value | setAside => simp [Fits, enter]

mutual

/-- **The outline of a value is read** as the value in canonical order, where it is not nested too
deeply. -/
theorem any_ofJson : ∀ (j : Json) {origin : Origin}, origin.Fits j →
    any origin (ofJson j) = .ok j.canonical
  | .null, _, _ | .bool _, _, _ | .number _, _, _ | .string _, _, _ => rfl
  | .list items, _, fits => by
      obtain ⟨inner, entered, each⟩ := Origin.fits_list.mp fits
      simp [ofJson, any, entered, anyItems_ofItems items each, canonical, pure, Except.pure]
  | .object members, _, fits => by
      obtain ⟨inner, entered, each⟩ := Origin.fits_object.mp fits
      simp [ofJson, any, entered, anyMembers_ofMembers members each, canonical, pure, Except.pure]

theorem anyItems_ofItems : ∀ (items : List Json) {origin : Origin},
    (∀ item ∈ items, origin.Fits item) →
      anyItems origin (ofItems items) = .ok (canonicalItems items)
  | [], _, _ => rfl
  | item :: rest, _, fits => by
      obtain ⟨first, others⟩ := List.forall_mem_cons.mp fits
      simp [ofItems, anyItems, any_ofJson item first, anyItems_ofItems rest others, canonicalItems,
        pure, Except.pure]

theorem anyMembers_ofMembers : ∀ (members : List (String × Json)) {origin : Origin},
    (∀ member ∈ members, origin.Fits member.2) →
      anyMembers origin (ofMembers members) = .ok (canonicalMembers members)
  | [], _, _ => rfl
  | (key, value) :: rest, _, fits => by
      obtain ⟨first, others⟩ := List.forall_mem_cons.mp fits
      simp [ofMembers, anyMembers, any_ofJson value first, anyMembers_ofMembers rest others,
        canonicalMembers, pure, Except.pure]

end

/-- **A written value is parsed** as itself, its members in canonical order. -/
theorem parse_write {j : Json} (integral : j.Integral) (within : j.NestsWithin 127) :
    parse j.write = .ok j.canonical := by
  have fits : (Origin.text Origin.maxLevels).Fits j := within
  refine ofText_eq_ok_iff.mpr ?_
  rw [layOut_write integral]
  exact ⟨any_ofJson j fits, rfl⟩

/-! ## Ordered values -/

@[simp] theorem ordered_null : Ordered .null := trivial

@[simp] theorem ordered_bool (b : Bool) : Ordered (.bool b) := trivial

@[simp] theorem ordered_number (n : Number) : Ordered (.number n) := trivial

@[simp] theorem ordered_string (s : String) : Ordered (.string s) := trivial

@[simp] theorem ordered_list {items : List Json} :
    Ordered (.list items) ↔ ∀ item ∈ items, Ordered item := by
  show OrderedItems items ↔ _
  induction items with
  | nil => simp [OrderedItems]
  | cons item rest ih => simp [OrderedItems, ih]

theorem orderedMembers_iff {before : Option String} {members : List (String × Json)} :
    OrderedMembers before members ↔ (∀ k, before = some k → ∀ member ∈ members, k < member.1) ∧
      Keyed.Ascending members ∧ ∀ member ∈ members, Ordered member.2 := by
  induction members generalizing before with
  | nil => simp [OrderedMembers, Keyed.Ascending]
  | cons member rest ih =>
      obtain ⟨key, value⟩ := member
      simp only [OrderedMembers, ih, Keyed.Ascending, List.pairwise_cons, List.forall_mem_cons,
        Option.some.injEq, forall_eq']
      constructor
      · rintro ⟨above, ordered, aboveRest, ascending, orderedRest⟩
        refine ⟨fun k isBefore => ⟨above k isBefore, fun later mem => ?_⟩,
          ⟨aboveRest, ascending⟩, ordered, orderedRest⟩
        exact (above k isBefore).trans (aboveRest later mem)
      · rintro ⟨above, ⟨aboveRest, ascending⟩, ordered, orderedRest⟩
        exact ⟨fun k isBefore => (above k isBefore).1, ordered, aboveRest, ascending, orderedRest⟩

@[simp] theorem ordered_object {members : List (String × Json)} :
    Ordered (.object members) ↔
      Keyed.Ascending members ∧ ∀ member ∈ members, Ordered member.2 := by
  show OrderedMembers none members ↔ _
  simp [orderedMembers_iff]

mutual

/-- **Canonical order** is the order that an ordered value has already. -/
theorem canonical_of_ordered : ∀ j : Json, j.Ordered → j.canonical = j
  | .null, _ | .bool _, _ | .number _, _ | .string _, _ => rfl
  | .list items, ordered => by
      rw [canonical, canonicalItems_of_ordered items (ordered_list.mp ordered)]
  | .object members, ordered => by
      obtain ⟨ascending, orderedMembers⟩ := ordered_object.mp ordered
      rw [canonical, canonicalMembers_of_ordered members orderedMembers, ascending.sort_eq]

theorem canonicalItems_of_ordered : ∀ items : List Json, (∀ item ∈ items, Ordered item) →
    canonicalItems items = items
  | [], _ => rfl
  | item :: rest, ordered => by
      obtain ⟨first, others⟩ := List.forall_mem_cons.mp ordered
      rw [canonicalItems, canonical_of_ordered item first, canonicalItems_of_ordered rest others]

theorem canonicalMembers_of_ordered : ∀ members : List (String × Json),
    (∀ member ∈ members, Ordered member.2) → canonicalMembers members = members
  | [], _ => rfl
  | (key, value) :: rest, ordered => by
      obtain ⟨first, others⟩ := List.forall_mem_cons.mp ordered
      rw [canonicalMembers, canonical_of_ordered value first,
        canonicalMembers_of_ordered rest others]

end

/-! ## Values in canonical order -/

mutual

/-- Whatever is brought into canonical order is ordered. -/
theorem ordered_canonical : ∀ j : Json, j.canonical.Ordered
  | .null | .bool _ | .number _ | .string _ => trivial
  | .list items => ordered_list.mpr (ordered_canonicalItems items)
  | .object members => ordered_object.mpr ⟨Keyed.ascending_sort _, fun member mem =>
      ordered_canonicalMembers members member (Keyed.mem_of_mem_sort mem)⟩

theorem ordered_canonicalItems : ∀ items : List Json, ∀ item ∈ canonicalItems items, item.Ordered
  | [] => nofun
  | item :: rest => List.forall_mem_cons.mpr ⟨ordered_canonical item, ordered_canonicalItems rest⟩

theorem ordered_canonicalMembers : ∀ members : List (String × Json),
    ∀ member ∈ canonicalMembers members, member.2.Ordered
  | [] => nofun
  | (_, value) :: rest =>
      List.forall_mem_cons.mpr ⟨ordered_canonical value, ordered_canonicalMembers rest⟩

end

mutual

theorem integral_canonical : ∀ j : Json, j.Integral → j.canonical.Integral
  | .null, _ | .bool _, _ | .string _, _ => trivial
  | .number _, integral => integral
  | .list items, integral => integral_list.mpr (integral_canonicalItems items integral)
  | .object members, integral => integral_object.mpr fun member mem =>
      integral_canonicalMembers members integral member (Keyed.mem_of_mem_sort mem)

theorem integral_canonicalItems : ∀ items : List Json, IntegralItems items →
    ∀ item ∈ canonicalItems items, item.Integral
  | [], _ => nofun
  | item :: rest, ⟨first, others⟩ => List.forall_mem_cons.mpr
      ⟨integral_canonical item first, integral_canonicalItems rest others⟩

theorem integral_canonicalMembers : ∀ members : List (String × Json), IntegralMembers members →
    ∀ member ∈ canonicalMembers members, member.2.Integral
  | [], _ => nofun
  | (_, value) :: rest, ⟨first, others⟩ => List.forall_mem_cons.mpr
      ⟨integral_canonical value first, integral_canonicalMembers rest others⟩

end

theorem nestsWithin_canonical {levels : Nat} {j : Json} (within : j.NestsWithin levels) :
    j.canonical.NestsWithin levels := by
  induction levels generalizing j with
  | zero =>
      cases j with
      | list items => cases within
      | object members => cases within
      | _ => exact within
  | succ levels ih =>
      cases j with
      | list items =>
          rw [canonical, canonicalItems_eq_map]
          intro item mem
          obtain ⟨written, isWritten, rfl⟩ := List.mem_map.mp mem
          exact ih (within written isWritten)
      | object members =>
          rw [canonical, canonicalMembers_eq_map]
          intro member mem
          obtain ⟨written, isWritten, rfl⟩ := List.mem_map.mp (Keyed.mem_of_mem_sort mem)
          exact ih (within written isWritten)
      | _ => exact within

/-! ## Distinct keys -/

@[simp] theorem keysDistinct_ofJson_null : (ofJson .null).KeysDistinct := .atom _

@[simp] theorem keysDistinct_ofJson_bool (b : Bool) : (ofJson (.bool b)).KeysDistinct := .atom _

@[simp] theorem keysDistinct_ofJson_number (n : Number) : (ofJson (.number n)).KeysDistinct :=
  .atom _

@[simp] theorem keysDistinct_ofJson_string (s : String) : (ofJson (.string s)).KeysDistinct :=
  .quotation _

@[simp] theorem keysDistinct_ofJson_list {items : List Json} :
    (ofJson (.list items)).KeysDistinct ↔ ∀ item ∈ items, (ofJson item).KeysDistinct := by
  rw [ofJson, ofItems_eq_map, ← List.forall_mem_map]
  exact ⟨fun | .list each => each, .list⟩

@[simp] theorem keysDistinct_ofJson_object {members : List (String × Json)} :
    (ofJson (.object members)).KeysDistinct ↔
      (members.map Prod.fst).Nodup ∧ ∀ member ∈ members, (ofJson member.2).KeysDistinct := by
  have names : keys (ofMembers members) = members.map Prod.fst :=
    keys_of_named ((Fields.named_ofMembers members).imp fun _ _ => Lexeme.read_eq_ok_iff.mp)
  have each : (∀ member ∈ ofMembers members, member.2.KeysDistinct) ↔
      ∀ member ∈ members, (ofJson member.2).KeysDistinct := by
    rw [ofMembers_eq_map, List.forall_mem_map]
  rw [ofJson, ← names, ← each]
  exact ⟨fun | .object distinct each => ⟨distinct, each⟩, fun both => .object both.1 both.2⟩

end MixerPanel.Json
