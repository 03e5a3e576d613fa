import MixerPanel.Json.Reader

/-!
# Reading records

A record is read from an object, by the names of its fields, or from a list of its fields in their
order.

## Main Definitions

* `Json.Fields` — the fields of a record: their names, and how a record is made of them
* `Json.Fields.required`, `Json.Fields.optional` — a single field
* `Json.Fields.record`, `Json.Fields.tuple` — the readers

## Design Notes

An object's members are looked at in their order, so that the first error is reported, and then the
fields are taken in the order in which they are declared, so that the first missing one is. A member
that is no field is passed over.
-/

namespace MixerPanel.Json

/-- The fields of a record of type `α`. -/
structure Fields (α : Type) where
  /-- The names of the fields, each with a check of the outline that stands under it. -/
  checks : List (String × (Origin → Outline → Result Unit))
  /-- The record from the outline under each name. -/
  ofNames : Origin → (String → Option Outline) → Result α
  /-- The record from the head of a list, and what is left of the list. The text says what was
  wanted, and the number is the count of fields before these. -/
  ofItems : Origin → String → Nat → List Outline → ListEnd → Result (α × List Outline)

namespace Fields

/-- The outlines left of a list that ends where a field was due. -/
def absent {α : Type} (expected : String) (index : Nat) (ending : ListEnd) (fallback : Option α) :
    Result (α × List Outline) :=
  match ending.fault?, fallback with
  | some f, _ => .fault f
  | none, some a => .ok (a, [])
  | none, none => .mismatch (.wrongLength index expected)

/-- A field, with what stands in for it where it is missing. -/
def field {α : Type} (name : String) (read : Reader α) (fallback : Option α) : Fields α where
  checks := [(name, fun origin o => (read origin o).map fun _ => ())]
  ofNames origin find :=
    match find name, fallback with
    | some o, _ => read origin o
    | none, some a => .ok a
    | none, none => .mismatch (.missingField name)
  ofItems origin expected index items ending :=
    match items with
    | item :: rest => (read origin item).map fun a => (a, rest)
    | [] => absent expected index ending fallback

/-- A field that must be there. -/
def required {α : Type} (name : String) (read : Reader α) : Fields α := field name read none

/-- A field that may be missing. -/
def optional {α : Type} (name : String) (read : Reader α) (fallback : α) : Fields α :=
  field name read (some fallback)

instance : Functor Fields where
  map f fields :=
    { checks := fields.checks
      ofNames := fun origin find => (fields.ofNames origin find).map f
      ofItems := fun origin expected index items ending =>
        (fields.ofItems origin expected index items ending).map fun (a, rest) => (f a, rest) }

instance : Seq Fields where
  seq fields last :=
    { checks := fields.checks ++ (last ()).checks
      ofNames := fun origin find => do
        let f ← fields.ofNames origin find
        let a ← (last ()).ofNames origin find
        return f a
      ofItems := fun origin expected index items ending => do
        let (f, rest) ← fields.ofItems origin expected index items ending
        let (a, rest) ←
          (last ()).ofItems origin expected (index + fields.checks.length) rest ending
        return (f a, rest) }

/-- The number of fields. -/
def count {α : Type} (fields : Fields α) : Nat := fields.checks.length

/-- The description of a record that is read from a list. -/
def describe {α : Type} (fields : Fields α) (kind name : String) : String :=
  kind ++ " " ++ name ++ " with " ++ toString fields.count
    ++ (if fields.count = 1 then " element" else " elements")

/-- The error where a list has more items than there are fields. -/
def surplus (origin : Origin) (length read : Nat) : ReadError :=
  match origin with
  | .text _ => .fault .trailingCharacters
  | .value => .mismatch (.wrongLength length "fewer elements in array")
  | .setAside =>
    .mismatch (.wrongLength length
      (toString read ++ (if read = 1 then " element" else " elements") ++ " in sequence"))

/-- Reads a record from the items of a list. -/
def readItems {α : Type} (fields : Fields α) (expected : String) (origin : Origin)
    (items : List Outline) (ending : ListEnd) : Result α := do
  let (a, rest) ← fields.ofItems origin expected 0 items ending
  if rest.isEmpty then
    check ending.surplus
    return a
  else
    .error (surplus origin items.length (items.length - rest.length))

/-- Looks at the members of an object in their order: those that are fields are checked, and must
not be there twice; the others are passed over. -/
def survey (checks : List (String × (Origin → Outline → Result Unit))) (origin : Origin) :
    List String → List (Lexeme String × Outline) → Result Unit
  | _, [] => .ok ()
  | seen, (key, o) :: rest => do
    let name ← key.read
    match Keyed.lookup name checks with
    | some checkField =>
      if name ∈ seen then .mismatch (.duplicateField name)
      else
        checkField origin o
        survey checks origin (name :: seen) rest
    | none =>
      pass o
      survey checks origin seen rest

/-- The outline of the member with a name. -/
def find (members : List (Lexeme String × Outline)) (name : String) : Option Outline :=
  (members.find? fun member => member.1.read.toOption == some name).map Prod.snd

/-- Reads a record from the members of an object. -/
def readMembers {α : Type} (fields : Fields α) (origin : Origin)
    (members : List (Lexeme String × Outline)) (ending : ObjectEnd) : Result α := do
  survey fields.checks origin [] members
  check ending.fault?
  fields.ofNames origin (find members)

/-- Reads a record with a name. -/
def record {α : Type} (name : String) (fields : Fields α) : Reader α
  | origin, .list items ending => do
    let inner ← origin.enter
    fields.readItems (fields.describe "struct" name) inner items ending
  | origin, .object members ending => do
    let inner ← origin.enter
    fields.readMembers inner members ending
  | _, o => o.mistaken ("struct " ++ name)

/-- Reads a record whose fields have places and no names. -/
def tuple {α : Type} (name : String) (fields : Fields α) : Reader α
  | origin, .list items ending => do
    let inner ← origin.enter
    fields.readItems (fields.describe "tuple struct" name) inner items ending
  | _, o => o.mistaken ("tuple struct " ++ name)

end Fields

end MixerPanel.Json
