import MixerPanel.Json.Reader

/-!
# Reading choices

A choice is one of several named variants. A variant without content is read from its name, or from
an object with its name over `null`; one with content from an object with its name over the content.

## Main Definitions

* `Json.Variant` — what a name stands for
* `Json.Variants` — the variants of a choice, and what any other name stands for
* `Json.Variants.choice` — the reader
-/

namespace MixerPanel.Json

/-- What a name stands for in a choice. -/
inductive Variant (α : Type) where
  | plain (a : α)
  | holding (read : Reader α)

/-- The variants of a choice. -/
structure Variants (α : Type) where
  /-- The known names, in the order in which they are listed in errors. -/
  known : List (String × Variant α)
  /-- What any other name stands for. -/
  other : Option (Variant α) := none

namespace Variants

/-- The variant with a name. -/
def named {α : Type} (variants : Variants α) (name : String) : Result (Variant α) :=
  match Keyed.lookup name variants.known, variants.other with
  | some v, _ => .ok v
  | none, some v => .ok v
  | none, none => .mismatch (.unknownVariant name (variants.known.map Prod.fst))

/-- The choice of a variant by its name alone. -/
def ofName {α : Type} (variants : Variants α) (name : String) : Result α := do
  match ← variants.named name with
  | .plain a => return a
  | .holding _ => .mismatch (.wrongType .nameAlone "newtype variant")

/-- The choice of a variant by its name over a content. -/
def ofMember {α : Type} (variants : Variants α) (origin : Origin) (name : String) (o : Outline) :
    Result α := do
  match ← variants.named name with
  | .plain a =>
    unit origin o
    return a
  | .holding read => read origin o

/-- The fault after the content of a choice: its object must end there. -/
def afterContent (more : Bool) : ObjectEnd → Option Fault
  | .closed => if more then some .expectedValue else none
  | .unclosed => if more then some .expectedValue else some .endInObject
  | _ => some .expectedValue

/-- Reads a choice from the members of an object in a text. -/
def ofMembers {α : Type} (variants : Variants α) (origin : Origin) (ending : ObjectEnd) :
    List (Lexeme String × Outline) → Result α
  | (key, o) :: rest => do
    let name ← key.read
    let a ← variants.ofMember origin name o
    check (afterContent (!rest.isEmpty) ending)
    return a
  | [] => .fault (ending.fault?.getD .expectedValue)

/-- Reads a choice. -/
def choice {α : Type} (variants : Variants α) : Reader α
  | .text levels, .object members ending => do
    let inner ← (Origin.text levels).enter
    variants.ofMembers inner ending members
  | .text _, .atom _ => .fault .expectedValue
  | .text _, .list _ _ => .fault .expectedValue
  | _, .fault f => .fault f
  | _, .quotation s => s.read >>= variants.ofName
  | origin, .object [(key, o)] _ => do
    let name ← key.read
    variants.ofMember origin name o
  | _, .object _ _ => .mismatch (.wrongValue .map "map with a single key")
  | _, o => o.mistaken "string or map"

end Variants

end MixerPanel.Json
