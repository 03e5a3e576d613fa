import MixerPanel.Json.Outline

/-!
# Reading values

A reader takes an outline apart. It goes through lists and objects in their order and reports the
first error that it meets.

## Main Definitions

* `Json.Origin` — where an outline comes from, with the levels of nesting that are left
* `Json.Reader` — reads a value of some type from an outline
* `Json.any` — reads whatever is there as a value
* `Json.pass` — passes over whatever is there
* `Json.text`, `Json.word32`, `Json.word64`, `Json.unit`, `Json.listOf` — readers of plain types
* `Json.ofText`, `Json.ofValue` — read a whole text, or a value

## Design Notes

Text and values are read by the same readers. They differ in the levels of nesting, which are
limited only in a text, and in the wording of a few errors.
-/

namespace MixerPanel.Json

/-- Where an outline comes from. -/
inductive Origin where
  /-- A text, with one more than the levels of nesting that may still be entered. -/
  | text (levels : Nat)
  /-- A value. -/
  | value
  /-- The members of an object that were set aside until its kind was known. -/
  | setAside
deriving DecidableEq, Repr

/-- The levels with which the reading of a text starts: 127 may be nested. -/
def Origin.maxLevels : Nat := 128

/-- The origin of what is inside a list or an object. -/
def Origin.enter : Origin → Result Origin
  | text levels => if levels ≤ 1 then .fault .nestedTooDeeply else .ok (text (levels - 1))
  | origin => .ok origin

/-- Reads a value of a type from an outline. -/
abbrev Reader (α : Type) := Origin → Outline → Result α

/-- The content of a token. -/
def Lexeme.read {α : Type} (l : Lexeme α) : Result α :=
  match l.content with
  | .ok a => .ok a
  | .error f => .fault f

/-- Passes over a token. -/
def Lexeme.pass {α : Type} (l : Lexeme α) : Result Unit :=
  match l.obstacle with
  | none => .ok ()
  | some f => .fault f

/-- The fault in the way a list ends, if there is one. -/
def ListEnd.fault? : ListEnd → Option Fault
  | closed => none
  | unclosed => some .endInList
  | stray => some .expectedCommaOrListEnd
  | comma => some .trailingComma

/-- The fault in the way an object ends, if there is one. -/
def ObjectEnd.fault? : ObjectEnd → Option Fault
  | closed => none
  | unclosed => some .endInObject
  | stray => some .expectedCommaOrObjectEnd
  | comma => some .trailingComma
  | unclosedComma => some .endInValue
  | notKey => some .keyNotString

/-- The end of a list when it is passed over: what is due after a comma is a value. -/
def ListEnd.obstacle : ListEnd → Option Fault
  | comma => some .expectedValue
  | ending => ending.fault?

/-- The end of an object when it is passed over: what is due after a comma is a key. -/
def ObjectEnd.obstacle : ObjectEnd → Option Fault
  | comma => some .keyNotString
  | unclosedComma => some .endInObject
  | ending => ending.fault?

/-- The end of a list all of whose items are read and which must not have more. -/
def ListEnd.surplus : ListEnd → Option Fault
  | stray => some .trailingCharacters
  | ending => ending.fault?

/-- Refuses with a fault, if there is one. -/
def check : Option Fault → Result Unit
  | none => .ok ()
  | some f => .fault f

@[simp] theorem check_none : check none = .ok () := rfl

/-- The error where something else was wanted: the fault of what is there, or what it is. -/
def Outline.mistaken {α : Type} (expected : String) : Outline → Result α
  | .fault f => .fault f
  | .atom a => a.read >>= fun a => .mismatch (.wrongType a.found expected)
  | .quotation s => s.read >>= fun s => .mismatch (.wrongType (.string s) expected)
  | .list _ _ => .mismatch (.wrongType .sequence expected)
  | .object _ _ => .mismatch (.wrongType .map expected)

/-! ## Untyped values -/

mutual

/-- Reads whatever is there as a value. -/
def any (origin : Origin) : Outline → Result Json
  | .fault f => .fault f
  | .atom a => a.read.map Atom.toJson
  | .quotation s => s.read.map Json.string
  | .list items ending => do
    let inner ← origin.enter
    let values ← anyItems inner items
    check ending.fault?
    return .list values
  | .object members ending => do
    let inner ← origin.enter
    let values ← anyMembers inner members
    check ending.fault?
    return .object (Keyed.sort values)

/-- Reads the items of a list. -/
def anyItems (origin : Origin) : List Outline → Result (List Json)
  | [] => .ok []
  | item :: rest => do
    let value ← any origin item
    let values ← anyItems origin rest
    return value :: values

/-- Reads the members of an object. -/
def anyMembers (origin : Origin) : List (Lexeme String × Outline) → Result (List (String × Json))
  | [] => .ok []
  | (key, item) :: rest => do
    let name ← key.read
    let value ← any origin item
    let values ← anyMembers origin rest
    return (name, value) :: values

end

mutual

/-- Passes over whatever is there. -/
def pass : Outline → Result Unit
  | .fault f => .fault f
  | .atom a => a.pass
  | .quotation s => s.pass
  | .list items ending => do
    passItems items
    check ending.obstacle
  | .object members ending => do
    passMembers members
    check ending.obstacle

/-- Passes over the items of a list. -/
def passItems : List Outline → Result Unit
  | [] => .ok ()
  | item :: rest => do
    pass item
    passItems rest

/-- Passes over the members of an object. -/
def passMembers : List (Lexeme String × Outline) → Result Unit
  | [] => .ok ()
  | (key, item) :: rest => do
    key.pass
    pass item
    passMembers rest

end

/-! ## Plain types -/

/-- Reads a text. -/
def text : Reader String
  | _, .quotation s => s.read
  | _, o => o.mistaken "a string"

/-- Reads nothing: the value is `null`. -/
def unit : Reader Unit
  | _, .atom ⟨.ok .null, _, _⟩ => .ok ()
  | _, o => o.mistaken "unit"

/-- Reads a natural number below a bound. -/
def natural (bound : Nat) (name : String) : Reader Nat
  | _, .atom ⟨.ok (.number (.natural n)), _, _⟩ =>
    if n.toNat < bound then .ok n.toNat
    else .mismatch (.wrongValue (.number (.natural n)) name)
  | _, .atom ⟨.ok (.number (.negative k)), _, _⟩ =>
    .mismatch (.wrongValue (.number (.negative k)) name)
  | _, o => o.mistaken name

/-- Reads a natural number of 32 bits. -/
def word32 : Reader UInt32 := fun origin o =>
  (natural UInt32.size "u32" origin o).map UInt32.ofNat

/-- Reads a natural number of 64 bits. -/
def word64 : Reader UInt64 := fun origin o =>
  (natural UInt64.size "u64" origin o).map UInt64.ofNat

/-- Reads each of the items of a list. -/
def readItems {α : Type} (read : Reader α) (origin : Origin) : List Outline → Result (List α)
  | [] => .ok []
  | item :: rest => do
    let value ← read origin item
    let values ← readItems read origin rest
    return value :: values

/-- Reads a list. -/
def listOf {α : Type} (read : Reader α) : Reader (List α)
  | origin, .list items ending => do
    let inner ← origin.enter
    let values ← readItems read inner items
    check ending.fault?
    return values
  | _, o => o.mistaken "a sequence"

/-! ## Whole texts and values -/

/-- Reads a whole text. -/
def ofText {α : Type} (read : Reader α) (s : String) : Result α := do
  let layout := layOut s
  let value ← read (.text Origin.maxLevels) layout.root
  check (if layout.trailing then some .trailingCharacters else none)
  return value

/-- Reads a value. -/
def ofValue {α : Type} (read : Reader α) (j : Json) : Result α :=
  read .value (Outline.ofJson j)

/-- The value that a whole text is. -/
def parse (s : String) : Result Json := ofText any s

end MixerPanel.Json
