import MixerPanel.Json.Patch
import MixerPanel.Json.Record

/-!
# Reading and writing patches

An operation is an object whose member `op` names its kind. The other members are set aside until
the kind is known, and then read as the fields of that kind. A list is read alike, with the kind as
its first item.

## Main Definitions

* `Json.OperationKind` — the kinds of operations, with their names and fields
* `Json.Operation.reader`, `Json.Patch.reader` — the readers
* `Json.Operation.toJson`, `Json.Patch.toJson` — the value to be written
-/

namespace MixerPanel.Json

/-- The kinds of operations. -/
inductive OperationKind where
  | add
  | remove
  | replace
  | move
  | copy
  | test
deriving DecidableEq, Repr

namespace OperationKind

/-- All kinds, in the order in which they are listed in errors. -/
def all : List OperationKind := [add, remove, replace, move, copy, test]

/-- The name of a kind. -/
def name : OperationKind → String
  | add => "add"
  | remove => "remove"
  | replace => "replace"
  | move => "move"
  | copy => "copy"
  | test => "test"

/-- The name of the record that holds the fields of a kind. -/
def recordName : OperationKind → String
  | add => "AddOperation"
  | remove => "RemoveOperation"
  | replace => "ReplaceOperation"
  | move => "MoveOperation"
  | copy => "CopyOperation"
  | test => "TestOperation"

/-- The fields of a kind. -/
def fields : OperationKind → Fields Operation
  | add => Operation.add <$> Fields.required "path" text <*> Fields.required "value" any
  | remove => Operation.remove <$> Fields.required "path" text
  | replace => Operation.replace <$> Fields.required "path" text <*> Fields.required "value" any
  | move => Operation.move <$> Fields.required "from" text <*> Fields.required "path" text
  | copy => Operation.copy <$> Fields.required "from" text <*> Fields.required "path" text
  | test => Operation.test <$> Fields.required "path" text <*> Fields.required "value" any

/-- Reads the name of a kind. -/
def reader : Reader OperationKind
  | _, .quotation s => do
    let word ← s.read
    match all.find? (fun kind => kind.name == word) with
    | some kind => return kind
    | none => .mismatch (.unknownVariant word (all.map name))
  | _, o => o.mistaken "variant identifier"

end OperationKind

namespace Operation

/-- The member that names the kind. -/
def tag : String := "op"

/-- Looks at the members of an operation in their order, and finds its kind. -/
def surveyTag (origin : Origin) :
    Option OperationKind → List (Lexeme String × Outline) → Result (Option OperationKind)
  | kind, [] => .ok kind
  | kind, (key, o) :: rest => do
    let name ← key.read
    if name = tag then
      if kind.isSome then .mismatch (.duplicateField tag)
      else
        let found ← OperationKind.reader origin o
        surveyTag origin (some found) rest
    else
      let _ ← any origin o
      surveyTag origin kind rest

/-- The members of an operation that are set aside. -/
def untagged (members : List (Lexeme String × Outline)) : List (Lexeme String × Outline) :=
  members.filter fun member => member.1.read.toOption != some tag

/-- Reads an operation. -/
def reader : Reader Operation
  | origin, .object members ending => do
    let inner ← origin.enter
    let kind ← surveyTag inner none members
    check ending.fault?
    match kind with
    | none => .mismatch (.missingField tag)
    | some kind => kind.fields.readMembers .setAside (untagged members) .closed
  | origin, .list items ending => do
    let inner ← origin.enter
    match items with
    | [] =>
      check ending.fault?
      .mismatch (.missingField tag)
    | first :: rest =>
      let kind ← OperationKind.reader inner first
      let _ ← anyItems inner rest
      check ending.fault?
      kind.fields.readItems (kind.fields.describe "struct" kind.recordName) .setAside rest .closed
  | _, o => o.mistaken "internally tagged enum PatchOperation"

/-- An operation as an object, its kind first. -/
def toJson : Operation → Json
  | add path value => .object [(tag, .string "add"), ("path", .string path), ("value", value)]
  | remove path => .object [(tag, .string "remove"), ("path", .string path)]
  | replace path value =>
    .object [(tag, .string "replace"), ("path", .string path), ("value", value)]
  | move source path =>
    .object [(tag, .string "move"), ("from", .string source), ("path", .string path)]
  | copy source path =>
    .object [(tag, .string "copy"), ("from", .string source), ("path", .string path)]
  | test path value => .object [(tag, .string "test"), ("path", .string path), ("value", value)]

end Operation

namespace Patch

/-- Reads a patch. -/
def reader : Reader Patch := listOf Operation.reader

/-- A patch as a list of objects. -/
def toJson (patch : Patch) : Json := .list (patch.map Operation.toJson)

end Patch

end MixerPanel.Json
