import MixerPanel.Json.Basic

/-!
# Places in a document

A pointer names a place by the steps that lead there from the top: keys of objects and indices of
lists, each after a slash.

## Main Definitions

* `Json.Pointer.steps?` — the steps of a written pointer
* `Json.index?` — the index that a step names
* `Json.get?` — the value at a place
* `Json.modifyAt?` — the document with the value at a place changed
* `Json.insertChild?`, `Json.eraseChild?` — a list or an object with a child more, or less
-/

namespace MixerPanel.Json

namespace Pointer

/-- A step without its escapes: `~1` stands for a slash and `~0` for a tilde. -/
def unescape : List Char → List Char
  | '~' :: '1' :: rest => '/' :: unescape rest
  | '~' :: '0' :: rest => '~' :: unescape rest
  | c :: rest => c :: unescape rest
  | [] => []

/-- The parts of a text between slashes. -/
def splitSlashes : List Char → List (List Char)
  | [] => [[]]
  | c :: rest =>
    if c = '/' then [] :: splitSlashes rest
    else
      match splitSlashes rest with
      | part :: parts => (c :: part) :: parts
      | [] => [[c]]

/-- The steps of a written pointer, which is empty or starts with a slash. -/
def steps? (pointer : String) : Option (List String) :=
  match pointer.toList with
  | [] => some []
  | '/' :: rest => some ((splitSlashes rest).map fun part => String.ofList (unescape part))
  | _ => none

end Pointer

/-- The index that a step names: decimal digits without a leading zero. -/
def index? (step : String) : Option Nat :=
  let digits := step.toList
  if digits.isEmpty ∨ !digits.all (fun c => '0' ≤ c && c ≤ '9') then none
  else if digits.head? = some '0' ∧ digits.length ≠ 1 then none
  else some (digits.foldl (fun n c => n * 10 + (c.toNat - '0'.toNat)) 0)

/-- The child that a step leads to. -/
def child? (step : String) : Json → Option Json
  | object members => Keyed.lookup step members
  | list items => do items[← index? step]?
  | _ => none

/-- The value at a place. -/
def get? (j : Json) : List String → Option Json
  | [] => some j
  | step :: rest => do get? (← j.child? step) rest

/-- A list or an object with another value for a child that it has. -/
def setChild (step : String) (value : Json) : Json → Json
  | object members => object (Keyed.insert step value members)
  | list items =>
    match index? step with
    | some i => list (items.set i value)
    | none => list items
  | j => j

/-- The document with the value at a place changed. -/
def modifyAt? (change : Json → Option Json) (j : Json) : List String → Option Json
  | [] => change j
  | step :: rest => do
    let child ← j.child? step
    let changed ← modifyAt? change child rest
    return setChild step changed j

/-- A list or an object with a child more. A member that is there is replaced; an item goes before
the one with its index, or to the end, which the step `-` names too. -/
def insertChild? (step : String) (value : Json) : Json → Option Json
  | object members => some (object (Keyed.insert step value members))
  | list items =>
    if step = "-" then some (list (items ++ [value]))
    else
      match index? step with
      | some i =>
        if i ≤ items.length then some (list (items.take i ++ value :: items.drop i)) else none
      | none => none
  | _ => none

/-- A list or an object without a child that it has. -/
def eraseChild? (step : String) : Json → Option Json
  | object members =>
    if (Keyed.lookup step members).isSome then
      some (object (members.filter fun member => member.1 != step))
    else none
  | list items =>
    match index? step with
    | some i => if i < items.length then some (list (items.eraseIdx i)) else none
    | none => none
  | _ => none

end MixerPanel.Json
