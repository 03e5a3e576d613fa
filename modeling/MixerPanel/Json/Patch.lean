import MixerPanel.Json.Pointer

/-!
# Patches

A patch is a list of operations on a document. They are applied one after the other, and the first
that fails makes the whole patch fail.

## Main Definitions

* `Json.Operation` — one operation of a patch
* `Json.Operation.apply` — the document after an operation
* `Json.Patch.apply` — the document after a patch
* `Json.PatchError` — which operation failed, where, and why
-/

namespace MixerPanel.Json

/-- One operation of a patch; the texts are written pointers. -/
inductive Operation where
  | add (path : String) (value : Json)
  | remove (path : String)
  | replace (path : String) (value : Json)
  | move (source : String) (path : String)
  | copy (source : String) (path : String)
  | test (path : String) (value : Json)
deriving Repr

/-- The operations of a patch, in order. -/
abbrev Patch := List Operation

/-- Why an operation fails. -/
inductive PatchFault where
  | testFailed
  | invalidSource
  | invalidPath
  | moveInsideItself
deriving DecidableEq, Repr

/-- The wording of a reason. -/
def PatchFault.message : PatchFault → String
  | testFailed => "value did not match"
  | invalidSource => "\"from\" path is invalid"
  | invalidPath => "path is invalid"
  | moveInsideItself => "cannot move the value inside itself"

/-- The failure of an operation of a patch. -/
structure PatchError where
  /-- The place of the operation in the patch. -/
  operation : Nat
  /-- The path of the operation. -/
  path : String
  /-- The reason. -/
  cause : PatchFault
deriving DecidableEq, Repr

/-- The wording of a failure. -/
def PatchError.message (e : PatchError) : String :=
  "Operation '/" ++ toString e.operation ++ "' failed at path '" ++ e.path ++ "': "
    ++ e.cause.message

/-- A pointer's steps up to the last, and the last. -/
def Pointer.parent? (pointer : String) : Option (List String × String) := do
  let steps ← steps? pointer
  return (steps.dropLast, ← steps.getLast?)

/-- The value at a written pointer. -/
def valueAt? (doc : Json) (pointer : String) : Option Json := do
  doc.get? (← Pointer.steps? pointer)

/-- The document with a value added at a written pointer. -/
def addAt? (doc : Json) (pointer : String) (value : Json) : Option Json := do
  match ← Pointer.steps? pointer with
  | [] => return value
  | step :: rest =>
    let steps := step :: rest
    doc.modifyAt? (insertChild? (steps.getLast (List.cons_ne_nil step rest)) value) steps.dropLast

/-- The document without the value at a written pointer; the whole document cannot be removed. -/
def removeAt? (doc : Json) (pointer : String) : Option Json := do
  let (parent, step) ← Pointer.parent? pointer
  doc.modifyAt? (eraseChild? step) parent

/-- The document with another value at a written pointer. -/
def replaceAt? (doc : Json) (pointer : String) (value : Json) : Option Json := do
  doc.modifyAt? (fun _ => some value) (← Pointer.steps? pointer)

/-- Whether one written pointer leads below another. -/
def Pointer.isBelow (pointer ancestor : String) : Bool :=
  (ancestor.toList ++ ['/']).isPrefixOf pointer.toList

namespace Operation

/-- The path of an operation. -/
def path : Operation → String
  | add path _ | remove path | replace path _ | move _ path | copy _ path | test path _ => path

/-- A document that is there, or else a reason. -/
def orFault (fault : PatchFault) : Option Json → Except PatchFault Json
  | some doc => .ok doc
  | none => .error fault

/-- The document after an operation. -/
def apply (doc : Json) : Operation → Except PatchFault Json
  | add path value => orFault .invalidPath (doc.addAt? path value)
  | remove path => orFault .invalidPath (doc.removeAt? path)
  | replace path value => orFault .invalidPath (doc.replaceAt? path value)
  | move source path =>
    if Pointer.isBelow path source then .error .moveInsideItself
    else do
      let value ← orFault .invalidSource (doc.valueAt? source)
      let rest ← orFault .invalidSource (doc.removeAt? source)
      orFault .invalidPath (rest.addAt? path value)
  | copy source path => do
    let value ← orFault .invalidSource (doc.valueAt? source)
    orFault .invalidPath (doc.addAt? path value)
  | test path value => do
    let found ← orFault .invalidPath (doc.valueAt? path)
    if found.same value then .ok doc else .error .testFailed

end Operation

namespace Patch

/-- The document after the operations of a patch, the first of which has the given place. -/
def applyFrom (place : Nat) (doc : Json) : Patch → Except PatchError Json
  | [] => .ok doc
  | operation :: rest =>
    match operation.apply doc with
    | .ok next => applyFrom (place + 1) next rest
    | .error cause => .error ⟨place, operation.path, cause⟩

/-- The document after a patch. -/
def apply (doc : Json) (patch : Patch) : Except PatchError Json := applyFrom 0 doc patch

end Patch

end MixerPanel.Json
