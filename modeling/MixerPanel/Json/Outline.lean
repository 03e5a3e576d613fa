import MixerPanel.Json.Token

/-!
# Outlines

A text laid out as a tree, up to where it stops being JSON. A tree is what typed data is read from:
the reader goes through it in the order of the text and reports the first error that it meets, be it
a fault of the text or a value of the wrong shape.

## Main Definitions

* `Json.Outline` — a tree of tokens; every list and object says how it ends
* `Json.Layout` — the outline of a whole text
* `Json.layOut` — the layout of a text
* `Json.Outline.ofJson` — the outline of a value, which has no faults

## Design Notes

The layout is a machine with a stack of unfinished lists and objects, and takes one token in each
step. Where a text stops being JSON, the unfinished ones are closed as `unclosed`: what was laid out
before the fault stays, and a reader that goes through the tree in order meets the fault first.
-/

namespace MixerPanel.Json

/-- How a list ends. -/
inductive ListEnd where
  | closed
  /-- The text ends, or stops being JSON, inside the list. -/
  | unclosed
  /-- An item is followed by something other than a comma or the end of the list. -/
  | stray
  /-- The list is closed right after a comma. -/
  | comma
deriving DecidableEq, Repr

/-- How an object ends. -/
inductive ObjectEnd where
  | closed
  /-- The text ends, or stops being JSON, inside the object. -/
  | unclosed
  /-- A member is followed by something other than a comma or the end of the object. -/
  | stray
  /-- The object is closed right after a comma. -/
  | comma
  /-- The text ends right after a comma. -/
  | unclosedComma
  /-- Something other than a quotation stands where a key was due. -/
  | notKey
deriving DecidableEq, Repr

/-- A text laid out as a tree. -/
inductive Outline where
  /-- No value starts where one was due. -/
  | fault (f : Fault)
  | atom (a : Lexeme Atom)
  | quotation (s : Lexeme String)
  | list (items : List Outline) (ending : ListEnd)
  | object (members : List (Lexeme String × Outline)) (ending : ObjectEnd)

instance : Inhabited Outline := ⟨.fault .endInValue⟩

/-- The outline of a whole text. -/
structure Layout where
  /-- The outermost value. -/
  root : Outline
  /-- Whether more than blanks follows it. -/
  trailing : Bool
deriving Inhabited

namespace Layout

/-- What is unfinished around a value that is due. -/
inductive Frame where
  /-- A list, with the items so far, the last first. -/
  | list (items : List Outline)
  /-- An object, with the members so far, the last first, and the key of the value that is due. -/
  | object (members : List (Lexeme String × Outline)) (key : Lexeme String)

/-- What is due next, with what there is of the innermost list or object. -/
inductive Due where
  | value
  | firstItem
  | nextItem (items : List Outline)
  | itemSeparator (items : List Outline)
  | firstKey
  | nextKey (members : List (Lexeme String × Outline))
  | colon (members : List (Lexeme String × Outline)) (key : Lexeme String)
  | memberSeparator (members : List (Lexeme String × Outline))

/-- How far the layout has come. -/
inductive State where
  | due (d : Due) (stack : List Frame)
  | complete (root : Outline)
  | broken (root : Outline)

/-- The unfinished list or object around a value after which the text stops being JSON. -/
def Frame.close (o : Outline) : Frame → Outline
  | .list items => .list (o :: items).reverse .unclosed
  | .object members key => .object ((key, o) :: members).reverse .unclosed

/-- The state where the text stops being JSON. -/
def cut (stack : List Frame) (o : Outline) : State :=
  .broken (stack.foldl Frame.close o)

/-- The state after a finished value. -/
def settle (o : Outline) : List Frame → State
  | [] => .complete o
  | .list items :: up => .due (.itemSeparator (o :: items)) up
  | .object members key :: up => .due (.memberSeparator ((key, o) :: members)) up

/-- The state after a token with which a value may start. -/
def start (stack : List Frame) : Token → State
  | .atom a => settle (.atom a) stack
  | .quotation s => settle (.quotation s) stack
  | .openList => .due .firstItem stack
  | .openObject => .due .firstKey stack
  | _ => cut stack (.fault .expectedValue)

/-- The state after a token. -/
def step (stack : List Frame) : Due → Token → State
  | .value, t => start stack t
  | .firstItem, .closeList => settle (.list [] .closed) stack
  | .firstItem, t => start (.list [] :: stack) t
  | .nextItem items, .closeList => cut stack (.list items.reverse .comma)
  | .nextItem items, t => start (.list items :: stack) t
  | .itemSeparator items, .comma => .due (.nextItem items) stack
  | .itemSeparator items, .closeList => settle (.list items.reverse .closed) stack
  | .itemSeparator items, _ => cut stack (.list items.reverse .stray)
  | .firstKey, .closeObject => settle (.object [] .closed) stack
  | .firstKey, .quotation key => .due (.colon [] key) stack
  | .firstKey, _ => cut stack (.object [] .notKey)
  | .nextKey members, .closeObject => cut stack (.object members.reverse .comma)
  | .nextKey members, .quotation key => .due (.colon members key) stack
  | .nextKey members, _ => cut stack (.object members.reverse .notKey)
  | .colon members key, .colon => .due .value (.object members key :: stack)
  | .colon members key, _ =>
    cut stack (.object ((key, .fault .expectedColon) :: members).reverse .unclosed)
  | .memberSeparator members, .comma => .due (.nextKey members) stack
  | .memberSeparator members, .closeObject => settle (.object members.reverse .closed) stack
  | .memberSeparator members, _ => cut stack (.object members.reverse .stray)

/-- What there is of the innermost value when the text ends. -/
def Due.atEnd : Due → Outline
  | .value => .fault .endInValue
  | .firstItem => .list [] .unclosed
  | .nextItem items => .list (.fault .endInValue :: items).reverse .unclosed
  | .itemSeparator items => .list items.reverse .unclosed
  | .firstKey => .object [] .unclosed
  | .nextKey members => .object members.reverse .unclosedComma
  | .colon members key => .object ((key, .fault .endInObject) :: members).reverse .unclosed
  | .memberSeparator members => .object members.reverse .unclosed

/-- The layout of the tokens from a state on. -/
def run : State → List Token → Layout
  | .due d stack, [] => ⟨stack.foldl Frame.close d.atEnd, false⟩
  | .due d stack, t :: rest => run (step stack d t) rest
  | .complete root, rest => ⟨root, !rest.isEmpty⟩
  | .broken root, _ => ⟨root, false⟩

end Layout

/-- The layout of a text. -/
def layOut (text : String) : Layout :=
  Layout.run (.due .value []) (tokens text.toList)

namespace Outline

mutual

/-- The outline of a value. -/
def ofJson : Json → Outline
  | .null => atom (.ok .null)
  | .bool b => atom (.ok (.bool b))
  | .number n => atom (.ok (.number n))
  | .string s => quotation (.ok s)
  | .list items => list (ofItems items) .closed
  | .object members => object (ofMembers members) .closed

/-- The outlines of the items of a list. -/
def ofItems : List Json → List Outline
  | [] => []
  | item :: rest => ofJson item :: ofItems rest

/-- The outlines of the members of an object. -/
def ofMembers : List (String × Json) → List (Lexeme String × Outline)
  | [] => []
  | (key, value) :: rest => (.ok key, ofJson value) :: ofMembers rest

end

end Outline

end MixerPanel.Json
