import MixerPanel.Json.Binary64
import MixerPanel.Keyed

/-!
# JSON values

The untyped documents that the daemon sends and that patches address.

## Main Definitions

* `Json.Number` — a natural, a negative integer, or a binary64 number; the three never compare equal
* `Json` — a value; an object is the list of its members
* `Json.canonical` — members in ascending order of their keys, a repeated key once with its last value
* `Json.Ordered` — every object has its keys in strictly ascending order
* `Json.same` — equality of values, by which a patch tests

## Design Notes

Every value that is read from text or from another value has its members in ascending order of their
keys, compared by code points. Two such values are equal as documents exactly when they are equal as
terms. Typed data is first laid out with its members in the order in which they are written, and
brought into canonical order when it is needed as a document.
-/

namespace MixerPanel

namespace Json

/-- A JSON number. -/
inductive Number where
  /-- An integer from 0 to 2⁶⁴−1. -/
  | natural (n : UInt64)
  /-- The negative integer `-(k + 1)`, down to −2⁶³. -/
  | negative (k : Fin 0x8000000000000000)
  /-- A number written with a fraction or an exponent, or an integer out of range. -/
  | real (x : Binary64)
deriving DecidableEq, Repr

instance : Inhabited Number := ⟨.natural 0⟩

/-- Whether two numbers are equal as values: an integer never equals a real. -/
def Number.same : Number → Number → Bool
  | .natural a, .natural b => a == b
  | .negative a, .negative b => a == b
  | .real a, .real b => a.same b
  | _, _ => false

end Json

/-- A JSON value. -/
inductive Json where
  | null
  | bool (b : Bool)
  | number (n : Json.Number)
  | string (s : String)
  | list (items : List Json)
  | object (members : List (String × Json))
deriving Repr

namespace Json

instance : Inhabited Json := ⟨null⟩

/-- A natural number as a value. -/
abbrev nat (n : UInt64) : Json := number (.natural n)

mutual

/-- The value with the members of every object in ascending order of their keys. -/
def canonical : Json → Json
  | null => null
  | bool b => bool b
  | number n => number n
  | string s => string s
  | list items => list (canonicalItems items)
  | object members => object (Keyed.sort (canonicalMembers members))

/-- `canonical` for each item of a list. -/
def canonicalItems : List Json → List Json
  | [] => []
  | item :: rest => canonical item :: canonicalItems rest

/-- `canonical` for the value of each member. -/
def canonicalMembers : List (String × Json) → List (String × Json)
  | [] => []
  | (key, value) :: rest => (key, canonical value) :: canonicalMembers rest

end

mutual

/-- Every object in the value has its keys in strictly ascending order. -/
def Ordered : Json → Prop
  | null => True
  | bool _ => True
  | number _ => True
  | string _ => True
  | list items => OrderedItems items
  | object members => OrderedMembers none members

/-- Every item of a list is `Ordered`. -/
def OrderedItems : List Json → Prop
  | [] => True
  | item :: rest => Ordered item ∧ OrderedItems rest

/-- Keys ascend strictly, from above the key before them, and every value is `Ordered`. -/
def OrderedMembers : Option String → List (String × Json) → Prop
  | _, [] => True
  | before, (key, value) :: rest =>
    (∀ k, before = some k → k < key) ∧ Ordered value ∧ OrderedMembers (some key) rest

end

mutual

/-- Whether two values are equal: numbers by value, objects member by member. -/
def same : Json → Json → Bool
  | null, null => true
  | bool a, bool b => a == b
  | number a, number b => a.same b
  | string a, string b => a == b
  | list a, list b => sameItems a b
  | object a, object b => sameMembers a b
  | _, _ => false

/-- `same` for the items of two lists. -/
def sameItems : List Json → List Json → Bool
  | [], [] => true
  | a :: as, b :: bs => same a b && sameItems as bs
  | _, _ => false

/-- `same` for the members of two objects in canonical order. -/
def sameMembers : List (String × Json) → List (String × Json) → Bool
  | [], [] => true
  | (k, a) :: as, (l, b) :: bs => k == l && same a b && sameMembers as bs
  | _, _ => false

end

end Json

end MixerPanel
