/-!
# Lists of entries with keys

## Main Definitions

* `Keyed.lookup` — the value of the first entry with a key
* `Keyed.insert` — puts an entry at its place in ascending order of keys
* `Keyed.sort` — the entries in ascending order of their keys

## Design Notes

Keys are compared by code points. In an ascending list every key is there once, so that two such lists
hold the same entries exactly when they are equal.
-/

namespace MixerPanel.Keyed

variable {α : Type}

/-- The value of the first entry with a key. -/
def lookup (key : String) (entries : List (String × α)) : Option α :=
  (entries.find? fun entry => entry.1 == key).map Prod.snd

/-- The entries with one more, at its place: the value of a key that is there is replaced. -/
def insert (key : String) (value : α) : List (String × α) → List (String × α)
  | [] => [(key, value)]
  | (k, v) :: rest =>
    if key < k then (key, value) :: (k, v) :: rest
    else if key = k then (key, value) :: rest
    else (k, v) :: insert key value rest

/-- The entries in ascending order of their keys; of a repeated key the last value counts. -/
def sort (entries : List (String × α)) : List (String × α) :=
  entries.foldl (fun sorted entry => insert entry.1 entry.2 sorted) []

@[simp] theorem lookup_nil (key : String) : lookup key ([] : List (String × α)) = none := rfl

theorem lookup_cons (key k : String) (v : α) (rest : List (String × α)) :
    lookup key ((k, v) :: rest) = if k = key then some v else lookup key rest := by
  by_cases h : k = key <;> simp [lookup, h]

end MixerPanel.Keyed
