import Mathlib.Data.List.Induction
import Mathlib.Data.String.Basic
import MixerPanel.Keyed

/-!
# Sorted entries

`Keyed.sort` brings the members of an object into ascending order of their keys, one insertion
after the other.  Two facts about it are all that reading a document needs: a lookup in the sorted
entries is a lookup from the end of the unsorted ones, and no key is there twice.

Facts proved here:

* `Keyed.lookup_insert`, `Keyed.lookup_sort`, `Keyed.lookup_map`, `Keyed.lookup_filter_ne` — what
  is found under a key;
* `Keyed.mem_of_mem_insert`, `Keyed.mem_of_mem_sort` — sorting invents no entry;
* `Keyed.Ascending.insert`, `Keyed.ascending_sort` — the keys ascend strictly;
* `Keyed.Ascending.nodup_keys` — hence they are pairwise distinct;
* `Keyed.perm_sort`, `Keyed.lookup_sort_of_nodup` — where no key is there twice, sorting loses no
  entry, and a lookup finds what it found before;
* `Keyed.Ascending.sort_eq` — entries that ascend already stay as they are.
-/

namespace MixerPanel.Keyed

variable {α : Type}

/-! ## What is found -/

@[simp] theorem lookup_insert (key k : String) (v : α) (entries : List (String × α)) :
    lookup k (insert key v entries) = if key = k then some v else lookup k entries := by
  induction entries with
  | nil => simp [insert, lookup_cons]
  | cons entry rest ih =>
      obtain ⟨first, w⟩ := entry
      by_cases below : key < first
      · simp [insert, below, lookup_cons]
      · by_cases same : key = first
        · subst same
          by_cases found : key = k <;> simp [insert, lookup_cons, found]
        · simp only [insert, below, same, if_false, lookup_cons, ih]
          by_cases found : first = k
          · have other : ¬ key = k := fun equal => same (equal.trans found.symm)
            simp [found, other]
          · simp [found]

/-- A lookup while entries are still being inserted: the last of them counts, then what was there
before. -/
theorem lookup_foldl_insert (k : String) (entries sorted : List (String × α)) :
    lookup k (entries.foldl (fun sorted entry => insert entry.1 entry.2 sorted) sorted)
      = (lookup k entries.reverse).or (lookup k sorted) := by
  -- from the end: the entry that is inserted last is the one that hides the others
  induction entries using List.reverseRecOn with
  | nil => simp
  | append_singleton entries entry ih =>
      obtain ⟨key, v⟩ := entry
      rw [List.foldl_concat, lookup_insert, ih, List.reverse_concat, lookup_cons]
      split_ifs <;> simp

/-- **Of a repeated key the last value counts.** -/
theorem lookup_sort (k : String) (entries : List (String × α)) :
    lookup k (sort entries) = lookup k entries.reverse := by
  simp [sort, lookup_foldl_insert]

theorem lookup_map {β : Type} (f : α → β) (k : String) (entries : List (String × α)) :
    lookup k (entries.map fun entry => (entry.1, f entry.2)) = (lookup k entries).map f := by
  induction entries with
  | nil => rfl
  | cons entry rest ih =>
      obtain ⟨key, v⟩ := entry
      rw [List.map_cons, lookup_cons, lookup_cons, ih]
      split_ifs <;> rfl

/-- A lookup past one key. -/
theorem lookup_filter_ne (key name : String) (entries : List (String × α)) :
    lookup name (entries.filter fun entry => entry.1 != key)
      = if name = key then none else lookup name entries := by
  induction entries with
  | nil => simp
  | cons entry rest ih =>
      obtain ⟨k, v⟩ := entry
      by_cases same : k = key
      · subst same
        rw [List.filter_cons_of_neg (by simp), ih, lookup_cons]
        split_ifs with here again <;> simp_all
      · rw [List.filter_cons_of_pos (by simpa using same), lookup_cons, lookup_cons, ih]
        split_ifs with here again <;> simp_all

theorem mem_of_lookup {k : String} {v : α} {entries : List (String × α)}
    (found : lookup k entries = some v) : (k, v) ∈ entries := by
  obtain ⟨entry, isFound, rfl⟩ := Option.map_eq_some_iff.mp found
  obtain rfl : entry.1 = k := by simpa using List.find?_some isFound
  exact List.mem_of_find?_eq_some isFound

theorem mem_of_mem_insert {key : String} {v : α} {entries : List (String × α)}
    {entry : String × α} (mem : entry ∈ insert key v entries) :
    entry = (key, v) ∨ entry ∈ entries := by
  induction entries with
  | nil => simpa [insert] using mem
  | cons first rest ih =>
      obtain ⟨k, w⟩ := first
      simp only [insert] at mem
      split_ifs at mem with below same
      · simpa using mem
      · rcases List.mem_cons.mp mem with rfl | mem
        · exact Or.inl rfl
        · exact Or.inr (List.mem_cons_of_mem _ mem)
      · rcases List.mem_cons.mp mem with rfl | mem
        · exact Or.inr List.mem_cons_self
        · exact (ih mem).imp_right (List.mem_cons_of_mem _)

theorem mem_of_mem_sort {entries : List (String × α)} {entry : String × α}
    (mem : entry ∈ sort entries) : entry ∈ entries := by
  induction entries using List.reverseRecOn with
  | nil => simp [sort] at mem
  | append_singleton entries last ih =>
      rw [sort, List.foldl_concat] at mem
      rcases mem_of_mem_insert mem with rfl | mem
      · simp
      · exact List.mem_append_left _ (ih mem)

/-! ## The order of the keys -/

/-- The keys of the entries ascend strictly. -/
def Ascending (entries : List (String × α)) : Prop :=
  entries.Pairwise fun earlier later => earlier.1 < later.1

theorem Ascending.insert {entries : List (String × α)} (ascending : Ascending entries)
    (key : String) (v : α) : Ascending (insert key v entries) := by
  induction entries with
  | nil => simp [Keyed.insert, Ascending]
  | cons first rest ih =>
      obtain ⟨k, w⟩ := first
      obtain ⟨above, tail⟩ := List.pairwise_cons.mp ascending
      simp only [Keyed.insert]
      split_ifs with below same
      · refine List.pairwise_cons.mpr ⟨?_, ascending⟩
        intro entry mem
        rcases List.mem_cons.mp mem with rfl | mem
        · exact below
        · exact below.trans (above entry mem)
      · subst same
        exact List.pairwise_cons.mpr ⟨above, tail⟩
      · refine List.pairwise_cons.mpr ⟨?_, ih tail⟩
        intro entry mem
        rcases mem_of_mem_insert mem with rfl | mem
        · exact lt_of_le_of_ne (not_lt.mp below) (Ne.symm same)
        · exact above entry mem

theorem ascending_sort (entries : List (String × α)) : Ascending (sort entries) := by
  induction entries using List.reverseRecOn with
  | nil => exact List.Pairwise.nil
  | append_singleton entries last ih =>
      rw [sort, List.foldl_concat]
      exact ih.insert last.1 last.2

theorem Ascending.nodup_keys {entries : List (String × α)} (ascending : Ascending entries) :
    (entries.map Prod.fst).Nodup := by
  rw [List.nodup_iff_pairwise_ne, List.pairwise_map]
  exact ascending.imp ne_of_lt

/-! ## Distinct keys -/

theorem perm_insert {key : String} {v : α} {entries : List (String × α)}
    (fresh : key ∉ entries.map Prod.fst) : (insert key v entries).Perm ((key, v) :: entries) := by
  induction entries with
  | nil => exact .refl _
  | cons first rest ih =>
      obtain ⟨k, w⟩ := first
      rw [List.map_cons, List.mem_cons, not_or] at fresh
      simp only [insert, fresh.1, if_false]
      split_ifs with below
      · exact .refl _
      · exact ((ih fresh.2).cons (k, w)).trans (.swap _ _ _)

/-- **Sorting loses no entry** where no key is there twice. -/
theorem perm_sort {entries : List (String × α)} (distinct : (entries.map Prod.fst).Nodup) :
    (sort entries).Perm entries := by
  induction entries using List.reverseRecOn with
  | nil => exact .refl _
  | append_singleton entries last ih =>
      rw [List.map_append, List.nodup_append] at distinct
      obtain ⟨before, -, apart⟩ := distinct
      have fresh : last.1 ∉ (sort entries).map Prod.fst := by
        intro mem
        have mem := ((ih before).map Prod.fst).mem_iff.mp mem
        exact apart last.1 mem last.1 (by simp) rfl
      rw [sort, List.foldl_concat]
      exact (perm_insert fresh).trans
        (((ih before).cons last).trans (List.perm_append_singleton last entries).symm)

/-- Where no key is there twice, a lookup finds whatever stands under the key. -/
theorem lookup_eq_some_iff {entries : List (String × α)} (distinct : (entries.map Prod.fst).Nodup)
    {k : String} {v : α} : lookup k entries = some v ↔ (k, v) ∈ entries := by
  induction entries with
  | nil => simp
  | cons first rest ih =>
      obtain ⟨key, w⟩ := first
      obtain ⟨notLater, distinctRest⟩ := List.nodup_cons.mp distinct
      rw [lookup_cons, List.mem_cons, Prod.mk.injEq]
      split_ifs with same
      · subst same
        have absent : (key, v) ∉ rest := fun mem => notLater (List.mem_map.mpr ⟨_, mem, rfl⟩)
        simp [absent, eq_comm]
      · simp [ih distinctRest, Ne.symm same]

theorem lookup_sort_of_nodup {entries : List (String × α)}
    (distinct : (entries.map Prod.fst).Nodup) (k : String) :
    lookup k (sort entries) = lookup k entries := by
  refine Option.ext fun v => ?_
  rw [lookup_eq_some_iff (ascending_sort entries).nodup_keys, lookup_eq_some_iff distinct]
  exact (perm_sort distinct).mem_iff

theorem insert_eq_append {key : String} {v : α} {entries : List (String × α)}
    (above : ∀ entry ∈ entries, entry.1 < key) : insert key v entries = entries ++ [(key, v)] := by
  induction entries with
  | nil => rfl
  | cons first rest ih =>
      obtain ⟨k, w⟩ := first
      obtain ⟨less, aboveRest⟩ := List.forall_mem_cons.mp above
      simp only [insert, not_lt_of_gt less, ne_of_gt less, if_false, ih aboveRest,
        List.cons_append]

theorem Ascending.sort_eq {entries : List (String × α)} (ascending : Ascending entries) :
    sort entries = entries := by
  induction entries using List.reverseRecOn with
  | nil => rfl
  | append_singleton entries last ih =>
      obtain ⟨before, -, below⟩ := List.pairwise_append.mp ascending
      rw [sort, List.foldl_concat]
      show Keyed.insert last.1 last.2 (sort entries) = _
      rw [ih before]
      exact insert_eq_append fun entry mem => below entry mem last (by simp)

end MixerPanel.Keyed
