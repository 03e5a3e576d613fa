import Mathlib.Data.List.DropRight
import Mathlib.Data.List.Nodup
import Mathlib.Data.List.TakeWhile
import MixerPanel.Route

/-!
# Locations

A path is in normal form if nothing has to be taken from it or put in front of it.  Such a path is
what its own location stands for, also as the fragment of an address, so that a table whose paths
are distinct and in normal form has a location for each of its routes.

What any location stands for is such a path.  It is told by the part of the text before the first
query or fragment, and there neither slashes at the end nor one at the start make a difference.

* `Location.Normal` — the paths in normal form
* `Location.normalForm_of_normal`, `Location.normalForm_of_fragment` — they stand for themselves
* `Location.ofPath`, `Location.normalForm_of_split` — the normal form of the path that is written
* `Location.ofPath_append_slashes`, `Location.ofPath_slash_cons` — the slashes that do not count
* `Location.normal_normalForm` — what a location stands for is in normal form
* `RouteTable.resolve_cases` — where a location can lead
* `RouteTable.resolve_href` — the address of a route leads to the route
* `RouteTable.location_leads_to_first_route` — where every location leads, however it is written
-/

namespace MixerPanel

namespace Location

/-- A path that starts with a slash, goes on to the end of a location, and ends in a slash only if
it is nothing else. -/
structure Normal (path : String) : Prop where
  starts : path.toList.head? = some '/'
  noQuery : '?' ∉ path.toList
  noFragment : '#' ∉ path.toList
  ends : path.toList.getLast? = some '/' → path = "/"

instance decidableNormal (path : String) : Decidable (Normal path) :=
  decidable_of_iff
    (path.toList.head? = some '/' ∧ '?' ∉ path.toList ∧ '#' ∉ path.toList ∧
      (path.toList.getLast? = some '/' → path = "/"))
    ⟨fun ⟨starts, noQuery, noFragment, ends⟩ => ⟨starts, noQuery, noFragment, ends⟩,
      fun ⟨starts, noQuery, noFragment, ends⟩ => ⟨starts, noQuery, noFragment, ends⟩⟩

theorem withoutTrailingSlashes_eq_rdropWhile (path : List Char) :
    withoutTrailingSlashes path = path.rdropWhile (· == '/') := rfl

theorem withoutTrailingSlashes_of_other {path : List Char} (other : path.getLast? ≠ some '/') :
    withoutTrailingSlashes path = path := by
  rw [withoutTrailingSlashes_eq_rdropWhile, List.rdropWhile_eq_self_iff]
  intro nonempty isSlash
  rw [List.getLast?_eq_some_getLast nonempty, beq_iff_eq.mp isSlash] at other
  exact other rfl

theorem not_endsPath {path : String} (noQuery : '?' ∉ path.toList)
    (noFragment : '#' ∉ path.toList) : ∀ ch ∈ path.toList, (!endsPath ch) = true := by
  intro ch mem
  have notQuery : ch ≠ '?' := fun same => noQuery (same ▸ mem)
  have notFragment : ch ≠ '#' := fun same => noFragment (same ▸ mem)
  simp [endsPath, notQuery, notFragment]

theorem takeWhile_endsPath {path : String} (normal : Normal path) :
    (path.toList.takeWhile fun ch => !endsPath ch) = path.toList :=
  List.takeWhile_eq_self_iff.mpr (not_endsPath normal.noQuery normal.noFragment)

/-- Whatever is a path in normal form after its mark stands for that path. -/
theorem normalForm_of_withoutMark {location path : String}
    (rest : withoutMark location.toList = path.toList) (normal : Normal path) :
    normalForm location = path := by
  rw [normalForm, rest, takeWhile_endsPath normal]
  by_cases slash : path.toList.getLast? = some '/'
  · rw [normal.ends slash]
    decide
  · rw [withoutTrailingSlashes_of_other slash, rooted, if_pos normal.starts, String.ofList_toList]

/-- **A path in normal form stands for itself**, -/
theorem normalForm_of_normal {path : String} (normal : Normal path) : normalForm path = path := by
  refine normalForm_of_withoutMark ?_ normal
  obtain ⟨rest, split⟩ := List.head?_eq_some_iff.mp normal.starts
  rw [split]
  rfl

/-- also as the fragment of an address. -/
theorem normalForm_of_fragment {path : String} (normal : Normal path) :
    normalForm ("#" ++ path) = path := by
  refine normalForm_of_withoutMark ?_ normal
  rw [String.toList_append]
  rfl

/-! ## However a path is written -/

/-- The normal form of a path. -/
def ofPath (path : List Char) : String := String.ofList (rooted (withoutTrailingSlashes path))

/-- What can follow the path in a location: nothing, or a query or another fragment. -/
def FollowsPath (tail : String) : Prop := ∀ ch ∈ tail.toList.head?, ch = '?' ∨ ch = '#'

/-- Slashes in a row. -/
def slashes (k : Nat) : String := String.ofList (List.replicate k '/')

theorem withoutMark_of_other {cs : List Char} (other : cs.head? ≠ some '#') :
    withoutMark cs = cs := by
  unfold withoutMark
  split
  · exact absurd rfl other
  · rfl

theorem head?_ne_mark {path tail : String} (noFragment : '#' ∉ path.toList)
    (proper : ¬ (path = "" ∧ tail.toList.head? = some '#')) :
    (path ++ tail).toList.head? ≠ some '#' := by
  rw [String.toList_append, List.head?_append]
  cases isPath : path.toList with
  | nil => exact fun mark => proper ⟨String.toList_eq_nil_iff.mp isPath, mark⟩
  | cons ch rest =>
      rintro ⟨⟩
      rw [isPath] at noFragment
      exact noFragment List.mem_cons_self

/-- A location stands for the path before its query or fragment. -/
theorem normalForm_of_split {location path tail : String}
    (split : withoutMark location.toList = (path ++ tail).toList) (noQuery : '?' ∉ path.toList)
    (noFragment : '#' ∉ path.toList) (follows : FollowsPath tail) :
    normalForm location = ofPath path.toList := by
  have cut : (tail.toList.takeWhile fun ch => !endsPath ch) = [] := by
    cases isTail : tail.toList with
    | nil => rfl
    | cons ch rest =>
        have ends : ch = '?' ∨ ch = '#' := follows ch (by rw [isTail]; rfl)
        rcases ends with rfl | rfl <;> rfl
  rw [normalForm, split, String.toList_append,
    List.takeWhile_append_of_pos (not_endsPath noQuery noFragment), cut, List.append_nil, ofPath]

theorem not_mem_written {path : String} {k : Nat} {mark : Char} (other : mark ≠ '/')
    (absent : mark ∉ path.toList) : mark ∉ (path ++ slashes k).toList := by
  rw [String.toList_append, List.mem_append, not_or, slashes, String.toList_ofList]
  exact ⟨absent, fun mem => other (List.eq_of_mem_replicate mem)⟩

/-- Slashes at the end do not count. -/
theorem ofPath_append_slashes (path : List Char) (k : Nat) :
    ofPath (path ++ List.replicate k '/') = ofPath path := by
  induction k with
  | zero => rw [List.replicate_zero, List.append_nil]
  | succ k ih =>
      have dropped : withoutTrailingSlashes ((path ++ List.replicate k '/') ++ ['/'])
          = withoutTrailingSlashes (path ++ List.replicate k '/') :=
        List.rdropWhile_concat_pos _ _ _ rfl
      rw [List.replicate_succ', ← List.append_assoc, ofPath, dropped, ← ofPath, ih]

/-- However many slashes follow, a location stands for the path before them. -/
theorem normalForm_of_written {location path tail : String} {k : Nat}
    (written : withoutMark location.toList = (path ++ slashes k ++ tail).toList)
    (noQuery : '?' ∉ path.toList) (noFragment : '#' ∉ path.toList) (follows : FollowsPath tail) :
    normalForm location = ofPath path.toList := by
  rw [normalForm_of_split written (not_mem_written (by decide) noQuery)
    (not_mem_written (by decide) noFragment) follows, String.toList_append, slashes,
    String.toList_ofList, ofPath_append_slashes]

/-- A path without query and fragment is all that its location holds. -/
theorem normalForm_of_plain {path : String} (noQuery : '?' ∉ path.toList)
    (noFragment : '#' ∉ path.toList) : normalForm path = ofPath path.toList := by
  have unmarked : withoutMark path.toList = (path ++ "").toList := by
    rw [String.append_empty]
    exact withoutMark_of_other fun mark => noFragment (List.mem_of_mem_head? mark)
  exact normalForm_of_split unmarked noQuery noFragment (fun _ none => nomatch none)

/-- A slash in front of a path that has none does not count. -/
theorem ofPath_slash_cons {path : List Char} (other : path.head? ≠ some '/') :
    ofPath ('/' :: path) = ofPath path := by
  refine congrArg String.ofList ?_
  induction path using List.reverseRecOn with
  | nil => rfl
  | append_singleton front last ih =>
      rw [← List.cons_append]
      simp only [withoutTrailingSlashes_eq_rdropWhile, List.rdropWhile_concat] at ih ⊢
      split_ifs with isSlash
      · refine ih fun slash => other ?_
        rw [List.head?_append, slash]
        rfl
      · -- the last character stays, so that nothing is taken from either path
        have isRooted : (('/' :: front) ++ [last]).head? = some '/' := rfl
        rw [rooted, if_pos isRooted, rooted, if_neg other, List.cons_append]

theorem mem_rooted {path : List Char} {ch : Char} (mem : ch ∈ rooted path) :
    ch = '/' ∨ ch ∈ path := by
  rw [rooted] at mem
  split_ifs at mem
  · exact .inr mem
  · exact List.mem_cons.mp mem

theorem head?_rooted (path : List Char) : (rooted path).head? = some '/' := by
  rw [rooted]
  split_ifs with slash
  · exact slash
  · rfl

theorem rooted_eq_slash {path : List Char} (other : path.getLast? ≠ some '/')
    (ends : (rooted path).getLast? = some '/') : rooted path = ['/'] := by
  cases path with
  | nil => rfl
  | cons ch rest =>
      rw [rooted] at ends
      split_ifs at ends
      · exact absurd ends other
      · rw [List.getLast?_cons_cons] at ends
        exact absurd ends other

theorem getLast?_withoutTrailingSlashes (path : List Char) :
    (withoutTrailingSlashes path).getLast? ≠ some '/' := by
  intro ends
  have nonempty : withoutTrailingSlashes path ≠ [] := by
    rintro isEmpty
    rw [isEmpty] at ends
    cases ends
  rw [List.getLast?_eq_some_getLast nonempty, Option.some.injEq] at ends
  exact List.rdropWhile_last_not (· == '/') path nonempty (beq_iff_eq.mpr ends)

/-- **What a location stands for is in normal form.** -/
theorem normal_normalForm (location : String) : Normal (normalForm location) := by
  let path := (withoutMark location.toList).takeWhile fun ch => !endsPath ch
  have isForm : normalForm location = ofPath path := rfl
  have chars : (ofPath path).toList = rooted (withoutTrailingSlashes path) := String.toList_ofList
  have absent : ∀ mark, mark ≠ '/' → endsPath mark = true → mark ∉ (ofPath path).toList := by
    intro mark other ends mem
    rw [chars] at mem
    rcases mem_rooted mem with isSlash | kept
    · exact other isSlash
    · have inPath : mark ∈ path := (List.rdropWhile_prefix _ _).subset kept
      have stays := List.mem_takeWhile_imp inPath
      rw [ends] at stays
      exact absurd stays (by decide)
  rw [isForm]
  refine ⟨by rw [chars, head?_rooted], absent '?' (by decide) rfl, absent '#' (by decide) rfl, ?_⟩
  intro ends
  rw [chars] at ends
  rw [ofPath, rooted_eq_slash (getLast?_withoutTrailingSlashes path) ends]

end Location

namespace RouteTable

variable {t : RouteTable}

/-- A location leads to the first route with its path, if there is one. -/
theorem resolve_cases (t : RouteTable) (location : String) :
    (∃ before r after, t.routes = before ++ r :: after ∧
      r.path = Location.normalForm location ∧
      (∀ earlier ∈ before, earlier.path ≠ Location.normalForm location) ∧
      t.resolve location = r) ∨
    ((∀ r ∈ t.routes, r.path ≠ Location.normalForm location) ∧
      t.resolve location = .notFound) := by
  rw [resolve]
  cases found : t.routes.find? fun r => r.path == Location.normalForm location with
  | none =>
      refine .inr ⟨fun r mem same => ?_, rfl⟩
      exact List.find?_eq_none.mp found r mem (beq_iff_eq.mpr same)
  | some r =>
      obtain ⟨same, before, after, split, others⟩ := List.find?_eq_some_iff_append.mp found
      refine .inl ⟨before, r, after, split, beq_iff_eq.mp same, ?_, rfl⟩
      intro earlier mem
      simpa using others earlier mem

theorem resolve_mem_or_eq_notFound (t : RouteTable) (location : String) :
    t.resolve location ∈ t.routes ∨ t.resolve location = .notFound := by
  refine (t.resolve_cases location).imp ?_ And.right
  rintro ⟨before, r, after, split, -, -, isRoute⟩
  rw [isRoute, split]
  exact List.mem_append_right _ List.mem_cons_self

/-- In a table of distinct paths a location leads to the one route with its path. -/
theorem resolve_of_mem (distinct : (t.routes.map Route.path).Nodup) {r : Route}
    (mem : r ∈ t.routes) {location : String} (path : Location.normalForm location = r.path) :
    t.resolve location = r := by
  rcases t.resolve_cases location with
    ⟨before, first, after, split, same, -, isRoute⟩ | ⟨missing, -⟩
  · have listed : first ∈ t.routes := split ▸ List.mem_append_right _ List.mem_cons_self
    rw [isRoute]
    exact List.inj_on_of_nodup_map distinct listed mem (same.trans path)
  · exact absurd path.symm (missing r mem)

/-- **The address of a route leads to the route.** -/
theorem resolve_href (distinct : (t.routes.map Route.path).Nodup) {r : Route}
    (mem : r ∈ t.routes) (normal : Location.Normal r.path) : t.resolve r.href = r :=
  resolve_of_mem distinct mem (Location.normalForm_of_fragment normal)

/-- The paths of the standard routes are distinct and in normal form. -/
example : (standard.routes.map Route.path).Nodup ∧
    ∀ r ∈ standard.routes, Location.Normal r.path := by decide

/-! ## Any location -/

theorem resolve_congr {location other : String}
    (same : Location.normalForm location = Location.normalForm other) :
    t.resolve location = t.resolve other := by
  rw [resolve, resolve, same]

/-- No route that is found is the one for missing routes, whatever paths are in the table. -/
theorem resolve_eq_notFound_iff (t : RouteTable) (location : String) :
    t.resolve location = .notFound
      ↔ ∀ r ∈ t.routes, r.path ≠ Location.normalForm location := by
  rcases t.resolve_cases location with
    ⟨before, r, after, split, same, -, isRoute⟩ | ⟨missing, notFound⟩
  · have listed : r ∈ t.routes := split ▸ List.mem_append_right _ List.mem_cons_self
    have starts := (Location.normal_normalForm location).starts
    refine iff_of_false (fun isMissing => ?_) (fun others => others r listed same)
    rw [← same, ← isRoute, isMissing] at starts
    cases starts
  · exact iff_of_true notFound missing

/-- **Where a location leads.**  Take any path without query and fragment marks.  With any number of
slashes behind it, and with nothing, a query or a fragment behind those, it leads where the path
alone leads: as the fragment of an address, and also by itself, unless all of it is a fragment.  A
slash in front of a path without one makes no difference either.

Every location leads to the first route whose path is the normal form of the location, and to the
route for missing routes exactly if there is none.  The normal form starts with a slash, has neither
a query nor a fragment, ends in a slash only if it is nothing else, and is its own normal form. -/
theorem location_leads_to_first_route (t : RouteTable) :
    (∀ path tail : String, ∀ k : Nat, '?' ∉ path.toList → '#' ∉ path.toList →
      Location.FollowsPath tail →
      let written := path ++ Location.slashes k
      t.resolve ("#" ++ (written ++ tail)) = t.resolve path ∧
      (¬ (written = "" ∧ tail.toList.head? = some '#') →
        t.resolve (written ++ tail) = t.resolve path) ∧
      (path.toList.head? ≠ some '/' → t.resolve ("/" ++ path) = t.resolve path)) ∧
    ∀ location,
      let path := Location.normalForm location
      ((∃ before r after, t.routes = before ++ r :: after ∧ r.path = path ∧
          (∀ earlier ∈ before, earlier.path ≠ path) ∧ t.resolve location = r) ∨
        ((∀ r ∈ t.routes, r.path ≠ path) ∧ t.resolve location = .notFound)) ∧
      (t.resolve location = .notFound ↔ ∀ r ∈ t.routes, r.path ≠ path) ∧
      Location.Normal path ∧ Location.normalForm path = path := by
  constructor
  · intro path tail k noQuery noFragment follows written
    have alone : Location.normalForm path = Location.ofPath path.toList :=
      Location.normalForm_of_plain noQuery noFragment
    refine ⟨resolve_congr ?_, fun proper => resolve_congr ?_, fun unrooted => resolve_congr ?_⟩
    · have rest : Location.withoutMark ("#" ++ (written ++ tail)).toList
          = (written ++ tail).toList := by
        rw [String.toList_append]
        rfl
      rw [alone, Location.normalForm_of_written rest noQuery noFragment follows]
    · have unmarked := Location.withoutMark_of_other (Location.head?_ne_mark
        (Location.not_mem_written (by decide) noFragment) proper)
      rw [alone, Location.normalForm_of_written unmarked noQuery noFragment follows]
    · have chars : ("/" ++ path).toList = '/' :: path.toList := String.toList_append
      have slashed : Location.normalForm ("/" ++ path) = Location.ofPath ("/" ++ path).toList := by
        refine Location.normalForm_of_plain ?_ ?_
        · rw [chars]
          exact List.not_mem_cons_of_ne_of_not_mem (by decide) noQuery
        · rw [chars]
          exact List.not_mem_cons_of_ne_of_not_mem (by decide) noFragment
      rw [alone, slashed, chars, Location.ofPath_slash_cons unrooted]
  · intro location path
    have normal := Location.normal_normalForm location
    exact ⟨t.resolve_cases location, t.resolve_eq_notFound_iff location, normal,
      Location.normalForm_of_normal normal⟩

/-- Two slashes, a query and a fragment behind a path that does not start with a slash. -/
theorem lighting_with_slashes_and_query :
    let tail := "?tab=2#/effects"
    '?' ∉ "lighting".toList ∧ '#' ∉ "lighting".toList ∧ Location.FollowsPath tail ∧
      standard.resolve ("#" ++ ("lighting" ++ Location.slashes 2 ++ tail))
        = standard.resolve "lighting" ∧
      standard.resolve ("lighting" ++ Location.slashes 2 ++ tail) = standard.resolve "lighting" ∧
      standard.resolve ("/" ++ "lighting") = standard.resolve "lighting" ∧
      (standard.resolve "lighting").page = .lighting := by
  intro tail
  have noQuery : '?' ∉ "lighting".toList := by decide
  have noFragment : '#' ∉ "lighting".toList := by decide
  have follows : Location.FollowsPath tail := by
    intro ch mem
    obtain rfl : '?' = ch := by simpa [tail] using mem
    exact .inl rfl
  obtain ⟨fragment, alone, rooted⟩ :=
    (location_leads_to_first_route standard).1 "lighting" tail 2 noQuery noFragment follows
  exact ⟨noQuery, noFragment, follows, fragment, alone (by decide), rooted (by decide), by decide⟩

/-- A fragment by itself leads where it says, not where the empty path before it does. -/
example : (standard.resolve ("" ++ "#/lighting")).page = .lighting ∧
    (standard.resolve "").page = .mixer := by decide

end RouteTable

end MixerPanel
