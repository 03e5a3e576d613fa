import Mathlib.Data.List.Nodup
import Mathlib.Logic.Relation
import MixerPanel.Browser.Startup
import MixerPanel.Proofs.Overrides

/-!
# The settings of a page

A page takes its settings from its query.  Of each key that is understood the first value counts,
and the keys are looked up in a fixed order, so that nothing depends on how the query is put
together.  The settings are taken as a whole: one value that is refused, and the page runs with the
standard settings and says why.

* `Config.given_overrides` — what the overrides in a query give to a key is its first value
* `Config.FromFirst` — the standard settings, overridden by the first value of each key
* `Config.exists_ofQuery`, `Config.ofQuery_of_refused` — the settings if every first value is valid,
  and if one is not: the first key at fault, in the fixed order, decides what is told
* `Browser.configure_of_ok`, `Browser.configure_of_refused` — what a page makes of its settings
* `Rewritten` — the ways in which a query can be put differently
* `page_settings_all_or_nothing` — all of it
-/

namespace MixerPanel

namespace Config

variable {query other : List (String × String)} {key value : String} {e : ConfigError}

/-! ## First values -/

theorem lookup_cons_of_ne {pair : String × String} (differs : pair.1 ≠ key)
    (rest : List (String × String)) : (pair :: rest).lookup key = rest.lookup key := by
  rw [List.lookup_cons, beq_false_of_ne differs.symm]

theorem find?_eq_lookup (query : List (String × String)) (key : String) :
    query.find? (fun pair => pair.1 == key) = (query.lookup key).map (Prod.mk key) := by
  induction query with
  | nil => rfl
  | cons pair rest ih =>
      obtain ⟨k, value⟩ := pair
      by_cases same : k = key
      · subst same
        rw [List.find?_cons_of_pos (by simp), List.lookup_cons_self, Option.map_some]
      · rw [List.find?_cons_of_neg (by simpa using same), lookup_cons_of_ne same, ih]

/-- The overrides in a query that are found under some keys. -/
def overridesFor (ks : List String) (query : List (String × String)) : List (String × String) :=
  ks.filterMap fun key => (query.lookup key).map (Prod.mk key)

theorem overrides_eq (query : List (String × String)) :
    overrides query = overridesFor keys query := by
  simp only [overrides, overridesFor, find?_eq_lookup]

theorem mem_overridesFor_iff {ks : List String} :
    (key, value) ∈ overridesFor ks query ↔ key ∈ ks ∧ query.lookup key = some value := by
  simp only [overridesFor, List.mem_filterMap, Option.map_eq_some_iff, Prod.mk.injEq]
  constructor
  · rintro ⟨_, mem, _, first, rfl, rfl⟩
    exact ⟨mem, first⟩
  · rintro ⟨mem, first⟩
    exact ⟨key, mem, value, first, rfl, rfl⟩

theorem overridesFor_append (front back : List String) (query : List (String × String)) :
    overridesFor (front ++ back) query = overridesFor front query ++ overridesFor back query :=
  List.filterMap_append

theorem overridesFor_cons_of_some (first : query.lookup key = some value) (back : List String) :
    overridesFor (key :: back) query = (key, value) :: overridesFor back query :=
  List.filterMap_cons_some (by rw [first, Option.map_some])

theorem given_overridesFor {ks : List String} (distinct : ks.Nodup) (mem : key ∈ ks) :
    given key (overridesFor ks query) = (query.lookup key).toList := by
  obtain ⟨front, back, rfl⟩ := List.append_of_mem mem
  have once : key ∉ front ++ back := (List.nodup_cons.mp (List.nodup_middle.mp distinct)).1
  rw [List.mem_append, not_or] at once
  have unfound {ks : List String} (absent : key ∉ ks) : given key (overridesFor ks query) = [] := by
    refine List.eq_nil_iff_forall_not_mem.mpr fun value mem => ?_
    exact absent (mem_overridesFor_iff.mp (mem_given_iff.mp mem)).1
  have found : given key (overridesFor [key] query) = (query.lookup key).toList := by
    cases first : query.lookup key with
    | none => simp [overridesFor, first]
    | some value => simp [overridesFor, first, given]
  rw [overridesFor_append, given_append, unfound once.1, ← List.singleton_append,
    overridesFor_append, given_append, unfound once.2, found, List.nil_append, List.append_nil]

/-- **The overrides in a query** give each key its first value. -/
theorem given_overrides (mem : key ∈ keys) :
    given key (overrides query) = (query.lookup key).toList := by
  rw [overrides_eq]
  exact given_overridesFor (by decide) mem

theorem getLast?_toList (o : Option String) : o.toList.getLast? = o := by
  cases o <;> rfl

/-! ## The settings -/

/-- The first level in a query, if there is one, has one of the six names. -/
def LevelValid (query : List (String × String)) : Prop :=
  ∀ value, query.lookup "log" = some value →
    value.toUpper ∈ ["OFF", "ERROR", "WARN", "INFO", "DEBUG", "TRACE"]

/-- The first delay in a query, if there is one, is valid. -/
def DelayValid (query : List (String × String)) : Prop :=
  ∀ value, query.lookup "reconnect" = some value → ∃ delay, IsDelay value delay

/-- The standard settings, overridden by the first value of each key. -/
structure FromFirst (query : List (String × String)) (c : Config) : Prop where
  hostSelector : c.hostSelector = ((query.lookup "host").filter (· ≠ "")).getD "#app"
  daemonUrl : c.daemonUrl = (query.lookup "daemon").filter (· ≠ "")
  logFilter : match query.lookup "log" with
    | some value => c.logFilter.name = value.toUpper
    | none => c.logFilter = .upTo .info
  reconnectDelay : match query.lookup "reconnect" with
    | some value => IsDelay value c.reconnectDelay.toNat
    | none => c.reconnectDelay = 2000

theorem ofQuery_of_ok {c : Config} (ok : ofPairs (overrides query) = .ok c) :
    ofQuery query = (c, none) := by
  rw [ofQuery, ok]

/-- **If both values that can be refused are valid**, every first value counts. -/
theorem exists_ofQuery (level : LevelValid query) (delay : DelayValid query) :
    ∃ c, FromFirst query c ∧ ofQuery query = (c, none) := by
  have accepted : ∀ pair ∈ overrides query, Accepted pair := by
    rw [forall_accepted_iff, given_overrides (by decide), given_overrides (by decide)]
    simp only [Option.mem_toList]
    exact ⟨level, delay⟩
  have ok : ofPairs (overrides query) = .ok (standard.overridden (overrides query)) :=
    applyAll_eq_ok_iff.mpr ⟨accepted, rfl⟩
  refine ⟨_, ⟨?_, ?_, ?_, ?_⟩, ofQuery_of_ok ok⟩
  · rw [hostSelector_of_ofPairs ok, given_overrides (by decide), ← Option.toList_filter,
      getLast?_toList]
  · rw [daemonUrl_of_ofPairs ok, given_overrides (by decide), ← Option.toList_filter,
      getLast?_toList]
  · have filter := logFilter_of_ofPairs ok
    rwa [given_overrides (by decide), getLast?_toList] at filter
  · have delay := reconnectDelay_of_ofPairs ok
    rwa [given_overrides (by decide), getLast?_toList] at delay

/-- **The first key at fault**, in the order in which keys are looked up, decides; nothing is left
of the values of the other keys. -/
theorem ofQuery_of_refused {front back : List String} (order : keys = front ++ key :: back)
    (first : query.lookup key = some value) (refused : Refused key value e)
    (accepted : ∀ k ∈ front, ∀ v, query.lookup k = some v → Accepted (k, v)) :
    ofQuery query = (standard, some e) := by
  have split : overrides query
      = overridesFor front query ++ (key, value) :: overridesFor back query := by
    rw [overrides_eq, order, overridesFor_append, overridesFor_cons_of_some first]
  have failed : ofPairs (overrides query) = .error e := by
    refine applyAll_eq_error_iff.mpr ⟨_, key, value, _, split, ?_, refused⟩
    rintro ⟨k, v⟩ mem
    obtain ⟨early, found⟩ := mem_overridesFor_iff.mp mem
    exact accepted k early v found
  rw [ofQuery, failed]

/-- A level is looked up before a delay. -/
theorem ofQuery_of_level (first : query.lookup "log" = some value)
    (unknown : value.toUpper ∉ ["OFF", "ERROR", "WARN", "INFO", "DEBUG", "TRACE"]) :
    ofQuery query = (standard, some (.invalidLogLevel value)) := by
  have order : keys = ["host", "daemon"] ++ "log" :: ["reconnect"] := rfl
  refine ofQuery_of_refused order first (.logLevel unknown) fun k early v _ e refused => ?_
  cases refused with
  | logLevel | delay => exact absurd early (by decide)

theorem ofQuery_of_delay (level : LevelValid query) (first : query.lookup "reconnect" = some value)
    (invalid : ∀ delay, ¬ IsDelay value delay) :
    ofQuery query = (standard, some (.invalidNumber "reconnect" value)) := by
  have order : keys = ["host", "daemon", "log"] ++ ["reconnect"] := rfl
  refine ofQuery_of_refused order first (.delay invalid) fun k early v found e refused => ?_
  cases refused with
  | logLevel unknown => exact unknown (level v found)
  | delay => exact absurd early (by decide)

/-- **Nothing but first values counts.** -/
theorem ofQuery_congr (same : ∀ key ∈ keys, other.lookup key = query.lookup key) :
    ofQuery other = ofQuery query := by
  have overrides : overrides other = overrides query := by
    rw [overrides_eq, overrides_eq]
    exact List.filterMap_congr fun key mem => by rw [same key mem]
  rw [ofQuery, ofQuery, overrides]

end Config

/-! ## Other ways to put a query -/

open Config

/-- A query is put differently: two parameters of different keys change places, a key is given once
more behind its first value, or a parameter of a key that nobody reads comes in. -/
inductive Rewritten : List (String × String) → List (String × String) → Prop
  | swapped (before : List (String × String)) {p q : String × String}
      (after : List (String × String)) (different : p.1 ≠ q.1) :
      Rewritten (before ++ p :: q :: after) (before ++ q :: p :: after)
  | repeated {before : List (String × String)} {key first : String} (there : (key, first) ∈ before)
      (again : String) (after : List (String × String)) :
      Rewritten (before ++ after) (before ++ (key, again) :: after)
  | added (before : List (String × String)) {key : String} (unread : key ∉ keys) (value : String)
      (after : List (String × String)) :
      Rewritten (before ++ after) (before ++ (key, value) :: after)

section

variable {query other : List (String × String)} {key : String}

theorem lookup_swap {p q : String × String} (different : p.1 ≠ q.1)
    (after : List (String × String)) :
    (q :: p :: after).lookup key = (p :: q :: after).lookup key := by
  by_cases isFirst : p.1 = key
  · subst isFirst
    rw [lookup_cons_of_ne different.symm, List.lookup_cons_self, List.lookup_cons_self]
  · rw [lookup_cons_of_ne isFirst]
    by_cases isSecond : q.1 = key
    · subst isSecond
      rw [List.lookup_cons_self, List.lookup_cons_self]
    · rw [lookup_cons_of_ne isSecond, lookup_cons_of_ne isSecond, lookup_cons_of_ne isFirst]

/-- **First values stay** when a query is put differently. -/
theorem Rewritten.lookup_eq (rewritten : Rewritten query other) (mem : key ∈ keys) :
    other.lookup key = query.lookup key := by
  cases rewritten with
  | swapped before after different =>
      rw [List.lookup_append, List.lookup_append, lookup_swap different]
  | @repeated before k first there again after =>
      rw [List.lookup_append, List.lookup_append]
      by_cases same : k = key
      · -- the first value is in front of both
        have found : (before.lookup key).isSome :=
          List.lookup_isSome_iff.mpr ⟨_, there, by simp [same]⟩
        rw [Option.or_of_isSome found, Option.or_of_isSome found]
      · rw [lookup_cons_of_ne same]
  | @added before k unread value after =>
      have differs : k ≠ key := fun same => unread (same ▸ mem)
      rw [List.lookup_append, List.lookup_append, lookup_cons_of_ne differs]

theorem lookup_eq_of_rewritten (rewritten : Relation.EqvGen Rewritten query other)
    (mem : key ∈ keys) : other.lookup key = query.lookup key := by
  induction rewritten with
  | rel _ _ once => exact once.lookup_eq mem
  | refl => rfl
  | symm _ _ _ ih => exact ih.symm
  | trans _ _ _ _ _ first second => exact second.trans first

end

/-! ## The page -/

namespace Browser

/-- A page after its settings have been refused. -/
def warned (b : Browser) (reason : String) : Browser :=
  { b with
    filter := .upTo .info
    log := b.log ++ [Log.warn ("Ignoring page configuration: " ++ reason)] }

/-- A page that keeps the log lines that a filter wants; a filter that wants none leaves it as it
is. -/
def filtered (b : Browser) (filter : Log.Filter) : Browser :=
  { b with filter := if filter = .off then b.filter else filter }

variable {b : Browser} {c : Config} {e : ConfigError}

theorem configure_of_ok (ok : ofQuery b.query = (c, none)) :
    b.configure = (b.filtered c.logFilter, c) := by
  simp only [configure, ok, filtered]
  split_ifs <;> rfl

theorem configure_of_refused (refused : ofQuery b.query = (standard, some e)) :
    b.configure = (b.warned e.message, standard) := by
  simp only [configure, refused]
  rfl

/-- A page whose query is put differently is the same but for the query. -/
theorem configure_congr {query : List (String × String)}
    (same : ∀ key ∈ keys, query.lookup key = b.query.lookup key) :
    ({ b with query := query } : Browser).configure
      = ({ b.configure.1 with query := query }, b.configure.2) := by
  simp only [configure, ofQuery_congr same]
  rcases ofQuery b.query with ⟨c, _ | e⟩ <;> split_ifs <;> rfl

end Browser

/-- **The settings of a page are taken as a whole.**  A page configures itself before anything else
when it is started:

* If the first level and the first delay in the query are valid, the page starts with the standard
  settings, overridden by the first value of every key, and warns of nothing.
* If the first level is not valid, whatever the delay, or only the first delay is not, the page
  starts with the standard settings, and there is one warning, which names that value.
* The settings and the warning depend on nothing but the first value of each key.  They are the same
  if parameters of different keys change places, if a key is given again behind its first value, or
  if parameters of other keys come in, any number of times. -/
theorem page_settings_all_or_nothing (b : Browser) :
    (LevelValid b.query → DelayValid b.query →
      ∃ c, FromFirst b.query c ∧ b.configure = (b.filtered c.logFilter, c)) ∧
    (∀ value, b.query.lookup "log" = some value →
      value.toUpper ∉ ["OFF", "ERROR", "WARN", "INFO", "DEBUG", "TRACE"] →
      b.configure = (b.warned ("Invalid log level: " ++ value), standard)) ∧
    (∀ value, LevelValid b.query → b.query.lookup "reconnect" = some value →
      (∀ delay, ¬ IsDelay value delay) →
      b.configure = (b.warned ("Invalid value for 'reconnect': " ++ value), standard)) ∧
    (∀ query : List (String × String), (∀ key ∈ keys, query.lookup key = b.query.lookup key) →
      ({ b with query := query } : Browser).configure
        = ({ b.configure.1 with query := query }, b.configure.2)) ∧
    ∀ query, Relation.EqvGen Rewritten b.query query →
      ({ b with query := query } : Browser).configure
        = ({ b.configure.1 with query := query }, b.configure.2) := by
  refine ⟨?_, ?_, ?_, ?_, ?_⟩
  · intro level delay
    obtain ⟨c, fromFirst, ok⟩ := exists_ofQuery level delay
    exact ⟨c, fromFirst, Browser.configure_of_ok ok⟩
  · intro value first unknown
    exact Browser.configure_of_refused (ofQuery_of_level first unknown)
  · intro value level first invalid
    have told : (ConfigError.invalidNumber "reconnect" value).message
        = "Invalid value for 'reconnect': " ++ value := rfl
    rw [← told]
    exact Browser.configure_of_refused (ofQuery_of_delay level first invalid)
  · intro query same
    exact Browser.configure_congr same
  · intro query rewritten
    exact Browser.configure_congr fun key mem => lookup_eq_of_rewritten rewritten mem

/-- A page without log lines whose second level does not count, and two with the same fault. -/
theorem settings_of_three_pages :
    let page (query : List (String × String)) :=
      Browser.fresh "https:" "panel.local" query "" ⟨["#app"], [], []⟩ []
    let valid := [("log", "Off"), ("host", "#root"), ("log", "loud"), ("reconnect", "+0500")]
    let faulty := [("reconnect", "-1"), ("host", "#root"), ("log", "loud")]
    let reordered := [("reconnect", "-1"), ("log", "loud"), ("host", "#root")]
    (∃ c, FromFirst valid c ∧ (page valid).configure = ((page valid).filtered c.logFilter, c)) ∧
      (page valid).configure = (page valid, ⟨"#root", none, .off, 500⟩) ∧
      (page faulty).configure = ((page faulty).warned "Invalid log level: loud", standard) ∧
      Rewritten faulty reordered ∧
      (page reordered).configure
        = ((page reordered).warned "Invalid log level: loud", standard) := by
  intro page valid faulty reordered
  have level : LevelValid valid := by
    rintro value first
    obtain rfl : "Off" = value := Option.some.inj first
    exact Log.Filter.exists_ofName?_iff.mp ⟨.off, by rfl⟩
  have delay : DelayValid valid := by
    rintro value first
    obtain rfl : "+0500" = value := Option.some.inj first
    exact exists_reconnectDelay?_iff.mp ⟨500, by rfl⟩
  have rewritten : Rewritten faulty reordered := .swapped [("reconnect", "-1")] [] (by decide)
  have loud := Log.Filter.ofName?_eq_none_iff.mp (show Log.Filter.ofName? "loud" = none by rfl)
  have warned := (page_settings_all_or_nothing (page faulty)).2.1 "loud" rfl loud
  have same := (page_settings_all_or_nothing (page faulty)).2.2.2.2 reordered (.rel _ _ rewritten)
  refine ⟨(page_settings_all_or_nothing (page valid)).1 level delay, by rfl, warned, rewritten, ?_⟩
  rw [warned] at same
  exact same

end MixerPanel
