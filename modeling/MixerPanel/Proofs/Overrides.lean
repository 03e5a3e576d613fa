import Mathlib.Data.List.Induction
import Mathlib.Tactic.SplitIfs
import MixerPanel.Config

/-!
# Overrides

Overrides are applied one after the other, up to the first that is refused.  Whether one is refused
depends on nothing but its key and its value, and what is left of the others is, for each key, the
last value that counts.

* `Log.Filter.ofName?_eq_some_iff` — the names of filters
* `Config.IsDelay`, `Config.reconnectDelay?_eq_some_iff` — the texts that stand for a delay
* `Config.Refused` — the overrides that are refused, and why
* `Config.Applied`, `Config.apply_applied` — what one override can do
* `Config.given`, `Config.overridden` — the values of a key, and the settings that they make
* `Config.applyAll_eq_ok_iff`, `Config.applyAll_eq_error_iff` — what a list of overrides does
* `overrides_count_by_key` — the same for the standard settings, key by key

Everything about lists is derived from `apply_applied`, the one lemma that looks into an override.
-/

namespace MixerPanel

/-! ## Filters by name -/

namespace Log.Filter

theorem capital_of_lt : ∀ n < 128, capital (Char.ofNat n) = (Char.ofNat n).toUpper := by decide

theorem capital_eq_toUpper (c : Char) : capital c = c.toUpper := by
  by_cases ascii : c.toNat < 128
  · rw [← Char.ofNat_toNat c]
    exact capital_of_lt c.toNat ascii
  · -- neither of them touches a character beyond ASCII
    have beyond : ¬ c.val ≤ 'z'.val := by
      rw [UInt32.le_iff_toNat_le]
      have code : c.val.toNat = c.toNat := rfl
      have last : 'z'.val.toNat = 122 := rfl
      omega
    have notSmall : ¬ ('a' ≤ c ∧ c ≤ 'z') := fun small => beyond small.2
    have same : c.toUpper = c := dif_neg fun small => beyond small.2
    rw [capital, if_neg notSmall, same]

theorem mem_all (filter : Filter) : filter ∈ all := by
  cases filter with
  | off => decide
  | upTo level => cases level <;> decide

theorem name_injective {f g : Filter} (same : f.name = g.name) : f = g := by
  have distinct : ∀ f ∈ all, ∀ g ∈ all, f.name = g.name → f = g := by decide
  exact distinct f f.mem_all g g.mem_all same

theorem matches_iff {name : String} {filter : Filter} :
    (filter.name.toList == name.toList.map capital) = true ↔ name.toUpper = filter.name := by
  have capitals : capital = Char.toUpper := funext capital_eq_toUpper
  rw [beq_iff_eq, capitals, ← String.toList_map, String.toList_inj, String.toUpper, eq_comm]

/-- **A filter is found by its name**, in any ASCII letter case. -/
theorem ofName?_eq_some_iff {name : String} {filter : Filter} :
    ofName? name = some filter ↔ name.toUpper = filter.name := by
  have named {f : Filter} (found : ofName? name = some f) : name.toUpper = f.name := by
    have isMatch := List.find?_some found
    exact matches_iff.mp isMatch
  constructor
  · exact named
  · intro isName
    cases found : ofName? name with
    | none =>
        have missing := List.find?_eq_none.mp found filter filter.mem_all
        exact absurd (matches_iff.mpr isName) missing
    | some other => rw [name_injective ((named found).symm.trans isName)]

/-- There are six names. -/
theorem exists_ofName?_iff {name : String} :
    (∃ filter, ofName? name = some filter)
      ↔ name.toUpper ∈ ["OFF", "ERROR", "WARN", "INFO", "DEBUG", "TRACE"] := by
  have names : ["OFF", "ERROR", "WARN", "INFO", "DEBUG", "TRACE"] = all.map Filter.name := rfl
  simp only [ofName?_eq_some_iff, names, List.mem_map]
  constructor
  · rintro ⟨filter, named⟩
    exact ⟨filter, filter.mem_all, named.symm⟩
  · rintro ⟨filter, -, named⟩
    exact ⟨filter, named.symm⟩

theorem ofName?_eq_none_iff {name : String} :
    ofName? name = none
      ↔ name.toUpper ∉ ["OFF", "ERROR", "WARN", "INFO", "DEBUG", "TRACE"] := by
  rw [← exists_ofName?_iff, not_exists, Option.eq_none_iff_forall_ne_some]

end Log.Filter

namespace Config

/-! ## Delays -/

/-- A text spells a number by decimal digits after an optional plus. -/
structure Spells (text : String) (digits : List Char) : Prop where
  chars : text.toList = digits ∨ text.toList = '+' :: digits
  nonempty : digits ≠ []
  each : ∀ c ∈ digits, c.isDigit = true

/-- A text stands for a delay: it spells a number, and the number is neither too small nor too
large. -/
def IsDelay (text : String) (delay : Nat) : Prop :=
  ∃ digits, Spells text digits ∧ Nat.ofDigitChars 10 digits 0 = delay ∧
    minReconnectDelay ≤ delay ∧ delay < UInt32.size

theorem isDigit_eq (c : Char) : isDigit c = c.isDigit := by
  simp [isDigit, Char.isDigit, Char.le_def]

theorem ofDigits_eq (digits : List Char) : ofDigits digits = Nat.ofDigitChars 10 digits 0 := by
  simp only [ofDigits, Nat.ofDigitChars, Nat.mul_comm]

theorem Spells.withoutPlus_eq {text : String} {digits : List Char} (spells : Spells text digits) :
    withoutPlus text.toList = digits := by
  obtain ⟨isPlain | isSigned, -, each⟩ := spells
  · rw [isPlain]
    unfold withoutPlus
    split
    · exact absurd (each '+' List.mem_cons_self) (by decide)
    · rfl
  · rw [isSigned]
    rfl

theorem eq_withoutPlus (cs : List Char) : cs = withoutPlus cs ∨ cs = '+' :: withoutPlus cs := by
  unfold withoutPlus
  split
  · exact .inr rfl
  · exact .inl rfl

theorem word32?_eq_some_iff {text : String} {n : Nat} :
    word32? text = some n ↔
      ∃ digits, Spells text digits ∧ Nat.ofDigitChars 10 digits 0 = n ∧ n < UInt32.size := by
  simp only [word32?, ofDigits_eq]
  constructor
  · intro read
    split_ifs at read with odd small
    rw [not_or, Bool.not_eq_true', Bool.not_eq_false] at odd
    obtain ⟨nonempty, digits⟩ := odd
    obtain rfl := Option.some.inj read
    refine ⟨_, ⟨eq_withoutPlus _, mt List.isEmpty_iff.mpr nonempty, ?_⟩, rfl, small⟩
    intro c mem
    rw [← isDigit_eq]
    exact List.all_eq_true.mp digits c mem
  · rintro ⟨digits, spells, rfl, small⟩
    have all : digits.all isDigit = true :=
      List.all_eq_true.mpr fun c mem => (isDigit_eq c).trans (spells.each c mem)
    rw [spells.withoutPlus_eq, if_neg (by simp [spells.nonempty, all]), if_pos small]

/-- **The texts that stand for a delay.** -/
theorem reconnectDelay?_eq_some_iff {text : String} {delay : UInt32} :
    reconnectDelay? text = some delay ↔ IsDelay text delay.toNat := by
  rw [reconnectDelay?, Option.map_eq_some_iff]
  constructor
  · rintro ⟨n, isLong, rfl⟩
    obtain ⟨isWord, long⟩ := Option.filter_eq_some_iff.mp isLong
    obtain ⟨digits, spells, value, small⟩ := word32?_eq_some_iff.mp isWord
    rw [UInt32.toNat_ofNat_of_lt' small]
    exact ⟨digits, spells, value, of_decide_eq_true long, small⟩
  · rintro ⟨digits, spells, value, long, small⟩
    have isWord := word32?_eq_some_iff.mpr ⟨digits, spells, value, small⟩
    refine ⟨delay.toNat, ?_, UInt32.ofNat_toNat⟩
    rw [isWord, Option.filter_eq_some_iff]
    exact ⟨rfl, decide_eq_true long⟩

theorem exists_reconnectDelay?_iff {text : String} :
    (∃ delay, reconnectDelay? text = some delay) ↔ ∃ delay, IsDelay text delay := by
  simp only [reconnectDelay?_eq_some_iff]
  constructor
  · rintro ⟨delay, isDelay⟩
    exact ⟨delay.toNat, isDelay⟩
  · rintro ⟨delay, isDelay⟩
    have ⟨_, _, _, _, small⟩ := isDelay
    refine ⟨UInt32.ofNat delay, ?_⟩
    rwa [UInt32.toNat_ofNat_of_lt' small]

theorem reconnectDelay?_eq_none_iff {text : String} :
    reconnectDelay? text = none ↔ ∀ delay, ¬ IsDelay text delay := by
  rw [← not_exists, ← exists_reconnectDelay?_iff, not_exists, Option.eq_none_iff_forall_ne_some]

/-! ## One override -/

/-- The overrides that are refused, and why. -/
inductive Refused : String → String → ConfigError → Prop
  | logLevel {value : String}
      (unknown : value.toUpper ∉ ["OFF", "ERROR", "WARN", "INFO", "DEBUG", "TRACE"]) :
      Refused "log" value (.invalidLogLevel value)
  | delay {value : String} (invalid : ∀ delay, ¬ IsDelay value delay) :
      Refused "reconnect" value (.invalidNumber "reconnect" value)

/-- What an override can do to the settings. -/
inductive Applied (c : Config) : String → String → Except ConfigError Config → Prop
  | host {value : String} (nonempty : value ≠ "") :
      Applied c "host" value (.ok { c with hostSelector := value })
  | daemon {value : String} (nonempty : value ≠ "") :
      Applied c "daemon" value (.ok { c with daemonUrl := some value })
  | log {value : String} {filter : Log.Filter} (named : Log.Filter.ofName? value = some filter) :
      Applied c "log" value (.ok { c with logFilter := filter })
  | reconnect {value : String} {delay : UInt32} (isDelay : reconnectDelay? value = some delay) :
      Applied c "reconnect" value (.ok { c with reconnectDelay := delay })
  | blank {key : String} (passedOver : key = "host" ∨ key = "daemon") : Applied c key "" (.ok c)
  | unread {key : String} (value : String) (other : key ∉ keys) : Applied c key value (.ok c)
  | refused {key value : String} {e : ConfigError} (refused : Refused key value e) :
      Applied c key value (.error e)

/-- **Every override does one of these things.** -/
theorem apply_applied (c : Config) (key value : String) :
    Applied c key value (c.apply key value) := by
  unfold apply
  split_ifs with isHost hostEmpty isDaemon daemonEmpty isLog isReconnect
  · subst isHost hostEmpty
    exact .blank (.inl rfl)
  · subst isHost
    exact .host hostEmpty
  · subst isDaemon daemonEmpty
    exact .blank (.inr rfl)
  · subst isDaemon
    exact .daemon daemonEmpty
  · subst isLog
    cases found : Log.Filter.ofName? value with
    | some filter => exact .log found
    | none => exact .refused (.logLevel (Log.Filter.ofName?_eq_none_iff.mp found))
  · subst isReconnect
    cases found : reconnectDelay? value with
    | some delay => exact .reconnect found
    | none => exact .refused (.delay (reconnectDelay?_eq_none_iff.mp found))
  · exact .unread value (by simp [keys, isHost, isDaemon, isLog, isReconnect])

/-- Whether an override is refused does not depend on the settings. -/
theorem apply_eq_error_iff {c : Config} {key value : String} {e : ConfigError} :
    c.apply key value = .error e ↔ Refused key value e := by
  constructor
  · intro isRefused
    have applied := c.apply_applied key value
    rw [isRefused] at applied
    cases applied with
    | refused refused => exact refused
  · intro refused
    cases refused with
    | logLevel unknown =>
        simp only [apply, Log.Filter.ofName?_eq_none_iff.mpr unknown]
        rfl
    | delay invalid =>
        simp only [apply, reconnectDelay?_eq_none_iff.mpr invalid]
        rfl

theorem apply_of_unread {c : Config} {key : String} (other : key ∉ keys) (value : String) :
    c.apply key value = .ok c := by
  simp only [keys, List.mem_cons, List.not_mem_nil, or_false, not_or] at other
  obtain ⟨host, daemon, log, reconnect⟩ := other
  rw [apply, if_neg host, if_neg daemon, if_neg log, if_neg reconnect]

/-! ## Lists of overrides -/

/-- An override that is not refused. -/
def Accepted (pair : String × String) : Prop := ∀ e, ¬ Refused pair.1 pair.2 e

/-- The values that overrides give to a key, in their order. -/
def given (key : String) (pairs : List (String × String)) : List String :=
  (pairs.filter fun pair => pair.1 = key).map Prod.snd

@[simp] theorem given_nil (key : String) : given key [] = [] := rfl

theorem given_append (key : String) (front back : List (String × String)) :
    given key (front ++ back) = given key front ++ given key back := by
  rw [given, List.filter_append, List.map_append, given, given]

theorem given_concat (key : String) (front : List (String × String)) (k value : String) :
    given key (front ++ [(k, value)])
      = given key front ++ if k = key then [value] else [] := by
  rw [given_append]
  split_ifs with same <;> simp [given, same]

theorem mem_given_iff {key value : String} {pairs : List (String × String)} :
    value ∈ given key pairs ↔ (key, value) ∈ pairs := by
  simp [given]

/-- The settings after overrides of which none is refused: of each key the last value counts,
except that an empty selector or address does not. -/
def overridden (c : Config) (pairs : List (String × String)) : Config where
  hostSelector := ((given "host" pairs).filter (· ≠ "")).getLast?.getD c.hostSelector
  daemonUrl := ((given "daemon" pairs).filter (· ≠ "")).getLast?.or c.daemonUrl
  logFilter := ((given "log" pairs).getLast?.bind Log.Filter.ofName?).getD c.logFilter
  reconnectDelay := ((given "reconnect" pairs).getLast?.bind reconnectDelay?).getD c.reconnectDelay

/-- **One override more** changes the field of its key and no other. -/
theorem overridden_concat {c next : Config} {front : List (String × String)} {key value : String}
    (applied : Applied (c.overridden front) key value (.ok next)) :
    c.overridden (front ++ [(key, value)]) = next := by
  cases applied with
  | host nonempty => simp [overridden, given_concat, nonempty]
  | daemon nonempty => simp [overridden, given_concat, nonempty]
  | log named => simp [overridden, given_concat, named]
  | reconnect isDelay => simp [overridden, given_concat, isDelay]
  | blank passedOver => rcases passedOver with rfl | rfl <;> simp [overridden, given_concat]
  | unread value other =>
      simp only [keys, List.mem_cons, List.not_mem_nil, or_false, not_or] at other
      simp [overridden, given_concat, other]

theorem applyAll_cons_of_ok {c next : Config} {pair : String × String}
    (applied : c.apply pair.1 pair.2 = .ok next) (rest : List (String × String)) :
    c.applyAll (pair :: rest) = next.applyAll rest := by
  rw [applyAll, applied]

theorem applyAll_cons_of_refused {c : Config} {pair : String × String} {e : ConfigError}
    (refused : Refused pair.1 pair.2 e) (rest : List (String × String)) :
    c.applyAll (pair :: rest) = .error e := by
  rw [applyAll, apply_eq_error_iff.mpr refused]

theorem applyAll_append (c : Config) (front back : List (String × String)) :
    c.applyAll (front ++ back)
      = match c.applyAll front with
        | .ok next => next.applyAll back
        | .error e => .error e := by
  induction front generalizing c with
  | nil => rfl
  | cons pair rest ih =>
      rw [List.cons_append, applyAll, applyAll]
      cases c.apply pair.1 pair.2 with
      | ok next => exact ih next
      | error e => rfl

theorem accepted_of_ok {c next : Config} {pair : String × String}
    (applied : c.apply pair.1 pair.2 = .ok next) : Accepted pair := by
  intro e refused
  rw [apply_eq_error_iff.mpr refused] at applied
  cases applied

/-- **When overrides can all be applied, and what they make of the settings.** -/
theorem applyAll_eq_ok_iff {c after : Config} {pairs : List (String × String)} :
    c.applyAll pairs = .ok after
      ↔ (∀ pair ∈ pairs, Accepted pair) ∧ c.overridden pairs = after := by
  induction pairs using List.reverseRecOn generalizing after with
  | nil => simp [applyAll, overridden]
  | append_singleton front pair ih =>
      rw [applyAll_append, List.forall_mem_append, List.forall_mem_singleton]
      cases ran : c.applyAll front with
      | error e =>
          refine iff_of_false nofun ?_
          rintro ⟨⟨accepted, -⟩, -⟩
          rw [ih.mpr ⟨accepted, rfl⟩] at ran
          cases ran
      | ok mid =>
          obtain ⟨accepted, rfl⟩ := ih.mp ran
          dsimp only
          have applied := (c.overridden front).apply_applied pair.1 pair.2
          cases outcome : (c.overridden front).apply pair.1 pair.2 with
          | error e =>
              have refused : Refused pair.1 pair.2 e := apply_eq_error_iff.mp outcome
              rw [applyAll_cons_of_refused refused]
              exact iff_of_false nofun fun ⟨⟨_, accepted⟩, _⟩ => accepted e refused
          | ok next =>
              rw [outcome] at applied
              have settled : c.overridden (front ++ [pair]) = next := overridden_concat applied
              rw [applyAll_cons_of_ok outcome, applyAll, Except.ok.injEq, settled]
              exact ⟨fun same => ⟨⟨accepted, accepted_of_ok outcome⟩, same⟩, And.right⟩

/-- No override is refused if the values of two keys can be read. -/
theorem forall_accepted_iff {pairs : List (String × String)} :
    (∀ pair ∈ pairs, Accepted pair) ↔
      (∀ value ∈ given "log" pairs,
        value.toUpper ∈ ["OFF", "ERROR", "WARN", "INFO", "DEBUG", "TRACE"]) ∧
      ∀ value ∈ given "reconnect" pairs, ∃ delay, IsDelay value delay := by
  constructor
  · intro accepted
    refine ⟨fun value mem => ?_, fun value mem => ?_⟩
    · by_contra unknown
      exact accepted _ (mem_given_iff.mp mem) _ (.logLevel unknown)
    · by_contra invalid
      exact accepted _ (mem_given_iff.mp mem) _ (.delay (not_exists.mp invalid))
  · rintro ⟨levels, delays⟩ ⟨key, value⟩ mem e refused
    cases refused with
    | logLevel unknown => exact unknown (levels value (mem_given_iff.mpr mem))
    | delay invalid =>
        obtain ⟨delay, isDelay⟩ := delays value (mem_given_iff.mpr mem)
        exact invalid delay isDelay

/-- **The first override that is refused decides** what the whole list is refused for. -/
theorem applyAll_eq_error_iff {c : Config} {pairs : List (String × String)} {e : ConfigError} :
    c.applyAll pairs = .error e ↔ ∃ before key value after,
      pairs = before ++ (key, value) :: after ∧ (∀ pair ∈ before, Accepted pair) ∧
      Refused key value e := by
  constructor
  · intro failed
    induction pairs generalizing c with
    | nil => cases failed
    | cons pair rest ih =>
        cases outcome : c.apply pair.1 pair.2 with
        | error first =>
            have refused : Refused pair.1 pair.2 first := apply_eq_error_iff.mp outcome
            rw [applyAll_cons_of_refused refused] at failed
            cases failed
            exact ⟨[], pair.1, pair.2, rest, rfl, nofun, refused⟩
        | ok next =>
            rw [applyAll_cons_of_ok outcome] at failed
            obtain ⟨before, key, value, after, rfl, accepted, refused⟩ := ih failed
            refine ⟨pair :: before, key, value, after, rfl, ?_, refused⟩
            exact List.forall_mem_cons.mpr ⟨accepted_of_ok outcome, accepted⟩
  · rintro ⟨before, key, value, after, rfl, accepted, refused⟩
    have ran : c.applyAll before = .ok (c.overridden before) :=
      applyAll_eq_ok_iff.mpr ⟨accepted, rfl⟩
    rw [applyAll_append, ran]
    dsimp only
    exact applyAll_cons_of_refused refused after

/-- Overrides of keys that are not understood make no difference. -/
theorem applyAll_filter_keys (c : Config) (pairs : List (String × String)) :
    c.applyAll (pairs.filter fun pair => pair.1 ∈ keys) = c.applyAll pairs := by
  induction pairs generalizing c with
  | nil => rfl
  | cons pair rest ih =>
      rw [List.filter_cons]
      split_ifs with understood
      · cases outcome : c.apply pair.1 pair.2 with
        | error e =>
            have refused : Refused pair.1 pair.2 e := apply_eq_error_iff.mp outcome
            rw [applyAll_cons_of_refused refused, applyAll_cons_of_refused refused]
        | ok next => rw [applyAll_cons_of_ok outcome, applyAll_cons_of_ok outcome, ih]
      · have unread : pair.1 ∉ keys := by simpa using understood
        rw [ih, applyAll_cons_of_ok (apply_of_unread unread pair.2)]

/-- Only the values of each key count, not how the keys are mixed. -/
theorem overridden_congr {c : Config} {pairs others : List (String × String)}
    (same : ∀ key ∈ keys, given key others = given key pairs) :
    c.overridden others = c.overridden pairs := by
  simp only [keys, List.forall_mem_cons, List.not_mem_nil] at same
  obtain ⟨host, daemon, log, reconnect, -⟩ := same
  rw [overridden, host, daemon, log, reconnect, overridden]

theorem forall_accepted_congr {pairs others : List (String × String)}
    (same : ∀ key ∈ keys, given key others = given key pairs) :
    (∀ pair ∈ others, Accepted pair) ↔ ∀ pair ∈ pairs, Accepted pair := by
  rw [forall_accepted_iff, forall_accepted_iff, same "log" (by decide),
    same "reconnect" (by decide)]

/-! ## Key by key -/

section Fields

variable {c : Config} {pairs : List (String × String)}

theorem hostSelector_of_ofPairs (ok : ofPairs pairs = .ok c) :
    c.hostSelector = ((given "host" pairs).filter (· ≠ "")).getLast?.getD "#app" := by
  rw [← (applyAll_eq_ok_iff.mp ok).2]
  rfl

theorem daemonUrl_of_ofPairs (ok : ofPairs pairs = .ok c) :
    c.daemonUrl = ((given "daemon" pairs).filter (· ≠ "")).getLast? := by
  rw [← (applyAll_eq_ok_iff.mp ok).2]
  exact Option.or_none ..

theorem logFilter_of_ofPairs (ok : ofPairs pairs = .ok c) :
    match (given "log" pairs).getLast? with
    | some value => c.logFilter.name = value.toUpper
    | none => c.logFilter = .upTo .info := by
  obtain ⟨accepted, rfl⟩ := applyAll_eq_ok_iff.mp ok
  cases last : (given "log" pairs).getLast? with
  | none => simp only [overridden, last, Option.bind_none, Option.getD_none, standard]
  | some value =>
      have known := (forall_accepted_iff.mp accepted).1 value (List.mem_of_getLast? last)
      obtain ⟨filter, named⟩ := Log.Filter.exists_ofName?_iff.mpr known
      simp only [overridden, last, Option.bind_some, named, Option.getD_some]
      exact (Log.Filter.ofName?_eq_some_iff.mp named).symm

theorem reconnectDelay_of_ofPairs (ok : ofPairs pairs = .ok c) :
    match (given "reconnect" pairs).getLast? with
    | some value => IsDelay value c.reconnectDelay.toNat
    | none => c.reconnectDelay = 2000 := by
  obtain ⟨accepted, rfl⟩ := applyAll_eq_ok_iff.mp ok
  cases last : (given "reconnect" pairs).getLast? with
  | none => simp only [overridden, last, Option.bind_none, Option.getD_none, standard]
  | some value =>
      have valid := (forall_accepted_iff.mp accepted).2 value (List.mem_of_getLast? last)
      obtain ⟨delay, isDelay⟩ := exists_reconnectDelay?_iff.mpr valid
      simp only [overridden, last, Option.bind_some, isDelay, Option.getD_some]
      exact reconnectDelay?_eq_some_iff.mp isDelay

end Fields

end Config

open Config

/-- **Overrides count key by key.**  The settings can be overridden by a list of pairs exactly if
every log level in it is one of the six names, in any ASCII letter case, and every delay is valid.
Then

* the selector and the address are the last ones that are not empty, and the filter and the delay
  are what the last values of their keys stand for; a key without such a value keeps its standard;
* so pairs of other keys may as well be left out, and pairs of different keys may change places: any
  other list in which each key has the same values in the same order gives the same settings.

Otherwise the list is refused for the first pair in it that is refused, and the error names the
value of that pair. -/
theorem overrides_count_by_key (pairs : List (String × String)) :
    ((∃ c, ofPairs pairs = .ok c) ↔
      (∀ value ∈ given "log" pairs,
        value.toUpper ∈ ["OFF", "ERROR", "WARN", "INFO", "DEBUG", "TRACE"]) ∧
      ∀ value ∈ given "reconnect" pairs, ∃ delay, IsDelay value delay) ∧
    (∀ c, ofPairs pairs = .ok c →
      c.hostSelector = ((given "host" pairs).filter (· ≠ "")).getLast?.getD "#app" ∧
      c.daemonUrl = ((given "daemon" pairs).filter (· ≠ "")).getLast? ∧
      (match (given "log" pairs).getLast? with
        | some value => c.logFilter.name = value.toUpper
        | none => c.logFilter = .upTo .info) ∧
      match (given "reconnect" pairs).getLast? with
        | some value => IsDelay value c.reconnectDelay.toNat
        | none => c.reconnectDelay = 2000) ∧
    ofPairs (pairs.filter fun pair => pair.1 ∈ keys) = ofPairs pairs ∧
    (∀ others c, (∀ key ∈ keys, given key others = given key pairs) →
      (ofPairs others = .ok c ↔ ofPairs pairs = .ok c)) ∧
    ∀ e, ofPairs pairs = .error e ↔ ∃ before key value after,
      pairs = before ++ (key, value) :: after ∧ (∀ pair ∈ before, Accepted pair) ∧
      Refused key value e := by
  refine ⟨?_, fun c ok => ?_, applyAll_filter_keys _ pairs, fun others c same => ?_,
    fun e => applyAll_eq_error_iff⟩
  · rw [← forall_accepted_iff]
    constructor
    · rintro ⟨c, ok⟩
      exact (applyAll_eq_ok_iff.mp ok).1
    · intro accepted
      exact ⟨_, applyAll_eq_ok_iff.mpr ⟨accepted, rfl⟩⟩
  · exact ⟨hostSelector_of_ofPairs ok, daemonUrl_of_ofPairs ok, logFilter_of_ofPairs ok,
      reconnectDelay_of_ofPairs ok⟩
  · rw [ofPairs, ofPairs, applyAll_eq_ok_iff, applyAll_eq_ok_iff, overridden_congr same,
      forall_accepted_congr same]

/-- An empty selector after another one, two levels, and a key that nobody reads, in two orders. -/
theorem mixed_overrides_reordered :
    let pairs := [("host", "#root"), ("log", "dEbUg"), ("theme", "dark"), ("host", ""),
      ("reconnect", "+0500"), ("log", "Off")]
    let others := [("reconnect", "+0500"), ("log", "dEbUg"), ("log", "Off"), ("host", "#root"),
      ("host", "")]
    let settings : Config := ⟨"#root", none, .off, 500⟩
    (∀ key ∈ keys, given key others = given key pairs) ∧ ofPairs pairs = .ok settings ∧
      ofPairs others = .ok settings ∧
      settings.hostSelector = ((given "host" pairs).filter (· ≠ "")).getLast?.getD "#app" := by
  intro pairs others settings
  have same : ∀ key ∈ keys, given key others = given key pairs := by decide
  have ok : ofPairs pairs = .ok settings := by rfl
  obtain ⟨-, fields, -, reordered, -⟩ := overrides_count_by_key pairs
  exact ⟨same, ok, (reordered others settings same).mpr ok, (fields settings ok).1⟩

/-- The level comes first, so that the delay is not even looked at. -/
example : ofPairs [("host", "#root"), ("log", "loud"), ("reconnect", "-1")]
    = .error (.invalidLogLevel "loud") := by rfl

end MixerPanel
