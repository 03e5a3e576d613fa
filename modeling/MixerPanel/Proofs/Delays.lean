import MixerPanel.Proofs.Amendments

/-!
# Delays

A delay is given as a text of any length, and kept in 32 bits.  `word32?` compares the number that
the text spells with the greatest one there is.  The same can be had without ever leaving the
32 bits: digit by digit, giving up at the first product or sum that does not fit.  Nothing is lost
by giving up early, because a number does not get smaller by further digits.

* `Config.pushDigit?`, `Config.readDigits?` — reading digit by digit within 32 bits
* `Config.readDigits?_eq_some_iff` — what is read is the number that the digits spell
* `Config.reconnectDelay?_eq_filter` — a delay is read the same in either way
* `delay_override_exact` — which texts are taken as a delay, and as which
-/

namespace MixerPanel

namespace Config

/-! ## Within 32 bits -/

/-- A product that fits in 32 bits. -/
def checkedMul (a b : UInt32) : Option UInt32 :=
  if a.toNat * b.toNat < UInt32.size then some (a * b) else none

/-- A sum that fits in 32 bits. -/
def checkedAdd (a b : UInt32) : Option UInt32 :=
  if a.toNat + b.toNat < UInt32.size then some (a + b) else none

/-- A number with one digit more, if that is a digit and nothing overflows. -/
def pushDigit? (n : UInt32) (c : Char) : Option UInt32 :=
  if c.isDigit then
    (checkedMul 10 n).bind fun tens => checkedAdd tens (UInt32.ofNat (c.toNat - '0'.toNat))
  else none

/-- The number with the given decimal digits, of which there must be one, read digit by digit. -/
def readDigits? : List Char → Option UInt32
  | [] => none
  | c :: rest => (c :: rest).foldlM pushDigit? 0

variable {a b n m : UInt32} {c : Char} {digits : List Char}

theorem checkedMul_eq_some_iff : checkedMul a b = some m ↔ a.toNat * b.toNat = m.toNat := by
  unfold checkedMul
  split_ifs with fits
  · rw [Option.some.injEq, ← UInt32.toNat_inj, UInt32.toNat_mul, Nat.mod_eq_of_lt fits]
  · have small := m.toNat_lt_size
    exact iff_of_false nofun (by omega)

theorem checkedAdd_eq_some_iff : checkedAdd a b = some m ↔ a.toNat + b.toNat = m.toNat := by
  unfold checkedAdd
  split_ifs with fits
  · rw [Option.some.injEq, ← UInt32.toNat_inj, UInt32.toNat_add, Nat.mod_eq_of_lt fits]
  · have small := m.toNat_lt_size
    exact iff_of_false nofun (by omega)

theorem toNat_digit (c : Char) : (UInt32.ofNat (c.toNat - '0'.toNat)).toNat = c.toNat - '0'.toNat :=
  UInt32.toNat_ofNat_of_lt' (Nat.lt_of_le_of_lt (Nat.sub_le ..) c.val.toNat_lt_size)

theorem pushDigit?_eq_some_iff :
    pushDigit? n c = some m ↔
      c.isDigit = true ∧ 10 * n.toNat + (c.toNat - '0'.toNat) = m.toNat := by
  unfold pushDigit?
  split_ifs with isDigit
  · simp only [Option.bind_eq_some_iff, checkedMul_eq_some_iff, checkedAdd_eq_some_iff, toNat_digit,
      isDigit, true_and]
    constructor
    · rintro ⟨tens, product, sum⟩
      rw [← sum, ← product]
      rfl
    · intro value
      have small := m.toNat_lt_size
      have fits : 10 * n.toNat < UInt32.size := by omega
      exact ⟨UInt32.ofNat (10 * n.toNat), (UInt32.toNat_ofNat_of_lt' fits).symm,
        by rw [UInt32.toNat_ofNat_of_lt' fits, value]⟩
  · simp [isDigit]

/-- **A number does not get smaller** by further digits. -/
theorem le_ofDigitChars (digits : List Char) (n : Nat) : n ≤ Nat.ofDigitChars 10 digits n := by
  induction digits generalizing n with
  | nil => exact Nat.le_refl n
  | cons c rest ih =>
      rw [Nat.ofDigitChars_cons]
      have further := ih (10 * n + (c.toNat - '0'.toNat))
      omega

/-- Digits that follow a number are read within 32 bits exactly if the whole number fits there. -/
theorem foldlM_pushDigit?_eq_some_iff :
    digits.foldlM pushDigit? n = some m ↔
      (∀ c ∈ digits, c.isDigit = true) ∧ Nat.ofDigitChars 10 digits n.toNat = m.toNat := by
  induction digits generalizing n with
  | nil => simp [UInt32.toNat_inj]
  | cons c rest ih =>
      rw [List.foldlM_cons, List.forall_mem_cons, Nat.ofDigitChars_cons]
      simp only [Option.bind_eq_bind, Option.bind_eq_some_iff, ih, pushDigit?_eq_some_iff]
      constructor
      · rintro ⟨next, ⟨isDigit, pushed⟩, others, value⟩
        exact ⟨⟨isDigit, others⟩, by rw [pushed, value]⟩
      · rintro ⟨⟨isDigit, others⟩, value⟩
        -- what the first digit makes is not greater than the whole number, which fits
        have fits : 10 * n.toNat + (c.toNat - '0'.toNat) < UInt32.size :=
          Nat.lt_of_le_of_lt (value ▸ le_ofDigitChars rest _) m.toNat_lt_size
        have exact32 := UInt32.toNat_ofNat_of_lt' fits
        exact ⟨_, ⟨isDigit, exact32.symm⟩, others, by rw [exact32, value]⟩

/-- **What is read within 32 bits** is the number that the digits spell, however many there are. -/
theorem readDigits?_eq_some_iff :
    readDigits? digits = some n ↔
      digits ≠ [] ∧ (∀ c ∈ digits, c.isDigit = true) ∧ Nat.ofDigitChars 10 digits 0 = n.toNat := by
  cases digits with
  | nil => simp [readDigits?]
  | cons c rest =>
      rw [readDigits?, foldlM_pushDigit?_eq_some_iff]
      simp

/-- The texts that stand for a delay, by what follows a plus. -/
theorem isDelay_iff {text : String} {delay : UInt32} :
    IsDelay text delay.toNat ↔
      readDigits? (withoutPlus text.toList) = some delay ∧ minReconnectDelay ≤ delay.toNat := by
  rw [readDigits?_eq_some_iff]
  constructor
  · rintro ⟨digits, spells, value, long, -⟩
    rw [spells.withoutPlus_eq]
    exact ⟨⟨spells.nonempty, spells.each, value⟩, long⟩
  · rintro ⟨⟨nonempty, each, value⟩, long⟩
    exact ⟨_, ⟨eq_withoutPlus _, nonempty, each⟩, value, long, delay.toNat_lt_size⟩

/-- **A delay is read digit by digit** as it is read as a whole. -/
theorem reconnectDelay?_eq_filter (text : String) :
    reconnectDelay? text
      = (readDigits? (withoutPlus text.toList)).filter fun n => minReconnectDelay ≤ n.toNat := by
  ext delay
  rw [reconnectDelay?_eq_some_iff, isDelay_iff, Option.filter_eq_some_iff, decide_eq_true_iff]

theorem apply_reconnect (c : Config) (value : String) :
    c.apply "reconnect" value
      = match reconnectDelay? value with
        | some delay => .ok { c with reconnectDelay := delay }
        | none => .error (.invalidNumber "reconnect" value) := rfl

end Config

open Config

/-- **The texts that are taken as a delay** are the decimal numbers, after an optional plus and with
any number of zeros in front, from the shortest delay that is accepted to the greatest number of
32 bits; such a text sets the delay to that number and changes nothing else.  Every other text is
refused, and the error names the key and the text.  To tell them apart, 32 bits are enough for texts
of any length. -/
theorem delay_override_exact (c : Config) (value : String) :
    (∀ after, c.attempt "reconnect" value = (.ok (), after) ↔
      ∃ delay : UInt32, IsDelay value delay.toNat ∧ after = { c with reconnectDelay := delay }) ∧
    (∀ e after, c.attempt "reconnect" value = (.error e, after) ↔
      (∀ delay, ¬ IsDelay value delay) ∧ e = .invalidNumber "reconnect" value ∧ after = c) ∧
    reconnectDelay? value
      = (readDigits? (withoutPlus value.toList)).filter fun n => minReconnectDelay ≤ n.toNat := by
  refine ⟨fun after => ?_, fun e after => ?_, reconnectDelay?_eq_filter value⟩
  · simp only [attempt_eq_ok_iff, apply_reconnect, ← reconnectDelay?_eq_some_iff]
    cases reconnectDelay? value with
    | some delay => simp [eq_comm]
    | none => simp
  · rw [attempt_eq_error_iff, ← apply_eq_error_iff (c := c), apply_reconnect,
      ← reconnectDelay?_eq_none_iff]
    cases reconnectDelay? value with
    | some delay => simp
    | none => simp [eq_comm]

/-- The greatest delay, with zeros in front, and the number after it. -/
theorem greatest_delay_after_zeros :
    standard.attempt "reconnect" "+0004294967295"
        = (.ok (), { standard with reconnectDelay := 4294967295 }) ∧
      standard.attempt "reconnect" "4294967296"
        = (.error (.invalidNumber "reconnect" "4294967296"), standard) := by
  have greatest : IsDelay "+0004294967295" (4294967295 : UInt32).toNat :=
    reconnectDelay?_eq_some_iff.mp (by rfl)
  have next : ∀ delay, ¬ IsDelay "4294967296" delay := reconnectDelay?_eq_none_iff.mp (by rfl)
  obtain ⟨accepted, -, -⟩ := delay_override_exact standard "+0004294967295"
  obtain ⟨-, refused, -⟩ := delay_override_exact standard "4294967296"
  exact ⟨(accepted _).mpr ⟨_, greatest, rfl⟩, (refused _ _).mpr ⟨next, rfl, rfl⟩⟩

end MixerPanel
