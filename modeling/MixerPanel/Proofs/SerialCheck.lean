import Mathlib.Data.List.Nodup
import MixerPanel.Proofs.Serials

/-!
# The check of serials

The check walks the devices once and stops at the first that has the serial of one before it.  What
is repeated first need not be what is listed first.  A status that passes has one device at most for
each serial, so that the order in which devices are listed makes no difference to a lookup.

* `Status.repeatedSerial?_append` — the walk over one list after another
* `Status.repeatedSerial?_eq_some_iff` — where the walk stops
* `Status.validate_eq_error_iff` — what the check says of a status that does not pass
* `Status.SerialsDistinct.filter_eq` — the one device with a serial
* `serials_checked` — all of it
-/

namespace MixerPanel

namespace Status

variable {s t : Status} {devices : List Device} {serial : String} {e : StatusError}

/-! ## Where the check stops -/

/-- The walk over one list after another goes on with the serials that were met in the first. -/
theorem repeatedSerial?_append (seen : List String) (front back : List Device) :
    repeatedSerial? seen (front ++ back)
      = (repeatedSerial? seen front).or
          (repeatedSerial? ((front.map Device.serial).reverse ++ seen) back) := by
  induction front generalizing seen with
  | nil => rfl
  | cons d rest ih =>
      rw [List.cons_append, repeatedSerial?, repeatedSerial?]
      split_ifs with met
      · rfl
      · rw [ih, List.map_cons, List.reverse_cons, List.append_assoc, List.singleton_append]

/-- **The walk stops** at the first place whose serial is met before it. -/
theorem repeatedSerial?_eq_some_iff :
    repeatedSerial? [] devices = some serial ↔
      ∃ j, (devices.map Device.serial)[j]? = some serial ∧
        serial ∈ (devices.map Device.serial).take j ∧
        ((devices.map Device.serial).take j).Nodup := by
  constructor
  · intro stopped
    obtain ⟨before, d, after, rfl, distinct, isSerial, again⟩ := exists_first_repeated stopped
    have front : ((before ++ d :: after).map Device.serial).take before.length
        = before.map Device.serial := by
      rw [List.map_append, List.take_left' (List.length_map _)]
    refine ⟨before.length, ?_, front ▸ again, front ▸ distinct⟩
    rw [List.getElem?_map, List.getElem?_append_right (Nat.le_refl _), Nat.sub_self,
      List.getElem?_cons_zero, Option.map_some, isSerial]
  · rintro ⟨j, there, again, distinct⟩
    obtain ⟨d, listed, rfl⟩ := Option.map_eq_some_iff.mp (List.getElem?_map ▸ there)
    obtain ⟨inside, rfl⟩ := List.getElem?_eq_some_iff.mp listed
    rw [← List.map_take] at again distinct
    have walked : repeatedSerial? [] (devices.take j) = none :=
      repeatedSerial?_eq_none_iff.mpr ⟨distinct, fun _ _ => List.not_mem_nil⟩
    have met : devices[j].serial ∈ ((devices.take j).map Device.serial).reverse ++ [] := by
      rwa [List.append_nil, List.mem_reverse]
    conv => lhs; rw [← List.take_append_drop j devices, List.drop_eq_getElem_cons inside]
    rw [repeatedSerial?_append, walked, Option.none_or, repeatedSerial?, if_pos met]

/-- The first place of a list whose entry is there before, told by places alone. -/
theorem first_repetition_iff {l : List String} {j : Nat} (there : l[j]? = some serial) :
    serial ∈ l.take j ∧ (l.take j).Nodup ↔
      (∃ i < j, l[i]? = some serial) ∧ ∀ k < j, ∀ i < k, l[i]? ≠ l[k]? := by
  obtain ⟨inside, -⟩ := List.getElem?_eq_some_iff.mp there
  refine and_congr ?_ ?_
  · simp only [List.mem_iff_getElem?, List.getElem?_take, Option.ite_none_right_eq_some]
  · have length : (l.take j).length = j := List.length_take_of_le (Nat.le_of_lt inside)
    rw [List.nodup_iff_getElem?_ne_getElem?, length]
    constructor
    · intro distinct k early i before
      have differs := distinct i k before early
      rwa [List.getElem?_take_of_lt (Nat.lt_trans before early),
        List.getElem?_take_of_lt early] at differs
    · intro distinct i k before early
      rw [List.getElem?_take_of_lt (Nat.lt_trans before early), List.getElem?_take_of_lt early]
      exact distinct k early i before

theorem validate_eq_error_iff :
    s.validate = .error e ↔
      ∃ serial, repeatedSerial? [] s.devices = some serial ∧ e = .duplicateSerial serial := by
  unfold validate
  cases repeatedSerial? [] s.devices with
  | none => simp
  | some serial => simp [eq_comm]

/-! ## Lookups -/

/-- Devices of one serial, all different in their serials, are one at most. -/
theorem length_le_one_of_distinct (distinct : (devices.map Device.serial).Nodup)
    (same : ∀ d ∈ devices, d.serial = serial) : devices.length ≤ 1 := by
  rw [List.map_eq_replicate_iff.mpr same] at distinct
  exact List.nodup_replicate.mp distinct

/-- **The one and only device** with a serial is the one that a lookup finds. -/
theorem SerialsDistinct.filter_eq (distinct : s.SerialsDistinct) (serial : String) :
    s.devices.filter (fun d => d.serial == serial) = (s.device? serial).toList := by
  have sublist : (s.devices.filter fun d => d.serial == serial).Sublist s.devices :=
    List.filter_sublist
  have same : ∀ d ∈ s.devices.filter fun d => d.serial == serial, d.serial = serial := by
    intro d mem
    simpa using (List.mem_filter.mp mem).2
  have short := length_le_one_of_distinct (distinct.sublist (sublist.map _)) same
  rw [device?, ← List.head?_filter]
  cases found : s.devices.filter fun d => d.serial == serial with
  | nil => rfl
  | cons d rest =>
      rw [found] at short
      obtain rfl : rest = [] := List.eq_nil_of_length_eq_zero (by simpa using short)
      rfl

/-- The order of the devices makes no difference to a lookup. -/
theorem SerialsDistinct.device?_perm (distinct : s.SerialsDistinct)
    (reordered : t.devices.Perm s.devices) (serial : String) :
    t.device? serial = s.device? serial := by
  have distinct' : t.SerialsDistinct := ((reordered.map Device.serial).nodup_iff).mpr distinct
  have lists := reordered.filter fun d => d.serial == serial
  rw [distinct.filter_eq, distinct'.filter_eq] at lists
  cases found : s.device? serial with
  | none =>
      rw [found] at lists
      exact Option.toList_eq_nil_iff.mp lists.eq_nil
  | some d =>
      rw [found] at lists
      exact Option.toList_eq_singleton_iff.mp (List.perm_singleton.mp lists)

end Status

/-- **The check of serials is exact.**

* A status passes exactly if its serials are pairwise distinct.
* Otherwise the check names a serial: that of the first place whose serial is there at an earlier
  place.
* In a status that passes, a lookup finds the one and only device with a serial, and none if there
  is none.
* So whether a status passes, and what is found in it then, does not depend on the order in which
  its devices are listed. -/
theorem serials_checked (s : Status) :
    let serials := s.devices.map Device.serial
    (s.validate = .ok () ↔ serials.Nodup) ∧
    (∀ e, s.validate = .error e ↔ ∃ (j : Nat) (serial : String), e = .duplicateSerial serial ∧
      serials[j]? = some serial ∧ (∃ i < j, serials[i]? = some serial) ∧
      ∀ k < j, ∀ i < k, serials[i]? ≠ serials[k]?) ∧
    (s.validate = .ok () → ∀ serial,
      s.devices.filter (fun d => d.serial == serial) = (s.device? serial).toList) ∧
    ∀ t : Status, t.devices.Perm s.devices →
      (t.validate = .ok () ↔ s.validate = .ok ()) ∧
      (s.validate = .ok () → ∀ serial, t.device? serial = s.device? serial) := by
  intro serials
  refine ⟨Status.validate_eq_ok_iff, ?_, ?_, ?_⟩
  · intro e
    rw [Status.validate_eq_error_iff]
    constructor
    · rintro ⟨serial, stopped, rfl⟩
      obtain ⟨j, there, first⟩ := Status.repeatedSerial?_eq_some_iff.mp stopped
      exact ⟨j, serial, rfl, there, (Status.first_repetition_iff there).mp first⟩
    · rintro ⟨j, serial, rfl, there, first⟩
      have before := (Status.first_repetition_iff there).mpr first
      exact ⟨serial, Status.repeatedSerial?_eq_some_iff.mpr ⟨j, there, before⟩, rfl⟩
  · intro passes serial
    exact (Status.validate_eq_ok_iff.mp passes).filter_eq serial
  · intro t reordered
    refine ⟨?_, fun passes => (Status.validate_eq_ok_iff.mp passes).device?_perm reordered⟩
    rw [Status.validate_eq_ok_iff, Status.validate_eq_ok_iff]
    exact (reordered.map Device.serial).nodup_iff

/-- The serial that is listed first is repeated last, and two devices are listed in either order. -/
theorem repetition_of_later_serial :
    let device (serial : String) : Device := ⟨serial, ⟨serial, "", .full, .zero, []⟩⟩
    let four : Status := ⟨[device "B", device "A", device "A", device "B"]⟩
    let two : Status := ⟨[device "B", device "A"]⟩
    four.validate = .error (.duplicateSerial "A") ∧ two.validate = .ok () ∧
      two.devices.filter (fun d => d.serial == "A") = (two.device? "A").toList ∧
      Status.device? ⟨[device "A", device "B"]⟩ "A" = two.device? "A" := by
  intro device four two
  have stops := ((serials_checked four).2.1 (.duplicateSerial "A")).mpr
    ⟨2, "A", rfl, rfl, ⟨1, by decide, rfl⟩, by decide⟩
  obtain ⟨check, -, found, reordered⟩ := serials_checked two
  have passes : two.validate = .ok () := check.mpr (by decide)
  exact ⟨stops, passes, found passes "A", (reordered _ (.swap ..)).2 passes "A"⟩

end MixerPanel
