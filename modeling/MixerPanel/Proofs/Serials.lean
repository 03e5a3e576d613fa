import MixerPanel.Proofs.StatusReadBack

/-!
# Serials

A device is told from the others by its serial.  The check after reading refuses a document in
which a serial is there twice; a status that is installed as it is, without a document, never went
through that check and may repeat one.  What holds of lookups in either case is here.

Facts proved here:

* `Status.validate_eq_ok_iff` — the check accepts exactly the statuses with distinct serials;
* `Status.exists_first_repeated` — otherwise it names the first device that repeats a serial;
* `Status.ofValue_eq_ok_iff` — a document is accepted when it can be read and then passes the check;
* `Status.device?_eq_some_iff` — a lookup finds the first device with the serial;
* `Status.device?_isSome_iff` — it finds one exactly when a device with the serial is listed.
-/

namespace MixerPanel.Status

/-- No two devices of the status have the same serial. -/
def SerialsDistinct (s : Status) : Prop := (s.devices.map Device.serial).Nodup

/-- The walk of the check, with the serials it has already met: it ends well when no serial is met
again. -/
theorem repeatedSerial?_eq_none_iff {seen : List String} {devices : List Device} :
    repeatedSerial? seen devices = none ↔
      (devices.map Device.serial).Nodup ∧ ∀ d ∈ devices, d.serial ∉ seen := by
  induction devices generalizing seen with
  | nil => simp [repeatedSerial?]
  | cons device rest ih =>
      simp only [repeatedSerial?, List.map_cons, List.nodup_cons, List.forall_mem_cons]
      split_ifs with met
      · simp [met]
      · -- the rest is walked with this serial among those that were met
        rw [ih]
        constructor
        · rintro ⟨distinct, fresh⟩
          refine ⟨⟨?_, distinct⟩, met, fun d mem => ?_⟩
          · intro again
            obtain ⟨d, mem, same⟩ := List.mem_map.mp again
            exact fresh d mem (by simp [same])
          · exact fun old => fresh d mem (List.mem_cons_of_mem _ old)
        · rintro ⟨⟨notLater, distinct⟩, -, fresh⟩
          refine ⟨distinct, fun d mem old => ?_⟩
          rcases List.mem_cons.mp old with same | old
          · exact notLater (List.mem_map.mpr ⟨d, mem, same⟩)
          · exact fresh d mem old

/-- Where the walk of the check stops, the devices before that have been walked without a serial
being met again. -/
theorem exists_repeated {seen : List String} {devices : List Device} {serial : String}
    (stopped : repeatedSerial? seen devices = some serial) :
    ∃ before d after, devices = before ++ d :: after ∧ repeatedSerial? seen before = none ∧
      d.serial = serial ∧ (serial ∈ seen ∨ serial ∈ before.map Device.serial) := by
  induction devices generalizing seen with
  | nil => cases stopped
  | cons device rest ih =>
      rw [repeatedSerial?] at stopped
      split_ifs at stopped with met
      · obtain rfl := Option.some.inj stopped
        exact ⟨[], device, rest, rfl, rfl, rfl, .inl met⟩
      · obtain ⟨before, d, after, split, walked, isSerial, again⟩ := ih stopped
        refine ⟨device :: before, d, after, congrArg (device :: ·) split, ?_, isSerial, ?_⟩
        · rw [repeatedSerial?, if_neg met, walked]
        · rcases again with met | again
          · exact (List.mem_cons.mp met).symm.imp_right fun same => List.mem_cons.mpr (.inl same)
          · exact .inr (List.mem_cons_of_mem _ again)

/-- **The check names the first device** that has the serial of one before it. -/
theorem exists_first_repeated {devices : List Device} {serial : String}
    (stopped : repeatedSerial? [] devices = some serial) :
    ∃ before d after, devices = before ++ d :: after ∧ (before.map Device.serial).Nodup ∧
      d.serial = serial ∧ serial ∈ before.map Device.serial := by
  obtain ⟨before, d, after, split, walked, isSerial, again⟩ := exists_repeated stopped
  exact ⟨before, d, after, split, (repeatedSerial?_eq_none_iff.mp walked).1, isSerial,
    again.resolve_left List.not_mem_nil⟩

theorem validate_eq_ok_iff {s : Status} : s.validate = .ok () ↔ s.SerialsDistinct := by
  have clean := @repeatedSerial?_eq_none_iff [] s.devices
  cases walk : repeatedSerial? [] s.devices with
  | none => simpa [validate, walk, SerialsDistinct] using clean
  | some serial => simpa [validate, walk, SerialsDistinct] using clean

/-- **A document is accepted** exactly when it reads as a status whose serials are distinct. -/
theorem ofValue_eq_ok_iff {document : Json} {s : Status} :
    ofValue document = .ok s ↔ Json.ofValue reader document = .ok s ∧ s.SerialsDistinct := by
  simp only [ofValue, accept, bind_eq_ok_iff, mapError_eq_ok_iff, pure, Except.pure,
    Except.ok.injEq, ← validate_eq_ok_iff]
  constructor
  · rintro ⟨found, read, _, passed, rfl⟩
    exact ⟨read, passed⟩
  · rintro ⟨read, passed⟩
    exact ⟨s, read, (), passed, rfl⟩

/-! ## Lookups -/

/-- **A lookup finds the first device** with the serial. -/
theorem device?_eq_some_iff {s : Status} {serial : String} {d : Device} :
    s.device? serial = some d ↔
      ∃ before after, s.devices = before ++ d :: after ∧ d.serial = serial ∧
        ∀ earlier ∈ before, earlier.serial ≠ serial := by
  simp only [device?, List.find?_eq_some_iff_append]
  constructor
  · rintro ⟨same, before, after, split, none⟩
    exact ⟨before, after, split, by simpa using same, by simpa using none⟩
  · rintro ⟨before, after, split, same, none⟩
    exact ⟨by simpa using same, before, after, split, by simpa using none⟩

theorem device?_isSome_iff {s : Status} {serial : String} :
    (s.device? serial).isSome ↔ ∃ d ∈ s.devices, d.serial = serial := by
  simp [device?]

end MixerPanel.Status
