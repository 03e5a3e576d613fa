import MixerPanel.Proofs.FrameRoundTrip
import MixerPanel.Proofs.StatusParsers
import MixerPanel.Proofs.StatusReadBack

/-!
# Writing and parsing a status

A status that is written, as a value or as a text, is parsed as the same status again: its devices
in their order, every text with all its characters, every number, every feature as often as it is
listed, and a model that is not known as such.  The one thing that can go wrong is a serial that two
devices share.

* `Status.integral_toJson`, `Status.nestsWithin_toJson`, `Status.keysDistinct_toJson` — what the
  parser of texts asks of a written value
* `Status.ofText_write` — so it reads the written status as it is read from the value
* `Status.decode_frame` — and the document of a status arrives as it was sent
* `Status.round_trip` — what both parsers make of a status that was written
-/

namespace MixerPanel

open Json

namespace Status

/-! ## The written status -/

theorem integral_toJson (s : Status) : s.toJson.Integral := by
  simp [toJson, Device.toJson, Hardware.toJson, Firmware.toJson, Version.toJson, Model.toJson,
    Feature.toJson]

theorem nestsWithin_toJson (s : Status) (levels : Nat) : s.toJson.NestsWithin (levels + 6) := by
  simp [toJson, Device.toJson, Hardware.toJson, Firmware.toJson, Version.toJson, Model.toJson,
    Feature.toJson, NestsWithin]

theorem keysDistinct_toJson (s : Status) : (Outline.ofJson s.toJson).KeysDistinct := by
  simp [toJson, Device.toJson, Hardware.toJson, Firmware.toJson, Version.toJson, Model.toJson,
    Feature.toJson]

/-- The written status is laid out as the value is, but for the order of the members. -/
theorem conveys_toJson (s : Status) :
    Outline.Conveys (.text Origin.maxLevels) (Outline.ofJson s.toJson) s.toValue :=
  have fits : (Origin.text Origin.maxLevels).Fits s.toJson := s.nestsWithin_toJson 121
  ⟨any_ofJson s.toJson fits, s.keysDistinct_toJson⟩

/-- **A written status is read** as that status, repeated serials or not. -/
theorem ofText_write (s : Status) : Json.ofText reader s.toJson.write = .ok s := by
  have alike := agrees _ _ _ s.conveys_toJson
  rw [ofValue_toValue] at alike
  have laidOut := layOut_write s.integral_toJson
  rw [ofText_of_complete reader (congrArg Layout.trailing laidOut), laidOut]
  exact alike.eq_ok

/-- **The document of a status** goes through a frame as it is. -/
theorem decode_frame (s : Status) (id : UInt64) :
    ResponseFrame.decode (ResponseFrame.encode ⟨id, .status s.toValue⟩)
      = .ok ⟨id, .status s.toValue⟩ := by
  have ordered : s.toValue.Ordered := ordered_canonical s.toJson
  have integral : s.toValue.Integral := integral_canonical s.toJson s.integral_toJson
  have within : s.toValue.NestsWithin 125 := nestsWithin_canonical (s.nestsWithin_toJson 119)
  refine ResponseFrame.decode_encode ⟨?_, ?_, ?_⟩
  · simpa [Response.values] using ordered
  · simpa [Response.values] using integral
  · simpa [ResponseFrame.nestsWithin_iff] using within

/-! ## Both ways -/

/-- **A status is parsed as it was written**, from its value and from its text, if its serials are
distinct.  Otherwise both parsers name the first device that has the serial of one before it. -/
theorem round_trip (s : Status) :
    (s.SerialsDistinct → ofValue s.toValue = .ok s ∧ ofText s.toJson.write = .ok s) ∧
    (¬ s.SerialsDistinct → ∃ before d after, s.devices = before ++ d :: after ∧
      (before.map Device.serial).Nodup ∧ d.serial ∈ before.map Device.serial ∧
      ofValue s.toValue = .error (.duplicateSerial d.serial) ∧
      ofText s.toJson.write = .error (.duplicateSerial d.serial)) := by
  have fromValue : ofValue s.toValue = accept (.ok s) := congrArg accept s.ofValue_toValue
  have fromText : ofText s.toJson.write = accept (.ok s) := congrArg accept s.ofText_write
  have clean := @repeatedSerial?_eq_none_iff [] s.devices
  rw [fromValue, fromText, accept_ok]
  cases walk : repeatedSerial? [] s.devices with
  | none =>
      have distinct : s.SerialsDistinct := (clean.mp walk).1
      exact ⟨fun _ => ⟨rfl, rfl⟩, fun repeated => absurd distinct repeated⟩
  | some serial =>
      obtain ⟨before, d, after, split, fresh, rfl, again⟩ := exists_first_repeated walk
      refine ⟨fun distinct => ?_, fun _ => ⟨before, d, after, split, fresh, again, rfl, rfl⟩⟩
      rw [clean.mpr ⟨distinct, fun _ _ => List.not_mem_nil⟩] at walk
      cases walk

/-- Two devices, of which the second has the serial that is given. -/
def ofTwo (serial : String) : Status :=
  let hardware : Hardware := ⟨"\"A\"", "\t", .other, .zero, [.subMix, .animation, .subMix]⟩
  ⟨[⟨"A", hardware⟩, ⟨serial, hardware⟩]⟩

theorem round_trip_of_two :
    ofText (ofTwo "B").toJson.write = .ok (ofTwo "B") ∧
      ofText (ofTwo "A").toJson.write = .error (.duplicateSerial "A") := by
  have distinct : (ofTwo "B").SerialsDistinct := by simp [SerialsDistinct, ofTwo]
  have repeated : ¬ (ofTwo "A").SerialsDistinct := by simp [SerialsDistinct, ofTwo]
  obtain ⟨before, d, after, split, -, -, -, refused⟩ := (round_trip (ofTwo "A")).2 repeated
  have listed : d ∈ (ofTwo "A").devices := by
    rw [split]
    exact List.mem_append_right _ List.mem_cons_self
  have same : d.serial = "A" := by
    rcases List.mem_pair.mp listed with rfl | rfl <;> rfl
  rw [same] at refused
  exact ⟨((round_trip (ofTwo "B")).1 distinct).2, refused⟩

end Status

end MixerPanel
