import MixerPanel.Device.Status
import MixerPanel.Proofs.Reading

/-!
# A status is read back from its document

`Status.toValue` writes the typed view as a document, its members in canonical order.  Reading that
document gives the same status again: every device in its place, every feature with its
repetitions, every model, the unknown one included.

The uniqueness of the serials plays no part in this.  It is checked after reading, and
`Status.ofValue_eq_ok_iff` keeps the two apart.
-/

namespace MixerPanel

open Json Json.Fields

/-! ## The parts of a device -/

theorem Model.readsBack : ReadsBack Model.reader Model.toJson := by
  intro m
  cases m <;> exact choice_ofJson_string rfl

theorem Feature.readsBack : ReadsBack Feature.reader Feature.toJson := by
  intro f
  cases f <;> exact choice_ofJson_string rfl

theorem Version.readsBack : ReadsBack Version.reader Version.toJson := by
  intro v
  refine tuple_ofJson enter_value fun expected => ?_
  simp [parts, canonicalItems, Outline.ofItems, readsBack_word32]

theorem Firmware.readsBack : ReadsBack Firmware.reader Firmware.toJson := by
  refine readsBack_record (by apply_rules [checked_seq, checked_map, checked_field]) fun f => ?_
  simp [ofNames_field_of_some, Keyed.lookup_cons, Version.readsBack, readsBack_word32]

theorem Hardware.readsBack : ReadsBack Hardware.reader Hardware.toJson := by
  have features := readsBack_listOf Feature.readsBack
  refine readsBack_record (by apply_rules [checked_seq, checked_map, checked_field]) fun h => ?_
  simp [ofNames_field_of_some, Keyed.lookup_cons, readsBack_text, Model.readsBack,
    Firmware.readsBack, features]

theorem Device.readsBack : ReadsBack Device.reader Device.toJson := by
  refine readsBack_record (by apply_rules [checked_seq, checked_map, checked_field]) fun d => ?_
  simp [ofNames_field_of_some, Keyed.lookup_cons, readsBack_text, Hardware.readsBack]

namespace Status

/-! ## The whole status -/

theorem readsBack : ReadsBack reader toJson := by
  have devices := readsBack_listOf Device.readsBack
  refine readsBack_record (by apply_rules [checked_seq, checked_map, checked_field]) fun s => ?_
  simp [ofNames_field_of_some, Keyed.lookup_cons, devices]

/-- **The document of a status reads as that status**, repeated serials or not. -/
theorem ofValue_toValue (s : Status) : Json.ofValue reader s.toValue = .ok s := readsBack s

end Status

end MixerPanel
