import MixerPanel.Proofs.Agreement
import MixerPanel.Proofs.Layout
import MixerPanel.Proofs.Serials

/-!
# The two parsers of a status

A status is parsed from a text in one go, or from a value that is there already.  The first passes
over the members that the typed view does not know, without building them; the second has all of
them before it and looks only at those that it knows.

* `Variants.agrees_of_plain` — a choice between names is the same from a text and from its value
* `Status.agrees` — so is a whole status, part by part
* `Status.accept_ok` — the check of the serials comes after reading, and is the same for both
* `text_read_as_its_value` — the two parsers end alike

A text that is no value, or that has a key twice, is left out: of a repeated key a value keeps the
last content, and the parser of texts refuses it where it knows the key.
-/

namespace MixerPanel

open Json Json.Fields

/-! ## The parts of a status -/

theorem Json.Variants.agrees_of_plain {α : Type} {variants : Variants α}
    (known : ∀ entry ∈ variants.known, ∃ a, entry.2 = .plain a)
    (other : ∀ variant, variants.other = some variant → ∃ a, variant = .plain a) :
    variants.Agrees := by
  intro name read named
  suffices plain : ∃ a, Variant.holding read = .plain a by
    obtain ⟨a, impossible⟩ := plain
    cases impossible
  unfold Variants.named at named
  split at named
  · next found => exact known _ (Except.ok.inj named ▸ Keyed.mem_of_lookup found)
  · next isOther => exact other _ (Except.ok.inj named ▸ isOther)
  · cases named

theorem Version.agrees : Agrees Version.reader :=
  have part (name : String) : (required name word32).Agrees := agrees_field agrees_word32 name none
  agrees_tuple (((((part _).map mk).seq (part _)).seq (part _)).seq (part _)) _

theorem Firmware.agrees : Agrees Firmware.reader :=
  have main := (agrees_field Version.agrees "firmware" none).map mk
  have fpgaCount := agrees_field agrees_word32 "fpga_count" none
  have dice := agrees_field Version.agrees "dice" none
  agrees_record ((main.seq fpgaCount).seq dice) _

theorem Model.agrees : Agrees Model.reader :=
  agrees_choice (Variants.agrees_of_plain (by simp) (by simp))

theorem Feature.agrees : Agrees Feature.reader :=
  agrees_choice (Variants.agrees_of_plain (by simp) (by simp))

theorem Hardware.agrees : Agrees Hardware.reader :=
  have serial := (agrees_field agrees_text "serial" none).map mk
  have manufactureDate := agrees_field agrees_text "manufacture_date" none
  have model := agrees_field Model.agrees "device_type" none
  have firmware := agrees_field Firmware.agrees "firmware" none
  have features := agrees_field (agrees_listOf Feature.agrees) "features" (some [])
  agrees_record ((((serial.seq manufactureDate).seq model).seq firmware).seq features) _

theorem Device.agrees : Agrees Device.reader :=
  have serial := (agrees_field agrees_text "serial" none).map mk
  have hardware := agrees_field Hardware.agrees "hardware" none
  agrees_record (serial.seq hardware) _

namespace Status

/-- **A status is the same** from a text and from the value that the text is. -/
theorem agrees : Agrees reader :=
  agrees_record ((agrees_field (agrees_listOf Device.agrees) "devices" (some [])).map mk) _

/-! ## Reading and checking -/

/-- What is read is accepted, unless a serial is repeated in it. -/
theorem accept_ok (s : Status) : accept (.ok s) =
    match repeatedSerial? [] s.devices with
    | none => .ok s
    | some serial => .error (.duplicateSerial serial) := by
  show (s.validate >>= fun _ => .ok s) = _
  unfold validate
  cases repeatedSerial? [] s.devices <;> rfl

end Status

/-- Nothing follows a text that is a value, so whatever reads it reads its outline. -/
theorem Json.ofText_of_complete {α : Type} (read : Reader α) {text : String}
    (complete : (layOut text).trailing = false) :
    ofText read text = read (.text Origin.maxLevels) (layOut text).root := by
  simp only [ofText, complete]
  cases read (.text Origin.maxLevels) (layOut text).root <;> rfl

/-- **The two parsers of a status end alike** on a text that is a value and has no key twice in an
object: with the same status, or with the same repeated serial, or both without being able to read
it. -/
theorem text_read_as_its_value {text : String} {document : Json}
    (parsed : Json.parse text = .ok document)
    (distinct : (Json.layOut text).root.KeysDistinct) :
    (∃ s, Status.ofText text = .ok s ∧ Status.ofValue document = .ok s) ∨
    (∃ serial, Status.ofText text = .error (.duplicateSerial serial) ∧
      Status.ofValue document = .error (.duplicateSerial serial)) ∨
    ∃ e f, Status.ofText text = .error (.unreadable e) ∧
      Status.ofValue document = .error (.unreadable f) := by
  obtain ⟨isValue, complete⟩ := ofText_eq_ok_iff.mp parsed
  have alike := Status.agrees _ _ _ ⟨isValue, distinct⟩
  rw [Status.ofText, Status.ofValue, ofText_of_complete _ complete]
  generalize Status.reader (.text Origin.maxLevels) (layOut text).root = fromText at alike ⊢
  generalize ofValue Status.reader document = fromValue at alike ⊢
  cases alike with
  | @error e f => exact .inr (.inr ⟨e, f, rfl, rfl⟩)
  | @ok s _ same =>
      subst same
      rw [Status.accept_ok]
      cases Status.repeatedSerial? [] s.devices with
      | none => exact .inl ⟨s, rfl, rfl⟩
      | some serial => exact .inr (.inl ⟨serial, rfl, rfl⟩)

/-- A status in which a device and its firmware stand as lists, the model as an object, the features
are missing, and there is more than the typed view knows. -/
def inOtherWords : Json :=
  let version := Json.list [.nat 1, .nat 4, .nat 2, .nat 107]
  let hardware := Json.object [("device_type", .object [("Mini", .null)]),
    ("serial", .string "A"), ("colour", .list [.null, .bool true]),
    ("manufacture_date", .string "2021-12-09"), ("firmware", .list [version, .nat 21, version])]
  .object [("uptime", .number (.negative ⟨41, by decide⟩)),
    ("devices", .list [.list [.string "A", hardware]])]

theorem other_words_read_alike :
    ∃ s, Status.ofText inOtherWords.write = .ok s ∧
      Status.ofValue inOtherWords.canonical = .ok s := by
  have integral : inOtherWords.Integral := by simp [inOtherWords]
  have within : inOtherWords.NestsWithin 127 := by simp [inOtherWords, NestsWithin]
  have distinct : (layOut inOtherWords.write).root.KeysDistinct := by
    rw [layOut_write integral]
    simp [inOtherWords]
  have readable : ∃ s, Status.ofValue inOtherWords.canonical = .ok s := ⟨_, rfl⟩
  rcases text_read_as_its_value (parse_write integral within) distinct with
    same | ⟨serial, -, refused⟩ | ⟨e, f, -, refused⟩
  · exact same
  · simp [refused] at readable
  · simp [refused] at readable

end MixerPanel
