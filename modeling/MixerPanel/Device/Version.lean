import MixerPanel.Json.Record
import MixerPanel.Json.Writer

/-!
# Firmware versions

## Main Definitions

* `Version` — four numbers of 32 bits
* `Version.text` — the numbers in decimal, joined by points
* `Firmware` — the versions of the parts of a device
-/

namespace MixerPanel

/-- A version number of four parts. -/
structure Version where
  major : UInt32
  minor : UInt32
  patch : UInt32
  build : UInt32
deriving DecidableEq, Repr, Inhabited

namespace Version

/-- The version of a device that has not told any. -/
def zero : Version := ⟨0, 0, 0, 0⟩

/-- The four numbers, the most significant first. -/
def parts (v : Version) : List UInt32 := [v.major, v.minor, v.patch, v.build]

/-- A number of 32 bits in decimal. -/
def decimal (n : UInt32) : List Char := Nat.toDigits 10 n.toNat

/-- The characters of a version's text. -/
def chars (v : Version) : List Char :=
  decimal v.major ++ '.' :: (decimal v.minor ++ '.' :: (decimal v.patch ++ '.' :: decimal v.build))

/-- The text of a version: its four numbers in decimal, joined by points. -/
def text (v : Version) : String := String.ofList v.chars

/-- Versions are compared part by part, the most significant first. -/
def compare (a b : Version) : Ordering :=
  ((Ord.compare a.major b.major).then (Ord.compare a.minor b.minor)).then
    ((Ord.compare a.patch b.patch).then (Ord.compare a.build b.build))

/-- Reads a version from a list of its four numbers. -/
def reader : Json.Reader Version :=
  Json.Fields.tuple "VersionNumber"
    (mk <$> Json.Fields.required "major" Json.word32 <*> Json.Fields.required "minor" Json.word32
      <*> Json.Fields.required "patch" Json.word32 <*> Json.Fields.required "build" Json.word32)

/-- A version as a list of its four numbers. -/
def toJson (v : Version) : Json := .list (v.parts.map fun n => Json.nat n.toUInt64)

end Version

/-- The versions of the parts of a device. -/
structure Firmware where
  /-- The main firmware. -/
  main : Version
  /-- The count of images for the programmable gates. -/
  fpgaCount : UInt32
  /-- The firmware of the USB audio part. -/
  dice : Version
deriving DecidableEq, Repr, Inhabited

namespace Firmware

/-- The firmware of a device that has not told any. -/
def zero : Firmware := ⟨.zero, 0, .zero⟩

/-- Firmware is compared part by part: main version, image count, audio version. -/
def compare (a b : Firmware) : Ordering :=
  (a.main.compare b.main).then ((Ord.compare a.fpgaCount b.fpgaCount).then (a.dice.compare b.dice))

/-- Reads the versions. -/
def reader : Json.Reader Firmware :=
  Json.Fields.record "FirmwareVersions"
    (mk <$> Json.Fields.required "firmware" Version.reader
      <*> Json.Fields.required "fpga_count" Json.word32
      <*> Json.Fields.required "dice" Version.reader)

/-- The versions as an object. -/
def toJson (f : Firmware) : Json :=
  .object [("firmware", f.main.toJson), ("fpga_count", Json.nat f.fpgaCount.toUInt64),
    ("dice", f.dice.toJson)]

end Firmware

end MixerPanel
