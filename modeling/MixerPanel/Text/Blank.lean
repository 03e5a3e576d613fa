/-!
# Blanks

The characters with the Unicode property White_Space, and the words between them.

## Main Definitions

* `Text.isBlank` — whether a character is a blank
* `Text.words` — the words of a text
-/

namespace MixerPanel.Text

/-- The code points with the property White_Space, as ascending closed ranges. -/
def blankRanges : List (Nat × Nat) :=
  [(0x9, 0xd), (0x20, 0x20), (0x85, 0x85), (0xa0, 0xa0), (0x1680, 0x1680), (0x2000, 0x200a),
   (0x2028, 0x2029), (0x202f, 0x202f), (0x205f, 0x205f), (0x3000, 0x3000)]

/-- Whether a character is a blank. -/
def isBlank (c : Char) : Bool :=
  blankRanges.any fun range => range.1 ≤ c.toNat && c.toNat ≤ range.2

/-- The words of a text, after the characters of a word that has begun, the last first. -/
def wordsFrom (begun : List Char) : List Char → List (List Char)
  | [] => if begun.isEmpty then [] else [begun.reverse]
  | c :: rest =>
    if isBlank c then
      if begun.isEmpty then wordsFrom [] rest else begun.reverse :: wordsFrom [] rest
    else wordsFrom (c :: begun) rest

/-- The words of a text: the longest parts without a blank. -/
def words (s : String) : List String := (wordsFrom [] s.toList).map String.ofList

end MixerPanel.Text
