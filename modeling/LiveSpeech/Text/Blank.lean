/-!
# Blank characters

The characters with the Unicode property `White_Space`.  Fields of a line are separated by
them, and a line that has nothing else is a blank line.
-/

namespace LiveSpeech.Text

set_option autoImplicit false

/-- The code points with the property, as inclusive ranges in ascending order. -/
def blankRanges : List (Nat × Nat) :=
  [(0x9, 0xd), (0x20, 0x20), (0x85, 0x85), (0xa0, 0xa0), (0x1680, 0x1680), (0x2000, 0x200a),
    (0x2028, 0x2029), (0x202f, 0x202f), (0x205f, 0x205f), (0x3000, 0x3000)]

/-- Whether a code point lies in one of the ranges.  As they ascend, the first range that does
not end before it decides. -/
def inRanges (ranges : List (Nat × Nat)) (code : Nat) : Bool :=
  (ranges.find? fun (_, last) => code ≤ last).any fun (first, _) => first ≤ code

/-- Whether a character has the property. -/
def isBlank (character : Char) : Bool := inRanges blankRanges character.toNat

/-- A text without the blanks at either end. -/
def trimmed (text : List Char) : List Char :=
  ((text.dropWhile isBlank).reverse.dropWhile isBlank).reverse

end LiveSpeech.Text
