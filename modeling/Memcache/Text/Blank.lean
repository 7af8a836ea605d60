/-!
# `Memcache.Text.Blank` — white space and controls

The character classes that keys, numbers and addresses are checked against, and trimming by them.
Both are properties of the Unicode character database, so non-ASCII blanks such as the no-break
space count.

## Contents

* `isBlank` — the property `White_Space`;
* `isControl` — the general category `Cc`;
* `trim` — a text without the blanks at its two ends.
-/

namespace Memcache.Text

/-- True when the character lies in one of the closed ranges. -/
def inRanges (ranges : List (Nat × Nat)) (c : Char) : Bool :=
  ranges.any fun r => r.1 ≤ c.toNat && c.toNat ≤ r.2

/-- The ranges of `White_Space`. -/
def blanks : List (Nat × Nat) :=
  [(0x9, 0xd), (0x20, 0x20), (0x85, 0x85), (0xa0, 0xa0), (0x1680, 0x1680), (0x2000, 0x200a),
   (0x2028, 0x2029), (0x202f, 0x202f), (0x205f, 0x205f), (0x3000, 0x3000)]

/-- White space: the characters in `blanks`. -/
def isBlank (c : Char) : Bool :=
  inRanges blanks c

/-- Control characters: the two blocks around ASCII and Latin-1. -/
def isControl (c : Char) : Bool :=
  inRanges [(0x0, 0x1f), (0x7f, 0x9f)] c

/-- A list of characters without the blanks at its two ends. -/
def trimChars (cs : List Char) : List Char :=
  ((cs.dropWhile isBlank).reverse.dropWhile isBlank).reverse

/-- A text without the blanks at its two ends, by `trimChars`. -/
def trim (s : String) : String :=
  String.ofList (trimChars s.toList)

end Memcache.Text
