/-!
# Blank characters

A character class is a list of ranges of code points, and `inRanges` decides membership.
`isBlank` is the class of the Unicode property White_Space.  Texts are trimmed and cut
into words at blank characters.
-/

namespace HttpDispatch.Text

/-- Whether `c` lies in one of the ranges `rs`, whose ends belong to it. -/
def inRanges (rs : List (Nat × Nat)) (c : Char) : Bool :=
  rs.any fun r => r.1 ≤ c.toNat && c.toNat ≤ r.2

/-- The ranges of the Unicode property White_Space. -/
def blankRanges : List (Nat × Nat) := [
  (0x9, 0xd), (0x20, 0x20), (0x85, 0x85), (0xa0, 0xa0), (0x1680, 0x1680), (0x2000, 0x200a),
  (0x2028, 0x2029), (0x202f, 0x202f), (0x205f, 0x205f), (0x3000, 0x3000)]

/-- Whether `c` is white space. -/
def isBlank (c : Char) : Bool := inRanges blankRanges c

/-- The text without the blank characters at its start. -/
def trimStart (s : List Char) : List Char := s.dropWhile isBlank

/-- The text without the blank characters at its end. -/
def trimEnd (s : List Char) : List Char := (s.reverse.dropWhile isBlank).reverse

/-- The text without the blank characters at its ends. -/
def trim (s : List Char) : List Char := trimEnd (trimStart s)

/-- The first word of a text and what follows it; a word is empty only at the end. -/
def nextWord (s : List Char) : List Char × List Char :=
  (trimStart s).span (! isBlank ·)

/-- The words of a text: its maximal runs of characters that are not blank. -/
def words (s : List Char) : List (List Char) :=
  (s.splitOnP isBlank).filter (! ·.isEmpty)

end HttpDispatch.Text
