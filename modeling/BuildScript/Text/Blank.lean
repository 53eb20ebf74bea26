/-!
# Blank characters and trimming

A character is *blank* when it carries Unicode's `White_Space` property: 25 code points, of
which ASCII holds six. Script lines, bare arguments and program output are all trimmed by this
one class, so a no-break space or an ideographic space is trimmed like a tab.

The operations work on lists of characters; `trimmed`, `trimmedStart` and `trimmedEnd` carry them
over to strings.
-/

namespace BuildScript.Text

/-- The code points with the `White_Space` property, as inclusive ranges. -/
def blankRanges : List (Nat × Nat) :=
  [(0x09, 0x0D), (0x20, 0x20), (0x85, 0x85), (0xA0, 0xA0), (0x1680, 0x1680), (0x2000, 0x200A),
   (0x2028, 0x2029), (0x202F, 0x202F), (0x205F, 0x205F), (0x3000, 0x3000)]

/-- Whether a character is white space in the sense of Unicode. -/
def isBlank (c : Char) : Bool :=
  blankRanges.any fun (low, high) => low ≤ c.toNat && c.toNat ≤ high

/-! ## Trimming -/

/-- The text without its leading blanks. -/
def stripStart (cs : List Char) : List Char := cs.dropWhile isBlank

/-- The text without its trailing blanks. -/
def stripEnd (cs : List Char) : List Char := (cs.reverse.dropWhile isBlank).reverse

/-- The text without blanks at either end. -/
def strip (cs : List Char) : List Char := stripEnd (stripStart cs)

/-- `stripStart` on strings. -/
def trimmedStart (s : String) : String := String.ofList (stripStart s.toList)

/-- `stripEnd` on strings. -/
def trimmedEnd (s : String) : String := String.ofList (stripEnd s.toList)

/-- `strip` on strings. -/
def trimmed (s : String) : String := String.ofList (strip s.toList)

/-! ## Words -/

/-- Puts a character in front of the first word of a list of words. -/
def consWord (c : Char) : List (List Char) → List (List Char)
  | [] => [[c]]
  | w :: ws => (c :: w) :: ws

/-- The maximal runs of non-blank characters, with an empty word wherever a blank stands. -/
def cutAtBlanks : List Char → List (List Char)
  | [] => [[]]
  | c :: cs => if isBlank c then [] :: cutAtBlanks cs else consWord c (cutAtBlanks cs)

/-- The words of a text: its maximal runs of non-blank characters. -/
def words (s : String) : List String :=
  ((cutAtBlanks s.toList).filter (!·.isEmpty)).map String.ofList

end BuildScript.Text
