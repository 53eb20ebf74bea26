import BuildScript.Text.Blank

/-!
# Exit codes

The code that a script exits with is read from a text: blanks may stand in front, then a sign,
then decimal digits, and whatever follows is ignored. Codes outside 32 bits are moved to the
nearest code inside. A number that does not even fit 64 bits is no number, and like a text without
digits it means 0.
-/

namespace BuildScript.ExitCode

open Text

/-- The number that decimal digits denote. -/
def natural (digits : List Char) : Nat :=
  digits.foldl (fun n c => n * 10 + (c.toNat - '0'.toNat)) 0

/-- The integer that a text starts with: an optional sign and decimal digits. -/
def leadingInteger : List Char → Int
  | '-' :: rest => -(natural (rest.takeWhile Char.isDigit) : Int)
  | '+' :: rest => natural (rest.takeWhile Char.isDigit)
  | rest => natural (rest.takeWhile Char.isDigit)

/-- The least and the greatest code. -/
def least : Int := -0x80000000
def greatest : Int := 0x7fffffff

/-- The code nearest to an integer. -/
def clamp (n : Int) : Int := max least (min n greatest)

/-- Whether an integer fits 64 bits. -/
def isReadable (n : Int) : Bool := -0x8000000000000000 ≤ n && n < 0x8000000000000000

/-- The code that a text denotes. -/
def ofString (text : String) : Int :=
  let n := leadingInteger (stripStart text.toList)
  if isReadable n then clamp n else 0

end BuildScript.ExitCode
