import BuildScript.ExitCode
import BuildScript.Proofs.Text.Trimming
import Mathlib.Data.Nat.Digits.Defs
import Mathlib.Logic.ExistsUnique

/-!
# The code that a text denotes

Every text can be taken apart in one way as blanks, an optional sign, digits and a rest, where the
digits go on as far as they can (`existsUnique_reads`). What is read off a text is the integer that
sign and digits denote (`Reads.leadingInteger_eq`). The code is this integer, moved to the nearest one
of 32 bits, as long as it has no more than 64 bits itself: a number that is larger still counts as no
number, and its code is 0.
-/

namespace BuildScript.ExitCode

open Text

/-! ## Numerals in front of a text -/

/-- A sign before a number. -/
inductive Sign where
  | plus
  | minus
  deriving DecidableEq, Repr

/-- How a sign is written. -/
def Sign.char : Sign → Char
  | plus => '+'
  | minus => '-'

/-- A text in four parts. -/
structure Numeral where
  blanks : List Char
  sign : Option Sign
  digits : List Char
  rest : List Char
  deriving DecidableEq, Repr

namespace Numeral

/-- What follows the blanks. -/
def body (r : Numeral) : List Char := r.sign.toList.map Sign.char ++ (r.digits ++ r.rest)

/-- The natural number that the digits denote, the first of them being the most significant. -/
def magnitude (r : Numeral) : Nat :=
  Nat.ofDigits 10 (r.digits.reverse.map fun c => c.toNat - '0'.toNat)

/-- The integer that sign and digits denote. -/
def value (r : Numeral) : Int :=
  match r.sign with
  | some .minus => -r.magnitude
  | some .plus | none => r.magnitude

end Numeral

/-- The parts make up the text: all leading blanks, a sign if there is one, and all decimal digits
after it. -/
structure Reads (text : List Char) (r : Numeral) : Prop where
  whole : text = r.blanks ++ r.body
  blank : ∀ c ∈ r.blanks, isBlank c = true
  clean : StartsClean r.body
  signed : r.sign = none → ∀ sign : Sign, r.body.head? ≠ some sign.char
  digit : ∀ c ∈ r.digits, c.isDigit = true
  longest : ∀ c ∈ r.rest.head?, c.isDigit = false

/-! ## Taking a text apart -/

/-- The numeral in a text that has no leading blanks, after these blanks. -/
def afterBlanks (blanks : List Char) : List Char → Numeral
  | '-' :: rest => ⟨blanks, some .minus, rest.takeWhile Char.isDigit, rest.dropWhile Char.isDigit⟩
  | '+' :: rest => ⟨blanks, some .plus, rest.takeWhile Char.isDigit, rest.dropWhile Char.isDigit⟩
  | rest => ⟨blanks, none, rest.takeWhile Char.isDigit, rest.dropWhile Char.isDigit⟩

theorem afterBlanks_of_unsigned (blanks : List Char) {rest : List Char}
    (unsigned : ∀ sign : Sign, rest.head? ≠ some sign.char) :
    afterBlanks blanks rest =
      ⟨blanks, none, rest.takeWhile Char.isDigit, rest.dropWhile Char.isDigit⟩ := by
  unfold afterBlanks
  split
  · exact absurd rfl (unsigned .minus)
  · exact absurd rfl (unsigned .plus)
  · rfl

theorem natural_eq_ofDigits (digits : List Char) : natural digits =
    Nat.ofDigits 10 (digits.reverse.map fun c => c.toNat - '0'.toNat) := by
  rw [natural, Nat.ofDigits_eq_foldr, List.foldr_map, List.foldr_reverse]
  congr 1
  funext n c
  simp only [Nat.cast_id]
  omega

theorem leadingInteger_eq (blanks text : List Char) :
    leadingInteger text = (afterBlanks blanks text).value := by
  unfold leadingInteger afterBlanks
  split <;> simp only [natural_eq_ofDigits] <;> rfl

/-- The parts of a text can be computed from it. -/
theorem Reads.eq_afterBlanks {text : List Char} {r : Numeral} (reads : Reads text r) :
    r = afterBlanks (text.takeWhile isBlank) (stripStart text) := by
  obtain ⟨front, back⟩ := takeWhile_append_of_stop reads.blank reads.clean
  obtain ⟨digits, rest⟩ := takeWhile_append_of_stop reads.digit reads.longest
  rw [stripStart, reads.whole, front, back]
  obtain ⟨blanks, sign, digits', rest'⟩ := r
  cases sign with
  | none =>
      rw [afterBlanks_of_unsigned blanks (reads.signed rfl)]
      exact congrArg₂ (Numeral.mk blanks none) digits.symm rest.symm
  | some sign =>
      cases sign with
      | plus => exact congrArg₂ (Numeral.mk blanks (some .plus)) digits.symm rest.symm
      | minus => exact congrArg₂ (Numeral.mk blanks (some .minus)) digits.symm rest.symm

theorem body_afterBlanks (blanks rest : List Char) : (afterBlanks blanks rest).body = rest := by
  unfold afterBlanks
  split <;> simp [Numeral.body, Sign.char]

theorem sign_afterBlanks {blanks rest : List Char} (unsigned : (afterBlanks blanks rest).sign = none)
    (sign : Sign) : rest.head? ≠ some sign.char := by
  unfold afterBlanks at unsigned
  split at unsigned
  · cases unsigned
  · cases unsigned
  · rename_i noMinus noPlus
    intro first
    obtain ⟨rest, rfl⟩ := List.head?_eq_some_iff.mp first
    cases sign with
    | plus => exact noPlus rest rfl
    | minus => exact noMinus rest rfl

/-- Blanks are kept as they are, and the digits end where they must. -/
theorem exists_afterBlanks (blanks rest : List Char) : ∃ sign, ∃ tail : List Char,
    afterBlanks blanks rest =
      ⟨blanks, sign, tail.takeWhile Char.isDigit, tail.dropWhile Char.isDigit⟩ := by
  unfold afterBlanks
  split
  · exact ⟨_, _, rfl⟩
  · exact ⟨_, _, rfl⟩
  · exact ⟨_, _, rfl⟩

theorem reads_afterBlanks (text : List Char) :
    Reads text (afterBlanks (text.takeWhile isBlank) (stripStart text)) := by
  have body := body_afterBlanks (text.takeWhile isBlank) (stripStart text)
  have unsigned := @sign_afterBlanks (text.takeWhile isBlank) (stripStart text)
  obtain ⟨sign, tail, parts⟩ := exists_afterBlanks (text.takeWhile isBlank) (stripStart text)
  rw [parts] at body unsigned ⊢
  exact
    { whole := by
        rw [body]
        exact List.takeWhile_append_dropWhile.symm
      blank := fun c member => List.mem_takeWhile_imp member
      clean := by
        rw [body]
        exact startsClean_stripStart text
      signed := by
        rw [body]
        exact unsigned
      digit := fun c member => List.mem_takeWhile_imp member
      longest := fun c first => by
        have stop := List.head?_dropWhile_not Char.isDigit tail
        rw [Option.mem_def.mp first] at stop
        simpa using stop }

/-- There is one way to take a text apart. -/
theorem existsUnique_reads (text : List Char) : ∃! r : Numeral, Reads text r :=
  ⟨_, reads_afterBlanks text, fun _ reads => reads.eq_afterBlanks⟩

/-! ## The code -/

/-- Whatever its digits are, the code of a text is read off its numeral. -/
theorem Reads.leadingInteger_eq {text : List Char} {r : Numeral} (reads : Reads text r) :
    leadingInteger (stripStart text) = r.value := by
  rw [reads.eq_afterBlanks]
  exact ExitCode.leadingInteger_eq _ _

/-- A text denotes a code in one way: after its blanks stand a sign, if there is one, and digits as
far as they go. Without digits the code is 0. If the integer that they denote has at most 64 bits, the
code is this integer, or the nearest one that has 32 bits. A larger integer is not read at all, and
its code is 0. -/
theorem ofString_saturated (text : String) :
    (∃! r : Numeral, Reads text.toList r) ∧ ∀ r : Numeral, Reads text.toList r →
      (r.digits = [] → ofString text = 0) ∧
        (-2 ^ 63 ≤ r.value ∧ r.value < 2 ^ 63 →
          ofString text = max (-2 ^ 31) (min r.value (2 ^ 31 - 1))) ∧
        (¬(-2 ^ 63 ≤ r.value ∧ r.value < 2 ^ 63) → ofString text = 0) := by
  refine ⟨existsUnique_reads text.toList, fun r reads => ?_⟩
  have code : ofString text = if isReadable r.value then clamp r.value else 0 := by
    rw [ofString, reads.leadingInteger_eq]
  have readable : isReadable r.value = true ↔ -2 ^ 63 ≤ r.value ∧ r.value < 2 ^ 63 := by
    simp [isReadable]
  refine ⟨fun noDigits => ?_, fun fits => ?_, fun wide => ?_⟩
  · have zero : r.value = 0 := by
      cases sign : r.sign with
      | none => simp [Numeral.value, Numeral.magnitude, sign, noDigits]
      | some sign' => cases sign' <;> simp [Numeral.value, Numeral.magnitude, sign, noDigits]
    rw [code, zero]
    rfl
  · rw [code, if_pos (readable.mpr fits)]
    rfl
  · rw [code, if_neg (mt readable.mp wide)]

/-- After a blank and a sign there are eleven digits, which denote less than the least code. -/
theorem ofString_saturated_low :
    let r : Numeral := ⟨[' '], some .minus, "99999999999".toList, "rd".toList⟩
    Reads " -99999999999rd".toList r ∧ r.value = -99999999999 ∧
      ofString " -99999999999rd" = -2147483648 := by
  intro r
  have reads : Reads " -99999999999rd".toList r :=
    { whole := rfl
      blank := List.all_eq_true.mp (by decide)
      clean := startsClean_cons _ (by decide)
      signed := fun unsigned => by cases unsigned
      digit := List.all_eq_true.mp (by decide)
      longest := fun c first => by
        obtain rfl := Option.some.inj first
        rfl }
  have value : r.value = -99999999999 := by decide +kernel
  obtain ⟨-, codes⟩ := ofString_saturated " -99999999999rd"
  obtain ⟨-, fits, -⟩ := codes r reads
  have code := fits (by rw [value]; decide)
  rw [value] at code
  exact ⟨reads, value, code⟩

/-- The least integer that needs more than 64 bits is above every code, but its code is not the
greatest one. -/
theorem ofString_wide :
    let r : Numeral := ⟨[], none, "9223372036854775808".toList, []⟩
    Reads "9223372036854775808".toList r ∧
      max (-2 ^ 31) (min r.value (2 ^ 31 - 1)) = 2147483647 ∧
      ofString "9223372036854775808" = 0 := by
  intro r
  refine ⟨?_, by decide +kernel, by decide +kernel⟩
  exact
    { whole := rfl
      blank := List.all_eq_true.mp (by decide)
      clean := startsClean_cons _ (by decide)
      signed := fun _ sign => by cases sign <;> decide
      digit := List.all_eq_true.mp (by decide)
      longest := fun c first => by cases first }

end BuildScript.ExitCode
