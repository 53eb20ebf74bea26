import BuildScript.Action.Console
import BuildScript.Proofs.ExitCode
import BuildScript.Proofs.Text.Slices

/-!
# Reading codes as slices

The number in front of a text can be cut out by two byte offsets: it begins with the text, and it ends
after the sign and the digits. In terms of the `Numeral` that the text reads as, these are the sizes of
the sign and of sign and digits (`Reads.signSize_eq`, `Reads.numberEnd_eq`), so every slice that is taken
exists (`codeInRange`), and the code is the one that the reader of characters finds (`bySlices_eq`).
-/

namespace BuildScript

open Text

namespace ExitCode

/-- Whether a character is a sign. -/
def isSign (c : Char) : Bool := c == '-' || c == '+'

/-- The size of the sign that a text starts with. -/
def signSize (text : String) : Nat := (text.toList.head?.any isSign).toNat

/-- The byte offset where the number ends that a text starts with. -/
def numberEnd (text : String) : Option Nat := do
  let unsigned ← slice text (signSize text) text.utf8ByteSize
  match offsetOf (fun c => !c.isDigit) unsigned with
  | none => return text.utf8ByteSize
  | some stop => return signSize text + stop

/-- The integer that a whole text denotes: a sign if there is one, then digits and nothing else, and no
more than 64 bits. -/
def integer? (text : String) : Option Int :=
  let cs := text.toList
  let digits := if cs.head?.any isSign then cs.tail else cs
  if !digits.isEmpty && digits.all Char.isDigit && isReadable (leadingInteger cs) then
    some (leadingInteger cs)
  else none

/-- The code that a text denotes, cut out as slices. -/
def bySlices (text : String) : Option Int := do
  let text := trimmedStart text
  let stop ← numberEnd text
  let number ← slice text 0 stop
  return ((integer? number).map clamp).getD 0

/-- Sign and digits of a numeral. -/
def Numeral.signed (r : Numeral) : List Char := r.sign.toList.map Sign.char ++ r.digits

/-- A numeral with nothing around sign and digits. -/
def Numeral.bare (r : Numeral) : Numeral := ⟨[], r.sign, r.digits, []⟩

theorem Numeral.body_eq (r : Numeral) : r.body = r.signed ++ r.rest := by
  rw [body, signed, List.append_assoc]

theorem Numeral.body_bare (r : Numeral) : r.bare.body = r.signed := by
  rw [body_eq]
  exact List.append_nil _

theorem isSign_iff (c : Char) : isSign c = true ↔ ∃ sign : Sign, c = sign.char := by
  constructor
  · intro sign
    rcases Bool.or_eq_true_iff.mp sign with minus | plus
    · exact ⟨.minus, beq_iff_eq.mp minus⟩
    · exact ⟨.plus, beq_iff_eq.mp plus⟩
  · rintro ⟨sign, rfl⟩
    cases sign <;> rfl

variable {text : List Char} {r : Numeral}

theorem Reads.trimmedStart_eq {text : String} (reads : Reads text.toList r) :
    trimmedStart text = String.ofList r.body := by
  rw [trimmedStart, reads.eq_afterBlanks, body_afterBlanks]

/-- Sign and digits alone are read as the same numeral. -/
theorem Reads.bare (reads : Reads text r) : Reads r.signed r.bare where
  whole := by rw [Numeral.body_bare]; rfl
  blank c member := by cases member
  clean := by
    rw [Numeral.body_bare]
    exact reads.clean.ofPrefix ⟨r.rest, r.body_eq.symm⟩
  signed unsigned sign first := by
    rw [Numeral.body_bare] at first
    apply reads.signed unsigned sign
    rw [r.body_eq, List.head?_append, first]
    rfl
  digit := reads.digit
  longest c first := by cases first

/-- A sign stands first exactly if the numeral has one. -/
theorem Reads.any_isSign (reads : Reads text r) :
    r.body.head?.any isSign = r.sign.isSome := by
  cases signed : r.sign with
  | some sign =>
      rw [Numeral.body, signed]
      exact (isSign_iff sign.char).mpr ⟨sign, rfl⟩
  | none =>
      cases first : r.body.head? with
      | none => rfl
      | some c =>
          refine Bool.eq_false_iff.mpr fun isOne => ?_
          obtain ⟨sign, rfl⟩ := (isSign_iff c).mp isOne
          exact reads.signed signed sign first

theorem Reads.signSize_eq (reads : Reads text r) :
    signSize (String.ofList r.body) = byteSize (r.sign.toList.map Sign.char) := by
  rw [signSize, String.toList_ofList, reads.any_isSign]
  cases r.sign with
  | none => rfl
  | some sign => cases sign <;> rfl

/-- The first character that is no digit stands where the digits end, if anything follows them. -/
theorem Reads.offsetOf_eq (reads : Reads text r) :
    offsetOf (fun c => !c.isDigit) (String.ofList (r.digits ++ r.rest)) =
      if r.rest = [] then none else some (byteSize r.digits) := by
  have digits : ∀ c ∈ r.digits, (!c.isDigit) = false := fun c member => by
    rw [reads.digit c member]
    rfl
  cases after : r.rest with
  | nil => exact offsetOf_eq_none (by simpa using digits)
  | cons c rest =>
      have stops : (!c.isDigit) = true := by
        rw [reads.longest c (by rw [after]; rfl)]
        rfl
      exact offsetOf_append String.toList_ofList digits stops

/-- The number ends where sign and digits do. -/
theorem Reads.numberEnd_eq (reads : Reads text r) :
    numberEnd (String.ofList r.body) = some (byteSize r.signed) := by
  have whole : (String.ofList r.body).toList =
      r.sign.toList.map Sign.char ++ (r.digits ++ r.rest) := String.toList_ofList
  rw [numberEnd, reads.signSize_eq, slice_end whole]
  simp only [Option.bind_eq_bind, Option.bind_some, reads.offsetOf_eq]
  by_cases last : r.rest = []
  · rw [if_pos last, r.body_eq, last, List.append_nil]
    rfl
  · rw [if_neg last, Numeral.signed, byteSize_append]
    rfl

/-- Sign and digits denote what the numeral does. -/
theorem Reads.leadingInteger_signed (reads : Reads text r) : leadingInteger r.signed = r.value := by
  have clean := reads.bare.clean
  rw [Numeral.body_bare] at clean
  rw [← (stripStart_eq_self_iff r.signed).mpr clean, reads.bare.leadingInteger_eq]
  rfl

/-- Sign and digits are an integer, unless there are no digits or too many. -/
theorem Reads.integer?_eq (reads : Reads text r) : integer? (String.ofList r.signed) =
    if !r.digits.isEmpty && isReadable r.value then some r.value else none := by
  have sign := reads.bare.any_isSign
  rw [Numeral.body_bare] at sign
  have digits : (if r.signed.head?.any isSign then r.signed.tail else r.signed) = r.digits := by
    rw [sign, Numeral.bare, Numeral.signed]
    cases r.sign <;> rfl
  have all : r.digits.all Char.isDigit = true := List.all_eq_true.mpr reads.digit
  simp only [integer?, String.toList_ofList, digits, reads.leadingInteger_signed, all, Bool.and_true]

theorem leadingInteger_sign (sign : Option Sign) :
    leadingInteger (sign.toList.map Sign.char) = 0 := by
  rcases sign with _ | _ | _ <;> rfl

theorem bySlices_eq (text : String) : bySlices text = some (ofString text) := by
  obtain ⟨r, reads, -⟩ := existsUnique_reads text.toList
  have number : slice (String.ofList r.body) 0 (byteSize r.signed) =
      some (String.ofList r.signed) :=
    slice_start (by rw [String.toList_ofList, r.body_eq])
  simp only [bySlices, reads.trimmedStart_eq, reads.numberEnd_eq, number, reads.integer?_eq,
    ofString, reads.leadingInteger_eq, Option.bind_eq_bind, Option.bind_some]
  by_cases empty : r.digits = []
  · -- Without digits there is no integer, and a sign alone counts as 0.
    have zero : r.value = 0 := by
      rw [← reads.leadingInteger_signed, Numeral.signed, empty, List.append_nil,
        leadingInteger_sign]
    rw [zero, empty]
    rfl
  · cases isReadable r.value with
    | false => simp
    | true => simp [empty]

/-- Reading a code takes no slice that does not exist. -/
structure CodeInRange (text : String) : Prop where
  /-- The number ends at a boundary that is not before the end of the sign and not beyond the text. -/
  number : ∃ stop, numberEnd (trimmedStart text) = some stop ∧
    InRange (trimmedStart text) (signSize (trimmedStart text)) stop ∧
    stop ≤ (trimmedStart text).utf8ByteSize
  returns : bySlices text = some (ofString text)

theorem codeInRange (text : String) : CodeInRange text where
  number := by
    obtain ⟨r, reads, -⟩ := existsUnique_reads text.toList
    have whole : (String.ofList r.body).toList =
        r.sign.toList.map Sign.char ++ r.digits ++ r.rest := by
      rw [String.toList_ofList, r.body_eq, Numeral.signed]
    have range := inRange_of_append whole
    rw [← byteSize_append] at range
    rw [reads.trimmedStart_eq, reads.signSize_eq]
    exact ⟨_, reads.numberEnd_eq, range, range.last_le⟩
  returns := bySlices_eq text

end ExitCode

namespace Action

/-- What a call of `exit` comes to when its code is cut out as slices. -/
def exitBySlices (call : Script.Call) : Option (Except CallError Flow) :=
  match call.args with
  | [text] => do
    let code ← ExitCode.bySlices text
    return .ok (.exit code)
  | _ => some (.error (.arity (call.mismatch 1)))

theorem exitBySlices_eq (call : Script.Call) (s : Settings) :
    ∃ outcome, exitBySlices call = some outcome ∧ (exit call).perform s = .done (outcome, s) := by
  obtain ⟨name, args⟩ := call
  rcases args with _ | ⟨text, _ | ⟨second, others⟩⟩
  · exact ⟨_, rfl, rfl⟩
  · refine ⟨.ok (.exit (ExitCode.ofString text)), ?_, rfl⟩
    simp only [exitBySlices, ExitCode.bySlices_eq]
    rfl
  · exact ⟨_, rfl, rfl⟩

end Action

end BuildScript
