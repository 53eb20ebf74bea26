import BuildScript.Proofs.ExitCode.Slices
import BuildScript.Proofs.Script.Cursor
import BuildScript.Proofs.Script.LineForm

/-!
# Reading lines as slices

A line can be cut at the byte offsets of its parentheses: the first opening one, the place after it, and
the last closing one of what is left. All of these are boundaries, since a parenthesis is one byte
(`lineInRange`), and the line means what it means to the reader of characters (`Line.bySlices_eq`).

`readers_in_range` puts this together with the arguments and the codes: whatever the text, no reader
takes a slice that does not exist, and every one returns.
-/

namespace BuildScript

open Text

namespace Script

/-! ## Lines -/

/-- A trimmed line with its first opening parenthesis at `opening`, cut out as slices. -/
def callBySlices (text : String) (opening : Nat) : Option Line := do
  let before ← slice text 0 opening
  let name := trimmedEnd before
  if name.isEmpty then return .malformed .missingName
  let rest ← slice text (opening + 1) text.utf8ByteSize
  match lastOffsetOf (· == ')') rest with
  | none => return .malformed .missingCloseParen
  | some closing =>
    let raw ← slice rest 0 closing
    let args ← argumentsBySlices raw
    return .call ⟨name, args⟩

/-- What a line says, cut out as slices. -/
def Line.bySlices (line : String) : Option Line :=
  let text := trimmed line
  if text.isEmpty then some .blank
  else if text.toList.head? == some '#' then some .comment
  else match offsetOf (· == '(') text with
    | none => some (readLabel text.toList)
    | some opening => callBySlices text opening

/-- What a script says, cut out as slices line by line. -/
def parseBySlices (source : String) : Option (List (Nat × Line)) :=
  ((lines source.toList).zipIdx 1).mapM fun (line, number) => do
    let said ← Line.bySlices (String.ofList line)
    return (number, said)

theorem forall_ne_of_not_mem {mark : Char} {cs : List Char} (absent : mark ∉ cs) :
    ∀ c ∈ cs, (c == mark) = false := by
  intro c member
  simpa using fun equal : c = mark => absent (equal ▸ member)

/-- The first mark is found where the text before it ends. -/
theorem offsetOf_eq (mark : Char) (text : String) :
    offsetOf (· == mark) text = (cutFirst mark text.toList).map fun cut => byteSize cut.1 := by
  cases cut : cutFirst mark text.toList with
  | none => exact offsetOf_eq_none (forall_ne_of_not_mem (cutFirst_eq_none_iff.mp cut))
  | some parts =>
      obtain ⟨whole, first⟩ := cutFirst_eq_some_iff.mp cut
      exact offsetOf_append whole (forall_ne_of_not_mem first) (beq_self_eq_true mark)

/-- The last mark is found where the text before it ends. -/
theorem lastOffsetOf_eq (mark : Char) (text : String) :
    lastOffsetOf (· == mark) text = (beforeLast mark text.toList).map byteSize := by
  cases cut : beforeLast mark text.toList with
  | none => exact lastOffsetOf_eq_none (forall_ne_of_not_mem (beforeLast_eq_none_iff.mp cut))
  | some before =>
      obtain ⟨after, whole, last⟩ := beforeLast_eq_some_iff.mp cut
      exact lastOffsetOf_append whole (forall_ne_of_not_mem last) (beq_self_eq_true mark)

/-- An opening parenthesis is one byte, so what comes after it begins at the next one. -/
theorem slice_after_opening {text : String} {before after : List Char}
    (whole : text.toList = before ++ '(' :: after) :
    slice text (byteSize before + 1) text.utf8ByteSize = some (String.ofList after) := by
  have next : byteSize (before ++ ['(']) = byteSize before + 1 := byteSize_concat before '('
  rw [← next]
  exact slice_end (by simp [whole])

theorem callBySlices_eq {text : String} {before after : List Char}
    (whole : text.toList = before ++ '(' :: after) :
    callBySlices text (byteSize before) = some (readCall before after) := by
  have unnamed : (String.ofList (stripEnd before)).isEmpty = (stripEnd before).isEmpty := by
    rw [Bool.eq_iff_iff]
    simp
  simp only [callBySlices, slice_start whole, slice_after_opening whole, readCall,
    Option.bind_eq_bind, Option.bind_some, trimmedEnd_ofList, lastOffsetOf_eq, String.toList_ofList,
    unnamed]
  by_cases empty : (stripEnd before).isEmpty
  · simp [empty]
  cases cut : beforeLast ')' after with
  | none => simp [empty]
  | some raw =>
      obtain ⟨tail, split, -⟩ := beforeLast_eq_some_iff.mp cut
      have taken : slice (String.ofList after) 0 (byteSize raw) = some (String.ofList raw) :=
        slice_start (by rw [String.toList_ofList, split])
      simp [empty, taken, argumentsBySlices_eq]

theorem Line.bySlices_eq (line : String) : Line.bySlices line = some (Line.ofString line) := by
  have chars : (trimmed line).toList = strip line.toList := String.toList_ofList
  have blank : (trimmed line).isEmpty = (strip line.toList).isEmpty := by
    rw [Bool.eq_iff_iff, ← chars]
    simp
  simp only [Line.bySlices, Line.ofString, Line.ofChars, offsetOf_eq, chars, blank]
  split
  · rfl
  split
  · rfl
  cases cut : cutFirst '(' (strip line.toList) with
  | none => rfl
  | some parts =>
      obtain ⟨whole, -⟩ := cutFirst_eq_some_iff.mp cut
      exact callBySlices_eq (chars.trans whole)

theorem parseBySlices_eq (source : String) : parseBySlices source = some (parse source) := by
  have said (line : List Char) : Line.bySlices (String.ofList line) = some (Line.ofChars line) := by
    rw [Line.bySlices_eq, Line.ofString, String.toList_ofList]
  rw [parseBySlices, parse]
  generalize lines source.toList = ls
  generalize 1 = first
  induction ls generalizing first with
  | nil => rfl
  | cons line ls ih =>
      rw [List.zipIdx_cons, List.mapM_cons, ih]
      simp only [said]
      rfl

end Script

/-! ## No slice is out of range -/

/-- Reading the arguments in `raw` takes no slice that does not exist. -/
structure Script.ArgumentsInRange (raw : String) : Prop where
  /-- The cursor comes to every place of the text. The offset that it remembers there is a boundary not
  beyond this place, so there is a slice from it to here, and one to the end of the text. -/
  step : ∀ before rest : List Char, raw.toList = before ++ rest →
    ∃ cursor, Cursor.after raw before = some cursor ∧
      ∀ first ∈ cursor.start,
        InRange raw first (byteSize before) ∧ InRange raw first raw.utf8ByteSize
  returns : argumentsBySlices raw = some (arguments raw.toList)

/-- Reading a line takes no slice that does not exist. -/
structure Script.LineInRange (line : String) : Prop where
  /-- The offsets before and after the first opening parenthesis are boundaries of the trimmed line, and
  the one of the last closing parenthesis is a boundary of the rest. -/
  parentheses : ∀ opening, offsetOf (· == '(') (trimmed line) = some opening →
    InRange (trimmed line) 0 opening ∧
      InRange (trimmed line) (opening + 1) (trimmed line).utf8ByteSize ∧
      ∃ rest, slice (trimmed line) (opening + 1) (trimmed line).utf8ByteSize = some rest ∧
        ∀ closing, lastOffsetOf (· == ')') rest = some closing → InRange rest 0 closing
  returns : Line.bySlices line = some (Line.ofString line)

theorem Script.argumentsInRange (raw : String) : ArgumentsInRange raw where
  step before rest whole := by
    obtain ⟨reading, cursor, read, stands, -⟩ := Cursor.exists_after whole
    refine ⟨cursor, read, fun first started => ?_⟩
    have upToHere := stands.inRange whole first started
    exact ⟨upToHere, upToHere.toEnd⟩
  returns := argumentsBySlices_eq raw

theorem Script.lineInRange (line : String) : LineInRange line where
  parentheses opening found := by
    rw [offsetOf_eq, Option.map_eq_some_iff] at found
    obtain ⟨⟨before, after⟩, cut, rfl⟩ := found
    obtain ⟨whole, -⟩ := cutFirst_eq_some_iff.mp cut
    have rest := slice_after_opening whole
    refine ⟨inRange_start whole, slice_isSome_iff.mp (by rw [rest]; rfl), _, rest, ?_⟩
    intro closing found
    rw [lastOffsetOf_eq, Option.map_eq_some_iff] at found
    obtain ⟨raw, cut, rfl⟩ := found
    obtain ⟨tail, whole, -⟩ := beforeLast_eq_some_iff.mp cut
    exact inRange_start whole
  returns := Line.bySlices_eq line

/-- Reading text by byte offsets never goes wrong, whatever the text: in arguments, lines, scripts and
codes all slices that are taken lie between boundaries in range, so each reader returns, with the result
of the reader of characters, and so does a call of `exit`. -/
theorem readers_in_range (text : String) (call : Script.Call) (s : Settings) :
    Script.ArgumentsInRange text ∧ Script.LineInRange text ∧
      Script.parseBySlices text = some (Script.parse text) ∧ ExitCode.CodeInRange text ∧
      ∃ outcome, Action.exitBySlices call = some outcome ∧
        (Action.exit call).perform s = .done (outcome, s) :=
  ⟨Script.argumentsInRange text, Script.lineInRange text, Script.parseBySlices_eq text,
    ExitCode.codeInRange text, Action.exitBySlices_eq call s⟩

/-- A wide blank is trimmed, and the name is one character of two bytes. -/
theorem readers_in_range_wide :
    let line := "\u3000é(\"ü, \", ö )"
    offsetOf (· == '(') (trimmed line) = some 2 ∧ ¬IsBoundary (trimmed line) 1 ∧
      InRange (trimmed line) 0 2 ∧ InRange (trimmed line) 3 (trimmed line).utf8ByteSize ∧
      Script.Line.bySlices line = some (.call ⟨"é", ["ü, ", "ö"]⟩) := by
  intro line
  have opening : offsetOf (· == '(') (trimmed line) = some 2 := by decide +kernel
  obtain ⟨-, ⟨parentheses, returns⟩, -⟩ := readers_in_range line ⟨"exit", []⟩ .initial
  obtain ⟨before, after, -⟩ := parentheses 2 opening
  refine ⟨opening, by decide +kernel, before, after, ?_⟩
  rw [returns]
  decide +kernel

end BuildScript
