import BuildScript.Proofs.Script.Pieces
import BuildScript.Proofs.Text.Slices

/-!
# Reading arguments with a cursor

The arguments of a call can be read without copying what has been read of an argument: a cursor
remembers the byte offset where the argument under way began, and takes a slice once it has ended. The
cursor goes through the text once. Wherever it has come to, the remembered offset is a boundary that is
not beyond this place, so the slice that ends here exists (`Cursor.Stands.inRange`). The induction is
over what has been read, and its invariant (`Cursor.Stands`) ties the cursor to the reader that keeps the
characters; `argumentsBySlices_eq` says that both find the same arguments.
-/

namespace BuildScript.Script

open Text

/-- Where a reader of slices has come to. -/
structure Cursor where
  /-- The byte offset where the argument under way began. -/
  start : Option Nat
  /-- Whether that argument is a quoted one. -/
  quoting : Bool
  /-- The arguments that have ended. -/
  found : List String
  deriving DecidableEq, Repr

namespace Cursor

/-- Before the text. -/
def initial : Cursor := ⟨none, false, []⟩

/-- Ends an argument at `offset`, if there is one under way. Nothing comes of a slice that does not
exist. -/
def take (raw : String) (offset : Nat) (shape : String → String) (cursor : Cursor) :
    Option Cursor :=
  match cursor.start with
  | none => some cursor
  | some first => do
    let part ← slice raw first offset
    return { cursor with start := none, found := cursor.found ++ [shape part] }

/-- Reads the character that starts at `offset`. -/
def step (raw : String) (cursor : Cursor) (place : Nat × Char) : Option Cursor :=
  let (offset, c) := place
  if c = '"' then
    if cursor.quoting then { cursor with quoting := false }.take raw offset id
    else some { cursor with start := some (offset + 1), quoting := true }
  else if c = ',' && !cursor.quoting then cursor.take raw offset trimmedEnd
  else if !isBlank c && cursor.start.isNone then some { cursor with start := some offset }
  else some cursor

/-- Reads the characters that a text starts with. -/
def after (raw : String) (read : List Char) : Option Cursor :=
  (indexed 0 read).foldlM (step raw) initial

/-- Ends the argument that the text ends in. -/
def finish (raw : String) (cursor : Cursor) : Option (List String) := do
  let last ← cursor.take raw raw.utf8ByteSize (if cursor.quoting then id else trimmedEnd)
  return last.found

end Cursor

/-- The arguments in the text between the parentheses of a call, cut out as slices. -/
def argumentsBySlices (raw : String) : Option (List String) := do
  let cursor ← Cursor.after raw raw.toList
  cursor.finish raw

namespace Cursor

/-! ## One character -/

/-- After `before`, the cursor is where a reader that keeps the characters is. -/
inductive Stands (before : List Char) : Reading → Cursor → Prop
  | nothing (found : List String) : Stands before .nothing ⟨none, false, found⟩
  | bare {outer read : List Char} (found : List String) (whole : before = outer ++ read.reverse) :
      Stands before (.bare read) ⟨some (byteSize outer), false, found⟩
  | quoted {outer read : List Char} (found : List String) (whole : before = outer ++ read.reverse) :
      Stands before (.quoted read) ⟨some (byteSize outer), true, found⟩

/-- The arguments that have ended, and those that the text has still to give when `rest` follows. -/
def arguments (cursor : Cursor) (reading : Reading) (rest : List Char) : List String :=
  cursor.found ++ (reading.arguments rest).map String.ofList

variable {raw : String} {before rest : List Char} {reading : Reading} {cursor : Cursor}

/-- Where an argument is under way, its slice up to here exists. -/
theorem Stands.inRange (stands : Stands before reading cursor) (whole : raw.toList = before ++ rest) :
    ∀ first ∈ cursor.start, InRange raw first (byteSize before) := by
  have upToHere {outer read : List Char} (cut : before = outer ++ read.reverse) :
      InRange raw (byteSize outer) (byteSize before) := by
    rw [cut, byteSize_append]
    exact inRange_of_append (by rw [whole, cut])
  intro first started
  cases stands with
  | nothing found => cases started
  | bare found cut =>
      obtain rfl := Option.some.inj started
      exact upToHere cut
  | quoted found cut =>
      obtain rfl := Option.some.inj started
      exact upToHere cut

/-- An argument under way ends here as what has been read of it. -/
theorem take_eq_some {outer part : List Char} (whole : raw.toList = outer ++ part ++ rest)
    (shape : String → String) (quoting : Bool) (found : List String) :
    (⟨some (byteSize outer), quoting, found⟩ : Cursor).take raw (byteSize (outer ++ part)) shape =
      some ⟨none, quoting, found ++ [shape (String.ofList part)]⟩ := by
  simp only [take, byteSize_append, slice_eq_some whole]
  rfl

/-- The character `c` after `before` can be read, and the arguments stay the same. -/
def Advances (raw : String) (before : List Char) (c : Char) (reading : Reading) (cursor : Cursor) :
    Prop :=
  ∃ reading' cursor', cursor.step raw (byteSize before, c) = some cursor' ∧
    Stands (before ++ [c]) reading' cursor' ∧
    ∀ later, cursor'.arguments reading' later = cursor.arguments reading (c :: later)

/-- A quote outside of quotes begins a quoted argument after it, and drops what was read before. -/
theorem advances_quote (raw : String) (before : List Char) (start : Option Nat)
    (found : List String) (outside : reading.isQuoted = false) :
    Advances raw before '"' reading ⟨start, false, found⟩ := by
  have place : byteSize before + 1 = byteSize (before ++ ['"']) := (byteSize_concat before '"').symm
  refine ⟨.quoted [], ⟨some (byteSize (before ++ ['"'])), true, found⟩, ?_, ?_, fun later => ?_⟩
  · simp [step, place]
  · exact .quoted found (List.append_nil _).symm
  · cases reading with
    | nothing => simp [arguments, Reading.arguments]
    | bare read => simp [arguments, Reading.arguments]
    | quoted read => cases outside

/-- Between arguments, a character is stray or the first one of a bare argument. -/
theorem advances_nothing (raw : String) (before : List Char) (found : List String) {c : Char}
    (other : c ≠ '"') : Advances raw before c .nothing ⟨none, false, found⟩ := by
  by_cases stray : c = ',' ∨ isBlank c = true
  · refine ⟨.nothing, ⟨none, false, found⟩, ?_, .nothing found, fun later => ?_⟩
    · rcases stray with rfl | blank
      · simp [step, take]
      · simp [step, take, other, blank]
    · simp [arguments, Reading.arguments, other, stray]
  · obtain ⟨part, solid⟩ : c ≠ ',' ∧ isBlank c = false := by simpa using stray
    refine ⟨.bare [c], ⟨some (byteSize before), false, found⟩, ?_, .bare found rfl, fun later => ?_⟩
    · simp [step, other, part, solid]
    · simp [arguments, Reading.arguments, other, part, solid]

/-- In a bare argument, a comma ends it and any other character belongs to it. -/
theorem advances_bare {outer read : List Char} (found : List String) {c : Char}
    (cut : before = outer ++ read.reverse) (whole : raw.toList = before ++ c :: rest)
    (other : c ≠ '"') :
    Advances raw before c (.bare read) ⟨some (byteSize outer), false, found⟩ := by
  by_cases part : c = ','
  · subst part
    rw [cut] at whole ⊢
    refine ⟨.nothing, ⟨none, false, found ++ [String.ofList (bareArgument read)]⟩, ?_, .nothing _,
      fun later => ?_⟩
    · simp [step, take_eq_some whole, trimmedEnd_ofList, bareArgument]
    · simp [arguments, Reading.arguments]
  · refine ⟨.bare (c :: read), ⟨some (byteSize outer), false, found⟩, ?_, .bare found ?_,
      fun later => ?_⟩
    · simp [step, other, part]
    · rw [cut, List.reverse_cons, List.append_assoc]
    · simp [arguments, Reading.arguments, other, part]

/-- In a quoted argument, a quote ends it and any other character belongs to it. -/
theorem advances_quoted {outer read : List Char} (found : List String) {c : Char}
    (cut : before = outer ++ read.reverse) (whole : raw.toList = before ++ c :: rest) :
    Advances raw before c (.quoted read) ⟨some (byteSize outer), true, found⟩ := by
  by_cases quote : c = '"'
  · subst quote
    rw [cut] at whole ⊢
    refine ⟨.nothing, ⟨none, false, found ++ [String.ofList read.reverse]⟩, ?_, .nothing _,
      fun later => ?_⟩
    · simp [step, take_eq_some whole]
    · simp [arguments, Reading.arguments]
  · refine ⟨.quoted (c :: read), ⟨some (byteSize outer), true, found⟩, ?_, .quoted found ?_,
      fun later => ?_⟩
    · simp [step, quote]
    · rw [cut, List.reverse_cons, List.append_assoc]
    · simp [arguments, Reading.arguments, quote]

theorem Stands.advances (stands : Stands before reading cursor) {c : Char}
    (whole : raw.toList = before ++ c :: rest) : Advances raw before c reading cursor := by
  by_cases quote : c = '"'
  · cases stands with
    | nothing found => exact quote ▸ advances_quote raw before none found rfl
    | bare found cut => exact quote ▸ advances_quote raw before _ found rfl
    | quoted found cut => exact advances_quoted found cut whole
  · cases stands with
    | nothing found => exact advances_nothing raw before found quote
    | bare found cut => exact advances_bare found cut whole quote
    | quoted found cut => exact advances_quoted found cut whole

/-! ## A whole text -/

/-- The cursor goes through any part of the text that follows. -/
theorem Stands.run {read : List Char} (stands : Stands before reading cursor)
    (whole : raw.toList = before ++ read ++ rest) :
    ∃ reading' cursor', (indexed (byteSize before) read).foldlM (Cursor.step raw) cursor =
        some cursor' ∧
      Stands (before ++ read) reading' cursor' ∧
      ∀ later, cursor'.arguments reading' later = cursor.arguments reading (read ++ later) := by
  induction read generalizing before reading cursor with
  | nil =>
      rw [List.append_nil]
      exact ⟨reading, cursor, rfl, stands, fun _ => rfl⟩
  | cons c cs ih =>
      rw [List.append_assoc, List.cons_append] at whole
      obtain ⟨reading₁, cursor₁, first, stands₁, same₁⟩ := stands.advances whole
      have whole' : raw.toList = (before ++ [c]) ++ cs ++ rest := by simp [whole]
      obtain ⟨reading₂, cursor₂, others, stands₂, same₂⟩ := ih stands₁ whole'
      refine ⟨reading₂, cursor₂, ?_, ?_, fun later => ?_⟩
      -- The next place is as many bytes further on as this character takes.
      · rw [byteSize_concat] at others
        rw [indexed, List.foldlM_cons, first]
        exact others
      · rwa [List.append_assoc] at stands₂
      · rw [same₂, same₁, List.cons_append]

/-- Whatever a text starts with can be read, and the arguments are still those of the whole text. -/
theorem exists_after (whole : raw.toList = before ++ rest) :
    ∃ reading cursor, after raw before = some cursor ∧ Stands before reading cursor ∧
      ∀ later, cursor.arguments reading later = Script.arguments (before ++ later) :=
  Stands.run (Stands.nothing [] : Stands [] .nothing initial) whole

/-- At the end of the text, the argument under way is its last one. -/
theorem Stands.finish (stands : Stands raw.toList reading cursor) :
    cursor.finish raw = some (cursor.arguments reading []) := by
  have rest {outer read : List Char} (cut : raw.toList = outer ++ read.reverse) :
      raw.toList = outer ++ read.reverse ++ [] := by rw [cut, List.append_nil]
  rw [Cursor.finish, ← byteSize_toList]
  cases stands with
  | nothing found => simp [take, arguments, Reading.arguments]
  | bare found cut =>
      simp [cut, take_eq_some (rest cut), arguments, Reading.arguments, trimmedEnd_ofList,
        bareArgument]
  | quoted found cut =>
      simp [cut, take_eq_some (rest cut), arguments, Reading.arguments]

end Cursor

/-- No slice is missing, and the arguments are the ones that the reader of characters finds. -/
theorem argumentsBySlices_eq (raw : String) :
    argumentsBySlices raw = some (arguments raw.toList) := by
  obtain ⟨reading, cursor, read, stands, same⟩ :=
    Cursor.exists_after (List.append_nil raw.toList).symm
  have last := stands.finish
  rw [same, List.append_nil] at last
  rw [argumentsBySlices, read]
  exact last

end BuildScript.Script
