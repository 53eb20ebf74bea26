import BuildScript.Make.Conversion
import BuildScript.Proofs.Script.Numbering
import BuildScript.Proofs.Text.Trimming
import BuildScript.Session

/-!
# Indentation and line ends

A line means what it means without the blanks around it, and a carriage return is such a blank. So
a script may be indented line by line and its lines may end in either way (`Reindented`), and it says
the same, line by line and number by number (`map_ofChars_lines`).

The one thing that blanks can do is to make a line where there was none: after the last newline of a
script. Where both scripts have the same number of lines, nothing that is done with a script can
tell them apart (`parse_reindented`).
-/

namespace BuildScript.Script

open Text

/-! ## Scripts with other blanks -/

/-- The second line is the first one with blanks around it, none of them a newline. -/
def Indented (line other : List Char) : Prop :=
  ∃ before after, other = before ++ line ++ after ∧
    ∀ c ∈ before ++ after, isBlank c = true ∧ c ≠ '\n'

/-- The ways in which a line can end. -/
def lineEnds : List (List Char) := [['\n'], ['\r', '\n']]

/-- The second text is the first one, where each line has blanks put before it and after it. What
stands after the last newline counts as a line here, even if it is empty. -/
inductive Reindented : List Char → List Char → Prop
  | last {line other : List Char} (single : '\n' ∉ line) (indented : Indented line other) :
      Reindented line other
  | line {line other rest rest' ending : List Char} (single : '\n' ∉ line)
      (indented : Indented line other) (ends : ending ∈ lineEnds) (below : Reindented rest rest') :
      Reindented (line ++ ending ++ rest) (other ++ ending ++ rest')

theorem Indented.refl (line : List Char) : Indented line line :=
  ⟨[], [], by simp, by simp⟩

theorem Indented.around (line : List Char) {before after : List Char}
    (blanks : (before ++ after).all (fun c => isBlank c && c != '\n') = true) :
    Indented line (before ++ line ++ after) := by
  refine ⟨before, after, rfl, fun c member => ?_⟩
  simpa using List.all_eq_true.mp blanks c member

theorem Indented.single {line other : List Char} (indented : Indented line other)
    (single : '\n' ∉ line) : '\n' ∉ other := by
  obtain ⟨before, after, rfl, blanks⟩ := indented
  obtain ⟨front, back⟩ := List.forall_mem_append.mp blanks
  simp only [List.mem_append, not_or]
  exact ⟨⟨fun member => (front _ member).2 rfl, single⟩, fun member => (back _ member).2 rfl⟩

theorem Indented.strip_eq {line other : List Char} (indented : Indented line other) :
    strip other = strip line := by
  obtain ⟨before, after, rfl, blanks⟩ := indented
  exact strip_append_blanks fun c member => (blanks c member).1

/-! ## What the lines say -/

theorem ofChars_congr {line other : List Char} (same : strip other = strip line) :
    Line.ofChars other = Line.ofChars line := by
  rw [Line.ofChars, Line.ofChars, same]

/-- However a line ends, it is there once, and it says what it says without its end. -/
theorem exists_lines_ending {line ending : List Char} (rest : List Char) (single : '\n' ∉ line)
    (ends : ending ∈ lineEnds) :
    ∃ kept, lines (line ++ ending ++ rest) = kept :: lines rest ∧
      Line.ofChars kept = Line.ofChars line := by
  have blank : ∀ c ∈ [] ++ ['\r'], isBlank c = true := List.all_eq_true.mp rfl
  rcases List.mem_pair.mp ends with rfl | rfl
  · obtain ⟨kept, cut, rfl | rfl⟩ := exists_lines_line rest single
    · exact ⟨line, by simpa using cut, rfl⟩
    · exact ⟨kept, by simpa using cut, ofChars_congr (strip_append_blanks blank).symm⟩
  · exact ⟨line, by simpa using lines_line_return rest single, rfl⟩

/-- Blanks around the lines of a script change nothing in what it says. -/
theorem map_ofChars_lines {cs cs' : List Char} (reindented : Reindented cs cs')
    (count : (lines cs').length = (lines cs).length) :
    (lines cs').map Line.ofChars = (lines cs).map Line.ofChars := by
  induction reindented with
  | @last line other single indented =>
      have single' := indented.single single
      -- An empty text has no line at all, so neither of the two is empty, or both are.
      by_cases empty : line = []
      · subst empty
        have none : lines other = [] := List.length_eq_zero_iff.mp count
        rw [none]
        rfl
      · have some : other ≠ [] := by
          rintro rfl
          rw [lines_of_not_mem single empty] at count
          cases count
        rw [lines_of_not_mem single empty, lines_of_not_mem single' some, List.map_singleton,
          List.map_singleton, ofChars_congr indented.strip_eq]
  | @line line other rest rest' ending single indented ends below ih =>
      obtain ⟨kept, first, meaning⟩ := exists_lines_ending rest single ends
      obtain ⟨kept', first', meaning'⟩ := exists_lines_ending rest' (indented.single single) ends
      rw [first, first', List.length_cons, List.length_cons, Nat.add_right_cancel_iff] at count
      rw [first, first', List.map_cons, List.map_cons, ih count, meaning, meaning',
        ofChars_congr indented.strip_eq]

/-- Scripts whose lines say the same are read the same. -/
theorem numbered_congr {ls ls' : List (List Char)}
    (same : ls'.map Line.ofChars = ls.map Line.ofChars) (first : Nat) :
    numbered first ls' = numbered first ls := by
  have listed (ls : List (List Char)) : numbered first ls =
      (ls.map Line.ofChars).mapIdx fun i line => (first + i, line) := by
    rw [numbered_eq_mapIdx]
    exact List.ext_getElem? fun i => by simp [Function.comp_def]
  rw [listed, listed, same]

/-! ## Carriage returns -/

/-- A character, and a carriage return before it if it is a newline. -/
def afterReturn (c : Char) : List Char := if c = '\n' then ['\r', '\n'] else [c]

/-- A text in which every newline has a carriage return before it. -/
def withReturns (source : String) : String := String.ofList (source.toList.flatMap afterReturn)

theorem flatMap_of_single {line : List Char} (single : '\n' ∉ line) :
    line.flatMap afterReturn = line := by
  induction line with
  | nil => rfl
  | cons c line ih =>
      obtain ⟨other, single⟩ : '\n' ≠ c ∧ '\n' ∉ line := by simpa using single
      rw [List.flatMap_cons, ih single, afterReturn, if_neg (Ne.symm other)]
      rfl

/-- Carriage returns before the newlines are blanks after the lines, and they make no new line. -/
theorem reindented_returns (cs : List Char) :
    Reindented cs (cs.flatMap afterReturn) ∧
      (lines (cs.flatMap afterReturn)).length = (lines cs).length := by
  by_cases newline : '\n' ∈ cs
  · -- The text is cut at its first newline; what comes after is shorter.
    obtain ⟨line, rest, whole, single⟩ := List.eq_append_cons_of_mem newline
    have shorter : rest.length < cs.length := by
      rw [whole, List.length_append, List.length_cons]
      omega
    obtain ⟨below, count⟩ := reindented_returns rest
    have cut : cs.flatMap afterReturn = line ++ ['\r'] ++ ['\n'] ++ rest.flatMap afterReturn := by
      rw [whole, List.flatMap_append, flatMap_of_single single, List.flatMap_cons]
      simp [afterReturn]
    obtain ⟨kept, first, -⟩ := exists_lines_line rest single
    have first' := lines_line_return (rest.flatMap afterReturn) single
    have indented : Indented line ([] ++ line ++ ['\r']) := .around line rfl
    rw [cut]
    refine ⟨?_, ?_⟩
    · rw [whole, List.append_cons]
      exact .line single indented (by decide) below
    · rw [whole, first, List.append_assoc _ ['\r'], List.append_assoc]
      exact (congrArg List.length first').trans (congrArg (· + 1) count)
  · rw [flatMap_of_single newline]
    exact ⟨.last newline (.refl cs), rfl⟩
termination_by cs.length

/-! ## The result -/

/-- Blanks before and after the lines of a script do not matter. If they make no new line at its
end, the script is read the same, with the same line numbers, is converted into the same Makefile
with the same warnings, and has the same run from every session on every host: the same summary,
session, events and state of the host. Such blanks are the carriage returns of a text that ends its
lines with both characters, and these never make a new line. -/
theorem parse_reindented :
    (∀ source other : String, Reindented source.toList other.toList →
        (lines other.toList).length = (lines source.toList).length →
          parse other = parse source ∧ Make.convert other = Make.convert source ∧
            ∀ (σ : Type) (host : Host σ) (s : Session) (w : σ),
              (s.runSource other).run host w = (s.runSource source).run host w) ∧
      ∀ source : String, Reindented source.toList (withReturns source).toList ∧
        (lines (withReturns source).toList).length = (lines source.toList).length := by
  refine ⟨fun source other reindented count => ?_, fun source => ?_⟩
  · have same : parse other = parse source := numbered_congr (map_ofChars_lines reindented count) 1
    refine ⟨same, ?_, fun σ host s w => ?_⟩
    · simp only [Make.convert, Make.convertInto, same]
    · simp only [Session.runSource, same]
  · rw [withReturns, String.toList_ofList]
    exact reindented_returns source.toList

/-- A script with a tab and an ideographic space before its lines, with both kinds of line ends, and
with a carriage return where no line end follows. -/
theorem parse_reindented_tabs :
    let source := "release:\nprintfn(\" a \")\r\nexit(3)"
    let other := "\t release: \r\n\u3000printfn(\" a \") \r\n  exit(3)\r"
    (lines other.toList).length = (lines source.toList).length ∧
      parse other = [(1, .label "release"), (2, .call ⟨"printfn", [" a "]⟩),
        (3, .call ⟨"exit", ["3"]⟩)] ∧
      parse (withReturns other) = parse source := by
  intro source other
  have count : (lines other.toList).length = (lines source.toList).length := by decide +kernel
  let first := ['r', 'e', 'l', 'e', 'a', 's', 'e', ':']
  let second := ['p', 'r', 'i', 'n', 't', 'f', 'n', '(', '"', ' ', 'a', ' ', '"', ')']
  let third := ['e', 'x', 'i', 't', '(', '3', ')']
  have lasting : Reindented third ([' ', ' '] ++ third ++ ['\r']) :=
    .last (by decide) (.around third rfl)
  have reindented : Reindented (first ++ ['\n'] ++ (second ++ ['\r', '\n'] ++ third))
      (['\t', ' '] ++ first ++ [' ', '\r'] ++ ['\n'] ++
        (['\u3000'] ++ second ++ [' '] ++ ['\r', '\n'] ++ ([' ', ' '] ++ third ++ ['\r']))) :=
    .line (by decide) (.around first rfl) (by decide)
      (.line (by decide) (.around second rfl) (by decide) lasting)
  have spelled : source.toList = first ++ ['\n'] ++ (second ++ ['\r', '\n'] ++ third) := by
    decide +kernel
  have spelled' : other.toList = ['\t', ' '] ++ first ++ [' ', '\r'] ++ ['\n'] ++
      (['\u3000'] ++ second ++ [' '] ++ ['\r', '\n'] ++ ([' ', ' '] ++ third ++ ['\r'])) := by
    decide +kernel
  rw [← spelled, ← spelled'] at reindented
  obtain ⟨same, returns⟩ := parse_reindented
  obtain ⟨read, -, -⟩ := same source other reindented count
  obtain ⟨again, -, -⟩ := same other _ (returns other).1 (returns other).2
  exact ⟨count, read.trans (by decide +kernel), again.trans read⟩

end BuildScript.Script
