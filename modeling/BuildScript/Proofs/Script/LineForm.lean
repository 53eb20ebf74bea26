import BuildScript.Proofs.Text.Trimming
import BuildScript.Script.Line
import Mathlib.Data.List.TakeDrop

/-!
# The form of a line

When a line is read as a label or as a call, this is how its text is made up. The text is trimmed
first; a call is cut at its first opening parenthesis and at the last closing one after it, and a
label ends with a colon and has no opening parenthesis at all.

* `cutFirst_eq_some_iff`, `beforeLast_eq_some_iff`: what the two cuts find;
* `ofChars_eq_call_iff`, `ofChars_eq_label_iff`: when a line is a call, and when a label.
-/

namespace BuildScript.Script

open Text

/-! ## Cuts -/

theorem cutFirst_append {mark : Char} {before : List Char} (after : List Char)
    (first : mark ∉ before) : cutFirst mark (before ++ mark :: after) = some (before, after) := by
  have span : (before ++ mark :: after).span (· != mark) = (before, mark :: after) := by
    have others : ∀ c ∈ before, (c != mark) = true := by
      intro c member
      simpa using fun equal : c = mark => first (equal ▸ member)
    rw [List.span_eq_takeWhile_dropWhile, List.takeWhile_append_of_pos others,
      List.dropWhile_append_of_pos others]
    simp
  rw [cutFirst, span]

theorem cutFirst_of_not_mem {mark : Char} {cs : List Char} (absent : mark ∉ cs) :
    cutFirst mark cs = none := by
  have span : cs.span (· != mark) = (cs, []) := by
    have others : ∀ c ∈ cs, (c != mark) = true := by
      intro c member
      simpa using fun equal : c = mark => absent (equal ▸ member)
    rw [List.span_eq_takeWhile_dropWhile, List.takeWhile_eq_self_iff.mpr others,
      List.dropWhile_eq_nil_iff.mpr others]
  rw [cutFirst, span]

theorem cutFirst_eq_some_iff {mark : Char} {cs before after : List Char} :
    cutFirst mark cs = some (before, after) ↔ cs = before ++ mark :: after ∧ mark ∉ before := by
  constructor
  · intro cut
    by_cases member : mark ∈ cs
    · obtain ⟨start, rest, rfl, first⟩ := List.eq_append_cons_of_mem member
      rw [cutFirst_append rest first] at cut
      cases cut
      exact ⟨rfl, first⟩
    · rw [cutFirst_of_not_mem member] at cut
      cases cut
  · rintro ⟨rfl, first⟩
    exact cutFirst_append after first

theorem beforeLast_eq_some_iff {mark : Char} {cs before : List Char} :
    beforeLast mark cs = some before ↔ ∃ after, cs = before ++ mark :: after ∧ mark ∉ after := by
  -- The last mark is the first one when the text is read backwards.
  rw [beforeLast, Option.map_eq_some_iff]
  constructor
  · rintro ⟨⟨after, start⟩, cut, rfl⟩
    obtain ⟨whole, last⟩ := cutFirst_eq_some_iff.mp cut
    refine ⟨after.reverse, ?_, by simpa using last⟩
    rw [← List.reverse_reverse cs, whole]
    simp
  · rintro ⟨after, rfl, last⟩
    refine ⟨(after.reverse, before.reverse), ?_, by simp⟩
    rw [cutFirst_eq_some_iff]
    exact ⟨by simp, by simpa using last⟩

theorem cutFirst_eq_none_iff {mark : Char} {cs : List Char} :
    cutFirst mark cs = none ↔ mark ∉ cs := by
  refine ⟨fun none member => ?_, cutFirst_of_not_mem⟩
  obtain ⟨before, after, rfl, first⟩ := List.eq_append_cons_of_mem member
  rw [cutFirst_append after first] at none
  cases none

theorem beforeLast_eq_none_iff {mark : Char} {cs : List Char} :
    beforeLast mark cs = none ↔ mark ∉ cs := by
  rw [beforeLast, Option.map_eq_none_iff, cutFirst_eq_none_iff, List.mem_reverse]

/-! ## Labels and calls -/

theorem readLabel_eq_label_iff {line : List Char} {name : String} :
    readLabel line = .label name ↔
      ∃ before, line = before ++ [':'] ∧ stripEnd before = name.toList ∧ name ≠ "" := by
  constructor
  · intro read
    unfold readLabel at read
    split at read
    · rename_i before reversed
      dsimp only at read
      split at read
      · cases read
      · rename_i nonempty
        cases read
        refine ⟨before.reverse, ?_, by rw [String.toList_ofList], ?_⟩
        · rw [← List.reverse_reverse line, reversed, List.reverse_cons]
        · simpa using nonempty
    · cases read
  · rintro ⟨before, rfl, text, nonempty⟩
    have solid : name.toList.isEmpty = false := by simpa using nonempty
    simp [readLabel, text, solid]

theorem readCall_eq_call_iff {before after : List Char} {call : Call} :
    readCall before after = .call call ↔
      ∃ raw tail, after = raw ++ ')' :: tail ∧ ')' ∉ tail ∧
        stripEnd before = call.name.toList ∧ call.name ≠ "" ∧ arguments raw = call.args := by
  constructor
  · intro read
    unfold readCall at read
    dsimp only at read
    split at read
    · cases read
    · rename_i nonempty
      split at read
      · cases read
      · rename_i raw cut
        obtain ⟨tail, rfl, last⟩ := beforeLast_eq_some_iff.mp cut
        cases read
        exact ⟨raw, tail, rfl, last, by rw [String.toList_ofList], by simpa using nonempty, rfl⟩
  · rintro ⟨raw, tail, rfl, last, text, nonempty, args⟩
    have solid : call.name.toList.isEmpty = false := by simpa using nonempty
    have cut : beforeLast ')' (raw ++ ')' :: tail) = some raw :=
      beforeLast_eq_some_iff.mpr ⟨tail, rfl, last⟩
    simp [readCall, text, nonempty, cut, args]

/-- A line without an opening parenthesis that is neither blank nor a comment. -/
theorem ofChars_of_not_mem {line : List Char} (content : strip line ≠ [])
    (noHash : (strip line).head? ≠ some '#') (noParen : '(' ∉ strip line) :
    Line.ofChars line = readLabel (strip line) := by
  simp [Line.ofChars, content, noHash, cutFirst_of_not_mem noParen]

/-- A line with an opening parenthesis that is not a comment. -/
theorem ofChars_of_append {line before after : List Char}
    (noHash : (strip line).head? ≠ some '#') (whole : strip line = before ++ '(' :: after)
    (first : '(' ∉ before) : Line.ofChars line = readCall before after := by
  have content : strip line ≠ [] := by simp [whole]
  simp [Line.ofChars, content, noHash, cutFirst_eq_some_iff.mpr ⟨whole, first⟩]

theorem readLabel_ne_call (line : List Char) (call : Call) : readLabel line ≠ .call call := by
  unfold readLabel
  split
  · dsimp only
    split <;> simp
  · simp

theorem readCall_ne_label (before after : List Char) (name : String) :
    readCall before after ≠ .label name := by
  unfold readCall
  dsimp only
  split
  · simp
  · split <;> simp

theorem ofChars_eq_label_iff {line : List Char} {name : String} :
    Line.ofChars line = .label name ↔
      '(' ∉ strip line ∧ (strip line).head? ≠ some '#' ∧
        ∃ before, strip line = before ++ [':'] ∧ stripEnd before = name.toList ∧ name ≠ "" := by
  by_cases content : strip line = []
  · simp [Line.ofChars, content]
  by_cases hash : (strip line).head? = some '#'
  · simp [Line.ofChars, content, hash]
  by_cases paren : '(' ∈ strip line
  · obtain ⟨before, after, whole, first⟩ := List.eq_append_cons_of_mem paren
    rw [ofChars_of_append hash whole first]
    exact iff_of_false (readCall_ne_label before after name) fun form => form.1 paren
  · rw [ofChars_of_not_mem content hash paren, readLabel_eq_label_iff]
    exact ⟨fun form => ⟨paren, hash, form⟩, fun form => form.2.2⟩

theorem ofChars_eq_call_iff {line : List Char} {call : Call} :
    Line.ofChars line = .call call ↔
      (strip line).head? ≠ some '#' ∧ ∃ before raw tail,
        strip line = before ++ '(' :: (raw ++ ')' :: tail) ∧ '(' ∉ before ∧ ')' ∉ tail ∧
          stripEnd before = call.name.toList ∧ call.name ≠ "" ∧ arguments raw = call.args := by
  constructor
  · intro read
    have content : strip line ≠ [] := fun empty => by simp [Line.ofChars, empty] at read
    have hash : (strip line).head? ≠ some '#' := fun hash => by
      simp [Line.ofChars, content, hash] at read
    by_cases paren : '(' ∈ strip line
    · obtain ⟨before, after, whole, first⟩ := List.eq_append_cons_of_mem paren
      rw [ofChars_of_append hash whole first, readCall_eq_call_iff] at read
      obtain ⟨raw, tail, rfl, last, form⟩ := read
      exact ⟨hash, before, raw, tail, whole, first, last, form⟩
    · rw [ofChars_of_not_mem content hash paren] at read
      exact absurd read (readLabel_ne_call _ call)
  · rintro ⟨hash, before, raw, tail, whole, first, last, form⟩
    rw [ofChars_of_append hash whole first, readCall_eq_call_iff]
    exact ⟨raw, tail, rfl, last, form⟩

end BuildScript.Script
