import BuildScript.Text.Lines
import Mathlib.Data.List.Basic

/-!
# Lines of joined texts

A text that is empty or ends with a newline has ended its last line, and what is put after it
begins a line of its own: the lines of the whole are the lines of both (`lines_append`). A single
line comes back as it was written if it holds no newline and does not end with a carriage return,
which would be read as part of the line end (`lines_line`).

For texts that are written and not read, carriage returns mean nothing: `endedLines` cuts them at
their newlines, and there are as many of these lines as newlines (`length_endedLines`).
-/

namespace BuildScript.Text

/-- The last line of the text, if there is one, has a line end. -/
def Ended (cs : List Char) : Prop := cs = [] ∨ cs.getLast? = some '\n'

theorem Ended.tail {c : Char} {cs : List Char} (ended : Ended (c :: cs)) : Ended cs := by
  cases cs with
  | nil => exact .inl rfl
  | cons d cs =>
      obtain empty | last := ended
      · cases empty
      · exact .inr (by simpa using last)

/-- A line that is not ended yet goes on. -/
theorem Ended.ne_nil {c : Char} {cs : List Char} (ended : Ended (c :: cs)) (other : c ≠ '\n') :
    cs ≠ [] := by
  rintro rfl
  obtain empty | last := ended
  · cases empty
  · exact other (by simpa using last)

theorem consLine_append (c : Char) {first : List (List Char)} (rest : List (List Char))
    (some : first ≠ []) : consLine c (first ++ rest) = consLine c first ++ rest := by
  cases first with
  | nil => exact absurd rfl some
  | cons line first => rfl

theorem lines_ne_nil {cs : List Char} (some : cs ≠ []) : lines cs ≠ [] := by
  fun_cases lines cs with
  | case1 => exact absurd rfl some
  | case2 => simp
  | case3 => simp
  | case4 c rest => cases lines rest <;> simp [consLine]

theorem lines_append {first : List Char} (rest : List Char) (ended : Ended first) :
    lines (first ++ rest) = lines first ++ lines rest := by
  fun_induction lines first with
  | case1 => rfl
  | case2 first ih =>
      rw [List.cons_append, List.cons_append, lines, ih ended.tail.tail]
      rfl
  | case3 first ih =>
      rw [List.cons_append, lines, ih ended.tail]
      rfl
  | case4 c first noReturn other ih =>
      -- A return at the end of `first` would join a newline at the start of `rest`, but a text
      -- that has ended its last line does not end with a return.
      have more : first ≠ [] := ended.ne_nil other
      have noReturn' : ∀ tail, c = '\r' → first ++ rest = '\n' :: tail → False := by
        intro tail isReturn whole
        obtain ⟨d, cs, rfl⟩ := List.exists_cons_of_ne_nil more
        obtain ⟨rfl, _⟩ := List.cons.inj whole
        exact noReturn cs isReturn rfl
      rw [List.cons_append, lines.eq_4 c _ noReturn' other, ih ended.tail,
        consLine_append c _ (lines_ne_nil more)]

theorem lines_line {line : List Char} (rest : List Char) (single : '\n' ∉ line)
    (noReturn : line.getLast? ≠ some '\r') :
    lines (line ++ '\n' :: rest) = line :: lines rest := by
  induction line with
  | nil => rfl
  | cons c line ih =>
      obtain ⟨other, single⟩ : '\n' ≠ c ∧ '\n' ∉ line := by simpa using single
      have noReturn' : ∀ tail, c = '\r' → line ++ '\n' :: rest = '\n' :: tail → False := by
        intro tail isReturn whole
        cases line with
        | nil => exact noReturn (by rw [isReturn]; rfl)
        | cons d line =>
            obtain ⟨rfl, _⟩ := List.cons.inj whole
            exact single List.mem_cons_self
      have noReturnAfter : line.getLast? ≠ some '\r' := by
        cases line with
        | nil => simp
        | cons d line => simpa using noReturn
      rw [List.cons_append, lines.eq_4 c _ noReturn' (Ne.symm other), ih single noReturnAfter]
      rfl

/-- A single line before a carriage return and a newline, which both belong to the line end. -/
theorem lines_line_return {line : List Char} (rest : List Char) (single : '\n' ∉ line) :
    lines (line ++ '\r' :: '\n' :: rest) = line :: lines rest := by
  induction line with
  | nil => rfl
  | cons c line ih =>
      obtain ⟨other, single⟩ : '\n' ≠ c ∧ '\n' ∉ line := by simpa using single
      have noReturn : ∀ tail, c = '\r' → line ++ '\r' :: '\n' :: rest = '\n' :: tail → False := by
        intro tail _ whole
        cases line with
        | nil => simp at whole
        | cons d line =>
            obtain ⟨rfl, _⟩ := List.cons.inj whole
            exact single List.mem_cons_self
      rw [List.cons_append, lines.eq_4 c _ noReturn (Ne.symm other), ih single]
      rfl

/-- The first line of a text that has a newline: a carriage return that ends it goes. -/
theorem exists_lines_line {line : List Char} (rest : List Char) (single : '\n' ∉ line) :
    ∃ kept, lines (line ++ '\n' :: rest) = kept :: lines rest ∧
      (line = kept ∨ line = kept ++ ['\r']) := by
  by_cases ending : line.getLast? = some '\r'
  · obtain ⟨kept, rfl⟩ := List.getLast?_eq_some_iff.mp ending
    have single' : '\n' ∉ kept := fun member => single (List.mem_append_left _ member)
    exact ⟨kept, by rw [← List.append_cons, lines_line_return rest single'], .inr rfl⟩
  · exact ⟨line, lines_line rest single ending, .inl rfl⟩

/-- A text without a newline is one line. -/
theorem lines_of_not_mem {line : List Char} (single : '\n' ∉ line) (some : line ≠ []) :
    lines line = [line] := by
  induction line with
  | nil => exact absurd rfl some
  | cons c line ih =>
      obtain ⟨other, single⟩ : '\n' ≠ c ∧ '\n' ∉ line := by simpa using single
      have noReturn : ∀ tail, c = '\r' → line = '\n' :: tail → False := by
        rintro tail - rfl
        exact single List.mem_cons_self
      rw [lines.eq_4 c _ noReturn (Ne.symm other)]
      cases line with
      | nil => rfl
      | cons d line =>
          rw [ih single (List.cons_ne_nil d line)]
          rfl

theorem newline_not_mem_of_mem_lines {cs line : List Char} (member : line ∈ lines cs) :
    '\n' ∉ line := by
  fun_induction lines cs generalizing line with
  | case1 => simp at member
  | case2 rest ih =>
      obtain rfl | later := List.mem_cons.mp member
      · simp
      · exact ih later
  | case3 rest ih =>
      obtain rfl | later := List.mem_cons.mp member
      · simp
      · exact ih later
  | case4 c rest _ other ih =>
      have other : '\n' ≠ c := fun same => other same.symm
      generalize lines rest = below at member ih
      cases below with
      | nil =>
          obtain rfl : line = [c] := by simpa [consLine] using member
          simpa using other
      | cons first below =>
          obtain rfl | later := List.mem_cons.mp member
          · simp [other, ih List.mem_cons_self]
          · exact ih (List.mem_cons_of_mem _ later)

/-! ## Lines that are ended -/

/-- The lines of a text that a newline ends, without it. -/
def endedLines (cs : List Char) : List (List Char) := (cs.splitOn '\n').dropLast

theorem endedLines_append_newline (first rest : List Char) :
    endedLines (first ++ '\n' :: rest) = first.splitOn '\n' ++ endedLines rest := by
  rw [endedLines, List.splitOn_append_cons_self,
    List.dropLast_append_of_ne_nil (List.splitOn_ne_nil _ rest)]
  rfl

theorem endedLines_line {line : List Char} (rest : List Char) (single : '\n' ∉ line) :
    endedLines (line ++ '\n' :: rest) = line :: endedLines rest := by
  rw [endedLines_append_newline, List.splitOn_eq_singleton single]
  rfl

theorem endedLines_append {first : List Char} (rest : List Char) (ended : Ended first) :
    endedLines (first ++ rest) = endedLines first ++ endedLines rest := by
  obtain rfl | last := ended
  · rfl
  · obtain ⟨before, rfl⟩ := List.getLast?_eq_some_iff.mp last
    have nothing : endedLines [] = [] := rfl
    rw [List.append_assoc, List.singleton_append, endedLines_append_newline,
      endedLines_append_newline, nothing, List.append_nil]

theorem length_endedLines (cs : List Char) : (endedLines cs).length = cs.count '\n' := by
  have pieces : (cs.splitOn '\n').length = cs.count '\n' + 1 := by
    induction cs with
    | nil => rfl
    | cons c cs ih =>
        rw [List.splitOn_cons_eq_if_modifyHead, List.count_cons]
        split
        · rw [List.length_cons, ih]
        · rw [List.length_modifyHead, ih]
  rw [endedLines, List.length_dropLast, pieces, Nat.add_sub_cancel]

end BuildScript.Text
