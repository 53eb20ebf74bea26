import BuildScript.Text.Blank
import Mathlib.Data.List.DropRight

/-!
# What trimming leaves

A text starts clean when its first character, if it has one, is not blank, and ends clean likewise.
These are the texts that trimming leaves alone (`stripStart_eq_self_iff`, `stripEnd_eq_self_iff`),
and trimming only makes such texts.
-/

namespace BuildScript.Text

/-- No blank stands first. -/
def StartsClean (cs : List Char) : Prop := ∀ c ∈ cs.head?, isBlank c = false

/-- No blank stands last. -/
def EndsClean (cs : List Char) : Prop := ∀ c ∈ cs.getLast?, isBlank c = false

theorem startsClean_cons {c : Char} (cs : List Char) (solid : isBlank c = false) :
    StartsClean (c :: cs) := by
  intro first member
  obtain rfl : c = first := by simpa using member
  exact solid

theorem endsClean_concat {c : Char} (cs : List Char) (solid : isBlank c = false) :
    EndsClean (cs ++ [c]) := by
  intro last member
  obtain rfl : c = last := by simpa using member
  exact solid

/-- A class of characters that holds all of the first part and not the first of the second. -/
theorem takeWhile_append_of_stop {p : Char → Bool} {front rest : List Char}
    (all : ∀ c ∈ front, p c = true) (stops : ∀ c ∈ rest.head?, p c = false) :
    (front ++ rest).takeWhile p = front ∧ (front ++ rest).dropWhile p = rest := by
  have none : rest.takeWhile p = [] ∧ rest.dropWhile p = rest := by
    cases rest with
    | nil => exact ⟨rfl, rfl⟩
    | cons c rest => simp [stops c rfl]
  rw [List.takeWhile_append_of_pos all, List.dropWhile_append_of_pos all, none.1, none.2,
    List.append_nil]
  exact ⟨rfl, rfl⟩

/-- A start of a text starts as the text does. -/
theorem StartsClean.ofPrefix {start cs : List Char} (clean : StartsClean cs) (within : start <+: cs) :
    StartsClean start := by
  obtain ⟨rest, rfl⟩ := within
  cases start with
  | nil => intro c member; simp at member
  | cons first start => exact clean

theorem stripStart_eq_self_iff (cs : List Char) : stripStart cs = cs ↔ StartsClean cs := by
  cases cs with
  | nil => simp [stripStart, StartsClean]
  | cons c cs =>
      rw [stripStart, List.dropWhile_eq_self_iff]
      simp [StartsClean]

theorem stripEnd_eq_self_iff (cs : List Char) : stripEnd cs = cs ↔ EndsClean cs := by
  rw [show stripEnd cs = cs.rdropWhile isBlank from rfl, List.rdropWhile_eq_self_iff]
  constructor
  · intro clean c member
    obtain ⟨nonempty, rfl⟩ := List.mem_getLast?_eq_getLast member
    simpa using clean nonempty
  · intro clean nonempty
    simpa using clean _ (List.getLast?_eq_some_getLast nonempty)

theorem startsClean_stripStart (cs : List Char) : StartsClean (stripStart cs) := by
  rw [← stripStart_eq_self_iff]
  exact List.dropWhile_idempotent isBlank cs

theorem stripEnd_isPrefix (cs : List Char) : stripEnd cs <+: cs := List.rdropWhile_prefix isBlank cs

theorem trimmedEnd_ofList (cs : List Char) :
    trimmedEnd (String.ofList cs) = String.ofList (stripEnd cs) := by
  rw [trimmedEnd, String.toList_ofList]

theorem endsClean_stripEnd (cs : List Char) : EndsClean (stripEnd cs) := by
  rw [← stripEnd_eq_self_iff]
  exact List.rdropWhile_idempotent isBlank cs

/-- The blanks at the end go, and nothing else. -/
theorem stripEnd_append_of_blank {cs blanks : List Char} (ends : EndsClean cs)
    (blank : ∀ c ∈ blanks, isBlank c = true) : stripEnd (cs ++ blanks) = cs := by
  have front : ∀ c ∈ blanks.reverse, isBlank c = true := by simpa using blank
  have back : ∀ c ∈ cs.reverse.head?, isBlank c = false := by
    rw [List.head?_reverse]
    exact ends
  rw [stripEnd, List.reverse_append, (takeWhile_append_of_stop front back).2, List.reverse_reverse]

/-- A text is what trimming its end leaves, and then blanks. -/
theorem exists_blanks (cs : List Char) :
    ∃ blanks, cs = stripEnd cs ++ blanks ∧ ∀ c ∈ blanks, isBlank c = true :=
  ⟨cs.rtakeWhile isBlank, List.rdropWhile_append_rtakeWhile.symm,
    fun _ member => List.mem_rtakeWhile_imp member⟩

theorem startsClean_strip (cs : List Char) : StartsClean (strip cs) :=
  (startsClean_stripStart cs).ofPrefix (stripEnd_isPrefix _)

/-- A text that starts with a solid character keeps it when its end is trimmed. -/
theorem stripEnd_ne_nil {cs : List Char} (starts : StartsClean cs) (nonempty : cs ≠ []) :
    stripEnd cs ≠ [] := by
  intro empty
  obtain ⟨c, rest, rfl⟩ := List.exists_cons_of_ne_nil nonempty
  have all := List.rdropWhile_eq_nil_iff.mp empty c List.mem_cons_self
  rw [starts c rfl] at all
  exact Bool.false_ne_true all

theorem strip_eq_stripEnd {cs : List Char} (starts : StartsClean cs) : strip cs = stripEnd cs := by
  rw [strip, (stripStart_eq_self_iff cs).mpr starts]

theorem strip_eq_self {cs : List Char} (starts : StartsClean cs) (ends : EndsClean cs) :
    strip cs = cs := by
  rw [strip_eq_stripEnd starts, (stripEnd_eq_self_iff cs).mpr ends]

/-- Blanks around a text mean nothing to trimming. -/
theorem strip_append_blanks {before cs after : List Char}
    (blank : ∀ c ∈ before ++ after, isBlank c = true) :
    strip (before ++ cs ++ after) = strip cs := by
  obtain ⟨front, back⟩ := List.forall_mem_append.mp blank
  have ends (text : List Char) : stripEnd (text ++ after) = stripEnd text := by
    rw [stripEnd, List.reverse_append, List.dropWhile_append_of_pos (by simpa using back)]
    rfl
  rw [List.append_assoc, strip, stripStart, List.dropWhile_append_of_pos front]
  cases content : cs.dropWhile isBlank with
  | nil =>
      have all : ∀ c ∈ cs ++ after, isBlank c = true :=
        List.forall_mem_append.mpr ⟨List.dropWhile_eq_nil_iff.mp content, back⟩
      rw [List.dropWhile_eq_nil_iff.mpr all, strip, stripStart, content]
  | cons c rest =>
      rw [List.dropWhile_append, content, List.isEmpty_cons, if_neg Bool.false_ne_true, ends,
        strip, stripStart, content]

theorem strip_cons_of_isBlank {c : Char} (cs : List Char) (blank : isBlank c = true) :
    strip (c :: cs) = strip cs := by
  simp [strip, stripStart, blank]

/-- A text that starts with a solid character keeps it. -/
theorem strip_ne_nil {c : Char} (cs : List Char) (solid : isBlank c = false) :
    strip (c :: cs) ≠ [] := by
  rw [strip_eq_stripEnd (startsClean_cons cs solid)]
  exact stripEnd_ne_nil (startsClean_cons cs solid) (List.cons_ne_nil c cs)

/-! ## Words -/

theorem forall_mem_consWord {P : Char → Prop} {c : Char} (first : P c) {ws : List (List Char)}
    (others : ∀ w ∈ ws, ∀ d ∈ w, P d) : ∀ w ∈ consWord c ws, ∀ d ∈ w, P d := by
  cases ws with
  | nil => simpa [consWord] using first
  | cons w ws =>
      obtain ⟨here, later⟩ := List.forall_mem_cons.mp others
      exact List.forall_mem_cons.mpr ⟨List.forall_mem_cons.mpr ⟨first, here⟩, later⟩

theorem not_isBlank_of_mem_cutAtBlanks (cs : List Char) :
    ∀ w ∈ cutAtBlanks cs, ∀ c ∈ w, isBlank c = false := by
  fun_induction cutAtBlanks cs with
  | case1 => simp
  | case2 c cs blank ih => exact List.forall_mem_cons.mpr ⟨nofun, ih⟩
  | case3 c cs solid ih => exact forall_mem_consWord (by simpa using solid) ih

/-- A word has no blank in it. -/
theorem not_isBlank_of_mem_words {s word : String} (member : word ∈ words s) :
    ∀ c ∈ word.toList, isBlank c = false := by
  obtain ⟨cs, cut, rfl⟩ := List.mem_map.mp member
  rw [String.toList_ofList]
  exact not_isBlank_of_mem_cutAtBlanks _ cs (List.mem_of_mem_filter cut)

end BuildScript.Text
