import BuildScript.Proofs.Make.Emission

/-!
# Makefiles of bounded size

A text of bounded size that a Makefile is written into holds, at every moment, as much as fits of what
an unbounded text would hold (`Fills`). This one fact is kept by every piece that is written
(`put_fills`), hence by every line (`emit_fills`) and by all lines (`emitEach_fills`), although a rule
is written in several pieces and may be cut off inside any of them.

What follows from it: a line is refused exactly if it emits a rule and the text is full afterwards
(`emitEach_answer`), and a full text does not change any more (`emitEach_full`).
-/

namespace BuildScript.Make

open Script

/-! ## What fits -/

/-- The longest start of a text that takes at most `room` bytes. -/
structure LongestFit (room : Nat) (text taken : String) : Prop where
  start : taken.toList <+: text.toList
  fits : taken.utf8ByteSize ≤ room
  longest : ∀ other : String, other.toList <+: text.toList → other.utf8ByteSize ≤ room →
    other.toList <+: taken.toList

theorem size_cons (c : Char) (cs : List Char) :
    (String.ofList (c :: cs)).utf8ByteSize = c.utf8Size + (String.ofList cs).utf8ByteSize := by
  rw [String.ofList_cons, String.utf8ByteSize_append, String.utf8ByteSize_singleton]

/-- A text that fits is taken whole, and the rest of the room is for what follows. -/
theorem fitting_append_of_le {room : Nat} {cs : List Char} (rest : List Char)
    (fits : (String.ofList cs).utf8ByteSize ≤ room) :
    fitting room (cs ++ rest) =
      (cs ++ (fitting (room - (String.ofList cs).utf8ByteSize) rest).1,
        (fitting (room - (String.ofList cs).utf8ByteSize) rest).2) := by
  induction cs generalizing room with
  | nil => rfl
  | cons c cs ih =>
      rw [size_cons] at fits ⊢
      rw [List.cons_append, fitting, if_pos (by omega), ih (by omega), Nat.sub_add_eq]
      rfl

/-- Of a text that does not fit nothing depends on what follows. -/
theorem fitting_append_of_lt {room : Nat} {cs : List Char} (rest : List Char)
    (wide : room < (String.ofList cs).utf8ByteSize) :
    fitting room (cs ++ rest) = ((fitting room cs).1, false) ∧ (fitting room cs).2 = false := by
  induction cs generalizing room with
  | nil => simp at wide
  | cons c cs ih =>
      rw [size_cons] at wide
      rw [List.cons_append, fitting, fitting]
      by_cases first : c.utf8Size ≤ room
      · obtain ⟨whole, refused⟩ := @ih (room - c.utf8Size) (by omega)
        rw [if_pos first, if_pos first, whole]
        exact ⟨rfl, refused⟩
      · rw [if_neg first, if_neg first]
        exact ⟨rfl, rfl⟩

theorem fitting_of_le {room : Nat} {cs : List Char}
    (fits : (String.ofList cs).utf8ByteSize ≤ room) : fitting room cs = (cs, true) := by
  have whole := fitting_append_of_le [] fits
  simpa [fitting] using whole

theorem fitting_whole_iff (room : Nat) (cs : List Char) :
    (fitting room cs).2 = true ↔ (String.ofList cs).utf8ByteSize ≤ room := by
  constructor
  · intro whole
    by_contra wide
    rw [(fitting_append_of_lt [] (Nat.lt_of_not_le wide)).2] at whole
    cases whole
  · intro fits
    rw [fitting_of_le fits]

theorem fitting_isPrefix (room : Nat) (cs : List Char) : (fitting room cs).1 <+: cs := by
  induction cs generalizing room with
  | nil => exact List.prefix_rfl
  | cons c cs ih =>
      rw [fitting]
      split
      · exact List.cons_prefix_cons.mpr ⟨rfl, ih _⟩
      · exact List.nil_prefix

theorem size_fitting_le (room : Nat) (cs : List Char) :
    (String.ofList (fitting room cs).1).utf8ByteSize ≤ room := by
  induction cs generalizing room with
  | nil => exact Nat.zero_le room
  | cons c cs ih =>
      rw [fitting]
      split
      · have below := ih (room - c.utf8Size)
        simp only [size_cons]
        omega
      · exact Nat.zero_le room

theorem isPrefix_fitting {room : Nat} {cs other : List Char} (start : other <+: cs)
    (fits : (String.ofList other).utf8ByteSize ≤ room) : other <+: (fitting room cs).1 := by
  obtain ⟨rest, rfl⟩ := start
  rw [fitting_append_of_le rest fits]
  exact ⟨_, rfl⟩

theorem longestFit_fitting (room : Nat) (text : String) :
    LongestFit room text (String.ofList (fitting room text.toList).1) where
  start := by
    rw [String.toList_ofList]
    exact fitting_isPrefix room text.toList
  fits := size_fitting_le room text.toList
  longest other start fits := by
    rw [String.toList_ofList]
    exact isPrefix_fitting start (by rwa [String.ofList_toList])

/-! ## Pieces -/

/-- The bounded text holds what fits of a text, and it is full if this is not all of it. -/
structure Fills (capacity : Nat) (text : String) (out : Bounded) : Prop where
  bound : out.capacity = capacity
  holds : fitting capacity text.toList = (out.text.toList, !out.full)

section

variable {capacity : Nat} {text : String} {out : Bounded}

theorem Fills.longestFit (fills : Fills capacity text out) :
    LongestFit capacity text out.text := by
  have fit := longestFit_fitting capacity text
  rwa [fills.holds, String.ofList_toList] at fit

theorem Fills.full_iff (fills : Fills capacity text out) :
    out.full = true ↔ capacity < text.utf8ByteSize := by
  have whole := fitting_whole_iff capacity text.toList
  rw [fills.holds, String.ofList_toList] at whole
  rw [← Nat.not_le, ← whole]
  simp

theorem Fills.size_le (fills : Fills capacity text out) (free : out.full = false) :
    (String.ofList text.toList).utf8ByteSize ≤ capacity := by
  rw [String.ofList_toList, ← Nat.not_lt, ← fills.full_iff, free]
  exact Bool.false_ne_true

/-- Until it is full, the bounded text holds everything. -/
theorem Fills.text_eq (fills : Fills capacity text out) (free : out.full = false) :
    out.text = text := by
  have holds := fills.holds
  rw [fitting_of_le (fills.size_le free)] at holds
  exact String.toList_injective (Prod.mk.inj holds).1.symm

/-- A full text holds what fits, whatever else there would be to hold. -/
theorem Fills.append_of_full (fills : Fills capacity text out) (full : out.full = true)
    (more : String) : Fills capacity (text ++ more) out where
  bound := fills.bound
  holds := by
    have wide : capacity < (String.ofList text.toList).utf8ByteSize := by
      rw [String.ofList_toList]
      exact fills.full_iff.mp full
    rw [String.toList_append, (fitting_append_of_lt more.toList wide).1, fills.holds, full]
    rfl

/-- What a bounded text holds is determined by the whole text. -/
theorem Fills.unique {out' : Bounded} (fills : Fills capacity text out)
    (fills' : Fills capacity text out') : out = out' := by
  have holds := fills.holds
  rw [fills'.holds] at holds
  obtain ⟨same, full⟩ := Prod.mk.inj holds
  obtain ⟨c, t, f⟩ := out
  obtain ⟨c', t', f'⟩ := out'
  obtain rfl : c = c' := fills.bound.trans fills'.bound.symm
  obtain rfl : t' = t := String.toList_injective same
  obtain rfl : f' = f := by simpa using full
  rfl

theorem put_fills (fills : Fills capacity text out) (piece : String) :
    Fills capacity (text ++ piece) (bounded.put piece out).2 := by
  show Fills capacity (text ++ piece) (Bounded.put piece out).2
  unfold Bounded.put
  split
  · rename_i empty
    obtain rfl : piece = "" := by simpa using empty
    simpa using fills
  · split
    · rename_i full
      exact fills.append_of_full full piece
    · rename_i notFull
      have free : out.full = false := by simpa using notFull
      refine ⟨fills.bound, ?_⟩
      rw [String.toList_append, fitting_append_of_le _ (fills.size_le free), String.ofList_toList,
        fills.bound, fills.text_eq free]
      simp

/-- A piece is refused exactly if it is not empty and the text is full with it. -/
theorem put_taken (piece : String) (out : Bounded) :
    (bounded.put piece out).1 = (decide (piece = "") || !(bounded.put piece out).2.full) := by
  show (Bounded.put piece out).1 = (decide (piece = "") || !(Bounded.put piece out).2.full)
  unfold Bounded.put
  split
  · rename_i empty
    simp [show piece = "" by simpa using empty]
  · rename_i solid
    have solid : piece ≠ "" := by simpa using solid
    split
    · rename_i full
      simp [solid, full]
    · simp [solid]

/-- Pieces that are cut off somewhere leave as much as if they had been one. -/
theorem putAll_fills (fills : Fills capacity text out) (pieces : List String) :
    Fills capacity (text ++ String.join pieces) (bounded.putAll pieces out).2 := by
  induction pieces generalizing text out with
  | nil => simpa [Sink.putAll] using fills
  | cons piece pieces ih =>
      have first := put_fills fills piece
      have taken := put_taken piece out
      rw [Sink.putAll, String.join_cons, ← String.append_assoc]
      generalize bounded.put piece out = step at first taken
      obtain ⟨_ | _, next⟩ := step
      · obtain ⟨-, full⟩ : piece ≠ "" ∧ next.full = true := by simpa using taken.symm
        exact first.append_of_full full _
      · exact ih first

theorem putAll_of_join_eq_empty {pieces : List String} (empty : String.join pieces = "")
    (out : Bounded) : bounded.putAll pieces out = (true, out) := by
  induction pieces with
  | nil => rfl
  | cons piece pieces ih =>
      rw [String.join_cons, String.append_eq_empty_iff] at empty
      obtain ⟨rfl, rest⟩ := empty
      exact ih rest

theorem putAll_taken (pieces : List String) (out : Bounded) :
    (bounded.putAll pieces out).1 =
      (decide (String.join pieces = "") || !(bounded.putAll pieces out).2.full) := by
  induction pieces generalizing out with
  | nil => rfl
  | cons piece pieces ih =>
      have taken := put_taken piece out
      rw [Sink.putAll, String.join_cons]
      generalize bounded.put piece out = step at taken
      obtain ⟨_ | _, next⟩ := step
      · obtain ⟨solid, full⟩ : piece ≠ "" ∧ next.full = true := by simpa using taken.symm
        simp [solid, full]
      · by_cases empty : String.join pieces = ""
        · simpa [putAll_of_join_eq_empty empty, empty] using taken
        · simpa [empty] using ih next

end

/-! ## Lines -/

theorem Rule.text_ne_empty (rule : Rule) : rule.text ≠ "" := by
  cases rule <;> simp [Rule.text, Rule.pieces]

/-- What becomes of the line that comes to a part, if the text is full or not afterwards. -/
def Part.answer (p : Part) (full : Bool) : Except ConversionError Unit :=
  if p.rule?.isSome && full then .error .refused else p.result

theorem Part.answer_cases (p : Part) (full : Bool) :
    p.answer full = .error .refused ∨ p.answer full = p.result := by
  rw [answer]
  split
  · exact .inl rfl
  · exact .inr rfl

theorem Part.answer_of_rule? {p : Part} (nothing : p.rule? = none) (full : Bool) :
    p.answer full = p.result := by
  simp [answer, nothing]

/-- Only a full text refuses a line. -/
theorem full_of_refused {above : List Line} {line : Line} {full : Bool}
    (refused : (part above line).answer full = .error .refused) : full = true := by
  cases full with
  | true => rfl
  | false =>
      have notRefused := error?_part_ne_refused above line
      simp only [Part.answer, Part.result, Bool.and_false, if_neg Bool.false_ne_true] at refused
      split at refused
      · rename_i error found
        cases refused
        exact absurd found notRefused
      · cases refused

section

variable {capacity : Nat} {text : String} {out : Bounded}

theorem emit_fills (fills : Fills capacity text out) (above : List Line) (line : Line) :
    ∃ out', Makefile.emit bounded line ⟨out, decide (cleanCall ∈ above)⟩ =
        ((part above line).answer out'.full, ⟨out', decide (cleanCall ∈ above ++ [line])⟩) ∧
      Fills capacity (text ++ rulesText [part above line]) out' := by
  rw [emit_eq]
  cases part above line with
  | nothing => exact ⟨out, rfl, by simpa using fills⟩
  | warns error => exact ⟨out, rfl, by simpa using fills⟩
  | adds rule =>
      have filled := putAll_fills fills rule.pieces
      have taken := putAll_taken rule.pieces out
      rw [show String.join rule.pieces = rule.text from rfl] at filled taken
      refine ⟨(bounded.putAll rule.pieces out).2, ?_, by rwa [rulesText_adds]⟩
      simp only [Makefile.write]
      generalize bounded.putAll rule.pieces out = step at taken
      obtain ⟨_ | _, next⟩ := step
      · obtain ⟨-, full⟩ : rule.text ≠ "" ∧ next.full = true := by simpa using taken.symm
        simp [Part.answer, Part.rule?, full]
      · have free : next.full = false := by simpa [rule.text_ne_empty] using taken
        simp [Part.answer, Part.rule?, Part.result, Part.error?, free]

end

/-- Takes lines one after another, whatever becomes of them: the results, and the Makefile in the
end. -/
def Makefile.emitEach {ω : Type} (sink : Sink ω) :
    Makefile ω → List Line → List (Except ConversionError Unit) × Makefile ω
  | m, [] => ([], m)
  | m, line :: rest =>
    let (result, m) := m.emit sink line
    let (results, m) := emitEach sink m rest
    (result :: results, m)

section

variable {ω : Type} (sink : Sink ω)

theorem length_emitEach (ls : List Line) (m : Makefile ω) :
    (m.emitEach sink ls).1.length = ls.length := by
  induction ls generalizing m with
  | nil => rfl
  | cons line ls ih => exact congrArg Nat.succ (ih _)

/-- The step of one line starts from what the lines above have come to. -/
theorem emitEach_getElem? {ls : List Line} {i : Nat} {line : Line} (here : ls[i]? = some line)
    (m : Makefile ω) :
    let step := (m.emitEach sink (ls.take i)).2.emit sink line
    (m.emitEach sink ls).1[i]? = some step.1 ∧ (m.emitEach sink (ls.take (i + 1))).2 = step.2 := by
  induction ls generalizing i m with
  | nil => cases here
  | cons first ls ih =>
      cases i with
      | zero =>
          obtain rfl : first = line := by simpa using here
          exact ⟨rfl, rfl⟩
      | succ i => exact ih (by simpa using here) (m.emit sink first).2

theorem emitEach_append (first rest : List Line) (m : Makefile ω) :
    m.emitEach sink (first ++ rest) =
      let before := m.emitEach sink first
      let after := before.2.emitEach sink rest
      (before.1 ++ after.1, after.2) := by
  induction first generalizing m with
  | nil => rfl
  | cons line first ih => simp [Makefile.emitEach, ih]

end

theorem emitEach_unlimited (above ls : List Line) (out : String) :
    Makefile.emitEach unlimited ⟨out, decide (cleanCall ∈ above)⟩ ls =
      ((partsBelow above ls).map Part.result,
        ⟨out ++ rulesText (partsBelow above ls), decide (cleanCall ∈ above ++ ls)⟩) := by
  induction ls generalizing above out with
  | nil => simp [Makefile.emitEach, partsBelow, rulesText]
  | cons line ls ih =>
      simp only [Makefile.emitEach, emit_unlimited, ih, partsBelow, List.map_cons]
      rw [rulesText_cons (part above line) (partsBelow (above ++ [line]) ls), String.append_assoc,
        List.append_assoc]
      rfl

section

variable {capacity : Nat} {text : String} {out : Bounded}

theorem emitEach_fills (fills : Fills capacity text out) (above ls : List Line) :
    ∃ out', (Makefile.emitEach bounded ⟨out, decide (cleanCall ∈ above)⟩ ls).2 =
        ⟨out', decide (cleanCall ∈ above ++ ls)⟩ ∧
      Fills capacity (text ++ rulesText (partsBelow above ls)) out' := by
  induction ls generalizing text out above with
  | nil => exact ⟨out, by simp [Makefile.emitEach], by simpa [partsBelow, rulesText] using fills⟩
  | cons line ls ih =>
      obtain ⟨next, step, filled⟩ := emit_fills fills above line
      obtain ⟨out', rest, filled'⟩ := ih filled (above ++ [line])
      refine ⟨out', ?_, ?_⟩
      · rw [Makefile.emitEach, step]
        simpa using rest
      · rwa [partsBelow, rulesText_cons, ← String.append_assoc]

/-- The result of a line depends on whether the text is full afterwards. -/
theorem emitEach_answer (fills : Fills capacity text out) (ls : List Line) (i : Nat) :
    (Makefile.emitEach bounded ⟨out, false⟩ ls).1[i]? = ls[i]?.map fun line =>
      (part (ls.take i) line).answer
        (Makefile.emitEach bounded ⟨out, false⟩ (ls.take (i + 1))).2.out.full := by
  cases here : ls[i]? with
  | none => simpa [length_emitEach] using here
  | some line =>
      obtain ⟨next, before, filled⟩ := emitEach_fills fills [] (ls.take i)
      obtain ⟨out', step, -⟩ := emit_fills filled (ls.take i) line
      obtain ⟨result, after⟩ := emitEach_getElem? bounded here ⟨out, false⟩
      rw [List.nil_append, show decide (cleanCall ∈ []) = false from rfl] at before
      rw [before, step] at result after
      rw [result, after]
      rfl

/-- A full text stays as it is. -/
theorem emitEach_full (fills : Fills capacity text out) (full : out.full = true)
    (above ls : List Line) :
    (Makefile.emitEach bounded ⟨out, decide (cleanCall ∈ above)⟩ ls).2.out = out := by
  obtain ⟨out', after, filled⟩ := emitEach_fills fills above ls
  rw [after]
  exact filled.unique (fills.append_of_full full _)

theorem emitEach_refused (fills : Fills capacity text out) {ls : List Line} {i k : Nat}
    (refused : (Makefile.emitEach bounded ⟨out, false⟩ ls).1[i]? = some (.error .refused))
    (before : i < k) :
    (Makefile.emitEach bounded ⟨out, false⟩ (ls.take k)).2.out =
      (Makefile.emitEach bounded ⟨out, false⟩ (ls.take (i + 1))).2.out := by
  rw [emitEach_answer fills, Option.map_eq_some_iff] at refused
  obtain ⟨line, -, answer⟩ := refused
  have full := full_of_refused answer
  have split : ls.take k = ls.take (i + 1) ++ (ls.take k).drop (i + 1) := by
    have parts := List.take_append_drop (i + 1) (ls.take k)
    rwa [List.take_take, Nat.min_eq_left before, eq_comm] at parts
  obtain ⟨out', after, filled⟩ := emitEach_fills fills [] (ls.take (i + 1))
  rw [show decide (cleanCall ∈ []) = false from rfl] at after
  rw [after] at full
  rw [split, emitEach_append]
  simp only [after]
  exact emitEach_full filled full _ _

end

/-! ## Whole Makefiles -/

theorem part_ne_adds {above : List Line} {line : Line}
    (other : ∀ rule, ¬ Counterpart line rule) : (part above line).rule? = none := by
  cases here : part above line with
  | adds rule => exact absurd ((yields_iff above line _).mpr here.symm).1 (other rule)
  | nothing => rfl
  | warns error => rfl

theorem start_fills (capacity : Nat) :
    ∃ out, Makefile.start bounded (.ofCapacity capacity) = (!out.full, ⟨out, false⟩) ∧
      Fills capacity preamble out := by
  have empty : Fills capacity "" (.ofCapacity capacity) := ⟨rfl, rfl⟩
  have taken := put_taken preamble (.ofCapacity capacity)
  have filled := put_fills empty preamble
  rw [String.empty_append] at filled
  refine ⟨_, ?_, filled⟩
  simp only [Makefile.start, taken]
  rfl

/-- A Makefile that is written into a text of bounded size is the start of the Makefile that there
would be without a bound, cut off after the last character that fits.

Beginning it fails exactly if the preamble does not fit, and then a part of the preamble is all there
is. Otherwise every line has a result. It is the result that the line would have without a bound, or
the line is refused, and this happens only to lines that have a rule as their counterpart: blank
lines, comments, labels, malformed lines and calls without a counterpart or with a wrong number of
arguments are never refused. Once a line was refused, no text is added any more. -/
theorem emitEach_bounded (capacity : Nat) (ls : List Line) :
    let begun := Makefile.start bounded (.ofCapacity capacity)
    let narrow := begun.2.emitEach bounded
    let wide := (Makefile.start unlimited "").2.emitEach unlimited ls
    (begun.1 = false ↔ capacity < preamble.utf8ByteSize) ∧
      (begun.1 = false → LongestFit capacity wide.2.out begun.2.out.text) ∧
      (begun.1 = true →
        LongestFit capacity wide.2.out (narrow ls).2.out.text ∧
          (narrow ls).1.length = ls.length ∧
          (∀ i : Nat, (narrow ls).1[i]? = some (Except.error .refused) ∨
            (narrow ls).1[i]? = wide.1[i]?) ∧
          (∀ (i : Nat) line, ls[i]? = some line → (∀ rule, ¬ Counterpart line rule) →
            (narrow ls).1[i]? = wide.1[i]?) ∧
          ∀ i k : Nat, (narrow ls).1[i]? = some (Except.error .refused) → i < k →
            (narrow (ls.take k)).2.out.text = (narrow (ls.take (i + 1))).2.out.text) := by
  intro begun narrow wide
  obtain ⟨out, start, fills⟩ := start_fills capacity
  obtain ⟨whole, wideText⟩ : wide.1 = (partsBelow [] ls).map Part.result ∧
      wide.2.out = preamble ++ rulesText (partsBelow [] ls) := by
    have run := emitEach_unlimited [] ls preamble
    simp only [wide, start_unlimited]
    rw [show decide (cleanCall ∈ []) = false from rfl] at run
    rw [run]
    exact ⟨rfl, rfl⟩
  have wideResult (i : Nat) : wide.1[i]? = ls[i]?.map fun line =>
      (part (ls.take i) line).result := by
    rw [whole, List.getElem?_map, partsBelow_getElem?, Option.map_map]
    rfl
  simp only [begun, narrow, start, wideText]
  refine ⟨?_, fun cut => ?_, fun goesOn => ⟨?_, length_emitEach bounded ls _, ?_, ?_, ?_⟩⟩
  · rw [← fills.full_iff]
    simp
  · exact (fills.append_of_full (by simpa using cut) _).longestFit
  · obtain ⟨out', after, filled⟩ := emitEach_fills fills [] ls
    rw [show decide (cleanCall ∈ []) = false from rfl] at after
    rw [after]
    exact filled.longestFit
  · intro i
    rw [wideResult, emitEach_answer fills]
    cases ls[i]? with
    | none => exact .inr rfl
    | some line => exact (Part.answer_cases _ _).imp (congrArg some) (congrArg some)
  · intro i line here other
    rw [wideResult, emitEach_answer fills, here, Option.map_some, Option.map_some,
      Part.answer_of_rule? (part_ne_adds other)]
  · intro i k refused before
    rw [emitEach_refused fills refused before]

/-- There is room for the preamble and five characters. The first rule is cut off, the call without
a counterpart is told from it, `clean()` is refused, and its repetition is passed over as it always
is. -/
theorem emitEach_bounded_flag :
    let capacity := preamble.utf8ByteSize + 5
    let halt : Line := .call ⟨"halt", []⟩
    let ls : List Line := [.call ⟨"add_flag", ["-g"]⟩, halt, cleanCall, cleanCall]
    let begun := Makefile.start bounded (.ofCapacity capacity)
    let narrow := begun.2.emitEach bounded ls
    let wide := (Makefile.start unlimited "").2.emitEach unlimited ls
    begun.1 = true ∧
      narrow.1 = [.error .refused, .error (.unsupported "halt"), .error .refused, .ok ()] ∧
      wide.1 = [.ok (), .error (.unsupported "halt"), .ok (), .ok ()] ∧
      narrow.2.out.text = preamble ++ "CFLAG" ∧
      LongestFit capacity wide.2.out (preamble ++ "CFLAG") ∧ narrow.1[1]? = wide.1[1]? := by
  intro capacity halt ls begun narrow wide
  have begins : begun.1 = true := by decide +kernel
  have results : narrow.1 =
      [.error .refused, .error (.unsupported "halt"), .error .refused, .ok ()] := by decide +kernel
  have wideResults : wide.1 = [.ok (), .error (.unsupported "halt"), .ok (), .ok ()] := by
    decide +kernel
  have text : narrow.2.out.text = preamble ++ "CFLAG" := by decide +kernel
  have here : ls[1]? = some halt := rfl
  have other : ∀ rule, ¬ Counterpart halt rule := by
    intro rule counterpart
    have made := (ofCall_eq_ok_iff _ rule).mpr counterpart
    cases made
  -- Nothing is computed any more.
  clear_value ls capacity
  obtain ⟨-, -, goesOn⟩ := emitEach_bounded capacity ls
  obtain ⟨longest, -, -, same, -⟩ := goesOn begins
  refine ⟨begins, results, wideResults, text, ?_, same 1 halt here other⟩
  rw [← text]
  exact longest

end BuildScript.Make
