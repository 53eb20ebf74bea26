import BuildScript.Proofs.Script.LineForm
import Mathlib.Logic.ExistsUnique

/-!
# The grammar of script lines

What a trimmed line means can be told by how it is made up: `Means` has one clause for each kind of
line and each error, and it names only parts of the text. A line is read as what it means
(`eq_of_means`), and every line means something (`exists_means`), so it is always exactly one of the
clauses that holds. The parts of a call and of a label are determined by the line
(`CallForm.unique`, `LabelForm.unique`).
-/

namespace BuildScript.Script

open Text

/-- The parts of a call: a name, blanks, the text between the first opening parenthesis and the last
closing one, and whatever follows. -/
structure CallForm (text name blanks raw tail : List Char) : Prop where
  whole : text = name ++ blanks ++ '(' :: (raw ++ ')' :: tail)
  named : name ≠ []
  endsClean : EndsClean name
  blank : ∀ c ∈ blanks, isBlank c = true
  first : '(' ∉ name ∧ '(' ∉ blanks
  last : ')' ∉ tail

/-- The parts of a label: a name, blanks, and a colon. -/
structure LabelForm (text name blanks : List Char) : Prop where
  whole : text = name ++ blanks ++ [':']
  named : name ≠ []
  endsClean : EndsClean name
  blank : ∀ c ∈ blanks, isBlank c = true
  noParen : '(' ∉ text

/-- The trimmed text means this. -/
def Means (text : List Char) : Line → Prop
  | .blank => text = []
  | .comment => text.head? = some '#'
  | .call call => text.head? ≠ some '#' ∧ ∃ blanks raw tail,
      CallForm text call.name.toList blanks raw tail ∧ call.args = arguments raw
  | .label name => text.head? ≠ some '#' ∧ ∃ blanks, LabelForm text name.toList blanks
  | .malformed .missingName => text.head? = some '('
  | .malformed .missingCloseParen => text.head? ≠ some '#' ∧ ∃ before after,
      text = before ++ '(' :: after ∧ before ≠ [] ∧ '(' ∉ before ∧ ')' ∉ after
  | .malformed .emptyLabel => text = [':']
  | .malformed .missingOpenParen => text ≠ [] ∧ text.head? ≠ some '#' ∧ '(' ∉ text ∧
      text.getLast? ≠ some ':'

/-! ## The parts are determined -/

theorem CallForm.stripEnd_eq {text name blanks raw tail : List Char}
    (form : CallForm text name blanks raw tail) : stripEnd (name ++ blanks) = name :=
  stripEnd_append_of_blank form.endsClean form.blank

theorem CallForm.noParen {text name blanks raw tail : List Char}
    (form : CallForm text name blanks raw tail) : '(' ∉ name ++ blanks := by
  simpa using form.first

theorem CallForm.unique {text name blanks raw tail name' blanks' raw' tail' : List Char}
    (one : CallForm text name blanks raw tail) (two : CallForm text name' blanks' raw' tail') :
    name = name' ∧ blanks = blanks' ∧ raw = raw' ∧ tail = tail' := by
  -- Each part is what a cut or a trimming finds.
  have cut := cutFirst_eq_some_iff.mpr ⟨one.whole, one.noParen⟩
  rw [cutFirst_eq_some_iff.mpr ⟨two.whole, two.noParen⟩] at cut
  obtain ⟨before, after⟩ := Prod.mk.inj (Option.some.inj cut)
  have names : name = name' := by rw [← one.stripEnd_eq, ← before, two.stripEnd_eq]
  have raws : beforeLast ')' (raw' ++ ')' :: tail') = some raw :=
    beforeLast_eq_some_iff.mpr ⟨tail, after, one.last⟩
  rw [beforeLast_eq_some_iff.mpr ⟨tail', rfl, two.last⟩] at raws
  obtain rfl := Option.some.inj raws
  subst names
  exact ⟨rfl, (List.append_cancel_left before).symm, rfl, by simpa using after.symm⟩

theorem LabelForm.unique {text name blanks name' blanks' : List Char}
    (one : LabelForm text name blanks) (two : LabelForm text name' blanks') :
    name = name' ∧ blanks = blanks' := by
  have before : name ++ blanks = name' ++ blanks' :=
    List.append_cancel_right (one.whole.symm.trans two.whole)
  have names : name = name' := by
    rw [← stripEnd_append_of_blank one.endsClean one.blank, before,
      stripEnd_append_of_blank two.endsClean two.blank]
  subst names
  exact ⟨rfl, List.append_cancel_left before⟩

/-! ## Reading a line is finding what it means -/

/-- A line is read as what it means. -/
theorem eq_of_means {line : List Char} {l : Line} (means : Means (strip line) l) :
    Line.ofChars line = l := by
  have starts := startsClean_strip line
  cases l with
  | blank => simp [Line.ofChars, show strip line = [] from means]
  | comment =>
      have hash : (strip line).head? = some '#' := means
      have content : strip line ≠ [] := fun empty => by simp [empty] at hash
      simp [Line.ofChars, content, hash]
  | call call =>
      obtain ⟨noHash, blanks, raw, tail, form, args⟩ := means
      rw [ofChars_eq_call_iff]
      refine ⟨noHash, _, raw, tail, form.whole, form.noParen, form.last, form.stripEnd_eq, ?_,
        args.symm⟩
      exact fun empty => form.named (by rw [empty]; rfl)
  | label name =>
      obtain ⟨noHash, blanks, form⟩ := means
      rw [ofChars_eq_label_iff]
      refine ⟨form.noParen, noHash, _, form.whole,
        stripEnd_append_of_blank form.endsClean form.blank, ?_⟩
      exact fun empty => form.named (by rw [empty]; rfl)
  | malformed error =>
      cases error with
      | missingName =>
          obtain ⟨after, whole⟩ := List.head?_eq_some_iff.mp means
          rw [ofChars_of_append (by simp [whole]) (whole.trans (List.nil_append _).symm) (by simp)]
          rfl
      | missingCloseParen =>
          obtain ⟨noHash, before, after, whole, nonempty, first, absent⟩ := means
          have named : stripEnd before ≠ [] :=
            stripEnd_ne_nil (starts.ofPrefix ⟨_, whole.symm⟩) nonempty
          rw [ofChars_of_append noHash whole first]
          simp [readCall, named, beforeLast_eq_none_iff.mpr absent]
      | emptyLabel =>
          have whole : strip line = [':'] := means
          rw [ofChars_of_not_mem (by simp [whole]) (by simp [whole]) (by simp [whole]), whole]
          rfl
      | missingOpenParen =>
          obtain ⟨content, noHash, noParen, last⟩ := means
          rw [ofChars_of_not_mem content noHash noParen, readLabel]
          split
          · rename_i reversed
            rw [← List.head?_reverse, reversed] at last
            exact absurd rfl last
          · rfl

/-- A trimmed text with an opening parenthesis is a call, or one of its parts is missing. -/
theorem exists_means_of_mem {text : List Char} (starts : StartsClean text)
    (noHash : text.head? ≠ some '#') (paren : '(' ∈ text) : ∃ l, Means text l := by
  obtain ⟨before, after, rfl, first⟩ := List.eq_append_cons_of_mem paren
  by_cases nonempty : before = []
  · subst nonempty
    exact ⟨.malformed .missingName, rfl⟩
  cases close : beforeLast ')' after with
  | none =>
      exact ⟨.malformed .missingCloseParen, noHash, before, after, rfl, nonempty, first,
        beforeLast_eq_none_iff.mp close⟩
  | some raw =>
      obtain ⟨tail, rfl, last⟩ := beforeLast_eq_some_iff.mp close
      obtain ⟨blanks, split, blank⟩ := exists_blanks before
      have apart : '(' ∉ stripEnd before ∧ '(' ∉ blanks := by
        rw [split] at first
        simpa using first
      refine ⟨.call ⟨String.ofList (stripEnd before), arguments raw⟩, noHash, blanks, raw, tail, ?_,
        rfl⟩
      rw [String.toList_ofList]
      exact
        { whole := by rw [← split]
          named := stripEnd_ne_nil (starts.ofPrefix ⟨_, rfl⟩) nonempty
          endsClean := endsClean_stripEnd before
          blank := blank
          first := apart
          last := last }

/-- A trimmed text without an opening parenthesis is a label unless it lacks the colon or the name. -/
theorem exists_means_of_not_mem {text : List Char} (starts : StartsClean text)
    (content : text ≠ []) (noHash : text.head? ≠ some '#') (noParen : '(' ∉ text) :
    ∃ l, Means text l := by
  by_cases colon : text.getLast? = some ':'
  · obtain ⟨before, rfl⟩ := List.getLast?_eq_some_iff.mp colon
    by_cases nonempty : before = []
    · subst nonempty
      exact ⟨.malformed .emptyLabel, rfl⟩
    obtain ⟨blanks, split, blank⟩ := exists_blanks before
    refine ⟨.label (String.ofList (stripEnd before)), noHash, blanks, ?_⟩
    rw [String.toList_ofList]
    exact
      { whole := by rw [← split]
        named := stripEnd_ne_nil (starts.ofPrefix ⟨_, rfl⟩) nonempty
        endsClean := endsClean_stripEnd before
        blank := blank
        noParen := noParen }
  · exact ⟨.malformed .missingOpenParen, content, noHash, noParen, colon⟩

/-- Every trimmed text means something. -/
theorem exists_means {text : List Char} (starts : StartsClean text) : ∃ l, Means text l := by
  by_cases content : text = []
  · exact ⟨.blank, content⟩
  by_cases hash : text.head? = some '#'
  · exact ⟨.comment, hash⟩
  by_cases paren : '(' ∈ text
  · exact exists_means_of_mem starts hash paren
  · exact exists_means_of_not_mem starts content hash paren

/-- Reading accepts exactly the grammar. A line is blank, a comment, a call, a label or has one of the
four errors exactly if the trimmed line has the form that belongs to it. It always has one of these
forms and never two, and a call or a label can be taken apart in one way only. -/
theorem ofString_eq_iff_means (line : String) :
    let text := strip line.toList
    (∀ l, Line.ofString line = l ↔ Means text l) ∧ (∃! l, Means text l) ∧
      (∀ name blanks raw tail name' blanks' raw' tail', CallForm text name blanks raw tail →
        CallForm text name' blanks' raw' tail' →
          name = name' ∧ blanks = blanks' ∧ raw = raw' ∧ tail = tail') ∧
      ∀ name blanks name' blanks', LabelForm text name blanks → LabelForm text name' blanks' →
        name = name' ∧ blanks = blanks' := by
  intro text
  obtain ⟨meant, means⟩ := exists_means (startsClean_strip line.toList)
  have read : Line.ofString line = meant := eq_of_means means
  refine ⟨fun l => ⟨?_, eq_of_means⟩, ⟨meant, means, fun l other => ?_⟩, ?_, ?_⟩
  · rintro rfl
    rw [read]
    exact means
  · rw [← read]
    exact (eq_of_means other).symm
  · exact fun _ _ _ _ _ _ _ _ => CallForm.unique
  · exact fun _ _ _ _ => LabelForm.unique

/-- The parentheses of this call are the first opening and the last closing one, although a third
stands between them and a label's colon follows. -/
theorem ofString_eq_iff_means_say :
    CallForm "say (a) b):".toList "say".toList [' '] "a) b".toList [':'] ∧
      Line.ofString "\tsay (a) b):" = .call ⟨"say", ["a) b"]⟩ ∧
      ∀ name blanks raw tail, CallForm "say (a) b):".toList name blanks raw tail →
        raw = "a) b".toList := by
  obtain ⟨reads, -, parts, -⟩ := ofString_eq_iff_means "\tsay (a) b):"
  have text : strip "\tsay (a) b):".toList = "say (a) b):".toList := by decide
  rw [text] at parts
  have form : CallForm "say (a) b):".toList "say".toList [' '] "a) b".toList [':'] :=
    { whole := rfl
      named := by decide
      endsClean := endsClean_concat ['s', 'a'] (by decide)
      blank := List.all_eq_true.mp (by decide)
      first := by decide
      last := by decide }
  have args : ["a) b"] = arguments "a) b".toList := by decide
  refine ⟨form, (reads _).mpr ?_, fun name blanks raw tail other => ?_⟩
  · rw [text]
    exact ⟨by decide, [' '], "a) b".toList, [':'], form, args⟩
  · exact (parts _ _ _ _ _ _ _ _ other form).2.2.1

end BuildScript.Script
