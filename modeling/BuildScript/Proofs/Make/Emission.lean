import BuildScript.Make.Conversion
import BuildScript.Proofs.Make.Parts
import BuildScript.Proofs.Script.Numbering

/-!
# A Makefile is the parts of its script

Writing a Makefile goes through a script line by line and remembers whether `clean()` was seen. What
comes out can be said without any of this: the preamble, and then the rules of the lines that emit
one, in their order (`emitAll_unlimited`). The warnings are those of the lines that are warned about,
with their numbers. So such lines, comments and labels may be blanked out (`partsBelow_blanked`).
-/

namespace BuildScript.Make

open Script Text

/-! ## The parts of a script -/

/-- What the lines come to that stand below the lines `above`. -/
def partsBelow (above : List Line) : List Line → List Part
  | [] => []
  | line :: rest => part above line :: partsBelow (above ++ [line]) rest

theorem length_partsBelow (above ls : List Line) : (partsBelow above ls).length = ls.length := by
  induction ls generalizing above with
  | nil => rfl
  | cons line ls ih => exact congrArg Nat.succ (ih _)

theorem partsBelow_getElem? (above ls : List Line) (i : Nat) :
    (partsBelow above ls)[i]? = ls[i]?.map (part (above ++ ls.take i)) := by
  induction ls generalizing above i with
  | nil => rfl
  | cons line ls ih =>
      cases i with
      | zero => simp [partsBelow]
      | succ i => simp [partsBelow, ih]

theorem partsBelow_append (above first rest : List Line) :
    partsBelow above (first ++ rest) =
      partsBelow above first ++ partsBelow (above ++ first) rest := by
  induction first generalizing above with
  | nil => simp [partsBelow]
  | cons line first ih => simp [partsBelow, ih]

/-- The text of the rules among the parts. -/
def rulesText (parts : List Part) : String :=
  String.join ((parts.filterMap Part.rule?).map Rule.text)

/-- The warnings among the parts, numbered from `first`. -/
def warningsFrom (first : Nat) (parts : List Part) : List (Nat × ConversionError) :=
  (parts.zipIdx first).filterMap fun (part, number) => part.error?.map fun error => (number, error)

@[simp] theorem rulesText_adds (rule : Rule) : rulesText [.adds rule] = rule.text := by
  show String.join [rule.text] = rule.text
  simp

@[simp] theorem rulesText_nothing : rulesText [.nothing] = "" := rfl

@[simp] theorem rulesText_warns (error : ConversionError) : rulesText [.warns error] = "" := rfl

theorem rulesText_append (first rest : List Part) :
    rulesText (first ++ rest) = rulesText first ++ rulesText rest := by
  rw [rulesText, List.filterMap_append, List.map_append, String.join_append]
  rfl

theorem rulesText_cons (p : Part) (parts : List Part) :
    rulesText (p :: parts) = rulesText [p] ++ rulesText parts :=
  rulesText_append [p] parts

theorem warningsFrom_cons (first : Nat) (p : Part) (parts : List Part) :
    warningsFrom first (p :: parts) =
      (p.error?.toList.map fun error => (first, error)) ++ warningsFrom (first + 1) parts := by
  cases p <;> simp [warningsFrom, Part.error?]

theorem warningsFrom_append (number : Nat) (first rest : List Part) :
    warningsFrom number (first ++ rest) =
      warningsFrom number first ++ warningsFrom (number + first.length) rest := by
  simp [warningsFrom, List.zipIdx_append]

/-- Warnings come in the order of their lines. -/
theorem warningsFrom_ascending (first : Nat) (parts : List Part) :
    ((warningsFrom first parts).map Prod.fst).Pairwise (· < ·) := by
  have ascending : (parts.zipIdx first).Pairwise fun a b => a.2 < b.2 := by
    rw [List.pairwise_iff_getElem]
    intro i j hi hj before
    simp only [List.getElem_zipIdx]
    omega
  refine ascending_filterMap ascending fun numbered warning found => ?_
  obtain ⟨error, -, rfl⟩ := Option.map_eq_some_iff.mp found
  rfl

/-! ## Writing them -/

theorem putAll_unlimited (pieces : List String) (out : String) :
    unlimited.putAll pieces out = (true, out ++ String.join pieces) := by
  induction pieces generalizing out with
  | nil => simp [Sink.putAll]
  | cons piece pieces ih =>
      rw [Sink.putAll, show unlimited.put piece out = (true, out ++ piece) from rfl]
      simp only [ih, String.join_cons, String.append_assoc]

theorem write_unlimited (rule : Rule) (out : String) (seen : Bool) :
    Makefile.write unlimited rule ⟨out, seen⟩ = (.ok (), ⟨out ++ rule.text, seen⟩) := by
  rw [Makefile.write, putAll_unlimited]
  rfl

/-- A line writes the rule that it emits, or fails with the error that is warned of. Whether `clean()`
was seen is whether it stands above. -/
theorem emit_eq {ω : Type} (sink : Sink ω) (above : List Line) (line : Line) (out : ω) :
    let seen := decide (cleanCall ∈ above ++ [line])
    Makefile.emit sink line ⟨out, decide (cleanCall ∈ above)⟩ =
      match part above line with
      | .adds rule => Makefile.write sink rule ⟨out, seen⟩
      | .nothing => (.ok (), ⟨out, seen⟩)
      | .warns error => (.error error, ⟨out, seen⟩) := by
  -- Only `clean()` itself changes what was seen.
  have other (different : cleanCall ≠ line) :
      decide (cleanCall ∈ above ++ [line]) = decide (cleanCall ∈ above) := by
    simp [different]
  cases line with
  | blank =>
      rw [other (by simp [cleanCall])]
      rfl
  | comment =>
      rw [other (by simp [cleanCall])]
      rfl
  | label name =>
      rw [other (by simp [cleanCall])]
      rfl
  | malformed error =>
      rw [other (by simp [cleanCall])]
      rfl
  | call call =>
      cases made : Rule.ofCall call with
      | error error =>
          have different : cleanCall ≠ .call call := by
            intro same
            obtain rfl := Line.call.inj same
            cases made
          rw [other different]
          simp [Makefile.emit, part, made]
      | ok rule =>
          have clean := ((ofCall_eq_ok_iff call rule).mp made).eq_clean_iff
          simp only [Makefile.emit, part, made, Makefile.add]
          by_cases isClean : rule = .clean
          · have same := clean.mp isClean
            by_cases seen : cleanCall ∈ above
            · simp [isClean, seen]
            · simp [isClean, seen, same]
          · rw [other fun same => isClean (clean.mpr same.symm)]
            simp [isClean]

/-- What became of the line that comes to a part, if nothing was refused. -/
def Part.result (p : Part) : Except ConversionError Unit :=
  match p.error? with
  | some error => .error error
  | none => .ok ()

theorem emit_unlimited (above : List Line) (line : Line) (out : String) :
    Makefile.emit unlimited line ⟨out, decide (cleanCall ∈ above)⟩ =
      ((part above line).result,
        ⟨out ++ rulesText [part above line], decide (cleanCall ∈ above ++ [line])⟩) := by
  rw [emit_eq]
  cases part above line with
  | adds rule => simp only [write_unlimited, rulesText_adds, Part.result, Part.error?]
  | nothing => simp only [rulesText_nothing, String.append_empty, Part.result, Part.error?]
  | warns error => simp only [rulesText_warns, String.append_empty, Part.result, Part.error?]

/-- A warning is never that the sink refused: then there would be no Makefile at all. -/
theorem error?_part_ne_refused (above : List Line) (line : Line) :
    (part above line).error? ≠ some .refused := by
  intro refused
  cases here : part above line with
  | adds rule => simp [here, Part.error?] at refused
  | nothing => simp [here, Part.error?] at refused
  | warns error =>
      obtain rfl : error = .refused := by simpa [here, Part.error?] using refused
      have warned := (yields_iff above line _).mpr here.symm
      cases warned

theorem emitAll_unlimited (number : Nat) (above : List Line) (texts : List (List Char))
    (out : String) :
    let parts := partsBelow above (texts.map Line.ofChars)
    emitAll unlimited (numbered number texts) ⟨out, decide (cleanCall ∈ above)⟩ =
      .ok (warningsFrom number parts,
        ⟨out ++ rulesText parts, decide (cleanCall ∈ above ++ texts.map Line.ofChars)⟩) := by
  induction texts generalizing number above out with
  | nil => simp [numbered, emitAll, partsBelow, warningsFrom, rulesText]
  | cons text texts ih =>
      have below := ih (number + 1) (above ++ [Line.ofChars text])
        (out ++ rulesText [part above (Line.ofChars text)])
      have notRefused := error?_part_ne_refused above (Line.ofChars text)
      simp only [numbered, emitAll, List.map_cons, partsBelow, warningsFrom_cons]
      rw [rulesText_cons, ← String.append_assoc,
        List.append_cons above (Line.ofChars text) (texts.map Line.ofChars)]
      rw [emit_unlimited, Part.result]
      cases warned : (part above (Line.ofChars text)).error? with
      | none =>
          simp only [below]
          rfl
      | some error =>
          rw [warned] at notRefused
          cases error with
          | refused => exact absurd rfl notRefused
          | unsupported name =>
              simp only [below]
              rfl
          | arity mismatch =>
              simp only [below]
              rfl
          | malformed error =>
              simp only [below]
              rfl

/-- The parts of a script. -/
def partsOf (source : String) : List Part :=
  partsBelow [] ((lines source.toList).map Line.ofChars)

theorem start_unlimited : Makefile.start unlimited "" = (true, ⟨preamble, false⟩) := by
  show (true, (⟨"" ++ preamble, false⟩ : Makefile String)) = _
  rw [String.empty_append]

theorem convert_eq (source : String) :
    convert source = .ok ⟨preamble ++ rulesText (partsOf source), warningsFrom 1 (partsOf source)⟩ := by
  have emitted : emitAll unlimited (numbered 1 (lines source.toList)) ⟨preamble, false⟩ = _ :=
    emitAll_unlimited 1 [] (lines source.toList) preamble
  simp only [convert, convertInto, start_unlimited, parse, emitted]
  rfl

/-! ## Blanking out lines -/

/-- The line has no use for a Makefile: it is a comment, a label, or it is warned about. -/
def Idle (line : Line) : Prop :=
  line = .comment ∨ (∃ name, line = .label name) ∨ ∃ error, Warned line error

/-- A line and what stands in its place: a blank line if it is idle, and else the line itself. -/
def Replaces (text text' : List Char) : Prop :=
  (Idle (Line.ofChars text) → Line.ofChars text' = .blank) ∧
    (¬ Idle (Line.ofChars text) → text' = text)

/-- The source has the lines of another one, with the idle ones blanked out. Where the other ends with
blanks, such as a last line without an end that was blanked out, they may be missing. -/
def BlanksOut (texts : List (List Char)) (blanked : String) : Prop :=
  ∃ missing, (∀ text ∈ missing, Line.ofChars text = .blank) ∧
    List.Forall₂ Replaces texts (lines blanked.toList ++ missing)

theorem rulesText_of_blank {ls : List Line} (blank : ∀ line ∈ ls, line = .blank)
    (above : List Line) : rulesText (partsBelow above ls) = "" := by
  induction ls generalizing above with
  | nil => rfl
  | cons line ls ih =>
      obtain ⟨rfl, rest⟩ := List.forall_mem_cons.mp blank
      rw [partsBelow, rulesText_cons, ih rest]
      rfl

theorem part_congr {above above' : List Line} (same : cleanCall ∈ above ↔ cleanCall ∈ above')
    (line : Line) : part above line = part above' line := by
  cases line <;> simp only [part, same]

theorem rulesText_part_of_idle (above : List Line) {line : Line} (idle : Idle line) :
    rulesText [part above line] = "" := by
  obtain rfl | ⟨name, rfl⟩ | ⟨error, warned⟩ := idle
  · rfl
  · rfl
  · rw [part_of_warned above warned, rulesText_warns]

theorem Counterpart.not_idle {line : Line} {rule : Rule} (counterpart : Counterpart line rule) :
    ¬ Idle line := by
  rintro (rfl | ⟨name, rfl⟩ | ⟨error, warned⟩)
  · cases counterpart
  · cases counterpart
  · cases line with
    | call call =>
        have made := (ofCall_eq_ok_iff call rule).mpr counterpart
        rw [(ofCall_eq_error_iff call error).mpr warned] at made
        cases made
    | malformed error => cases counterpart
    | blank => cases counterpart
    | comment => cases counterpart
    | label name => cases counterpart

theorem counterpart_cleanCall : Counterpart cleanCall .clean := .ofKind .clean [] .clean rfl rfl

theorem error?_part_of_not_idle (above : List Line) {line : Line} (busy : ¬ Idle line) :
    (part above line).error? = none := by
  cases here : part above line with
  | adds rule => rfl
  | nothing => rfl
  | warns error => exact absurd (.inr (.inr ⟨error, (yields_iff above line _).mpr here.symm⟩)) busy

/-- Of a script with its idle lines blanked out the rules are the same, and there are no warnings. -/
theorem partsBelow_blanked {texts blanked : List (List Char)}
    (replaced : List.Forall₂ Replaces texts blanked) (above above' : List Line)
    (same : cleanCall ∈ above ↔ cleanCall ∈ above') (first : Nat) :
    rulesText (partsBelow above' (blanked.map Line.ofChars)) =
        rulesText (partsBelow above (texts.map Line.ofChars)) ∧
      warningsFrom first (partsBelow above' (blanked.map Line.ofChars)) = [] := by
  -- Both scripts have had the call `clean()`, or neither has.
  induction replaced generalizing above above' first with
  | nil => exact ⟨rfl, rfl⟩
  | @cons text text' texts blanked here _ ih =>
      obtain ⟨whenIdle, whenBusy⟩ := here
      simp only [List.map_cons, partsBelow]
      rw [rulesText_cons, rulesText_cons (part above (Line.ofChars text)), warningsFrom_cons]
      by_cases idle : Idle (Line.ofChars text)
      · have other : cleanCall ≠ Line.ofChars text :=
          fun clean => counterpart_cleanCall.not_idle (clean ▸ idle)
        have blank : cleanCall ≠ .blank := by simp [cleanCall]
        rw [whenIdle idle, rulesText_part_of_idle above idle]
        have below := ih (above ++ [Line.ofChars text]) (above' ++ [.blank])
          (by simp [other, blank, same]) (first + 1)
        exact ⟨congrArg ("" ++ ·) below.1, below.2⟩
      · rw [whenBusy idle, part_congr same, error?_part_of_not_idle above' idle]
        have below := ih (above ++ [Line.ofChars text]) (above' ++ [Line.ofChars text])
          (by simp [same]) (first + 1)
        exact ⟨congrArg _ below.1, below.2⟩

/-- The same of whole sources. -/
theorem convert_blanked {source blanked : String} (blanksOut : BlanksOut (lines source.toList) blanked) :
    convert blanked = .ok ⟨preamble ++ rulesText (partsOf source), []⟩ := by
  obtain ⟨missing, blank, replaced⟩ := blanksOut
  obtain ⟨rules, warnings⟩ := partsBelow_blanked replaced [] [] Iff.rfl 1
  have nothing := rulesText_of_blank (List.forall_mem_map.mpr blank)
    ([] ++ (lines blanked.toList).map Line.ofChars)
  rw [List.map_append, partsBelow_append] at rules warnings
  rw [rulesText_append, nothing, String.append_empty] at rules
  rw [warningsFrom_append, List.append_eq_nil_iff] at warnings
  rw [convert_eq, partsOf, rules, warnings.1]
  rfl

/-! ## The Makefile of a script -/

theorem Counterpart.unique {line : Line} {rule rule' : Rule} (one : Counterpart line rule)
    (two : Counterpart line rule') : rule = rule' := by
  cases line with
  | call call =>
      have made := (ofCall_eq_ok_iff call rule).mpr one
      rw [(ofCall_eq_ok_iff call rule').mpr two] at made
      exact (Except.ok.inj made).symm
  | blank => cases one
  | comment => cases one
  | label name => cases one
  | malformed error => cases one

/-- Every script has a Makefile. Each of its lines comes to exactly one part: it emits a rule, which
depends on nothing but the line, or it is silent, or it is warned about. The Makefile is the preamble
and then the text of the emitted rules, in the order of their lines; the warnings are those of the
lines that are warned about, with their ascending numbers. Blanking out such lines, comments and
labels leaves the Makefile as it is and leaves no warnings. -/
theorem convert_eq_parts (source : String) :
    let texts := lines source.toList
    ∃ parts : List Part,
      (parts.length = texts.length ∧
        ∀ i text p, texts[i]? = some text → parts[i]? = some p →
          ∀ other, Yields ((texts.take i).map Line.ofChars) (Line.ofChars text) other ↔
            other = p) ∧
      (∀ line rule rule', Counterpart line rule → Counterpart line rule' → rule = rule') ∧
      convert source = .ok ⟨preamble ++ rulesText parts, warningsFrom 1 parts⟩ ∧
      ((warningsFrom 1 parts).map Prod.fst).Pairwise (· < ·) ∧
      ∀ blanked : String, BlanksOut texts blanked →
        convert blanked = .ok ⟨preamble ++ rulesText parts, []⟩ := by
  intro texts
  refine ⟨partsOf source, ⟨?_, ?_⟩, fun line rule rule' => Counterpart.unique, convert_eq source,
    warningsFrom_ascending 1 _, fun blanked => convert_blanked⟩
  · rw [partsOf, length_partsBelow, List.length_map]
  · intro i text p here there other
    rw [partsOf, partsBelow_getElem?, List.getElem?_map, here] at there
    obtain rfl := Option.some.inj there
    rw [yields_iff, List.nil_append, ← List.map_take]

/-- A script with a repeated `clean()`, a comment and a line that is warned about. -/
theorem convert_eq_parts_clean :
    convert "clean()\n# all\nprintfn(hi)\nclean()\nadd_flag(-g)\n" =
        .ok ⟨preamble ++ (Rule.clean.text ++ (Rule.flag "-g").text),
          [(3, .unsupported "printfn")]⟩ ∧
      convert "clean()\n\n\nclean()\nadd_flag(-g)\n" =
        .ok ⟨preamble ++ (Rule.clean.text ++ (Rule.flag "-g").text), []⟩ := by
  have value : convert "clean()\n# all\nprintfn(hi)\nclean()\nadd_flag(-g)\n" =
      .ok ⟨preamble ++ (Rule.clean.text ++ (Rule.flag "-g").text),
        [(3, .unsupported "printfn")]⟩ := by decide +kernel
  have clean : Replaces "clean()".toList "clean()".toList :=
    ⟨fun idle => absurd idle counterpart_cleanCall.not_idle, fun _ => rfl⟩
  have comment : Replaces "# all".toList [] := ⟨fun _ => rfl, fun busy => absurd (.inl rfl) busy⟩
  have other : Warned (Line.ofChars "printfn(hi)".toList) (.unsupported "printfn") :=
    .unsupported ⟨"printfn", ["hi"]⟩ fun kind => by cases kind <;> decide
  have unsupported : Replaces "printfn(hi)".toList [] :=
    ⟨fun _ => rfl, fun busy => absurd (.inr (.inr ⟨_, other⟩)) busy⟩
  have counterpart : Counterpart (Line.ofChars "add_flag(-g)".toList) (.flag "-g") :=
    .ofKind .flag ["-g"] (.flag "-g") rfl rfl
  have flag : Replaces "add_flag(-g)".toList "add_flag(-g)".toList :=
    ⟨fun idle => absurd idle counterpart.not_idle, fun _ => rfl⟩
  obtain ⟨parts, -, -, made, -, blankOut⟩ :=
    convert_eq_parts "clean()\n# all\nprintfn(hi)\nclean()\nadd_flag(-g)\n"
  have blanked := blankOut "clean()\n\n\nclean()\nadd_flag(-g)\n" ⟨[], List.forall_mem_nil _,
    .cons clean (.cons comment (.cons unsupported (.cons clean (.cons flag .nil))))⟩
  rw [value] at made
  obtain ⟨rules, -⟩ := Conversion.mk.inj (Except.ok.inj made)
  exact ⟨value, by rw [blanked, ← rules]⟩

end BuildScript.Make
