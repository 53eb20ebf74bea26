import BuildScript.Proofs.Make.Emission
import BuildScript.Proofs.Script.SingleLine

/-!
# The lines of a Makefile

A rule is made of rows (`Rule.rows`): some fixed text, with an argument of the call before it, after it
or not at all. Since no argument holds a newline, the rows of a rule are the lines that it adds to a
Makefile (`endedLines_text`), and the lines of a Makefile are those of the preamble and then the rows
of the rules, one rule after the other (`endedLines_convert`).

* `convert_lines` counts them: every call adds the lines of its kind, whatever its arguments are.
* `convert_rows` says how they begin and end: like the fixed text of the row, unless an argument stands
  there.
-/

namespace BuildScript.Make

open Script Text

/-! ## Rows -/

/-- A line of a rule: fixed text, an argument before it and an argument after it. Where there is no
argument, the text is empty. -/
structure Row where
  opening : String
  fixed : String
  closing : String
  deriving DecidableEq, Repr

namespace Row

/-- What is written for the row, without the newline. -/
def text (row : Row) : String := row.opening ++ row.fixed ++ row.closing

/-- A row without text. -/
def blank : Row := ⟨"", "", ""⟩

end Row

/-- The recipe of a target that is only announced, up to its name. -/
def phonyRecipe : String := "\t@echo Building "

/-- The recipe of the rule `clean`. -/
def cleanRecipe : String := "\t@rm -f *.o $(LIBRARY)"

/-- What is fixed in the recipes of all rules. -/
def recipes : List String := [buildRecipe, phonyRecipe, cleanRecipe]

/-- The row is a recipe. -/
def Row.IsRecipe (row : Row) : Prop := row.fixed ∈ recipes

/-- The lines that a rule adds. -/
def Rule.rows : Rule → List Row
  | .define name value => [⟨name, " = ", value⟩]
  | .library name => [⟨"", "LIBRARY = ", name⟩]
  | .flag text => [⟨"", "CFLAGS += ", text⟩]
  | .headers dir => [⟨"", "INCLUDES += -I", dir⟩]
  | .libraryPath path => [⟨"", "LIBRARY_PATHS += -L", path⟩]
  | .link name => [⟨"", "LIBS += -l", name⟩]
  | .build source output => [⟨output, ": ", source⟩, ⟨"", buildRecipe, ""⟩, .blank]
  | .phony name =>
    [⟨"", ".PHONY: ", name⟩, ⟨name, ":", ""⟩, ⟨"", phonyRecipe, name⟩, .blank]
  | .clean => [⟨"", ".PHONY: clean", ""⟩, ⟨"", "clean:", ""⟩, ⟨"", cleanRecipe, ""⟩, .blank]

/-- The text of a rule is its rows, each with a newline. -/
theorem toList_text (rule : Rule) :
    rule.text.toList = rule.rows.flatMap fun row => row.text.toList ++ ['\n'] := by
  cases rule <;>
    simp [Rule.text, Rule.pieces, Rule.rows, Row.text, Row.blank, buildRecipe, phonyRecipe,
      cleanRecipe]

/-- The arguments that a rule holds. -/
def Rule.args : Rule → List String
  | .define name value => [name, value]
  | .library text | .flag text | .headers text | .libraryPath text | .link text | .phony text =>
    [text]
  | .build source output => [source, output]
  | .clean => []

/-- A row holds no newline unless an argument does. -/
theorem newline_not_mem_row {rule : Rule} (single : ∀ arg ∈ rule.args, '\n' ∉ arg.toList) :
    ∀ row ∈ rule.rows, '\n' ∉ row.text.toList := by
  cases rule <;>
    simp_all [Rule.args, Rule.rows, Row.text, Row.blank, buildRecipe, phonyRecipe, cleanRecipe]

/-! ## The lines of a rule -/

theorem endedLines_rows {rows : List Row} (single : ∀ row ∈ rows, '\n' ∉ row.text.toList) :
    endedLines (rows.flatMap fun row => row.text.toList ++ ['\n']) =
      rows.map fun row => row.text.toList := by
  induction rows with
  | nil => rfl
  | cons row rows ih =>
      obtain ⟨here, below⟩ := List.forall_mem_cons.mp single
      rw [List.flatMap_cons, List.append_assoc, List.singleton_append, endedLines_line _ here,
        ih below, List.map_cons]

/-- The lines of a rule are its rows. -/
theorem endedLines_text {rule : Rule} (single : ∀ arg ∈ rule.args, '\n' ∉ arg.toList) :
    endedLines rule.text.toList = rule.rows.map fun row => row.text.toList := by
  rw [toList_text, endedLines_rows (newline_not_mem_row single)]

/-- A rule ends with its last line. -/
theorem getLast?_text (rule : Rule) : rule.text.toList.getLast? = some '\n' := by
  have nonempty : rule.rows ≠ [] := by cases rule <;> simp [Rule.rows]
  obtain ⟨rows, row, split⟩ := List.eq_nil_or_concat'  rule.rows |>.resolve_left nonempty
  rw [toList_text, split, List.flatMap_append, List.flatMap_singleton, ← List.append_assoc,
    List.getLast?_concat]

theorem ended_rules (rules : List Rule) : Ended (String.join (rules.map Rule.text)).toList := by
  induction rules with
  | nil => exact .inl rfl
  | cons rule rules ih =>
      right
      rw [List.map_cons, String.join_cons, String.toList_append, List.getLast?_append]
      obtain empty | last := ih
      · rw [empty]
        exact getLast?_text rule
      · rw [last]
        rfl

/-- The lines of several rules are those of each. -/
theorem endedLines_rules (rules : List Rule) :
    endedLines (String.join (rules.map Rule.text)).toList =
      rules.flatMap fun rule => endedLines rule.text.toList := by
  induction rules with
  | nil => rfl
  | cons rule rules ih =>
      rw [List.map_cons, String.join_cons, String.toList_append,
        endedLines_append _ (.inr (getLast?_text rule)), ih, List.flatMap_cons]

/-! ## The rules of a script -/

/-- The lines, which stand below the lines `above`, emit these rules one after the other. -/
inductive Emitted : (above : List Line) → List Line → List Rule → Prop
  | nil (above : List Line) : Emitted above [] []
  | emits {above rest : List Line} {line : Line} {rule : Rule} {rules : List Rule}
      (here : Emits above line rule) (below : Emitted (above ++ [line]) rest rules) :
      Emitted above (line :: rest) (rule :: rules)
  | passes {above rest : List Line} {line : Line} {rules : List Rule}
      (nothing : ∀ rule, ¬ Emits above line rule) (below : Emitted (above ++ [line]) rest rules) :
      Emitted above (line :: rest) rules

theorem emitted_partsBelow (above ls : List Line) :
    Emitted above ls ((partsBelow above ls).filterMap Part.rule?) := by
  induction ls generalizing above with
  | nil => exact .nil above
  | cons line ls ih =>
      have yields := yields_part above line
      have other {p : Part} (same : part above line = p) (noRule : p.rule? = none) :
          ∀ rule, ¬ Emits above line rule := by
        intro rule emits
        rw [← same, part_of_emits emits] at noRule
        cases noRule
      rw [partsBelow]
      cases same : part above line with
      | adds rule =>
          rw [same] at yields
          exact .emits yields (ih _)
      | nothing => exact .passes (other same rfl) (ih _)
      | warns error => exact .passes (other same rfl) (ih _)

theorem Emitted.counterpart {above ls : List Line} {rules : List Rule}
    (emitted : Emitted above ls rules) : ∀ rule ∈ rules, ∃ line ∈ ls, Counterpart line rule := by
  induction emitted with
  | nil above => exact List.forall_mem_nil _
  | emits here below ih =>
      refine List.forall_mem_cons.mpr ⟨⟨_, List.mem_cons_self, here.1⟩, fun rule member => ?_⟩
      obtain ⟨line, among, counterpart⟩ := ih rule member
      exact ⟨line, List.mem_cons_of_mem _ among, counterpart⟩
  | passes nothing below ih =>
      intro rule member
      obtain ⟨line, among, counterpart⟩ := ih rule member
      exact ⟨line, List.mem_cons_of_mem _ among, counterpart⟩

/-- The kind of the calls that a rule is the counterpart of. -/
def Rule.kind : Rule → RuleKind
  | .define _ _ => .define
  | .library _ => .library
  | .flag _ => .flag
  | .headers _ => .headers
  | .libraryPath _ => .libraryPath
  | .link _ => .link
  | .build _ _ => .build
  | .phony _ => .phony
  | .clean => .clean

theorem RuleKind.rule?_eq_some {kind : RuleKind} {args : List String} {rule : Rule}
    (made : kind.rule? args = some rule) : rule.kind = kind ∧ rule.args = args := by
  match args with
  | [] =>
      cases kind <;> cases made
      exact ⟨rfl, rfl⟩
  | [a] => cases kind <;> cases made <;> exact ⟨rfl, rfl⟩
  | [a, b] => cases kind <;> cases made <;> exact ⟨rfl, rfl⟩
  | a :: b :: c :: rest => cases kind <;> cases made

/-- The rules of a script hold no newline in their arguments. -/
theorem newline_not_mem_rule {source : List Char} {rules : List Rule}
    (emitted : Emitted [] ((lines source).map Line.ofChars) rules) :
    ∀ rule ∈ rules, ∀ arg ∈ rule.args, '\n' ∉ arg.toList := by
  intro rule member
  obtain ⟨line, among, counterpart⟩ := emitted.counterpart rule member
  cases counterpart with
  | ofKind kind args rule count made =>
      rw [(RuleKind.rule?_eq_some made).2]
      exact newline_not_mem_args among

/-- A Makefile is the preamble and then the rules that the lines emit. -/
theorem convert_emitted (source : String) :
    ∃ made rules, convert source = .ok made ∧
      Emitted [] ((lines source.toList).map Line.ofChars) rules ∧
        made.makefile = preamble ++ String.join (rules.map Rule.text) :=
  ⟨_, _, convert_eq source, emitted_partsBelow [] _, rfl⟩

theorem getLast?_preamble : preamble.toList.getLast? = some '\n' := by decide +kernel

/-- The lines of a Makefile are those of the preamble and then those of the rules. -/
theorem endedLines_convert (rules : List Rule) :
    endedLines (preamble ++ String.join (rules.map Rule.text)).toList =
      endedLines preamble.toList ++ rules.flatMap fun rule => endedLines rule.text.toList := by
  rw [String.toList_append, endedLines_append _ (.inr getLast?_preamble), endedLines_rules]

/-! ## The number of lines -/

/-- The line is a call of the kind with as many arguments as the kind takes. -/
def isCallOf (kind : RuleKind) : Line → Bool
  | .call call => call.name == kind.name && call.args.length == kind.arity
  | .blank | .comment | .label _ | .malformed _ => false

theorem Counterpart.isCallOf_eq {line : Line} {rule : Rule} (counterpart : Counterpart line rule)
    (kind : RuleKind) : isCallOf kind line = decide (rule.kind = kind) := by
  cases counterpart with
  | ofKind own args rule count made =>
      rw [(RuleKind.rule?_eq_some made).1]
      by_cases same : own = kind
      · subst same
        simp [isCallOf, count]
      · have other : own.name ≠ kind.name := by
          intro name
          have found := own.named?_name
          rw [name, RuleKind.named?_name] at found
          exact same (Option.some.inj found).symm
        simp [isCallOf, same, other]

theorem exists_counterpart {kind : RuleKind} {line : Line} (isCall : isCallOf kind line = true) :
    ∃ rule, Counterpart line rule := by
  cases line with
  | call call =>
      obtain ⟨name, args⟩ := call
      obtain ⟨rfl, count⟩ : name = kind.name ∧ args.length = kind.arity := by
        simpa [isCallOf] using isCall
      obtain ⟨rule, made⟩ := Option.isSome_iff_exists.mp ((kind.rule?_isSome_iff args).mpr count)
      exact ⟨rule, .ofKind kind args rule count made⟩
  | blank => cases isCall
  | comment => cases isCall
  | label name => cases isCall
  | malformed error => cases isCall

/-- A line that emits nothing is no such call, except for a later `clean()`. -/
theorem isCallOf_of_passes {above : List Line} {line : Line}
    (nothing : ∀ rule, ¬ Emits above line rule) (kind : RuleKind) :
    isCallOf kind line = false ∨ kind = .clean ∧ cleanCall ∈ above := by
  rw [← Bool.not_eq_true, Decidable.or_iff_not_imp_left, Decidable.not_not]
  intro isCall
  obtain ⟨rule, counterpart⟩ := exists_counterpart isCall
  have repeated : ¬ (line = cleanCall → cleanCall ∉ above) :=
    fun first => nothing rule ⟨counterpart, first⟩
  obtain ⟨clean, earlier⟩ := Classical.not_imp.mp repeated
  rw [counterpart.isCallOf_eq, decide_eq_true_eq] at isCall
  rw [← isCall, counterpart.eq_clean_iff.mpr clean]
  exact ⟨rfl, Decidable.not_not.mp earlier⟩

theorem Emitted.countP {above ls : List Line} {rules : List Rule}
    (emitted : Emitted above ls rules) {kind : RuleKind} (other : kind ≠ .clean) :
    rules.countP (fun rule => rule.kind = kind) = ls.countP (isCallOf kind) := by
  induction emitted with
  | nil above => rfl
  | emits here below ih => rw [List.countP_cons, List.countP_cons, here.1.isCallOf_eq, ih]
  | passes nothing below ih =>
      obtain noCall | ⟨clean, -⟩ := isCallOf_of_passes nothing kind
      · rw [List.countP_cons, noCall, ih]
        rfl
      · exact absurd clean other

/-- Of the calls `clean()` only the first counts, unless there was one before. -/
theorem Emitted.countP_clean {above ls : List Line} {rules : List Rule}
    (emitted : Emitted above ls rules) :
    rules.countP (fun rule => rule.kind = .clean) =
      if cleanCall ∉ above ∧ 0 < ls.countP (isCallOf .clean) then 1 else 0 := by
  induction emitted with
  | nil above => simp
  | @emits above rest line rule rules here below ih =>
      obtain ⟨counterpart, first⟩ := here
      have clean := counterpart.eq_clean_iff
      rw [List.countP_cons, List.countP_cons, counterpart.isCallOf_eq, ih]
      by_cases isClean : rule = .clean
      · have fresh := first (clean.mp isClean)
        simp [isClean, clean.mp isClean, fresh, Rule.kind]
      · have notClean : rule.kind ≠ .clean := by cases rule <;> simp_all [Rule.kind]
        have otherLine : cleanCall ≠ line := fun same => isClean (clean.mpr same.symm)
        simp [notClean, otherLine]
  | @passes above rest line rules nothing below ih =>
      rw [List.countP_cons, ih]
      obtain noCall | ⟨-, earlier⟩ := isCallOf_of_passes nothing .clean
      · have otherLine : cleanCall ≠ line := by
          rintro rfl
          cases noCall
        simp [noCall, otherLine]
      · simp [earlier]

/-- Every rule has the rows of its kind. -/
theorem length_rows (rules : List Rule) :
    let number (kind : RuleKind) := rules.countP fun rule => rule.kind = kind
    (rules.flatMap Rule.rows).length =
      number .define + number .library + number .flag + number .headers + number .libraryPath +
        number .link + 3 * number .build + 4 * number .phony + 4 * number .clean := by
  induction rules with
  | nil => rfl
  | cons rule rules ih =>
      simp only [List.flatMap_cons, List.length_append, List.countP_cons, ih]
      cases rule <;> simp only [Rule.rows, Rule.kind, List.length_cons, List.length_nil] <;> simp <;>
        omega

/-- How many calls of a kind there are in a source. -/
def callsIn (source : String) (kind : RuleKind) : Nat :=
  ((lines source.toList).map Line.ofChars).countP (isCallOf kind)

/-- No argument adds a line to a Makefile. Let the calls of a script that have a counterpart be
counted, those of each kind. Beyond the preamble a Makefile has one line for each call that is a
definition, flag, directory or library, three for each call that builds and four for each that names
a target, and four if there is any call `clean()`. It consists of whole lines: first those of the
preamble, and then those of the rules that the lines of the script emit, one rule right after the
other. -/
theorem convert_lines (source : String) :
    ∃ made rules, convert source = .ok made ∧
      Emitted [] ((lines source.toList).map Line.ofChars) rules ∧
      made.makefile.toList.count '\n' =
        preamble.toList.count '\n' +
          (callsIn source .define + callsIn source .library + callsIn source .flag +
            callsIn source .headers + callsIn source .libraryPath + callsIn source .link) +
          3 * callsIn source .build + 4 * callsIn source .phony +
          (if 0 < callsIn source .clean then 4 else 0) ∧
      made.makefile = preamble ++ String.join (rules.map Rule.text) ∧
      preamble.toList.getLast? = some '\n' ∧
      (∀ rule ∈ rules, rule.text.toList.getLast? = some '\n') ∧
      endedLines made.makefile.toList =
        endedLines preamble.toList ++ rules.flatMap fun rule => endedLines rule.text.toList := by
  obtain ⟨made, rules, converted, emitted, text⟩ := convert_emitted source
  have single := newline_not_mem_rule emitted
  have rows : (rules.flatMap fun rule => endedLines rule.text.toList).length =
      (rules.flatMap Rule.rows).length := by
    rw [List.length_flatMap, List.length_flatMap]
    congr 1
    refine List.map_congr_left fun rule member => ?_
    rw [endedLines_text (single rule member), List.length_map]
  have number (kind : RuleKind) (other : kind ≠ .clean) :
      rules.countP (fun rule => rule.kind = kind) = callsIn source kind := emitted.countP other
  have cleans : rules.countP (fun rule => rule.kind = .clean) =
      if 0 < callsIn source .clean then 1 else 0 := by
    rw [emitted.countP_clean]
    simp [callsIn]
  refine ⟨made, rules, converted, emitted, ?_, text, getLast?_preamble,
    fun rule _ => getLast?_text rule, ?_⟩
  · have total := length_rows rules
    simp only [cleans, number .define (by decide), number .library (by decide),
      number .flag (by decide), number .headers (by decide), number .libraryPath (by decide),
      number .link (by decide), number .build (by decide), number .phony (by decide)] at total
    rw [← length_endedLines, text, endedLines_convert, List.length_append, rows, total,
      length_endedLines]
    split <;> omega
  · rw [text, endedLines_convert]

/-! ## How lines begin and end -/

/-- The fixed texts of all rows but the blank ones. -/
def fixedTexts : List String :=
  [" = ", "LIBRARY = ", "CFLAGS += ", "INCLUDES += -I", "LIBRARY_PATHS += -L", "LIBS += -l", ": ",
    ".PHONY: ", ":", ".PHONY: clean", "clean:"] ++ recipes

/-- Of the fixed texts only those of recipes begin with a tab, and none ends with a backslash. -/
theorem fixedTexts_frame : ∀ fixed ∈ fixedTexts, fixed.toList ≠ [] ∧
    (fixed.toList.head? = some '\t' ↔ fixed ∈ recipes) ∧ fixed.toList.getLast? ≠ some '\\' := by
  simp [fixedTexts, recipes, buildRecipe, phonyRecipe, cleanRecipe]

/-- A row is blank or has a fixed text, and that of a recipe has nothing before it. -/
theorem rows_cases (rule : Rule) : ∀ row ∈ rule.rows,
    row = .blank ∨ row.fixed ∈ fixedTexts ∧ (row.IsRecipe → row.opening = "") := by
  have noRecipe : ":" ∉ recipes ∧ " = " ∉ recipes ∧ ": " ∉ recipes := by
    simp [recipes, buildRecipe, phonyRecipe, cleanRecipe]
  have isRecipe : buildRecipe ∈ recipes ∧ phonyRecipe ∈ recipes ∧ cleanRecipe ∈ recipes := by
    simp [recipes]
  cases rule <;> simp [Rule.rows, Row.IsRecipe, fixedTexts, noRecipe, isRecipe]

section

variable {rule : Rule} {row : Row}

/-- A row ends with a backslash only if an argument does that it ends with. -/
theorem getLast?_row (member : row ∈ rule.rows) :
    row.text.toList.getLast? = some '\\' ↔ row.closing.toList.getLast? = some '\\' := by
  obtain rfl | ⟨fixed, -⟩ := rows_cases rule row member
  · exact Iff.rfl
  · obtain ⟨solid, -, noBackslash⟩ := fixedTexts_frame row.fixed fixed
    rw [Row.text, String.toList_append, List.getLast?_append, String.toList_append,
      List.getLast?_append_of_ne_nil _ solid]
    cases row.closing.toList.getLast? with
    | none => simpa using noBackslash
    | some c => rfl

/-- A row begins with a tab only if it is a recipe, or if an argument does that it begins with. -/
theorem head?_row (member : row ∈ rule.rows) :
    row.text.toList.head? = some '\t' ↔
      row.IsRecipe ∨ row.opening.toList.head? = some '\t' := by
  obtain rfl | ⟨fixed, bare⟩ := rows_cases rule row member
  · simp [Row.text, Row.blank, Row.IsRecipe, recipes, buildRecipe, phonyRecipe, cleanRecipe]
  · obtain ⟨solid, tabbed, -⟩ := fixedTexts_frame row.fixed fixed
    rw [Row.text, String.append_assoc, String.toList_append, String.toList_append]
    cases start : row.opening.toList with
    | nil =>
        rw [List.nil_append, List.head?_append_of_ne_nil _ solid, tabbed]
        simp [Row.IsRecipe]
    | cons c rest =>
        have noRecipe : ¬ row.IsRecipe := fun isRecipe => by simp [bare isRecipe] at start
        simp [noRecipe]

end

/-- The lines of a Makefile begin and end as its rules say, except where an argument stands. A Makefile
consists of whole lines, those of the preamble and then the rows of the rules that the lines of the
script emit. A line ends with a backslash exactly if it ends with an argument that does. It begins with
a tab exactly if it is the recipe of a rule, or if it begins with an argument that does. -/
theorem convert_rows (source : String) :
    ∃ made rules, convert source = .ok made ∧
      Emitted [] ((lines source.toList).map Line.ofChars) rules ∧
      made.makefile.toList.getLast? = some '\n' ∧
      endedLines made.makefile.toList = endedLines preamble.toList ++
        (rules.flatMap Rule.rows).map (fun row => row.text.toList) ∧
      (∀ line ∈ endedLines preamble.toList,
        line.getLast? ≠ some '\\' ∧ line.head? ≠ some '\t') ∧
      ∀ row ∈ rules.flatMap Rule.rows,
        (row.text.toList.getLast? = some '\\' ↔ row.closing.toList.getLast? = some '\\') ∧
          (row.text.toList.head? = some '\t' ↔
            row.IsRecipe ∨ row.opening.toList.head? = some '\t') := by
  obtain ⟨made, rules, converted, emitted, text⟩ := convert_emitted source
  have single := newline_not_mem_rule emitted
  refine ⟨made, rules, converted, emitted, ?_, ?_, by decide +kernel, ?_⟩
  · rw [text, String.toList_append, List.getLast?_append]
    obtain empty | last := ended_rules rules
    · rw [empty, List.getLast?_nil, Option.none_or, getLast?_preamble]
    · rw [last, Option.some_or]
  · rw [text, endedLines_convert, List.map_flatMap]
    congr 1
    exact List.flatMap_congr fun rule member => endedLines_text (single rule member)
  · intro row member
    obtain ⟨rule, -, inRule⟩ := List.mem_flatMap.mp member
    exact ⟨getLast?_row inRule, head?_row inRule⟩

/-- A script without any call that has a recipe. One line of its Makefile ends with a backslash, and the
next one begins with a tab. -/
theorem convert_unguarded :
    let made : Conversion := ⟨preamble ++ "CFLAGS += \\\n\tA = 1\n", []⟩
    convert "add_flag(\"\\\")\ndefine_variable(\"\tA\", 1)\n" = .ok made ∧
      (∃ line ∈ endedLines made.makefile.toList, line.getLast? = some '\\') ∧
      ∃ line ∈ endedLines made.makefile.toList,
        line.head? = some '\t' ∧ ∀ recipe ∈ recipes, ¬ recipe.toList <+: line := by
  decide +kernel

end BuildScript.Make
