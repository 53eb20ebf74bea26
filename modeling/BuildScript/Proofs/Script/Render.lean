import BuildScript.Proofs.Script.LineForm
import BuildScript.Proofs.Script.Numbering
import BuildScript.Proofs.Script.Pieces

/-!
# Writing script lines

`Line.render` writes a line the way it is read: a call with every argument between double quotes, a
label with its colon. Which lines can be written so that they are read again is a matter of their
names and arguments (`Line.Writable`), and these are exactly the lines that reading ever gives.

* `ofChars_chars`: a writable line is read back from what is written for it;
* `writable_of_ofChars`: every line that was read, unless it is malformed, is writable;
* `parse_renderScript`: the same for whole scripts, when no text of a line holds a newline.
-/

namespace BuildScript.Script

open Text

/-- The name of a label or of a call. -/
structure IsName (name : String) : Prop where
  nonempty : name ≠ ""
  noParen : '(' ∉ name.toList
  noHash : name.toList.head? ≠ some '#'
  startsClean : StartsClean name.toList
  endsClean : EndsClean name.toList

/-- An argument between double quotes. -/
def quotedArgument (arg : String) : List Char := '"' :: (arg.toList ++ ['"'])

/-- Arguments between double quotes, with commas between them. -/
def argumentList (args : List String) : List Char := [','].intercalate (args.map quotedArgument)

namespace Line

/-- The characters of a line. A malformed line has no text of its own. -/
def chars : Line → List Char
  | .blank | .malformed _ => []
  | .comment => ['#']
  | .label name => name.toList ++ [':']
  | .call ⟨name, args⟩ => name.toList ++ '(' :: (argumentList args ++ [')'])

/-- A line as it is written in a script. -/
def render (line : Line) : String := String.ofList line.chars

/-- The texts that a line holds. -/
def texts : Line → List String
  | .blank | .comment | .malformed _ => []
  | .label name => [name]
  | .call ⟨name, args⟩ => name :: args

/-- What is written for the line is read as this line. -/
def Writable : Line → Prop
  | .blank | .comment => True
  | .label name => IsName name
  | .call ⟨name, args⟩ => IsName name ∧ ∀ arg ∈ args, '"' ∉ arg.toList
  | .malformed _ => False

end Line

/-- A script with these lines. -/
def renderScript (ls : List Line) : String :=
  String.ofList (ls.flatMap fun line => line.chars ++ ['\n'])

/-! ## Argument lists -/

theorem Reading.quoted_arguments {cs : List Char} (read rest : List Char) (noQuote : '"' ∉ cs) :
    (Reading.quoted read).arguments (cs ++ '"' :: rest) =
      (read.reverse ++ cs) :: Reading.nothing.arguments rest := by
  induction cs generalizing read with
  | nil => simp [Reading.arguments]
  | cons c cs ih =>
      obtain ⟨other, noQuote⟩ : '"' ≠ c ∧ '"' ∉ cs := by simpa using noQuote
      rw [List.cons_append, Reading.arguments, if_neg (Ne.symm other), ih (c :: read) noQuote]
      simp

theorem Reading.nothing_arguments_quotedArgument {arg : String} (rest : List Char)
    (noQuote : '"' ∉ arg.toList) :
    Reading.nothing.arguments (quotedArgument arg ++ rest) =
      arg.toList :: Reading.nothing.arguments rest := by
  have cut : quotedArgument arg ++ rest = '"' :: (arg.toList ++ '"' :: rest) := by
    simp [quotedArgument]
  rw [cut, Reading.arguments, if_pos rfl, Reading.quoted_arguments [] rest noQuote]
  rfl

theorem argumentList_singleton (arg : String) : argumentList [arg] = quotedArgument arg := by
  simp [argumentList]

theorem argumentList_cons_cons (arg next : String) (args : List String) :
    argumentList (arg :: next :: args) =
      quotedArgument arg ++ ',' :: argumentList (next :: args) := by
  simp [argumentList, List.intercalate_cons_cons]

theorem arguments_argumentList {args : List String} (noQuote : ∀ arg ∈ args, '"' ∉ arg.toList) :
    arguments (argumentList args) = args := by
  have texts : Reading.nothing.arguments (argumentList args) = args.map String.toList := by
    induction args with
    | nil => rfl
    | cons arg args ih =>
        have first := noQuote arg List.mem_cons_self
        have later := ih fun other member => noQuote other (List.mem_cons_of_mem _ member)
        cases args with
        | nil =>
            rw [argumentList_singleton, ← List.append_nil (quotedArgument arg),
              Reading.nothing_arguments_quotedArgument [] first]
            rfl
        | cons next args =>
            -- The comma is stray: the argument before it has ended at its quote.
            rw [argumentList_cons_cons, Reading.nothing_arguments_quotedArgument _ first,
              Reading.arguments, if_neg (by decide), if_pos (by simp), later]
            rfl
  rw [arguments, texts, List.map_map]
  simp [Function.comp_def]

/-- No argument that was read holds a double quote. -/
theorem Reading.quote_not_mem_arguments (reading : Reading) (cs : List Char)
    (noQuote : '"' ∉ reading.text) : ∀ arg ∈ reading.arguments cs, '"' ∉ arg := by
  have bare (read : List Char) (noQuote : '"' ∉ read.reverse) : '"' ∉ bareArgument read :=
    fun member => noQuote ((stripEnd_isPrefix read.reverse).subset member)
  have cons (c : Char) (read : List Char) (other : ¬c = '"') (noQuote : '"' ∉ read.reverse) :
      '"' ∉ (c :: read).reverse := by
    simpa [Ne.symm other] using noQuote
  fun_induction Reading.arguments reading cs with
  | case1 => simp
  | case2 read => simpa using bare read noQuote
  | case3 read => simpa [Reading.text] using noQuote
  | case4 cs ih => exact ih (by simp [Reading.text])
  | case5 c cs other stray ih => exact ih noQuote
  | case6 c cs other solid ih => exact ih (cons c [] other (by simp))
  | case7 read cs ih => exact ih (by simp [Reading.text])
  | case8 read cs other ih =>
      intro arg member
      obtain rfl | member := List.mem_cons.mp member
      · exact bare read noQuote
      · exact ih (by simp [Reading.text]) arg member
  | case9 read c cs other part ih => exact ih (cons c read other noQuote)
  | case10 read cs ih =>
      intro arg member
      obtain rfl | member := List.mem_cons.mp member
      · exact noQuote
      · exact ih (by simp [Reading.text]) arg member
  | case11 read c cs other ih => exact ih (cons c read other noQuote)

/-! ## Reading what was written -/

theorem IsName.ne_nil {name : String} (valid : IsName name) : name.toList ≠ [] := by
  simpa using valid.nonempty

/-- What follows a name does not change how the text starts. -/
theorem IsName.head?_append {name : String} (valid : IsName name) (rest : List Char) :
    (name.toList ++ rest).head? = name.toList.head? :=
  List.head?_append_of_ne_nil _ valid.ne_nil

/-- A name with a solid character at the very end is not trimmed. -/
theorem IsName.strip_append {name : String} (valid : IsName name) (rest : List Char) {c : Char}
    (solid : isBlank c = false) :
    strip (name.toList ++ (rest ++ [c])) = name.toList ++ (rest ++ [c]) := by
  apply strip_eq_self
  · intro first member
    rw [valid.head?_append] at member
    exact valid.startsClean first member
  · rw [← List.append_assoc]
    exact endsClean_concat _ solid

theorem ofChars_chars {line : Line} (writable : line.Writable) : Line.ofChars line.chars = line := by
  cases line with
  | blank => rfl
  | comment => rfl
  | malformed error => exact writable.elim
  | label name =>
      have valid : IsName name := writable
      have whole : strip (Line.label name).chars = name.toList ++ [':'] :=
        valid.strip_append [] (c := ':') rfl
      rw [ofChars_eq_label_iff, whole, valid.head?_append]
      refine ⟨?_, valid.noHash, name.toList, rfl, ?_, valid.nonempty⟩
      · simpa using valid.noParen
      · exact (stripEnd_eq_self_iff _).mpr valid.endsClean
  | call call =>
      obtain ⟨name, args⟩ := call
      obtain ⟨valid, noQuote⟩ : IsName name ∧ ∀ arg ∈ args, '"' ∉ arg.toList := writable
      have whole : strip (Line.call ⟨name, args⟩).chars =
          name.toList ++ '(' :: (argumentList args ++ ')' :: []) :=
        valid.strip_append ('(' :: argumentList args) (c := ')') rfl
      rw [ofChars_eq_call_iff, whole, valid.head?_append]
      refine ⟨valid.noHash, name.toList, argumentList args, [], rfl, valid.noParen, by simp, ?_⟩
      have text : stripEnd name.toList = name.toList :=
        (stripEnd_eq_self_iff _).mpr valid.endsClean
      exact ⟨text, valid.nonempty, arguments_argumentList noQuote⟩

/-- What comes before a parenthesis or a colon in a line gives a name. -/
theorem isName_of_isPrefix {line before : List Char} {name : String} (within : before <+: strip line)
    (noHash : (strip line).head? ≠ some '#') (noParen : '(' ∉ before)
    (text : stripEnd before = name.toList) (nonempty : name ≠ "") : IsName name := by
  have inBefore : name.toList <+: before := text ▸ stripEnd_isPrefix before
  have inLine : name.toList <+: strip line := inBefore.trans within
  refine ⟨nonempty, fun member => noParen (inBefore.subset member), ?_, ?_, ?_⟩
  · obtain ⟨rest, whole⟩ := inLine
    rw [← whole, List.head?_append_of_ne_nil _ (by simpa using nonempty)] at noHash
    exact noHash
  · exact (startsClean_strip line).ofPrefix inLine
  · rw [← text]
    exact endsClean_stripEnd before

theorem writable_of_ofChars {text : List Char} {line : Line} (read : Line.ofChars text = line)
    (sense : ∀ error, line ≠ .malformed error) : line.Writable := by
  cases line with
  | blank => trivial
  | comment => trivial
  | malformed error => exact absurd rfl (sense error)
  | label name =>
      obtain ⟨noParen, noHash, before, whole, form, nonempty⟩ := ofChars_eq_label_iff.mp read
      have within : before <+: strip text := ⟨[':'], whole.symm⟩
      exact isName_of_isPrefix within noHash (fun member => noParen (within.subset member)) form
        nonempty
  | call call =>
      obtain ⟨noHash, before, raw, tail, whole, noParen, -, form, nonempty, args⟩ :=
        ofChars_eq_call_iff.mp read
      have within : before <+: strip text := ⟨_, whole.symm⟩
      refine ⟨isName_of_isPrefix within noHash noParen form nonempty, ?_⟩
      show ∀ arg ∈ call.args, '"' ∉ arg.toList
      rw [← args]
      intro arg member
      obtain ⟨chars, found, rfl⟩ := List.mem_map.mp member
      rw [String.toList_ofList]
      exact Reading.nothing.quote_not_mem_arguments raw (by simp [Reading.text]) chars found

/-! ## Scripts -/

theorem mem_argumentList {args : List String} {c : Char} (member : c ∈ argumentList args) :
    c = ',' ∨ c = '"' ∨ ∃ arg ∈ args, c ∈ arg.toList := by
  induction args with
  | nil => simp [argumentList] at member
  | cons arg args ih =>
      have first (inFirst : c ∈ quotedArgument arg) : c = '"' ∨ c ∈ arg.toList := by
        simpa [quotedArgument, or_comm, or_assoc] using inFirst
      cases args with
      | nil =>
          rw [argumentList_singleton] at member
          have found := first member
          exact .inr (found.imp_right fun found => ⟨arg, List.mem_cons_self, found⟩)
      | cons next args =>
          rw [argumentList_cons_cons, List.mem_append, List.mem_cons] at member
          rcases member with found | comma | later
          · exact .inr ((first found).imp_right fun found => ⟨arg, List.mem_cons_self, found⟩)
          · exact .inl comma
          · refine (ih later).imp_right (.imp_right ?_)
            rintro ⟨other, among, found⟩
            exact ⟨other, List.mem_cons_of_mem _ among, found⟩

/-- A line is one line of a script when its texts are. -/
theorem newline_not_mem_chars {line : Line} (single : ∀ text ∈ line.texts, '\n' ∉ text.toList) :
    '\n' ∉ line.chars := by
  cases line with
  | blank => simp [Line.chars]
  | comment => simp [Line.chars]
  | malformed error => simp [Line.chars]
  | label name =>
      have inName := single name List.mem_cons_self
      simpa [Line.chars] using inName
  | call call =>
      obtain ⟨name, args⟩ := call
      have inName := single name List.mem_cons_self
      have inArgs : '\n' ∉ argumentList args := by
        intro member
        rcases mem_argumentList member with comma | quote | ⟨arg, among, found⟩
        · cases comma
        · cases quote
        · exact single arg (List.mem_cons_of_mem _ among) found
      simp [Line.chars, inName, inArgs]

theorem getLast?_chars_ne_return (line : Line) : line.chars.getLast? ≠ some '\r' := by
  cases line with
  | blank => simp [Line.chars]
  | comment => simp [Line.chars]
  | malformed error => simp [Line.chars]
  | label name => simp [Line.chars]
  | call call =>
      rw [show (Line.call call).chars =
        (call.name.toList ++ '(' :: argumentList call.args) ++ [')'] by simp [Line.chars],
        List.getLast?_concat]
      decide

theorem lines_flatMap_chars {ls : List Line}
    (single : ∀ line ∈ ls, ∀ text ∈ line.texts, '\n' ∉ text.toList) :
    lines (ls.flatMap fun line => line.chars ++ ['\n']) = ls.map Line.chars := by
  induction ls with
  | nil => rfl
  | cons line ls ih =>
      have first := newline_not_mem_chars (single line List.mem_cons_self)
      have later := ih fun other member => single other (List.mem_cons_of_mem _ member)
      rw [List.flatMap_cons, List.append_assoc, List.singleton_append,
        lines_line _ first (getLast?_chars_ne_return line), later, List.map_cons]

theorem parse_renderScript {ls : List Line} (writable : ∀ line ∈ ls, line.Writable)
    (single : ∀ line ∈ ls, ∀ text ∈ line.texts, '\n' ∉ text.toList) :
    parse (renderScript ls) = ls.mapIdx fun i line => (i + 1, line) := by
  rw [parse, renderScript, String.toList_ofList, lines_flatMap_chars single, numbered_eq_mapIdx]
  apply List.ext_getElem
  · simp
  · intro i within _
    have below : i < ls.length := by simpa using within
    have member : ls[i] ∈ ls := List.getElem_mem below
    simp [ofChars_chars (writable _ member), Nat.add_comm]

/-- Writing and reading are inverse on the lines that reading gives. These are the calls and labels
with a name that trimming and cutting leave whole, calls only with arguments that hold no quote, and
the lines of a script are those it was written from, numbered from 1. -/
theorem render_inverse :
    (∀ (text : String) (line : Line), Line.ofString text = line →
        (∀ error, line ≠ .malformed error) → Line.ofString line.render = line) ∧
      (∀ call : Call, (∃ text, Line.ofString text = .call call) ↔
        IsName call.name ∧ ∀ arg ∈ call.args, '"' ∉ arg.toList) ∧
      (∀ name : String, (∃ text, Line.ofString text = .label name) ↔ IsName name) ∧
      ∀ ls : List Line,
        (∀ line ∈ ls, (∃ text, Line.ofString text = line) ∧ (∀ error, line ≠ .malformed error) ∧
            ∀ text ∈ line.texts, '\n' ∉ text.toList) →
          parse (renderScript ls) = ls.mapIdx fun i line => (i + 1, line) := by
  have back (line : Line) (writable : line.Writable) : Line.ofString line.render = line := by
    rw [Line.ofString, Line.render, String.toList_ofList]
    exact ofChars_chars writable
  refine ⟨?_, ?_, ?_, ?_⟩
  · intro text line read sense
    exact back line (writable_of_ofChars read sense)
  · intro call
    constructor
    · rintro ⟨text, read⟩
      exact writable_of_ofChars read fun error => by simp
    · intro writable
      exact ⟨_, back (.call call) writable⟩
  · intro name
    constructor
    · rintro ⟨text, read⟩
      exact writable_of_ofChars read fun error => by simp
    · intro valid
      exact ⟨_, back (.label name) valid⟩
  · intro ls given
    apply parse_renderScript
    · intro line member
      obtain ⟨⟨text, read⟩, sense, -⟩ := given line member
      exact writable_of_ofChars read sense
    · intro line member
      exact (given line member).2.2

/-- A call with arguments of both kinds is written and read again, alone and between other lines. -/
theorem render_inverse_say :
    let say : Line := .call ⟨"say", ["a, (b)", "c:#"]⟩
    let ls : List Line := [.label "debug", say, .blank, .comment]
    Line.ofString "  say ( \"a, (b)\" , c:# ) x" = say ∧ Line.ofString say.render = say ∧
      parse (renderScript ls) = [(1, .label "debug"), (2, say), (3, .blank), (4, .comment)] := by
  intro say ls
  obtain ⟨back, -, -, script⟩ := render_inverse
  have read : Line.ofString "  say ( \"a, (b)\" , c:# ) x" = say := rfl
  refine ⟨read, back _ say read (by simp [say]), ?_⟩
  rw [script ls ?_]
  · rfl
  · intro line member
    simp only [ls, List.mem_cons, List.not_mem_nil, or_false] at member
    rcases member with rfl | rfl | rfl | rfl
    · exact ⟨⟨"debug:", rfl⟩, by simp, by decide⟩
    · exact ⟨⟨_, read⟩, by simp [say], by decide⟩
    · exact ⟨⟨"", rfl⟩, by simp, by decide⟩
    · exact ⟨⟨"# note", rfl⟩, by simp, by decide⟩

end BuildScript.Script
