import BuildScript.CommandLine.Declaration

/-!
# Rules for parsers

What a parser of command lines is relied on for, and nothing else is known of it. `Reads` says how
arguments are written: one rule for each way to give a declared argument. `Reports` says what is
reported for an argument, by its kind and by how often and with which value it was given. A parser
follows the rules if it accepts what can be read and reports what it should (`FollowsRules`).

Nothing is said about command lines that cannot be read in this way, such as those with an unknown
switch; a parser may accept some of them in other ways.
-/

namespace BuildScript

/-- The text begins with a dash. -/
def Dashed (text : String) : Prop := text.toList.head? = some '-'

instance (text : String) : Decidable (Dashed text) := inferInstanceAs (Decidable (_ = _))

namespace CommandLine

variable {ι ε : Type}

/-- The occurrences of declared arguments that a command line is read as. -/
inductive Reads (declare : ι → Declaration) : List String → List (Occurrence ι) → Prop
  | nil : Reads declare [] []
  /-- A flag, or an argument that is counted, in one of its forms. -/
  | form {a : ι} {text : String} {rest : List String} {os : List (Occurrence ι)}
      (kind : (declare a).kind = .flag ∨ (declare a).kind = .count)
      (isForm : text ∈ (declare a).forms) (further : Reads declare rest os) :
      Reads declare (text :: rest) (⟨a, []⟩ :: os)
  /-- A value behind the long form and an equals sign. -/
  | attached {a : ι} {long value : String} {rest : List String} {os : List (Occurrence ι)}
      (kind : (declare a).kind = .single) (hasLong : (declare a).long? = some long)
      (full : value ≠ "") (further : Reads declare rest os) :
      Reads declare (("--" ++ long ++ "=" ++ value) :: rest) (⟨a, [value]⟩ :: os)
  /-- A value after one of the forms, in an argument of its own that does not begin with a dash. -/
  | apart {a : ι} {text value : String} {rest : List String} {os : List (Occurrence ι)}
      (kind : (declare a).kind = .single) (isForm : text ∈ (declare a).forms) (full : value ≠ "")
      (plain : ¬ Dashed value) (further : Reads declare rest os) :
      Reads declare (text :: value :: rest) (⟨a, [value]⟩ :: os)
  /-- A value that is left out, where that may be: nothing follows that could be the value. -/
  | leftOut {a : ι} {text : String} {rest : List String} {os : List (Occurrence ι)}
      (kind : (declare a).kind = .single) (optional : (declare a).optional = true)
      (isForm : text ∈ (declare a).forms) (noValue : ∀ next ∈ rest.head?, Dashed next)
      (further : Reads declare rest os) : Reads declare (text :: rest) (⟨a, []⟩ :: os)
  /-- An argument that stands for itself. It does not begin with a dash. -/
  | word {a : ι} {text : String} {rest : List String} {os : List (Occurrence ι)}
      (kind : (declare a).kind = .many) (plain : ¬ Dashed text) (further : Reads declare rest os) :
      Reads declare (text :: rest) (⟨a, [text]⟩ :: os)

variable [DecidableEq ι]

/-- How often an argument was given. -/
def times (a : ι) (os : List (Occurrence ι)) : Nat := os.countP (·.argument = a)

/-- Flags and arguments with one value are given at most once. -/
def Once (declare : ι → Declaration) (os : List (Occurrence ι)) : Prop :=
  ∀ a, (declare a).kind = .flag ∨ (declare a).kind = .single → times a os ≤ 1

/-- What is reported for these occurrences. -/
structure Reports (declare : ι → Declaration) (os : List (Occurrence ι)) (m : Matches ι) :
    Prop where
  /-- A flag is reported if it was given. -/
  flag : ∀ a, (declare a).kind = .flag → (m.given a = true ↔ times a os ≠ 0)
  /-- The number of times is reported in eight bits, at most the greatest number that fits. -/
  count : ∀ a, (declare a).kind = .count → m.count a = min 255 (times a os)
  value : ∀ a text, (declare a).kind = .single → ⟨a, [text]⟩ ∈ os → m.values a = [text]
  /-- For a value that was left out stands the one that is declared for that. -/
  missing : ∀ a text, (declare a).kind = .single → ⟨a, []⟩ ∈ os →
    (declare a).missing? = some text → m.values a = [text]
  /-- For an argument that was not given stands its default, if there is one. -/
  default : ∀ a, (declare a).kind = .single ∨ (declare a).kind = .many → times a os = 0 →
    m.values a = (declare a).default?.toList
  /-- Arguments that stand for themselves are reported in their order. -/
  collected : ∀ a, (declare a).kind = .many → times a os ≠ 0 →
    m.values a = (os.filter (·.argument = a)).flatMap Occurrence.values

/-- The parser accepts what can be read, and reports what it should. -/
def FollowsRules (declare : ι → Declaration) (parse : Parser ι ε) : Prop :=
  ∀ arguments os, Reads declare arguments os → Once declare os →
    ∃ m, parse arguments = .ok m ∧ Reports declare os m

end CommandLine

end BuildScript
