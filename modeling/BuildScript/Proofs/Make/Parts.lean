import BuildScript.Make.Makefile
import Mathlib.Data.List.Basic
import Mathlib.Logic.ExistsUnique

/-!
# What each line adds to a Makefile

Every line of a script is of one of three kinds, and which one can be told without a Makefile under
way:

* it emits a rule (`Emits`): a call of one of the nine kinds with as many arguments as the kind takes,
  where of all calls `clean()` only the first counts;
* it is silent (`Silent`): blank, a comment, a label, or a later `clean()`;
* it is warned about (`Warned`): malformed, a call of another name, or with another number of
  arguments.

The lines above matter only for `clean()`. `part` computes the kind with what belongs to it, and
`yields_iff` says that no line is of two kinds or of none.
-/

namespace BuildScript.Make

open Script

namespace RuleKind

theorem named?_name (kind : RuleKind) : named? kind.name = some kind := by cases kind <;> rfl

theorem name_of_named? {name : String} {kind : RuleKind} (found : named? name = some kind) :
    name = kind.name := by
  have same := List.find?_some found
  exact (eq_of_beq same).symm

theorem named?_eq_none_iff (name : String) :
    named? name = none ↔ ∀ kind : RuleKind, name ≠ kind.name := by
  constructor
  · rintro missing kind rfl
    rw [named?_name] at missing
    cases missing
  · intro other
    cases found : named? name with
    | none => rfl
    | some kind => exact absurd (name_of_named? found) (other kind)

/-- A kind makes a rule of as many arguments as it takes, and of no other number. -/
theorem rule?_isSome_iff (kind : RuleKind) (args : List String) :
    (kind.rule? args).isSome = true ↔ args.length = kind.arity := by
  match args with
  | [] => cases kind <;> simp [rule?, arity]
  | [a] => cases kind <;> simp [rule?, arity]
  | [a, b] => cases kind <;> simp [rule?, arity]
  | a :: b :: c :: rest => cases kind <;> simp [rule?, arity]

theorem rule?_eq_clean_iff (kind : RuleKind) (args : List String) :
    kind.rule? args = some .clean ↔ kind = .clean ∧ args = [] := by
  match args with
  | [] => cases kind <;> simp [rule?]
  | [a] => cases kind <;> simp [rule?]
  | [a, b] => cases kind <;> simp [rule?]
  | a :: b :: c :: rest => cases kind <;> simp [rule?]

end RuleKind

/-- The line `clean()`. -/
def cleanCall : Line := .call ⟨RuleKind.clean.name, []⟩

/-- The rule that a line has as its counterpart: it is a call of a kind with as many arguments as the
kind takes. -/
inductive Counterpart : Line → Rule → Prop
  | ofKind (kind : RuleKind) (args : List String) (rule : Rule) (count : args.length = kind.arity)
      (made : kind.rule? args = some rule) : Counterpart (.call ⟨kind.name, args⟩) rule

/-- The line emits its counterpart. Of the calls `clean()` only the first does. -/
def Emits (above : List Line) (line : Line) (rule : Rule) : Prop :=
  Counterpart line rule ∧ (line = cleanCall → cleanCall ∉ above)

/-- The line adds nothing, and nothing is wrong with it. -/
inductive Silent (above : List Line) : Line → Prop
  | blank : Silent above .blank
  | comment : Silent above .comment
  | label (name : String) : Silent above (.label name)
  | repeated (earlier : cleanCall ∈ above) : Silent above cleanCall

/-- The line cannot be converted, and this is why. -/
inductive Warned : Line → ConversionError → Prop
  | malformed (error : LineError) : Warned (.malformed error) (.malformed error)
  | unsupported (call : Call) (other : ∀ kind : RuleKind, call.name ≠ kind.name) :
      Warned (.call call) (.unsupported call.name)
  | arity (kind : RuleKind) (args : List String) (count : args.length ≠ kind.arity) :
      Warned (.call ⟨kind.name, args⟩) (.arity ⟨kind.name, kind.arity, args.length⟩)

/-- What a line comes to. -/
inductive Part where
  | adds (rule : Rule)
  | nothing
  | warns (error : ConversionError)
  deriving DecidableEq, Repr

namespace Part

/-- The rule that is emitted. -/
def rule? : Part → Option Rule
  | .adds rule => some rule
  | .nothing | .warns _ => none

/-- The error that is warned of. -/
def error? : Part → Option ConversionError
  | .warns error => some error
  | .adds _ | .nothing => none

end Part

/-- The line below the lines `above` comes to the part. -/
def Yields (above : List Line) (line : Line) : Part → Prop
  | .adds rule => Emits above line rule
  | .nothing => Silent above line
  | .warns error => Warned line error

/-- What a line below the lines `above` comes to. -/
def part (above : List Line) : Line → Part
  | .blank | .comment | .label _ => .nothing
  | .malformed error => .warns (.malformed error)
  | .call call =>
    match Rule.ofCall call with
    | .error error => .warns error
    | .ok rule => if rule = .clean ∧ cleanCall ∈ above then .nothing else .adds rule

/-! ## Every line is of one kind -/

/-- What is made of a call: its name is of no kind, or it has the wrong number of arguments for its
kind, or there is a rule. -/
theorem ofCall_cases (call : Call) :
    ((∀ kind : RuleKind, call.name ≠ kind.name) ∧
        Rule.ofCall call = .error (.unsupported call.name)) ∨
      ∃ kind : RuleKind, call.name = kind.name ∧
        ((call.args.length ≠ kind.arity ∧
            Rule.ofCall call = .error (.arity (call.mismatch kind.arity))) ∨
          ∃ rule, call.args.length = kind.arity ∧ kind.rule? call.args = some rule ∧
            Rule.ofCall call = .ok rule) := by
  cases found : RuleKind.named? call.name with
  | none =>
      refine .inl ⟨(RuleKind.named?_eq_none_iff _).mp found, ?_⟩
      simp only [Rule.ofCall, found]
  | some kind =>
      refine .inr ⟨kind, RuleKind.name_of_named? found, ?_⟩
      have count := kind.rule?_isSome_iff call.args
      cases made : kind.rule? call.args with
      | none =>
          refine .inl ⟨fun fits => ?_, by simp only [Rule.ofCall, found, made]⟩
          simpa [made] using count.mpr fits
      | some rule =>
          refine .inr ⟨rule, count.mp (by rw [made]; rfl), rfl, ?_⟩
          simp only [Rule.ofCall, found, made]

theorem ofCall_eq_ok_iff (call : Call) (rule : Rule) :
    Rule.ofCall call = .ok rule ↔ Counterpart (.call call) rule := by
  constructor
  · intro made
    obtain ⟨-, failed⟩ | ⟨kind, name, ⟨-, failed⟩ | ⟨_, count, fits, found⟩⟩ := ofCall_cases call
    · rw [made] at failed
      cases failed
    · rw [made] at failed
      cases failed
    · obtain ⟨_, args⟩ := call
      obtain rfl := Except.ok.inj (made.symm.trans found)
      subst name
      exact .ofKind kind args rule count fits
  · intro counterpart
    cases counterpart with
    | ofKind kind args _ count made => simp only [Rule.ofCall, RuleKind.named?_name, made]

theorem ofCall_eq_error_iff (call : Call) (error : ConversionError) :
    Rule.ofCall call = .error error ↔ Warned (.call call) error := by
  constructor
  · intro failed
    obtain ⟨other, found⟩ | ⟨kind, name, ⟨count, found⟩ | ⟨_, -, -, made⟩⟩ := ofCall_cases call
    · obtain rfl := Except.error.inj (failed.symm.trans found)
      exact .unsupported call other
    · obtain ⟨_, args⟩ := call
      obtain rfl := Except.error.inj (failed.symm.trans found)
      subst name
      exact .arity kind args count
    · rw [failed] at made
      cases made
  · intro warned
    cases warned with
    | unsupported _ other =>
        simp only [Rule.ofCall, (RuleKind.named?_eq_none_iff _).mpr other]
    | arity kind args count =>
        have none : kind.rule? args = none := by
          rw [← Option.not_isSome_iff_eq_none, RuleKind.rule?_isSome_iff]
          exact count
        simp only [Rule.ofCall, RuleKind.named?_name, none]
        rfl

/-- A line whose counterpart is the rule `clean` is the call `clean()`. -/
theorem Counterpart.eq_clean_iff {line : Line} {rule : Rule} (counterpart : Counterpart line rule) :
    rule = .clean ↔ line = cleanCall := by
  cases counterpart with
  | ofKind kind args _ count made =>
      constructor
      · rintro rfl
        obtain ⟨rfl, rfl⟩ := (kind.rule?_eq_clean_iff args).mp made
        rfl
      · intro same
        obtain ⟨name, rfl⟩ := Call.mk.inj (Line.call.inj same)
        have clean : kind = .clean := by
          have found := kind.named?_name
          rw [name, RuleKind.named?_name] at found
          exact (Option.some.inj found).symm
        subst clean
        exact (Option.some.inj made).symm

theorem part_of_emits {above : List Line} {line : Line} {rule : Rule}
    (emits : Emits above line rule) : part above line = .adds rule := by
  obtain ⟨counterpart, first⟩ := emits
  have clean := counterpart.eq_clean_iff
  cases line with
  | call call =>
      simp only [part, (ofCall_eq_ok_iff call rule).mpr counterpart]
      rw [if_neg]
      rintro ⟨isClean, earlier⟩
      exact first (clean.mp isClean) earlier
  | blank => cases counterpart
  | comment => cases counterpart
  | label name => cases counterpart
  | malformed error => cases counterpart

theorem part_of_silent {above : List Line} {line : Line} (silent : Silent above line) :
    part above line = .nothing := by
  cases silent with
  | blank => rfl
  | comment => rfl
  | label name => rfl
  | repeated earlier =>
      show (if _ then _ else _) = _
      exact if_pos ⟨rfl, earlier⟩

theorem part_of_warned (above : List Line) {line : Line} {error : ConversionError}
    (warned : Warned line error) : part above line = .warns error := by
  cases line with
  | call call => simp only [part, (ofCall_eq_error_iff call error).mpr warned]
  | malformed error => cases warned; rfl
  | blank => cases warned
  | comment => cases warned
  | label name => cases warned

theorem yields_part (above : List Line) (line : Line) : Yields above line (part above line) := by
  cases line with
  | blank => exact .blank
  | comment => exact .comment
  | label name => exact .label name
  | malformed error => exact .malformed error
  | call call =>
      cases made : Rule.ofCall call with
      | error error =>
          simp only [part, made]
          exact (ofCall_eq_error_iff call error).mp made
      | ok rule =>
          have counterpart := (ofCall_eq_ok_iff call rule).mp made
          simp only [part, made]
          split
          · rename_i again
            rw [counterpart.eq_clean_iff.mp again.1]
            exact .repeated again.2
          · rename_i once
            exact ⟨counterpart, fun clean earlier =>
              once ⟨counterpart.eq_clean_iff.mpr clean, earlier⟩⟩

/-- A line comes to exactly one part. -/
theorem yields_iff (above : List Line) (line : Line) (p : Part) :
    Yields above line p ↔ p = part above line := by
  constructor
  · intro yields
    cases p with
    | adds rule => exact (part_of_emits yields).symm
    | nothing => exact (part_of_silent yields).symm
    | warns error => exact (part_of_warned above yields).symm
  · rintro rfl
    exact yields_part above line

end BuildScript.Make
