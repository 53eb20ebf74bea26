import BuildScript.Make.Rule
import BuildScript.Make.Sink

/-!
# Writing a Makefile

A Makefile starts with the preamble and grows by one rule for each call that has a counterpart.
The rule `clean` is written at most once. Whether it has been asked for is remembered before it is
written, so a sink that refuses it is not asked again.
-/

namespace BuildScript.Make

open Script

/-- Why a line adds nothing to a Makefile. -/
inductive ConversionError where
  /-- Calls of this name have no counterpart. -/
  | unsupported (name : String)
  | arity (mismatch : ArityMismatch)
  | malformed (error : LineError)
  /-- The sink refused the text. -/
  | refused
  deriving DecidableEq, Repr

/-- The wording of a refusal. -/
def refusal : String := "an error occurred when formatting an argument"

/-- The wording of a conversion error. -/
def ConversionError.message : ConversionError → String
  | .unsupported name => s!"Directive '{name}' is not supported in translation mode"
  | .arity mismatch => mismatch.message
  | .malformed error => error.message
  | .refused => s!"Failed to write Makefile: {refusal}"

/-- The rule of a call. -/
def Rule.ofCall (call : Call) : Except ConversionError Rule :=
  match RuleKind.named? call.name with
  | none => .error (.unsupported call.name)
  | some kind =>
    match kind.rule? call.args with
    | some rule => .ok rule
    | none => .error (.arity (call.mismatch kind.arity))

/-- A Makefile under way. -/
structure Makefile (ω : Type) where
  out : ω
  cleanSeen : Bool

namespace Makefile

variable {ω : Type}

/-- Writes the preamble; says whether it was taken. -/
def start (sink : Sink ω) (out : ω) : Bool × Makefile ω :=
  let (taken, out) := sink.put preamble out
  (taken, ⟨out, false⟩)

/-- Writes a rule. -/
def write (sink : Sink ω) (rule : Rule) (m : Makefile ω) :
    Except ConversionError Unit × Makefile ω :=
  match sink.putAll rule.pieces m.out with
  | (true, out) => (.ok (), { m with out })
  | (false, out) => (.error .refused, { m with out })

/-- Adds a rule, except for a repeated `clean`. -/
def add (sink : Sink ω) (rule : Rule) (m : Makefile ω) : Except ConversionError Unit × Makefile ω :=
  if rule = .clean then
    if m.cleanSeen then (.ok (), m) else write sink rule { m with cleanSeen := true }
  else write sink rule m

/-- Adds what a script line amounts to. -/
def emit (sink : Sink ω) (line : Line) (m : Makefile ω) : Except ConversionError Unit × Makefile ω :=
  match line with
  | .blank | .comment | .label _ => (.ok (), m)
  | .malformed error => (.error (.malformed error), m)
  | .call call =>
    match Rule.ofCall call with
    | .error error => (.error error, m)
    | .ok rule => add sink rule m

end Makefile

end BuildScript.Make
