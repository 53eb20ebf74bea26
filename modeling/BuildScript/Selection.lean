import BuildScript.Script.Line

/-!
# Target selection

Labels cut a script into segments. A run asks for some targets, and of the calls those run that
stand before the first label or in a segment whose label is one of the requested targets. A run
that names no target asks for the target `default`.
-/

namespace BuildScript

/-- The targets of a run, and the label that was read last. -/
structure Selection where
  requested : List String
  label : Option String
  deriving DecidableEq, Repr

namespace Selection

/-- The target of a run that names none. -/
def defaultTarget : String := "default"

/-- A selection of the given targets, before the first label. -/
def ofTargets (targets : List String) : Selection :=
  ⟨if targets.isEmpty then [defaultTarget] else targets, none⟩

/-- The selection after a line: a label starts its segment. -/
def observe (s : Selection) : Script.Line → Selection
  | .label name => { s with label := some name }
  | _ => s

/-- Whether calls at this place run. -/
def isActive (s : Selection) : Bool :=
  match s.label with
  | none => true
  | some label => s.requested.contains label

/-- Whether this line is a call that runs. -/
def applies (s : Selection) (line : Script.Line) : Bool := line.isCall && s.isActive

end Selection

end BuildScript
