/-!
# Calls

A call names a directive and gives it arguments. `exactly` hands the arguments out only in the
number that is asked for; `ArityMismatch` says what is wrong when there are more or fewer.
-/

namespace BuildScript.Script

/-- A call of a directive. -/
structure Call where
  name : String
  args : List String
  deriving DecidableEq, Repr

/-- The arguments of a call, if there are exactly `n` of them. -/
def Call.exactly (call : Call) (n : Nat) : Option (List String) :=
  if call.args.length = n then some call.args else none

/-- A directive was called with the wrong number of arguments. -/
structure ArityMismatch where
  name : String
  expected : Nat
  found : Nat
  deriving DecidableEq, Repr

/-- The wording of an arity mismatch. -/
def ArityMismatch.message (mismatch : ArityMismatch) : String :=
  s!"Directive '{mismatch.name}' expects {mismatch.expected} argument(s), got {mismatch.found}"

/-- The mismatch between a call and a directive that takes `expected` arguments. -/
def Call.mismatch (call : Call) (expected : Nat) : ArityMismatch :=
  ⟨call.name, expected, call.args.length⟩

end BuildScript.Script
