/-!
# Faults

A service of the host that fails says so with a fault: what failed, and under it the causes, down
to the root. Each layer that passes a fault on may put its own account on top.
-/

namespace BuildScript

/-- Why a service of the host failed. -/
structure Fault where
  /-- The outermost account. -/
  message : String
  /-- What lies under it, the root last. -/
  causes : List String
  deriving DecidableEq, Repr, Inhabited

namespace Fault

/-- A fault without further causes. -/
def ofMessage (message : String) : Fault := ⟨message, []⟩

/-- The fault with another account on top. -/
def under (fault : Fault) (context : String) : Fault := ⟨context, fault.message :: fault.causes⟩

/-- All accounts, the outermost first. -/
def chain (fault : Fault) : List String := fault.message :: fault.causes

/-- The fault whose accounts are listed, the outermost first. -/
def ofChain : List String → Fault
  | [] => ⟨"", []⟩
  | message :: causes => ⟨message, causes⟩

/-! ## The report -/

/-- A text with `first` before its first line and `rest` before each other line. -/
def indent (first rest : String) (text : String) : String :=
  first ++ String.ofList (text.toList.flatMap fun c => if c = '\n' then c :: rest.toList else [c])

/-- A number right-aligned in five columns, as the causes of a report are numbered. -/
def causeNumber (n : Nat) : String :=
  let digits := toString n
  String.ofList (List.replicate (5 - digits.length) ' ') ++ digits ++ ": "

/-- The causes in a report, one below the other; several are numbered. -/
def causeLines : List String → List String
  | [cause] => [indent "    " "    " cause]
  | causes => causes.mapIdx fun n cause => indent (causeNumber n) "       " cause

/-- What people are told about a fault, without the last line end. -/
def report (fault : Fault) : String :=
  let causes := if fault.causes.isEmpty then [] else ["", "Caused by:"] ++ causeLines fault.causes
  String.intercalate "\n" (("Error: " ++ fault.message) :: causes)

end Fault

end BuildScript
