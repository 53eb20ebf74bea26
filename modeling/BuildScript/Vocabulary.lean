import BuildScript.Directive
import BuildScript.OrderedMap

/-!
# Vocabularies

A vocabulary says which names a script may call, how many arguments each takes, and what each
does. The standard vocabulary binds every directive under its own name; further bindings may give
a directive another name or arity, or take a name away from another directive.
-/

namespace BuildScript

/-- What a name is bound to. -/
structure Binding where
  arity : Nat
  directive : Directive
  deriving DecidableEq, Repr

/-- The names that a script may call. -/
structure Vocabulary where
  bindings : OrderedMap Binding
  deriving DecidableEq, Repr

namespace Vocabulary

/-- The vocabulary without names. -/
def empty : Vocabulary := ⟨.empty⟩

/-- The binding of a name. -/
def get? (v : Vocabulary) (name : String) : Option Binding := v.bindings.get? name

/-- Binds a name, and hands out its former binding. -/
def register (v : Vocabulary) (name : String) (arity : Nat) (directive : Directive) :
    Option Binding × Vocabulary :=
  (v.get? name, ⟨v.bindings.insert name ⟨arity, directive⟩⟩)

/-- The number of bound names. -/
def size (v : Vocabulary) : Nat := v.bindings.size

/-- Whether no name is bound. -/
def isEmpty (v : Vocabulary) : Bool := v.bindings.isEmpty

/-- Every directive under its own name. -/
def standard : Vocabulary :=
  Directive.all.foldl (fun v d => (v.register d.name d.arity d).2) empty

instance : Inhabited Vocabulary := ⟨standard⟩

end Vocabulary

end BuildScript
