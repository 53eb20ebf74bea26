import BuildScript.Vocabulary
import Mathlib.Data.List.Basic

/-!
# The standard vocabulary

The standard vocabulary binds every directive under its own name with its own arity, and it binds no
other name (`standard_get?_iff`).
-/

namespace BuildScript

theorem Directive.names_nodup : (Directive.all.map Directive.name).Nodup := by decide +kernel

namespace Vocabulary

theorem standard_entries :
    standard.bindings.entries = Directive.all.map fun d => (d.name, ⟨d.arity, d⟩) := by
  decide +kernel

theorem standard_get?_iff (name : String) (binding : Binding) :
    standard.get? name = some binding ↔
      ∃ d : Directive, d.name = name ∧ binding = ⟨d.arity, d⟩ := by
  have distinct : standard.bindings.keys.Nodup := by
    rw [OrderedMap.keys, standard_entries, List.map_map]
    exact Directive.names_nodup
  rw [get?, ← OrderedMap.mem_entries_iff _ distinct, standard_entries, List.mem_map]
  constructor
  · rintro ⟨d, -, same⟩
    cases same
    exact ⟨d, rfl, rfl⟩
  · rintro ⟨d, rfl, rfl⟩
    exact ⟨d, d.mem_all, rfl⟩

theorem standard_get?_name (d : Directive) : standard.get? d.name = some ⟨d.arity, d⟩ :=
  (standard_get?_iff _ _).mpr ⟨d, rfl, rfl⟩

end Vocabulary

end BuildScript
