import BuildScript.Selection

/-!
# Segments of a script

The label in force at a line is the nearest label above it. Above the first label of a script it is
the label that was held before the script began, if there was one. A line is in scope if no label is
in force at it, or a requested one.

A selection is active exactly if the line that comes next is in scope (`isActive_iff`), and a line that
it observes counts as a line above (`inScope_cons`). So scope can be read off the text without running
anything.
-/

namespace BuildScript

namespace Script

/-- The name that a label gives to its segment. -/
def Line.label? : Line → Option String
  | .label name => some name
  | .blank | .comment | .call _ | .malformed _ => none

/-- The label in force below the lines `above`, where `held` was in force before them. -/
def labelInForce (held : Option String) (above : List Line) : Option String :=
  (above.filterMap Line.label?).getLast?.or held

theorem labelInForce_nil (held : Option String) : labelInForce held [] = held := rfl

theorem labelInForce_cons (held : Option String) (line : Line) (below : List Line) :
    labelInForce held (line :: below) = labelInForce (line.label?.or held) below := by
  cases named : line.label? with
  | none => simp [labelInForce, named]
  | some name =>
      cases last : (below.filterMap Line.label?).getLast? with
      | none => simp [labelInForce, named, List.getLast?_cons, last]
      | some inner => simp [labelInForce, named, List.getLast?_cons, last]

end Script

namespace Selection

open Script

/-- No label is in force below the lines `above`, or a requested one. -/
def InScope (s : Selection) (above : List Line) : Prop :=
  ∀ name ∈ labelInForce s.label above, name ∈ s.requested

instance (s : Selection) (above : List Line) : Decidable (s.InScope above) :=
  inferInstanceAs (Decidable (∀ name ∈ labelInForce s.label above, name ∈ s.requested))

theorem isActive_iff (s : Selection) : s.isActive = true ↔ s.InScope [] := by
  rw [InScope, labelInForce_nil]
  cases held : s.label with
  | none => simp [isActive, held]
  | some name => simp [isActive, held]

theorem label_observe (s : Selection) (line : Line) :
    (s.observe line).label = line.label?.or s.label := by
  cases line <;> rfl

theorem requested_observe (s : Selection) (line : Line) :
    (s.observe line).requested = s.requested := by
  cases line <;> rfl

/-- A line that is no label changes nothing about where a run is. -/
theorem observe_of_label?_eq_none (s : Selection) {line : Line} (plain : line.label? = none) :
    s.observe line = s := by
  cases line with
  | label name => cases plain
  | blank => rfl
  | comment => rfl
  | call call => rfl
  | malformed error => rfl

/-- Whether a line is in scope may be asked above or below the lines that were observed. -/
theorem inScope_cons (s : Selection) (line : Line) (above : List Line) :
    s.InScope (line :: above) ↔ (s.observe line).InScope above := by
  simp only [InScope, labelInForce_cons, label_observe, requested_observe]

end Selection

end BuildScript
