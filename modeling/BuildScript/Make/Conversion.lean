import BuildScript.Make.Makefile

/-!
# Converting a script into a Makefile

`convert` turns a whole script into a Makefile and collects one warning, with its line number,
for each line that adds nothing although it should mean something. A text takes everything that
is written to it, so a conversion into text always succeeds; `convertInto` covers sinks that
may refuse.
-/

namespace BuildScript.Make

open Script

/-- A sink refused text. -/
inductive Refused where
  | refused
  deriving DecidableEq, Repr

/-- A Makefile, and the lines of the script that could not be converted. -/
structure Conversion where
  makefile : String
  warnings : List (Nat × ConversionError)
  deriving DecidableEq, Repr

/-- Emits numbered lines, up to the first that the sink refuses, and collects the warnings. -/
def emitAll {ω : Type} (sink : Sink ω) :
    List (Nat × Line) → Makefile ω → Except Refused (List (Nat × ConversionError) × Makefile ω)
  | [], m => .ok ([], m)
  | (number, line) :: rest, m =>
    match m.emit sink line with
    | (.ok (), m) => emitAll sink rest m
    | (.error .refused, _) => .error .refused
    | (.error error, m) => do
      let (warnings, m) ← emitAll sink rest m
      .ok ((number, error) :: warnings, m)

/-- Converts a script into a sink: what was written, and the warnings. -/
def convertInto {ω : Type} (sink : Sink ω) (out : ω) (source : String) :
    Except Refused (List (Nat × ConversionError) × ω) :=
  match Makefile.start sink out with
  | (false, _) => .error .refused
  | (true, m) => do
    let (warnings, m) ← emitAll sink (parse source) m
    .ok (warnings, m.out)

/-- The Makefile of a script. -/
def convert (source : String) : Except Refused Conversion := do
  let (warnings, makefile) ← convertInto unlimited "" source
  .ok ⟨makefile, warnings⟩

end BuildScript.Make
