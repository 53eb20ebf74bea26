import BuildScript.Host.Rehearsal
import BuildScript.Proofs.Action.SingleLined
import BuildScript.Proofs.Script.Numbering
import BuildScript.Proofs.Script.SingleLine
import BuildScript.Proofs.Session.Composition
import BuildScript.Proofs.Session.Frame

/-!
# The report loses nothing

Whatever scripts a session has run on whatever hosts, no text in its settings holds a newline:

* **one line** (`takeLine_singleLined`): the arguments of its call lie on one line of the script,
  and what the call stores besides them has no newline either;
* **many lines, many scripts** (`takeLines_singleLined`, `Reachable.singleLined`): by induction.

So the settings can be read off the report (`report_lossless`), though it is made for people. Only
one thing is not told: where the name of a variable ends and its value begins, if there is more than
one equals sign.
-/

namespace BuildScript.Session

open Script

/-- The sessions that begin with the standard vocabulary and run scripts, on any hosts. -/
inductive Reachable : Session → Prop where
  | start (script : Path) (selection : Selection) : Reachable (start script selection)
  | run {s : Session} (reached : Reachable s) {σ : Type} (host : Host σ) (w : σ) (source : String) :
      Reachable ((s.runSource source).run host w).1.2

/-- The arguments of a call are single lines. -/
def CallLines (line : Line) : Prop :=
  ∀ call, line = .call call → ∀ arg ∈ call.args, '\n' ∉ arg.toList

/-! ## What lines store -/

variable {s : Session}

theorem act_singleLined (single : s.settings.SingleLined) {call : Call}
    (lines : ∀ arg ∈ call.args, '\n' ∉ arg.toList) (d : Directive) :
    (s.act d call).Ensures fun _ outcome => outcome.2.settings.SingleLined :=
  (Action.storesLines_action s.script lines d s.settings single).bind fun _ _ kept => kept

theorem takeLine_singleLined (single : s.settings.SingleLined) (number : Nat) {line : Line}
    (lines : CallLines line) :
    (s.takeLine number line).Ensures fun _ outcome => outcome.2.settings.SingleLined := by
  refine takeLine_ensures (P := fun s => s.settings.SingleLined) single number fun call here => ?_
  exact dispatch_ensures (P := fun s => s.settings.SingleLined) single
    fun d => act_singleLined single (lines call here) d

theorem takeLines_singleLined (single : s.settings.SingleLined) (summary : Summary)
    {ls : List (Nat × Line)} (lines : ∀ line ∈ ls.map Prod.snd, CallLines line) :
    (s.takeLines summary ls).Ensures fun _ outcome => outcome.2.settings.SingleLined := by
  refine takeLines_ensures (P := fun s => s.settings.SingleLined) ?_ single summary
  intro s numbered member single
  exact takeLine_singleLined (s := s.observe numbered.2) single numbered.1
    (lines numbered.2 (List.mem_map_of_mem member))

/-- The arguments of the calls of a script are single lines. -/
theorem callLines_parse (source : String) :
    ∀ line ∈ (parse source).map Prod.snd, CallLines line := by
  rintro line member call rfl
  rw [parse, map_snd_numbered] at member
  exact newline_not_mem_args member

theorem Reachable.singleLined (reached : s.Reachable) : s.settings.SingleLined := by
  induction reached with
  | start script selection => exact Settings.singleLined_initial
  | @run s reached σ host w source ih =>
      rw [(runSource_outcome host s w source).1]
      exact (takeLines_singleLined ih .empty (callLines_parse source)).run host w

/-! ## The result -/

/-- The reports of two sessions, each after any scripts on any hosts, are the same exactly if their
settings are: the compiler, the verbose switch, the build directory or that there is none, the
flags, the libraries, the directories of header files and of libraries, and the linker flags, each
list element by element, and the variables as the report shows them. -/
theorem report_lossless {s t : Session} (reached : s.Reachable) (reached' : t.Reachable) :
    s.settings.report = t.settings.report ↔ s.settings.Alike t.settings :=
  Settings.report_eq_iff reached.singleLined reached'.singleLined

/-- A session after a script that defines a variable, on a host without programs. -/
def defining (line : String) : Session :=
  let nothing : Rehearsal := ⟨.empty, [], .empty, .empty, .empty, .empty, "0", []⟩
  (((start ⟨"build.samba"⟩ (.ofTargets [])).runSource line).run Rehearsal.host nothing).1.2

/-- An equals sign with blanks around it can be in the name of a variable or in its value. -/
theorem report_lossless_equals_sign :
    let s := defining "define_variable(\"A = B\", \"C\")"
    let t := defining "define_variable(\"A\", \"B = C\")"
    s.settings.definitions ≠ t.settings.definitions ∧ s.settings.report = t.settings.report ∧
      s.settings.Alike t.settings := by
  intro s t
  have reached : s.Reachable := (Reachable.start _ _).run _ _ _
  have reached' : t.Reachable := (Reachable.start _ _).run _ _ _
  have same : s.settings.report = t.settings.report := by decide +kernel
  exact ⟨by decide +kernel, same, (report_lossless reached reached').mp same⟩

end BuildScript.Session
