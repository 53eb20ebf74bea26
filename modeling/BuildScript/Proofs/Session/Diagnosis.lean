import BuildScript.Proofs.Action.CleanFailure
import BuildScript.Proofs.Make.Emission
import BuildScript.Proofs.Session.Accounting
import BuildScript.Proofs.Vocabulary

/-!
# Runs and conversions find the same faults

Running a script and converting it into a Makefile are two readings of the same lines with two
tables of names. They find the same faults in it, as far as both look for them. A run without an
exit, for which every label is requested, takes all lines (`ledger_lines`) and all of them are in
scope, so it reports the malformed lines that the conversion warns of. Where both tables have a
name, they agree on the number of its arguments (`arity_eq_of_name_eq`), and the directive itself
never complains of that number (`failsCleanly_of_shared`), so both find the same calls to have the
wrong number (`dispatched_arity_iff`).
-/

namespace BuildScript

open Script Text

variable {σ : Type}

/-! ## Names that both tables have -/

/-- A directive and a kind of rule with the same name take the same number of arguments. -/
theorem arity_eq_of_name_eq (d : Directive) (kind : Make.RuleKind) (same : d.name = kind.name) :
    d.arity = kind.arity := by
  have all : ∀ d ∈ Directive.all, ∀ kind ∈ Make.RuleKind.all,
      d.name = kind.name → d.arity = kind.arity := by decide +kernel
  exact all d d.mem_all kind kind.mem_all same

/-- The directives whose name is also that of a kind of rule. -/
theorem shared_cases (d : Directive) (kind : Make.RuleKind) (same : d.name = kind.name) :
    d = .defineVariable ∨ d = .defineLibrary ∨ d = .addFlag ∨ d = .compile := by
  have all : ∀ d ∈ Directive.all, ∀ kind ∈ Make.RuleKind.all, d.name = kind.name →
      d = .defineVariable ∨ d = .defineLibrary ∨ d = .addFlag ∨ d = .compile := by decide +kernel
  exact all d d.mem_all kind kind.mem_all same

theorem Action.failsCleanly_changeBy (f : Settings → String → Settings) {call : Call}
    (fits : call.args.length = 1) : FailsCleanly (changeBy f call) := by
  obtain ⟨text, args⟩ := List.length_eq_one_iff.mp fits
  simp only [changeBy, args]
  exact (Completes.change _).failsCleanly

theorem Action.failsCleanly_defineVariable {call : Call} (fits : call.args.length = 2) :
    FailsCleanly (defineVariable call) := by
  obtain ⟨name, value, args⟩ := List.length_eq_two.mp fits
  simp only [defineVariable, args]
  exact (Completes.change _).failsCleanly

theorem Action.failsCleanly_compile (quiet : Bool) {call : Call} (fits : call.args.length = 2) :
    FailsCleanly (compile quiet call) := by
  obtain ⟨source, output, args⟩ := List.length_eq_two.mp fits
  simp only [compile, args]
  refine (Keeps.get.bind fun settings => ?_).failsCleanly
  refine (Keeps.printAll _).bind fun _ => (Keeps.note _ _).bind fun _ => ?_
  refine (Keeps.attempt _ _).bind fun result => (keeps_showCompletion _ _).bind fun _ => ?_
  exact (Keeps.fail _).optional (.pure Flow.proceed)

/-- Called with as many arguments as it takes, such a directive fails only by giving up. -/
theorem failsCleanly_of_shared (script : Path) {call : Call} {d : Directive} {kind : Make.RuleKind}
    (same : d.name = kind.name) (fits : call.args.length = d.arity) :
    Action.FailsCleanly (d.action script call) := by
  obtain rfl | rfl | rfl | rfl := shared_cases d kind same
  · exact Action.failsCleanly_defineVariable fits
  · exact Action.failsCleanly_changeBy _ fits
  · exact Action.failsCleanly_changeBy _ fits
  · exact Action.failsCleanly_compile false fits

/-! ## Warnings of a conversion -/

namespace Make

theorem mem_warningsFrom_iff (first : Nat) (parts : List Part) (number : Nat)
    (error : ConversionError) :
    (number, error) ∈ warningsFrom first parts ↔
      ∃ i, number = first + i ∧ parts[i]? = some (.warns error) := by
  induction parts generalizing first with
  | nil => simp [warningsFrom]
  | cons part parts ih =>
      rw [warningsFrom_cons, List.mem_append, ih]
      constructor
      · rintro (here | ⟨i, rfl, below⟩)
        · obtain ⟨found, known, same⟩ := List.mem_map.mp here
          obtain ⟨rfl, rfl⟩ := Prod.mk.inj same
          refine ⟨0, rfl, ?_⟩
          cases part with
          | adds rule => simp [Part.error?] at known
          | nothing => simp [Part.error?] at known
          | warns error => simpa [Part.error?, eq_comm] using known
        · exact ⟨i + 1, by omega, by simpa using below⟩
      · rintro ⟨i, rfl, found⟩
        cases i with
        | zero =>
            obtain rfl : part = .warns error := by simpa using found
            exact .inl (by simp [Part.error?])
        | succ i => exact .inr ⟨i, by omega, by simpa using found⟩

/-- A call of a kind of rule is warned about if it has another number of arguments. -/
theorem warned_arity_iff {call : Call} {kind : RuleKind} (same : call.name = kind.name)
    (mismatch : ArityMismatch) :
    Warned (.call call) (.arity mismatch) ↔
      call.args.length ≠ kind.arity ∧ mismatch = call.mismatch kind.arity := by
  obtain ⟨name, args⟩ := call
  obtain rfl : name = kind.name := same
  constructor
  · intro warned
    generalize named : kind.name = name at warned
    cases warned with
    | arity kind' args count =>
        have found := kind'.named?_name
        rw [← named, RuleKind.named?_name] at found
        obtain rfl := Option.some.inj found
        exact ⟨count, rfl⟩
  · rintro ⟨count, rfl⟩
    exact .arity kind args count

/-- A script is warned about, line by line, as its lines are. -/
theorem mem_warnings_iff (source : String) (number : Nat) (error : ConversionError) :
    (number, error) ∈ warningsFrom 1 (partsOf source) ↔
      ∃ line, (number, line) ∈ parse source ∧ Warned line error := by
  rw [mem_warningsFrom_iff, Session.parse_eq_mapIdx]
  constructor
  · rintro ⟨i, rfl, found⟩
    rw [partsOf, partsBelow_getElem?, List.getElem?_map, Option.map_map,
      Option.map_eq_some_iff] at found
    obtain ⟨text, here, warns⟩ := found
    refine ⟨Line.ofChars text, ?_, (yields_iff _ _ _).mpr warns.symm⟩
    rw [List.mem_iff_getElem?]
    exact ⟨i, by simp [here, Nat.add_comm]⟩
  · rintro ⟨line, member, warned⟩
    obtain ⟨i, found⟩ := List.mem_iff_getElem?.mp member
    rw [List.getElem?_mapIdx, Option.map_eq_some_iff] at found
    obtain ⟨text, here, same⟩ := found
    obtain ⟨rfl, rfl⟩ := Prod.mk.inj same
    refine ⟨i, Nat.add_comm _ _, ?_⟩
    rw [partsOf, partsBelow_getElem?, List.getElem?_map, here]
    exact congrArg some (part_of_warned _ warned)

end Make

/-! ## Runs that take all lines -/

/-- Where only requested labels stand, everything is in scope. -/
theorem Selection.inScope_of_requested {s : Selection} (fresh : s.label = none) {above : List Line}
    (requested : ∀ name, Line.label name ∈ above → name ∈ s.requested) : s.InScope above := by
  intro name inForce
  rw [fresh, labelInForce, Option.or_none] at inForce
  obtain ⟨line, member, named⟩ := List.mem_filterMap.mp (List.mem_of_getLast? inForce)
  cases line with
  | label found =>
      obtain rfl := Option.some.inj named
      exact requested found member
  | blank => cases named
  | comment => cases named
  | call call => cases named
  | malformed error => cases named

namespace Session

/-- A run without an exit has taken every line. -/
theorem ledger_lines (host : Host σ) (s : Session) (w : σ) (source : String)
    (going : ((s.runSource source).run host w).1.1.exitCode = none) (i : Nat) :
    (s.ledger host w (parse source))[i]?.map (fun entry => (entry.number, entry.line)) =
      (parse source)[i]? := by
  obtain ⟨result, -, -⟩ := runSource_outcome host s w source
  obtain ⟨counted, -⟩ := takeLines_ledger host s .empty (parse source) w
  rw [result, counted] at going
  have all := s.ledger_complete host w (parse source)
    (goesOn_of_exitCode (s.ledger_goesOn host w (parse source)) going)
  cases found : (s.ledger host w (parse source))[i]? with
  | none =>
      rw [List.getElem?_eq_none_iff, all] at found
      exact (List.getElem?_eq_none found).symm
  | some entry => exact (s.ledger_getElem? host w (parse source) i entry found).1.symm

/-! ## Calls with the wrong number of arguments -/

theorem act_failsCleanly (s : Session) {call : Call} {d : Directive} {kind : Make.RuleKind}
    (same : d.name = kind.name) (fits : call.args.length = d.arity) :
    (s.act d call).Ensures fun _ outcome =>
      ∀ error, outcome.1 = .error error → ∃ message, error = .failed message := by
  refine (failsCleanly_of_shared s.script same fits s.settings).bind fun _ outcome cleanly => ?_
  exact fun error failed => (cleanly error failed).2

/-- The dispatch of a call whose name both tables have is refused for the number of its arguments
exactly if a conversion warns of it for the same reason. -/
theorem dispatched_arity_iff (host : Host σ) (place : Session × σ) {call : Call} {d : Directive}
    {kind : Make.RuleKind} (standard : place.1.vocabulary = .standard) (bound : d.name = call.name)
    (same : call.name = kind.name) (mismatch : ArityMismatch) :
    (∃ requests, dispatched host place call = .dispatched requests (.error (.arity mismatch))) ↔
      Make.Warned (.call call) (.arity mismatch) := by
  obtain ⟨s, w⟩ := place
  have found : s.vocabulary.get? call.name = some ⟨d.arity, d⟩ := by
    rw [show s.vocabulary = .standard from standard, ← bound, Vocabulary.standard_get?_name]
  rw [Make.warned_arity_iff same, ← arity_eq_of_name_eq d kind (bound.trans same)]
  by_cases fits : call.args.length = d.arity
  · -- The directive is carried out, and it does not complain of what the dispatch has checked.
    refine ⟨fun ⟨requests, refused⟩ => ?_, fun ⟨misfits, _⟩ => absurd fits misfits⟩
    have carriedOut : s.dispatch call = s.act d call := by
      simp only [dispatch, found, if_pos fits]
    have result : ((s.act d call).run host w).1.1 = .error (.arity mismatch) := by
      rw [← carriedOut]
      exact (Deed.dispatched.inj refused).2
    obtain ⟨message, other⟩ := (s.act_failsCleanly (bound.trans same) fits).run host w _ result
    cases other
  · have refused : dispatched host (s, w) call =
        .dispatched [] (.error (.arity (call.mismatch d.arity))) := by
      simp only [dispatched, dispatch, found, if_neg fits]
      rfl
    rw [refused]
    constructor
    · rintro ⟨requests, same⟩
      cases same
      exact ⟨fits, rfl⟩
    · rintro ⟨-, rfl⟩
      exact ⟨[], rfl⟩

/-! ## A run and a conversion of one script -/

theorem parse_unique {source : String} {number : Nat} {line line' : Line}
    (here : (number, line) ∈ parse source) (here' : (number, line') ∈ parse source) :
    line = line' := by
  obtain ⟨i, found⟩ := List.mem_iff_getElem?.mp here
  obtain ⟨j, found'⟩ := List.mem_iff_getElem?.mp here'
  obtain ⟨place, -⟩ := parse_getElem? source i number line found
  obtain ⟨place', -⟩ := parse_getElem? source j number line' found'
  obtain rfl : i = j := by omega
  exact congrArg Prod.snd (Option.some.inj (found.symm.trans found'))

/-- A run without an exit has an entry for each line. -/
theorem exists_entry (host : Host σ) (s : Session) (w : σ) (source : String)
    (going : ((s.runSource source).run host w).1.1.exitCode = none) {number : Nat} {line : Line}
    (here : (number, line) ∈ parse source) :
    ∃ entry ∈ s.ledger host w (parse source), entry.number = number ∧ entry.line = line := by
  obtain ⟨i, found⟩ := List.mem_iff_getElem?.mp here
  rw [← s.ledger_lines host w source going i, Option.map_eq_some_iff] at found
  obtain ⟨entry, there, same⟩ := found
  obtain ⟨rfl, rfl⟩ := Prod.mk.inj same
  exact ⟨entry, List.mem_of_getElem? there, rfl, rfl⟩

/-- Where every label is requested, malformed lines are reported and calls are dispatched. -/
theorem deed_of_requested (host : Host σ) (s : Session) (w : σ) (source : String)
    (fresh : s.selection.label = none)
    (requested : ∀ number name, (number, .label name) ∈ parse source →
      name ∈ s.selection.requested) :
    ∀ entry ∈ s.ledger host w (parse source),
      (entry.number, entry.line) ∈ parse source ∧
        (∀ error, entry.line = .malformed error → entry.deed = .refused error) ∧
        ∀ call, entry.line = .call call →
          ∃ place : Session × σ, place.1.vocabulary = s.vocabulary ∧
            entry.deed = dispatched host place call := by
  intro entry member
  obtain ⟨i, found⟩ := List.mem_iff_getElem?.mp member
  obtain ⟨here, deed⟩ := s.ledger_getElem? host w (parse source) i entry found
  have inScope : s.selection.InScope (((parse source).take i).map Prod.snd) := by
    refine Selection.inScope_of_requested fresh fun name above => ?_
    obtain ⟨⟨number, line⟩, taken, rfl⟩ := List.mem_map.mp above
    exact requested number name (List.mem_of_mem_take taken)
  refine ⟨List.mem_of_getElem? here, fun error malformed => ?_, fun call called => ?_⟩
  · rw [deed, malformed]
    exact if_pos inScope
  · refine ⟨s.reached host w ((parse source).take i), s.reached_vocabulary host w _, ?_⟩
    rw [deed, called]
    exact if_pos inScope

/-- Running a script and converting it find the same faults in it, on every host. Let a fresh
session run a script all of whose labels are requested, and let no `exit` end the run. The reports
of the run are the faults of its ledger, each in its place among the requests of the calls. Its
faults on malformed lines are the conversion's warnings of malformed lines: the same numbers with
the same messages. And on the line of a call whose name both tables have, the dispatch is refused
for the number of its arguments exactly if the conversion warns of it there: with the same name, the
same number expected and the same number found, and with the same message. -/
theorem runSource_convert_agree (host : Host σ) (w : σ) (script : Path) (targets : List String)
    (source : String) :
    let s := start script (.ofTargets targets)
    let outcome := (s.runSource source).run host w
    let entries := s.ledger host w (parse source)
    (∀ number name, (number, .label name) ∈ parse source → name ∈ s.selection.requested) →
    outcome.1.1.exitCode = none →
    calls outcome.2.1 = entries.flatMap (fun entry => entry.deed.requests ++ entry.report) ∧
      entries.flatMap Entry.report = (entries.filterMap Entry.fault?).map faultReport ∧
      ∃ conversion, Make.convert source = .ok conversion ∧
        (∀ number message,
          (∃ entry ∈ entries, (∃ error, entry.line = .malformed error) ∧
              entry.fault? = some (number, message)) ↔
            ∃ error, (number, .malformed error) ∈ conversion.warnings ∧
              (Make.ConversionError.malformed error).message = message) ∧
        ∀ number call, (number, .call call) ∈ parse source →
          (s.vocabulary.get? call.name).isSome → (∃ kind : Make.RuleKind, call.name = kind.name) →
          ∀ mismatch message,
            (∃ entry ∈ entries, entry.number = number ∧
                (∃ requests, entry.deed = .dispatched requests (.error (.arity mismatch))) ∧
                entry.fault? = some (number, message)) ↔
              (number, .arity mismatch) ∈ conversion.warnings ∧
                (Make.ConversionError.arity mismatch).message = message := by
  intro s outcome entries requested going
  have deeds := s.deed_of_requested host w source rfl requested
  obtain ⟨-, -, requests⟩ := runSource_outcome host s w source
  obtain ⟨-, events⟩ := takeLines_ledger host s .empty (parse source) w
  refine ⟨requests.trans events, reports_eq entries, _, Make.convert_eq source, ?_, ?_⟩
  · intro number message
    simp only [Make.mem_warnings_iff]
    constructor
    · rintro ⟨entry, member, ⟨error, malformed⟩, fault⟩
      obtain ⟨here, refused, -⟩ := deeds entry member
      rw [Entry.fault?, refused error malformed] at fault
      obtain ⟨rfl, rfl⟩ := Prod.mk.inj (Option.some.inj fault)
      exact ⟨error, ⟨_, malformed ▸ here, .malformed error⟩, rfl⟩
    · rintro ⟨error, ⟨line, here, warned⟩, rfl⟩
      cases warned with
      | malformed error =>
          obtain ⟨entry, member, rfl, malformed⟩ := s.exists_entry host w source going here
          obtain ⟨-, refused, -⟩ := deeds entry member
          refine ⟨entry, member, ⟨error, malformed⟩, ?_⟩
          rw [Entry.fault?, refused error malformed]
          rfl
  · rintro number call here bound ⟨kind, same⟩ mismatch message
    obtain ⟨binding, found⟩ := Option.isSome_iff_exists.mp bound
    obtain ⟨d, named, -⟩ := (Vocabulary.standard_get?_iff _ _).mp found
    simp only [Make.mem_warnings_iff]
    constructor
    · rintro ⟨entry, member, rfl, refused, fault⟩
      obtain ⟨there, -, carriedOut⟩ := deeds entry member
      obtain ⟨place, standard, deed⟩ := carriedOut call (parse_unique there here)
      obtain ⟨requests, deed'⟩ := refused
      rw [Entry.fault?, deed'] at fault
      obtain ⟨-, rfl⟩ := Prod.mk.inj (Option.some.inj fault)
      refine ⟨⟨_, here, ?_⟩, rfl⟩
      exact (dispatched_arity_iff host place standard named same mismatch).mp
        ⟨requests, deed.symm.trans deed'⟩
    · rintro ⟨⟨line, there, warned⟩, rfl⟩
      obtain rfl := parse_unique there here
      obtain ⟨entry, member, rfl, called⟩ := s.exists_entry host w source going here
      obtain ⟨-, -, carriedOut⟩ := deeds entry member
      obtain ⟨place, standard, deed⟩ := carriedOut call called
      obtain ⟨requests, refused⟩ :=
        (dispatched_arity_iff host place standard named same mismatch).mpr warned
      refine ⟨entry, member, rfl, ⟨requests, deed.trans refused⟩, ?_⟩
      rw [Entry.fault?, deed, refused]
      rfl

/-- A script with a malformed line, two calls with the wrong number of arguments and a name that no
table has. -/
def faultyScript : String :=
  "hm\nadd_flag()\nrelease:\nhalt()\ncompile(main.c)\nadd_flag(-g)\n"

/-- The conversion warns of `hm`, and so the run has reported it; it warns of the call of `compile`
for the number of its arguments, and so its dispatch was refused for that reason. -/
theorem runSource_convert_agree_faulty :
    let s := start ⟨"build.samba"⟩ (.ofTargets ["release"])
    let bare : Rehearsal := ⟨.empty, [], .empty, .empty, .empty, .empty, "0", []⟩
    let outcome := (s.runSource faultyScript).run Rehearsal.host bare
    let entries := s.ledger Rehearsal.host bare (parse faultyScript)
    outcome.1.1 = ⟨1, 0, 4, none⟩ ∧
      (∃ entry ∈ entries, (∃ error, entry.line = .malformed error) ∧
        entry.fault? = some (1, LineError.missingOpenParen.message)) ∧
      ∃ entry ∈ entries, entry.number = 5 ∧
        (∃ requests, entry.deed = .dispatched requests (.error (.arity ⟨"compile", 2, 1⟩))) ∧
        entry.fault? = some (5, "Directive 'compile' expects 2 argument(s), got 1") := by
  intro s bare outcome entries
  have counts : outcome.1.1 = ⟨1, 0, 4, none⟩ := rfl
  have parsed : parse faultyScript = [(1, .malformed .missingOpenParen),
      (2, .call ⟨"add_flag", []⟩), (3, .label "release"), (4, .call ⟨"halt", []⟩),
      (5, .call ⟨"compile", ["main.c"]⟩), (6, .call ⟨"add_flag", ["-g"]⟩)] := rfl
  have requested : ∀ number name, (number, .label name) ∈ parse faultyScript →
      name ∈ s.selection.requested := by
    intro number name member
    rw [parsed] at member
    simp only [List.mem_cons, Prod.mk.injEq, reduceCtorEq, and_false, false_or, Line.label.injEq,
      List.not_mem_nil, or_false] at member
    exact member.2 ▸ List.mem_singleton_self _
  obtain ⟨-, -, conversion, made, malformed, calls⟩ := runSource_convert_agree Rehearsal.host bare
    ⟨"build.samba"⟩ ["release"] faultyScript requested (congrArg Summary.exitCode counts)
  have warnings : conversion.warnings = [(1, .malformed .missingOpenParen),
      (2, .arity ⟨"add_flag", 1, 0⟩), (4, .unsupported "halt"), (5, .arity ⟨"compile", 2, 1⟩)] := by
    have found : (Make.convert faultyScript).toOption.map Make.Conversion.warnings =
        some [(1, .malformed .missingOpenParen), (2, .arity ⟨"add_flag", 1, 0⟩),
          (4, .unsupported "halt"), (5, .arity ⟨"compile", 2, 1⟩)] := by decide +kernel
    rw [made] at found
    exact Option.some.inj found
  rw [warnings] at malformed calls
  refine ⟨counts, (malformed 1 _).mpr ⟨.missingOpenParen, by simp, rfl⟩, ?_⟩
  refine (calls 5 ⟨"compile", ["main.c"]⟩ ?_ (by decide +kernel) ⟨.build, rfl⟩ _ _).mpr
    ⟨by simp, rfl⟩
  rw [parsed]
  simp

end Session

end BuildScript
