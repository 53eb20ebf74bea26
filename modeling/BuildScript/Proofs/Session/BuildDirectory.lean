import BuildScript.Host.Rehearsal
import BuildScript.Proofs.Action.BuildDirectory
import BuildScript.Proofs.Session.Chronicle
import BuildScript.Proofs.Session.Frame

/-!
# Directories are removed and copied only with a warrant

Whatever a session is told and whatever the host answers: a directory is removed or copied only
directly after the host has confirmed that it is there, and only if the session has claimed it, that
is, if the last act that decided about the build directory chose this directory after the host had
created it.

* **one act**: `Act.Moves` says all that an act can do to the build directory (`dispatch_moves`);
* **many acts**: the acts of a session form a `Walk` of such moves (`chronicle_walk`);
* **the invariant**: along a walk the build directory is always a claimed one (`Moves.claimed`,
  `Walk.warranted`).
-/

namespace BuildScript

open Script

variable {σ : Type}

/-! ## Moves -/

/-- Whether the act decided what the build directory is from then on. -/
def Act.decides : Act → Bool
  | .carriedOut .setBuildDirectory _ (.ok _) => true
  | .carriedOut .resetSettings _ _ => true
  | .carriedOut _ _ _ | .own _ => false

/-- What an act can do when the build directory is `dir`, and what the build directory is then. -/
inductive Act.Moves (dir : Option Path) : Act → Option Path → Prop
  /-- A directory is chosen, which the host has created. -/
  | chosen (path : Path) (requests : List Event) (flow : Flow) (spared : Spares requests)
      (created : .call (.createDirectories path) (.ok ()) ∈ requests) :
      Moves dir (.carriedOut .setBuildDirectory requests (.ok flow)) (some path)
  /-- All settings are reset. -/
  | reset (requests : List Event) (result : Except CallError Flow) (spared : Spares requests) :
      Moves dir (.carriedOut .resetSettings requests result) none
  /-- Nothing is decided, and only the build directory is removed or copied. -/
  | stays (act : Act) (undecided : act.decides = false) (guarded : Guarded dir act.requests) :
      Moves dir act dir

/-- Acts one after another, from one build directory to another. -/
inductive Walk : Option Path → List Act → Option Path → Prop
  | nil (dir : Option Path) : Walk dir [] dir
  | cons {dir next last : Option Path} {act : Act} {acts : List Act} (first : act.Moves dir next)
      (rest : Walk next acts last) : Walk dir (act :: acts) last

theorem Act.Moves.walk {dir next : Option Path} {act : Act} (moves : act.Moves dir next) :
    Walk dir [act] next :=
  .cons moves (.nil next)

theorem Walk.append {dir next last : Option Path} {first second : List Act}
    (left : Walk dir first next) (right : Walk next second last) :
    Walk dir (first ++ second) last := by
  induction left with
  | nil dir => exact right
  | cons move rest ih => exact .cons move (ih right)

/-- Requests of the session itself that remove and copy nothing. -/
theorem Act.Moves.own (dir : Option Path) {requests : List Event} (spared : Spares requests) :
    (Act.own requests).Moves dir dir :=
  .stays _ rfl (spared.guarded dir)

/-! ## Claims -/

/-- The last act that decided about the build directory chose this one, which the host had created. -/
def Claimed (past : List Act) (path : Path) : Prop :=
  ∃ earlier requests flow later,
    past = earlier ++ .carriedOut .setBuildDirectory requests (.ok flow) :: later ∧
      .call (.createDirectories path) (.ok ()) ∈ requests ∧ ∀ act ∈ later, act.decides = false

/-- The act removes and copies only directories that are claimed, and only directly after the checks;
and what makes such a request decides nothing. -/
def Act.Warranted (past : List Act) (act : Act) : Prop :=
  ∀ before request reply after path, act.requests = before ++ .call request reply :: after →
    request.swept? = some path →
      request.checks <:+ before ∧ Claimed past path ∧ act.decides = false

theorem Claimed.snoc {past : List Act} {path : Path} (claimed : Claimed past path) {act : Act}
    (undecided : act.decides = false) : Claimed (past ++ [act]) path := by
  obtain ⟨earlier, requests, flow, later, rfl, created, quiet⟩ := claimed
  refine ⟨earlier, requests, flow, later ++ [act], by simp, created, ?_⟩
  exact List.forall_mem_append.mpr ⟨quiet, List.forall_mem_singleton.mpr undecided⟩

/-- After every act the build directory is a claimed one, if it was before. -/
theorem Act.Moves.claimed {past : List Act} {dir next : Option Path} {act : Act}
    (moves : act.Moves dir next) (claimed : ∀ path, dir = some path → Claimed past path) :
    ∀ path, next = some path → Claimed (past ++ [act]) path := by
  cases moves with
  | chosen path requests flow spared created =>
      rintro _ ⟨⟩
      exact ⟨past, requests, flow, [], rfl, created, List.forall_mem_nil _⟩
  | reset requests result spared => exact fun path impossible => by cases impossible
  | stays act undecided guarded =>
      exact fun path chosen => (claimed path chosen).snoc undecided

theorem Act.warranted_of_spares (act : Act) (spared : Spares act.requests) (past : List Act) :
    act.Warranted past := by
  intro before request reply after path split swept
  obtain ⟨impossible, -⟩ := spared.guarded none before request reply after path split swept
  cases impossible

theorem Act.Moves.warranted {past : List Act} {dir next : Option Path} {act : Act}
    (moves : act.Moves dir next) (claimed : ∀ path, dir = some path → Claimed past path) :
    act.Warranted past := by
  cases moves with
  | chosen path requests flow spared created =>
      exact warranted_of_spares (.carriedOut _ requests _) spared past
  | reset requests result spared =>
      exact warranted_of_spares (.carriedOut _ requests _) spared past
  | stays act undecided guarded =>
      intro before request reply after path split swept
      obtain ⟨chosen, checked⟩ := guarded before request reply after path split swept
      exact ⟨checked, claimed path chosen, undecided⟩

/-- Along a walk every act is warranted by the acts before it. -/
theorem Walk.warranted {dir last : Option Path} {acts : List Act} (walk : Walk dir acts last)
    {past : List Act} (claimed : ∀ path, dir = some path → Claimed past path) :
    ∀ before act after, acts = before ++ act :: after → act.Warranted (past ++ before) := by
  -- The first act becomes part of the past, where its claim stands for the acts after it.
  induction walk generalizing past with
  | nil dir =>
      intro before act after split
      simp at split
  | cons first rest ih =>
      intro before act after split
      cases before with
      | nil =>
          cases split
          rw [List.append_nil]
          exact first.warranted claimed
      | cons earlier before =>
          cases split
          have later := ih (first.claimed claimed) before act after rfl
          rwa [List.append_assoc] at later

/-! ## The acts of a session are a walk -/

namespace Session

/-- What the action of a directive comes to is what carrying it out comes to. -/
theorem act_ensures {Q : List Event → Except CallError Flow → Settings → Prop} (s : Session)
    (d : Directive) (call : Call)
    (performed : ((d.action s.script call).perform s.settings).Ensures fun trace outcome =>
      Q (calls trace) outcome.1 outcome.2) :
    (s.act d call).Ensures fun trace outcome => Q (calls trace) outcome.1 outcome.2.settings := by
  refine performed.bind fun trace outcome held => ?_
  show Q (calls (.log _ _ :: (trace ++ []))) outcome.1 outcome.2
  rwa [List.append_nil, calls_log]

theorem act_moves (s : Session) (d : Directive) (call : Call) :
    (s.act d call).Ensures fun trace outcome =>
      (Act.carriedOut d (calls trace) outcome.1).Moves s.settings.buildDir
        outcome.2.settings.buildDir := by
  refine act_ensures (Q := fun requests result settings =>
    (Act.carriedOut d requests result).Moves s.settings.buildDir settings.buildDir) s d call ?_
  have aside (mild : Action.Mild (d.action s.script call))
      (undecided : ∀ requests result, (Act.carriedOut d requests result).decides = false) :
      ((d.action s.script call).perform s.settings).Ensures fun trace outcome =>
        (Act.carriedOut d (calls trace) outcome.1).Moves s.settings.buildDir outcome.2.buildDir := by
    refine (mild s.settings).mono fun trace outcome held => ?_
    rw [held.2]
    exact .stays _ (undecided _ _) (held.1.calls.guarded _)
  cases d with
  | setBuildDirectory =>
      refine (Action.setBuildDirectory_chooses call s.settings).mono fun trace outcome held => ?_
      obtain ⟨result, settings⟩ := outcome
      obtain ⟨spared, rest⟩ := held
      cases result with
      | ok flow =>
          obtain ⟨path, created, chosen⟩ := rest
          rw [show settings.buildDir = some path from chosen]
          exact .chosen path _ flow spared.calls (List.mem_filter.mpr ⟨created, rfl⟩)
      | error e =>
          rw [show settings.buildDir = s.settings.buildDir from rest]
          exact .stays _ rfl (spared.calls.guarded _)
  | resetSettings =>
      refine (Action.resetSettings_forgets s.settings).mono fun trace outcome held => ?_
      rw [held.1, held.2]
      exact .reset _ _ .nil
  | clearBuildDirectory =>
      refine (Action.clearBuildDirectory_guarded s.settings).mono fun trace outcome held => ?_
      rw [held.2]
      exact .stays _ rfl held.1
  | backupBuildDirectory =>
      refine (Action.backupBuildDirectory_guarded call s.settings).mono fun trace outcome held => ?_
      rw [held.2]
      exact .stays _ rfl held.1
  | _ => exact aside (Action.mild_action _ _ _ rfl) fun _ _ => rfl

/-- Dispatching a call is one move. -/
theorem dispatch_moves (s : Session) (call : Call) :
    (s.dispatch call).Ensures fun trace outcome =>
      (Act.ofCall s.vocabulary call (calls trace) outcome.1).Moves s.settings.buildDir
        outcome.2.settings.buildDir := by
  unfold dispatch
  cases bound : s.vocabulary.get? call.name with
  | none =>
      simp only [Act.ofCall, Vocabulary.directive?, bound, Option.bind_none]
      exact .own _ .nil
  | some binding =>
      by_cases fits : call.args.length = binding.arity
      · simp only [Act.ofCall, Vocabulary.directive?, bound, Option.bind_some, if_pos fits]
        exact s.act_moves binding.directive call
      · simp only [Act.ofCall, Vocabulary.directive?, bound, Option.bind_some, if_neg fits]
        exact .own _ .nil

theorem Entry.report_spares (entry : Entry) : Spares entry.report := by
  intro event member
  obtain ⟨message, -, rfl⟩ := List.mem_map.mp member
  rfl

/-- A line is a walk: it is the move of its call, and then only reported. -/
theorem takeLine_walk (s : Session) (host : Host σ) (w : σ) (number : Nat) (line : Line) :
    Walk s.settings.buildDir (Entry.acts s.vocabulary ⟨number, line, s.deed host w line⟩)
      ((s.takeLine number line).run host w).1.2.settings.buildDir := by
  have aside {requests : List Event} (spared : Spares requests) :
      Walk s.settings.buildDir [.own requests] s.settings.buildDir :=
    (Act.Moves.own _ spared).walk
  cases line with
  | blank => exact aside .nil
  | comment => exact aside .nil
  | label name => exact aside .nil
  | malformed error =>
      by_cases active : s.selection.isActive = true
      · simp only [takeLine, deed, if_pos active]
        exact aside (Entry.report_spares ⟨number, .malformed error, .refused error⟩)
      · simp only [takeLine, deed, if_neg active]
        exact aside .nil
  | call call =>
      by_cases active : s.selection.isActive = true
      · have moves := (s.dispatch_moves call).run host w
        simp only [takeLine, deed, if_pos active, Plan.bind_eq, Plan.run_bind]
        exact .cons moves (Act.Moves.own _ (Entry.report_spares _)).walk
      · simp only [takeLine, deed, if_neg active]
        exact aside .nil

theorem takeLines_walk (s : Session) (host : Host σ) (w : σ) (summary : Summary)
    (ls : List (Nat × Line)) :
    Walk s.settings.buildDir ((s.ledger host w ls).flatMap (Entry.acts s.vocabulary))
      ((s.takeLines summary ls).run host w).1.2.settings.buildDir := by
  -- All acts are told apart by the vocabulary of `s`, so it must be that of every later session.
  induction ls generalizing s summary w with
  | nil => exact .nil _
  | cons numbered ls ih =>
      obtain ⟨number, line⟩ := numbered
      have here : Walk s.settings.buildDir (Entry.acts s.vocabulary _) _ :=
        (s.observe line).takeLine_walk host w number line
      have same : (((s.observe line).takeLine number line).run host w).1.2.vocabulary =
          s.vocabulary := (((s.observe line).takeLine_frame number line).run host w).vocabulary
      rw [takeLines_cons, Plan.run_bind, ledger]
      cases exits : (((s.observe line).takeLine number line).run host w).1.1.exits with
      | true => simpa [Plan.run, exits] using here
      | false =>
          have below := ih (((s.observe line).takeLine number line).run host w).1.2
            (((s.observe line).takeLine number line).run host w).2.2
            (summary.count (((s.observe line).takeLine number line).run host w).1.1)
          rw [same] at below
          simpa [exits] using here.append below

theorem runSource_walk (s : Session) (host : Host σ) (w : σ) (text : String) :
    Walk s.settings.buildDir (s.sourceActs host w text)
      ((s.runSource text).run host w).1.2.settings.buildDir := by
  obtain ⟨result, -, -⟩ := runSource_outcome host s w text
  rw [result]
  exact s.takeLines_walk host w .empty (parse text)

theorem obey_walk (s : Session) (host : Host σ) (w : σ) (command : Command) :
    Walk s.settings.buildDir (s.acts host w command)
      ((s.obey command).run host w).1.settings.buildDir := by
  cases command with
  | register name arity directive => exact .nil _
  | dispatch call =>
      have moves := (s.dispatch_moves call).run host w
      simp only [obey, acts, Plan.bind_eq, Plan.run_bind]
      exact moves.walk
  | source text =>
      have walk := s.runSource_walk host w text
      simp only [obey, acts, Plan.bind_eq, Plan.run_bind]
      exact walk
  | file =>
      have spared := (readSource_spares s.script).run host w
      have reading := Act.Moves.own s.settings.buildDir spared.calls
      simp only [acts]
      cases read : ((readSource s.script).run host w).1 with
      | error fault =>
          rw [s.obey_file_error host w read]
          exact reading.walk
      | ok text =>
          rw [(s.obey_file_ok host w read).1]
          exact .cons reading (s.runSource_walk host _ text)

/-- The acts of a session are a walk from its build directory to that of the session it becomes. -/
theorem chronicle_walk (s : Session) (host : Host σ) (w : σ) (commands : List Command) :
    Walk s.settings.buildDir (s.chronicle host w commands)
      ((s.follow commands).run host w).1.settings.buildDir := by
  induction commands generalizing s w with
  | nil => exact .nil _
  | cons command rest ih =>
      rw [follow, Plan.bind_eq, Plan.run_bind, chronicle]
      exact (s.obey_walk host w command).append (ih _ _)

/-! ## The result -/

/-- Whatever a new session is told to do, in whatever order, and whatever the host answers: all
requests are those of the session's acts in turn, and when an act removes or copies a directory, it has
just been told that the directory is there, and the session has claimed this directory. -/
theorem follow_warranted (host : Host σ) (script : Path) (selection : Selection)
    (commands : List Command) (w : σ) :
    let s := start script selection
    let acts := s.chronicle host w commands
    calls ((s.follow commands).run host w).2.1 = acts.flatMap Act.requests ∧
      ∀ past act future before request reply after, acts = past ++ act :: future →
        act.requests = before ++ .call request reply :: after →
        (∀ path, request = .removeDirectory path →
          [.call (.pathExists path) (.ok true), .call (.isDirectory path) (.ok true)] <:+ before ∧
            Claimed past path ∧ act.decides = false) ∧
        (∀ path target, request = .copyDirectory path target →
          [.call (.isDirectory path) (.ok true)] <:+ before ∧
            Claimed past path ∧ act.decides = false) := by
  intro s acts
  refine ⟨s.chronicle_requests host w commands, ?_⟩
  intro past act future before request reply after split made
  have unclaimed : ∀ path, s.settings.buildDir = some path → Claimed [] path := by
    intro path impossible
    cases impossible
  have warranted := (s.chronicle_walk host w commands).warranted unclaimed past act future split
  refine ⟨?_, ?_⟩
  · rintro path rfl
    exact warranted before _ reply after path made rfl
  · rintro path target rfl
    exact warranted before _ reply after path made rfl

/-- A session in which `clear_build_directory` has another name and arity. -/
def wipingSession : Session :=
  (start ⟨"build.samba"⟩ (.ofTargets ["release"])).register "wipe" 1 .clearBuildDirectory

/-- The directory `out` is created, chosen and then removed, after two questions about it. -/
theorem follow_warranted_wiping :
    let bare : Rehearsal := ⟨.empty, [], .empty, .empty, .empty, .empty, "0", []⟩
    let out : Path := ⟨"out"⟩
    let choice : Act := .carriedOut .setBuildDirectory
      [.call (.createDirectories out) (.ok ())] (.ok .proceed)
    ∃ wiped : Act,
      (start ⟨"build.samba"⟩ (.ofTargets ["release"])).chronicle Rehearsal.host bare
          [.register "wipe" 1 .clearBuildDirectory, .dispatch ⟨"set_build_directory", ["out"]⟩,
            .dispatch ⟨"wipe", ["now"]⟩] = [choice, wiped] ∧
        Event.call (.removeDirectory out) (.ok ()) ∈ wiped.requests ∧ Claimed [choice] out ∧
        wiped.decides = false := by
  intro bare out choice
  let wiped : Act := .carriedOut .clearBuildDirectory
    [.call (.pathExists out) (.ok true), .call (.isDirectory out) (.ok true),
      .call (.removeDirectory out) (.ok ()), .call (.createDirectories out) (.ok ()),
      .call (.print "Cleared build directory out") ()] (.ok .proceed)
  have chosen : wipingSession.acts Rehearsal.host bare
      (.dispatch ⟨"set_build_directory", ["out"]⟩) = [choice] := rfl
  have session : ((wipingSession.obey (.dispatch ⟨"set_build_directory", ["out"]⟩)).run
      Rehearsal.host bare).1 =
        { wipingSession with settings := wipingSession.settings.setBuildDir out } := rfl
  have state : ((wipingSession.obey (.dispatch ⟨"set_build_directory", ["out"]⟩)).run
      Rehearsal.host bare).2.2 = bare.addDir "out" := rfl
  have removed : acts { wipingSession with settings := wipingSession.settings.setBuildDir out }
      Rehearsal.host (bare.addDir "out") (.dispatch ⟨"wipe", ["now"]⟩) = [wiped] := rfl
  have chronicled : (start ⟨"build.samba"⟩ (.ofTargets ["release"])).chronicle Rehearsal.host bare
      [.register "wipe" 1 .clearBuildDirectory, .dispatch ⟨"set_build_directory", ["out"]⟩,
        .dispatch ⟨"wipe", ["now"]⟩] = [choice, wiped] := by
    show wipingSession.chronicle Rehearsal.host bare [_, _] = _
    simp only [chronicle, chosen, session, state, removed, List.append_nil, List.singleton_append]
  obtain ⟨-, guarded⟩ := follow_warranted Rehearsal.host ⟨"build.samba"⟩ (.ofTargets ["release"])
    [.register "wipe" 1 .clearBuildDirectory, .dispatch ⟨"set_build_directory", ["out"]⟩,
      .dispatch ⟨"wipe", ["now"]⟩] bare
  obtain ⟨removal, -⟩ := guarded [choice] wiped []
    [.call (.pathExists out) (.ok true), .call (.isDirectory out) (.ok true)] _ _ _ chronicled rfl
  obtain ⟨-, claimed, undecided⟩ := removal out rfl
  exact ⟨wiped, chronicled, .tail _ (.tail _ (.head _)), claimed, undecided⟩

end Session

end BuildScript
