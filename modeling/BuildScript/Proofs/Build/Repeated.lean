import BuildScript.Proofs.Build.Fatal
import BuildScript.Proofs.Host.Shown
import Mathlib.Logic.Function.Basic

/-!
# Converting a script again

A conversion writes one file and no other (`view_convert`), and it succeeds whenever its script can
be read and its Makefile can be written (`convert_of_storage`). So a script that is another file
than the Makefile keeps its bytes, and converting it again gives the same Makefile, shows the same
warnings and changes nothing. That the script is another file is needed, and a conversion does not
look at it: a Makefile that is written over its script is there instead of it, and the next
conversion reads it as a script.

What is asked of the host is that it keeps files (`Host.Storage`): a load gives what was stored
last, and a store changes the file that it names and no other. Two paths may name one file.
-/

namespace BuildScript

open Script

variable {σ κ : Type}

/-- The requests that a conversion makes besides the one that writes the Makefile. -/
def Request.isIdle : Request → Bool
  | .load _ | .print _ | .complain _ => true
  | _ => false

/-- How a host keeps files. Who may read or write them does not change by reading and writing. -/
structure Host.Storage (host : Host σ) (κ : Type) [DecidableEq κ] where
  /-- The file that a path names. -/
  file : Path → κ
  content : σ → κ → Option ByteArray
  Readable : σ → κ → Prop
  Writable : σ → κ → Prop
  load_reply (w : σ) (path : Path) (bytes : ByteArray) :
    (host.answer (.load path) w).1 = .ok bytes ↔
      Readable w (file path) ∧ content w (file path) = some bytes
  store_reply (w : σ) (path : Path) (bytes : ByteArray) :
    (host.answer (.store path bytes) w).1 = .ok () ↔ Writable w (file path)
  content_store (w : σ) (path : Path) (bytes : ByteArray) : Writable w (file path) →
    content (host.answer (.store path bytes) w).2 =
      Function.update (content w) (file path) (some bytes)
  content_idle (w : σ) (request : Request) : request.isIdle →
    content (host.answer request w).2 = content w
  rights_idle (w : σ) (request : Request) : request.isIdle →
    Readable (host.answer request w).2 = Readable w ∧
      Writable (host.answer request w).2 = Writable w
  rights_store (w : σ) (path : Path) (bytes : ByteArray) :
    Readable (host.answer (.store path bytes) w).2 = Readable w ∧
      Writable (host.answer (.store path bytes) w).2 = Writable w

namespace Host.Storage

variable [DecidableEq κ] {host : Host σ}

/-- The files, and who may read and write them. -/
def view (storage : host.Storage κ) (w : σ) :
    (κ → Option ByteArray) × (κ → Prop) × (κ → Prop) :=
  (storage.content w, storage.Readable w, storage.Writable w)

theorem view_idle (storage : host.Storage κ) (w : σ) {request : Request} (idle : request.isIdle) :
    storage.view (host.answer request w).2 = storage.view w := by
  obtain ⟨readable, writable⟩ := storage.rights_idle w request idle
  rw [view, storage.content_idle w request idle, readable, writable]
  rfl

theorem view_told (storage : host.Storage κ) (texts : List String) (w : σ) :
    storage.view (host.told texts w) = storage.view w := by
  induction texts generalizing w with
  | nil => rfl
  | cons text texts ih => exact (ih _).trans (storage.view_idle w rfl)

theorem view_store (storage : host.Storage κ) (w : σ) (path : Path) (bytes : ByteArray)
    (writable : storage.Writable w (storage.file path)) :
    storage.view (host.answer (.store path bytes) w).2 =
      (Function.update (storage.content w) (storage.file path) (some bytes), storage.Readable w,
        storage.Writable w) := by
  obtain ⟨readable, writable'⟩ := storage.rights_store w path bytes
  rw [view, storage.content_store w path bytes writable, readable, writable']

end Host.Storage

/-! ## The state after a conversion -/

/-- A conversion that succeeds has loaded a script and could write its Makefile. -/
theorem convert_ok_cases {host : Host σ} {script output : String} {w : σ}
    {conversion : Make.Conversion}
    (converted : ((convert script output).run host w).1 = .ok conversion) :
    ∃ source : String, (host.answer (.load (Path.ofString script)) w).1 = .ok source.toUTF8 ∧
      Make.convert source = .ok conversion ∧
      saveReply host script output w conversion = .ok () := by
  rcases unusable_or_usable (host.answer (.load (Path.ofString script)) w).1 with
    unusable | ⟨source, usable⟩
  · obtain ⟨⟨fault, failed, -⟩, -⟩ := convert_unusable host script output w unusable
    cases failed.symm.trans converted
  · obtain ⟨found, made⟩ : ∃ found, Make.convert source = .ok found := ⟨_, Make.convert_eq source⟩
    obtain ⟨refused, done⟩ := convert_usable output made usable
    cases answer : saveReply host script output w found with
    | error fault => cases (refused fault answer).1.symm.trans converted
    | ok taken =>
        obtain rfl := Except.ok.inj ((done answer).1.symm.trans converted)
        exact ⟨source, usable, made, answer⟩

/-- The host's state after the warnings of a conversion have been shown. -/
def toldState (host : Host σ) (script : String) (w : σ) (conversion : Make.Conversion) : σ :=
  host.told (conversion.warnings.map (Make.warningText (Path.ofString script)))
    (host.answer (.load (Path.ofString script)) w).2

theorem convert_state {host : Host σ} {script output source : String} {w : σ}
    {conversion : Make.Conversion}
    (usable : (host.answer (.load (Path.ofString script)) w).1 = .ok source.toUTF8)
    (made : Make.convert source = .ok conversion)
    (taken : saveReply host script output w conversion = .ok ()) :
    ((convert script output).run host w).2.2 =
      (host.answer (.print s!"Makefile generated: {Path.ofString output}")
        (host.answer (.store (Path.ofString output) conversion.makefile.toUTF8)
          (toldState host script w conversion)).2).2 := by
  have loaded := readSource_usable host (Path.ofString script) w usable
  obtain ⟨-, state⟩ := showWarnings_run host (Path.ofString script) conversion.warnings
    (host.answer (.load (Path.ofString script)) w).2
  simp only [convert, Make.convertFile, Plan.bind_eq, Plan.run_bind, loaded, made, state]
  have stored : (host.answer (.store (Path.ofString output) conversion.makefile.toUTF8)
      (toldState host script w conversion)).1 = .ok () := taken
  simp only [toldState] at stored ⊢
  simp only [Make.save, Plan.request, Plan.bind_eq, Plan.ask_bind, Plan.done_bind, Plan.run, stored]
  rfl

section

variable [DecidableEq κ] {host : Host σ} (storage : host.Storage κ) {script output : String} {w : σ}
  {conversion : Make.Conversion}

/-- A conversion writes one file, and leaves all others and the rights as they are. -/
theorem view_convert
    (converted : ((convert script output).run host w).1 = .ok conversion) :
    storage.Writable w (storage.file (Path.ofString output)) ∧
      storage.view ((convert script output).run host w).2.2 =
        (Function.update (storage.content w) (storage.file (Path.ofString output))
          (some conversion.makefile.toUTF8), storage.Readable w, storage.Writable w) := by
  obtain ⟨source, usable, made, taken⟩ := convert_ok_cases converted
  have told : storage.view (toldState host script w conversion) = storage.view w :=
    (storage.view_told _ _).trans (storage.view_idle w rfl)
  obtain ⟨content, rights⟩ := Prod.mk.inj told
  obtain ⟨readable, writable⟩ := Prod.mk.inj rights
  have permitted : storage.Writable (toldState host script w conversion)
      (storage.file (Path.ofString output)) := (storage.store_reply _ _ _).mp taken
  refine ⟨writable ▸ permitted, ?_⟩
  rw [convert_state usable made taken, storage.view_idle _ rfl,
    storage.view_store _ _ _ permitted, content, readable, writable]

/-- A conversion succeeds if its script can be read and its Makefile can be written. -/
theorem convert_of_storage {source : String}
    (readable : storage.Readable w (storage.file (Path.ofString script)))
    (content : storage.content w (storage.file (Path.ofString script)) = some source.toUTF8)
    (writable : storage.Writable w (storage.file (Path.ofString output)))
    (made : Make.convert source = .ok conversion) :
    let store := Request.store (Path.ofString output) conversion.makefile.toUTF8
    let converted := (convert script output).run host w
    converted.1 = .ok conversion ∧
      calls converted.2.1 = .call (.load (Path.ofString script)) (.ok source.toUTF8) ::
        complaints (conversion.warnings.map (Make.warningText (Path.ofString script))) ++
        [.call store (.ok ()),
          .call (.print s!"Makefile generated: {Path.ofString output}") ()] := by
  have usable := (storage.load_reply w (Path.ofString script) _).mpr ⟨readable, content⟩
  have told : storage.view (toldState host script w conversion) = storage.view w :=
    (storage.view_told _ _).trans (storage.view_idle w rfl)
  have taken : saveReply host script output w conversion = .ok () := by
    refine (storage.store_reply (toldState host script w conversion) _ _).mpr ?_
    rw [show storage.Writable (toldState host script w conversion) = storage.Writable w from
      congrArg (fun v => v.2.2) told]
    exact writable
  exact (convert_usable output made usable).2 taken

/-- A conversion that succeeds changes one file, the Makefile, and its content is then the text that
was made. If the script is another file, then it keeps its content, and a second conversion succeeds
with the same result, makes the same requests with the same replies, the warnings among them, and
leaves every file as the first has left it. -/
theorem convert_again
    (converted : ((convert script output).run host w).1 = .ok conversion) :
    let first := (convert script output).run host w
    let second := (convert script output).run host first.2.2
    let scriptFile := storage.file (Path.ofString script)
    let makefile := storage.file (Path.ofString output)
    storage.content first.2.2 =
        Function.update (storage.content w) makefile (some conversion.makefile.toUTF8) ∧
      (scriptFile ≠ makefile →
        (∃ bytes, storage.content w scriptFile = some bytes ∧
          storage.content first.2.2 scriptFile = some bytes) ∧
        second.1 = .ok conversion ∧ calls second.2.1 = calls first.2.1 ∧
          storage.content second.2.2 = storage.content first.2.2) := by
  intro first second scriptFile makefile
  obtain ⟨source, usable, made, -⟩ := convert_ok_cases converted
  obtain ⟨readable, content⟩ := (storage.load_reply _ _ _).mp usable
  obtain ⟨writable, after⟩ := view_convert storage converted
  obtain ⟨content', rights⟩ := Prod.mk.inj after
  obtain ⟨readable', writable'⟩ := Prod.mk.inj rights
  refine ⟨content', fun apart => ?_⟩
  have kept : storage.content first.2.2 scriptFile = some source.toUTF8 := by
    rw [show storage.content first.2.2 = _ from content', Function.update_of_ne apart]
    exact content
  obtain ⟨-, requests⟩ := convert_of_storage storage readable content writable made
  obtain ⟨result, requests'⟩ := convert_of_storage storage (w := first.2.2)
    (readable' ▸ readable) kept (writable' ▸ writable) made
  obtain ⟨-, again⟩ := view_convert storage result
  refine ⟨⟨_, content, kept⟩, result, requests'.trans requests.symm, ?_⟩
  -- What is written is there already.
  rw [show storage.content second.2.2 = _ from (Prod.mk.inj again).1,
    show storage.content first.2.2 = _ from content', Function.update_idem]

end

/-! ## Rehearsals -/

namespace Rehearsal

theorem answer_load (r : Rehearsal) (path : Path) :
    answer (.load path) r = ((r.refusal? (.load path)).elim (r.read path.text) .error, r) := by
  cases refused : r.refusal? (.load path) with
  | none => simp only [answer, refused]; rfl
  | some fault => simp only [answer, refused]; rfl

/-- Whether a file may be written does not depend on what is written. -/
theorem answer_store (r : Rehearsal) (path : Path) (bytes : ByteArray) :
    answer (.store path bytes) r =
      (r.refusal? (.store path .empty)).elim (.ok (), r.setFile path.text bytes)
        fun fault => (.error fault, r) := by
  have same : r.refusal? (.store path bytes) = r.refusal? (.store path .empty) := rfl
  cases refused : r.refusal? (.store path .empty) with
  | none => simp only [answer, same, refused]; rfl
  | some fault => simp only [answer, same, refused]; rfl

theorem read_eq_ok_iff (r : Rehearsal) (path : String) (bytes : ByteArray) :
    r.read path = .ok bytes ↔ r.files.get? path = some bytes := by
  cases found : r.files.get? path with
  | none => simp [read, found]
  | some content => simp [read, found]

theorem answer_of_isIdle (r : Rehearsal) {request : Request} (idle : request.isIdle) :
    (answer request r).2 = r := by
  cases request with
  | load path => rw [answer_load]
  | print text => exact answer_console (.print text) rfl r
  | complain text => exact answer_console (.complain text) rfl r
  | _ => cases idle

/-- A rehearsal keeps files under the texts of their paths. -/
def storage : host.Storage String where
  file := Path.text
  content r text := r.files.get? text
  Readable r text := r.refusal? (.load ⟨text⟩) = none
  Writable r text := r.refusal? (.store ⟨text⟩ .empty) = none
  load_reply r path bytes := by
    rw [← read_eq_ok_iff]
    show (answer _ r).1 = _ ↔ _
    rw [answer_load]
    cases r.refusal? (.load path) with
    | none => simp
    | some fault => simp
  store_reply r path bytes := by
    show (answer _ r).1 = _ ↔ _
    rw [answer_store]
    cases r.refusal? (.store path .empty) with
    | none => simp
    | some fault => simp
  content_store r path bytes writable := by
    funext text
    show (answer _ r).2.files.get? text = _
    rw [answer_store, show r.refusal? (.store path .empty) = none from writable,
      Function.update_apply]
    exact OrderedMap.get?_insert r.files path.text text bytes
  content_idle r request idle := by
    rw [show (host.answer request r).2 = r from answer_of_isIdle r idle]
  rights_idle r request idle := by
    rw [show (host.answer request r).2 = r from answer_of_isIdle r idle]
    exact ⟨rfl, rfl⟩
  rights_store r path bytes := by
    rw [show host.answer (.store path bytes) r = _ from answer_store r path bytes]
    cases r.refusal? (.store path .empty) with
    | none => exact ⟨rfl, rfl⟩
    | some fault => exact ⟨rfl, rfl⟩

end Rehearsal

/-- A rehearsal with a script of which one line has a counterpart and one has none. -/
def flagScript : Rehearsal :=
  ⟨.ofList [("build.samba", "add_flag(-g)\nhalt()\n".toUTF8)], [], .empty, .empty, .empty, .empty,
    "0", []⟩

/-- Beside the script, the Makefile can be written again and again. -/
theorem convert_again_makefile :
    let first := (convert "build.samba" "Makefile").run Rehearsal.host flagScript
    let second := (convert "build.samba" "Makefile").run Rehearsal.host first.2.2
    let conversion : Make.Conversion :=
      ⟨Make.preamble ++ "CFLAGS += -g\n", [(2, .unsupported "halt")]⟩
    first.1 = .ok conversion ∧
      first.2.2.files.get? "build.samba" = some "add_flag(-g)\nhalt()\n".toUTF8 ∧
      second.1 = .ok conversion ∧ calls second.2.1 = calls first.2.1 ∧
      Rehearsal.storage.content second.2.2 = Rehearsal.storage.content first.2.2 := by
  intro first second conversion
  have value : Make.convert "add_flag(-g)\nhalt()\n" = .ok conversion := by decide +kernel
  have converted : first.1 = .ok conversion :=
    (convert_of_storage (w := flagScript) Rehearsal.storage rfl rfl rfl value).1
  obtain ⟨-, apart⟩ := convert_again Rehearsal.storage converted
  obtain ⟨⟨bytes, before, after⟩, same⟩ := apart (by decide)
  have script : flagScript.files.get? "build.samba" = some "add_flag(-g)\nhalt()\n".toUTF8 := rfl
  obtain rfl := Option.some.inj (before.symm.trans script)
  exact ⟨converted, after, same⟩

/-- Written over its script, a Makefile is there instead of it, and the next conversion gives
another one. -/
theorem convert_onto_script :
    let first := (convert "build.samba" "build.samba").run Rehearsal.host flagScript
    let second := (convert "build.samba" "build.samba").run Rehearsal.host first.2.2
    (first.1.toOption.map Make.Conversion.makefile = some (Make.preamble ++ "CFLAGS += -g\n") ∧
        first.2.2.files.get? "build.samba" ≠ flagScript.files.get? "build.samba") ∧
      second.1.toOption.map Make.Conversion.makefile = some Make.preamble ∧
        second.2.2.files.get? "build.samba" ≠ first.2.2.files.get? "build.samba" := by
  decide +kernel

end BuildScript
