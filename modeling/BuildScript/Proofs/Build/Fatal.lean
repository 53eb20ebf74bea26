import BuildScript.Build
import BuildScript.Host.Rehearsal
import BuildScript.Proofs.Host.Outcomes
import BuildScript.Proofs.Make.Emission

/-!
# What stops a build

A build is stopped by a script file that cannot be used, and a conversion also by a Makefile that
cannot be written. Nothing else stops them, whatever the lines of the script are.

* **reading** (`readSource_unusable`, `readSource_usable`): a script file can be used if reading it
  gives the bytes of a text, and reading it is a single request;
* **running** (`run_unusable`, `run_usable`): a script that can be used always has a summary;
* **converting** (`convert_unusable`, `convert_usable`): warnings first, then the Makefile, and only
  then the announcement.
-/

namespace BuildScript

open Script

variable {σ : Type}

/-! ## Script files -/

/-- The text of bytes in UTF-8 is read back from them. -/
theorem Text.Utf8.decode_eq_ok_iff (bytes : ByteArray) (source : String) :
    Text.Utf8.decode bytes = .ok source ↔ bytes = source.toUTF8 := by
  rw [decode, String.fromUTF8?]
  constructor
  · intro decoded
    split at decoded
    · rename_i text found
      split at found
      · cases found
        cases decoded
        rfl
      · cases found
    · cases decoded
  · rintro rfl
    rw [dif_pos (show source.toUTF8.IsValidUTF8 from source.isValidUTF8)]
    rfl

/-- A reply that holds no script: the file could not be read, or its bytes are those of no text. -/
def Unusable (reply : Except Fault ByteArray) : Prop :=
  (∃ fault, reply = .error fault) ∨
    ∃ bytes, reply = .ok bytes ∧ ∀ source : String, bytes ≠ source.toUTF8

theorem unusable_or_usable (reply : Except Fault ByteArray) :
    Unusable reply ∨ ∃ source : String, reply = .ok source.toUTF8 := by
  cases reply with
  | error fault => exact .inl (.inl ⟨fault, rfl⟩)
  | ok bytes =>
      by_cases usable : ∃ source : String, bytes = source.toUTF8
      · obtain ⟨source, rfl⟩ := usable
        exact .inr ⟨source, rfl⟩
      · exact .inl (.inr ⟨bytes, rfl, fun source same => usable ⟨source, same⟩⟩)

/-- What is told of a script file that cannot be used. -/
def IsReadingMessage (path : Path) (message : String) : Prop :=
  message = s!"Failed to open build file {path}" ∨
    message = s!"Build file {path} is not valid UTF-8"

theorem readSource_unusable (host : Host σ) (path : Path) (w : σ)
    (unusable : Unusable (host.answer (.load path) w).1) :
    ∃ fault, IsReadingMessage path fault.message ∧
      (readSource path).run host w =
        (.error fault, [.call (.load path) (host.answer (.load path) w).1],
          (host.answer (.load path) w).2) := by
  simp only [readSource, Plan.request, Plan.bind_eq, Plan.ask_bind, Plan.done_bind, Plan.run]
  obtain ⟨fault, failed⟩ | ⟨bytes, read, invalid⟩ := unusable
  · rw [failed]
    exact ⟨_, .inl rfl, rfl⟩
  · rw [read]
    cases decoded : Text.Utf8.decode bytes with
    | error fault => exact ⟨_, .inr rfl, by simp only [decoded]; rfl⟩
    | ok source => exact absurd ((Text.Utf8.decode_eq_ok_iff _ _).mp decoded) (invalid source)

theorem readSource_usable (host : Host σ) (path : Path) (w : σ) {source : String}
    (usable : (host.answer (.load path) w).1 = .ok source.toUTF8) :
    (readSource path).run host w =
      (.ok source, [.call (.load path) (host.answer (.load path) w).1],
        (host.answer (.load path) w).2) := by
  simp only [readSource, Plan.request, Plan.bind_eq, Plan.ask_bind, Plan.done_bind, Plan.run]
  rw [usable]
  simp only [(Text.Utf8.decode_eq_ok_iff _ _).mpr rfl]
  rfl

/-! ## Running a script -/

theorem run_unusable (host : Host σ) (script : String) (targets : List String) (w : σ)
    (unusable : Unusable (host.answer (.load (Path.ofString script)) w).1) :
    let read := host.answer (.load (Path.ofString script)) w
    let ran := (run script targets).run host w
    (∃ fault, ran.1 = .error fault) ∧
      calls ran.2.1 = [.call (.load (Path.ofString script)) read.1] ∧ ran.2.2 = read.2 := by
  obtain ⟨fault, -, stopped⟩ := readSource_unusable host (Path.ofString script) w unusable
  simp [run, Session.runFile, Session.start, Plan.run_bind, Plan.run, stopped]

theorem run_usable (host : Host σ) (script : String) (targets : List String) (w : σ)
    {source : String}
    (usable : (host.answer (.load (Path.ofString script)) w).1 = .ok source.toUTF8) :
    ∃ summary, ((run script targets).run host w).1 = .ok summary := by
  have read := readSource_usable host (Path.ofString script) w usable
  simp [run, Session.runFile, Session.start, Plan.run_bind, Plan.run, read]

/-! ## Converting a script -/

/-- How a warning is shown. -/
def Make.warningText (script : Path) (warning : Nat × ConversionError) : String :=
  s!"warning: {script}:{warning.1}: {warning.2.message}"

/-- The state of a host after texts were shown on standard error. -/
def Host.told (host : Host σ) (texts : List String) (w : σ) : σ :=
  texts.foldl (fun w text => (host.answer (.complain text) w).2) w

/-- Texts that were shown on standard error. -/
def complaints (texts : List String) : List Event :=
  texts.map fun text => .call (.complain text) ()

theorem showWarnings_run (host : Host σ) (script : Path)
    (warnings : List (Nat × Make.ConversionError)) (w : σ) :
    let outcome := (Make.showWarnings script warnings).run host w
    calls outcome.2.1 = complaints (warnings.map (Make.warningText script)) ∧
      outcome.2.2 = host.told (warnings.map (Make.warningText script)) w := by
  induction warnings generalizing w with
  | nil => exact ⟨rfl, rfl⟩
  | cons warning warnings ih =>
      obtain ⟨shown, state⟩ := ih (host.answer (.complain (Make.warningText script warning)) w).2
      exact ⟨congrArg (_ :: ·) shown, state⟩

theorem convert_unusable (host : Host σ) (script output : String) (w : σ)
    (unusable : Unusable (host.answer (.load (Path.ofString script)) w).1) :
    let read := host.answer (.load (Path.ofString script)) w
    let converted := (convert script output).run host w
    (∃ fault, converted.1 = .error fault ∧ IsReadingMessage (Path.ofString script) fault.message) ∧
      calls converted.2.1 = [.call (.load (Path.ofString script)) read.1] ∧
      converted.2.2 = read.2 := by
  obtain ⟨fault, message, stopped⟩ := readSource_unusable host (Path.ofString script) w unusable
  simp [convert, Make.convertFile, Plan.run_bind, Plan.run, stopped, message]

/-- The Makefile is written after the warnings have been shown, and its announcement comes last. -/
theorem save_run (host : Host σ) (script output : Path) (conversion : Make.Conversion) (w : σ) :
    let store := Request.store output conversion.makefile.toUTF8
    let saved := (Make.save script output conversion).run host w
    (∀ fault, (host.answer store w).1 = .error fault →
        saved.1 = .error (fault.under s!"Failed to create {output}") ∧
          calls saved.2.1 = [.call store (.error fault)]) ∧
      ((host.answer store w).1 = .ok () →
        saved.1 = .ok conversion ∧
          calls saved.2.1 =
            [.call store (.ok ()), .call (.print s!"Makefile generated: {output}") ()]) := by
  simp only [Make.save, Plan.request, Plan.bind_eq, Plan.ask_bind, Plan.done_bind, Plan.run]
  refine ⟨fun fault failed => ?_, fun done => ?_⟩
  · rw [failed]
    exact ⟨rfl, rfl⟩
  · rw [done]
    exact ⟨rfl, rfl⟩

section

variable (host : Host σ) (script output : String) (w : σ)

/-- The host's answer to the request to write a Makefile, once the warnings have been shown. -/
def saveReply (conversion : Make.Conversion) : Except Fault Unit :=
  (host.answer (.store (Path.ofString output) conversion.makefile.toUTF8)
    (host.told (conversion.warnings.map (Make.warningText (Path.ofString script)))
      (host.answer (.load (Path.ofString script)) w).2)).1

variable {host script w}

theorem convert_usable {source : String} {conversion : Make.Conversion}
    (made : Make.convert source = .ok conversion)
    (usable : (host.answer (.load (Path.ofString script)) w).1 = .ok source.toUTF8) :
    let store := Request.store (Path.ofString output) conversion.makefile.toUTF8
    let converted := (convert script output).run host w
    let before := .call (.load (Path.ofString script)) (.ok source.toUTF8) ::
      complaints (conversion.warnings.map (Make.warningText (Path.ofString script)))
    (∀ fault, saveReply host script output w conversion = .error fault →
        converted.1 = .error (fault.under s!"Failed to create {Path.ofString output}") ∧
          calls converted.2.1 = before ++ [.call store (.error fault)]) ∧
      (saveReply host script output w conversion = .ok () →
        converted.1 = .ok conversion ∧
          calls converted.2.1 = before ++ [.call store (.ok ()),
            .call (.print s!"Makefile generated: {Path.ofString output}") ()]) := by
  intro store converted before
  have loaded := readSource_usable host (Path.ofString script) w usable
  obtain ⟨shown, state⟩ := showWarnings_run host (Path.ofString script) conversion.warnings
    (host.answer (.load (Path.ofString script)) w).2
  obtain ⟨refused, done⟩ := save_run host (Path.ofString script) (Path.ofString output) conversion
    (host.told (conversion.warnings.map (Make.warningText (Path.ofString script)))
      (host.answer (.load (Path.ofString script)) w).2)
  simp only [converted, convert, Make.convertFile, Plan.bind_eq, Plan.run_bind, loaded, made,
    calls_append, calls_call, calls_nil, shown, state, usable]
  refine ⟨fun fault failed => ?_, fun taken => ?_⟩
  · obtain ⟨result, requests⟩ := refused fault failed
    exact ⟨result, by rw [requests]; rfl⟩
  · obtain ⟨result, requests⟩ := done taken
    exact ⟨result, by rw [requests]; rfl⟩

variable {output}

/-- A conversion fails when the script cannot be used or the Makefile cannot be written. -/
theorem convert_error_cases {fault : Fault}
    (failed : ((convert script output).run host w).1 = .error fault) :
    (Unusable (host.answer (.load (Path.ofString script)) w).1 ∧
        IsReadingMessage (Path.ofString script) fault.message) ∨
      ((∃ source conversion refusal, (host.answer (.load (Path.ofString script)) w).1 =
          .ok source.toUTF8 ∧ Make.convert source = .ok conversion ∧
          saveReply host script output w conversion = .error refusal) ∧
        fault.message = s!"Failed to create {Path.ofString output}") := by
  rcases unusable_or_usable (host.answer (.load (Path.ofString script)) w).1 with
    unusable | ⟨source, usable⟩
  · obtain ⟨⟨fault', failed', message⟩, -⟩ := convert_unusable host script output w unusable
    obtain rfl : fault' = fault := Except.error.inj (failed'.symm.trans failed)
    exact .inl ⟨unusable, message⟩
  · have made := Make.convert_eq source
    obtain ⟨refused, done⟩ := convert_usable output made usable
    cases answer : saveReply host script output w _ with
    | ok taken =>
        rw [(done answer).1] at failed
        cases failed
    | error refusal =>
        rw [(refused refusal answer).1] at failed
        cases failed
        exact .inr ⟨⟨source, _, refusal, usable, made, answer⟩, rfl⟩

end

/-! ## All or nothing -/

/-- The faults of a conversion do not say that a script could not be translated. -/
theorem not_translation_message {path output : Path} {message : String}
    (kind : IsReadingMessage path message ∨ message = s!"Failed to create {output}") :
    ¬ "Failed to translate".toList <+: message.toList := by
  rcases kind with (rfl | rfl) | rfl
  · simp [ToString.toString]
  · simp [ToString.toString]
  · simp [ToString.toString]

/-- A build that is stopped has done nothing. Running a script fails exactly if the script cannot be
used; then reading it was the only request, and the host is left as reading has left it. Converting
a script fails exactly if the script cannot be used, with the same consequences, or if the Makefile
cannot be written. Then the script has been read and each warning has been shown, in the order of
the lines, before the request to write, which is the last one. Otherwise the Makefile has been
written once, and nothing but its announcement comes after. A conversion never fails as a
translation. -/
theorem build_all_or_nothing (host : Host σ) (script output : String) (targets : List String)
    (w : σ) :
    let load := Request.load (Path.ofString script)
    let read := host.answer load w
    let ran := (run script targets).run host w
    let converted := (convert script output).run host w
    ((∃ fault, ran.1 = .error fault) ↔ Unusable read.1) ∧
      ((∃ fault, converted.1 = .error fault) ↔
        Unusable read.1 ∨ ∃ source conversion fault, read.1 = .ok source.toUTF8 ∧
          Make.convert source = .ok conversion ∧
          saveReply host script output w conversion = .error fault) ∧
      (Unusable read.1 →
        (calls ran.2.1 = [.call load read.1] ∧ ran.2.2 = read.2) ∧
          calls converted.2.1 = [.call load read.1] ∧ converted.2.2 = read.2) ∧
      (∀ source : String, read.1 = .ok source.toUTF8 →
        (∃ summary, ran.1 = .ok summary) ∧ ∃ conversion, Make.convert source = .ok conversion ∧
          (conversion.warnings.map Prod.fst).Pairwise (· < ·) ∧
          let store := Request.store (Path.ofString output) conversion.makefile.toUTF8
          let before := .call load (.ok source.toUTF8) ::
            complaints (conversion.warnings.map (Make.warningText (Path.ofString script)))
          (∀ fault, saveReply host script output w conversion = .error fault →
            calls converted.2.1 = before ++ [.call store (.error fault)]) ∧
          (saveReply host script output w conversion = .ok () →
            converted.1 = .ok conversion ∧
              calls converted.2.1 = before ++ [.call store (.ok ()),
                .call (.print s!"Makefile generated: {Path.ofString output}") ()])) ∧
      ∀ fault, converted.1 = .error fault →
        ¬ "Failed to translate".toList <+: fault.message.toList := by
  intro load read ran converted
  refine ⟨⟨?_, fun unusable => (run_unusable host script targets w unusable).1⟩, ⟨?_, ?_⟩, ?_, ?_,
    ?_⟩
  · rintro ⟨fault, failed⟩
    refine (unusable_or_usable read.1).resolve_right ?_
    rintro ⟨source, usable⟩
    obtain ⟨summary, completed⟩ := run_usable host script targets w usable
    cases failed.symm.trans completed
  · rintro ⟨fault, failed⟩
    exact (convert_error_cases failed).imp And.left And.left
  · rintro (unusable | ⟨source, conversion, refusal, usable, made, refused⟩)
    · obtain ⟨⟨fault, failed, -⟩, -⟩ := convert_unusable host script output w unusable
      exact ⟨fault, failed⟩
    · exact ⟨_, ((convert_usable output made usable).1 refusal refused).1⟩
  · intro unusable
    exact ⟨(run_unusable host script targets w unusable).2,
      (convert_unusable host script output w unusable).2⟩
  · intro source usable
    have made := Make.convert_eq source
    obtain ⟨refused, done⟩ := convert_usable output made usable
    exact ⟨run_usable host script targets w usable, _, made, Make.warningsFrom_ascending 1 _,
      fun fault failed => (refused fault failed).2, done⟩
  · intro fault failed
    exact not_translation_message ((convert_error_cases failed).imp And.right And.right)

/-- A rehearsal with a script whose second line has no counterpart, and another file that is no
text; nothing can be written. -/
def readOnly : Rehearsal :=
  ⟨.ofList [("build.samba", "add_flag(-g)\nhalt()\n".toUTF8), ("photo", ⟨#[0xFF]⟩)], [], .empty,
    .empty, .empty, .empty, "0", [⟨.store, Rehearsal.anySubject, .ofMessage "read-only"⟩]⟩

/-- The file that is no text stops a run at once. The script is run to its end in spite of its
second line, and its conversion warns of that line before it fails to write. -/
theorem build_all_or_nothing_readOnly :
    let spoilt := (run "photo" []).run Rehearsal.host readOnly
    let converted := (convert "build.samba" "Makefile").run Rehearsal.host readOnly
    ((∃ fault, spoilt.1 = .error fault) ∧
        calls spoilt.2.1 = [.call (.load ⟨"photo"⟩) (.ok ⟨#[0xFF]⟩)] ∧ spoilt.2.2 = readOnly) ∧
      (∃ summary, ((run "build.samba" []).run Rehearsal.host readOnly).1 = .ok summary) ∧
      (∃ fault, converted.1 = .error fault) ∧
      calls converted.2.1 =
        [.call (.load ⟨"build.samba"⟩) (.ok "add_flag(-g)\nhalt()\n".toUTF8),
          .call (.complain
            "warning: build.samba:2: Directive 'halt' is not supported in translation mode") (),
          .call (.store ⟨"Makefile"⟩ (Make.preamble ++ "CFLAGS += -g\n").toUTF8)
            (.error (.ofMessage "read-only"))] := by
  intro spoilt converted
  have noText : Unusable (Rehearsal.host.answer (.load (Path.ofString "photo")) readOnly).1 := by
    refine .inr ⟨⟨#[0xFF]⟩, rfl, fun source same => ?_⟩
    have decoded := (Text.Utf8.decode_eq_ok_iff _ _).mpr same
    have invalid : Text.Utf8.decode ⟨#[0xFF]⟩ = .error ⟨0, some 1⟩ := by decide +kernel
    cases invalid.symm.trans decoded
  have usable : (Rehearsal.host.answer (.load (Path.ofString "build.samba")) readOnly).1 =
      .ok "add_flag(-g)\nhalt()\n".toUTF8 := rfl
  have value : Make.convert "add_flag(-g)\nhalt()\n" =
      .ok ⟨Make.preamble ++ "CFLAGS += -g\n", [(2, .unsupported "halt")]⟩ := by decide +kernel
  obtain ⟨ran, -, nothing, -⟩ := build_all_or_nothing Rehearsal.host "photo" "Makefile" [] readOnly
  obtain ⟨-, failed, -, all, -⟩ :=
    build_all_or_nothing Rehearsal.host "build.samba" "Makefile" [] readOnly
  obtain ⟨completed, conversion, made, -, refused, -⟩ := all _ usable
  obtain rfl := Except.ok.inj (made.symm.trans value)
  have reply : saveReply Rehearsal.host "build.samba" "Makefile" readOnly
      ⟨Make.preamble ++ "CFLAGS += -g\n", [(2, .unsupported "halt")]⟩ =
      .error (.ofMessage "read-only") := rfl
  refine ⟨⟨ran.mpr noText, (nothing noText).1⟩, completed, ?_, refused _ reply⟩
  exact failed.mpr (.inr ⟨_, _, _, usable, made, reply⟩)

end BuildScript
