import BuildScript.Action.Compile
import BuildScript.Proofs.Host.Tandem
import Mathlib.Data.List.Basic

/-!
# Quiet compilations

A quiet compilation makes the requests of one that is not quiet, except for some lines that it does
not show, and it comes to the same result (`compile_quiet`). What a compiler that fails has printed
on standard error is shown in either case.
-/

namespace BuildScript

/-- The second trace is the first without some lines on the console; if the call has failed, what
was shown on standard error is the same. -/
structure Quieter (failed : Prop) (t t' : List Event) : Prop where
  sublist : t'.Sublist t
  unshown : unshown t' = unshown t
  errors : failed → shownErrors t' = shownErrors t

namespace Quieter

variable {failed : Prop} {t t' u u' : List Event}

theorem refl (t : List Event) : Quieter failed t t := ⟨.refl t, rfl, fun _ => rfl⟩

theorem append (first : Quieter failed t t') (second : Quieter failed u u') :
    Quieter failed (t ++ u) (t' ++ u') where
  sublist := first.sublist.append second.sublist
  unshown := by rw [unshown_append, unshown_append, first.unshown, second.unshown]
  errors := by
    intro given
    rw [shownErrors_append, shownErrors_append, first.errors given, second.errors given]

theorem mono (quieter : Quieter failed t t') {failed' : Prop} (given : failed' → failed) :
    Quieter failed' t t' :=
  ⟨quieter.sublist, quieter.unshown, fun given' => quieter.errors (given given')⟩

/-- A line on standard output may be left out. -/
theorem print (text : String) (reply : Unit) : Quieter failed [.call (.print text) reply] [] :=
  ⟨List.nil_sublist _, rfl, fun _ => rfl⟩

/-- A line on standard error may be left out of a call that has not failed. -/
theorem complain (text : String) (reply : Unit) (succeeded : ¬failed) :
    Quieter failed [.call (.complain text) reply] [] :=
  ⟨List.nil_sublist _, rfl, fun given => absurd given succeeded⟩

end Quieter

namespace Action

open Script

variable {s : Settings}

/-- A quiet compilation is announced only if the settings are verbose, and then like any other. -/
theorem banner_quiet (source : String) (output : Path) :
    ((printAll (compileBanner false s source output).toList).perform s).Tandem
      ((printAll (compileBanner true s source output).toList).perform s) fun t a t' b =>
        a = (.ok (), s) ∧ b = (.ok (), s) ∧ Quieter True t t' := by
  cases verbose : s.verbose with
  | true =>
      simp only [compileBanner, verbose]
      exact .ask fun _ => .done ⟨rfl, rfl, .refl _⟩
  | false =>
      simp only [compileBanner, verbose]
      exact .showLeft rfl fun reply => .done ⟨rfl, rfl, .print _ reply⟩

/-- The compiler's error output is passed on by a quiet compilation when the compiler has failed. -/
theorem showErrors_quiet (result : Completion) :
    ((if result.errors != "" then complain (Text.trimmedEnd result.errors)
      else pure () : Action Unit).perform s).Tandem
    ((if (result.status != 0) && result.errors != "" then complain (Text.trimmedEnd result.errors)
      else pure () : Action Unit).perform s) fun t a t' b =>
        a = (.ok (), s) ∧ b = (.ok (), s) ∧ Quieter (result.status ≠ 0) t t' := by
  by_cases silent : result.errors = ""
  · simp only [silent, bne_self_eq_false, Bool.and_false, Bool.false_eq_true, if_false]
    exact .done ⟨rfl, rfl, .refl _⟩
  · have printed : (result.errors != "") = true := bne_iff_ne.mpr silent
    by_cases succeeded : result.status = 0
    · simp only [printed, succeeded, bne_self_eq_false, Bool.false_and, Bool.false_eq_true,
        if_true, if_false]
      exact .showLeft rfl fun reply =>
        .done ⟨rfl, rfl, .complain _ reply fun failed => failed rfl⟩
    · have failed : (result.status != 0) = true := bne_iff_ne.mpr succeeded
      simp only [printed, failed, Bool.and_true, if_true]
      exact .ask fun _ => .done ⟨rfl, rfl, .refl _⟩

theorem showCompletion_quiet (result : Completion) :
    ((showCompletion false result).perform s).Tandem ((showCompletion true result).perform s)
      fun t a t' b => a = (.ok (), s) ∧ b = (.ok (), s) ∧ Quieter (result.status ≠ 0) t t' := by
  unfold showCompletion
  simp only [Bool.not_false, Bool.not_true, Bool.true_and, Bool.false_and, Bool.true_or,
    Bool.false_or, Bool.false_eq_true, if_false]
  split
  · exact .showLeft rfl fun reply => (showErrors_quiet result).mono fun _ _ _ _ shown =>
      ⟨shown.1, shown.2.1, (Quieter.print _ reply).append shown.2.2⟩
  · exact showErrors_quiet result

/-- A quiet compilation comes to the same as one that is not quiet. -/
theorem compile_quiet (name name' source output : String) :
    ((compile false ⟨name, [source, output]⟩).perform s).Tandem
      ((compile true ⟨name', [source, output]⟩).perform s) fun t a t' b =>
        b = a ∧ Quieter (∃ e, a.1 = .error e) t t' := by
  simp only [compile, perform_bind, perform_get, Plan.done_bind, resume_ok]
  refine (banner_quiet source (s.outputPath output)).bind ?_
  rintro t _ t' _ ⟨rfl, rfl, announced⟩
  simp only [resume_ok, perform_bind, perform_note, perform_attempt, Plan.log_bind, Plan.done_bind,
    Plan.request, Plan.ask_bind]
  refine .logLeft _ _ (.logRight _ _ (.ask fun reply => ?_))
  -- What is made of the reply comes after the announcement and the request.
  have onward {failed : Prop} {u u' : List Event} (request : Event) (rest : Quieter failed u u') :
      Quieter failed (t ++ request :: u) (t' ++ request :: u') :=
    (announced.mono fun _ => trivial).append ((Quieter.refl [request]).append rest)
  cases reply with
  | error fault => exact .done ⟨rfl, onward _ (.refl _)⟩
  | ok result =>
      simp only [Except.mapError, CallError.explain, resume_ok, perform_bind]
      refine (showCompletion_quiet result).bind ?_
      rintro u _ u' _ ⟨rfl, rfl, shown⟩
      simp only [resume_ok]
      by_cases succeeded : result.status = 0
      · simp only [succeeded, bne_self_eq_false, Bool.false_eq_true, if_false, perform_pure]
        refine .done ⟨rfl, onward _ ((shown.append (.refl [])).mono ?_)⟩
        rintro ⟨e, impossible⟩
        cases impossible
      · have failed : (result.status != 0) = true := bne_iff_ne.mpr succeeded
        simp only [failed, if_true, perform_bind, perform_fail, Plan.done_bind, resume_error]
        exact .done ⟨rfl, onward _ ((shown.append (.refl _)).mono fun _ => succeeded)⟩

end Action

end BuildScript
