import BuildScript.Proofs.Make.Bounded

/-!
# What a reported success is worth

A sink may refuse text at any point, keep a part of what it refuses, and take text again later. All
that is asked of it here is that it adds up what it takes (`Accepts`). Whenever a line is reported to
be written, its rule has just been added as a whole (`written_of_emits`), and no text is ever lost
again (`emitEach_grows`).

The exception is a repeated `clean()`: it is passed over with success whatever became of the first one
(`passed_of_repeated`), so the rule may be missing although its second call is reported to be done.
-/

namespace BuildScript.Make

open Script

/-- `accepted` is what the sink has taken so far. Of a piece that is refused it may have taken a
start. -/
structure Accepts {ω : Type} (sink : Sink ω) (accepted : ω → String) : Prop where
  whole : ∀ piece out, (sink.put piece out).1 = true →
    accepted (sink.put piece out).2 = accepted out ++ piece
  part : ∀ piece out, ∃ start : String, start.toList <+: piece.toList ∧
    accepted (sink.put piece out).2 = accepted out ++ start

section

variable {ω : Type} {sink : Sink ω} {accepted : ω → String}

/-! ## Single lines -/

theorem putAll_whole (accepts : Accepts sink accepted) {pieces : List String} {out : ω}
    (taken : (sink.putAll pieces out).1 = true) :
    accepted (sink.putAll pieces out).2 = accepted out ++ String.join pieces := by
  induction pieces generalizing out with
  | nil => simp [Sink.putAll]
  | cons piece pieces ih =>
      have first := accepts.whole piece out
      rw [Sink.putAll] at taken ⊢
      generalize sink.put piece out = step at first taken ⊢
      obtain ⟨_ | _, next⟩ := step
      · cases taken
      · show accepted (sink.putAll pieces next).2 = _
        rw [ih taken, first rfl, String.join_cons, String.append_assoc]

theorem putAll_grows (accepts : Accepts sink accepted) (pieces : List String) (out : ω) :
    ∃ more, accepted (sink.putAll pieces out).2 = accepted out ++ more := by
  induction pieces generalizing out with
  | nil => exact ⟨"", by simp [Sink.putAll]⟩
  | cons piece pieces ih =>
      obtain ⟨start, -, first⟩ := accepts.part piece out
      rw [Sink.putAll]
      generalize sink.put piece out = step at first ⊢
      obtain ⟨_ | _, next⟩ := step
      · exact ⟨start, first⟩
      · obtain ⟨more, later⟩ := ih next
        refine ⟨start ++ more, ?_⟩
        show accepted (sink.putAll pieces next).2 = _
        rw [later, first, String.append_assoc]

/-- Writing a rule leaves in the sink what its pieces leave, and either succeeds or is refused. -/
theorem write_cases (sink : Sink ω) (rule : Rule) (m : Makefile ω) :
    (Makefile.write sink rule m).2 = { m with out := (sink.putAll rule.pieces m.out).2 } ∧
      ((sink.putAll rule.pieces m.out).1 = true ∧ (Makefile.write sink rule m).1 = .ok () ∨
        (Makefile.write sink rule m).1 = .error .refused) := by
  rw [Makefile.write]
  generalize sink.putAll rule.pieces m.out = step
  obtain ⟨_ | _, next⟩ := step
  · exact ⟨rfl, .inr rfl⟩
  · exact ⟨rfl, .inl ⟨rfl, rfl⟩⟩

theorem emit_grows (accepts : Accepts sink accepted) (above : List Line) (line : Line) (out : ω) :
    ∃ more, accepted (Makefile.emit sink line ⟨out, decide (cleanCall ∈ above)⟩).2.out =
      accepted out ++ more := by
  rw [emit_eq]
  cases part above line with
  | adds rule =>
      obtain ⟨more, grown⟩ := putAll_grows accepts rule.pieces out
      refine ⟨more, ?_⟩
      show accepted (Makefile.write sink rule ⟨out, _⟩).2.out = _
      rw [(write_cases sink rule ⟨out, _⟩).1, grown]
  | nothing => exact ⟨"", by simp⟩
  | warns error => exact ⟨"", by simp⟩

/-! ## Lines one after another -/

theorem emit_cleanSeen (sink : Sink ω) (above : List Line) (line : Line) (out : ω) :
    (Makefile.emit sink line ⟨out, decide (cleanCall ∈ above)⟩).2.cleanSeen =
      decide (cleanCall ∈ above ++ [line]) := by
  rw [emit_eq]
  cases part above line with
  | adds rule =>
      show (Makefile.write sink rule ⟨out, _⟩).2.cleanSeen = _
      rw [(write_cases sink rule ⟨out, _⟩).1]
  | nothing => rfl
  | warns error => rfl

/-- Whether `clean()` was seen is whether it was among the lines, whatever became of them. -/
theorem emitEach_cleanSeen (sink : Sink ω) (above ls : List Line) (out : ω) :
    (Makefile.emitEach sink ⟨out, decide (cleanCall ∈ above)⟩ ls).2.cleanSeen =
      decide (cleanCall ∈ above ++ ls) := by
  induction ls generalizing above out with
  | nil => simp [Makefile.emitEach]
  | cons line ls ih =>
      have step := emit_cleanSeen sink above line out
      rw [Makefile.emitEach]
      generalize Makefile.emit sink line ⟨out, decide (cleanCall ∈ above)⟩ = next at step ⊢
      obtain ⟨result, out', seen⟩ := next
      obtain rfl : seen = decide (cleanCall ∈ above ++ [line]) := step
      have later := ih (above ++ [line]) out'
      rwa [List.append_assoc] at later

/-- What was accepted stays. -/
theorem emitEach_grows (accepts : Accepts sink accepted) (above ls : List Line) (out : ω) :
    ∃ more, accepted (Makefile.emitEach sink ⟨out, decide (cleanCall ∈ above)⟩ ls).2.out =
      accepted out ++ more := by
  induction ls generalizing above out with
  | nil => exact ⟨"", by simp [Makefile.emitEach]⟩
  | cons line ls ih =>
      obtain ⟨first, grown⟩ := emit_grows accepts above line out
      have step := emit_cleanSeen sink above line out
      rw [Makefile.emitEach]
      generalize Makefile.emit sink line ⟨out, decide (cleanCall ∈ above)⟩ = next at step grown ⊢
      obtain ⟨result, out', seen⟩ := next
      obtain rfl : seen = decide (cleanCall ∈ above ++ [line]) := step
      obtain ⟨more, later⟩ := ih (above ++ [line]) out'
      refine ⟨first ++ more, ?_⟩
      rw [← String.append_assoc, ← grown]
      exact later

end

section

variable {ω : Type} (sink : Sink ω) (out : ω) (ls : List Line)

/-- What has become of the lines of a new Makefile. -/
def resultsOf : List (Except ConversionError Unit) := (Makefile.emitEach sink ⟨out, false⟩ ls).1

/-- The sink after the first `n` lines of a new Makefile. -/
def sinkAfter (n : Nat) : ω := (Makefile.emitEach sink ⟨out, false⟩ (ls.take n)).2.out

theorem emitEach_take (n : Nat) :
    (Makefile.emitEach sink ⟨out, false⟩ (ls.take n)).2 =
      ⟨sinkAfter sink out ls n, decide (cleanCall ∈ ls.take n)⟩ := by
  have seen := emitEach_cleanSeen sink [] (ls.take n) out
  rw [show decide (cleanCall ∈ []) = false from rfl, List.nil_append] at seen
  rw [← seen]
  rfl

variable {ls} {i : Nat} {line : Line}

/-- A line is emitted after the lines above it. -/
theorem resultsOf_getElem? (here : ls[i]? = some line) :
    let step := Makefile.emit sink line ⟨sinkAfter sink out ls i, decide (cleanCall ∈ ls.take i)⟩
    (resultsOf sink out ls)[i]? = some step.1 ∧ sinkAfter sink out ls (i + 1) = step.2.out := by
  obtain ⟨result, after⟩ := emitEach_getElem? sink here ⟨out, false⟩
  rw [emitEach_take sink out ls i] at result after
  exact ⟨result, congrArg Makefile.out after⟩

variable {sink out} {accepted : ω → String}

theorem sinkAfter_grows (accepts : Accepts sink accepted) {k : Nat} (before : i ≤ k) :
    ∃ more, accepted (sinkAfter sink out ls k) = accepted (sinkAfter sink out ls i) ++ more := by
  have split : ls.take k = ls.take i ++ (ls.take k).drop i := by
    have parts := List.take_append_drop i (ls.take k)
    rwa [List.take_take, Nat.min_eq_left before, eq_comm] at parts
  have after : sinkAfter sink out ls k = (Makefile.emitEach sink
      ⟨sinkAfter sink out ls i, decide (cleanCall ∈ ls.take i)⟩ ((ls.take k).drop i)).2.out := by
    rw [← emitEach_take, sinkAfter]
    conv_lhs => rw [split]
    rw [emitEach_append]
  rw [after]
  exact emitEach_grows accepts (ls.take i) ((ls.take k).drop i) (sinkAfter sink out ls i)

/-- A line that emits a rule is refused, or it has added the text of the rule as a whole. -/
theorem written_of_emits (accepts : Accepts sink accepted) (here : ls[i]? = some line)
    {rule : Rule} (emits : Emits (ls.take i) line rule) :
    (resultsOf sink out ls)[i]? = some (.ok ()) ∧
        accepted (sinkAfter sink out ls (i + 1)) =
          accepted (sinkAfter sink out ls i) ++ rule.text ∨
      (resultsOf sink out ls)[i]? = some (.error .refused) := by
  obtain ⟨result, after⟩ := resultsOf_getElem? sink out here
  rw [result, after, emit_eq, part_of_emits emits]
  obtain ⟨left, ⟨taken, done⟩ | refused⟩ := write_cases sink rule
    ⟨sinkAfter sink out ls i, decide (cleanCall ∈ ls.take i ++ [line])⟩
  · left
    refine ⟨congrArg some done, ?_⟩
    show accepted (Makefile.write sink rule _).2.out = _
    rw [left]
    exact putAll_whole accepts taken
  · right
    exact congrArg some refused

/-- A later `clean()` is done without a look at the sink. -/
theorem passed_of_repeated (here : ls[i]? = some cleanCall) (earlier : cleanCall ∈ ls.take i) :
    (resultsOf sink out ls)[i]? = some (.ok ()) ∧
      sinkAfter sink out ls (i + 1) = sinkAfter sink out ls i := by
  obtain ⟨result, after⟩ := resultsOf_getElem? sink out here
  rw [result, after, emit_eq, part_of_silent (.repeated earlier)]
  exact ⟨rfl, rfl⟩

/-- A call that is done emits its rule, or it is a later `clean()`. -/
theorem emits_or_repeated {call : Call} (here : ls[i]? = some (.call call))
    (done : (resultsOf sink out ls)[i]? = some (.ok ())) :
    (∃ rule, Emits (ls.take i) (.call call) rule) ∨
      .call call = cleanCall ∧ cleanCall ∈ ls.take i := by
  have yields := yields_part (ls.take i) (.call call)
  obtain ⟨result, -⟩ := resultsOf_getElem? sink out here
  rw [result, emit_eq] at done
  cases same : part (ls.take i) (.call call) with
  | adds rule =>
      rw [same] at yields
      exact .inl ⟨rule, yields⟩
  | nothing =>
      rw [same] at yields
      cases yields with
      | repeated earlier => exact .inr ⟨rfl, earlier⟩
  | warns error =>
      rw [same] at done
      cases done

end

/-- What stands among the first lines stands somewhere for the first time. -/
theorem exists_first {ls : List Line} {i : Nat} {line : Line} (member : line ∈ ls.take i) :
    ∃ j < i, ls[j]? = some line ∧ line ∉ ls.take j := by
  obtain ⟨before, after, split, first⟩ := List.eq_append_cons_of_mem member
  have whole : ls = before ++ line :: (after ++ ls.drop i) := by
    rw [← List.cons_append, ← List.append_assoc, ← split, List.take_append_drop]
  have short : before.length < (ls.take i).length := by simp [split]
  refine ⟨before.length, ?_, ?_, ?_⟩
  · rw [List.length_take] at short
    omega
  · rw [whole, List.getElem?_append_right (Nat.le_refl _), Nat.sub_self]
    rfl
  · rw [whole, List.take_left]
    exact first

/-- A line that is reported to be done has its rule in the file, unless it is a repeated `clean()` after
the first one was refused.

Let a sink refuse what it likes, as long as it adds up what it takes, and let any lines be given to one
Makefile. If a call is done, then it has a rule, and all that the sink has accepted by then holds the
text of the rule; the exception is `clean()` after an earlier `clean()` was refused. A line other than
`clean()` that is done has added its rule at that moment, so it does not matter what became of the same
line before. A repeated `clean()` is always done, and adds nothing. -/
theorem emitEach_delivers {ω : Type} {sink : Sink ω} {accepted : ω → String}
    (accepts : Accepts sink accepted) (out : ω) (ls : List Line) :
    let begun := (Makefile.start sink out).2
    let results := (begun.emitEach sink ls).1
    let text (n : Nat) := accepted (begun.emitEach sink (ls.take n)).2.out
    (∀ (i : Nat) (call : Call), ls[i]? = some (.call call) → results[i]? = some (.ok ()) →
        ∃ rule, Counterpart (.call call) rule ∧
          (rule.text.toList <:+: (text (i + 1)).toList ∨
            .call call = cleanCall ∧ ∃ j < i, ls[j]? = some cleanCall ∧
              results[j]? = some (Except.error .refused))) ∧
      (∀ (i : Nat) (line : Line) (rule : Rule), ls[i]? = some line → Counterpart line rule →
        line ≠ cleanCall → results[i]? = some (.ok ()) → text (i + 1) = text i ++ rule.text) ∧
      ∀ i j : Nat, i < j → ls[i]? = some cleanCall → ls[j]? = some cleanCall →
        results[j]? = some (.ok ()) ∧ text (j + 1) = text j := by
  intro begun results text
  have begins : begun = ⟨(sink.put preamble out).2, false⟩ := rfl
  have results_eq : results = resultsOf sink (sink.put preamble out).2 ls := by
    simp only [results, begins, resultsOf]
  have text_eq (n : Nat) : text n = accepted (sinkAfter sink (sink.put preamble out).2 ls n) := by
    simp only [text, begins, sinkAfter]
  -- A rule that was written at some line is still there at any later one.
  have holds {j k : Nat} {line : Line} {rule : Rule} (later : j < k) (here : ls[j]? = some line)
      (emits : Emits (ls.take j) line rule) :
      rule.text.toList <:+: (text k).toList ∨ results[j]? = some (.error .refused) := by
    rw [results_eq, text_eq]
    obtain ⟨-, written⟩ | refused := written_of_emits accepts here emits
    · left
      obtain ⟨more, grown⟩ := sinkAfter_grows accepts (Nat.succ_le_of_lt later)
      rw [grown, written, String.toList_append, String.toList_append]
      exact ⟨_, _, rfl⟩
    · exact .inr refused
  refine ⟨?_, ?_, ?_⟩
  · intro i call here done
    rw [results_eq] at done
    obtain ⟨rule, emits⟩ | ⟨clean, earlier⟩ := emits_or_repeated here done
    · refine ⟨rule, emits.1, .inl ?_⟩
      obtain held | refused := holds (Nat.lt_succ_self i) here emits
      · exact held
      · rw [results_eq, done] at refused
        cases refused
    · obtain ⟨j, before, first, fresh⟩ := exists_first earlier
      have emits : Emits (ls.take j) cleanCall .clean :=
        ⟨counterpart_cleanCall, fun _ => fresh⟩
      refine ⟨.clean, clean ▸ counterpart_cleanCall, ?_⟩
      obtain held | refused := holds (Nat.lt_succ_of_lt before) first emits
      · exact .inl held
      · exact .inr ⟨clean, j, before, first, refused⟩
  · intro i line rule here counterpart other done
    rw [text_eq, text_eq]
    rw [results_eq] at done
    have emits : Emits (ls.take i) line rule := ⟨counterpart, fun same => absurd same other⟩
    obtain ⟨-, written⟩ | refused := written_of_emits accepts here emits
    · exact written
    · rw [done] at refused
      cases refused
  · intro i j before here there
    rw [results_eq, text_eq, text_eq]
    have earlier : cleanCall ∈ ls.take j :=
      List.mem_of_getElem? (by rw [List.getElem?_take_of_lt before]; exact here)
    obtain ⟨done, same⟩ := passed_of_repeated there earlier
    exact ⟨done, congrArg accepted same⟩

/-- A bounded text takes a start of a piece, and all of it if it says so. -/
theorem put_appends (piece : String) (out : Bounded) :
    ∃ start : String, start.toList <+: piece.toList ∧
      (bounded.put piece out).2.text = out.text ++ start ∧
        ((bounded.put piece out).1 = true → start = piece) := by
  show ∃ start : String, start.toList <+: piece.toList ∧
    (Bounded.put piece out).2.text = out.text ++ start ∧
      ((Bounded.put piece out).1 = true → start = piece)
  unfold Bounded.put
  split
  · rename_i empty
    obtain rfl : piece = "" := by simpa using empty
    exact ⟨"", List.prefix_rfl, by simp, fun _ => rfl⟩
  · split
    · exact ⟨"", List.nil_prefix, by simp, fun taken => by cases taken⟩
    · have fits := fitting_whole_iff (out.capacity - out.text.utf8ByteSize) piece.toList
      refine ⟨_, ?_, rfl, fun taken => ?_⟩
      · rw [String.toList_ofList]
        exact fitting_isPrefix _ _
      · rw [fitting_of_le (fits.mp taken), String.ofList_toList]

theorem accepts_bounded : Accepts bounded Bounded.text where
  whole piece out taken := by
    obtain ⟨start, -, text, whole⟩ := put_appends piece out
    rw [text, whole taken]
  part piece out := by
    obtain ⟨start, begins, text, -⟩ := put_appends piece out
    exact ⟨start, begins, text⟩

/-- There is room for the preamble and one flag. The flag is done and in the file. The rule `clean` is
refused, and its repetition is done without it. -/
theorem emitEach_delivers_flag :
    let flag : Line := .call ⟨"add_flag", ["-g"]⟩
    let ls : List Line := [flag, cleanCall, cleanCall]
    let capacity := preamble.utf8ByteSize + 13
    let begun := (Makefile.start bounded (.ofCapacity capacity)).2
    let results := (begun.emitEach bounded ls).1
    let text (n : Nat) := (begun.emitEach bounded (ls.take n)).2.out.text
    results = [.ok (), .error .refused, .ok ()] ∧
      (Rule.flag "-g").text.toList <:+: (text 1).toList ∧
        text 1 = text 0 ++ (Rule.flag "-g").text ∧ text 3 = text 2 := by
  intro flag ls capacity begun results text
  have outcome : results = [.ok (), .error .refused, .ok ()] := by decide +kernel
  have here : ls[0]? = some flag := rfl
  have again : ls[1]? = some cleanCall ∧ ls[2]? = some cleanCall := ⟨rfl, rfl⟩
  have other : flag ≠ cleanCall := by decide
  have counterpart : Counterpart flag (.flag "-g") := .ofKind .flag ["-g"] (.flag "-g") rfl rfl
  have first : results[0]? = some (.ok ()) := by rw [outcome]; rfl
  -- Nothing is computed any more.
  clear_value ls capacity
  obtain ⟨holds, written, repeated⟩ := emitEach_delivers accepts_bounded (.ofCapacity capacity) ls
  refine ⟨outcome, ?_, ?_, ?_⟩
  · obtain ⟨rule, found, held | ⟨clean, -⟩⟩ := holds 0 ⟨"add_flag", ["-g"]⟩ here first
    · rwa [Counterpart.unique counterpart found]
    · exact absurd clean other
  · exact written 0 flag (.flag "-g") here counterpart other first
  · exact (repeated 1 2 (by decide) again.1 again.2).2

/-- There is room for the preamble alone. The rule `clean` is refused, its repetition is reported to be
done, and there is no such rule in the file. -/
theorem emitEach_undelivered :
    let begun := Makefile.start bounded (.ofCapacity preamble.utf8ByteSize)
    let run := begun.2.emitEach bounded [cleanCall, cleanCall]
    begun.1 = true ∧ run.1 = [.error .refused, .ok ()] ∧
      run.2.out.text = preamble ∧ ¬ Rule.clean.text.toList <:+: run.2.out.text.toList := by
  decide +kernel

end BuildScript.Make
