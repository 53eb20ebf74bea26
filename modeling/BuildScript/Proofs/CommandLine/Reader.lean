import BuildScript.CommandLine.Reader
import BuildScript.Proofs.CommandLine.Rules
import Mathlib.Data.List.Basic

/-!
# The reader follows the rules

The reader of command lines is a parser as it should be (`follows_parse`): it accepts what can be read
by the rules, and reports what it should.

The reader settles a value only when the next argument begins. So what it has read so far is not in
its occurrences, but in what they are once everything is settled (`Reader.Stands`). Each rule has one
lemma, which takes the reader from where it stands to one occurrence more; the whole command line
follows by induction on how it is read (`Stands.takeAll`).
-/

namespace BuildScript

/-! ## What is reported for occurrences -/

namespace CommandLine

variable {ι : Type}

/-- What stands for itself is a value. -/
theorem Reads.values_ne_nil {declare : ι → Declaration} {arguments : List String}
    {os : List (Occurrence ι)} (reads : Reads declare arguments os) :
    ∀ o ∈ os, (declare o.argument).kind = .many → o.values ≠ [] := by
  induction reads with
  | nil => exact List.forall_mem_nil _
  | form kind isForm further ih =>
      refine List.forall_mem_cons.mpr ⟨fun many => ?_, ih⟩
      simp [many] at kind
  | attached kind hasLong full further ih =>
      exact List.forall_mem_cons.mpr ⟨fun _ => List.cons_ne_nil _ _, ih⟩
  | apart kind isForm full plain further ih =>
      exact List.forall_mem_cons.mpr ⟨fun _ => List.cons_ne_nil _ _, ih⟩
  | leftOut kind optional isForm noValue further ih =>
      refine List.forall_mem_cons.mpr ⟨fun many => ?_, ih⟩
      simp [many] at kind
  | word kind plain further ih =>
      exact List.forall_mem_cons.mpr ⟨fun _ => List.cons_ne_nil _ _, ih⟩

variable [DecidableEq ι]

theorem times_append (a : ι) (os os' : List (Occurrence ι)) :
    times a (os ++ os') = times a os + times a os' := List.countP_append

theorem times_singleton (a : ι) (o : Occurrence ι) :
    times a [o] = if o.argument = a then 1 else 0 := by
  simp [times, List.countP_cons]

theorem filter_eq_nil {a : ι} {os : List (Occurrence ι)} (none : times a os = 0) :
    os.filter (·.argument = a) = [] := by
  rw [← List.length_eq_zero_iff, ← List.countP_eq_length_filter]
  exact none

/-- An argument that is given at most once has no other occurrence. -/
theorem filter_eq_singleton {o : Occurrence ι} {os : List (Occurrence ι)}
    (member : o ∈ os) (once : times o.argument os ≤ 1) :
    os.filter (·.argument = o.argument) = [o] := by
  have found : o ∈ os.filter (·.argument = o.argument) := by simp [member]
  rw [times, List.countP_eq_length_filter] at once
  obtain ⟨other, single⟩ :=
    List.length_eq_one_iff.mp (Nat.le_antisymm once (List.length_pos_of_mem found))
  rw [single, List.mem_singleton] at found
  rw [single, found]

/-- What may be given once was not given before. -/
theorem Once.fresh {declare : ι → Declaration} {os further : List (Occurrence ι)}
    {o : Occurrence ι} (once : Once declare (os ++ [o] ++ further))
    (kind : (declare o.argument).kind = .flag ∨ (declare o.argument).kind = .single) :
    times o.argument os = 0 := by
  have most := once o.argument kind
  rw [times_append, times_append, times_singleton, if_pos rfl] at most
  omega

/-- What is reported by occurrences is what should be. -/
theorem reports_ofOccurrences {declare : ι → Declaration} {arguments : List String}
    {os : List (Occurrence ι)} (reads : Reads declare arguments os) (once : Once declare os) :
    Reports declare os (.ofOccurrences declare os) where
  flag a _ := by simp [Matches.ofOccurrences, times]
  count a _ := rfl
  value a text kind member := by
    have found := filter_eq_singleton member (once a (.inr kind))
    simp [Matches.ofOccurrences, found]
  missing a text kind member isMissing := by
    have found := filter_eq_singleton member (once a (.inr kind))
    simp [Matches.ofOccurrences, found, isMissing]
  default a _ none := by simp [Matches.ofOccurrences, filter_eq_nil none]
  collected a kind given := by
    have some : os.filter (·.argument = a) ≠ [] := by
      rw [Ne, ← List.length_eq_zero_iff, ← List.countP_eq_length_filter]
      exact given
    simp only [Matches.ofOccurrences]
    refine List.flatMap_congr fun o member => ?_
    obtain ⟨among, rfl⟩ : o ∈ os ∧ o.argument = a := by simpa using member
    simp [reads.values_ne_nil o among kind]

end CommandLine

open CommandLine

namespace Reader

variable {r : Reader} {a : Argument} {os : List (Occurrence Argument)}

/-! ## How the reader takes an argument -/

/-- A form of an argument, with nothing beside it. -/
theorem take_form (literal : r.literal = false) {text : String}
    (isForm : text ∈ a.declaration.forms) : r.take text = r.takeForm a := by
  have short (a : Argument) (letter : Char) (named : Argument.ofLetter? letter = some a) :
      r.takeShort [letter] = r.takeForm a := by
    unfold takeShort
    rw [named]
    cases takes : a.takesValue with
    | true => simp [takes]
    | false =>
        simp only [takes, Bool.false_eq_true, if_false]
        exact bind_pure _
  cases a with
  | targets => simp [Argument.declaration, Declaration.forms] at isForm
  | version | versionShort | make =>
      obtain rfl : text = _ := by simpa [Argument.declaration, Declaration.forms] using isForm
      simp [take, literal, takeLong, Argument.ofLong?, Argument.all, Argument.declaration]
  | file | verbose | help =>
      obtain rfl | rfl : text = _ ∨ text = _ := by
        simpa [Argument.declaration, Declaration.forms] using isForm
      · simp only [take, literal, Bool.false_eq_true, if_false]
        exact short _ _ rfl
      · simp [take, literal, takeLong, Argument.ofLong?, Argument.all, Argument.declaration]

/-- A value behind the long form of an argument. -/
theorem take_attached (literal : r.literal = false) (kind : a.declaration.kind = .single)
    {long : String} (hasLong : a.declaration.long? = some long) (value : String) :
    r.take ("--" ++ long ++ "=" ++ value) = r.takeValue a value := by
  cases a with
  | version | versionShort | verbose | targets | help => cases kind
  | file | make =>
      obtain rfl := Option.some.inj hasLong
      simp [take, literal, takeLong, Argument.ofLong?, Argument.all, Argument.declaration,
        Argument.takesValue]

/-- An argument without a dash has no form. -/
theorem take_word (literal : r.literal = false) {text : String} (plain : ¬ Dashed text) :
    r.take text = r.takeWord text := by
  unfold Dashed at plain
  rw [take, literal, if_neg Bool.false_ne_true]
  split
  · rename_i chars
    simp [chars] at plain
  · rename_i chars
    simp [chars] at plain
  · rename_i chars
    simp [chars] at plain
  · rfl

theorem mem_note {b : Argument} : b ∈ (r.note a).given ↔ b ∈ r.given ∨ b = a := by
  unfold note
  split
  · rename_i noted
    have known : a ∈ r.given := List.contains_iff_mem.mp noted
    exact ⟨.inl, fun either => either.elim id fun same => same ▸ known⟩
  · simp

theorem note_eq (r : Reader) (a : Argument) : r.note a = { r with given := (r.note a).given } := by
  unfold note
  split <;> rfl

/-! ## Where the reader stands -/

/-- The reader has read these occurrences, and nothing is left to settle. -/
structure Holds (r : Reader) (os : List (Occurrence Argument)) : Prop where
  occurrences : r.occurrences = os
  given : ∀ a ∈ r.given, times a os ≠ 0
  unsettled : r.unsettled = .nothing
  literal : r.literal = false

/-- The reader has read these occurrences, once it has settled what is left. -/
structure Stands (r : Reader) (os : List (Occurrence Argument)) : Prop where
  settles : ∃ next, r.settled = .ok next ∧ next.Holds os
  literal : r.literal = false

/-- The reader would take the next argument for a value. -/
def Waits (r : Reader) : Prop := ∃ a, r.unsettled = .value a none

theorem settled_of_settle {next : Reader} (done : r.settle = (.ok (), next)) :
    r.settled = .ok next := by
  rw [settled, done]

theorem Holds.settled (holds : r.Holds os) : r.settled = .ok r := by
  obtain ⟨occurrences, given, unsettled, literal⟩ := r
  obtain rfl : unsettled = .nothing := holds.unsettled
  rfl

theorem Holds.stands (holds : r.Holds os) : r.Stands os :=
  ⟨⟨r, holds.settled, holds⟩, holds.literal⟩

theorem not_waits {unsettled : Unsettled} (is : r.unsettled = unsettled)
    (other : ∀ a, unsettled ≠ .value a none) : ¬ r.Waits :=
  fun ⟨a, waiting⟩ => other a (is.symm.trans waiting)

theorem Holds.not_waits (holds : r.Holds os) : ¬ r.Waits := Reader.not_waits holds.unsettled nofun

theorem holds_start : start.Holds [] := ⟨rfl, List.forall_mem_nil _, rfl, rfl⟩

/-! ## One occurrence more -/

/-- The reader has read an occurrence more, and noted at most that. -/
theorem Holds.extend {last : Reader} (holds : r.Holds os) {o : Occurrence Argument}
    (occurrences : last.occurrences = r.occurrences ++ [o])
    (given : ∀ b ∈ last.given, b ∈ r.given ∨ b = o.argument)
    (unsettled : last.unsettled = .nothing) (literal : last.literal = r.literal) :
    last.Holds (os ++ [o]) where
  occurrences := occurrences.trans (congrArg (· ++ [o]) holds.occurrences)
  given b member := by
    rw [times_append, times_singleton]
    obtain before | rfl := given b member
    · exact Nat.ne_of_gt (Nat.add_pos_left (Nat.pos_of_ne_zero (holds.given b before)) _)
    · simp
  unsettled := unsettled
  literal := literal.trans holds.literal

/-- An occurrence is noted and added. -/
theorem Holds.add (holds : r.Holds os) (o : Occurrence Argument) :
    ((r.note o.argument).add [o]).Holds (os ++ [o]) := by
  refine holds.extend ?_ (fun b member => mem_note.mp member) ?_ ?_
  · rw [note_eq]
    rfl
  · rw [note_eq]
    exact holds.unsettled
  · rw [note_eq]
    rfl

/-- An argument that was not given is settled. -/
theorem Holds.once (holds : r.Holds os) {o : Occurrence Argument}
    (fresh : times o.argument os = 0) :
    ∃ next, r.once o = (.ok (), next) ∧ next.Holds (os ++ [o]) := by
  have new : r.given.contains o.argument = false := by
    rw [Bool.eq_false_iff, Ne, List.contains_iff_mem]
    exact fun given => holds.given _ given fresh
  refine ⟨_, ?_, holds.add o⟩
  rw [Reader.once, new]
  rfl

theorem Holds.settleValue (holds : r.Holds os) {text : String} (full : text ≠ "")
    (fresh : times a os = 0) :
    ∃ next, r.settleValue a text = (.ok (), next) ∧ next.Holds (os ++ [⟨a, [text]⟩]) := by
  obtain ⟨next, done, holds'⟩ := holds.once (o := ⟨a, [text]⟩) fresh
  refine ⟨next, ?_, holds'⟩
  rw [Reader.settleValue, done]
  simp [full]

/-- A step after everything is settled. -/
theorem Stands.andThen (stands : r.Stands os) {step : Reader → Except UsageError Unit × Reader}
    {os' : List (Occurrence Argument)}
    (steps : ∀ next, next.Holds os → ∃ last, step next = (.ok (), last) ∧ last.Holds os') :
    ∃ last, r.andThen step = .ok last ∧ last.Holds os' := by
  obtain ⟨next, settled, holds⟩ := stands.settles
  obtain ⟨last, stepped, holds'⟩ := steps next holds
  refine ⟨last, ?_, holds'⟩
  simp only [Reader.andThen, settled, bind, Except.bind, stepped]

/-- A flag, or an argument that is counted. -/
theorem Stands.takeForm (stands : r.Stands os)
    (kind : a.declaration.kind = .flag ∨ a.declaration.kind = .count)
    (fresh : a.declaration.kind = .flag → times a os = 0) :
    ∃ last, r.takeForm a = .ok last ∧ last.Holds (os ++ [⟨a, []⟩]) := by
  rw [Reader.takeForm]
  obtain flag | count := kind
  · rw [flag]
    exact stands.andThen fun next holds => holds.once (fresh flag)
  · rw [count]
    refine stands.andThen fun next holds => ⟨_, rfl, ?_⟩
    have forgotten : (next.forget a).Holds os :=
      { holds with given := fun b member => holds.given b (List.mem_of_mem_erase member) }
    exact forgotten.add ⟨a, []⟩

/-- An argument with its value beside it. -/
theorem Stands.takeValue (stands : r.Stands os) {text : String} (full : text ≠ "")
    (fresh : times a os = 0) :
    ∃ last, r.takeValue a text = .ok last ∧ last.Holds (os ++ [⟨a, [text]⟩]) :=
  stands.andThen fun _ holds => holds.settleValue full fresh

theorem takeForm_single {next : Reader} (settled : r.settled = .ok next)
    (kind : a.declaration.kind = .single) :
    r.takeForm a = .ok { next with unsettled := .value a none } := by
  rw [Reader.takeForm, kind]
  show r.await a = _
  rw [await, settled]
  rfl

/-- A value that was read is settled later. -/
theorem Holds.withValue (holds : r.Holds os) {text : String} (full : text ≠ "")
    (fresh : times a os = 0) :
    ({ r with unsettled := .value a (some text) } : Reader).Stands (os ++ [⟨a, [text]⟩]) := by
  obtain ⟨next, done, holds'⟩ := holds.settleValue full fresh
  obtain ⟨occurrences, given, unsettled, literal⟩ := r
  obtain rfl : unsettled = .nothing := holds.unsettled
  exact ⟨⟨next, settled_of_settle done, holds'⟩, holds.literal⟩

/-- A value may be left out, which is settled later. -/
theorem Holds.withoutValue (holds : r.Holds os) (optional : a.declaration.optional = true)
    (fresh : times a os = 0) :
    ({ r with unsettled := .value a none } : Reader).Stands (os ++ [⟨a, []⟩]) := by
  obtain ⟨next, done, holds'⟩ := holds.once (o := ⟨a, []⟩) fresh
  obtain ⟨occurrences, given, unsettled, literal⟩ := r
  obtain rfl : unsettled = .nothing := holds.unsettled
  refine ⟨⟨next, settled_of_settle ?_, holds'⟩, holds.literal⟩
  simp only [settle, optional, if_true, done]

/-- The reader with these targets settled. -/
def withTargets (r : Reader) (names : List String) : Reader :=
  (({ r with unsettled := .nothing } : Reader).note .targets).add
    (names.map fun name => ⟨.targets, [name]⟩)

theorem settled_targets {names : List String} (collects : r.unsettled = .targets names) :
    r.settled = .ok (r.withTargets names) := by
  refine settled_of_settle ?_
  rw [settle, collects]
  rfl

/-- A target begins a collection. -/
theorem Holds.firstTarget (holds : r.Holds os) (name : String) :
    (r.withTargets [name]).Holds (os ++ [⟨.targets, [name]⟩]) := by
  have emptied : ({ r with unsettled := .nothing } : Reader).Holds os :=
    { holds with unsettled := rfl }
  exact emptied.add ⟨.targets, [name]⟩

/-- A target joins a collection. -/
theorem Holds.nextTarget {names : List String} (holds : (r.withTargets names).Holds os)
    (name : String) : (r.withTargets (names ++ [name])).Holds (os ++ [⟨.targets, [name]⟩]) := by
  refine holds.extend ?_ (fun b member => .inl member) holds.unsettled rfl
  simp [withTargets, Reader.add]

/-- A target begins a collection or joins one. -/
theorem Stands.takeWord (stands : r.Stands os) (free : ¬ r.Waits) (name : String) :
    ∃ after, r.takeWord name = .ok after ∧ ¬ after.Waits ∧
      after.Stands (os ++ [⟨.targets, [name]⟩]) := by
  obtain ⟨next, settled, holds⟩ := stands.settles
  have begins : (do return { (← r.settled) with unsettled := .targets [name] }) =
      (.ok { next with unsettled := .targets [name] } : Except UsageError Reader) := by
    rw [settled]
    rfl
  have first : ({ next with unsettled := .targets [name] } : Reader).Stands
      (os ++ [⟨.targets, [name]⟩]) :=
    ⟨⟨_, settled_targets rfl, holds.firstTarget name⟩, holds.literal⟩
  have free' : ¬ ({ next with unsettled := .targets [name] } : Reader).Waits := not_waits rfl nofun
  cases unsettled : r.unsettled with
  | nothing =>
      refine ⟨_, ?_, free', first⟩
      simp only [Reader.takeWord, takeTarget, unsettled, begins]
  | value a text =>
      cases text with
      -- A reader that waits would take the target for a value.
      | none => exact absurd ⟨a, unsettled⟩ free
      | some text =>
          refine ⟨_, ?_, free', first⟩
          simp only [Reader.takeWord, takeTarget, unsettled, begins]
  | targets names =>
      obtain rfl := Except.ok.inj ((settled_targets unsettled).symm.trans settled)
      refine ⟨{ r with unsettled := .targets (names ++ [name]) }, ?_, not_waits rfl nofun,
        ⟨_, settled_targets rfl, holds.nextTarget name⟩, stands.literal⟩
      simp only [Reader.takeWord, takeTarget, unsettled]

/-! ## Whole command lines -/

theorem takeAll_cons {text : String} {next : Reader} (taken : r.take text = .ok next)
    (rest : List String) :
    (text :: rest).foldlM Reader.take r = rest.foldlM Reader.take next := by
  rw [List.foldlM_cons, taken]
  rfl

/-- The reader takes what can be read. -/
theorem Stands.takeAll {arguments : List String} {further : List (Occurrence Argument)}
    (reads : Reads Argument.declaration arguments further) (stands : r.Stands os)
    (noValue : r.Waits → ∀ next ∈ arguments.head?, Dashed next)
    (once : Once Argument.declaration (os ++ further)) :
    ∃ last, arguments.foldlM Reader.take r = .ok last ∧ last.Stands (os ++ further) := by
  -- The induction moves each occurrence from `further` to those that were read.
  induction reads generalizing r os with
  | nil => exact ⟨r, rfl, by rwa [List.append_nil]⟩
  | @form a text rest further kind isForm reads ih =>
      rw [List.append_cons] at once ⊢
      obtain ⟨next, taken, holds⟩ := stands.takeForm kind fun flag => once.fresh (.inl flag)
      rw [takeAll_cons ((take_form stands.literal isForm).trans taken)]
      exact ih holds.stands (absurd · holds.not_waits) once
  | @attached a long value rest further kind hasLong full reads ih =>
      rw [List.append_cons] at once ⊢
      obtain ⟨next, taken, holds⟩ := stands.takeValue full (once.fresh (.inr kind))
      rw [takeAll_cons ((take_attached stands.literal kind hasLong value).trans taken)]
      exact ih holds.stands (absurd · holds.not_waits) once
  | @apart a text value rest further kind isForm full plain reads ih =>
      rw [List.append_cons] at once ⊢
      obtain ⟨next, settled, holds⟩ := stands.settles
      let waiting : Reader := { next with unsettled := .value a none }
      have awaits : r.take text = .ok waiting :=
        (take_form stands.literal isForm).trans (takeForm_single settled kind)
      have finds : waiting.take value = .ok { next with unsettled := .value a (some value) } :=
        take_word (r := waiting) holds.literal plain
      rw [takeAll_cons awaits, takeAll_cons finds]
      exact ih (holds.withValue full (once.fresh (.inr kind)))
        (absurd · (not_waits rfl nofun)) once
  | @leftOut a text rest further kind optional isForm noValue' reads ih =>
      rw [List.append_cons] at once ⊢
      obtain ⟨next, settled, holds⟩ := stands.settles
      have awaits := (take_form stands.literal isForm).trans (takeForm_single settled kind)
      rw [takeAll_cons awaits]
      exact ih (holds.withoutValue optional (once.fresh (.inr kind))) (fun _ => noValue') once
  | @word a text rest further kind plain reads ih =>
      rw [List.append_cons] at once ⊢
      obtain rfl : a = .targets := by cases a <;> first | rfl | cases kind
      have free : ¬ r.Waits := fun waits => plain (noValue waits text rfl)
      obtain ⟨next, taken, free', stands'⟩ := stands.takeWord free text
      rw [takeAll_cons ((take_word stands.literal plain).trans taken)]
      exact ih stands' (absurd · free') once

/-- The reader is a parser as it should be. -/
theorem follows_parse : FollowsRules Argument.declaration parse := by
  intro arguments os reads once
  obtain ⟨last, takes, stands⟩ := holds_start.stands.takeAll reads
    (fun waits => absurd waits holds_start.not_waits) once
  obtain ⟨next, settled, holds⟩ := stands.settles
  refine ⟨_, ?_, reports_ofOccurrences reads once⟩
  have found : read arguments = .ok os := by
    rw [read, takes]
    show (do return (← last.settled).occurrences) = _
    rw [settled]
    exact congrArg Except.ok holds.occurrences
  rw [parse, found]
  rfl

end Reader

end BuildScript
