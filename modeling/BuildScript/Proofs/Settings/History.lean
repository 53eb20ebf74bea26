import BuildScript.Settings
import Mathlib.Data.List.Induction
import Mathlib.Data.List.Nodup
import Mathlib.Data.Nat.Find

/-!
# Settings as their history tells them

Settings change one operation at a time. What they hold in the end can be read off the list of
these operations, without going through the settings in between: a variable is there if nothing has
dropped it after its last definition, a flag if nothing has taken it away after it was added.

* **places in a history** (`Lasting`): an operation of one kind after which none of another comes;
  what one more operation makes of them is `lasting_concat`;
* **variables** (`Records`): names, values and order, kept by every operation (`Records.apply`);
* **flags** (`flags_after`): those that were added and not taken away later.
-/

namespace BuildScript

namespace Settings

/-- An operation on the settings. -/
inductive Change where
  | reset
  | setCompiler (compiler : String)
  | setVerbose (verbose : Bool)
  | defineVariable (name value : String)
  | removeVariable (name : String)
  | addFlag (flag : String)
  | removeFlag (flag : String)
  | addLibrary (name : String)
  | addInclude (dir : String)
  | addLibraryPath (path : String)
  | addLinkFlag (flag : String)
  | setBuildDir (dir : Path)
  deriving DecidableEq, Repr

/-- The settings after an operation. -/
def Change.apply (s : Settings) : Change → Settings
  | .reset => .initial
  | .setCompiler compiler => s.setCompiler compiler
  | .setVerbose verbose => s.setVerbose verbose
  | .defineVariable name value => s.defineVariable name value
  | .removeVariable name => (s.removeVariable name).2
  | .addFlag flag => s.addFlag flag
  | .removeFlag flag => (s.removeFlag flag).2
  | .addLibrary name => s.addLibrary name
  | .addInclude dir => s.addInclude dir
  | .addLibraryPath path => s.addLibraryPath path
  | .addLinkFlag flag => s.addLinkFlag flag
  | .setBuildDir dir => s.setBuildDir dir

/-- The settings after a history of operations. -/
def after (history : List Change) : Settings := history.foldl Change.apply .initial

theorem after_concat (history : List Change) (change : Change) :
    after (history ++ [change]) = change.apply (after history) := by
  rw [after, List.foldl_concat]
  rfl

/-! ## Places in a history -/

/-- At this place the history has an operation of a kind, and later none that undoes it. -/
def Lasting (kind undoing : Change → Prop) (history : List Change) (place : Nat) : Prop :=
  (∃ change, history[place]? = some change ∧ kind change) ∧
    ∀ later change, place < later → history[later]? = some change → ¬ undoing change

theorem concat_getElem? (history : List Change) (last change : Change) (place : Nat) :
    (history ++ [last])[place]? = some change ↔
      history[place]? = some change ∨ place = history.length ∧ last = change := by
  rcases Nat.lt_trichotomy place history.length with inside | rfl | beyond
  · simp [List.getElem?_append_left inside, Nat.ne_of_lt inside]
  · simp
  · simp [List.getElem?_append_right (Nat.le_of_lt beyond), Nat.ne_of_gt beyond,
      List.getElem?_eq_none (Nat.le_of_lt beyond), Nat.sub_ne_zero_of_lt beyond]

/-- One more operation leaves what it does not undo, and may be of the kind itself. -/
theorem lasting_concat (kind undoing : Change → Prop) (history : List Change) (last : Change)
    (place : Nat) :
    Lasting kind undoing (history ++ [last]) place ↔
      (Lasting kind undoing history place ∧ ¬ undoing last) ∨
        (place = history.length ∧ kind last) := by
  constructor
  · rintro ⟨⟨change, here, fits⟩, later⟩
    rcases (concat_getElem? _ _ _ _).mp here with before | ⟨rfl, rfl⟩
    · have inside := (List.getElem?_eq_some_iff.mp before).1
      refine .inl ⟨⟨⟨change, before, fits⟩, fun j c less there => ?_⟩, ?_⟩
      · exact later j c less ((concat_getElem? _ _ _ _).mpr (.inl there))
      · exact later _ _ inside ((concat_getElem? _ _ _ _).mpr (.inr ⟨rfl, rfl⟩))
    · exact .inr ⟨rfl, fits⟩
  · rintro (⟨⟨⟨change, here, fits⟩, later⟩, kept⟩ | ⟨rfl, fits⟩)
    · refine ⟨⟨change, (concat_getElem? _ _ _ _).mpr (.inl here), fits⟩, fun j c less there => ?_⟩
      rcases (concat_getElem? _ _ _ _).mp there with before | ⟨-, rfl⟩
      · exact later j c less before
      · exact kept
    · refine ⟨⟨last, (concat_getElem? _ _ _ _).mpr (.inr ⟨rfl, rfl⟩), fits⟩, ?_⟩
      intro j c less there
      have inside := (List.getElem?_eq_some_iff.mp there).1
      rw [List.length_append, List.length_singleton] at inside
      omega

/-! ## Variables -/

/-- The operation defines a variable of this name. -/
def Change.Defines (name : String) (change : Change) : Prop :=
  ∃ value, change = .defineVariable name value

/-- The operation takes the variable of this name away, alone or with everything else. -/
def Change.Drops (name : String) (change : Change) : Prop :=
  change = .reset ∨ change = .removeVariable name

theorem Change.drops_removeVariable (removed name : String) :
    (Change.removeVariable removed).Drops name ↔ name = removed := by
  simp [Drops, eq_comm]

theorem Change.not_drops_defineVariable (defined value name : String) :
    ¬ (Change.defineVariable defined value).Drops name := by
  simp [Drops]

theorem Change.defines_defineVariable (defined value name : String) :
    (Change.defineVariable defined value).Defines name ↔ name = defined := by
  simp [Defines, eq_comm]

theorem Change.not_defines_removeVariable (removed name : String) :
    ¬ (Change.removeVariable removed).Defines name := by
  simp [Defines]

/-- A definition after which the variable was not dropped. -/
def Defined (history : List Change) (name : String) : Nat → Prop :=
  Lasting (Change.Defines name) (Change.Drops name) history

/-- The first definition after the variable was last dropped. -/
def Begins (history : List Change) (name : String) (place : Nat) : Prop :=
  Defined history name place ∧ ∀ earlier < place, ¬ Defined history name earlier

/-- The last definition of the variable gives it this value, and it was not dropped since. -/
def Holds (history : List Change) (name value : String) : Prop :=
  ∃ place, Lasting (· = .defineVariable name value)
    (fun change => change.Drops name ∨ change.Defines name) history place

/-- One variable begins before the other. -/
def Precedes (history : List Change) (first second : String) : Prop :=
  ∃ i j, Begins history first i ∧ Begins history second j ∧ i < j

section

variable {history : List Change} {last : Change}

theorem exists_defined_concat (name : String) :
    (∃ place, Defined (history ++ [last]) name place) ↔
      ((∃ place, Defined history name place) ∧ ¬ last.Drops name) ∨ last.Defines name := by
  simp only [Defined, lasting_concat]
  constructor
  · rintro ⟨place, before | ⟨-, defines⟩⟩
    · exact .inl ⟨⟨place, before.1⟩, before.2⟩
    · exact .inr defines
  · rintro (⟨⟨place, before⟩, kept⟩ | defines)
    · exact ⟨place, .inl ⟨before, kept⟩⟩
    · exact ⟨_, .inr ⟨rfl, defines⟩⟩

theorem holds_concat (name value : String) :
    Holds (history ++ [last]) name value ↔
      (Holds history name value ∧ ¬ (last.Drops name ∨ last.Defines name)) ∨
        last = .defineVariable name value := by
  simp only [Holds, lasting_concat]
  constructor
  · rintro ⟨place, before | ⟨-, defines⟩⟩
    · exact .inl ⟨⟨place, before.1⟩, before.2⟩
    · exact .inr defines
  · rintro (⟨⟨place, before⟩, kept⟩ | defines)
    · exact ⟨place, .inl ⟨before, kept⟩⟩
    · exact ⟨_, .inr ⟨rfl, defines⟩⟩

theorem exists_begins {name : String} (defined : ∃ place, Defined history name place) :
    ∃ place, Begins history name place := by
  classical
  exact ⟨Nat.find defined, Nat.find_spec defined, fun _ less => Nat.find_min defined less⟩

theorem Begins.inside {name : String} {place : Nat} (begins : Begins history name place) :
    place < history.length := by
  obtain ⟨⟨⟨change, here, -⟩, -⟩, -⟩ := begins
  exact (List.getElem?_eq_some_iff.mp here).1

/-- A variable goes on to begin where it did, unless it is dropped. -/
theorem Begins.concat {name : String} {place : Nat} (begins : Begins history name place)
    (kept : ¬ last.Drops name) : Begins (history ++ [last]) name place := by
  refine ⟨(lasting_concat _ _ _ _ _).mpr (.inl ⟨begins.1, kept⟩), fun earlier less defined => ?_⟩
  rcases (lasting_concat _ _ _ _ _).mp defined with ⟨before, -⟩ | ⟨rfl, -⟩
  · exact begins.2 earlier less before
  · exact absurd begins.inside (Nat.lt_asymm less)

theorem begins_last {name : String} (defines : last.Defines name)
    (fresh : ¬ ∃ place, Defined history name place) :
    Begins (history ++ [last]) name history.length := by
  refine ⟨(lasting_concat _ _ _ _ _).mpr (.inr ⟨rfl, defines⟩), fun earlier less defined => ?_⟩
  rcases (lasting_concat _ _ _ _ _).mp defined with ⟨before, -⟩ | ⟨rfl, -⟩
  · exact fresh ⟨earlier, before⟩
  · exact Nat.lt_irrefl _ less

theorem Precedes.concat {first second : String} (precedes : Precedes history first second)
    (first_kept : ¬ last.Drops first) (second_kept : ¬ last.Drops second) :
    Precedes (history ++ [last]) first second := by
  obtain ⟨i, j, first_begins, second_begins, less⟩ := precedes
  exact ⟨i, j, first_begins.concat first_kept, second_begins.concat second_kept, less⟩

end

/-- The map holds the variables that a history leaves, in the order in which they begin. -/
structure Records (history : List Change) (m : OrderedMap String) : Prop where
  distinct : m.keys.Nodup
  names : ∀ name, name ∈ m.keys ↔ ∃ place, Defined history name place
  values : ∀ name value, m.get? name = some value ↔ Holds history name value
  order : m.keys.Pairwise (Precedes history)

theorem records_nil : Records [] .empty where
  distinct := .nil
  names name := by simp [OrderedMap.keys, OrderedMap.empty, Defined, Lasting]
  values name value := by simp [OrderedMap.get?, OrderedMap.empty, Holds, Lasting]
  order := .nil

section

variable {history : List Change} {m : OrderedMap String}

/-- An operation that is not about variables. -/
theorem Records.concat (records : Records history m) {last : Change}
    (aside : ∀ name, ¬ last.Drops name ∧ ¬ last.Defines name) : Records (history ++ [last]) m where
  distinct := records.distinct
  names name := by
    rw [records.names, exists_defined_concat]
    simp [aside name]
  values name value := by
    have other : last ≠ .defineVariable name value := fun same => (aside name).2 ⟨value, same⟩
    rw [records.values, holds_concat]
    simp [aside name, other]
  order := records.order.imp fun precedes => precedes.concat (aside _).1 (aside _).1

theorem records_reset (history : List Change) : Records (history ++ [.reset]) .empty where
  distinct := .nil
  names name := by
    rw [exists_defined_concat]
    simp [OrderedMap.keys, OrderedMap.empty, Change.Drops, Change.Defines]
  values name value := by
    rw [holds_concat]
    simp [OrderedMap.get?, OrderedMap.empty, Change.Drops]
  order := .nil

theorem Records.remove (records : Records history m) (removed : String) :
    Records (history ++ [.removeVariable removed]) (m.erase removed) where
  distinct := by
    rw [OrderedMap.keys_erase]
    exact records.distinct.filter _
  names name := by
    rw [OrderedMap.keys_erase, exists_defined_concat, List.mem_filter, records.names,
      Change.drops_removeVariable]
    simp [Change.not_defines_removeVariable]
  values name value := by
    rw [OrderedMap.get?_erase, holds_concat, ← records.values, Change.drops_removeVariable]
    by_cases gone : name = removed
    · simp [gone]
    · simp [gone, Change.not_defines_removeVariable]
  order := by
    have kept (name : String) (member : name ∈ (m.erase removed).keys) :
        ¬ (Change.removeVariable removed).Drops name := by
      rw [OrderedMap.keys_erase, List.mem_filter] at member
      rw [Change.drops_removeVariable]
      simpa using member.2
    have ordered : (m.erase removed).keys.Pairwise (Precedes history) := by
      rw [OrderedMap.keys_erase]
      exact records.order.filter _
    exact ordered.imp_of_mem fun here there precedes => precedes.concat (kept _ here) (kept _ there)

theorem Records.define (records : Records history m) (defined value : String) :
    Records (history ++ [.defineVariable defined value]) (m.insert defined value) where
  distinct := by
    rw [OrderedMap.keys_insert]
    split
    · exact records.distinct
    · rename_i fresh
      rw [← List.concat_eq_append]
      exact records.distinct.concat fresh
  names name := by
    rw [OrderedMap.keys_insert, exists_defined_concat, ← records.names,
      Change.defines_defineVariable]
    split
    · rename_i known
      constructor
      · exact fun member => .inl ⟨member, Change.not_drops_defineVariable _ _ _⟩
      · rintro (⟨member, -⟩ | rfl)
        · exact member
        · exact known
    · simp [Change.not_drops_defineVariable]
  values name value' := by
    rw [OrderedMap.get?_insert, holds_concat, ← records.values, Change.defines_defineVariable]
    by_cases same : name = defined
    · simp [same, eq_comm]
    · simp [same, Ne.symm same, Change.not_drops_defineVariable]
  order := by
    have ordered : m.keys.Pairwise (Precedes (history ++ [.defineVariable defined value])) :=
      records.order.imp fun precedes => precedes.concat (Change.not_drops_defineVariable _ _ _)
        (Change.not_drops_defineVariable _ _ _)
    rw [OrderedMap.keys_insert]
    split
    · exact ordered
    · rename_i fresh
      refine List.pairwise_append.mpr ⟨ordered, List.pairwise_singleton _ _, ?_⟩
      intro name member new isNew
      obtain rfl : new = defined := List.mem_singleton.mp isNew
      obtain ⟨place, begins⟩ := exists_begins ((records.names name).mp member)
      exact ⟨place, history.length, begins.concat (Change.not_drops_defineVariable _ _ _),
        begins_last ⟨value, rfl⟩ (mt (records.names new).mpr fresh), begins.inside⟩

/-- Every operation keeps the variables as the history leaves them. -/
theorem Records.apply {s : Settings} (records : Records history s.definitions) (change : Change) :
    Records (history ++ [change]) (change.apply s).definitions := by
  have aside (other : Change) (notReset : other ≠ .reset)
      (notRemoved : ∀ name, other ≠ .removeVariable name)
      (notDefined : ∀ name value, other ≠ .defineVariable name value) :
      ∀ name, ¬ other.Drops name ∧ ¬ other.Defines name :=
    fun name => ⟨not_or.mpr ⟨notReset, notRemoved name⟩,
      fun ⟨value, same⟩ => notDefined name value same⟩
  cases change with
  | reset => exact records_reset history
  | defineVariable name value => exact records.define name value
  | removeVariable name => exact records.remove name
  | setCompiler compiler => exact records.concat (aside _ nofun nofun nofun)
  | setVerbose verbose => exact records.concat (aside _ nofun nofun nofun)
  | addFlag flag => exact records.concat (aside _ nofun nofun nofun)
  | removeFlag flag => exact records.concat (aside _ nofun nofun nofun)
  | addLibrary name => exact records.concat (aside _ nofun nofun nofun)
  | addInclude dir => exact records.concat (aside _ nofun nofun nofun)
  | addLibraryPath path => exact records.concat (aside _ nofun nofun nofun)
  | addLinkFlag flag => exact records.concat (aside _ nofun nofun nofun)
  | setBuildDir dir => exact records.concat (aside _ nofun nofun nofun)

end

theorem records_after (history : List Change) : Records history (after history).definitions := by
  induction history using List.reverseRecOn with
  | nil => exact records_nil
  | append_singleton history change ih =>
      rw [after_concat]
      exact ih.apply change

/-! ## Flags -/

/-- The operation takes a flag away, alone or with everything else. -/
def Change.TakesAway (flag : String) (change : Change) : Prop :=
  change = .reset ∨ change = .removeFlag flag

instance (flag : String) (change : Change) : Decidable (change.TakesAway flag) :=
  inferInstanceAs (Decidable (_ ∨ _))

/-- The flags that a history adds, in this order, except for those that it takes away later. -/
def flagsLeft : List Change → List String
  | [] => []
  | .addFlag flag :: later =>
    if ∃ change ∈ later, change.TakesAway flag then flagsLeft later else flag :: flagsLeft later
  | _ :: later => flagsLeft later

/-- What an operation makes of the flags. -/
def Change.onFlags (flags : List String) : Change → List String
  | .reset => []
  | .addFlag flag => flags ++ [flag]
  | .removeFlag flag => flags.filter (· != flag)
  | _ => flags

theorem Change.apply_flags (s : Settings) (change : Change) :
    (change.apply s).flags = change.onFlags s.flags := by
  cases change <;> rfl

theorem Change.onFlags_cons_of_takesAway {flag : String} {change : Change}
    (taken : change.TakesAway flag) (flags : List String) :
    change.onFlags (flag :: flags) = change.onFlags flags := by
  obtain rfl | rfl := taken
  · rfl
  · simp [onFlags]

theorem Change.onFlags_cons_of_not_takesAway {flag : String} {change : Change}
    (kept : ¬ change.TakesAway flag) (flags : List String) :
    change.onFlags (flag :: flags) = flag :: change.onFlags flags := by
  cases change with
  | reset => exact absurd (.inl rfl) kept
  | removeFlag gone =>
      have other : flag ≠ gone := fun same => kept (.inr (congrArg Change.removeFlag same.symm))
      simp [onFlags, other]
  | _ => rfl

theorem flagsLeft_concat (history : List Change) (last : Change) :
    flagsLeft (history ++ [last]) = last.onFlags (flagsLeft history) := by
  induction history with
  | nil => cases last <;> simp [flagsLeft, Change.onFlags]
  | cons change history ih =>
      cases change with
      | addFlag flag =>
          have later : (∃ change ∈ history ++ [last], change.TakesAway flag) ↔
              (∃ change ∈ history, change.TakesAway flag) ∨ last.TakesAway flag := by
            simp [or_and_right, exists_or]
          rw [List.cons_append, flagsLeft, flagsLeft, ih]
          by_cases taken : last.TakesAway flag
          · rw [if_pos (later.mpr (.inr taken))]
            split
            · rfl
            · rw [Change.onFlags_cons_of_takesAway taken]
          · by_cases before : ∃ change ∈ history, change.TakesAway flag
            · rw [if_pos (later.mpr (.inl before)), if_pos before]
            · rw [if_neg (mt later.mp (not_or.mpr ⟨before, taken⟩)), if_neg before,
                Change.onFlags_cons_of_not_takesAway taken]
      | _ => exact ih

theorem flags_after (history : List Change) : (after history).flags = flagsLeft history := by
  induction history using List.reverseRecOn with
  | nil => rfl
  | append_singleton history change ih =>
      rw [after_concat, Change.apply_flags, flagsLeft_concat, ih]

/-! ## The whole history -/

/-- After any history the variables have different names. They are those that were defined and not
dropped since, each with the value of its last definition, in the order of their first definitions
since they were last dropped. The flags are those that were added and not taken away later. A
removal says whether there was something to remove. A command line has one definition for each
variable, in their order, between the flags and the directories of header files. -/
theorem after_history (history : List Change) :
    let s := after history
    s.definitions.keys.Nodup ∧
      (∀ name value, (name, value) ∈ s.definitions.entries ↔ Holds history name value) ∧
      s.definitions.keys.Pairwise (Precedes history) ∧
      s.flags = flagsLeft history ∧
      (∀ name, (s.removeVariable name).1 = true ↔ name ∈ s.definitions.keys) ∧
      (∀ flag, (s.removeFlag flag).1 = true ↔ flag ∈ s.flags) ∧
      ∀ source output, ∃ rest, s.compileArgs source output =
        s.flags ++ s.definitions.entries.map (fun (name, value) => s!"-D{name}={value}") ++
          s.includeDirs.map (fun dir => s!"-I{dir}") ++ rest := by
  intro s
  have records := records_after history
  refine ⟨records.distinct, ?_, records.order, flags_after history, s.removeVariable_fst,
    s.removeFlag_fst, ?_⟩
  · intro name value
    rw [s.definitions.mem_entries_iff records.distinct, records.values]
  · intro source output
    refine ⟨["-o", output.text, source] ++ s.libraryPaths.map (fun path => s!"-L{path}") ++
      s.libraries.map (fun library => s!"-l{library}") ++ s.linkFlags, ?_⟩
    simp only [compileArgs, List.append_assoc]

example :
    (after [.defineVariable "MODE" "debug", .defineVariable "LEVEL" "2",
      .defineVariable "MODE" "release", .removeVariable "LEVEL", .defineVariable "LEVEL" "3",
      .removeVariable "MODE", .defineVariable "MODE" "fast"]).definitions.entries =
      [("LEVEL", "3"), ("MODE", "fast")] := by
  decide

end Settings

end BuildScript
