import BuildScript.Proofs.CommandLine.Reader

/-!
# Options in any order

A command line may give its options and targets in any order. `Item` is one of them as it is
written, and a command line is an arrangement of items. What it asks for can be read off the items
of each kind alone, so it does not depend on how the kinds are mixed (`ofArguments_arranged`).

This holds with every parser that follows the rules. Every item is read as one occurrence
(`reads_items`), by induction on the items; how often an argument occurs, and with which values, is
then counted on the items (`times_single`, `values_single`, `values_targets`).
-/

namespace BuildScript.Options

open CommandLine

/-! ## Items -/

/-- An option or a target of a command line, as it is written. -/
inductive Item where
  /-- The script, in the argument of its switch. -/
  | file (path : String)
  /-- The script, in the argument after its switch. -/
  | fileApart (path : String)
  /-- The Makefile, in the argument of its switch. -/
  | make (path : String)
  /-- The switch that asks for a Makefile, without a name for it. -/
  | makeBare
  | verbose
  | target (name : String)
  deriving DecidableEq, Repr

namespace Item

/-- The arguments in which an item is written. -/
def arguments : Item → List String
  | file path => ["--file=" ++ path]
  | fileApart path => ["-f", path]
  | make path => ["--make=" ++ path]
  | makeBare => ["--make"]
  | verbose => ["-v"]
  | target name => [name]

/-- The value that an item gives an argument. -/
def value? : Item → Argument → Option String
  | file path, .file | fileApart path, .file => some path
  | make path, .make => some path
  | makeBare, .make => some "Makefile"
  | _, _ => none

/-- The target that an item asks for. -/
def target? : Item → Option String
  | target name => some name
  | file _ | fileApart _ | make _ | makeBare | verbose => none

/-- The texts of the item can be written where they stand: no path is empty, and what has an
argument of its own does not look like a switch. -/
def Writable : Item → Prop
  | file path | make path => path ≠ ""
  | fileApart path => path ≠ "" ∧ ¬ Dashed path
  | makeBare | verbose => True
  | target name => ¬ Dashed name

/-- What an item is read as. -/
def occurrence : Item → Occurrence Argument
  | file path | fileApart path => ⟨.file, [path]⟩
  | make path => ⟨.make, [path]⟩
  | makeBare => ⟨.make, []⟩
  | verbose => ⟨.verbose, []⟩
  | target name => ⟨.targets, [name]⟩

/-- An item gives an argument a value exactly if it is read as that argument. -/
theorem isSome_value? (item : Item) {a : Argument} (kind : a.declaration.kind = .single) :
    (item.value? a).isSome = decide (item.occurrence.argument = a) := by
  cases a with
  | version | versionShort | verbose | targets | help => cases kind
  | file | make => cases item <;> rfl

/-- The value of an item is read with it, or stands for a value that is left out. -/
theorem value_or_missing {item : Item} {a : Argument} {text : String}
    (value : item.value? a = some text) :
    item.occurrence = ⟨a, [text]⟩ ∨
      item.occurrence = ⟨a, []⟩ ∧ a.declaration.missing? = some text := by
  cases item with
  | verbose | target name => cases value
  | file path | fileApart path =>
      cases a with
      | version | versionShort | make | verbose | targets | help => cases value
      | file =>
          obtain rfl := Option.some.inj value
          exact .inl rfl
  | make path =>
      cases a with
      | version | versionShort | file | verbose | targets | help => cases value
      | make =>
          obtain rfl := Option.some.inj value
          exact .inl rfl
  | makeBare =>
      cases a with
      | version | versionShort | file | verbose | targets | help => cases value
      | make =>
          obtain rfl := Option.some.inj value
          exact .inr ⟨rfl, rfl⟩

end Item

/-- The values that items give an argument, in order. -/
def valuesOf (a : Argument) (items : List Item) : List String :=
  items.filterMap fun item => item.value? a

/-- The targets that items ask for, in order. -/
def targetsOf (items : List Item) : List String := items.filterMap Item.target?

/-- These items, in whatever order, name this script and this Makefile, ask this often for more log
output, and ask for these targets in this order. Every text can be written where it stands, and what
follows a switch without a name for the Makefile begins with a dash. -/
structure Arranges (items : List Item) (script makefile : Option String) (more : Nat)
    (targets : List String) : Prop where
  writable : ∀ item ∈ items, item.Writable
  script : valuesOf .file items = script.toList
  makefile : valuesOf .make items = makefile.toList
  more : items.count .verbose = more
  targets : targetsOf items = targets
  waited : ∀ before after, items = before ++ .makeBare :: after →
    ∀ text ∈ (after.flatMap Item.arguments).head?, Dashed text

/-! ## How items are read -/

/-- An item before arguments that can be read. -/
theorem Item.reads {item : Item} {rest : List String} {os : List (Occurrence Argument)}
    (writable : item.Writable) (waited : item = .makeBare → ∀ next ∈ rest.head?, Dashed next)
    (further : Reads Argument.declaration rest os) :
    Reads Argument.declaration (item.arguments ++ rest) (item.occurrence :: os) := by
  cases item with
  | file path =>
      have split : "--file=" ++ path = "--" ++ "file" ++ "=" ++ path :=
        congrArg (· ++ path) (by decide)
      rw [arguments, split]
      exact .attached (a := .file) rfl rfl writable further
  | make path =>
      have split : "--make=" ++ path = "--" ++ "make" ++ "=" ++ path :=
        congrArg (· ++ path) (by decide)
      rw [arguments, split]
      exact .attached (a := .make) rfl rfl writable further
  | fileApart path =>
      have isForm : "-f" ∈ Argument.file.declaration.forms := by decide
      exact .apart rfl isForm writable.1 writable.2 further
  | makeBare =>
      have isForm : "--make" ∈ Argument.make.declaration.forms := by decide
      exact .leftOut rfl rfl isForm (waited rfl) further
  | verbose =>
      have isForm : "-v" ∈ Argument.verbose.declaration.forms := by decide
      exact .form (.inr rfl) isForm further
  | target name => exact .word (a := .targets) rfl writable further

variable {items : List Item} {script makefile : Option String} {more : Nat}
  {targets : List String} {a : Argument} {m : Matches Argument}

/-- Items are read as one occurrence each. -/
theorem reads_items (writable : ∀ item ∈ items, item.Writable)
    (waited : ∀ before after, items = before ++ .makeBare :: after →
      ∀ text ∈ (after.flatMap Item.arguments).head?, Dashed text) :
    Reads Argument.declaration (items.flatMap Item.arguments) (items.map Item.occurrence) := by
  induction items with
  | nil => exact .nil
  | cons item items ih =>
      obtain ⟨first, others⟩ := List.forall_mem_cons.mp writable
      refine Item.reads first ?_ (ih others fun before after split => ?_)
      · rintro rfl
        exact waited [] items rfl
      · exact waited (item :: before) after (by rw [split, List.cons_append])

/-! ## How often an argument is given -/

theorem times_single (kind : a.declaration.kind = .single) (items : List Item) :
    times a (items.map Item.occurrence) = (valuesOf a items).length := by
  rw [times, valuesOf, List.countP_map, List.length_filterMap_eq_countP]
  exact List.countP_congr fun item _ => by simp [item.isSome_value? kind]

/-- No item is a flag. -/
theorem times_flag (kind : a.declaration.kind = .flag) (items : List Item) :
    times a (items.map Item.occurrence) = 0 := by
  rw [times, List.countP_map, List.countP_eq_zero]
  rintro item - is
  obtain rfl := of_decide_eq_true is
  cases item <;> cases kind

theorem times_verbose (items : List Item) :
    times .verbose (items.map Item.occurrence) = items.count .verbose := by
  rw [times, List.countP_map, List.count]
  exact List.countP_congr fun item _ => by cases item <;> simp [Item.occurrence]

/-- What is given at most once by values is given at most once. -/
theorem once_items (file : (valuesOf .file items).length ≤ 1)
    (make : (valuesOf .make items).length ≤ 1) :
    Once Argument.declaration (items.map Item.occurrence) := by
  rintro a (flag | single)
  · rw [times_flag flag]
    exact Nat.zero_le 1
  · rw [times_single single]
    cases a with
    | version | versionShort | verbose | targets | help => cases single
    | file => exact file
    | make => exact make

/-! ## What is reported -/

section

variable (reports : Reports Argument.declaration (items.map Item.occurrence) m)
include reports

/-- The value of an argument is the one that an item gives it, or its default. -/
theorem values_single (kind : a.declaration.kind = .single) {value? : Option String}
    (values : valuesOf a items = value?.toList) :
    m.values a = (value?.or a.declaration.default?).toList := by
  cases value? with
  | none => exact reports.default a (.inl kind) (by rw [times_single kind, values]; rfl)
  | some text =>
      have given : text ∈ valuesOf a items := by simp [values]
      obtain ⟨item, among, value⟩ := List.mem_filterMap.mp given
      have occurs := List.mem_map_of_mem (f := Item.occurrence) among
      obtain read | ⟨leftOut, missing⟩ := Item.value_or_missing value
      · exact reports.value a text kind (read ▸ occurs)
      · exact reports.missing a text kind (leftOut ▸ occurs) missing

/-- The targets are collected. -/
theorem values_targets : m.values .targets = targetsOf items := by
  have collected (items : List Item) :
      ((items.map Item.occurrence).filter (·.argument = .targets)).flatMap Occurrence.values =
        targetsOf items := by
    rw [List.filter_map, List.flatMap_map, List.flatMap, targetsOf]
    induction items with
    | nil => rfl
    | cons item items ih =>
        cases item with
        | target name => exact congrArg (name :: ·) ih
        | file path | fileApart path | make path | makeBare | verbose => exact ih
  by_cases none : times .targets (items.map Item.occurrence) = 0
  · rw [reports.default .targets (.inr rfl) none, ← collected, filter_eq_nil none]
    rfl
  · rw [reports.collected .targets rfl none, collected]

/-- What is reported for items asks for what they do. -/
theorem ofMatches_arranged (arranges : Arranges items script makefile more targets) :
    ofMatches m = {
      showBanner := false, showVersion := false, script := script.getD "build.samba",
      makefile := makefile, verbosity := min more 255, targets := targets } := by
  have notGiven (a : Argument) (flag : a.declaration.kind = .flag) : m.given a = false := by
    rw [Bool.eq_false_iff, Ne, reports.flag a flag]
    exact not_not_intro (times_flag flag items)
  have path : m.values .file = [script.getD "build.samba"] := by
    rw [values_single reports rfl arranges.script]
    cases script <;> rfl
  have output : m.values .make = makefile.toList := by
    rw [values_single reports rfl arranges.makefile]
    cases makefile <;> rfl
  have counted : m.count .verbose = min more 255 := by
    rw [reports.count .verbose rfl, times_verbose, arranges.more, Nat.min_comm]
  rw [ofMatches, notGiven .version rfl, notGiven .versionShort rfl, path, output, counted,
    values_targets reports, arranges.targets, Option.head?_toList, List.headD_cons]

end

/-- How much is logged depends only on how often more is asked for. -/
theorem level_of_verbosity {options : Options} (counted : options.verbosity = min more 255) :
    options.level =
      if more = 0 then .warn else if more = 1 then .info else if more = 2 then .debug
      else .trace := by
  rw [level, counted]
  split_ifs with zero one two
  · rw [zero]; rfl
  · rw [one]; rfl
  · rw [two]; rfl
  · obtain ⟨further, far⟩ : ∃ further, min more 255 = further + 3 :=
      ⟨min more 255 - 3, by omega⟩
    rw [far]
    rfl

/-- Options and targets may be given in any order: a parser that follows the rules reads every
arrangement of them, what it asks for is read off each kind of item alone, and how much is logged
depends only on how often more log output is asked for. -/
theorem ofArguments_arranged {ε : Type} {parse : Parser Argument ε}
    (follows : FollowsRules Argument.declaration parse)
    (arranges : Arranges items script makefile more targets) :
    ∃ options, ofArguments parse (items.flatMap Item.arguments) = .ok options ∧
      options = {
        showBanner := false, showVersion := false, script := script.getD "build.samba",
        makefile := makefile, verbosity := min more 255, targets := targets } ∧
      options.level =
        if more = 0 then .warn else if more = 1 then .info else if more = 2 then .debug
        else .trace := by
  have file : (valuesOf .file items).length ≤ 1 := by
    rw [arranges.script]
    exact Option.length_toList_le
  have make : (valuesOf .make items).length ≤ 1 := by
    rw [arranges.makefile]
    exact Option.length_toList_le
  obtain ⟨m, parsed, reports⟩ := follows (items.flatMap Item.arguments) _
    (reads_items arranges.writable arranges.waited) (once_items file make)
  have asked := ofMatches_arranged reports arranges
  refine ⟨ofMatches m, ?_, asked, level_of_verbosity (congrArg Options.verbosity asked)⟩
  rw [ofArguments, parsed]
  rfl

/-- The arguments `a --make -v -f x.samba b`, read by the reader of command lines. -/
theorem ofArguments_arranged_mixed :
    FollowsRules Argument.declaration Reader.parse ∧
      Arranges [.target "a", .makeBare, .verbose, .fileApart "x.samba", .target "b"]
        (some "x.samba") (some "Makefile") 1 ["a", "b"] ∧
      ∃ options, ofArguments Reader.parse ["a", "--make", "-v", "-f", "x.samba", "b"] =
          .ok options ∧
        options = {
          showBanner := false, showVersion := false, script := "x.samba",
          makefile := some "Makefile", verbosity := 1, targets := ["a", "b"] } ∧
        options.level = .info := by
  have arranges : Arranges [.target "a", .makeBare, .verbose, .fileApart "x.samba", .target "b"]
      (some "x.samba") (some "Makefile") 1 ["a", "b"] := by
    refine ⟨by simp [Item.Writable, Dashed], by decide, by decide, by decide, by decide, ?_⟩
    rintro (_ | ⟨_, _ | ⟨_, before⟩⟩) after split
    · simp at split
    · obtain ⟨-, rfl⟩ : _ ∧ [.verbose, .fileApart "x.samba", .target "b"] = after := by
        simpa using split
      decide
    · have late : Item.makeBare ∈ [.verbose, .fileApart "x.samba", .target "b"] := by
        obtain ⟨-, -, rest⟩ : _ ∧ _ ∧ [_, _, _] = before ++ Item.makeBare :: after := by
          simpa using split
        simp [rest]
      simp at late
  exact ⟨Reader.follows_parse, arranges, ofArguments_arranged Reader.follows_parse arranges⟩

end BuildScript.Options
