import BuildScript.Proofs.Settings.History
import BuildScript.Proofs.Text.Lines

/-!
# What the report tells

The report of the settings is a text in lines: a heading, a line for each single setting, of which
the one for the build directory may be missing, and six lists under titles, which may be empty. No
length is written anywhere. It tells the settings nevertheless, if none of their texts holds a
newline (`report_eq_iff`):

* **lines**: they can be read off the text, since none of them holds a newline
  (`SingleLined.report`);
* **lists**: an empty line ends a list, and no item is an empty line, since it is indented
  (`map_append_inj`).

Which texts the settings hold is decided by the operations on them: an operation puts in its own
texts and no others (`Change.texts_apply`).
-/

namespace BuildScript.Settings

open Text

/-! ## The texts of settings -/

/-- Every text that the settings hold. -/
def texts (s : Settings) : List String :=
  s.compiler :: s.definitions.entries.flatMap (fun entry => [entry.1, entry.2])
    ++ s.flags ++ s.libraries ++ s.includeDirs ++ s.libraryPaths ++ s.linkFlags
    ++ (s.buildDir.map Path.text).toList

/-- The texts that an operation may put into the settings. -/
def Change.texts : Change → List String
  | .reset => [defaultCompiler]
  | .setCompiler text | .addFlag text | .addLibrary text | .addInclude text
  | .addLibraryPath text | .addLinkFlag text => [text]
  | .defineVariable name value => [name, value]
  | .setBuildDir dir => [dir.text]
  | .setVerbose _ | .removeVariable _ | .removeFlag _ => []

theorem mem_insertEntry {name value : String} {entry : String × String}
    {entries : List (String × String)}
    (member : entry ∈ OrderedMap.insertEntry name value entries) :
    entry = (name, value) ∨ entry ∈ entries := by
  fun_induction OrderedMap.insertEntry name value entries with
  | case1 => exact .inl (List.mem_singleton.mp member)
  | case2 value' rest =>
      exact (List.mem_cons.mp member).imp_right fun later => List.mem_cons_of_mem _ later
  | case3 k v rest other ih =>
      obtain here | later := List.mem_cons.mp member
      · exact .inr (here ▸ List.mem_cons_self)
      · exact (ih later).imp_right fun known => List.mem_cons_of_mem _ known

theorem mem_texts {s : Settings} {text : String} :
    text ∈ s.texts ↔ text = s.compiler ∨
      (∃ entry ∈ s.definitions.entries, text = entry.1 ∨ text = entry.2) ∨ text ∈ s.flags ∨
      text ∈ s.libraries ∨ text ∈ s.includeDirs ∨ text ∈ s.libraryPaths ∨ text ∈ s.linkFlags ∨
      ∃ dir, s.buildDir = some dir ∧ text = dir.text := by
  simp only [texts, List.mem_append, List.mem_cons, List.mem_flatMap, Option.mem_toList,
    Option.map_eq_some_iff, List.not_mem_nil, or_false, or_assoc, eq_comm (a := text)]

/-- After an operation the settings hold texts that they held before, and texts of the operation. -/
theorem Change.texts_apply (s : Settings) (change : Change) :
    (change.apply s).texts ⊆ s.texts ++ change.texts := by
  intro text held
  rw [List.mem_append]
  cases change with
  | reset => exact .inr held
  | setVerbose verbose => exact .inl held
  | defineVariable name value =>
      obtain rfl | ⟨entry, member, here⟩ | others := mem_texts.mp held
      · exact .inl (mem_texts.mpr (.inl rfl))
      · obtain rfl | known := mem_insertEntry member
        · simpa [Change.texts] using Or.inr here
        · exact .inl (mem_texts.mpr (.inr (.inl ⟨entry, known, here⟩)))
      · exact .inl (mem_texts.mpr (.inr (.inr others)))
  | removeVariable name =>
      rw [mem_texts] at held ⊢
      grind [apply, Settings.removeVariable, OrderedMap.erase]
  | removeFlag flag =>
      rw [mem_texts] at held ⊢
      grind [apply, Settings.removeFlag]
  | setCompiler | addFlag | addLibrary | addInclude | addLibraryPath | addLinkFlag | setBuildDir =>
      rw [mem_texts] at held ⊢
      grind [apply, Change.texts, Settings.setCompiler, Settings.setBuildDir, Settings.addFlag,
        Settings.addLibrary, Settings.addInclude, Settings.addLibraryPath, Settings.addLinkFlag]

/-- No text of the settings holds a newline. -/
def SingleLined (s : Settings) : Prop := ∀ text ∈ s.texts, '\n' ∉ text.toList

theorem singleLined_initial : initial.SingleLined := by
  have only : ∀ text ∈ initial.texts, '\n' ∉ text.toList := by decide +kernel
  exact only

theorem SingleLined.apply {s : Settings} (single : s.SingleLined) (change : Change)
    (own : ∀ text ∈ change.texts, '\n' ∉ text.toList) : (change.apply s).SingleLined := by
  intro text held
  obtain before | put := List.mem_append.mp (change.texts_apply s held)
  · exact single text before
  · exact own text put

/-! ## What ends at a border -/

/-- Nothing follows, or an empty line. -/
def Bordered (rest : List String) : Prop := ∀ line ∈ rest.head?, line = ""

/-- Lines that are not empty end at a border, and tell what they were made from. -/
theorem map_append_inj {α : Type} {f : α → String} (injective : Function.Injective f)
    (solid : ∀ a, f a ≠ "") {xs ys : List α} {rest rest' : List String} (border : Bordered rest)
    (border' : Bordered rest') (same : xs.map f ++ rest = ys.map f ++ rest') :
    xs = ys ∧ rest = rest' := by
  -- Where one list ends and the other does not, a line that is not empty meets a border.
  induction xs generalizing ys with
  | nil =>
      cases ys with
      | nil => exact ⟨rfl, same⟩
      | cons y ys => exact absurd (border (f y) (congrArg List.head? same)) (solid y)
  | cons x xs ih =>
      cases ys with
      | nil => exact absurd (border' (f x) (congrArg List.head? same).symm) (solid x)
      | cons y ys =>
          obtain ⟨first, others⟩ := List.cons.inj same
          obtain ⟨rfl, after⟩ := ih others
          exact ⟨by rw [injective first], after⟩

theorem indent_injective : Function.Injective fun item : String => s!"  {item}" :=
  fun _ _ => (String.append_right_inj "  ").mp

theorem indent_ne_empty (item : String) : s!"  {item}" ≠ "" := by
  intro empty
  have nothing : "  " = "" := (String.append_eq_empty_iff.mp empty).1
  exact absurd nothing (by decide)

theorem reportSection_append_inj (title : String) {xs ys rest rest' : List String}
    (border : Bordered rest) (border' : Bordered rest')
    (same : reportSection title xs ++ rest = reportSection title ys ++ rest') :
    xs = ys ∧ rest = rest' := by
  simp only [reportSection, List.append_assoc] at same
  exact map_append_inj indent_injective indent_ne_empty border border'
    (List.append_cancel_left same)

/-- The line of the build directory is there if one is chosen, and it is not empty. -/
theorem directoryLine_append_inj {dir dir' : Option Path} {rest rest' : List String}
    (border : Bordered rest) (border' : Bordered rest')
    (same : (dir.map fun dir => s!"Build directory: {dir}").toList ++ rest =
      (dir'.map fun dir => s!"Build directory: {dir}").toList ++ rest') :
    dir = dir' ∧ rest = rest' := by
  rw [Option.toList_map, Option.toList_map] at same
  have injective : Function.Injective fun dir : Path => s!"Build directory: {dir}" := by
    intro dir dir' equal
    have text : dir.text = dir'.text := (String.append_right_inj "Build directory: ").mp equal
    exact congrArg Path.mk text
  have solid (dir : Path) : s!"Build directory: {dir}" ≠ "" := by
    intro empty
    have nothing : "Build directory: " = "" := (String.append_eq_empty_iff.mp empty).1
    exact absurd nothing (by decide)
  obtain ⟨chosen, after⟩ := map_append_inj injective solid border border' same
  refine ⟨?_, after⟩
  simpa using congrArg List.head? chosen

/-! ## Lines of the report -/

/-- The titles of the lists, in the order of the report. -/
def titles : List String :=
  ["Variables", "Flags", "Libraries", "Include directories", "Library paths", "Link flags"]

/-- What the report lists under these titles. -/
def lists (s : Settings) : List (List String) :=
  [s.definitions.entries.map variableLine, s.flags, s.libraries, s.includeDirs, s.libraryPaths,
    s.linkFlags]

/-- Lists under titles, one after the other. -/
def sections (titles : List String) (lists : List (List String)) : List String :=
  (List.zipWith reportSection titles lists).flatten

theorem bordered_sections (titles : List String) (lists : List (List String)) :
    Bordered (sections titles lists) := by
  cases titles with
  | nil => exact nofun
  | cons title titles =>
      cases lists with
      | nil => exact nofun
      | cons items lists =>
          rintro line ⟨⟩
          rfl

theorem sections_inj {titles : List String} {xs ys : List (List String)}
    (all : xs.length = titles.length) (all' : ys.length = titles.length)
    (same : sections titles xs = sections titles ys) : xs = ys := by
  induction titles generalizing xs ys with
  | nil => rw [List.length_eq_zero_iff.mp all, List.length_eq_zero_iff.mp all']
  | cons title titles ih =>
      obtain ⟨x, xs, rfl⟩ := List.exists_cons_of_length_eq_add_one all
      obtain ⟨y, ys, rfl⟩ := List.exists_cons_of_length_eq_add_one all'
      obtain ⟨rfl, others⟩ := reportSection_append_inj title (bordered_sections titles xs)
        (bordered_sections titles ys) same
      rw [ih (Nat.succ.inj all) (Nat.succ.inj all') others]

theorem reportLines_eq (s : Settings) :
    s.reportLines =
      "Build Report" :: "============" :: s!"Compiler: {s.compiler}" ::
        s!"Verbose: {s.verbose}" ::
          ((s.buildDir.map fun dir => s!"Build directory: {dir}").toList ++
            sections titles s.lists) := by
  simp [reportLines, sections, titles, lists]

/-- The settings are the same as far as the report is concerned: it shows a variable as one text. -/
structure Alike (s t : Settings) : Prop where
  compiler : s.compiler = t.compiler
  verbose : s.verbose = t.verbose
  buildDir : s.buildDir = t.buildDir
  variableLines : s.definitions.entries.map variableLine = t.definitions.entries.map variableLine
  flags : s.flags = t.flags
  libraries : s.libraries = t.libraries
  includeDirs : s.includeDirs = t.includeDirs
  libraryPaths : s.libraryPaths = t.libraryPaths
  linkFlags : s.linkFlags = t.linkFlags

/-- The lines of the report tell all that the report is about. -/
theorem reportLines_eq_iff {s t : Settings} : s.reportLines = t.reportLines ↔ s.Alike t := by
  constructor
  · intro same
    rw [reportLines_eq, reportLines_eq] at same
    simp only [List.cons.injEq, true_and] at same
    -- Each part is cut off at its border, and what is left is what comes after the border.
    obtain ⟨compiler, verbose, same⟩ := same
    obtain ⟨dir, same⟩ := directoryLine_append_inj (bordered_sections titles s.lists)
      (bordered_sections titles t.lists) same
    have listed : s.lists = t.lists := sections_inj rfl rfl same
    simp only [lists, List.cons.injEq, and_true] at listed
    obtain ⟨shown, flags, libraries, includeDirs, libraryPaths, linkFlags⟩ := listed
    refine ⟨(String.append_right_inj "Compiler: ").mp compiler, ?_, dir, shown, flags, libraries,
      includeDirs, libraryPaths, linkFlags⟩
    have word := (String.append_right_inj "Verbose: ").mp verbose
    revert word
    cases s.verbose <;> cases t.verbose <;> decide
  · rintro ⟨compiler, verbose, dir, shown, flags, libraries, includeDirs, libraryPaths, linkFlags⟩
    rw [reportLines, reportLines, compiler, verbose, dir, shown, flags, libraries, includeDirs,
      libraryPaths, linkFlags]

/-! ## The text of the report -/

theorem newline_not_mem_append {first second : String} (left : '\n' ∉ first.toList)
    (right : '\n' ∉ second.toList) : '\n' ∉ (first ++ second).toList := by
  rw [String.toList_append]
  exact fun newline => (List.mem_append.mp newline).elim left right

/-- The lines of lists under titles are borders, headings and items. -/
theorem forall_mem_sections {P : String → Prop} {titles : List String}
    {lists : List (List String)} (border : P "") (headings : ∀ title ∈ titles, P s!"{title}:")
    (listed : ∀ items ∈ lists, ∀ item ∈ items, P s!"  {item}") :
    ∀ line ∈ sections titles lists, P line := by
  induction titles generalizing lists with
  | nil => exact fun line member => by simp [sections] at member
  | cons title titles ih =>
      cases lists with
      | nil => exact fun line member => by simp [sections] at member
      | cons items lists =>
          obtain ⟨heading, headings⟩ := List.forall_mem_cons.mp headings
          obtain ⟨here, others⟩ := List.forall_mem_cons.mp listed
          refine List.forall_mem_append.mpr ⟨?_, ih headings others⟩
          exact List.forall_mem_cons.mpr ⟨border,
            List.forall_mem_cons.mpr ⟨heading, List.forall_mem_map.mpr here⟩⟩

theorem SingleLined.lists {s : Settings} (single : s.SingleLined) :
    ∀ items ∈ s.lists, ∀ item ∈ items, '\n' ∉ item.toList := by
  have own (items : List String) (held : ∀ item ∈ items, item ∈ s.texts) :
      ∀ item ∈ items, '\n' ∉ item.toList := fun item member => single item (held item member)
  have shown : ∀ item ∈ s.definitions.entries.map variableLine, '\n' ∉ item.toList := by
    refine List.forall_mem_map.mpr fun entry member => ?_
    have held {text : String} (part : text = entry.1 ∨ text = entry.2) : '\n' ∉ text.toList :=
      single text (mem_texts.mpr (.inr (.inl ⟨entry, member, part⟩)))
    exact newline_not_mem_append
      (newline_not_mem_append (held (.inl rfl)) (by decide +kernel)) (held (.inr rfl))
  simp only [Settings.lists, List.forall_mem_cons]
  refine ⟨shown, own _ ?_, own _ ?_, own _ ?_, own _ ?_, own _ ?_, nofun⟩ <;>
    · intro item member
      simp [mem_texts, member]

theorem SingleLined.reportLines {s : Settings} (single : s.SingleLined) :
    ∀ line ∈ s.reportLines, '\n' ∉ line.toList := by
  have compiler : '\n' ∉ (s!"Compiler: {s.compiler}").toList :=
    newline_not_mem_append (by decide +kernel) (single _ (mem_texts.mpr (.inl rfl)))
  have verbose : '\n' ∉ (s!"Verbose: {s.verbose}").toList := by
    cases s.verbose <;> decide +kernel
  have directory : ∀ line ∈ (s.buildDir.map fun dir => s!"Build directory: {dir}").toList,
      '\n' ∉ line.toList := by
    intro line member
    obtain ⟨dir, chosen, rfl⟩ := Option.map_eq_some_iff.mp (Option.mem_toList.mp member)
    exact newline_not_mem_append (by decide +kernel)
      (single dir.text (by simp [mem_texts, chosen]))
  have listed : ∀ line ∈ sections titles s.lists, '\n' ∉ line.toList := by
    refine forall_mem_sections (by decide +kernel) (by decide +kernel) ?_
    intro items among item member
    exact newline_not_mem_append (by decide +kernel) (single.lists items among item member)
  rw [reportLines_eq]
  simp only [List.forall_mem_cons]
  exact ⟨by decide +kernel, by decide +kernel, compiler, verbose,
    List.forall_mem_append.mpr ⟨directory, listed⟩⟩

/-- The lines of the report can be read off its text. -/
theorem SingleLined.report {s : Settings} (single : s.SingleLined) :
    endedLines s.report.toList = s.reportLines.map String.toList := by
  have lines := single.reportLines
  rw [Settings.report]
  generalize s.reportLines = written at lines ⊢
  induction written with
  | nil => rfl
  | cons line rest ih =>
      obtain ⟨first, others⟩ := List.forall_mem_cons.mp lines
      rw [List.map_cons, String.join_cons, String.toList_append, String.toList_append,
        List.map_cons, ← ih others, ← endedLines_line _ first, List.append_assoc]
      rfl

/-- The report tells all that it is about, if no text of the settings holds a newline. -/
theorem report_eq_iff {s t : Settings} (single : s.SingleLined) (single' : t.SingleLined) :
    s.report = t.report ↔ s.Alike t := by
  rw [← reportLines_eq_iff]
  constructor
  · intro same
    have lines : s.reportLines.map String.toList = t.reportLines.map String.toList := by
      rw [← single.report, ← single'.report, same]
    exact List.map_injective_iff.mpr (fun _ _ => String.toList_injective) lines
  · intro same
    rw [report, report, same]

end BuildScript.Settings
