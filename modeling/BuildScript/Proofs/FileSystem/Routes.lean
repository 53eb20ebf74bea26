import BuildScript.FileSystem.Operations
import BuildScript.Proofs.FileSystem.Tree
import Mathlib.Data.List.TakeWhile

/-!
# Where paths lead

The place to which a path leads is written in its steps (`Route.place`); whether it leads there at
all depends on the directories on the way and on nothing else (`Route.follow_mono`). The path of an
entry has one step more than the path of its directory (`ofText_entryPath`), so it leads one step
further (`follow_entryPath`). The ancestors of a path lead to the places on its way; it can get into
the tree below a place and out of it again only through that place (`not_prefix_of_ancestors`).
-/

namespace BuildScript

open FileSystem (entryPath)

/-! ## The steps of a path -/

namespace Route

theorem names_slash (cs : List Char) : names ('/' :: cs) = names cs := by
  rw [names]
  simp

theorem ne_slash_of_notMem {cs : List Char} (noSlash : '/' ∉ cs) : ∀ c ∈ cs, (c != '/') = true := by
  intro c member
  simpa using fun slash : c = '/' => noSlash (slash ▸ member)

theorem names_of_noSlash {cs : List Char} (nonempty : cs ≠ []) (noSlash : '/' ∉ cs) :
    names cs = [String.ofList cs] := by
  have others := ne_slash_of_notMem noSlash
  cases cs with
  | nil => exact absurd rfl nonempty
  | cons c cs =>
      rw [names, List.takeWhile_eq_self_iff.mpr others, List.dropWhile_eq_nil_iff.mpr others]
      simp [names]

theorem names_piece {piece : List Char} (noSlash : '/' ∉ piece) (rest : List Char) :
    names (piece ++ '/' :: rest) = names piece ++ names rest := by
  have others := ne_slash_of_notMem noSlash
  cases piece with
  | nil => simp [names, names_slash]
  | cons c cs =>
      rw [names_of_noSlash (List.cons_ne_nil _ _) noSlash, List.cons_append, names,
        ← List.cons_append, List.takeWhile_append_of_pos others,
        List.dropWhile_append_of_pos others]
      simp

/-- What is before the first slash of a text, if it has one. -/
theorem noSlash_or_piece (cs : List Char) :
    '/' ∉ cs ∨ ∃ piece rest, cs = piece ++ '/' :: rest ∧ '/' ∉ piece := by
  by_cases slash : '/' ∈ cs
  · obtain ⟨piece, rest, split, noSlash⟩ := List.eq_append_cons_of_mem slash
    exact .inr ⟨piece, rest, split, noSlash⟩
  · exact .inl slash

/-- The names before and after a slash. -/
theorem names_append_slash (first rest : List Char) :
    names (first ++ '/' :: rest) = names first ++ names rest := by
  induction size : first.length using Nat.strong_induction_on generalizing first with
  | _ n ih =>
      obtain noSlash | ⟨piece, below, rfl, noSlash⟩ := noSlash_or_piece first
      · exact names_piece noSlash rest
      · rw [List.append_assoc, List.cons_append, names_piece noSlash, names_piece noSlash,
          ih below.length (by simp at size; omega) below rfl, List.append_assoc]

theorem mem_names {cs : List Char} {name : String} (member : name ∈ names cs) :
    name ≠ "" ∧ '/' ∉ name.toList := by
  induction size : cs.length using Nat.strong_induction_on generalizing cs with
  | _ n ih =>
      have single : ∀ piece : List Char, '/' ∉ piece → name ∈ names piece →
          name ≠ "" ∧ '/' ∉ name.toList := by
        intro piece noSlash member
        by_cases empty : piece = []
        · subst empty
          simp [names] at member
        · rw [names_of_noSlash empty noSlash, List.mem_singleton] at member
          subst member
          exact ⟨by simpa using empty, by simpa using noSlash⟩
      obtain noSlash | ⟨piece, below, rfl, noSlash⟩ := noSlash_or_piece cs
      · exact single cs noSlash member
      · rw [names_piece noSlash, List.mem_append] at member
        obtain here | later := member
        · exact single piece noSlash here
        · exact ih below.length (by simp at size; omega) later rfl

end Route

/-! ## Paths of entries -/

theorem toList_entryPath (dir name : String) :
    (entryPath dir name).toList = dir.toList ++
      (if dir.toList.isEmpty || dir.toList.getLast? == some '/' then name.toList
        else '/' :: name.toList) := by
  unfold entryPath
  split
  · simp
  · simp

theorem names_entryPath (dir : String) {name : String} (isName : Node.IsName name) :
    Route.names (entryPath dir name).toList = Route.names dir.toList ++ [name] := by
  have last : Route.names name.toList = [name] := by
    rw [Route.names_of_noSlash (by simpa using isName.nonempty) isName.noSlash,
      String.ofList_toList]
  rw [toList_entryPath]
  split
  · rename_i ended
    obtain empty | slash := Bool.or_eq_true_iff.mp ended
    · rw [List.isEmpty_iff.mp empty]
      simpa [Route.names] using last
    · obtain ⟨before, same⟩ := List.getLast?_eq_some_iff.mp (eq_of_beq slash)
      rw [same, List.append_assoc, List.singleton_append, Route.names_append_slash,
        Route.names_append_slash, last]
      simp [Route.names]
  · rw [Route.names_append_slash, last]

theorem head?_entryPath (dir : String) {name : String} (isName : Node.IsName name) :
    ((entryPath dir name).toList.head? == some '/') = (dir.toList.head? == some '/') := by
  rw [toList_entryPath]
  cases chars : dir.toList with
  | nil =>
      cases inner : name.toList with
      | nil => rfl
      | cons c cs =>
          have other : c ≠ '/' := fun slash => isName.noSlash (by simp [inner, slash])
          simpa using other
  | cons c cs => rfl

/-- The path ends with the character of a name. -/
def EndsWithName (path : String) : Prop := ∃ c, c ≠ '/' ∧ path.toList.getLast? = some c

theorem endsWithName_entryPath (dir : String) {name : String} (isName : Node.IsName name) :
    EndsWithName (entryPath dir name) := by
  have nonempty : name.toList ≠ [] := by simpa using isName.nonempty
  refine ⟨name.toList.getLast nonempty, fun slash => ?_, ?_⟩
  · exact isName.noSlash (slash ▸ List.getLast_mem nonempty)
  · rw [toList_entryPath, List.getLast?_append]
    split
    · simp [List.getLast?_eq_some_getLast nonempty]
    · rw [List.getLast?_cons, List.getLast?_eq_some_getLast nonempty]
      rfl

/-- The path of an entry has one step more. -/
theorem ofText_entryPath (dir : String) {name : String} (isName : Node.IsName name) :
    Route.ofText (entryPath dir name) =
      ⟨(Route.ofText dir).absolute, (Route.ofText dir).steps ++ [name], false⟩ := by
  obtain ⟨c, other, last⟩ := endsWithName_entryPath dir isName
  rw [Route.ofText, names_entryPath dir isName, head?_entryPath dir isName, last]
  simp [Route.ofText, other]

/-! ## Sizes of paths -/

theorem size_pos {name : String} (isName : Node.IsName name) : 0 < name.utf8ByteSize := by
  refine Nat.pos_of_ne_zero fun empty => isName.nonempty ?_
  exact String.utf8ByteSize_eq_zero_iff.mp empty

/-- Below a path that ends with a name there is also a slash in between. -/
theorem size_entryPath_of_endsWithName {dir name : String} (ends : EndsWithName dir)
    (isName : Node.IsName name) :
    dir.utf8ByteSize + 2 ≤ (entryPath dir name).utf8ByteSize := by
  obtain ⟨c, other, last⟩ := ends
  have pos := size_pos isName
  have slash : ("/" : String).utf8ByteSize = 1 := rfl
  have nonempty : dir.toList ≠ [] := by
    intro empty
    rw [empty] at last
    cases last
  have notEnded : ¬ (dir.toList.isEmpty || dir.toList.getLast? == some '/') = true := by
    simp [nonempty, last, other]
  rw [entryPath, if_neg notEnded, String.utf8ByteSize_append, String.utf8ByteSize_append, slash]
  omega

/-! ## Following the steps -/

namespace Route

/-- The place one step from another, whatever is there. -/
def step (place : Place) (name : String) : Place :=
  if name = "." then place else if name = ".." then place.dropLast else place ++ [name]

/-- The place to which the steps of a route lead, whatever is on the way. -/
def place (r : Route) (directory : Place) : Place :=
  r.steps.foldl step (if r.absolute then [] else directory)

theorem advance_eq_ok {root : Node} {start : Place} {name : String} {next : Place}
    (advanced : advance root start name = .ok next) :
    root.IsDirAt start ∧ next = step start name := by
  unfold advance at advanced
  split at advanced
  · cases advanced
  · rename_i es found
    refine ⟨⟨es, found⟩, ?_⟩
    unfold step
    split at advanced
    · rename_i here
      rw [if_pos here]
      exact (Except.ok.inj advanced).symm
    · rename_i notHere
      rw [if_neg notHere]
      split at advanced
      · rename_i up
        rw [if_pos up]
        exact (Except.ok.inj advanced).symm
      · rename_i notUp
        rw [if_neg notUp]
        split at advanced
        · cases advanced
        · exact (Except.ok.inj advanced).symm
  · cases advanced

/-- A step is the same from every directory at the place. -/
theorem advance_congr {root root' : Node} {start : Place} (isDir : root.IsDirAt start)
    (isDir' : root'.IsDirAt start) (name : String) :
    advance root' start name = advance root start name := by
  obtain ⟨es, found⟩ := isDir
  obtain ⟨es', found'⟩ := isDir'
  simp only [advance, found, found']

/-- From a directory a step can only fail because its name is too long. -/
theorem advance_ne_noEntry {root : Node} {start : Place} (isDir : root.IsDirAt start)
    (name : String) : advance root start name ≠ .error .noEntry := by
  obtain ⟨es, found⟩ := isDir
  simp only [advance, found]
  split
  · simp
  · split
    · simp
    · split
      · simp
      · simp

theorem foldlM_advance_eq_ok {root : Node} {steps : List String} {start final : Place}
    (followed : steps.foldlM (advance root) start = .ok final) :
    final = steps.foldl step start := by
  induction steps generalizing start with
  | nil => exact (Except.ok.inj followed).symm
  | cons name steps ih =>
      rw [List.foldlM_cons] at followed
      cases advanced : advance root start name with
      | error e =>
          rw [advanced] at followed
          cases followed
      | ok next =>
          rw [advanced] at followed
          rw [List.foldl_cons, ← (advance_eq_ok advanced).2]
          exact ih followed

theorem place_of_follow {r : Route} {root : Node} {directory final : Place}
    (followed : r.follow root directory = .ok final) : final = r.place directory :=
  foldlM_advance_eq_ok followed

theorem foldlM_advance_mono {root root' : Node} {steps : List String} {start final : Place}
    (stay : ∀ place, root.IsDirAt place → root'.IsDirAt place)
    (followed : steps.foldlM (advance root) start = .ok final) :
    steps.foldlM (advance root') start = .ok final := by
  induction steps generalizing start with
  | nil => exact followed
  | cons name steps ih =>
      rw [List.foldlM_cons] at followed ⊢
      cases advanced : advance root start name with
      | error e =>
          rw [advanced] at followed
          cases followed
      | ok next =>
          obtain ⟨isDir, -⟩ := advance_eq_ok advanced
          rw [advanced] at followed
          rw [advance_congr isDir (stay start isDir), advanced]
          exact ih followed

/-- A route leads where it led as long as the directories stay. -/
theorem follow_mono {r : Route} {root root' : Node} {directory final : Place}
    (stay : ∀ place, root.IsDirAt place → root'.IsDirAt place)
    (followed : r.follow root directory = .ok final) : r.follow root' directory = .ok final :=
  foldlM_advance_mono stay followed

/-- The path of an entry leads one step further than the path of the directory. -/
theorem follow_entryPath {root : Node} {directory : Place} {dir : String} {start : Place}
    (followed : (ofText dir).follow root directory = .ok start) {name : String}
    (isName : Node.IsName name) :
    (ofText (entryPath dir name)).follow root directory = advance root start name := by
  rw [ofText_entryPath dir isName, follow, List.foldlM_append]
  show (ofText dir).follow root directory >>= _ = _
  rw [followed]
  show (advance root start name >>= pure) = _
  rw [bind_pure]

theorem place_entryPath (directory : Place) (dir : String) {name : String}
    (isName : Node.IsName name) :
    (ofText (entryPath dir name)).place directory = (ofText dir).place directory ++ [name] := by
  rw [ofText_entryPath dir isName, place, List.foldl_append]
  show step ((ofText dir).place directory) name = _
  rw [step, if_neg isName.notHere, if_neg isName.notUp]

/-! ## Ends of routes -/

/-- The steps of a route are names between slashes. -/
def Clean (r : Route) : Prop := ∀ name ∈ r.steps, name ≠ "" ∧ '/' ∉ name.toList

theorem clean_ofText (text : String) : (ofText text).Clean := fun _ => mem_names

theorem Clean.ancestors {r : Route} (clean : r.Clean) : ∀ above ∈ r.ancestors, above.Clean := by
  intro above member name step
  unfold Route.ancestors at member
  obtain ⟨n, -, rfl⟩ := List.mem_map.mp member
  have kept := List.mem_of_mem_take step
  refine clean name ?_
  cases steps : r.steps with
  | nil => simp [steps] at kept
  | cons first rest =>
      rw [steps] at kept
      obtain rfl | later := List.mem_cons.mp kept
      · exact List.mem_cons_self
      · exact List.mem_cons_of_mem _ (List.mem_filter.mp later).1

/-- A route from a directory leads to a node or to a place for one in a directory. -/
theorem Clean.follow_cases {r : Route} (clean : r.Clean) {root : Node} {directory final : Place}
    (isDir : root.IsDirAt directory) (followed : r.follow root directory = .ok final) :
    (∃ node, root.get? final = some node) ∨
      ∃ parent name, final = parent ++ [name] ∧ root.IsDirAt parent ∧ Node.IsName name := by
  obtain ⟨absolute, steps, slash⟩ := r
  unfold follow at followed
  obtain rfl | ⟨before, last, rfl⟩ := List.eq_nil_or_concat' steps
  · obtain rfl := Except.ok.inj followed
    by_cases fromRoot : absolute = true
    · exact .inl ⟨root, by simp [fromRoot]⟩
    · obtain ⟨es, found⟩ := isDir
      exact .inl ⟨_, by simpa [fromRoot] using found⟩
  · rw [List.foldlM_append] at followed
    generalize List.foldlM (advance root) _ before = reached at followed
    cases reached with
    | error e => cases followed
    | ok start =>
        have advanced : advance root start last = .ok final := by
          have same : (advance root start last >>= pure) = .ok final := followed
          rwa [bind_pure] at same
        obtain ⟨isDir, rfl⟩ := advance_eq_ok advanced
        obtain ⟨es, found⟩ := isDir
        obtain ⟨nonempty, noSlash⟩ := clean last (by simp)
        by_cases here : last = "."
        · exact .inl ⟨_, by rw [step, if_pos here]; exact found⟩
        · by_cases up : last = ".."
          · obtain ⟨inner, above⟩ : root.IsDirAt start.dropLast := by
              obtain ⟨rest, split⟩ := start.dropLast_prefix
              exact Node.isDirAt_of_isDirAt_append ⟨es, by rw [split]; exact found⟩
            exact .inl ⟨_, by rw [step, if_neg here, if_pos up]; exact above⟩
          · exact .inr ⟨start, last, by rw [step, if_neg here, if_neg up], ⟨es, found⟩,
              nonempty, noSlash, here, up⟩

/-! ## The way of a route -/

theorem foldl_step_filter (steps : List String) (start : Place) :
    (steps.filter (· != ".")).foldl step start = steps.foldl step start := by
  induction steps generalizing start with
  | nil => rfl
  | cons name steps ih =>
      by_cases here : name = "."
      · rw [List.filter_cons_of_neg (by simp [here]), List.foldl_cons, step, if_pos here, ih]
      · rw [List.filter_cons_of_pos (by simp [here]), List.foldl_cons, List.foldl_cons, ih]

/-- The ancestors of a route are the first parts of its steps, without steps that stay. -/
theorem exists_ancestors (r : Route) :
    ∃ kept : List String, kept ⊆ r.steps ∧
      (∀ start, kept.foldl step start = r.steps.foldl step start) ∧
      ∀ above, above ∈ r.ancestors ↔
        ∃ n < kept.length, above = ⟨r.absolute, kept.take n, false⟩ := by
  obtain ⟨absolute, steps, slash⟩ := r
  cases steps with
  | nil => exact ⟨[], List.nil_subset _, fun _ => rfl, fun _ => by simp [ancestors]⟩
  | cons first rest =>
      refine ⟨first :: rest.filter (· != "."), ?_, fun start => ?_, fun above => ?_⟩
      · exact List.cons_subset_cons first (List.filter_subset_self rest)
      · rw [List.foldl_cons, List.foldl_cons, foldl_step_filter]
      · simp only [ancestors, List.mem_map, List.mem_reverse, List.mem_range, eq_comm]

/-- From below a place a step leads to below the place. -/
theorem prefix_step {place start : Place} (below : place <+: start) (other : start ≠ place)
    (name : String) : place <+: step start name := by
  unfold step
  split
  · exact below
  · split
    · obtain ⟨rest, rfl⟩ := below
      have further : rest ≠ [] := by
        rintro rfl
        exact other (List.append_nil _)
      rw [List.dropLast_append_of_ne_nil further]
      exact List.prefix_append _ _
    · exact below.trans (List.prefix_append _ _)

/-- Whoever leaves the tree below a place comes through the place. -/
theorem prefix_foldl_step {place : Place} {steps : List String} {start : Place}
    (below : place <+: start)
    (notThrough : ∀ n < steps.length, (steps.take n).foldl step start ≠ place) :
    place <+: steps.foldl step start := by
  induction steps generalizing start with
  | nil => exact below
  | cons name steps ih =>
      refine ih (prefix_step below (notThrough 0 (by simp)) name) fun n inside => ?_
      exact notThrough (n + 1) (by simpa using inside)

/-- A route that ends outside a place and does not come through it is always outside. -/
theorem not_prefix_of_ancestors {r : Route} {directory place : Place}
    (outside : ¬ place <+: r.place directory)
    (notThrough : ∀ above ∈ r.ancestors, above.place directory ≠ place) :
    ∀ above ∈ r.ancestors, ¬ place <+: above.place directory := by
  obtain ⟨kept, -, same, ancestors⟩ := r.exists_ancestors
  intro above member below
  obtain ⟨n, -, rfl⟩ := (ancestors above).mp member
  refine outside ?_
  rw [Route.place, ← same, ← List.take_append_drop n kept, List.foldl_append]
  refine prefix_foldl_step below fun m inside => ?_
  rw [List.length_drop] at inside
  rw [← List.foldl_append, ← List.take_add]
  exact notThrough _ ((ancestors _).mpr ⟨n + m, by omega, rfl⟩)

theorem prefix_foldl_step_of_noUp {steps : List String} (noUp : ".." ∉ steps) (start : Place) :
    start <+: steps.foldl step start := by
  induction steps generalizing start with
  | nil => exact List.prefix_refl _
  | cons name steps ih =>
      obtain ⟨notUp, later⟩ := List.ne_and_not_mem_of_not_mem_cons noUp
      refine List.IsPrefix.trans ?_ (ih later (step start name))
      unfold step
      rw [if_neg (Ne.symm notUp)]
      split
      · exact List.prefix_refl _
      · exact List.prefix_append _ _

/-- Without a step up, a route passes only places above its end. -/
theorem place_ancestors_prefix {r : Route} (noUp : ".." ∉ r.steps) (directory : Place) :
    ∀ above ∈ r.ancestors, above.place directory <+: r.place directory := by
  obtain ⟨kept, among, same, ancestors⟩ := r.exists_ancestors
  intro above member
  obtain ⟨n, -, rfl⟩ := (ancestors above).mp member
  rw [Route.place, Route.place, ← same]
  conv_rhs => rw [← List.take_append_drop n kept, List.foldl_append]
  exact prefix_foldl_step_of_noUp (fun up => noUp (among (List.mem_of_mem_drop up))) _

end Route

end BuildScript
