import BuildScript.FileSystem.Node
import Mathlib.Data.List.Basic
import Mathlib.Data.String.Basic

/-!
# Reading a tree after a change

What is at a place of a tree after a node has been put somewhere. A node that is put into a
directory is there (`get?_put_below`), places that are neither above nor below keep their nodes
(`get?_put_of_apart`), and whatever is not below keeps its face: it is the same file as before, or
it is a directory as before (`faceAt_put`).

In a proper tree the entries of every directory are in ascending order and have names that can be
the steps of a path. Putting a proper tree under such a name keeps a tree proper (`Proper.put`).
-/

namespace BuildScript

namespace Node

/-! ## Entries -/

theorem lookup_setEntry (name : String) (node : Node) (es : List (String × Node)) (k : String) :
    (setEntry name (some node) es).lookup k = if k = name then some node else es.lookup k := by
  induction es with
  | nil =>
      by_cases same : k = name
      · simp [setEntry, same]
      · simp [setEntry, List.lookup_cons, same, beq_eq_false_iff_ne.mpr same]
  | cons entry es ih =>
      obtain ⟨other, old⟩ := entry
      by_cases here : name = other
      · subst here
        by_cases same : k = name
        · simp [setEntry, same]
        · simp [setEntry, List.lookup_cons, same, beq_eq_false_iff_ne.mpr same]
      · by_cases before : name < other
        · by_cases same : k = name
          · simp [setEntry, here, before, same]
          · simp [setEntry, here, before, List.lookup_cons, same, beq_eq_false_iff_ne.mpr same]
        · simp only [setEntry, if_neg here, if_neg before, List.lookup_cons, ih]
          by_cases same : k = name
          · subst same
            simp [beq_eq_false_iff_ne.mpr here]
          · simp [same]

theorem mem_keys_setEntry (name : String) (node : Node) (es : List (String × Node)) (k : String) :
    k ∈ (setEntry name (some node) es).map Prod.fst ↔ k = name ∨ k ∈ es.map Prod.fst := by
  induction es with
  | nil => simp [setEntry]
  | cons entry es ih =>
      obtain ⟨other, old⟩ := entry
      rw [setEntry]
      split
      · rename_i here
        simp [here]
      · split
        · simp
        · rw [List.map_cons, List.mem_cons, ih, List.map_cons, List.mem_cons]
          tauto

/-- Setting an entry keeps the order of the names. -/
theorem setEntry_ascending (name : String) (node : Node) {es : List (String × Node)}
    (ascending : (es.map Prod.fst).Pairwise (· < ·)) :
    ((setEntry name (some node) es).map Prod.fst).Pairwise (· < ·) := by
  induction es with
  | nil => simp [setEntry]
  | cons entry es ih =>
      obtain ⟨other, old⟩ := entry
      obtain ⟨least, rest⟩ := List.pairwise_cons.mp ascending
      rw [setEntry]
      split
      · rename_i here
        subst here
        exact ascending
      · rename_i different
        split
        · rename_i before
          refine List.pairwise_cons.mpr ⟨fun k member => ?_, ascending⟩
          obtain rfl | later := List.mem_cons.mp member
          · exact before
          · exact before.trans (least k later)
        · rename_i notBefore
          refine List.pairwise_cons.mpr ⟨fun k member => ?_, ih rest⟩
          obtain rfl | later := (mem_keys_setEntry name node es k).mp member
          · exact lt_of_le_of_ne (not_lt.mp notBefore) (Ne.symm different)
          · exact least k later

theorem mem_of_lookup_eq_some {es : List (String × Node)} {name : String} {node : Node}
    (found : es.lookup name = some node) : (name, node) ∈ es := by
  obtain ⟨before, after, rfl, -⟩ := List.lookup_eq_some_iff.mp found
  exact List.mem_append_right _ List.mem_cons_self

theorem lookup_eq_some_of_mem {es : List (String × Node)}
    (ascending : (es.map Prod.fst).Pairwise (· < ·)) {name : String} {node : Node}
    (member : (name, node) ∈ es) : es.lookup name = some node := by
  induction es with
  | nil => cases member
  | cons entry es ih =>
      obtain ⟨other, old⟩ := entry
      obtain ⟨least, rest⟩ := List.pairwise_cons.mp ascending
      obtain same | later := List.mem_cons.mp member
      · cases same
        simp
      · have before : other < name := least name (List.mem_map.mpr ⟨_, later, rfl⟩)
        rw [List.lookup_cons, beq_eq_false_iff_ne.mpr before.ne']
        exact ih rest later

/-! ## Reading -/

@[simp] theorem get?_nil (root : Node) : root.get? [] = some root := rfl

theorem get?_cons (name : String) (rest : Place) (root : Node) :
    root.get? (name :: rest) = (root.entries.lookup name).bind (get? rest) := rfl

theorem get?_append (first rest : Place) (root : Node) :
    root.get? (first ++ rest) = (root.get? first).bind (get? rest) := by
  induction first generalizing root with
  | nil => rfl
  | cons name first ih =>
      rw [List.cons_append, get?_cons, get?_cons, Option.bind_assoc]
      congr 1
      funext child
      exact ih child

/-- There is a directory at the place. -/
def IsDirAt (root : Node) (place : Place) : Prop := ∃ es, root.get? place = some (.dir es)

theorem isDir_iff (node : Node) : node.isDir = true ↔ ∃ es, node = .dir es := by
  cases node <;> simp [isDir]

theorem isDirAt_of_get?_append {root : Node} {place : Place} {name : String} {rest : Place}
    {node : Node} (found : root.get? (place ++ name :: rest) = some node) : root.IsDirAt place := by
  rw [get?_append, Option.bind_eq_some_iff] at found
  obtain ⟨here, there, below⟩ := found
  cases here with
  | dir es => exact ⟨es, there⟩
  | file content executable => cases below
  | shell => cases below
  | null => cases below

theorem isDirAt_of_isDirAt_append {root : Node} {place rest : Place}
    (isDir : root.IsDirAt (place ++ rest)) : root.IsDirAt place := by
  obtain ⟨es, found⟩ := isDir
  cases rest with
  | nil => exact ⟨es, by simpa using found⟩
  | cons name rest => exact isDirAt_of_get?_append found

theorem get?_concat {root : Node} {place : Place} {es : List (String × Node)}
    (found : root.get? place = some (.dir es)) (name : String) :
    root.get? (place ++ [name]) = es.lookup name := by
  rw [get?_append, found]
  show (es.lookup name).bind some = _
  simp

/-! ## Putting a node into a directory -/

theorem put_cons {es : List (String × Node)} {name : String} {child : Node} {rest : Place}
    (node : Option Node) (found : es.lookup name = some child) (further : rest ≠ []) :
    (dir es).put node (name :: rest) =
      dir (setEntry name (some (child.put node rest)) es) := by
  cases rest with
  | nil => exact absurd rfl further
  | cons next rest => simp only [put, found]

section Put

variable {root : Node} {parent : Place} (node : Node) (name : String)

/-- A directory below the root is below an entry of the root. -/
theorem isDirAt_cons_iff (first : String) (rest : Place) :
    root.IsDirAt (first :: rest) ↔
      ∃ es child, root = .dir es ∧ es.lookup first = some child ∧ child.IsDirAt rest := by
  constructor
  · rintro ⟨inner, found⟩
    rw [get?_cons, Option.bind_eq_some_iff] at found
    obtain ⟨child, here, below⟩ := found
    cases root with
    | dir es => exact ⟨es, child, rfl, here, inner, below⟩
    | file content executable => cases here
    | shell => cases here
    | null => cases here
  · rintro ⟨es, child, rfl, here, inner, below⟩
    refine ⟨inner, ?_⟩
    rw [get?_cons]
    show (es.lookup first).bind _ = _
    rw [here]
    exact below

theorem get?_put_below (isDir : root.IsDirAt parent) (rest : Place) :
    (root.put (some node) (parent ++ [name])).get? (parent ++ name :: rest) = node.get? rest := by
  induction parent generalizing root with
  | nil =>
      obtain ⟨es, found⟩ := isDir
      obtain rfl : root = .dir es := Option.some.inj found
      show ((setEntry name (some node) es).lookup name).bind (get? rest) = _
      rw [lookup_setEntry, if_pos rfl]
      rfl
  | cons first parent ih =>
      obtain ⟨es, child, rfl, found, below⟩ := (isDirAt_cons_iff first parent).mp isDir
      rw [List.cons_append, List.cons_append, put_cons _ found (by simp), get?_cons]
      show ((setEntry first _ es).lookup first).bind _ = _
      rw [lookup_setEntry, if_pos rfl]
      exact ih below

theorem get?_put_of_apart (isDir : root.IsDirAt parent) {place : Place}
    (notAbove : ¬ place <+: parent ++ [name]) (notBelow : ¬ parent ++ [name] <+: place) :
    (root.put (some node) (parent ++ [name])).get? place = root.get? place := by
  induction parent generalizing root place with
  | nil =>
      obtain ⟨es, found⟩ := isDir
      obtain rfl : root = .dir es := Option.some.inj found
      cases place with
      | nil => exact absurd List.nil_prefix notAbove
      | cons k rest =>
          have other : k ≠ name := by
            rintro rfl
            exact notBelow ⟨rest, rfl⟩
          show ((setEntry name (some node) es).lookup k).bind _ = _
          rw [lookup_setEntry, if_neg other]
          rfl
  | cons first parent ih =>
      obtain ⟨es, child, rfl, found, below⟩ := (isDirAt_cons_iff first parent).mp isDir
      rw [List.cons_append, put_cons _ found (by simp)]
      cases place with
      | nil => exact absurd List.nil_prefix notAbove
      | cons k rest =>
          rw [get?_cons, get?_cons]
          show ((setEntry first _ es).lookup k).bind _ = (es.lookup k).bind _
          rw [lookup_setEntry]
          by_cases same : k = first
          · subst same
            rw [if_pos rfl, found]
            exact ih below (fun above => notAbove (List.cons_prefix_cons.mpr ⟨rfl, above⟩))
              fun lower => notBelow (List.cons_prefix_cons.mpr ⟨rfl, lower⟩)
          · rw [if_neg same]

theorem isDirAt_put (isDir : root.IsDirAt parent) {place : Place} (above : place <+: parent) :
    (root.put (some node) (parent ++ [name])).IsDirAt place := by
  obtain ⟨rest, rfl⟩ := above
  obtain ⟨next, further, split⟩ : ∃ next further, rest ++ [name] = next :: further :=
    List.exists_cons_of_ne_nil (by simp)
  have found := get?_put_below node name isDir []
  rw [List.append_assoc, split] at found ⊢
  exact isDirAt_of_get?_append (found.trans (get?_nil node))

end Put

/-! ## Faces -/

/-- A node without its entries: what it is, and the content if it is a file. -/
def face : Node → Node
  | dir _ => emptyDir
  | node => node

/-- What is at a place. -/
def faceAt (root : Node) (place : Place) : Option Node := (root.get? place).map face

theorem faceAt_eq_dir_iff (root : Node) (place : Place) :
    root.faceAt place = some emptyDir ↔ root.IsDirAt place := by
  rw [faceAt, Option.map_eq_some_iff]
  constructor
  · rintro ⟨node, found, same⟩
    cases node with
    | dir es => exact ⟨es, found⟩
    | file content executable => cases same
    | shell => cases same
    | null => cases same
  · rintro ⟨es, found⟩
    exact ⟨_, found, rfl⟩

/-- The face of a node that is no directory is the node. -/
theorem faceAt_eq_some_iff {root : Node} {place : Place} {node : Node} (leaf : node.isDir = false) :
    root.faceAt place = some node ↔ root.get? place = some node := by
  rw [faceAt, Option.map_eq_some_iff]
  constructor
  · rintro ⟨found, here, same⟩
    cases found with
    | dir es => subst same; cases leaf
    | file content executable => rw [here, ← same]; rfl
    | shell => rw [here, ← same]; rfl
    | null => rw [here, ← same]; rfl
  · intro here
    refine ⟨node, here, ?_⟩
    cases node with
    | dir es => cases leaf
    | file content executable => rfl
    | shell => rfl
    | null => rfl

theorem faceAt_eq_none_iff (root : Node) (place : Place) :
    root.faceAt place = none ↔ root.get? place = none := Option.map_eq_none_iff

/-- A node that is put into a directory changes no face but those below its place. -/
theorem faceAt_put {root : Node} {parent : Place} (node : Node) (name : String)
    (isDir : root.IsDirAt parent) {place : Place} (notBelow : ¬ parent ++ [name] <+: place) :
    (root.put (some node) (parent ++ [name])).faceAt place = root.faceAt place := by
  by_cases above : place <+: parent ++ [name]
  · obtain rfl | higher := List.prefix_concat_iff.mp above
    · exact absurd (List.prefix_refl _) notBelow
    · obtain ⟨rest, rfl⟩ := higher
      rw [(faceAt_eq_dir_iff _ _).mpr (isDirAt_put node name isDir ⟨rest, rfl⟩),
        (faceAt_eq_dir_iff _ _).mpr (isDirAt_of_isDirAt_append isDir)]
  · rw [faceAt, get?_put_of_apart node name isDir above notBelow]
    rfl

/-! ## Proper trees -/

/-- A name that can be a step of a path. -/
structure IsName (name : String) : Prop where
  nonempty : name ≠ ""
  noSlash : '/' ∉ name.toList
  notHere : name ≠ "."
  notUp : name ≠ ".."

/-- The entries are in ascending order and have names that can be steps of a path. -/
structure ProperEntries (es : List (String × Node)) : Prop where
  ascending : (es.map Prod.fst).Pairwise (· < ·)
  names : ∀ name ∈ es.map Prod.fst, IsName name

instance (name : String) : Decidable (IsName name) :=
  decidable_of_iff (name ≠ "" ∧ '/' ∉ name.toList ∧ name ≠ "." ∧ name ≠ "..")
    ⟨fun ⟨nonempty, noSlash, notHere, notUp⟩ => ⟨nonempty, noSlash, notHere, notUp⟩,
      fun isName => ⟨isName.nonempty, isName.noSlash, isName.notHere, isName.notUp⟩⟩

instance (es : List (String × Node)) : Decidable (ProperEntries es) :=
  decidable_of_iff ((es.map Prod.fst).Pairwise (· < ·) ∧ ∀ name ∈ es.map Prod.fst, IsName name)
    ⟨fun ⟨ascending, names⟩ => ⟨ascending, names⟩,
      fun proper => ⟨proper.ascending, proper.names⟩⟩

/-- All directories of the tree have proper entries. -/
def Proper (root : Node) : Prop := ∀ place es, root.get? place = some (.dir es) → ProperEntries es

theorem properEntries_nil : ProperEntries [] := ⟨.nil, List.forall_mem_nil _⟩

theorem proper_of_not_isDir {node : Node} (leaf : node.isDir = false) : node.Proper := by
  intro place es found
  cases place with
  | nil =>
      obtain rfl := Option.some.inj found
      cases leaf
  | cons name rest =>
      cases node with
      | dir es => cases leaf
      | file content executable => cases found
      | shell => cases found
      | null => cases found

theorem proper_dir_iff (es : List (String × Node)) :
    (dir es).Proper ↔
      ProperEntries es ∧ ∀ name child, es.lookup name = some child → child.Proper := by
  constructor
  · intro proper
    refine ⟨proper [] es rfl, fun name child here place inner found => ?_⟩
    refine proper (name :: place) inner ?_
    rw [get?_cons]
    show (es.lookup name).bind _ = _
    rw [here]
    exact found
  · rintro ⟨entries, children⟩ place inner found
    cases place with
    | nil =>
        cases found
        exact entries
    | cons name rest =>
        rw [get?_cons, Option.bind_eq_some_iff] at found
        obtain ⟨child, here, below⟩ := found
        exact children name child here rest inner below

/-- A directory is proper if its entries are. -/
theorem proper_dir {es : List (String × Node)} (entries : ProperEntries es)
    (each : ∀ entry ∈ es, entry.2.Proper) : (dir es).Proper :=
  (proper_dir_iff es).mpr ⟨entries, fun _ _ found => each _ (mem_of_lookup_eq_some found)⟩

theorem proper_emptyDir : emptyDir.Proper := by
  refine (proper_dir_iff []).mpr ⟨properEntries_nil, fun name child found => ?_⟩
  cases found

theorem Proper.setEntry {es : List (String × Node)} (proper : (dir es).Proper) {node : Node}
    {name : String} (properNode : node.Proper) (isName : IsName name) :
    (dir (setEntry name (some node) es)).Proper := by
  obtain ⟨⟨ascending, names⟩, children⟩ := (proper_dir_iff es).mp proper
  refine (proper_dir_iff _).mpr
    ⟨⟨setEntry_ascending name node ascending, fun k member => ?_⟩, fun k child found => ?_⟩
  · obtain rfl | earlier := (mem_keys_setEntry name node es k).mp member
    · exact isName
    · exact names k earlier
  · rw [lookup_setEntry] at found
    split at found
    · cases found
      exact properNode
    · exact children k child found

theorem Proper.put {root : Node} (proper : root.Proper) {parent : Place}
    (isDir : root.IsDirAt parent) {node : Node} {name : String} (properNode : node.Proper)
    (isName : IsName name) : (root.put (some node) (parent ++ [name])).Proper := by
  induction parent generalizing root with
  | nil =>
      obtain ⟨es, found⟩ := isDir
      obtain rfl : root = .dir es := Option.some.inj found
      exact proper.setEntry properNode isName
  | cons first parent ih =>
      obtain ⟨es, child, rfl, found, below⟩ := (isDirAt_cons_iff first parent).mp isDir
      obtain ⟨⟨-, names⟩, children⟩ := (proper_dir_iff es).mp proper
      rw [List.cons_append, put_cons _ found (by simp)]
      refine proper.setEntry (ih (children first child found) below) (names first ?_)
      exact List.mem_map.mpr ⟨_, mem_of_lookup_eq_some found, rfl⟩

end Node

end BuildScript
