import BuildScript.Proofs.FileSystem.Changes

/-!
# Recursive copies

A recursive copy touches nothing outside its target (`CopyOutcome.inside`), except that the target
and the directories above it are created first as far as they are missing. If source and target are
apart, then it touches only what has a counterpart in the source, and a copy that succeeds is
complete (`copyDirs_raised`). All this holds in whatever order the entries are listed.

The induction is on the levels that are left. At one level the entries are copied one by one, each
into a place of its own since their names are distinct, so what has been copied is not touched again
(`copyEntries_outcome`).

A copy comes to an end for any two paths, since the path of a copy grows with every level until it
is too long. One level is `copyLevel`, which does not say how the directories below are copied; the
bound on the levels is never reached, whatever would be done there (`iterate_copyLevel`).
-/

namespace BuildScript

open FileSystem (entryPath)
open Node (IsName)

namespace FileSystem

/-! ## Source and target -/

/-- Neither place is above the other, and they are not the same. -/
def Apart (p q : Place) : Prop := ¬ p <+: q ∧ ¬ q <+: p

instance (p q : Place) : Decidable (Apart p q) := inferInstanceAs (Decidable (_ ∧ _))

theorem Apart.append {p q : Place} (apart : Apart p q) (rest rest' : Place) :
    Apart (p ++ rest) (q ++ rest') := by
  refine ⟨fun above => ?_, fun above => ?_⟩
  · obtain left | right := List.prefix_or_prefix_of_prefix
      ((List.prefix_append p rest).trans above) (List.prefix_append q rest')
    · exact apart.1 left
    · exact apart.2 right
  · obtain left | right := List.prefix_or_prefix_of_prefix
      ((List.prefix_append q rest').trans above) (List.prefix_append p rest)
    · exact apart.2 left
    · exact apart.1 right

/-- The place corresponds to one below `source` where there is something. -/
def Counterpart (fs : FileSystem) (source target place : Place) : Prop :=
  ∃ rest, place = target ++ rest ∧ fs.root.get? (source ++ rest) ≠ none

/-- There is no device at the place or below it. -/
def NoDevice (fs : FileSystem) (place : Place) : Prop :=
  ∀ rest, fs.root.get? (place ++ rest) ≠ some .null

/-- All files and directories that were at `source` and below are also at `target` now. -/
structure Copied (fs : FileSystem) (source : Place) (fs' : FileSystem) (target : Place) : Prop where
  files : ∀ rest content x, fs.root.get? (source ++ rest) = some (.file content x) →
    fs'.root.get? (target ++ rest) = some (.file content x)
  dirs : ∀ rest, fs.root.IsDirAt (source ++ rest) → fs'.root.IsDirAt (target ++ rest)

/-- What a copy has done. -/
structure CopyOutcome (fs : FileSystem) (source target : Place)
    (outcome : Except Fault Unit × FileSystem) : Prop where
  inside : Changes (target <+: ·) fs outcome.2
  matching : Apart source target → Changes (Counterpart fs source target) fs outcome.2
  copied : Apart source target → outcome.1 = .ok () → NoDevice fs target →
    Copied fs source outcome.2 target

/-- What is apart from the target of a copy keeps even its entries. -/
theorem Changes.get?_apart {fs fs' : FileSystem} {source target : Place}
    (inside : Changes (target <+: ·) fs fs') (apart : Apart source target) (rest : Place) :
    fs'.root.get? (source ++ rest) = fs.root.get? (source ++ rest) := by
  refine inside.subtree _ fun t lower above => ?_
  obtain ⟨further, rfl⟩ := lower
  exact (apart.append rest further).1 above

theorem CopyOutcome.failed {fs : FileSystem} {source target : Place} (fault : Fault) :
    CopyOutcome fs source target (.error fault, fs) where
  inside := .refl _ _
  matching _ := .refl _ _
  copied _ done := by cases done

theorem NoDevice.of_changes {touched : Place → Prop} {fs fs' : FileSystem} {place : Place}
    (changes : Changes touched fs fs') (none : fs.NoDevice place) : fs'.NoDevice place :=
  fun rest device => none rest (changes.devices _ device)

theorem NoDevice.append {fs : FileSystem} {place : Place} (none : fs.NoDevice place)
    (below : Place) : fs.NoDevice (place ++ below) := by
  intro rest
  rw [List.append_assoc]
  exact none (below ++ rest)

/-! ## One entry -/

variable {order : ListingOrder}

/-- Copies an entry of a directory to below another. -/
def copyEntry (order : ListingOrder) (source target : String) (fuel : Nat)
    (entry : String × Node) : FileChange Fault Unit :=
  let inner := entryPath source entry.1
  let copy := entryPath target entry.1
  if entry.2.isDir then copyDirs order inner copy fuel
  else under s!"Failed to copy {inner}" (copyFile inner copy)

theorem copyDirs_succ (order : ListingOrder) (source target : String) (fuel : Nat) :
    copyDirs order source target (fuel + 1) = (do
      under s!"Failed to create {target}" (createDirs target)
      let entries ← (ask (order.list · source)).adapt fun e : FileError => Fault.ofMessage e.message
      entries.forM (copyEntry order source target fuel)) := rfl

/-- The entries of a listing are those of the directory to whose place the path leads. -/
theorem list_eq_ok {fs : FileSystem} {path : String} {es : List (String × Node)}
    (listed : fs.list path = .ok es) :
    fs.root.get? ((Route.ofText path).place fs.directory) = some (.dir es) := by
  unfold list at listed
  cases found : fs.find path with
  | error e =>
      rw [found] at listed
      cases listed
  | ok node =>
      rw [found] at listed
      cases node with
      | dir es' =>
          obtain rfl : es' = es := Except.ok.inj listed
          exact find_eq_ok found
      | file content executable => cases listed
      | shell => cases listed
      | null => cases listed

/-- However the entries are ordered, they are those of the directory. -/
theorem listed_eq_ok {fs : FileSystem} {path : String} {es : List (String × Node)}
    (listed : order.list fs path = .ok es) :
    ∃ stored, fs.root.get? ((Route.ofText path).place fs.directory) = some (.dir stored) ∧
      es.Perm stored := by
  unfold ListingOrder.list at listed
  cases kept : fs.list path with
  | error e =>
      rw [kept] at listed
      cases listed
  | ok stored =>
      rw [kept] at listed
      obtain rfl := Except.ok.inj listed
      exact ⟨stored, list_eq_ok kept, order.perm fs path stored⟩

/-- What copying below a directory comes to, after the directory has been created. -/
def copyBelow (order : ListingOrder) (source target : String) (fuel : Nat) :
    FileChange Fault Unit := do
  let entries ← (ask (order.list · source)).adapt fun e : FileError => Fault.ofMessage e.message
  entries.forM (copyEntry order source target fuel)

/-- A copy creates the target, and without it does nothing else. -/
theorem copyDirs_succ_cases (order : ListingOrder) (fs : FileSystem) (source target : String)
    (fuel : Nat) :
    (∃ e fault, (exec (createDirs target) fs).1 = .error e ∧
        exec (copyDirs order source target (fuel + 1)) fs =
          (.error fault, (exec (createDirs target) fs).2)) ∨
      (exec (createDirs target) fs).1 = .ok () ∧
        exec (copyDirs order source target (fuel + 1)) fs =
          exec (copyBelow order source target fuel) (exec (createDirs target) fs).2 := by
  rw [copyDirs_succ, exec_bind, under, exec_adapt]
  obtain ⟨created, fs'⟩ := exec (createDirs target) fs
  cases created with
  | error e => exact .inl ⟨e, _, rfl, rfl⟩
  | ok done => exact .inr ⟨rfl, rfl⟩

/-- Copying below a directory copies the entries that it has then, in some order. -/
theorem copyBelow_cases (order : ListingOrder) (fs : FileSystem) (source target : String)
    (fuel : Nat) :
    (∃ fault, exec (copyBelow order source target fuel) fs = (.error fault, fs)) ∨
      ∃ es stored : List (String × Node),
        fs.root.get? ((Route.ofText source).place fs.directory) = some (.dir stored) ∧
        es.Perm stored ∧ exec (copyBelow order source target fuel) fs =
          exec (es.forM (copyEntry order source target fuel)) fs := by
  rw [copyBelow, exec_bind, exec_adapt, exec_ask]
  cases listed : order.list fs source with
  | error e => exact .inl ⟨_, rfl⟩
  | ok es =>
      obtain ⟨stored, found, perm⟩ := listed_eq_ok listed
      exact .inr ⟨es, stored, found, perm, rfl⟩

/-- What the copy of one entry of a directory has done. -/
structure EntryOutcome (fs : FileSystem) (source target : Place) (entry : String × Node)
    (outcome : Except Fault Unit × FileSystem) : Prop where
  inside : Changes (target ++ [entry.1] <+: ·) fs outcome.2
  matching : Apart source target → fs.root.get? (source ++ [entry.1]) = some entry.2 →
    Changes (Counterpart fs (source ++ [entry.1]) (target ++ [entry.1])) fs outcome.2
  copied : Apart source target → fs.root.get? (source ++ [entry.1]) = some entry.2 →
    outcome.1 = .ok () → NoDevice fs (target ++ [entry.1]) →
    Copied fs (source ++ [entry.1]) outcome.2 (target ++ [entry.1])

/-- With so many levels left, single entries are copied as they should be. -/
def CopiesEntries (order : ListingOrder) (fuel : Nat) : Prop :=
  ∀ (fs : FileSystem) (source target : String) (entry : String × Node) (goal : Place),
    fs.Proper → fs.LeadsTo (Route.ofText target) goal → IsName entry.1 →
    EntryOutcome fs ((Route.ofText source).place fs.directory) goal entry
      (exec (copyEntry order source target fuel entry) fs)

/-! ## The entries of a directory -/

section

variable {fs fs₁ fs₂ : FileSystem} {source target : Place}

theorem Copied.of_source (copied : Copied fs₁ source fs₂ target)
    (same : ∀ rest, fs₁.root.get? (source ++ rest) = fs.root.get? (source ++ rest)) :
    Copied fs source fs₂ target where
  files rest content x found := copied.files rest content x ((same rest).trans found)
  dirs rest isDir := by
    obtain ⟨es, found⟩ := isDir
    exact copied.dirs rest ⟨es, (same rest).trans found⟩

/-- What was there before a growth has been copied if what is there after it has. -/
theorem Copied.of_grows (copied : Copied fs₁ source fs₂ target) (grows : Grows fs fs₁) :
    Copied fs source fs₂ target where
  files rest content x found := by
    refine copied.files rest content x (grows.get?_leaf ?_ rfl found)
    exact fun free => by cases free.symm.trans found
  dirs rest isDir := copied.dirs rest (grows.dirs _ isDir)

/-- What has been copied stays, if what is changed later is elsewhere. -/
theorem Copied.stays (copied : Copied fs source fs₁ target) {touched : Place → Prop}
    (changes : Changes touched fs₁ fs₂) (elsewhere : ∀ place, touched place → ¬ target <+: place) :
    Copied fs source fs₂ target where
  files rest content x found := by
    have there := copied.files rest content x found
    exact changes.get?_leaf (fun here => elsewhere _ here ⟨rest, rfl⟩) rfl there
  dirs rest isDir := changes.dirs _ (copied.dirs rest isDir)

theorem Counterpart.of_source {place : Place} (counterpart : Counterpart fs₁ source target place)
    (same : ∀ rest, fs₁.root.get? (source ++ rest) = fs.root.get? (source ++ rest)) :
    Counterpart fs source target place := by
  obtain ⟨rest, here, taken⟩ := counterpart
  exact ⟨rest, here, (same rest) ▸ taken⟩

/-- Below different entries there are different places. -/
theorem not_prefix_of_ne {place : Place} {name other : String} (different : other ≠ name)
    (rest : Place) : ¬ place ++ [name] <+: place ++ [other] ++ rest := by
  rw [List.append_assoc, List.prefix_append_right_inj, List.singleton_append]
  intro above
  exact different (List.cons_prefix_cons.mp above).1.symm

end

theorem exec_forM_cons (step : String × Node → FileChange Fault Unit) (entry : String × Node)
    (es : List (String × Node)) (fs : FileSystem) :
    exec ((entry :: es).forM step) fs = resume (fun _ => es.forM step) (exec (step entry) fs) := by
  rw [← exec_bind]
  rfl

/-- What the copies of some entries of a directory have done. -/
structure EntriesOutcome (fs : FileSystem) (source target : Place) (es : List (String × Node))
    (outcome : Except Fault Unit × FileSystem) : Prop where
  inside : Changes (target <+: ·) fs outcome.2
  matching : Apart source target →
    (∀ entry ∈ es, fs.root.get? (source ++ [entry.1]) = some entry.2) →
    Changes (fun place => ∃ entry ∈ es,
      Counterpart fs (source ++ [entry.1]) (target ++ [entry.1]) place) fs outcome.2
  copied : Apart source target →
    (∀ entry ∈ es, fs.root.get? (source ++ [entry.1]) = some entry.2) →
    outcome.1 = .ok () → NoDevice fs target →
    ∀ entry ∈ es, Copied fs (source ++ [entry.1]) outcome.2 (target ++ [entry.1])

section

variable {fs fs₁ : FileSystem} {source target : Place} {entry : String × Node}
  {es : List (String × Node)} {outcome : Except Fault Unit × FileSystem}

theorem EntriesOutcome.nil : EntriesOutcome fs source target [] (.ok (), fs) where
  inside := .refl _ _
  matching _ _ := .refl _ _
  copied _ _ _ _ := List.forall_mem_nil _

theorem EntryOutcome.within (first : EntryOutcome fs source target entry outcome) :
    Changes (target <+: ·) fs outcome.2 :=
  first.inside.mono fun _ below => (List.prefix_append _ _).trans below

/-- After an entry that could not be copied, the others are left out. -/
theorem EntryOutcome.failed {fault : Fault}
    (first : EntryOutcome fs source target entry (.error fault, fs₁)) :
    EntriesOutcome fs source target (entry :: es) (.error fault, fs₁) where
  inside := first.within
  matching apart listed := by
    refine (first.matching apart (listed entry List.mem_cons_self)).mono fun place counterpart => ?_
    exact ⟨entry, List.mem_cons_self, counterpart⟩
  copied _ _ done := by cases done

/-- After an entry that was copied, the others are copied as if there had been no change. -/
theorem EntryOutcome.followed (first : EntryOutcome fs source target entry (.ok (), fs₁))
    (later : EntriesOutcome fs₁ source target es outcome) (fresh : entry.1 ∉ es.map Prod.fst) :
    EntriesOutcome fs source target (entry :: es) outcome := by
  -- The source is as it was, so the entries that are left are those of before.
  have same : Apart source target → ∀ name rest, fs₁.root.get? (source ++ [name] ++ rest) =
      fs.root.get? (source ++ [name] ++ rest) := by
    intro apart name rest
    rw [List.append_assoc]
    exact first.within.get?_apart apart _
  have listedLater : Apart source target →
      (∀ other ∈ entry :: es, fs.root.get? (source ++ [other.1]) = some other.2) →
        ∀ other ∈ es, fs₁.root.get? (source ++ [other.1]) = some other.2 := by
    intro apart listed other member
    rw [← listed other (List.mem_cons_of_mem _ member)]
    simpa using same apart other.1 []
  refine ⟨first.within.trans later.inside, fun apart listed => ?_,
    fun apart listed done noDevice => ?_⟩
  · have here := first.matching apart (listed entry List.mem_cons_self)
    refine Changes.trans (here.mono fun place counterpart =>
      ⟨entry, List.mem_cons_self, counterpart⟩) ?_
    refine (later.matching apart (listedLater apart listed)).mono ?_
    rintro place ⟨other, member, counterpart⟩
    exact ⟨other, List.mem_cons_of_mem _ member, counterpart.of_source (same apart other.1)⟩
  · refine List.forall_mem_cons.mpr ⟨?_, fun other member => ?_⟩
    · have here := first.copied apart (listed entry List.mem_cons_self) rfl (noDevice.append _)
      refine here.stays (later.matching apart (listedLater apart listed)) ?_
      rintro place ⟨other, member, rest, rfl, -⟩
      have different : other.1 ≠ entry.1 := fun equal =>
        fresh (equal ▸ List.mem_map_of_mem member)
      exact not_prefix_of_ne different rest
    · exact (later.copied apart (listedLater apart listed) done (noDevice.of_changes first.within)
        other member).of_source (same apart other.1)

end

/-- The entries are copied one after the other, each into a place of its own. -/
theorem copyEntries_outcome {fuel : Nat} (each : CopiesEntries order fuel) {source target : String}
    {goal : Place} {es : List (String × Node)} (distinct : (es.map Prod.fst).Nodup)
    (names : ∀ name ∈ es.map Prod.fst, IsName name) {fs : FileSystem} (proper : fs.Proper)
    (leads : fs.LeadsTo (Route.ofText target) goal) :
    EntriesOutcome fs ((Route.ofText source).place fs.directory) goal es
      (exec (es.forM (copyEntry order source target fuel)) fs) := by
  induction es generalizing fs with
  | nil => exact .nil
  | cons entry es ih =>
      obtain ⟨fresh, distinct⟩ := List.nodup_cons.mp distinct
      obtain ⟨isName, names⟩ := List.forall_mem_cons.mp names
      have first := each fs source target entry goal proper leads isName
      rw [exec_forM_cons]
      generalize exec (copyEntry order source target fuel entry) fs = copied at first ⊢
      obtain ⟨result, fs₁⟩ := copied
      cases result with
      | error fault => exact first.failed
      | ok done =>
          have within := first.within
          have later := ih distinct names (within.keepsProper proper) (within.leadsTo leads)
          rw [within.directory] at later
          exact first.followed later fresh

/-! ## Below a directory -/

/-- A directory is copied if its entries are. -/
theorem Copied.of_entries {fs fs' : FileSystem} {source target : Place} {es : List (String × Node)}
    (found : fs.root.get? source = some (.dir es)) (isDir : fs'.root.IsDirAt target)
    (each : ∀ entry ∈ es, Copied fs (source ++ [entry.1]) fs' (target ++ [entry.1])) :
    Copied fs source fs' target := by
  have copied : ∀ name rest node, fs.root.get? (source ++ name :: rest) = some node →
      Copied fs (source ++ [name]) fs' (target ++ [name]) := by
    intro name rest node below
    rw [List.append_cons, Node.get?_append, Node.get?_concat found,
      Option.bind_eq_some_iff] at below
    obtain ⟨child, here, -⟩ := below
    exact each _ (Node.mem_of_lookup_eq_some here)
  refine ⟨fun rest content x here => ?_, fun rest here => ?_⟩
  · cases rest with
    | nil =>
        rw [List.append_nil, found] at here
        cases here
    | cons name rest =>
        simpa using (copied name rest _ here).files rest content x (by simpa using here)
  · cases rest with
    | nil => simpa using isDir
    | cons name rest =>
        obtain ⟨inner, there⟩ := here
        simpa using (copied name rest _ there).dirs rest ⟨inner, by simpa using there⟩

/-- Copying below a directory that has been created. -/
theorem copyBelow_outcome {fuel : Nat} (each : CopiesEntries order fuel) {fs : FileSystem}
    (proper : fs.Proper) (source : String) {target : String} {goal : Place}
    (leads : fs.LeadsTo (Route.ofText target) goal) :
    CopyOutcome fs ((Route.ofText source).place fs.directory) goal
      (exec (copyBelow order source target fuel) fs) := by
  obtain ⟨fault, failed⟩ | ⟨es, stored, found, perm, copied⟩ :=
    copyBelow_cases order fs source target fuel
  · rw [failed]
    exact .failed fault
  · obtain ⟨ascending, names⟩ := proper.root _ stored found
    have sameNames := perm.map Prod.fst
    have distinct : (es.map Prod.fst).Nodup :=
      sameNames.nodup_iff.mpr (ascending.imp fun before => before.ne)
    have names : ∀ name ∈ es.map Prod.fst, IsName name :=
      fun name member => names name (sameNames.mem_iff.mp member)
    have entries : EntriesOutcome fs ((Route.ofText source).place fs.directory) goal es
        (exec (es.forM (copyEntry order source target fuel)) fs) :=
      copyEntries_outcome each distinct names proper leads
    rw [copied]
    have listed : ∀ entry ∈ es, fs.root.get?
        ((Route.ofText source).place fs.directory ++ [entry.1]) = some entry.2 := by
      intro entry member
      rw [Node.get?_concat found]
      exact Node.lookup_eq_some_of_mem ascending (perm.mem_iff.mp member)
    refine ⟨entries.inside, fun apart => ?_, fun apart done noDevice => ?_⟩
    · refine (entries.matching apart listed).mono ?_
      rintro place ⟨entry, -, rest, rfl, taken⟩
      exact ⟨entry.1 :: rest, by simp, by simpa using taken⟩
    · exact .of_entries found (entries.inside.dirs goal leads.2) fun entry member =>
        entries.copied apart listed done noDevice entry (perm.mem_iff.mpr member)

/-! ## All levels -/

/-- A file is copied at once. -/
theorem copyEntry_file (fuel : Nat) {fs : FileSystem} (source : String) {target : String}
    {entry : String × Node} {goal : Place} (leads : fs.LeadsTo (Route.ofText target) goal)
    (isName : IsName entry.1) (leaf : entry.2.isDir = false) :
    EntryOutcome fs ((Route.ofText source).place fs.directory) goal entry
      (exec (copyEntry order source target fuel entry) fs) := by
  obtain ⟨name, node⟩ := entry
  obtain ⟨changes, complete⟩ := copyFile_entry leads isName (entryPath source name)
  rw [Route.place_entryPath _ _ isName] at complete
  have unfolded : exec (copyEntry order source target fuel (name, node)) fs =
      exec (under s!"Failed to copy {entryPath source name}"
        (copyFile (entryPath source name) (entryPath target name))) fs := by
    simp only [copyEntry, leaf]
    rfl
  have noDir : fs.root.get? ((Route.ofText source).place fs.directory ++ [name]) = some node →
      ¬ fs.root.IsDirAt ((Route.ofText source).place fs.directory ++ [name]) := by
    rintro here ⟨es, found⟩
    obtain rfl := Option.some.inj (here.symm.trans found)
    cases leaf
  rw [unfolded, under, exec_adapt]
  refine ⟨changes.mono ?_, fun apart here => changes.mono ?_,
    fun apart here done noDevice => ⟨?_, ?_⟩⟩
  · rintro place rfl
    exact List.prefix_refl _
  · rintro place rfl
    exact ⟨[], by simp, by simp [here]⟩
  · intro rest content x found
    cases rest with
    | nil =>
        have apart' := (apart.append [name] [name]).1
        have same : node = .file content x :=
          Option.some.inj (here.symm.trans (by simpa using found))
        have copied : (exec (copyFile (entryPath source name) (entryPath target name)) fs).1 =
            .ok () := by
          generalize exec (copyFile (entryPath source name) (entryPath target name)) fs = result
            at *
          obtain ⟨result, fs'⟩ := result
          cases result with
          | ok done => rfl
          | error e => cases done
        have there := complete copied (by simpa using noDevice [])
          (fun equal => apart' (equal ▸ List.prefix_refl _)) content x (same ▸ here)
        simpa using there
    | cons next rest => exact absurd (Node.isDirAt_of_get?_append found) (noDir here)
  · intro rest isDir
    exact absurd (Node.isDirAt_of_isDirAt_append isDir) (noDir here)

/-- A directory is created and then copied into. -/
theorem copyEntry_dir {fuel : Nat} (each : CopiesEntries order fuel) {fs : FileSystem}
    (proper : fs.Proper) (source : String) {target : String} {entry : String × Node} {goal : Place}
    (leads : fs.LeadsTo (Route.ofText target) goal) (isName : IsName entry.1)
    (isDir : entry.2.isDir = true) :
    EntryOutcome fs ((Route.ofText source).place fs.directory) goal entry
      (exec (copyEntry order source target (fuel + 1) entry) fs) := by
  obtain ⟨name, node⟩ := entry
  have unfolded : exec (copyEntry order source target (fuel + 1) (name, node)) fs =
      exec (copyDirs order (entryPath source name) (entryPath target name) (fuel + 1)) fs := by
    simp only [copyEntry, isDir]
    rfl
  obtain ⟨creating, created⟩ := createDirs_entry proper leads isName
  have under : Changes (goal ++ [name] <+: ·) fs
      (exec (createDirs (entryPath target name)) fs).2 := by
    refine creating.mono ?_
    rintro place rfl
    exact List.prefix_refl _
  have matching : fs.root.get? ((Route.ofText source).place fs.directory ++ [name]) = some node →
      ∀ place, place = goal ++ [name] → Counterpart fs
        ((Route.ofText source).place fs.directory ++ [name]) (goal ++ [name]) place := by
    rintro here place rfl
    exact ⟨[], by simp, by simp [here]⟩
  rw [unfolded]
  obtain ⟨e, fault, -, failed⟩ | ⟨done, copied⟩ := copyDirs_succ_cases order fs
    (entryPath source name) (entryPath target name) fuel
  · rw [failed]
    exact ⟨under, fun _ here => creating.mono (matching here), fun _ _ done => by cases done⟩
  · rw [copied]
    have below := copyBelow_outcome each (creating.keepsProper proper) (entryPath source name)
      (created done)
    rw [creating.directory, Route.place_entryPath _ _ isName] at below
    have same := fun apart : Apart ((Route.ofText source).place fs.directory) goal =>
      under.get?_apart (apart.append [name] [name])
    refine ⟨under.trans below.inside, fun apart here => ?_, fun apart here done noDevice => ?_⟩
    · refine (creating.mono (matching here)).trans ?_
      refine (below.matching (apart.append _ _)).mono fun place counterpart => ?_
      exact counterpart.of_source (same apart)
    · refine (below.copied (apart.append _ _) done ?_).of_source (same apart)
      exact noDevice.of_changes creating

theorem copiesEntries (order : ListingOrder) (fuel : Nat) : CopiesEntries order fuel := by
  -- The induction is on the levels that are left.
  induction fuel with
  | zero =>
      intro fs source target entry goal proper leads isName
      cases isDir : entry.2.isDir with
      | false => exact copyEntry_file 0 source leads isName isDir
      | true =>
          have unfolded : exec (copyEntry order source target 0 entry) fs =
              (.error (.ofMessage FileError.nameTooLong.message), fs) := by
            simp only [copyEntry, isDir]
            rfl
          rw [unfolded]
          exact ⟨.refl _ _, fun _ _ => .refl _ _, fun _ _ done => by cases done⟩
  | succ fuel ih =>
      intro fs source target entry goal proper leads isName
      cases isDir : entry.2.isDir with
      | false => exact copyEntry_file (fuel + 1) source leads isName isDir
      | true => exact copyEntry_dir ih proper source leads isName isDir

/-- A recursive copy creates its target and the directories above it, as far as they are missing,
and then copies into the target. -/
theorem copyDirs_raised {fs : FileSystem} (proper : fs.Proper) (order : ListingOrder)
    (source target : String) (fuel : Nat) :
    ∃ grown, Raised (Route.ofText target :: (Route.ofText target).ancestors) fs grown ∧
      CopyOutcome grown ((Route.ofText source).place fs.directory)
        ((Route.ofText target).place fs.directory)
        (exec (copyDirs order source target fuel) fs) := by
  cases fuel with
  | zero => exact ⟨fs, .refl _ _, .failed _⟩
  | succ fuel =>
      have raised := createDirs_raised proper target
      obtain ⟨-, created⟩ := createDirs_exec proper target
      obtain ⟨e, fault, -, failed⟩ | ⟨done, copied⟩ :=
        copyDirs_succ_cases order fs source target fuel
      · rw [failed]
        exact ⟨_, raised, .failed fault⟩
      · obtain ⟨goal, leads⟩ := created done
        have below := copyBelow_outcome (copiesEntries order fuel)
          (raised.changes.keepsProper proper) source leads
        rw [leads.place_eq, raised.changes.directory] at below
        rw [copied]
        exact ⟨_, raised, below⟩

theorem copyDirs_outcome {fs : FileSystem} (proper : fs.Proper) (order : ListingOrder)
    (source target : String) (fuel : Nat) :
    ∃ grown, Grows fs grown ∧
      CopyOutcome grown ((Route.ofText source).place fs.directory)
        ((Route.ofText target).place fs.directory)
        (exec (copyDirs order source target fuel) fs) := by
  obtain ⟨grown, raised, outcome⟩ := copyDirs_raised proper order source target fuel
  exact ⟨grown, raised.grows, outcome⟩

/-! ## The end of a copy -/

/-- Two loops over the same entries agree if their steps do and keep what the steps need. -/
theorem exec_forM_congr (inv : FileSystem → Prop)
    {step step' : String × Node → FileChange Fault Unit} {es : List (String × Node)}
    (agree : ∀ entry ∈ es, ∀ fs, inv fs →
      exec (step entry) fs = exec (step' entry) fs ∧ inv (exec (step' entry) fs).2)
    {fs : FileSystem} (holds : inv fs) : exec (es.forM step) fs = exec (es.forM step') fs := by
  induction es generalizing fs with
  | nil => rfl
  | cons entry es ih =>
      obtain ⟨here, below⟩ := List.forall_mem_cons.mp agree
      obtain ⟨same, kept⟩ := here fs holds
      rw [exec_forM_cons, exec_forM_cons, same]
      generalize exec (step' entry) fs = outcome at kept ⊢
      obtain ⟨result, fs'⟩ := outcome
      cases result with
      | error fault => rfl
      | ok done => exact ih below kept

/-- One level of a copy; the directories below are copied by `below`. -/
def copyLevel (order : ListingOrder) (below : String → String → FileChange Fault Unit)
    (source target : String) : FileChange Fault Unit := do
  under s!"Failed to create {target}" (createDirs target)
  let entries ← (ask (order.list · source)).adapt fun e : FileError => Fault.ofMessage e.message
  entries.forM fun (name, node) =>
    let inner := entryPath source name
    let copy := entryPath target name
    if node.isDir then below inner copy
    else under s!"Failed to copy {inner}" (copyFile inner copy)

/-- What is done when the levels run out. -/
def copyNoFurther (_ _ : String) : FileChange Fault Unit :=
  throw (.ofMessage FileError.nameTooLong.message)

theorem copyDirs_eq_iterate (order : ListingOrder) (source target : String) (fuel : Nat) :
    copyDirs order source target fuel = (copyLevel order)^[fuel] copyNoFurther source target := by
  induction fuel generalizing source target with
  | zero => rfl
  | succ fuel ih =>
      rw [Function.iterate_succ_apply', ← funext fun source => funext (ih source)]
      rfl

/-- A level of a copy agrees with another if the copies of the directories below agree. -/
theorem copyLevel_congr {fs : FileSystem} (proper : fs.Proper) (source target : String)
    {fuel : Nat} {below : String → String → FileChange Fault Unit}
    (agree : target.utf8ByteSize < Route.maxPath → ∀ name, IsName name →
      ∀ fs : FileSystem, fs.Proper →
        exec (below (entryPath source name) (entryPath target name)) fs =
          exec (copyDirs order (entryPath source name) (entryPath target name) fuel) fs) :
    exec (copyLevel order below source target) fs =
      exec (copyDirs order source target (fuel + 1)) fs := by
  rw [copyLevel, copyDirs_succ, exec_bind, exec_bind, under, exec_adapt]
  obtain ⟨grows, created⟩ := createDirs_exec proper target
  have short : (exec (createDirs target) fs).1 = .ok () → target.utf8ByteSize < Route.maxPath :=
    createDirs_ok_size
  generalize exec (createDirs target) fs = outcome at grows created short ⊢
  obtain ⟨result, fs₁⟩ := outcome
  cases result with
  | error e => rfl
  | ok done =>
      obtain ⟨goal, leads⟩ := created rfl
      have proper₁ : fs₁.Proper := grows.keepsProper proper
      simp only [Except.mapError, resume_ok, exec_bind, exec_adapt, exec_ask]
      cases listed : order.list fs₁ source with
      | error e => rfl
      | ok es =>
          obtain ⟨stored, found, perm⟩ := listed_eq_ok listed
          obtain ⟨-, names⟩ := proper₁.root _ stored found
          refine exec_forM_congr (fun fs => fs.Proper ∧ fs.LeadsTo (Route.ofText target) goal)
            (fun entry member fs ⟨proper, leads⟩ => ?_) ⟨proper₁, leads⟩
          have isName := names entry.1 (List.mem_map_of_mem (perm.mem_iff.mp member))
          have outcome := copiesEntries order fuel fs source target entry goal proper leads isName
          have inside := outcome.inside
          refine ⟨?_, inside.keepsProper proper, inside.leadsTo leads⟩
          cases isDir : entry.2.isDir with
          | false => simp only [copyEntry, isDir]; rfl
          | true =>
              simp only [copyEntry, isDir, if_true]
              exact agree (short rfl) entry.1 isName fs proper

/-- Below a target whose path is long enough the levels do not run out. -/
theorem iterate_copyLevel_of_endsWithName {source target : String} (ends : EndsWithName target)
    {fuel : Nat} (enough : Route.maxPath ≤ target.utf8ByteSize + 2 * fuel)
    (below : String → String → FileChange Fault Unit) {fs : FileSystem} (proper : fs.Proper) :
    exec ((copyLevel order)^[fuel + 1] below source target) fs =
      exec (copyDirs order source target (fuel + 1)) fs := by
  -- The path of a copy is at least two bytes longer than that of its directory.
  induction fuel generalizing source target fs with
  | zero =>
      refine copyLevel_congr proper source target fun short => ?_
      omega
  | succ fuel ih =>
      rw [Function.iterate_succ_apply']
      refine copyLevel_congr proper source target fun _ name isName fs proper => ?_
      have longer := size_entryPath_of_endsWithName ends isName
      exact ih (endsWithName_entryPath target isName) (by omega) proper

/-- A copy comes to its end before the levels run out: what would be done then is never done. -/
theorem iterate_copyLevel {fs : FileSystem} (proper : fs.Proper) (order : ListingOrder)
    (source target : String) (below : String → String → FileChange Fault Unit) :
    exec ((copyLevel order)^[Route.maxPath] below source target) fs =
      exec (copyDirs order source target Route.maxPath) fs := by
  have levels : Route.maxPath = 4094 + 1 + 1 := rfl
  rw [levels, Function.iterate_succ_apply']
  refine copyLevel_congr proper source target fun _ name isName fs proper => ?_
  refine iterate_copyLevel_of_endsWithName (endsWithName_entryPath target isName) ?_ below proper
  omega

/-- More levels than these make no difference. -/
theorem copyDirs_maxPath {fs : FileSystem} (proper : fs.Proper) (order : ListingOrder)
    (source target : String) (more : Nat) :
    exec (copyDirs order source target (Route.maxPath + more)) fs =
      exec (copyDirs order source target Route.maxPath) fs := by
  rw [copyDirs_eq_iterate, Function.iterate_add_apply]
  exact iterate_copyLevel proper order source target _

end FileSystem

end BuildScript
