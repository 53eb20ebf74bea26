import BuildScript.Proofs.FileSystem.Routes

/-!
# What a change touches

`Changes touched fs fs'` says that a file system has come from another by changes at the places of
`touched` and nowhere else. Directories stay directories whatever is touched, no device appears, and
a proper tree stays proper. Changes one after the other touch what either touches (`Changes.trans`),
and a single file or empty directory is put at its own place (`Changes.ofPut`).

`exec` carries a `FileChange` out. Each operation that creates a directory or writes a file has one
lemma here that says what it touches and, if it succeeds, what it leaves (`createDirs_exec`,
`createDirs_entry`, `copyFile_entry`). Where a directory and those above it are created, all that is
new are directories at ends of these routes (`createDirs_raised`).
-/

namespace BuildScript

open FileSystem (entryPath)
open Node (IsName)

namespace FileSystem

variable {ε ε' α β : Type}

/-! ## Carrying a change out -/

/-- What a change comes to, and the file system that it leaves. -/
def exec (change : FileChange ε α) (fs : FileSystem) : Except ε α × FileSystem :=
  change.run.run fs

/-- Goes on after a change: its error stands, and its result is passed on. -/
def resume (next : α → FileChange ε β) :
    Except ε α × FileSystem → Except ε β × FileSystem
  | (.ok a, fs) => exec (next a) fs
  | (.error e, fs) => (.error e, fs)

@[simp] theorem resume_ok (next : α → FileChange ε β) (a : α) (fs : FileSystem) :
    resume next (.ok a, fs) = exec (next a) fs := rfl

@[simp] theorem exec_throw (e : ε) (fs : FileSystem) :
    exec (throw e : FileChange ε α) fs = (.error e, fs) := rfl

theorem exec_bind (change : FileChange ε α) (next : α → FileChange ε β) (fs : FileSystem) :
    exec (change >>= next) fs = resume next (exec change fs) := by
  simp only [exec, ExceptT.run_bind, StateT.run_bind]
  rcases change.run.run fs with ⟨_ | _, _⟩ <;> rfl

@[simp] theorem exec_get (fs : FileSystem) :
    exec (get : FileChange ε FileSystem) fs = (.ok fs, fs) := rfl

@[simp] theorem exec_modify (f : FileSystem → FileSystem) (fs : FileSystem) :
    exec (modify f : FileChange ε PUnit) fs = (.ok (), f fs) := rfl

theorem exec_tryCatch (change : FileChange ε α) (rescue : ε → FileChange ε α) (fs : FileSystem) :
    exec (tryCatch change rescue) fs =
      match exec change fs with
      | (.ok a, fs) => (.ok a, fs)
      | (.error e, fs) => exec (rescue e) fs := by
  simp only [exec, ExceptT.run, tryCatch, tryCatchThe, MonadExceptOf.tryCatch, ExceptT.tryCatch,
    ExceptT.mk, StateT.run_bind]
  rcases StateT.run change fs with ⟨_ | _, _⟩ <;> rfl

theorem exec_ask (question : FileSystem → Except ε α) (fs : FileSystem) :
    exec (ask question) fs = (question fs, fs) := by
  simp only [ask, exec_bind, exec_get, resume_ok]
  cases question fs <;> rfl

theorem exec_adapt (change : FileChange ε α) (f : ε → ε') (fs : FileSystem) :
    exec (change.adapt f : FileChange ε' α) fs =
      ((exec change fs).1.mapError f, (exec change fs).2) := rfl

/-! ## Frames -/

/-- The second file system differs from the first at places of `touched` only. A directory may get
entries there, but it stays a directory. -/
structure Changes (touched : Place → Prop) (fs fs' : FileSystem) : Prop where
  directory : fs'.directory = fs.directory
  face : ∀ place, ¬ touched place → fs'.root.faceAt place = fs.root.faceAt place
  /-- Above no touched place even the entries are the same. -/
  subtree : ∀ place, (∀ t, touched t → ¬ place <+: t) → fs'.root.get? place = fs.root.get? place
  dirs : ∀ place, fs.root.IsDirAt place → fs'.root.IsDirAt place
  devices : ∀ place, fs'.root.get? place = some .null → fs.root.get? place = some .null
  proper : fs.root.Proper → fs'.root.Proper

/-- A proper tree, and a current directory in it. -/
structure Proper (fs : FileSystem) : Prop where
  root : fs.root.Proper
  directory : fs.root.IsDirAt fs.directory

namespace Changes

variable {touched touched' : Place → Prop} {fs fs₁ fs₂ : FileSystem}

theorem refl (touched : Place → Prop) (fs : FileSystem) : Changes touched fs fs :=
  ⟨rfl, fun _ _ => rfl, fun _ _ => rfl, fun _ => id, fun _ => id, id⟩

theorem trans (first : Changes touched fs fs₁) (second : Changes touched fs₁ fs₂) :
    Changes touched fs fs₂ where
  directory := second.directory.trans first.directory
  face place untouched := (second.face place untouched).trans (first.face place untouched)
  subtree place above := (second.subtree place above).trans (first.subtree place above)
  dirs place isDir := second.dirs place (first.dirs place isDir)
  devices place device := first.devices place (second.devices place device)
  proper proper := second.proper (first.proper proper)

theorem mono (changes : Changes touched fs fs₁) (more : ∀ place, touched place → touched' place) :
    Changes touched' fs fs₁ :=
  { changes with
    face := fun place untouched => changes.face place fun here => untouched (more place here)
    subtree := fun place above => changes.subtree place fun t here => above t (more t here) }

theorem keepsProper (changes : Changes touched fs fs₁) (proper : fs.Proper) : fs₁.Proper where
  root := changes.proper proper.root
  directory := changes.directory ▸ changes.dirs _ proper.directory

/-- A file that is not touched keeps its content. -/
theorem get?_leaf (changes : Changes touched fs fs₁) {place : Place} {node : Node}
    (untouched : ¬ touched place) (leaf : node.isDir = false)
    (found : fs.root.get? place = some node) : fs₁.root.get? place = some node := by
  rw [← Node.faceAt_eq_some_iff leaf] at found ⊢
  rw [changes.face place untouched, found]

/-- A file or an empty directory is put into a directory, in the place of a file or of nothing. -/
theorem ofPut {parent : Place} (isDir : fs.root.IsDirAt parent) {name : String}
    (isName : IsName name) (replaced : ¬ fs.root.IsDirAt (parent ++ [name])) {node : Node}
    (empty : node.entries = []) (noDevice : node ≠ .null) :
    Changes (· = parent ++ [name]) fs (fs.put (parent ++ [name]) (some node)) := by
  -- Nothing is below the place, before or after.
  have below : ∀ place, parent ++ [name] <+: place → place ≠ parent ++ [name] →
      fs.root.get? place = none ∧
        (fs.root.put (some node) (parent ++ [name])).get? place = none := by
    rintro place ⟨rest, rfl⟩ other
    cases rest with
    | nil => exact absurd (List.append_nil _) other
    | cons next rest =>
        refine ⟨?_, ?_⟩
        · refine Option.eq_none_iff_forall_ne_some.mpr fun found here => replaced ?_
          exact Node.isDirAt_of_get?_append here
        · rw [List.append_assoc, List.singleton_append, Node.get?_put_below node name isDir,
            Node.get?_cons, empty]
          rfl
  have face : ∀ place, ¬ place = parent ++ [name] →
      (fs.root.put (some node) (parent ++ [name])).faceAt place = fs.root.faceAt place := by
    intro place other
    by_cases lower : parent ++ [name] <+: place
    · obtain ⟨before, after⟩ := below place lower other
      rw [Node.faceAt, Node.faceAt, before, after]
    · exact Node.faceAt_put node name isDir lower
  refine ⟨rfl, face, fun place above => ?_, fun place isDirAt => ?_, fun place device => ?_,
    fun proper => ?_⟩
  · by_cases lower : parent ++ [name] <+: place
    · have other : place ≠ parent ++ [name] := by
        rintro rfl
        exact above _ rfl (List.prefix_refl _)
      obtain ⟨before, after⟩ := below place lower other
      exact after.trans before.symm
    · exact Node.get?_put_of_apart node name isDir (above _ rfl) lower
  · have other : place ≠ parent ++ [name] := by
      rintro rfl
      exact replaced isDirAt
    rw [← Node.faceAt_eq_dir_iff] at isDirAt ⊢
    exact (face place other).trans isDirAt
  · by_cases here : place = parent ++ [name]
    · subst here
      have found := Node.get?_put_below node name isDir []
      cases found.symm.trans device
      exact absurd rfl noDevice
    · rw [← Node.faceAt_eq_some_iff rfl] at device ⊢
      exact (face place here).symm.trans device
  · refine proper.put isDir ?_ isName
    cases node with
    | dir es =>
        obtain rfl : es = [] := empty
        exact Node.proper_emptyDir
    | file content executable => exact Node.proper_of_not_isDir rfl
    | shell => exact Node.proper_of_not_isDir rfl
    | null => exact Node.proper_of_not_isDir rfl

end Changes

/-- The second file system has grown from the first: only places are touched where there was
nothing. -/
def Grows (fs fs' : FileSystem) : Prop := Changes (fun place => fs.root.get? place = none) fs fs'

/-- What is free after a growth was free before it. -/
theorem Grows.free {fs fs' : FileSystem} (grows : Grows fs fs') {place : Place}
    (free : fs'.root.get? place = none) : fs.root.get? place = none := by
  by_contra taken
  have kept := grows.face place taken
  rw [Node.faceAt, free] at kept
  exact taken ((Node.faceAt_eq_none_iff _ _).mp kept.symm)

/-! ## Creating directories -/

/-- The route leads to the place, and there is a directory. -/
def LeadsTo (fs : FileSystem) (route : Route) (place : Place) : Prop :=
  route.follow fs.root fs.directory = .ok place ∧ fs.root.IsDirAt place

theorem LeadsTo.place_eq {fs : FileSystem} {route : Route} {place : Place}
    (leads : fs.LeadsTo route place) : place = route.place fs.directory :=
  Route.place_of_follow leads.1

theorem Changes.leadsTo {touched : Place → Prop} {fs fs' : FileSystem}
    (changes : Changes touched fs fs') {route : Route} {place : Place}
    (leads : fs.LeadsTo route place) : fs'.LeadsTo route place := by
  refine ⟨?_, changes.dirs place leads.2⟩
  rw [changes.directory]
  exact Route.follow_mono changes.dirs leads.1

theorem leadsToDir_iff (fs : FileSystem) (route : Route) :
    fs.leadsToDir route = true ↔ ∃ place, fs.LeadsTo route place := by
  unfold leadsToDir LeadsTo
  cases route.follow fs.root fs.directory with
  | error e => simp
  | ok place =>
      cases found : fs.root.get? place with
      | none => simp [Node.IsDirAt, found]
      | some node =>
          have isDir := Node.isDir_iff node
          simp [Node.IsDirAt, found, isDir]

/-- A new directory at the end of a route, with the place for it. -/
inductive Created (fs : FileSystem) (route : Route) : FileSystem → Prop
  | intro (parent : Place) (name : String)
      (leads : route.follow fs.root fs.directory = .ok (parent ++ [name]))
      (isDir : fs.root.IsDirAt parent) (isName : IsName name)
      (free : fs.root.get? (parent ++ [name]) = none) :
      Created fs route (fs.put (parent ++ [name]) (some .emptyDir))

section

variable {fs : FileSystem} {route : Route}

/-- Creating a directory changes nothing if it fails. -/
theorem createDir_cases (proper : fs.Proper) (clean : route.Clean) :
    (∃ e, exec (createDir route) fs = (.error e, fs) ∧
        (e = .noEntry → route.follow fs.root fs.directory = .error .noEntry)) ∨
      ∃ fs', Created fs route fs' ∧ exec (createDir route) fs = (.ok (), fs') := by
  unfold createDir
  rw [exec_bind, exec_get, resume_ok, exec_bind, exec_ask]
  cases followed : route.follow fs.root fs.directory with
  | error e => exact .inl ⟨e, rfl, fun same => congrArg _ same⟩
  | ok place =>
      rw [resume_ok]
      cases found : fs.root.get? place with
      | some node => exact .inl ⟨.alreadyThere, rfl, fun same => by cases same⟩
      | none =>
          obtain ⟨node, taken⟩ | ⟨parent, name, rfl, isDir, isName⟩ :=
            clean.follow_cases proper.directory followed
          · cases found.symm.trans taken
          · exact .inr ⟨_, .intro parent name followed isDir isName found, rfl⟩

theorem Created.changes {fs' : FileSystem} (created : Created fs route fs') :
    ∃ place, route.follow fs.root fs.directory = .ok place ∧ fs.root.get? place = none ∧
      Changes (· = place) fs fs' ∧ fs'.LeadsTo route place := by
  cases created with
  | intro parent name leads isDir isName free =>
      have changes : Changes (· = parent ++ [name]) fs
          (fs.put (parent ++ [name]) (some .emptyDir)) := by
        refine .ofPut isDir isName ?_ rfl Node.noConfusion
        rintro ⟨es, found⟩
        cases free.symm.trans found
      refine ⟨_, leads, free, changes, ?_, [], ?_⟩
      · rw [changes.directory]
        exact Route.follow_mono changes.dirs leads
      · exact Node.get?_put_below Node.emptyDir name isDir []

/-- There is nothing at the place, and one of the routes leads there. -/
def FreeEnd (fs : FileSystem) (routes : List Route) (place : Place) : Prop :=
  fs.root.get? place = none ∧ ∃ r ∈ routes, r.place fs.directory = place

/-- Directories have been created at ends of the routes, and nothing else has changed. -/
structure Raised (routes : List Route) (fs fs' : FileSystem) : Prop where
  changes : Changes (fs.FreeEnd routes) fs fs'
  isDir : ∀ place, fs.root.get? place = none → fs'.root.get? place ≠ none → fs'.root.IsDirAt place

namespace Raised

variable {routes routes' : List Route} {fs₁ fs₂ : FileSystem}

theorem refl (routes : List Route) (fs : FileSystem) : Raised routes fs fs :=
  ⟨.refl _ _, fun _ free taken => absurd free taken⟩

theorem grows (raised : Raised routes fs fs₁) : Grows fs fs₁ :=
  raised.changes.mono fun _ freeEnd => freeEnd.1

theorem trans (first : Raised routes fs fs₁) (second : Raised routes fs₁ fs₂) :
    Raised routes fs fs₂ where
  changes := first.changes.trans <| second.changes.mono fun _ ⟨free, r, member, leads⟩ =>
    ⟨first.grows.free free, r, member, first.changes.directory ▸ leads⟩
  isDir place free taken := by
    by_cases between : fs₁.root.get? place = none
    · exact second.isDir place between taken
    · exact second.changes.dirs place (first.isDir place free between)

theorem mono (raised : Raised routes fs fs₁) (more : routes ⊆ routes') : Raised routes' fs fs₁ where
  changes := raised.changes.mono fun _ ⟨free, r, member, leads⟩ => ⟨free, r, more member, leads⟩
  isDir := raised.isDir

end Raised

theorem Created.raised {fs' : FileSystem} (created : Created fs route fs') {routes : List Route}
    (member : route ∈ routes) : Raised routes fs fs' := by
  obtain ⟨place, followed, free, changes, -, isDir⟩ := created.changes
  refine ⟨changes.mono ?_, fun other before taken => ?_⟩
  · rintro _ rfl
    exact ⟨free, route, member, (Route.place_of_follow followed).symm⟩
  · by_cases here : other = place
    · exact here ▸ isDir
    · have same := changes.face other here
      rw [(Node.faceAt_eq_none_iff _ _).mpr before, Node.faceAt_eq_none_iff] at same
      exact absurd same taken

/-- Where there is a directory, or one was created, the route leads to it. -/
theorem ensureDir_cases (proper : fs.Proper) (clean : route.Clean) :
    (∃ e, exec (ensureDir route) fs = (.error e, fs)) ∨
      (∃ place, fs.LeadsTo route place) ∧ exec (ensureDir route) fs = (.ok (), fs) ∨
      ∃ fs', Created fs route fs' ∧ exec (ensureDir route) fs = (.ok (), fs') := by
  unfold ensureDir
  rw [exec_tryCatch]
  obtain ⟨e, failed, -⟩ | ⟨fs', created, done⟩ := createDir_cases proper clean
  · rw [failed]
    simp only [exec_bind, exec_get, resume_ok]
    by_cases leads : fs.leadsToDir route = true
    · rw [leads]
      exact .inr (.inl ⟨(leadsToDir_iff fs route).mp leads, rfl⟩)
    · rw [Bool.not_eq_true] at leads
      rw [leads]
      exact .inl ⟨e, rfl⟩
  · rw [done]
    exact .inr (.inr ⟨fs', created, rfl⟩)

theorem ensureDir_raised (proper : fs.Proper) (clean : route.Clean) {routes : List Route}
    (member : route ∈ routes) : Raised routes fs (exec (ensureDir route) fs).2 := by
  obtain ⟨e, failed⟩ | ⟨-, done⟩ | ⟨fs', created, done⟩ := ensureDir_cases proper clean
  · rw [failed]
    exact .refl _ _
  · rw [done]
    exact .refl _ _
  · rw [done]
    exact created.raised member

/-- Nothing was replaced, and after a success the route leads to a directory. -/
def Ensured (fs : FileSystem) (route : Route)
    (outcome : Except FileError Unit × FileSystem) : Prop :=
  Grows fs outcome.2 ∧ (outcome.1 = .ok () → ∃ place, outcome.2.LeadsTo route place)

/-- A directory that was ensured is there. -/
theorem ensureDir_leads (proper : fs.Proper) (clean : route.Clean)
    (done : (exec (ensureDir route) fs).1 = .ok ()) :
    ∃ place, (exec (ensureDir route) fs).2.LeadsTo route place := by
  obtain ⟨e, failed⟩ | ⟨leads, same⟩ | ⟨fs', created, same⟩ := ensureDir_cases proper clean
  · rw [failed] at done
    cases done
  · rw [same]
    exact leads
  · obtain ⟨place, -, -, -, leads⟩ := created.changes
    rw [same]
    exact ⟨place, leads⟩

/-- The directories above are created only if one of them is missing. -/
theorem ensureDirs_cons_cases (proper : fs.Proper) (clean : route.Clean) (parent : Route)
    (above : List Route) :
    (route.absolute = false ∧ route.steps = [] ∧
        exec (ensureDirs route (parent :: above)) fs = (.ok (), fs)) ∨
      (route.follow fs.root fs.directory = .error .noEntry ∧
        exec (ensureDirs route (parent :: above)) fs =
          resume (fun _ => ensureDir route) (exec (ensureDirs parent above) fs)) ∨
      exec (ensureDirs route (parent :: above)) fs = exec (ensureDir route) fs := by
  rw [ensureDirs]
  by_cases noSteps : (!route.absolute && route.steps.isEmpty) = true
  · obtain ⟨relative, empty⟩ := Bool.and_eq_true_iff.mp noSteps
    rw [if_pos noSteps]
    exact .inl ⟨by simpa using relative, List.isEmpty_iff.mp empty, rfl⟩
  · rw [if_neg noSteps, ensureDir, exec_tryCatch, exec_tryCatch]
    obtain ⟨e, failed, missing⟩ | ⟨fs', -, done⟩ := createDir_cases proper clean
    · rw [failed]
      by_cases isMissing : e = .noEntry
      · simp only [if_pos isMissing, exec_bind]
        exact .inr (.inl ⟨missing isMissing, trivial⟩)
      · simp only [if_neg isMissing]
        exact .inr (.inr trivial)
    · rw [done]
      exact .inr (.inr rfl)

end

/-- A route without steps leads to the current directory. -/
theorem leadsTo_directory {fs : FileSystem} (proper : fs.Proper) {route : Route}
    (relative : route.absolute = false) (noSteps : route.steps = []) :
    fs.LeadsTo route fs.directory := by
  refine ⟨?_, proper.directory⟩
  simp only [Route.follow, relative, noSteps]
  rfl

/-- Directories are created only at ends of the routes that are given. -/
theorem ensureDirs_raised {fs : FileSystem} (proper : fs.Proper) {route : Route}
    (clean : route.Clean) {above : List Route} (cleanAbove : ∀ r ∈ above, r.Clean) :
    Raised (route :: above) fs (exec (ensureDirs route above) fs).2 := by
  induction above generalizing route with
  | nil => exact ensureDir_raised proper clean List.mem_cons_self
  | cons parent above ih =>
      obtain ⟨cleanParent, cleanRest⟩ := List.forall_mem_cons.mp cleanAbove
      obtain ⟨-, -, done⟩ | ⟨-, created⟩ | same := ensureDirs_cons_cases proper clean parent above
      · rw [done]
        exact .refl _ _
      · have raised : Raised (route :: parent :: above) fs (exec (ensureDirs parent above) fs).2 :=
          (ih cleanParent cleanRest).mono (List.subset_cons_self _ _)
        rw [created]
        generalize exec (ensureDirs parent above) fs = outcome at raised ⊢
        obtain ⟨result, fs₁⟩ := outcome
        cases result with
        | error e => exact raised
        | ok done =>
            have proper₁ := raised.changes.keepsProper proper
            exact raised.trans (ensureDir_raised proper₁ clean List.mem_cons_self)
      · rw [same]
        exact ensureDir_raised proper clean List.mem_cons_self

theorem ensureDirs_exec {fs : FileSystem} (proper : fs.Proper) {route : Route} (clean : route.Clean)
    {above : List Route} (cleanAbove : ∀ r ∈ above, r.Clean) :
    Ensured fs route (exec (ensureDirs route above) fs) := by
  refine ⟨(ensureDirs_raised proper clean cleanAbove).grows, fun done => ?_⟩
  cases above with
  | nil => exact ensureDir_leads proper clean done
  | cons parent above =>
      obtain ⟨cleanParent, cleanRest⟩ := List.forall_mem_cons.mp cleanAbove
      obtain ⟨relative, noSteps, same⟩ | ⟨-, created⟩ | same :=
        ensureDirs_cons_cases proper clean parent above
      · rw [same]
        exact ⟨_, leadsTo_directory proper relative noSteps⟩
      · have raised := ensureDirs_raised proper cleanParent cleanRest
        rw [created] at done ⊢
        generalize exec (ensureDirs parent above) fs = outcome at raised done ⊢
        obtain ⟨result, fs₁⟩ := outcome
        cases result with
        | error e => cases done
        | ok _ => exact ensureDir_leads (raised.changes.keepsProper proper) clean done
      · rw [same] at done ⊢
        exact ensureDir_leads proper clean done

/-- A path that is empty is already there, and one that is too long is refused. -/
theorem createDirs_cases (fs : FileSystem) (path : String) :
    (path.toList = [] ∧ exec (createDirs path) fs = (.ok (), fs)) ∨
      (∃ e, exec (createDirs path) fs = (.error e, fs)) ∨
      path.utf8ByteSize < Route.maxPath ∧ exec (createDirs path) fs =
        exec (ensureDirs (Route.ofText path) (Route.ofText path).ancestors) fs := by
  unfold createDirs
  by_cases empty : path.toList.isEmpty = true
  · rw [if_pos empty]
    exact .inl ⟨List.isEmpty_iff.mp empty, rfl⟩
  · rw [if_neg empty]
    by_cases long : Route.maxPath ≤ path.utf8ByteSize
    · exact .inr (.inl ⟨.nameTooLong, by simp [long]⟩)
    · by_cases nul : '\x00' ∈ path.toList
      · exact .inr (.inl ⟨.nulByte, by simp [long, nul]⟩)
      · exact .inr (.inr ⟨not_le.mp long, by simp [long, nul]⟩)

/-- A path creates directories at its end and above it, where nothing was. -/
theorem createDirs_raised {fs : FileSystem} (proper : fs.Proper) (path : String) :
    Raised (Route.ofText path :: (Route.ofText path).ancestors) fs
      (exec (createDirs path) fs).2 := by
  obtain ⟨-, done⟩ | ⟨e, failed⟩ | ⟨-, same⟩ := createDirs_cases fs path
  · rw [done]
    exact .refl _ _
  · rw [failed]
    exact .refl _ _
  · rw [same]
    exact ensureDirs_raised proper (Route.clean_ofText path) (Route.clean_ofText path).ancestors

/-- Creating a directory and those above it. -/
theorem createDirs_exec {fs : FileSystem} (proper : fs.Proper) (path : String) :
    Ensured fs (Route.ofText path) (exec (createDirs path) fs) := by
  refine ⟨(createDirs_raised proper path).grows, fun done => ?_⟩
  obtain ⟨empty, same⟩ | ⟨e, failed⟩ | ⟨-, same⟩ := createDirs_cases fs path
  · rw [same]
    refine ⟨_, leadsTo_directory proper ?_ ?_⟩
    · simp [Route.ofText, empty]
    · simp [Route.ofText, empty, Route.names]
  · rw [failed] at done
    cases done
  · rw [same] at done ⊢
    exact (ensureDirs_exec proper (Route.clean_ofText path)
      (Route.clean_ofText path).ancestors).2 done

/-- A path that is too long is refused. -/
theorem createDirs_ok_size {fs : FileSystem} {path : String}
    (done : (exec (createDirs path) fs).1 = .ok ()) : path.utf8ByteSize < Route.maxPath := by
  obtain ⟨empty, -⟩ | ⟨e, failed⟩ | ⟨short, -⟩ := createDirs_cases fs path
  · rw [String.toList_eq_nil_iff.mp empty]
    decide
  · rw [failed] at done
    cases done
  · exact short

/-- For a directory in a directory nothing above it is created. -/
theorem createDirs_entry_cases {fs : FileSystem} (proper : fs.Proper) {dir name : String}
    {start : Place} (leads : fs.LeadsTo (Route.ofText dir) start) (isName : IsName name) :
    (∃ e, exec (createDirs (entryPath dir name)) fs = (.error e, fs)) ∨
      exec (createDirs (entryPath dir name)) fs =
        exec (ensureDir (Route.ofText (entryPath dir name))) fs := by
  obtain ⟨empty, -⟩ | failed | ⟨-, same⟩ := createDirs_cases fs (entryPath dir name)
  · obtain ⟨c, -, last⟩ := endsWithName_entryPath dir isName
    rw [empty] at last
    cases last
  · exact .inl failed
  · rw [same]
    cases (Route.ofText (entryPath dir name)).ancestors with
    | nil => exact .inr rfl
    | cons parent above =>
        obtain ⟨-, noSteps, -⟩ | ⟨missing, -⟩ | same :=
          ensureDirs_cons_cases proper (Route.clean_ofText (entryPath dir name)) parent above
        · simp [ofText_entryPath dir isName] at noSteps
        · rw [Route.follow_entryPath leads.1 isName] at missing
          exact absurd missing (Route.advance_ne_noEntry leads.2 name)
        · exact .inr same

/-- Creating a directory in a directory touches nothing but its place. -/
theorem createDirs_entry {fs : FileSystem} (proper : fs.Proper) {dir name : String} {start : Place}
    (leads : fs.LeadsTo (Route.ofText dir) start) (isName : IsName name) :
    let created := exec (createDirs (entryPath dir name)) fs
    Changes (· = start ++ [name]) fs created.2 ∧
      (created.1 = .ok () →
        created.2.LeadsTo (Route.ofText (entryPath dir name)) (start ++ [name])) := by
  intro created
  have leadsOn : ∀ (fs' : FileSystem) place, fs'.LeadsTo (Route.ofText (entryPath dir name)) place →
      fs'.directory = fs.directory → place = start ++ [name] := by
    intro fs' place leads' same
    rw [leads'.place_eq, same, Route.place_entryPath _ _ isName, leads.place_eq]
  obtain ⟨e, failed⟩ | single := createDirs_entry_cases proper leads isName
  · simp only [created, failed]
    exact ⟨.refl _ _, fun done => by cases done⟩
  simp only [created, single]
  obtain ⟨e, failed⟩ | ⟨⟨place, leads'⟩, done⟩ | ⟨fs', new, done⟩ :=
    ensureDir_cases proper (Route.clean_ofText (entryPath dir name))
  · rw [failed]
    exact ⟨.refl _ _, fun done => by cases done⟩
  · rw [done]
    exact ⟨.refl _ _, fun _ => leadsOn fs place leads' rfl ▸ leads'⟩
  · obtain ⟨place, -, -, changes, leads'⟩ := new.changes
    obtain rfl := leadsOn fs' place leads' changes.directory
    rw [done]
    exact ⟨changes, fun _ => leads'⟩

/-! ## Copying a file -/

theorem locate_eq_ok {fs : FileSystem} {path : String} {place : Place}
    (located : fs.locate path = .ok place) :
    (Route.ofText path).follow fs.root fs.directory = .ok place := by
  unfold locate Route.locate at located
  split at located
  · cases located
  · split at located
    · cases located
    · split at located
      · cases located
      · exact located

/-- A node that a path names is at the place to which the path leads. -/
theorem find_eq_ok {fs : FileSystem} {path : String} {node : Node}
    (found : fs.find path = .ok node) :
    fs.root.get? ((Route.ofText path).place fs.directory) = some node := by
  unfold find at found
  cases located : fs.locate path with
  | error e =>
      rw [located] at found
      cases found
  | ok place =>
      rw [located] at found
      simp only [bind, Except.bind] at found
      rw [← Route.place_of_follow (locate_eq_ok located)]
      split at found
      · cases found
      · rename_i inner here
        split at found
        · cases found
        · rw [here, Except.ok.inj found]

/-- What is read at a path is the content of the file to whose place the path leads. -/
theorem load_eq_ok {fs : FileSystem} {path : String} {bytes content : ByteArray} {executable : Bool}
    (loaded : fs.load path = .ok bytes)
    (here : fs.root.get? ((Route.ofText path).place fs.directory) =
      some (.file content executable)) :
    bytes = content := by
  unfold load at loaded
  cases found : fs.find path with
  | error e =>
      rw [found] at loaded
      cases loaded
  | ok node =>
      obtain rfl := Option.some.inj ((find_eq_ok found).symm.trans here)
      rw [found] at loaded
      exact (Except.ok.inj loaded).symm

/-- No file is written in the place of a directory. -/
theorem writable_eq_ok {fs : FileSystem} {path : String} {place : Place}
    (writable : fs.writable path = .ok place) :
    (Route.ofText path).follow fs.root fs.directory = .ok place ∧ ¬ fs.root.IsDirAt place := by
  unfold FileSystem.writable at writable
  cases located : fs.locate path with
  | error e =>
      rw [located] at writable
      cases writable
  | ok found =>
      rw [located] at writable
      simp only [bind, Except.bind] at writable
      split at writable
      · cases writable
      · cases writable
      · cases writable
      · rename_i noDir _
        obtain rfl := Except.ok.inj writable
        refine ⟨locate_eq_ok located, ?_⟩
        rintro ⟨es, isDir⟩
        exact noDir es isDir

/-- Writing a file touches its place, and unless there is a device the file is there then. -/
theorem write_changes {fs : FileSystem} {parent : Place} {name : String}
    (isDir : fs.root.IsDirAt parent) (isName : IsName name)
    (replaced : ¬ fs.root.IsDirAt (parent ++ [name])) (content : ByteArray) (executable : Bool) :
    let written := fs.write (parent ++ [name]) content executable
    Changes (· = parent ++ [name]) fs written ∧ ¬ written.root.IsDirAt (parent ++ [name]) ∧
      (fs.root.get? (parent ++ [name]) ≠ some .null →
        written.root.get? (parent ++ [name]) = some (.file content executable)) := by
  intro written
  simp only [written, write]
  split
  · rename_i device
    exact ⟨.refl _ _, replaced, fun noDevice => absurd device noDevice⟩
  · have there : (fs.put (parent ++ [name]) (some (.file content executable))).root.get?
        (parent ++ [name]) = some (.file content executable) :=
      Node.get?_put_below (.file content executable) name isDir []
    refine ⟨.ofPut isDir isName replaced rfl Node.noConfusion, ?_, fun _ => there⟩
    rintro ⟨es, found⟩
    cases there.symm.trans found

/-- The rest of a copy, once it is known whether the copy is executable. -/
def copyBytes (source target : String) (executable : Bool) : FileChange FileError Unit := do
  let place ← ask (·.writable target)
  modify (·.write place .empty executable)
  let content ← ask (·.load source)
  modify (·.write place content executable)

/-- A copy does nothing, or it empties the target, and then the target may get the content that the
source has by then. -/
theorem copyBytes_cases (fs : FileSystem) (source target : String) (executable : Bool) :
    (∃ e, exec (copyBytes source target executable) fs = (.error e, fs)) ∨
      ∃ place, fs.writable target = .ok place ∧
        let emptied := fs.write place .empty executable
        (∃ e, exec (copyBytes source target executable) fs = (.error e, emptied)) ∨
          ∃ content, emptied.load source = .ok content ∧
            exec (copyBytes source target executable) fs =
              (.ok (), emptied.write place content executable) := by
  simp only [copyBytes, exec_bind, exec_ask]
  cases writable : fs.writable target with
  | error e => exact .inl ⟨e, rfl⟩
  | ok place =>
      refine .inr ⟨place, rfl, ?_⟩
      simp only [resume_ok, exec_bind, exec_ask, exec_modify]
      cases loaded : (fs.write place .empty executable).load source with
      | error e => exact .inl ⟨e, rfl⟩
      | ok content => exact .inr ⟨content, rfl, rfl⟩

/-- Only files and the shell are copied, and the copy of a file is executable if the file is. -/
theorem copyFile_cases (fs : FileSystem) (source target : String) :
    (∃ e, exec (copyFile source target) fs = (.error e, fs)) ∨
      ∃ executable,
        (∀ content x, fs.root.get? ((Route.ofText source).place fs.directory) =
            some (.file content x) → executable = x) ∧
          exec (copyFile source target) fs = exec (copyBytes source target executable) fs := by
  have start : exec (copyFile source target) fs = _ := exec_bind (ask (·.find source)) _ fs
  rw [start, exec_ask]
  cases found : fs.find source with
  | error e => exact .inl ⟨e, rfl⟩
  | ok node =>
      have there := find_eq_ok found
      cases node with
      | file content executable =>
          refine .inr ⟨executable, fun content' x here => ?_, rfl⟩
          rw [there] at here
          cases here
          rfl
      | shell => exact .inr ⟨true, fun _ _ here => (by cases there.symm.trans here), rfl⟩
      | dir es => exact .inl ⟨.invalid, rfl⟩
      | null => exact .inl ⟨.invalid, rfl⟩

/-- Copying a file into a directory touches nothing but the place of the copy. A copy that succeeds
is the file that the source was, unless the source is that place itself or there is a device. -/
theorem copyFile_entry {fs : FileSystem} {dir name : String} {start : Place}
    (leads : fs.LeadsTo (Route.ofText dir) start) (isName : IsName name) (source : String) :
    let copied := exec (copyFile source (entryPath dir name)) fs
    Changes (· = start ++ [name]) fs copied.2 ∧
      (copied.1 = .ok () → fs.root.get? (start ++ [name]) ≠ some .null →
        (Route.ofText source).place fs.directory ≠ start ++ [name] →
        ∀ content x, fs.root.get? ((Route.ofText source).place fs.directory) =
            some (.file content x) →
          copied.2.root.get? (start ++ [name]) = some (.file content x)) := by
  intro copied
  obtain ⟨e, failed⟩ | ⟨executable, asSource, same⟩ :=
    copyFile_cases fs source (entryPath dir name)
  · simp only [copied, failed]
    exact ⟨.refl _ _, fun done => by cases done⟩
  simp only [copied, same]
  obtain ⟨e, failed⟩ | ⟨place, writable, outcome⟩ :=
    copyBytes_cases fs source (entryPath dir name) executable
  · rw [failed]
    exact ⟨.refl _ _, fun done => by cases done⟩
  · obtain ⟨followed, replaced⟩ := writable_eq_ok writable
    obtain rfl : place = start ++ [name] := by
      rw [Route.place_of_follow followed, Route.place_entryPath _ _ isName, leads.place_eq]
    obtain ⟨emptying, replaced', -⟩ := write_changes leads.2 isName replaced .empty executable
    obtain ⟨e, failed⟩ | ⟨bytes, loaded, done⟩ := outcome
    · rw [failed]
      exact ⟨emptying, fun done => by cases done⟩
    · obtain ⟨filling, -, filled⟩ := write_changes (emptying.dirs start leads.2) isName replaced'
        bytes executable
      rw [done]
      refine ⟨emptying.trans filling, fun _ noDevice other content x here => ?_⟩
      have kept := emptying.get?_leaf other rfl here
      rw [← emptying.directory] at kept
      obtain rfl := load_eq_ok loaded kept
      rw [← asSource bytes x here]
      exact filled fun device => noDevice (emptying.devices _ device)

end FileSystem

end BuildScript
