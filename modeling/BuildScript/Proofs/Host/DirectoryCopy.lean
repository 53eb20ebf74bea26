import BuildScript.Host.Workspace
import BuildScript.Proofs.FileSystem.Copying

/-!
# Copies of directories

In a workspace a directory is copied by a recursion that creates the target, lists the source and
goes through the entries (`FileSystem.copyLevel`), in the order in which the platform lists them. For
two directories of which neither is the other
or above it, `Workspace.answer_copyDirectory` says all that there is to say: the recursion ends; what
is changed is in the target, under a name that the source has too, or is a new directory on the way
to the target; a copy that reports success is complete.

So the source stays as it is even if the copy fails half-way. Only a path like `out/x/../../copy`
leads to a place apart from `out` and still through `out`, which is then among its ancestors. There
`out/x` is created if it is missing.
-/

namespace BuildScript

open FileSystem

/-- A route that ends outside the source and does not lead through it creates nothing there. -/
theorem FileSystem.Raised.get?_outside {fs grown : FileSystem} {route : Route} {source : Place}
    (raised : Raised (route :: route.ancestors) fs grown)
    (outside : ¬ source <+: route.place fs.directory)
    (notThrough : ∀ above ∈ route.ancestors, above.place fs.directory ≠ source) (rest : Place) :
    grown.root.get? (source ++ rest) = fs.root.get? (source ++ rest) := by
  refine raised.changes.subtree _ ?_
  rintro _ ⟨-, r, member, rfl⟩ below
  have inside : source <+: r.place fs.directory := (List.prefix_append _ _).trans below
  obtain rfl | above := List.mem_cons.mp member
  · exact outside inside
  · exact Route.not_prefix_of_ancestors outside notThrough r above inside

namespace Workspace

/-- The place to which a path leads in a workspace. -/
def placeOf (w : Workspace) (path : Path) : Place :=
  (Route.ofText path.text).place w.files.directory

/-- A copy of a directory is complete and touches nothing else. On any platform, in a workspace with a
proper tree of files, let source and target be paths to places of which neither is the other or above it.

The copy comes to its end: it makes no difference what would be done if the recursion were still
going on at the greatest depth that a path allows. Only files are changed. Whether it succeeds or
not, a place for which there is nothing in the source is as before or is a directory that was missing
on the way to the target, and everything in the source is as before, unless the source is an ancestor
of the target as a path. If it succeeds, and there is no device in the target, then all files in the
source are in the target with the same content, executable if they were, and all directories of the
source are directories there. -/
theorem answer_copyDirectory (platform : Platform) {w : Workspace} (proper : w.files.Proper)
    {source target : Path}
    (apart : Apart (w.placeOf source) (w.placeOf target)) :
    let outcome := w.answer platform (.copyDirectory source target)
    let files := outcome.2.files
    let route := Route.ofText target.text
    (∀ below, exec ((copyLevel platform.order)^[Route.maxPath] below source.text target.text)
          w.files =
        (outcome.1, files)) ∧
      outcome.2 = { w with files } ∧ files.directory = w.files.directory ∧
      (∀ place, ¬ Counterpart files (w.placeOf source) (w.placeOf target) place →
        files.root.faceAt place = w.files.root.faceAt place ∨
          w.files.FreeEnd (route :: route.ancestors) place ∧ files.root.IsDirAt place) ∧
      ((∀ above ∈ route.ancestors, above.place w.files.directory ≠ w.placeOf source) →
        ∀ rest, files.root.get? (w.placeOf source ++ rest) =
          w.files.root.get? (w.placeOf source ++ rest)) ∧
      (outcome.1 = .ok () → w.files.NoDevice (w.placeOf target) →
        Copied w.files (w.placeOf source) files (w.placeOf target)) := by
  intro outcome files route
  obtain ⟨grown, raised, copy⟩ :=
    copyDirs_raised proper platform.order source.text target.text Route.maxPath
  have kept : ∀ rest, files.root.get? (w.placeOf source ++ rest) =
      grown.root.get? (w.placeOf source ++ rest) := copy.inside.get?_apart apart
  refine ⟨iterate_copyLevel proper platform.order source.text target.text, rfl,
    copy.inside.directory.trans raised.changes.directory, fun place free => ?_,
    fun notThrough rest => ?_, fun done noDevice => ?_⟩
  · have face : files.root.faceAt place = grown.root.faceAt place :=
      (copy.matching apart).face place fun counterpart =>
        free (counterpart.of_source fun rest => (kept rest).symm)
    by_cases freeEnd : w.files.FreeEnd (route :: route.ancestors) place
    · by_cases still : grown.root.get? place = none
      · refine .inl (face.trans ?_)
        rw [Node.faceAt, Node.faceAt, still, freeEnd.1]
      · exact .inr ⟨freeEnd, copy.inside.dirs place (raised.isDir place freeEnd.1 still)⟩
    · exact .inl (face.trans (raised.changes.face place freeEnd))
  · exact (kept rest).trans (raised.get?_outside apart.1 notThrough rest)
  · exact (copy.copied apart done (noDevice.of_changes raised.changes)).of_grows raised.grows

/-- A workspace with a directory to copy, and with a directory for copies. -/
def withCopies : Workspace :=
  let copies := Node.dir [("old", .file "0".toUTF8 false)]
  let out := Node.dir [("f", .file "1".toUTF8 false), ("lib", .emptyDir)]
  ⟨⟨.dir [("copies", copies), ("out", out)], []⟩, "", .empty, .empty, "0"⟩

theorem withCopies_proper : withCopies.files.Proper where
  root := by
    refine Node.proper_dir (by decide +kernel) ?_
    refine List.forall_mem_cons.mpr ⟨?_, List.forall_mem_singleton.mpr ?_⟩
    · refine Node.proper_dir (by decide +kernel) (List.forall_mem_singleton.mpr ?_)
      exact Node.proper_of_not_isDir rfl
    · refine Node.proper_dir (by decide +kernel) ?_
      refine List.forall_mem_cons.mpr ⟨?_, List.forall_mem_singleton.mpr ?_⟩
      · exact Node.proper_of_not_isDir rfl
      · exact Node.proper_emptyDir
  directory := ⟨_, rfl⟩

/-- Copied to a path of which a part is missing, the file is in both places, the directory in the
source is a directory in the copy, and the other file in the directory for copies is as it was. -/
theorem answer_copyDirectory_missing :
    let files := (withCopies.answer .bare (.copyDirectory ⟨"out"⟩ ⟨"copies/new/out"⟩)).2.files
    files.root.get? ["out", "f"] = some (.file "1".toUTF8 false) ∧
      files.root.get? ["copies", "new", "out", "f"] = some (.file "1".toUTF8 false) ∧
      files.root.IsDirAt ["copies", "new", "out", "lib"] ∧
      files.root.get? ["copies", "old"] = some (.file "0".toUTF8 false) := by
  intro files
  have source : withCopies.placeOf ⟨"out"⟩ = ["out"] := by decide +kernel
  have goal : withCopies.placeOf ⟨"copies/new/out"⟩ = ["copies", "new", "out"] := by decide +kernel
  have apart : Apart (withCopies.placeOf ⟨"out"⟩) (withCopies.placeOf ⟨"copies/new/out"⟩) := by
    rw [source, goal]
    decide
  obtain ⟨-, -, -, elsewhere, untouched, copied⟩ := answer_copyDirectory .bare withCopies_proper apart
  have kept := untouched fun above member same => by
    refine apart.1 (same ▸ Route.place_ancestors_prefix ?_ _ above member)
    decide +kernel
  rw [source] at kept
  rw [source, goal] at elsewhere copied
  have done : (withCopies.answer .bare (.copyDirectory ⟨"out"⟩ ⟨"copies/new/out"⟩)).1 = .ok () := by
    have reported : (withCopies.answer .bare (.copyDirectory ⟨"out"⟩
      ⟨"copies/new/out"⟩)).1.toOption = some () := by decide +kernel
    cases result : (withCopies.answer .bare (.copyDirectory ⟨"out"⟩ ⟨"copies/new/out"⟩)).1 with
    | error fault => cases result ▸ reported
    | ok done => rfl
  have complete := copied done fun rest found => by cases found
  refine ⟨(kept ["f"]).trans rfl, complete.files ["f"] _ false rfl,
    complete.dirs ["lib"] ⟨[], rfl⟩, ?_⟩
  obtain same | ⟨new, -⟩ := elsewhere ["copies", "old"] fun ⟨rest, there, _⟩ => by simp at there
  · exact (Node.faceAt_eq_some_iff rfl).mp same
  · cases new.1

/-- A target may lie apart from its source and still be reached through it. The directories that are
missing on the way are then created in the source. -/
example :
    let outcome := withCopies.answer .bare (.copyDirectory ⟨"out"⟩ ⟨"out/x/../../copy"⟩)
    Apart (withCopies.placeOf ⟨"out"⟩) (withCopies.placeOf ⟨"out/x/../../copy"⟩) ∧
      outcome.1.toOption = some () ∧ outcome.2.files.hasDir "out/x" = true := by
  decide +kernel

end Workspace

end BuildScript
