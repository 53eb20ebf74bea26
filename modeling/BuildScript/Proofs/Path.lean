import BuildScript.Settings
import Mathlib.Data.List.DropRight

/-!
# Paths under paths

Putting one path under another is the same in one step and in two: to go from `p` to `s` and from
there to `t` is to go from `p` to what `t` is under `s` (`join_assoc`). The empty path stays where
one is, and an absolute path is the only thing that leads to the root (`isAbsolute_join`).

`join` tells three cases apart, and each has its lemma here: an absolute text (`join_of_absolute`),
the empty path (`empty_join`), and everything else, where a path loses the slashes that it ends with
(`join_of_relative`).
-/

namespace BuildScript.Path

/-! ## Texts of paths -/

theorem backslash_not_mem_map_separator (cs : List Char) : '\\' ∉ cs.map separator := by
  intro member
  obtain ⟨c, -, same⟩ := List.mem_map.mp member
  unfold separator at same
  split at same
  · cases same
  · rename_i other
    exact other same

theorem toList_ofString (s : String) : (ofString s).text.toList = s.toList.map separator :=
  String.toList_ofList

/-- The separators of a path are no newlines. -/
theorem newline_not_mem_ofString {s : String} (line : '\n' ∉ s.toList) :
    '\n' ∉ (ofString s).text.toList := by
  rw [toList_ofString]
  intro member
  obtain ⟨c, among, same⟩ := List.mem_map.mp member
  unfold separator at same
  split at same
  · cases same
  · exact line (same ▸ among)

/-- The text of a path names this path, if it has no backslash. -/
theorem ofString_text {p : Path} (normal : '\\' ∉ p.text.toList) : ofString p.text = p := by
  have same : p.text.toList.map separator = p.text.toList := by
    refine (List.map_congr_left fun c member => ?_).trans (List.map_id _)
    exact if_neg fun backslash : c = '\\' => normal (backslash ▸ member)
  obtain ⟨text⟩ := p
  rw [ofString, same, String.ofList_toList]

theorem ext_toList {p q : Path} (same : p.text.toList = q.text.toList) : p = q := by
  obtain ⟨text⟩ := p
  exact congrArg Path.mk (String.toList_inj.mp same)

theorem isAbsolute_iff (p : Path) : p.isAbsolute = true ↔ ∃ cs, p.text.toList = '/' :: cs := by
  rw [isAbsolute, beq_iff_eq, List.head?_eq_some_iff]

/-! ## Slashes at the end -/

/-- Slashes are dropped at the end only, and not beyond anything else. -/
theorem dropTrailingSlashes_append (front : List Char) {back : List Char}
    (solid : dropTrailingSlashes back ≠ []) :
    dropTrailingSlashes (front ++ back) = front ++ dropTrailingSlashes back := by
  have stops : (back.reverse.dropWhile (· == '/')).isEmpty = false := by
    simpa [dropTrailingSlashes] using solid
  rw [dropTrailingSlashes, List.reverse_append, List.dropWhile_append, stops]
  simp [dropTrailingSlashes]

theorem dropTrailingSlashes_concat_slash (cs : List Char) :
    dropTrailingSlashes (cs ++ ['/']) = dropTrailingSlashes cs :=
  List.rdropWhile_concat_pos _ cs '/' rfl

theorem dropTrailingSlashes_idem (cs : List Char) :
    dropTrailingSlashes (dropTrailingSlashes cs) = dropTrailingSlashes cs :=
  List.rdropWhile_idempotent (· == '/') cs

theorem dropTrailingSlashes_isPrefix (cs : List Char) : dropTrailingSlashes cs <+: cs :=
  List.rdropWhile_prefix (· == '/') cs

/-- What is left of a text begins as the text does. -/
theorem dropTrailingSlashes_cons_cases (c : Char) (cs : List Char) :
    dropTrailingSlashes (c :: cs) = [] ∨ ∃ rest, dropTrailingSlashes (c :: cs) = c :: rest := by
  obtain nothing | ⟨rest, kept, -⟩ :=
    List.prefix_cons_iff.mp (dropTrailingSlashes_isPrefix (c :: cs))
  · exact .inl nothing
  · exact .inr ⟨rest, kept⟩

/-- A text that begins with something else than a slash keeps it. -/
theorem dropTrailingSlashes_cons {c : Char} (other : c ≠ '/') (cs : List Char) :
    ∃ rest, dropTrailingSlashes (c :: cs) = c :: rest := by
  obtain nothing | kept := dropTrailingSlashes_cons_cases c cs
  · have all := List.rdropWhile_eq_nil_iff.mp nothing c List.mem_cons_self
    exact absurd (by simpa using all) other
  · exact kept

/-! ## The three cases -/

theorem join_of_absolute (p : Path) {s : String} (absolute : (ofString s).isAbsolute = true) :
    p.join s = ofString s := by
  simp [join, absolute]

theorem empty_join (s : String) : empty.join s = ofString s := by
  simp [join, empty]

theorem join_of_relative {p : Path} {s : String} (some : p.text.toList ≠ [])
    (relative : (ofString s).isAbsolute = false) :
    (p.join s).text.toList =
      dropTrailingSlashes p.text.toList ++ '/' :: (ofString s).text.toList := by
  have nonempty : p.text.toList.isEmpty = false := by simpa using some
  simp only [join, relative, nonempty, Bool.or_false, Bool.false_eq_true, if_false,
    String.toList_ofList]

/-- A path is empty, begins at the root, or begins with something else. -/
theorem isAbsolute_cons {p : Path} {c : Char} {cs : List Char} (text : p.text.toList = c :: cs) :
    p.isAbsolute = true ↔ c = '/' := by
  simp [isAbsolute_iff, text]

/-! ## Laws -/

/-- Only an absolute path leads to the root. -/
theorem isAbsolute_join (p : Path) (s : String) :
    (p.join s).isAbsolute = true ↔ p.isAbsolute = true ∨ (ofString s).isAbsolute = true := by
  cases absolute : (ofString s).isAbsolute with
  | true => simp [join_of_absolute p absolute, absolute]
  | false =>
      cases text : p.text.toList with
      | nil =>
          obtain rfl : p = empty := ext_toList text
          simp [empty_join, absolute, isAbsolute_iff, text]
      | cons c cs =>
          have joined := join_of_relative (p := p) (by simp [text]) absolute
          rw [text] at joined
          rw [isAbsolute_cons text]
          obtain nothing | ⟨rest, kept⟩ := dropTrailingSlashes_cons_cases c cs
          · have slash : c = '/' := by
              by_contra other
              obtain ⟨rest, kept⟩ := dropTrailingSlashes_cons other cs
              rw [nothing] at kept
              cases kept
            rw [nothing] at joined
            simp [isAbsolute_cons joined, slash]
          · rw [kept] at joined
            simp [isAbsolute_cons joined]

theorem backslash_not_mem_ofString (s : String) : '\\' ∉ (ofString s).text.toList := by
  rw [toList_ofString]
  exact backslash_not_mem_map_separator s.toList

theorem backslash_not_mem_join {p : Path} (normal : '\\' ∉ p.text.toList) (s : String) :
    '\\' ∉ (p.join s).text.toList := by
  cases absolute : (ofString s).isAbsolute with
  | true =>
      rw [join_of_absolute p absolute]
      exact backslash_not_mem_ofString s
  | false =>
      by_cases text : p.text.toList = []
      · obtain rfl : p = empty := ext_toList text
        rw [empty_join]
        exact backslash_not_mem_ofString s
      · have kept : '\\' ∉ dropTrailingSlashes p.text.toList :=
          fun member => normal ((dropTrailingSlashes_isPrefix p.text.toList).subset member)
        rw [join_of_relative text absolute]
        simp [kept, backslash_not_mem_ofString]

/-- A path that is made from a text keeps its text under another path. -/
theorem ofString_text_join (s t : String) :
    ofString ((ofString s).join t).text = (ofString s).join t :=
  ofString_text (backslash_not_mem_join (backslash_not_mem_ofString s) t)

/-- Where a relative path is put under a relative path, what was under it before stays. -/
theorem join_assoc_of_relative {p : Path} {s t : String} (here : p.text.toList ≠ [])
    (first : (ofString s).isAbsolute = false) (second : (ofString t).isAbsolute = false) :
    (p.join s).join t = p.join ((ofString s).join t).text := by
  have text := ofString_text_join s t
  have relative : (ofString ((ofString s).join t).text).isAbsolute = false := by
    rw [text, Bool.eq_false_iff, Ne, isAbsolute_join]
    simp [first, second]
  have one := join_of_relative here relative
  have two := join_of_relative here first
  have three := join_of_relative (p := p.join s) (by simp [two]) second
  refine ext_toList ?_
  rw [three, two, one, text]
  cases under : (ofString s).text.toList with
  | nil =>
      -- The path of `s` stays at `p`, so the slash that was put after `p` goes again.
      have stays : ofString s = empty := ext_toList under
      rw [stays, empty_join, dropTrailingSlashes_concat_slash, dropTrailingSlashes_idem]
  | cons c cs =>
      have other : c ≠ '/' := fun slash =>
        absurd ((isAbsolute_cons under).mpr slash) (by simp [first])
      obtain ⟨rest, kept⟩ := dropTrailingSlashes_cons other cs
      have below := join_of_relative (p := ofString s) (by simp [under]) second
      have solid : dropTrailingSlashes (c :: cs) ≠ [] := by simp [kept]
      rw [below, under, List.append_cons _ '/' (c :: cs), dropTrailingSlashes_append _ solid]
      simp

/-- Two steps are one step. -/
theorem join_assoc (p : Path) (s t : String) :
    (p.join s).join t = p.join ((ofString s).join t).text := by
  have text := ofString_text_join s t
  cases second : (ofString t).isAbsolute with
  | true =>
      have absolute : (ofString (ofString t).text).isAbsolute = true := by
        rwa [ofString_text (backslash_not_mem_ofString t)]
      rw [join_of_absolute _ second, join_of_absolute _ second, join_of_absolute _ absolute,
        ofString_text (backslash_not_mem_ofString t)]
  | false =>
      cases first : (ofString s).isAbsolute with
      | true =>
          have absolute : (ofString ((ofString s).join t).text).isAbsolute = true := by
            rw [text, isAbsolute_join]
            exact .inl first
          rw [join_of_absolute p first, join_of_absolute p absolute, text]
      | false =>
          by_cases here : p.text.toList = []
          · obtain rfl : p = empty := ext_toList here
            rw [empty_join, empty_join, text]
          · exact join_assoc_of_relative here first second

/-! ## Paths that are built -/

/-- The paths that can be made: from a text, from nothing, and by putting a text under a path. -/
inductive Built : Path → Prop
  | ofString (s : String) : Built (ofString s)
  | empty : Built empty
  | join {p : Path} (built : Built p) (s : String) : Built (p.join s)

theorem Built.backslash_not_mem {p : Path} (built : Built p) : '\\' ∉ p.text.toList := by
  induction built with
  | ofString s => exact backslash_not_mem_ofString s
  | empty => exact List.not_mem_nil
  | join built s ih => exact backslash_not_mem_join ih s

/-- An output in a build directory that is itself under a directory is under this directory where it
would be in the build directory alone. -/
theorem outputPath_join (settings : Settings) (p : Path) (s output : String) :
    (settings.setBuildDir (p.join s)).outputPath output =
      p.join ((settings.setBuildDir (ofString s)).outputPath output).text :=
  join_assoc p s output

/-- Paths that are built have no backslash, and putting paths under each other obeys these laws: two
steps are one step, the empty path stays where one is, a path is absolute if the one above or the
text below it is, and a build directory in two steps holds its outputs where one step after the
other puts them. -/
theorem join_laws {p : Path} (built : Built p) (s t : String) :
    (p.join s).join t = p.join ((ofString s).join t).text ∧
      empty.join s = ofString s ∧
      ((p.join s).isAbsolute = true ↔ p.isAbsolute = true ∨ (ofString s).isAbsolute = true) ∧
      '\\' ∉ p.text.toList ∧
      ∀ (settings : Settings) (output : String),
        (settings.setBuildDir (p.join s)).outputPath output =
          p.join ((settings.setBuildDir (ofString s)).outputPath output).text :=
  ⟨join_assoc p s t, empty_join s, isAbsolute_join p s, built.backslash_not_mem,
    fun settings output => outputPath_join settings p s output⟩

/-- A path with backslashes, one that is nothing but slashes, and a directory of objects. -/
theorem join_laws_objects :
    let out := (ofString "out\\").join "bin//"
    (out.join "obj\\").join "a.o" = ⟨"out/bin/obj/a.o"⟩ ∧
      (out.join "//").isAbsolute = true ∧
      (Settings.initial.setBuildDir (out.join "obj\\")).outputPath "a.o" =
        out.join ((Settings.initial.setBuildDir ⟨"obj/"⟩).outputPath "a.o").text := by
  intro out
  have built : Built out := (Built.ofString "out\\").join "bin//"
  obtain ⟨assoc, -, -, -, output⟩ := join_laws built "obj\\" "a.o"
  obtain ⟨-, -, absolute, -, -⟩ := join_laws built "//" "a.o"
  refine ⟨assoc.trans (by decide +kernel), absolute.mpr (.inr (by decide +kernel)), ?_⟩
  exact output .initial "a.o"

end BuildScript.Path
