import BuildScript.Proofs.Text.Trimming
import BuildScript.Script.Arguments
import Mathlib.Data.List.Basic

/-!
# Arguments by pieces

The arguments of a call can be read off without a state. The text is cut at every double quote.
Every second piece lies between two quotes, or after one that is never closed, and is an argument
as it stands. Every other piece is cut at its commas, and its parts are arguments once their blanks
and the empty ones among them are gone; the part that an opening quote cuts short does not count.

`arguments_eq_piecewise` says that the reader finds exactly these arguments. The reader goes
through the text once, so the induction is over what it has still to read, and its invariant
(`arguments_eq_resumed`) puts what it has read of an argument back in front of the first piece.
-/

namespace BuildScript.Script

open Text

/-- The arguments in a piece outside of quotes. A quote that follows drops the last part. -/
def outside (quoteFollows : Bool) (piece : List Char) : List (List Char) :=
  let parts := piece.splitOn ','
  let whole := if quoteFollows then parts.dropLast else parts
  (whole.map strip).filter (· ≠ [])

/-- The arguments of a text, piece by piece. -/
def piecewise (raw : List Char) : List (List Char) :=
  let pieces := raw.splitOn '"'
  (pieces.mapIdx fun i piece =>
    if i % 2 = 1 then [piece] else outside (i + 1 < pieces.length) piece).flatten

theorem splitOn_cons_self (mark : Char) (cs : List Char) :
    (mark :: cs).splitOn mark = [] :: cs.splitOn mark :=
  List.splitOn_append_cons_self [] cs

theorem splitOn_cons_of_ne {mark c : Char} (cs : List Char) (other : c ≠ mark) :
    (c :: cs).splitOn mark = (cs.splitOn mark).modifyHead (c :: ·) := by
  rw [List.splitOn_cons_eq_if_modifyHead, if_neg (by simpa using other)]

/-! ## Pieces outside of quotes -/

/-- Parts that trim to nothing give no argument. -/
theorem outside_eq (quoteFollows : Bool) (piece : List Char) (first : List Char)
    (rest : List (List Char)) (cut : piece.splitOn ',' = first :: rest) :
    outside quoteFollows piece =
      (if quoteFollows && rest.isEmpty then [] else [strip first].filter (· ≠ [])) ++
        ((if quoteFollows then rest.dropLast else rest).map strip).filter (· ≠ []) := by
  unfold outside
  rw [cut]
  cases quoteFollows with
  | false => simp [List.filter_cons]; split <;> rfl
  | true =>
      cases rest with
      | nil => rfl
      | cons second rest => simp [List.filter_cons]; split <;> rfl

/-- Blanks before the first part mean nothing. -/
theorem outside_cons_of_isBlank {c : Char} (quoteFollows : Bool) (piece : List Char)
    (blank : isBlank c = true) (part : c ≠ ',') :
    outside quoteFollows (c :: piece) = outside quoteFollows piece := by
  obtain ⟨first, rest, cut⟩ := List.exists_cons_of_ne_nil (List.splitOn_ne_nil ',' piece)
  have cut' : (c :: piece).splitOn ',' = (c :: first) :: rest := by
    rw [splitOn_cons_of_ne piece part, cut, List.modifyHead_cons]
  rw [outside_eq _ _ _ _ cut, outside_eq _ _ _ _ cut', strip_cons_of_isBlank first blank]

/-- A comma with nothing before it means nothing. -/
theorem outside_cons_comma (quoteFollows : Bool) (piece : List Char) :
    outside quoteFollows (',' :: piece) = outside quoteFollows piece := by
  rw [outside_eq _ _ _ _ (splitOn_cons_self ',' piece)]
  have more : (piece.splitOn ',').isEmpty = false := by simp
  rw [more]
  cases quoteFollows <;> rfl

/-- A part that ends at a comma is an argument of its own. -/
theorem outside_append_comma (quoteFollows : Bool) {part : List Char} (piece : List Char)
    (whole : ',' ∉ part) (solid : strip part ≠ []) :
    outside quoteFollows (part ++ ',' :: piece) = strip part :: outside quoteFollows piece := by
  have cut : (part ++ ',' :: piece).splitOn ',' = part :: piece.splitOn ',' :=
    List.splitOn_append_cons_self_of_not_mem whole piece
  rw [outside_eq _ _ _ _ cut]
  have more : (piece.splitOn ',').isEmpty = false := by simp
  rw [more, Bool.and_false, if_neg Bool.false_ne_true, List.filter_cons_of_pos (by simpa using solid)]
  cases quoteFollows <;> rfl

/-- The last part is an argument unless a quote follows. -/
theorem outside_of_not_mem (quoteFollows : Bool) {part : List Char} (whole : ',' ∉ part)
    (solid : strip part ≠ []) :
    outside quoteFollows part = if quoteFollows then [] else [strip part] := by
  rw [outside_eq _ _ _ _ (List.splitOn_eq_singleton whole)]
  cases quoteFollows with
  | true => rfl
  | false => simp [solid]

/-! ## Pieces by turns -/

/-- The arguments of pieces that lie inside and outside of quotes by turns. -/
def alternate : (inside : Bool) → List (List Char) → List (List Char)
  | _, [] => []
  | true, piece :: rest => piece :: alternate false rest
  | false, piece :: rest => outside (!rest.isEmpty) piece ++ alternate true rest

theorem alternate_eq_mapIdx (inside : Bool) (pieces : List (List Char)) :
    alternate inside pieces =
      (pieces.mapIdx fun i piece =>
        if (i + inside.toNat) % 2 = 1 then [piece]
        else outside (i + 1 < pieces.length) piece).flatten := by
  induction pieces generalizing inside with
  | nil => cases inside <;> rfl
  | cons piece rest ih =>
      have later : decide (1 < (piece :: rest).length) = !rest.isEmpty := by
        cases rest <;> simp
      have shift (i : Nat) : (i + 1 + 1 < (piece :: rest).length) ↔ (i + 1 < rest.length) := by
        simp
      cases inside with
      | true =>
          have parity (i : Nat) : (i + 1 + 1) % 2 = 1 ↔ (i + 0) % 2 = 1 := by omega
          simp only [alternate, ih, List.mapIdx_cons, List.flatten_cons, Bool.toNat_true,
            Bool.toNat_false, shift, parity]
          rfl
      | false =>
          simp only [alternate, ih, List.mapIdx_cons, List.flatten_cons, Bool.toNat_true,
            Bool.toNat_false, shift, later, Nat.add_zero, Nat.zero_add]
          simp

/-- The arguments of a text of which `read` belongs to the argument under way. -/
def resumed (inside : Bool) (read cs : List Char) : List (List Char) :=
  alternate inside ((cs.splitOn '"').modifyHead (read ++ ·))

theorem resumed_nil (inside : Bool) (read : List Char) :
    resumed inside read [] = if inside then [read] else outside false read := by
  cases inside <;> simp [resumed, alternate]

/-- A quote ends a quoted argument, or drops what was read before it. -/
theorem resumed_quote (inside : Bool) (read cs : List Char) :
    resumed inside read ('"' :: cs) =
      (if inside then [read] else outside true read) ++ resumed (!inside) [] cs := by
  unfold resumed
  rw [splitOn_cons_self, List.modifyHead_cons, List.append_nil]
  obtain ⟨piece, rest, cut⟩ := List.exists_cons_of_ne_nil (List.splitOn_ne_nil '"' cs)
  rw [cut]
  cases inside <;> rfl

theorem resumed_cons {c : Char} (inside : Bool) (read cs : List Char) (other : c ≠ '"') :
    resumed inside read (c :: cs) = resumed inside (read ++ [c]) cs := by
  unfold resumed
  rw [splitOn_cons_of_ne cs other, List.modifyHead_modifyHead]
  congr 2
  funext piece
  simp

/-- Stray commas, and blanks before an argument, mean nothing. -/
theorem resumed_cons_of_stray {c : Char} (cs : List Char) (other : c ≠ '"')
    (stray : c = ',' ∨ isBlank c = true) : resumed false [] (c :: cs) = resumed false [] cs := by
  unfold resumed
  obtain ⟨piece, rest, cut⟩ := List.exists_cons_of_ne_nil (List.splitOn_ne_nil '"' cs)
  rw [splitOn_cons_of_ne cs other, cut]
  have same : outside (!rest.isEmpty) (c :: piece) = outside (!rest.isEmpty) piece := by
    by_cases comma : c = ','
    · rw [comma, outside_cons_comma]
    · exact outside_cons_of_isBlank _ piece (stray.resolve_left comma) comma
  simp only [List.modifyHead_cons, List.nil_append, alternate, same]

/-- A comma ends a bare argument. -/
theorem resumed_comma {read : List Char} (cs : List Char) (whole : ',' ∉ read)
    (solid : strip read ≠ []) :
    resumed false read (',' :: cs) = strip read :: resumed false [] cs := by
  unfold resumed
  obtain ⟨piece, rest, cut⟩ := List.exists_cons_of_ne_nil (List.splitOn_ne_nil '"' cs)
  rw [splitOn_cons_of_ne cs (by decide), cut]
  simp only [List.modifyHead_cons, List.nil_append, alternate,
    outside_append_comma _ piece whole solid, List.cons_append]

/-! ## The reader -/

namespace Reading

/-- Whether the reader is between two quotes. -/
def isQuoted : Reading → Bool
  | .quoted _ => true
  | .nothing | .bare _ => false

/-- What has been read of the argument under way. -/
def text : Reading → List Char
  | .nothing => []
  | .bare read | .quoted read => read.reverse

/-- A bare argument under way has no comma and starts with a solid character. -/
def Sound : Reading → Prop
  | .bare read => ',' ∉ read.reverse ∧ ∃ c cs, read.reverse = c :: cs ∧ isBlank c = false
  | .nothing | .quoted _ => True

theorem Sound.bareArgument_eq {read : List Char} (sound : (bare read).Sound) :
    bareArgument read = strip read.reverse := by
  obtain ⟨_, c, cs, text, solid⟩ := sound
  rw [bareArgument, text]
  exact (strip_eq_stripEnd (startsClean_cons cs solid)).symm

theorem Sound.strip_ne_nil {read : List Char} (sound : (bare read).Sound) :
    strip read.reverse ≠ [] := by
  obtain ⟨_, c, cs, text, solid⟩ := sound
  rw [text]
  exact Text.strip_ne_nil cs solid

theorem Sound.cons {c : Char} {read : List Char} (sound : (bare read).Sound) (part : c ≠ ',') :
    (bare (c :: read)).Sound := by
  obtain ⟨whole, first, cs, text, solid⟩ := sound
  refine ⟨?_, first, cs ++ [c], ?_, solid⟩
  · simpa [Ne.symm part] using whole
  · rw [List.reverse_cons, text, List.cons_append]

/-- From every sound state, the reader finds the arguments of the pieces that are left. -/
theorem arguments_eq_resumed (reading : Reading) (cs : List Char) (sound : reading.Sound) :
    reading.arguments cs = resumed reading.isQuoted reading.text cs := by
  fun_induction Reading.arguments reading cs with
  -- The text is at its end, in each of the three states.
  | case1 => rfl
  | case2 read =>
      rw [resumed_nil]
      show [bareArgument read] = outside false read.reverse
      rw [outside_of_not_mem false sound.1 sound.strip_ne_nil, sound.bareArgument_eq]
      rfl
  | case3 read => exact (resumed_nil true read.reverse).symm
  -- Nothing is under way: a quote, a stray character, the first one of a bare argument.
  | case4 cs ih =>
      rw [ih trivial, resumed_quote]
      rfl
  | case5 c cs other stray ih =>
      rw [ih trivial]
      exact (resumed_cons_of_stray cs other (by simpa using stray)).symm
  | case6 c cs other solid ih =>
      obtain ⟨part, solid⟩ : c ≠ ',' ∧ isBlank c = false := by simpa using solid
      rw [ih ⟨by simpa using Ne.symm part, c, [], rfl, solid⟩]
      exact (resumed_cons false [] cs other).symm
  -- A bare argument is under way: a quote drops it, a comma ends it.
  | case7 read cs ih =>
      rw [ih trivial, resumed_quote]
      show _ = outside true read.reverse ++ _
      rw [outside_of_not_mem true sound.1 sound.strip_ne_nil]
      rfl
  | case8 read cs other ih =>
      rw [ih trivial, sound.bareArgument_eq]
      exact (resumed_comma cs sound.1 sound.strip_ne_nil).symm
  | case9 read c cs other part ih =>
      rw [ih (sound.cons part)]
      show resumed false (c :: read).reverse cs = resumed false read.reverse (c :: cs)
      rw [resumed_cons false _ cs other, List.reverse_cons]
  -- A quoted argument is under way: only a quote ends it.
  | case10 read cs ih =>
      rw [ih trivial]
      exact (resumed_quote true read.reverse cs).symm
  | case11 read c cs other ih =>
      rw [ih trivial]
      show resumed true (c :: read).reverse cs = resumed true read.reverse (c :: cs)
      rw [resumed_cons true _ cs other, List.reverse_cons]

end Reading

/-- The arguments in the text between the parentheses of a call are those of its pieces. -/
theorem arguments_eq_piecewise (raw : String) :
    arguments raw.toList = (piecewise raw.toList).map String.ofList := by
  have pieces : Reading.nothing.arguments raw.toList = alternate false (raw.toList.splitOn '"') := by
    rw [Reading.nothing.arguments_eq_resumed raw.toList trivial]
    show alternate false ((raw.toList.splitOn '"').modifyHead id) = _
    rw [List.modifyHead_id, id]
  rw [arguments, pieces, alternate_eq_mapIdx]
  rfl

end BuildScript.Script
