import BuildScript.Proofs.Text.Lines
import BuildScript.Script.Line
import Mathlib.Data.List.Basic

/-!
# Line numbers

The lines of a script are numbered in their order. A script that goes on after its last line has
ended keeps the numbers that it has given, and what comes after is numbered from there on
(`parse_append`). What is picked out of numbered things, each with its number, still has ascending
numbers (`ascending_filterMap`).
-/

namespace BuildScript.Script

open Text

theorem numbered_eq_mapIdx (first : Nat) (ls : List (List Char)) :
    numbered first ls = ls.mapIdx fun i line => (first + i, Line.ofChars line) := by
  induction ls generalizing first with
  | nil => rfl
  | cons line ls ih =>
      rw [numbered, ih, List.mapIdx_cons]
      congr 2
      funext i line
      rw [Nat.add_assoc, Nat.add_comm 1 i]

theorem map_snd_numbered (first : Nat) (ls : List (List Char)) :
    (numbered first ls).map Prod.snd = ls.map Line.ofChars := by
  rw [numbered_eq_mapIdx]
  refine List.ext_getElem? fun i => ?_
  simp [Function.comp_def]

/-- A numbered line further down in a script. -/
def later (offset : Nat) (numbered : Nat × Line) : Nat × Line := (numbered.1 + offset, numbered.2)

theorem numbered_later (offset first : Nat) (ls : List (List Char)) :
    numbered (first + offset) ls = (numbered first ls).map (later offset) := by
  induction ls generalizing first with
  | nil => rfl
  | cons line ls ih =>
      rw [numbered, numbered, List.map_cons, ← ih, Nat.add_right_comm]
      rfl

theorem numbered_append (number : Nat) (first rest : List (List Char)) :
    numbered number (first ++ rest) =
      numbered number first ++ numbered (number + first.length) rest := by
  rw [numbered_eq_mapIdx, numbered_eq_mapIdx, numbered_eq_mapIdx, List.mapIdx_append]
  congr 2
  funext i line
  rw [Nat.add_comm i, Nat.add_assoc]

theorem parse_append (first second : String) (ended : Ended first.toList) :
    parse (first ++ second) =
      parse first ++ (parse second).map (later (lines first.toList).length) := by
  rw [parse, parse, parse, String.toList_append, lines_append _ ended, numbered_append,
    numbered_later]

/-- Lines that say related things have the same numbers. -/
theorem numbered_beside {related : Line → Line → Prop} {first : Nat} {ls ls' : List (List Char)}
    (beside : List.Forall₂ related ((numbered first ls).map Prod.snd)
      ((numbered first ls').map Prod.snd)) :
    List.Forall₂ (fun line line' => line'.1 = line.1 ∧ related line.2 line'.2)
      (numbered first ls) (numbered first ls') := by
  induction ls generalizing first ls' with
  | nil =>
      cases ls' with
      | nil => exact .nil
      | cons line' ls' => cases beside
  | cons line ls ih =>
      cases ls' with
      | nil => cases beside
      | cons line' ls' =>
          obtain ⟨head, rest⟩ := List.forall₂_cons.mp beside
          exact .cons ⟨rfl, head⟩ (ih rest)

theorem ascending_filterMap {α β : Type} {number : α → Nat} {pick : α → Option (Nat × β)}
    {things : List α} (ascending : things.Pairwise fun a b => number a < number b)
    (kept : ∀ a picked, pick a = some picked → picked.1 = number a) :
    ((things.filterMap pick).map Prod.fst).Pairwise (· < ·) := by
  rw [List.pairwise_map]
  refine ascending.filterMap pick fun a b less picked found picked' found' => ?_
  rw [kept a picked found, kept b picked' found']
  exact less

end BuildScript.Script
