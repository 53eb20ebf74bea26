import BuildScript.Proofs.Script.LineForm
import BuildScript.Proofs.Script.Pieces
import BuildScript.Proofs.Text.Lines

/-!
# Arguments lie on one line

Reading puts nothing into an argument that was not in the line (`mem_of_mem_args`), and the lines of a
script hold no newline. So no argument does, however it is quoted (`newline_not_mem_args`).
-/

namespace BuildScript.Script

open Text

/-- The characters of an argument are characters of the text, or had been read before. -/
theorem Reading.arguments_subset (reading : Reading) (cs : List Char) :
    ∀ arg ∈ reading.arguments cs, arg ⊆ reading.text ++ cs := by
  have bare (read cs : List Char) : bareArgument read ⊆ (Reading.bare read).text ++ cs :=
    List.subset_append_of_subset_left cs (stripEnd_isPrefix read.reverse).subset
  -- What is begun anew has only the rest of the text.
  have anew {arg : List Char} (c : Char) (before cs : List Char) (within : arg ⊆ cs) :
      arg ⊆ before ++ c :: cs :=
    List.subset_append_of_subset_right before (List.subset_cons_of_subset c within)
  fun_induction Reading.arguments reading cs with
  | case1 => simp
  | case2 read => simpa using bare read []
  | case3 read => simp [text]
  | case4 cs ih => exact fun arg among => anew '"' [] cs (ih arg among)
  | case5 c cs other stray ih => exact fun arg among => anew c [] cs (ih arg among)
  | case6 c cs other solid ih => exact ih
  | case7 read cs ih => exact fun arg among => anew '"' read.reverse cs (ih arg among)
  | case8 read cs other ih =>
      refine List.forall_mem_cons.mpr ⟨bare read _, fun arg among => ?_⟩
      exact anew ',' read.reverse cs (ih arg among)
  | case9 read c cs other part ih => simpa [text] using ih
  | case10 read cs ih =>
      refine List.forall_mem_cons.mpr ⟨List.subset_append_left _ _, fun arg among => ?_⟩
      exact anew '"' read.reverse cs (ih arg among)
  | case11 read c cs other ih => simpa [text] using ih

theorem mem_of_mem_strip {cs : List Char} {c : Char} (member : c ∈ strip cs) : c ∈ cs :=
  (List.dropWhile_suffix isBlank).subset ((stripEnd_isPrefix (stripStart cs)).subset member)

/-- The characters of an argument are characters of the line. -/
theorem mem_of_mem_args {line : List Char} {call : Call} (read : Line.ofChars line = .call call)
    {arg : String} (among : arg ∈ call.args) {c : Char} (member : c ∈ arg.toList) : c ∈ line := by
  obtain ⟨-, before, raw, tail, whole, -, -, -, -, args⟩ := ofChars_eq_call_iff.mp read
  rw [← args] at among
  obtain ⟨chars, found, rfl⟩ := List.mem_map.mp among
  rw [String.toList_ofList] at member
  apply mem_of_mem_strip
  have inRaw : c ∈ raw := Reading.nothing.arguments_subset raw chars found member
  rw [whole]
  simp [inRaw]

/-- No argument of a call in a script holds a newline. -/
theorem newline_not_mem_args {source : List Char} {call : Call}
    (among : .call call ∈ (lines source).map Line.ofChars) :
    ∀ arg ∈ call.args, '\n' ∉ arg.toList := by
  obtain ⟨line, member, read⟩ := List.mem_map.mp among
  intro arg inCall newline
  exact newline_not_mem_of_mem_lines member (mem_of_mem_args read inCall newline)

end BuildScript.Script
