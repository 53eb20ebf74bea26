import Mathlib.Data.List.Basic

/-!
# Slices between byte offsets

A text is kept as its UTF-8 bytes, and a part of it can be taken by two byte offsets. Such a slice
exists only if the offsets are in order and each is a *boundary*: an end of the text, or a place between
two of its characters (`InRange`). An offset inside a character or beyond the end has no slice, and
whoever takes one there cannot go on.

* `isBoundary_iff`: the boundaries are the sizes of what the text starts with;
* `slice_eq_some`: the slice between the sizes of two such starts is what lies between them;
* `offsetOf_append`, `lastOffsetOf_append`: the offset of a character that is searched for is the size
  of what stands before it.
-/

namespace BuildScript.Text

/-! ## Boundaries -/

/-- The number of bytes of a text. -/
def byteSize (cs : List Char) : Nat := (String.ofList cs).utf8ByteSize

@[simp] theorem byteSize_nil : byteSize [] = 0 := rfl

theorem byteSize_append (cs ds : List Char) : byteSize (cs ++ ds) = byteSize cs + byteSize ds := by
  rw [byteSize, String.ofList_append, String.utf8ByteSize_append]
  rfl

theorem byteSize_singleton (c : Char) : byteSize [c] = c.utf8Size := by
  rw [byteSize, ← String.singleton_eq_ofList, String.utf8ByteSize_singleton]

theorem byteSize_concat (cs : List Char) (c : Char) :
    byteSize (cs ++ [c]) = byteSize cs + c.utf8Size := by
  rw [byteSize_append, byteSize_singleton]

theorem byteSize_toList (text : String) : byteSize text.toList = text.utf8ByteSize := by
  rw [byteSize, String.ofList_toList]

/-- Whether a byte offset is an end of a text or lies between two of its characters. -/
def IsBoundary (text : String) (offset : Nat) : Prop := String.Pos.Raw.IsValid text ⟨offset⟩

instance (text : String) (offset : Nat) : Decidable (IsBoundary text offset) :=
  inferInstanceAs (Decidable (String.Pos.Raw.IsValid text ⟨offset⟩))

theorem isBoundary_iff {text : String} {offset : Nat} :
    IsBoundary text offset ↔
      ∃ before after, text.toList = before ++ after ∧ offset = byteSize before := by
  rw [IsBoundary, String.Pos.Raw.isValid_iff_exists_append]
  constructor
  · rintro ⟨start, rest, rfl, place⟩
    refine ⟨start.toList, rest.toList, String.toList_append, ?_⟩
    rw [byteSize_toList]
    exact congrArg String.Pos.Raw.byteIdx place
  · rintro ⟨before, after, whole, rfl⟩
    refine ⟨String.ofList before, String.ofList after, ?_, rfl⟩
    rw [← String.ofList_append, ← whole, String.ofList_toList]

/-- Two byte offsets between which a text has a slice. -/
structure InRange (text : String) (first last : Nat) : Prop where
  ordered : first ≤ last
  first : IsBoundary text first
  last : IsBoundary text last

theorem inRange_iff {text : String} {first last : Nat} :
    InRange text first last ↔ first ≤ last ∧ IsBoundary text first ∧ IsBoundary text last :=
  ⟨fun range => ⟨range.ordered, range.first, range.last⟩, fun ⟨o, f, l⟩ => ⟨o, f, l⟩⟩

instance (text : String) (first last : Nat) : Decidable (InRange text first last) :=
  decidable_of_iff _ inRange_iff.symm

/-- No slice begins at the second byte of a character. -/
example : ¬InRange "é" 1 2 := by decide

theorem InRange.last_le {text : String} {first last : Nat} (range : InRange text first last) :
    last ≤ text.utf8ByteSize := range.last.le_rawEndPos

theorem inRange_of_append {text : String} {before part after : List Char}
    (whole : text.toList = before ++ part ++ after) :
    InRange text (byteSize before) (byteSize before + byteSize part) where
  ordered := Nat.le_add_right _ _
  first := isBoundary_iff.mpr ⟨before, part ++ after, by rw [whole, List.append_assoc], rfl⟩
  last := isBoundary_iff.mpr ⟨before ++ part, after, whole, (byteSize_append before part).symm⟩

theorem inRange_start {text : String} {part after : List Char} (whole : text.toList = part ++ after) :
    InRange text 0 (byteSize part) := by
  have range := inRange_of_append (show text.toList = [] ++ part ++ after from whole)
  rwa [byteSize_nil, Nat.zero_add] at range

/-- What is in range up to some place is in range up to the end. -/
theorem InRange.toEnd {text : String} {first last : Nat} (range : InRange text first last) :
    InRange text first text.utf8ByteSize where
  ordered := Nat.le_trans range.ordered range.last_le
  first := range.first
  last := String.Pos.Raw.isValid_rawEndPos

/-! ## Slices -/

/-- The slice of a text between two byte offsets, which exists if they are in range. -/
def slice (text : String) (first last : Nat) : Option String :=
  if range : InRange text first last then
    some (text.slice ⟨⟨first⟩, range.first⟩ ⟨⟨last⟩, range.last⟩ range.ordered).copy
  else none

theorem slice_isSome_iff {text : String} {first last : Nat} :
    (slice text first last).isSome = true ↔ InRange text first last := by
  unfold slice
  split <;> simpa

/-- What stands between two starts of a text is the slice between their sizes. -/
theorem slice_eq_some {text : String} {before part after : List Char}
    (whole : text.toList = before ++ part ++ after) :
    slice text (byteSize before) (byteSize before + byteSize part) = some (String.ofList part) := by
  have range := inRange_of_append whole
  have text_eq : text = String.ofList before ++ (String.ofList part ++ String.ofList after) := by
    rw [← String.ofList_append, ← String.ofList_append, ← List.append_assoc, ← whole,
      String.ofList_toList]
  -- Both offsets split the text, and the slice is what stands between the two splits.
  have starts : String.Pos.Splits (⟨⟨byteSize before⟩, range.first⟩ : text.Pos)
      (String.ofList before) (String.ofList part ++ String.ofList after) := ⟨text_eq, rfl⟩
  have ends : String.Pos.Splits (⟨⟨byteSize before + byteSize part⟩, range.last⟩ : text.Pos)
      (String.ofList before ++ String.ofList part) (String.ofList after) := by
    refine ⟨text_eq.trans String.append_assoc.symm, String.Pos.Raw.ext ?_⟩
    rw [String.byteIdx_rawEndPos, String.utf8ByteSize_append]
    rfl
  obtain ⟨_, copied⟩ := String.copy_slice_eq_iff_splits.mpr ⟨_, _, starts, ends⟩
  rw [slice, dif_pos range]
  exact congrArg some copied

theorem slice_start {text : String} {part after : List Char}
    (whole : text.toList = part ++ after) :
    slice text 0 (byteSize part) = some (String.ofList part) := by
  have found := slice_eq_some (show text.toList = [] ++ part ++ after from whole)
  rwa [byteSize_nil, Nat.zero_add] at found

theorem slice_end {text : String} {before part : List Char}
    (whole : text.toList = before ++ part) :
    slice text (byteSize before) text.utf8ByteSize = some (String.ofList part) := by
  have found := slice_eq_some (whole.trans (List.append_nil _).symm)
  rwa [← byteSize_append, ← whole, byteSize_toList] at found

/-! ## Searching -/

/-- The characters of a text with the byte offsets at which they start, the first of them at
`offset`. -/
def indexed (offset : Nat) : List Char → List (Nat × Char)
  | [] => []
  | c :: cs => (offset, c) :: indexed (offset + c.utf8Size) cs

theorem indexed_append (offset : Nat) (cs ds : List Char) :
    indexed offset (cs ++ ds) = indexed offset cs ++ indexed (offset + byteSize cs) ds := by
  induction cs generalizing offset with
  | nil => rfl
  | cons c cs ih =>
      have size : byteSize (c :: cs) = c.utf8Size + byteSize cs := by
        rw [← List.singleton_append, byteSize_append, byteSize_singleton]
      rw [List.cons_append, indexed, indexed, ih, size, Nat.add_assoc, List.cons_append]

theorem map_snd_indexed (offset : Nat) (cs : List Char) :
    (indexed offset cs).map Prod.snd = cs := by
  induction cs generalizing offset with
  | nil => rfl
  | cons c cs ih => rw [indexed, List.map_cons, ih]

/-- The offset of the first of some places where a character of a class stands. -/
def search (p : Char → Bool) (places : List (Nat × Char)) : Option Nat :=
  (places.find? fun place => p place.2).map Prod.fst

/-- The byte offset of the first character of a class. -/
def offsetOf (p : Char → Bool) (text : String) : Option Nat := search p (indexed 0 text.toList)

/-- The byte offset of the last character of a class. -/
def lastOffsetOf (p : Char → Bool) (text : String) : Option Nat :=
  search p (indexed 0 text.toList).reverse

section

variable {p : Char → Bool} {text : String} {before after : List Char} {c : Char}

theorem search_append {front rest : List (Nat × Char)} {offset : Nat}
    (others : ∀ place ∈ front, p place.2 = false) (found : p c = true) :
    search p (front ++ (offset, c) :: rest) = some offset := by
  have nowhere : front.find? (fun place => p place.2) = none :=
    List.find?_eq_none.mpr fun place member => by simp [others place member]
  simp [search, List.find?_append, nowhere, found]

theorem search_eq_none {places : List (Nat × Char)}
    (others : ∀ place ∈ places, p place.2 = false) : search p places = none := by
  rw [search, List.find?_eq_none.mpr fun place member => by simp [others place member],
    Option.map_none]

theorem forall_mem_indexed {offset : Nat} {cs : List Char} (others : ∀ d ∈ cs, p d = false) :
    ∀ place ∈ indexed offset cs, p place.2 = false := by
  intro place member
  apply others
  rw [← map_snd_indexed offset cs]
  exact List.mem_map_of_mem member

theorem forall_mem_reverse_indexed {offset : Nat} {cs : List Char}
    (others : ∀ d ∈ cs, p d = false) :
    ∀ place ∈ (indexed offset cs).reverse, p place.2 = false := fun place member =>
  forall_mem_indexed others place (List.mem_reverse.mp member)

theorem offsetOf_append (whole : text.toList = before ++ c :: after)
    (others : ∀ d ∈ before, p d = false) (found : p c = true) :
    offsetOf p text = some (byteSize before) := by
  rw [offsetOf, whole, indexed_append, Nat.zero_add, indexed]
  exact search_append (forall_mem_indexed others) found

theorem offsetOf_eq_none (others : ∀ d ∈ text.toList, p d = false) : offsetOf p text = none :=
  search_eq_none (forall_mem_indexed others)

theorem lastOffsetOf_append (whole : text.toList = before ++ c :: after)
    (others : ∀ d ∈ after, p d = false) (found : p c = true) :
    lastOffsetOf p text = some (byteSize before) := by
  rw [lastOffsetOf, whole, indexed_append, Nat.zero_add, indexed, List.reverse_append,
    List.reverse_cons, List.append_assoc]
  exact search_append (forall_mem_reverse_indexed others) found

theorem lastOffsetOf_eq_none (others : ∀ d ∈ text.toList, p d = false) :
    lastOffsetOf p text = none :=
  search_eq_none (forall_mem_reverse_indexed others)

end

end BuildScript.Text
