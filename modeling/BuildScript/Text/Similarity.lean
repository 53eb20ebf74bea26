/-!
# Similarity of words

How alike two words are, by the measure of Jaro. Equal characters match if they stand near enough
to each other, each at most once. With `m` matches among words of lengths `p` and `q`, and half of
the `t` matches that stand in another order, the similarity is the mean of `m / p`, `m / q` and
`(m - t) / m`. It is kept as an exact fraction.
-/

namespace BuildScript.Text

/-- How far apart equal characters may stand and still match. -/
def matchingRange (a b : List Char) : Nat := max a.length b.length / 2 - 1

/-- Matches the first free occurrence of `c` among marked characters, from index `low` to before
index `high`. -/
def claimMatch (c : Char) : (low high : Nat) → List (Char × Bool) → Option (List (Char × Bool))
  | _, 0, _ => none
  | _, _, [] => none
  | 0, high + 1, (d, taken) :: rest =>
    if c = d && !taken then some ((d, true) :: rest)
    else (claimMatch c 0 high rest).map ((d, taken) :: ·)
  | low + 1, high + 1, d :: rest => (claimMatch c low high rest).map (d :: ·)

/-- The matched characters of both words, in the order of each. `index` counts the characters of
the first word that were handled. -/
def claimMatches (range : Nat) :
    (index : Nat) → List Char → List (Char × Bool) → List Char × List (Char × Bool)
  | _, [], marked => ([], marked)
  | index, c :: cs, marked =>
    match claimMatch c (index - range) (index + range + 1) marked with
    | none => claimMatches range (index + 1) cs marked
    | some marked =>
      let (found, marked) := claimMatches range (index + 1) cs marked
      (c :: found, marked)

/-- How alike two words are, as a numerator and a denominator. -/
def similarity (a b : List Char) : Nat × Nat :=
  let (found, marked) := claimMatches (matchingRange a b) 0 a (b.map (·, false))
  let claimed := (marked.filter Prod.snd).map Prod.fst
  let m := found.length
  let moved := (found.zip claimed).countP fun (c, d) => c != d
  let (p, q) := (a.length, b.length)
  if p = 0 && q = 0 then (1, 1)
  else if m = 0 then (0, 1)
  else (m * m * q + m * m * p + (m - moved / 2) * p * q, 3 * m * p * q)

/-- Whether a fraction is greater than another. -/
def exceeds (x y : Nat × Nat) : Bool := decide (y.1 * x.2 < x.1 * y.2)

/-- The least similarity of words that may have been confused is above seven tenths. -/
def likeness : Nat × Nat := (7, 10)

/-- The candidate that is most like a word, if any is like enough; the last of several. -/
def nearest {α : Type} (word : String) (name : α → String) (candidates : List α) : Option α :=
  let rated := candidates.map fun a => (a, similarity word.toList (name a).toList)
  let best := (rated.filter fun r => exceeds r.2 likeness).foldl
    (fun best r => match best with
      | none => some r
      | some b => if exceeds b.2 r.2 then some b else some r) none
  best.map Prod.fst

end BuildScript.Text
