import BuildScript.Shell.Word

/-!
# Patterns

A pattern is a text in which `*` stands for any text, `?` for any character, and a class in
brackets for any of its characters, unless they are quoted.
-/

namespace BuildScript.Shell

/-- An element of a pattern. -/
inductive Glob where
  | char (c : Char)
  /-- Any text. -/
  | star
  /-- Any character. -/
  | any
  /-- Any character in one of the ranges, or in none of them. -/
  | among (inverted : Bool) (ranges : List (Char × Char))
  deriving DecidableEq, Repr

/-- A character, and whether it was quoted. -/
abbrev Marked := Char × Bool

/-- The ranges of a class, up to the bracket that ends it, and what follows. -/
def ranges : List Marked → Option (List (Char × Char) × List Marked)
  | [] => none
  | (low, _) :: ('-', false) :: (high, false) :: rest =>
    if high = ']' then some ([(low, low), ('-', '-')], rest)
    else match rest with
      | (']', false) :: rest => some ([(low, high)], rest)
      | rest => (ranges rest).map fun (rs, rest) => ((low, high) :: rs, rest)
  | (c, _) :: (']', false) :: rest => some ([(c, c)], rest)
  | (c, _) :: rest => (ranges rest).map fun (rs, rest) => ((c, c) :: rs, rest)

/-- The class that an opening bracket starts, and what follows. -/
def classHead? : List Marked → Option (Glob × List Marked)
  | ('!', false) :: rest => (ranges rest).map fun (rs, rest) => (.among true rs, rest)
  | rest => (ranges rest).map fun (rs, rest) => (.among false rs, rest)

/-- The pattern that marked characters write. -/
def globsFrom : (fuel : Nat) → List Marked → List Glob
  | 0, _ | _, [] => []
  | fuel + 1, (c, quoted) :: rest =>
    if quoted then .char c :: globsFrom fuel rest
    else if c = '*' then .star :: globsFrom fuel rest
    else if c = '?' then .any :: globsFrom fuel rest
    else if c = '[' then
      match classHead? rest with
      | some (glob, rest) => glob :: globsFrom fuel rest
      | none => .char c :: globsFrom fuel rest
    else .char c :: globsFrom fuel rest

/-- The pattern that marked characters write. -/
def globs (marked : List Marked) : List Glob := globsFrom (marked.length + 1) marked

/-- Whether a pattern is more than a text. -/
def isPattern (gs : List Glob) : Bool :=
  gs.any fun
    | .char _ => false
    | _ => true

/-- Whether an element other than `star` stands for a character. -/
def Glob.accepts (g : Glob) (c : Char) : Bool :=
  match g with
  | .char d => c = d
  | .star | .any => true
  | .among inverted ranges => ranges.any (fun (low, high) => low ≤ c && c ≤ high) != inverted

/-- Whether a pattern matches a text. -/
def matchesAll : List Glob → Bytes → Bool
  | [], cs => cs.isEmpty
  | .star :: gs, [] => matchesAll gs []
  | .star :: gs, c :: cs => matchesAll gs (c :: cs) || matchesAll (.star :: gs) cs
  | _ :: _, [] => false
  | g :: gs, c :: cs => g.accepts c && matchesAll gs cs
  termination_by gs cs => gs.length + cs.length

/-- The text without its shortest or longest start that matches. -/
def dropStart (longest : Bool) (gs : List Glob) (cs : Bytes) : Bytes :=
  let cuts := (List.range (cs.length + 1)).filter fun n => matchesAll gs (cs.take n)
  match if longest then cuts.getLast? else cuts.head? with
  | some n => cs.drop n
  | none => cs

/-- The text without its shortest or longest end that matches. -/
def dropEnd (longest : Bool) (gs : List Glob) (cs : Bytes) : Bytes :=
  let cuts := (List.range (cs.length + 1)).filter fun n => matchesAll gs (cs.drop n)
  match if longest then cuts.head? else cuts.getLast? with
  | some n => cs.take n
  | none => cs

end BuildScript.Shell
