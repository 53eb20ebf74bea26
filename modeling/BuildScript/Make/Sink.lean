/-!
# Sinks

A sink takes text and may refuse some of it. `put` says whether the whole text was taken; after a
refusal the sink may have kept a part of the text, and what it keeps then is its own affair.

Two sinks are defined: a text that takes everything, and a text of bounded size that keeps every
character up to the first that does not fit and refuses all that follows.
-/

namespace BuildScript.Make

/-- A way to write text into an `ω`. -/
structure Sink (ω : Type) where
  put : String → ω → Bool × ω

/-- Writes pieces one after another, up to the first that is refused. -/
def Sink.putAll {ω : Type} (sink : Sink ω) : List String → ω → Bool × ω
  | [], out => (true, out)
  | piece :: rest, out =>
    match sink.put piece out with
    | (true, out) => sink.putAll rest out
    | (false, out) => (false, out)

/-- The sink that takes everything. -/
def unlimited : Sink String where
  put piece out := (true, out ++ piece)

/-- A text of bounded size. -/
structure Bounded where
  /-- The greatest size in UTF-8 bytes. -/
  capacity : Nat
  /-- What was taken so far. -/
  text : String
  /-- Whether a character was refused. -/
  full : Bool
  deriving DecidableEq, Repr

/-- An empty text of bounded size. -/
def Bounded.ofCapacity (capacity : Nat) : Bounded := ⟨capacity, "", false⟩

/-- The longest start of a text that takes at most `room` bytes, and whether it is all of it. -/
def fitting : Nat → List Char → List Char × Bool
  | _, [] => ([], true)
  | room, c :: cs =>
    if c.utf8Size ≤ room then
      let (taken, whole) := fitting (room - c.utf8Size) cs
      (c :: taken, whole)
    else ([], false)

/-- Takes what fits of a piece. -/
def Bounded.put (piece : String) (out : Bounded) : Bool × Bounded :=
  if piece.toList.isEmpty then (true, out)
  else if out.full then (false, out)
  else
    let (taken, whole) := fitting (out.capacity - out.text.utf8ByteSize) piece.toList
    (whole, { out with text := out.text ++ String.ofList taken, full := !whole })

/-- The sink that takes what fits. -/
def bounded : Sink Bounded where
  put := Bounded.put

end BuildScript.Make
