/-!
# Reading bytes as UTF-8

`decode` accepts exactly the bytes that are valid UTF-8 and otherwise says where the first
invalid sequence starts and how long it is. `decodeLossy` puts U+FFFD in the place of each such
sequence and never fails.

An invalid sequence is as long as the start of a character that it contains: its first byte
cannot start a character (length 1), or a later byte cannot continue what came before it (that
byte is not part of the sequence).
-/

namespace BuildScript.Text.Utf8

/-! ## One character -/

/-- What the first byte of a character demands: the number of bytes to follow, the bounds of the
first of them, and the part of the code point that it carries itself. -/
structure Lead where
  tails : Nat
  low : Nat
  high : Nat
  value : Nat

/-- The demands of a byte, if it can start a character. -/
def lead (b : Nat) : Option Lead :=
  if b ≤ 0x7F then some ⟨0, 0x80, 0xBF, b⟩
  else if b < 0xC2 then none
  else if b ≤ 0xDF then some ⟨1, 0x80, 0xBF, b - 0xC0⟩
  else if b = 0xE0 then some ⟨2, 0xA0, 0xBF, 0⟩
  else if b = 0xED then some ⟨2, 0x80, 0x9F, 0xD⟩
  else if b ≤ 0xEF then some ⟨2, 0x80, 0xBF, b - 0xE0⟩
  else if b = 0xF0 then some ⟨3, 0x90, 0xBF, 0⟩
  else if b ≤ 0xF3 then some ⟨3, 0x80, 0xBF, b - 0xF0⟩
  else if b = 0xF4 then some ⟨3, 0x80, 0x8F, 4⟩
  else none

/-- How a sequence of bytes starts. -/
inductive Head where
  /-- With a character written in `size` bytes. -/
  | char (c : Char) (size : Nat)
  /-- With `size` bytes that belong to no character. -/
  | invalid (size : Nat)
  /-- With a character that the end of the input cuts off after `size` bytes. -/
  | cut (size : Nat)

/-- Reads `tails` further bytes of a character, of which `size` bytes were read. -/
def follow (low high value size : Nat) : Nat → List UInt8 → Head
  | 0, _ => .char (Char.ofNat value) size
  | _ + 1, [] => .cut size
  | tails + 1, b :: bs =>
    if low ≤ b.toNat && b.toNat ≤ high then
      follow 0x80 0xBF (value * 64 + (b.toNat - 0x80)) (size + 1) tails bs
    else .invalid size

/-- How the bytes `b :: bs` start. -/
def head (b : UInt8) (bs : List UInt8) : Head :=
  match lead b.toNat with
  | none => .invalid 1
  | some demand => follow demand.low demand.high demand.value 1 demand.tails bs

/-! ## Whole texts -/

/-- Where bytes stop being UTF-8. -/
structure Fault where
  /-- The number of valid bytes before the fault. -/
  index : Nat
  /-- The length of the invalid sequence; `none` if the input ends inside a character. -/
  size : Option Nat
  deriving DecidableEq, Repr

/-- The wording of a fault. -/
def Fault.message (fault : Fault) : String :=
  match fault.size with
  | some size => s!"invalid utf-8 sequence of {size} bytes from index {fault.index}"
  | none => s!"incomplete utf-8 byte sequence from index {fault.index}"

/-- The first fault in bytes that follow `index` valid ones. -/
def faultFrom (index : Nat) : List UInt8 → Fault
  | [] => ⟨index, none⟩
  | b :: bs =>
    match head b bs with
    | .char _ size => faultFrom (index + size) (bs.drop (size - 1))
    | .invalid size => ⟨index, some size⟩
    | .cut _ => ⟨index, none⟩
  termination_by bytes => bytes.length
  decreasing_by rw [List.length_drop, List.length_cons]; omega

/-- The text that the bytes encode, or the first fault in them. -/
def decode (bytes : ByteArray) : Except Fault String :=
  match String.fromUTF8? bytes with
  | some text => .ok text
  | none => .error (faultFrom 0 bytes.toList)

/-- The characters of the bytes, with U+FFFD for each sequence that encodes none. -/
def decodeLossy : List UInt8 → List Char
  | [] => []
  | b :: bs =>
    match head b bs with
    | .char c size => c :: decodeLossy (bs.drop (size - 1))
    | .invalid size => '\uFFFD' :: decodeLossy (bs.drop (size - 1))
    | .cut _ => ['\uFFFD']
  termination_by bytes => bytes.length
  decreasing_by all_goals rw [List.length_drop, List.length_cons]; omega

/-- The text that the bytes encode, with U+FFFD for each sequence that encodes none. -/
def lossy (bytes : ByteArray) : String := String.ofList (decodeLossy bytes.toList)

end BuildScript.Text.Utf8
