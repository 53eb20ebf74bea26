import BuildScript.Shell.Token

/-!
# Formatted output

How `echo` and `printf` turn their operands into text.
-/

namespace BuildScript.Shell

/-- The value of an octal digit. -/
def octal? (c : Char) : Option Nat :=
  if '0' ≤ c && c ≤ '7' then some (c.toNat - '0'.toNat) else none

/-- The byte that up to `count` octal digits write, and what follows them. -/
def octalByte (value : Nat) : (count : Nat) → Bytes → Char × Bytes
  | 0, cs => (Char.ofNat (value % 256), cs)
  | _, [] => (Char.ofNat (value % 256), [])
  | count + 1, c :: cs =>
    match octal? c with
    | some digit => octalByte (value * 8 + digit) count cs
    | none => (Char.ofNat (value % 256), c :: cs)

/-- The character that a letter behind a backslash stands for. -/
def escaped? : Char → Option Char
  | 'a' => some '\x07'
  | 'b' => some '\x08'
  | 'e' => some '\x1b'
  | 'f' => some '\x0c'
  | 'n' => some '\n'
  | 'r' => some '\r'
  | 't' => some '\t'
  | 'v' => some '\x0b'
  | '\\' => some '\\'
  | _ => none

/-- The text that an operand with escapes writes, and whether output ends with it. -/
def unescaped : (fuel : Nat) → Bytes → Bytes × Bool
  | 0, _ | _, [] => ([], false)
  | fuel + 1, '\\' :: c :: cs =>
    let followedBy (ch : Char) (rest : Bytes) : Bytes × Bool :=
      let (text, ends) := unescaped fuel rest
      (ch :: text, ends)
    if c = 'c' then ([], true)
    else if (octal? c).isSome then
      let (byte, rest) := octalByte 0 3 (if c = '0' then cs else c :: cs)
      followedBy byte rest
    else match escaped? c with
      | some ch => followedBy ch cs
      | none =>
        let (text, ends) := unescaped fuel cs
        ('\\' :: c :: text, ends)
  | fuel + 1, c :: cs =>
    let (text, ends) := unescaped fuel cs
    (c :: text, ends)

/-- The operands of `echo`, with a blank between two. -/
def echoOperands : List Bytes → Bytes × Bool
  | [] => ([], false)
  | operand :: rest =>
    match unescaped (operand.length + 1) operand with
    | (text, true) => (text, true)
    | (text, false) =>
      if rest.isEmpty then (text, false)
      else
        let (more, ends) := echoOperands rest
        (text ++ ' ' :: more, ends)

/-- What `echo` writes. -/
def echoText (operands : List Bytes) : Bytes :=
  let (bare, operands) := match operands with
    | ['-', 'n'] :: rest => (true, rest)
    | all => (false, all)
  let (text, ends) := echoOperands operands
  if bare || ends then text else text ++ ['\n']

/-! ## Formats -/

/-- A width or precision: none, a number, or what the next operand says. -/
inductive Extent where
  | none
  | fixed (size : Nat)
  | given
  deriving DecidableEq, Repr

/-- How a format converts an operand. -/
structure Conversion where
  flags : Bytes
  width : Extent
  precision : Extent
  kind : Char
  deriving DecidableEq, Repr

/-- A conversion with its width and precision. -/
structure Layout where
  conversion : Conversion
  width : Nat
  precision : Option Nat

namespace Layout

/-- Whether a flag is set. -/
def has (l : Layout) (flag : Char) : Bool := l.conversion.flags.contains flag

/-- A text in a field of some width. -/
def pad (l : Layout) (text : Bytes) : Bytes :=
  let fill := List.replicate (l.width - text.length) ' '
  if l.has '-' then text ++ fill else fill ++ text

/-- A number in a field of some width, zeros filled in behind its sign or mark. -/
def padNumber (l : Layout) (mark digits : Bytes) : Bytes :=
  let digits := match l.precision with
    | some least => List.replicate (least - digits.length) '0' ++ digits
    | none => digits
  if l.has '0' && !l.has '-' && l.precision.isNone then
    mark ++ List.replicate (l.width - mark.length - digits.length) '0' ++ digits
  else l.pad (mark ++ digits)

/-- The start of a text that the precision leaves. -/
def cut (l : Layout) (text : Bytes) : Bytes := l.precision.elim text text.take

/-- The text of a number. -/
def number (l : Layout) (n : Int) : Bytes :=
  let kind := l.conversion.kind
  if kind = 'd' || kind = 'i' then
    let sign := if n < 0 then ['-'] else if l.has '+' then ['+'] else if l.has ' ' then [' '] else []
    l.padNumber sign (Nat.toDigits 10 n.natAbs)
  else
    let base := if kind = 'o' then 8 else if kind = 'u' then 10 else 16
    let digits := Nat.toDigits base (n.emod 0x10000000000000000).toNat
    let mark := if !l.has '#' || n = 0 then [] else if kind = 'o' then ['0']
      else if kind = 'x' || kind = 'X' then ['0', kind] else []
    l.padNumber mark (if kind = 'X' then digits.map Char.toUpper else digits)

end Layout

/-! ## Numbers -/

/-- The value of a digit up to `f`. -/
def digit? (c : Char) : Option Nat :=
  if c.isDigit then some (c.toNat - '0'.toNat)
  else
    let c := c.toLower
    if 'a' ≤ c && c ≤ 'f' then some (c.toNat - 'a'.toNat + 10) else none

/-- The number that the digits at the start of a text write in a base, and what follows. -/
def digitsHead (base value : Nat) : Bytes → Nat × Bytes
  | [] => (value, [])
  | c :: cs =>
    match digit? c with
    | some d => if d < base then digitsHead base (value * base + d) cs else (value, c :: cs)
    | none => (value, c :: cs)

/-- The number with which a text starts, and what follows; octal after a zero, hexadecimal after
`0x`. -/
def naturalHead : Bytes → Nat × Bytes
  | '0' :: x :: d :: cs =>
    if (x = 'x' || x = 'X') && (digit? d).isSome then digitsHead 16 0 (d :: cs)
    else digitsHead 8 0 (x :: d :: cs)
  | '0' :: cs => digitsHead 8 0 cs
  | cs => digitsHead 10 0 cs

/-- A number within 64 bits, unsigned ones included. -/
def clamp (signed : Bool) (n : Int) : Int :=
  if signed then max (-0x8000000000000000) (min 0x7fffffffffffffff n)
  else min 0xffffffffffffffff n

/-- The number that an operand writes, and what is wrong with it. The character after a quote
counts as its code. -/
def operandNumber (signed : Bool) (operand : Bytes) : Int × Option Bytes :=
  match operand with
  | '\'' :: c :: _ | '"' :: c :: _ => (c.toNat, none)
  | _ =>
    let text := operand.dropWhile " \t\n".toList.contains
    let (negative, digits) := match text with
      | '-' :: digits => (true, digits)
      | '+' :: digits => (false, digits)
      | digits => (false, digits)
    let (n, rest) := naturalHead digits
    let value := clamp signed (if negative then -(n : Int) else n)
    let nothing := !digits.head?.any Char.isDigit
    let trouble :=
      if nothing then if operand.isEmpty then none else some ": expected numeric value"
      else if !rest.isEmpty then some ": not completely converted"
      else if value.natAbs != n then some ": Numerical result out of range"
      else none
    (if nothing then 0 else value, trouble.map (operand ++ ·.toList))

/-! ## Passes -/

/-- The extent with which a text starts, and what follows. -/
def extentHead : Bytes → Extent × Bytes
  | '*' :: cs => (.given, cs)
  | cs =>
    let digits := cs.takeWhile Char.isDigit
    (match number? digits with
      | some n => .fixed n
      | none => .none, cs.drop digits.length)

/-- The conversion behind a percent sign, and what follows; its kind may be unknown. -/
def conversionHead? (cs : Bytes) : Option (Conversion × Bytes) :=
  let flags := cs.takeWhile "-+ #0".toList.contains
  let (width, rest) := extentHead (cs.drop flags.length)
  let (precision, rest) := match rest with
    | '.' :: rest =>
      match extentHead rest with
      | (.none, rest) => (.fixed 0, rest)
      | found => found
    | rest => (.none, rest)
  match rest with
  | kind :: rest => some (⟨flags, width, precision, kind⟩, rest)
  | [] => none

/-- What passes over a format have done. -/
structure Printed where
  text : Bytes
  /-- The operands that are left. -/
  operands : List Bytes
  /-- What was wrong with operands or with the format. -/
  complaints : List Bytes
  status : Nat
  /-- Whether output ends. -/
  ends : Bool

namespace Printed

/-- Adds text. -/
def add (p : Printed) (text : Bytes) : Printed := { p with text := p.text ++ text }

/-- Takes the next operand; a missing one is empty. -/
def next (p : Printed) : Bytes × Printed :=
  (p.operands.head?.getD [], { p with operands := p.operands.tail })

/-- Takes the next operand as a number. -/
def nextNumber (p : Printed) (signed : Bool) : Int × Printed :=
  let (operand, p) := p.next
  match operandNumber signed operand with
  | (n, none) => (n, p)
  | (n, some complaint) => (n, { p with complaints := p.complaints ++ [complaint], status := 1 })

/-- Ends the output because of a flaw in the format. -/
def giveUp (p : Printed) (complaint : Bytes) : Printed :=
  { p with complaints := p.complaints ++ [complaint], status := 2, ends := true }

/-- The size of an extent. -/
def extent (p : Printed) : Extent → Option Nat × Printed
  | .none => (none, p)
  | .fixed n => (some n, p)
  | .given =>
    let (n, p) := p.nextNumber true
    (some n.natAbs, p)

/-- Converts operands as a conversion says. -/
def convert (p : Printed) (c : Conversion) : Printed :=
  let (width, p) := p.extent c.width
  let (precision, p) := p.extent c.precision
  let l : Layout := ⟨c, width.getD 0, precision⟩
  if "diouxX".toList.contains c.kind then
    let (n, p) := p.nextNumber (c.kind = 'd' || c.kind = 'i')
    p.add (l.number n)
  else
    let (operand, p) := p.next
    if c.kind = 's' then p.add (l.pad (l.cut operand))
    else if c.kind = 'c' then p.add (l.pad [operand.head?.getD '\x00'])
    else
      let (text, ends) := unescaped (operand.length + 1) operand
      { p.add (l.pad (l.cut text)) with ends }

/-- One pass over a format. -/
def pass : (fuel : Nat) → Printed → Bytes → Printed
  | 0, p, _ | _, p, [] => p
  | fuel + 1, p, '%' :: '%' :: cs => pass fuel (p.add ['%']) cs
  | fuel + 1, p, '%' :: cs =>
    match conversionHead? cs with
    | none => p.giveUp "missing format character".toList
    | some (c, rest) =>
      if "diouxXcsb".toList.contains c.kind then
        let p := p.convert c
        if p.ends then p else pass fuel p rest
      else p.giveUp ('%' :: cs.take (cs.length - rest.length) ++ ": invalid directive".toList)
  | fuel + 1, p, '\\' :: c :: cs =>
    if c = 'c' then { p with ends := true }
    else if (octal? c).isSome then
      let (byte, rest) := octalByte 0 3 (c :: cs)
      pass fuel (p.add [byte]) rest
    else pass fuel (p.add ((escaped? c).elim ['\\', c] ([·]))) cs
  | fuel + 1, p, c :: cs => pass fuel (p.add [c]) cs

/-- Passes over a format until no operands are left. -/
def passes (format : Bytes) : (fuel : Nat) → Printed → Printed
  | 0, p => p
  | fuel + 1, p =>
    let next := pass (format.length + 1) p format
    if next.ends || next.operands.isEmpty || next.operands.length = p.operands.length then next
    else passes format fuel next

end Printed

/-- What `printf` does. -/
def printfText (format : Bytes) (operands : List Bytes) : Printed :=
  .passes format (operands.length + 1) ⟨[], operands, [], 0, false⟩

end BuildScript.Shell
