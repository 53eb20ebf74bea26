import BuildScript.Text.Utf8

/-!
# Words of a command line

A word is what a command line separates by blanks and operators. It is kept as the parts from
which its fields are made when the command is run: plain text, values of parameters, outputs of
commands and results of arithmetic, each quoted or not.

Command lines are read byte by byte, so a text is held here with one character for each byte.
-/

namespace BuildScript.Shell

/-- A text with one character for each byte. -/
abbrev Bytes := List Char

/-- The bytes of an array. -/
def bytesOfArray (array : ByteArray) : Bytes := array.toList.map fun b => Char.ofNat b.toNat

/-- The array of bytes. -/
def arrayOfBytes (bytes : Bytes) : ByteArray := ⟨(bytes.map fun c => c.toNat.toUInt8).toArray⟩

/-- The bytes that encode a text. -/
def bytesOf (text : String) : Bytes := bytesOfArray text.toUTF8

/-- The text that bytes encode, with U+FFFD where they encode none. -/
def textOf (bytes : Bytes) : String :=
  String.ofList (Text.Utf8.decodeLossy (bytes.map fun c => c.toNat.toUInt8))

/-- A part of a word. Only unquoted parts are split into fields and read as patterns. -/
inductive Part where
  | text (quoted : Bool) (text : Bytes)
  /-- The value of a parameter; the text between the braces says which and how. -/
  | value (quoted : Bool) (expression : Bytes)
  /-- The output of a command line. -/
  | output (quoted : Bool) (command : Bytes)
  /-- The result of an arithmetic expression. -/
  | number (quoted : Bool) (expression : Bytes)
  deriving DecidableEq, Repr

/-- A word, part by part. -/
abbrev Word := List Part

/-- The text of a word that is nothing but unquoted text. -/
def plainText? : Word → Option Bytes
  | [.text false text] => some text
  | _ => none

/-- A word with a character before it. -/
def addChar (quoted : Bool) (c : Char) : Word → Word
  | .text q text :: rest =>
    if q = quoted then .text q (c :: text) :: rest else .text quoted [c] :: .text q text :: rest
  | rest => .text quoted [c] :: rest

/-! ## Characters -/

/-- Whether a character ends a bare word. -/
def isBreak (c : Char) : Bool := " \t\n;&|<>()".toList.contains c

/-- Whether a name can start with a character. -/
def isNameStart (c : Char) : Bool := c.isAlpha || c = '_'

/-- Whether a name can hold a character. -/
def isNameChar (c : Char) : Bool := isNameStart c || c.isDigit

/-- Whether a text is a name. -/
def isName : Bytes → Bool
  | [] => false
  | c :: cs => isNameStart c && cs.all isNameChar

/-- Whether a character stands for a parameter by itself. -/
def isSpecial (c : Char) : Bool := c.isDigit || "@*#?$!-".toList.contains c

/-! ## Enclosed text -/

/-- What keeps brackets from counting. -/
inductive Quoting where
  | none
  | single
  | double
  deriving DecidableEq

/-- The text up to the bracket that closes what was opened, and what follows. `depth` further
brackets are open; `read` holds what was read, last character first. -/
def enclosed (opening closing : Char) :
    (depth : Nat) → Quoting → (read : Bytes) → Bytes → Option (Bytes × Bytes)
  | _, _, _, [] => none
  | depth, .single, read, c :: cs =>
    enclosed opening closing depth (if c = '\'' then .none else .single) (c :: read) cs
  | depth, quoting, read, '\\' :: c :: cs =>
    enclosed opening closing depth quoting (c :: '\\' :: read) cs
  | depth, .double, read, c :: cs =>
    enclosed opening closing depth (if c = '"' then .none else .double) (c :: read) cs
  | depth, .none, read, c :: cs =>
    if c = '\'' then enclosed opening closing depth .single (c :: read) cs
    else if c = '"' then enclosed opening closing depth .double (c :: read) cs
    else if c = closing then
      match depth with
      | 0 => some (read.reverse, cs)
      | depth + 1 => enclosed opening closing depth .none (c :: read) cs
    else if c = opening then enclosed opening closing (depth + 1) .none (c :: read) cs
    else enclosed opening closing depth .none (c :: read) cs

/-- The text up to a closing backquote, without the backslashes that keep characters from being
read, and what follows. -/
def backquoted (quoted : Bool) : (read : Bytes) → Bytes → Option (Bytes × Bytes)
  | _, [] => none
  | read, '\\' :: c :: cs =>
    let kept := ! ['\x60', '$', '\\'].contains c && !(quoted && c = '"')
    backquoted quoted (if kept then c :: '\\' :: read else c :: read) cs
  | read, c :: cs =>
    if c = '\x60' then some (read.reverse, cs) else backquoted quoted (c :: read) cs

/-! ## Reading -/

/-- A quote is missing. -/
def openQuote : String := "Unterminated quoted string"

/-- A backquote is missing. -/
def openBackquote : String := "EOF in backquote substitution"

/-- A closing brace is missing. -/
def openBrace : String := "Missing '\x7d'"

/-- A closing parenthesis is missing. -/
def openParenthesis : String := "end of file unexpected (expecting \")\")"

/-- What a text is read as. -/
structure Mode where
  /-- Whether the text is quoted. -/
  quoted : Bool
  /-- Whether a double quote ends the text, which must have one. -/
  closes : Bool
  /-- The characters that end the text. -/
  ends : Char → Bool

/-- A word outside quotes. -/
def Mode.bare : Mode := ⟨false, false, isBreak⟩

/-- What stands between double quotes. -/
def Mode.inQuotes : Mode := ⟨true, true, fun _ => false⟩

/-- What stands in braces behind an operator. -/
def Mode.operand (quoted : Bool) : Mode := ⟨quoted, false, fun _ => false⟩

/-- The part that a dollar sign starts, and what follows. -/
def dollarPart (quoted : Bool) : Bytes → Except String (Part × Bytes)
  | '(' :: cs =>
    match enclosed '(' ')' 0 .none [] cs with
    | none => .error openParenthesis
    | some (inner, rest) =>
      if inner.head? == some '(' && inner.getLast? == some ')' then
        .ok (.number quoted inner.tail.dropLast, rest)
      else .ok (.output quoted inner, rest)
  | '{' :: cs =>
    match enclosed '{' '}' 0 .none [] cs with
    | none => .error openBrace
    | some (inner, rest) => .ok (.value quoted inner, rest)
  | c :: cs =>
    if isNameStart c then .ok (.value quoted ((c :: cs).takeWhile isNameChar), cs.dropWhile isNameChar)
    else if isSpecial c then .ok (.value quoted [c], cs)
    else .ok (.text quoted ['$'], c :: cs)
  | [] => .ok (.text quoted ['$'], [])

/-- Reads the parts of a word, and what follows it. -/
def readParts : (fuel : Nat) → Mode → Bytes → Except String (Word × Bytes)
  | 0, _, cs => .ok ([], cs)
  | _, mode, [] => if mode.closes then .error openQuote else .ok ([], [])
  | fuel + 1, mode, '\\' :: '\n' :: cs => readParts fuel mode cs
  | fuel + 1, mode, '\\' :: c :: cs => do
    let (word, rest) ← readParts fuel mode cs
    let kept := mode.quoted && !("$`\"\\".toList.contains c)
    .ok (if kept then addChar true '\\' (addChar true c word) else addChar true c word, rest)
  | fuel + 1, mode, '"' :: cs => do
    if mode.closes then return ([], cs)
    let (inner, rest) ← readParts fuel .inQuotes cs
    let (word, rest) ← readParts fuel mode rest
    .ok ((if inner.isEmpty then [.text true []] else inner) ++ word, rest)
  | fuel + 1, mode, '$' :: cs => do
    let (part, rest) ← dollarPart mode.quoted cs
    let (word, rest) ← readParts fuel mode rest
    .ok (part :: word, rest)
  | fuel + 1, mode, '\x60' :: cs => do
    match backquoted mode.quoted [] cs with
    | none => .error openBackquote
    | some (inner, rest) =>
      let (word, rest) ← readParts fuel mode rest
      .ok (.output mode.quoted inner :: word, rest)
  | fuel + 1, mode, c :: cs => do
    if c = '\'' && !mode.quoted then
      if !cs.contains '\'' then throw openQuote
      let (word, rest) ← readParts fuel mode (cs.dropWhile (· != '\'')).tail
      return (.text true (cs.takeWhile (· != '\'')) :: word, rest)
    if mode.ends c then return ([], c :: cs)
    let (word, rest) ← readParts fuel mode cs
    .ok (addChar mode.quoted c word, rest)

/-- Reads a word, and what follows it. -/
def readWord (mode : Mode) (cs : Bytes) : Except String (Word × Bytes) :=
  readParts (cs.length + 1) mode cs

end BuildScript.Shell
