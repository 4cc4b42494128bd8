/-!
String literals of JSON.  A literal is kept as it is written between its quotes; `Literal.text?` gives
the text it stands for, and `Literal.ofString` writes a text.  A literal whose escapes name half of a
surrogate pair is well formed but stands for no text.
-/

set_option autoImplicit false

namespace PartitionLowering

structure Literal where
  raw : List Char
  deriving DecidableEq, Inhabited

namespace Literal

/-! ## Writing -/

/-- A control character as a code of four hexadecimal digits. -/
def unicodeEscape (c : Char) : List Char :=
  ['\\', 'u', '0', '0', Nat.digitChar (c.toNat / 16), Nat.digitChar (c.toNat % 16)]

/-- Quotes, backslashes and control characters are escaped, all others stand for themselves. -/
def escape (c : Char) : List Char :=
  if c = '"' then ['\\', '"']
  else if c = '\\' then ['\\', '\\']
  else if c = '\x08' then ['\\', 'b']
  else if c = '\x0c' then ['\\', 'f']
  else if c = '\n' then ['\\', 'n']
  else if c = '\r' then ['\\', 'r']
  else if c = '\t' then ['\\', 't']
  else if c.toNat < 32 then unicodeEscape c
  else [c]

def ofString (text : String) : Literal :=
  ⟨text.toList.flatMap escape⟩

def chars (literal : Literal) : List Char :=
  '"' :: (literal.raw ++ ['"'])

/-! ## Reading -/

def hexDigit? (c : Char) : Option Nat :=
  if c.isDigit then some (c.toNat - '0'.toNat)
  else if 'a' ≤ c ∧ c ≤ 'f' then some (c.toNat - 'a'.toNat + 10)
  else if 'A' ≤ c ∧ c ≤ 'F' then some (c.toNat - 'A'.toNat + 10)
  else none

def hexWord? (a b c d : Char) : Option Nat := do
  return (((← hexDigit? a) * 16 + (← hexDigit? b)) * 16 + (← hexDigit? c)) * 16 + (← hexDigit? d)

/-- What a backslash and one character stand for. -/
def simpleEscape? : Char → Option Char
  | '"' => some '"'
  | '\\' => some '\\'
  | '/' => some '/'
  | 'b' => some '\x08'
  | 'f' => some '\x0c'
  | 'n' => some '\n'
  | 'r' => some '\r'
  | 't' => some '\t'
  | _ => none

/-- Splits a text, read after an opening quote, into the inside of the literal and what comes after
the closing quote. -/
def scan? : List Char → Option (List Char × List Char)
  | [] => none
  | '"' :: rest => some ([], rest)
  | '\\' :: 'u' :: a :: b :: c :: d :: rest => do
    let _ ← hexWord? a b c d
    let (raw, tail) ← scan? rest
    some ('\\' :: 'u' :: a :: b :: c :: d :: raw, tail)
  | '\\' :: c :: rest => do
    let _ ← simpleEscape? c
    let (raw, tail) ← scan? rest
    some ('\\' :: c :: raw, tail)
  | c :: rest =>
    if c = '\\' ∨ c.toNat < 32 then none
    else do
      let (raw, tail) ← scan? rest
      some (c :: raw, tail)

def read? (cs : List Char) : Option (Literal × List Char) :=
  (scan? cs).map fun (raw, rest) => (⟨raw⟩, rest)

/-- The code points that a literal writes, with halves of surrogate pairs still apart. -/
def units? : List Char → Option (List Nat)
  | [] => some []
  | '\\' :: 'u' :: a :: b :: c :: d :: rest => do
    let unit ← hexWord? a b c d
    let units ← units? rest
    some (unit :: units)
  | '\\' :: c :: rest => do
    let char ← simpleEscape? c
    let units ← units? rest
    some (char.toNat :: units)
  | c :: rest =>
    if c = '\\' then none
    else do
      let units ← units? rest
      some (c.toNat :: units)

def isHighSurrogate (unit : Nat) : Bool :=
  0xd800 ≤ unit && unit < 0xdc00

def isLowSurrogate (unit : Nat) : Bool :=
  0xdc00 ≤ unit && unit < 0xe000

/-- The characters for code points.  A high surrogate joins the low one after it; a half left alone
stands for no character. -/
def joinSurrogates? : List Nat → Option (List Char)
  | [] => some []
  | [unit] =>
    if isHighSurrogate unit || isLowSurrogate unit then none else some [Char.ofNat unit]
  | unit :: next :: rest =>
    if isHighSurrogate unit then
      if isLowSurrogate next then
        (joinSurrogates? rest).map
          (Char.ofNat (0x10000 + (unit - 0xd800) * 0x400 + (next - 0xdc00)) :: ·)
      else none
    else if isLowSurrogate unit then none
    else (joinSurrogates? (next :: rest)).map (Char.ofNat unit :: ·)

def text? (literal : Literal) : Option String := do
  let units ← units? literal.raw
  let chars ← joinSurrogates? units
  some (String.ofList chars)

end Literal

end PartitionLowering
