import PartitionLowering.Json.Basic

/-!
Reading JSON.  `Json.read?` accepts a text that holds one value, with blanks around it, and nothing
else.  Nesting is bounded by the length of the text, which serves as the fuel of the recursion.
-/

set_option autoImplicit false

namespace PartitionLowering.Json.Reader

def isBlank (c : Char) : Bool :=
  c = ' ' || c = '\n' || c = '\t' || c = '\r'

def skipBlanks (cs : List Char) : List Char :=
  cs.dropWhile isBlank

/-! ## Numbers -/

/-- The digits at the front, at least one, and the text after them. -/
def digits? (cs : List Char) : Option (List Char × List Char) :=
  match cs.takeWhile Char.isDigit with
  | [] => none
  | digits => some (digits, cs.dropWhile Char.isDigit)

def sign (cs : List Char) : Bool × List Char :=
  match cs with
  | '-' :: rest => (true, rest)
  | _ => (false, cs)

/-- A zero stands alone; any other whole part takes all digits. -/
def whole? (cs : List Char) : Option (Nat × List Char) :=
  match cs with
  | '0' :: rest => some (0, rest)
  | _ => (digits? cs).map fun (digits, rest) => (Nat.ofDigitChars 10 digits 0, rest)

def fraction? (cs : List Char) : Option (List Digit × List Char) :=
  match cs with
  | '.' :: rest => (digits? rest).map fun (digits, rest) => (digits.filterMap Digit.ofChar?, rest)
  | _ => some ([], cs)

def exponentSign (cs : List Char) : Bool × List Char :=
  match cs with
  | '+' :: rest => (false, rest)
  | _ => sign cs

def exponentDigits? (cs : List Char) : Option (Option Int × List Char) :=
  let (negative, rest) := exponentSign cs
  (digits? rest).map fun (digits, rest) =>
    let value : Int := Nat.ofDigitChars 10 digits 0
    (some (if negative then -value else value), rest)

def exponent? (cs : List Char) : Option (Option Int × List Char) :=
  match cs with
  | 'e' :: rest => exponentDigits? rest
  | 'E' :: rest => exponentDigits? rest
  | _ => some (none, cs)

def numeral? (cs : List Char) : Option (Numeral × List Char) := do
  let (negative, rest) := sign cs
  let (whole, rest) ← whole? rest
  let (fraction, rest) ← fraction? rest
  let (exponent, rest) ← exponent? rest
  some ({ negative, whole, fraction, exponent }, rest)

/-! ## Values -/

def after? (word : List Char) (cs : List Char) : Option (List Char) :=
  match word, cs with
  | [], cs => some cs
  | _ :: _, [] => none
  | w :: word, c :: cs => if w = c then after? word cs else none

mutual

def value? : Nat → List Char → Option (Json × List Char)
  | 0, _ => none
  | fuel + 1, cs =>
    match skipBlanks cs with
    | [] => none
    | '"' :: rest => (Literal.read? rest).map fun (literal, rest) => (.str literal, rest)
    | '[' :: rest =>
      match skipBlanks rest with
      | ']' :: rest => some (.arr [], rest)
      | rest => (items? fuel rest).map fun (items, rest) => (.arr items, rest)
    | '\x7b' :: rest =>
      match skipBlanks rest with
      | '\x7d' :: rest => some (.obj [], rest)
      | rest => (members? fuel rest).map fun (members, rest) => (.obj members, rest)
    | 'n' :: rest => (after? ['u', 'l', 'l'] rest).map fun rest => (.null, rest)
    | 't' :: rest => (after? ['r', 'u', 'e'] rest).map fun rest => (.bool true, rest)
    | 'f' :: rest => (after? ['a', 'l', 's', 'e'] rest).map fun rest => (.bool false, rest)
    | rest => (numeral? rest).map fun (numeral, rest) => (.num numeral, rest)

/-- Reads the items of an array that has one, up to the closing bracket. -/
def items? : Nat → List Char → Option (List Json × List Char)
  | 0, _ => none
  | fuel + 1, cs => do
    let (item, rest) ← value? fuel cs
    match skipBlanks rest with
    | ']' :: rest => some ([item], rest)
    | ',' :: rest =>
      let (items, rest) ← items? fuel rest
      some (item :: items, rest)
    | _ => none

/-- Reads the members of an object that has one, up to the closing brace. -/
def members? : Nat → List Char → Option (List (Literal × Json) × List Char)
  | 0, _ => none
  | fuel + 1, cs => do
    let rest ← after? ['"'] (skipBlanks cs)
    let (key, rest) ← Literal.read? rest
    let rest ← after? [':'] (skipBlanks rest)
    let (value, rest) ← value? fuel rest
    match skipBlanks rest with
    | '\x7d' :: rest => some ([(key, value)], rest)
    | ',' :: rest =>
      let (members, rest) ← members? fuel rest
      some ((key, value) :: members, rest)
    | _ => none

end

end PartitionLowering.Json.Reader

namespace PartitionLowering.Json

def readChars? (cs : List Char) : Option Json := do
  let (value, rest) ← Reader.value? (cs.length + 1) cs
  if Reader.skipBlanks rest = [] then some value else none

def read? (text : String) : Option Json :=
  readChars? text.toList

end PartitionLowering.Json
