import PartitionLowering.Json.Basic
import PartitionLowering.Decimal.Value

/-!
Typed readings of JSON values.  A record is an object in which every known field stands at most once
and unknown fields are skipped, or an array of the fields in order, where fields may be missing at
the end.  A choice is a name, or an object that gives the name an empty content.
-/

set_option autoImplicit false

namespace PartitionLowering.Json

/-! ## Scalars -/

def integer? : Json → Option Int
  | .num numeral => numeral.integer?
  | _ => none

def int32? (value : Json) : Option Int32 := do
  let number ← value.integer?
  if Int32.minValue.toInt ≤ number ∧ number ≤ Int32.maxValue.toInt then some (Int32.ofInt number)
  else none

def uint8? (value : Json) : Option UInt8 := do
  let number ← value.integer?
  if 0 ≤ number ∧ number < 256 then some (UInt8.ofNat number.toNat) else none

def bool? : Json → Option Bool
  | .bool value => some value
  | _ => none

def string? : Json → Option String
  | .str literal => literal.text?
  | _ => none

def float32? : Json → Option Float32
  | .num numeral => numeral.toFloat32?
  | _ => none

def float? : Json → Option Float
  | .num numeral => numeral.toFloat?
  | _ => none

def list? {α : Type} (item? : Json → Option α) : Json → Option (List α)
  | .arr items => items.mapM item?
  | _ => none

/-- `null` stands for an absent value. -/
def option? {α : Type} (value? : Json → Option α) : Json → Option (Option α)
  | .null => some none
  | value => (value? value).map some

/-! ## Choices -/

/-- Where a choice stands: straight in the text, or in a value that was set aside first.  The
second place takes an empty object for an empty content too. -/
inductive Place
  | direct
  | setAside
  deriving DecidableEq

def isEmptyContent (place : Place) : Json → Bool
  | .null => true
  | .obj [] => decide (place = .setAside)
  | _ => false

def choice? {α : Type} (ofKey? : String → Option α) (place : Place) : Json → Option α
  | .str literal => literal.text?.bind ofKey?
  | .obj [(literal, content)] =>
    if isEmptyContent place content then literal.text?.bind ofKey? else none
  | _ => none

/-! ## Records -/

abbrev Record := String → Option Json

/-- The fields of an object: every key has a text, and no known one is repeated. -/
def recordOfMembers? (names : List String) (members : List (Literal × Json)) : Option Record :=
  if members.all (fun member => member.1.text?.isSome) ∧
      names.all (fun name => decide ((members.filter (·.1.text? = some name)).length ≤ 1)) then
    some fun name => (members.find? (·.1.text? = some name)).map Prod.snd
  else none

/-- The fields of an array in the order of `names`, which it may not exceed. -/
def recordOfItems? (names : List String) (items : List Json) : Option Record :=
  if items.length ≤ names.length then
    some fun name => ((names.zip items).find? (·.1 = name)).map Prod.snd
  else none

def record? (names : List String) : Json → Option Record
  | .obj members => recordOfMembers? names members
  | .arr items => recordOfItems? names items
  | _ => none

namespace Record

def required {α : Type} (fields : Record) (name : String) (value? : Json → Option α) : Option α :=
  (fields name).bind value?

def defaulted {α : Type} (fields : Record) (name : String) (value? : Json → Option α)
    (default : α) : Option α :=
  match fields name with
  | some value => value? value
  | none => some default

end Record

/-! ## Values set aside -/

mutual

/-- Whether every string has a text and every number a value, also where nothing uses them. -/
def isReadable : Json → Bool
  | .num numeral => numeral.toFloat?.isSome
  | .str literal => literal.text?.isSome
  | .arr items => areReadable items
  | .obj members => haveReadableMembers members
  | .null => true
  | .bool _ => true

def areReadable : List Json → Bool
  | [] => true
  | item :: rest => item.isReadable && areReadable rest

def haveReadableMembers : List (Literal × Json) → Bool
  | [] => true
  | (key, value) :: rest => key.text?.isSome && value.isReadable && haveReadableMembers rest

end

/-- A value set aside is read as a whole, and together with the `level` brackets around it it has
fewer than 128 levels. -/
def canSetAside (level : Nat) (value : Json) : Bool :=
  value.isReadable && decide (level + value.depth < 128)

end PartitionLowering.Json
