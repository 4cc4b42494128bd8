import PartitionLowering.Decimal.Numeral
import PartitionLowering.Json.Literal

/-!
JSON values as a text gives them.  Members of an object keep their order and their repetitions,
numbers stay numerals and strings stay literals, because readers of records ask for all of these.
-/

set_option autoImplicit false

namespace PartitionLowering

inductive Json
  | null
  | bool (value : Bool)
  | num (numeral : Numeral)
  | str (literal : Literal)
  | arr (items : List Json)
  | obj (members : List (Literal × Json))
  deriving Inhabited

namespace Json

def ofInt (value : Int) : Json :=
  .num (.ofInt value)

def ofNat (value : Nat) : Json :=
  .num (.ofNat value)

def ofString (text : String) : Json :=
  .str (.ofString text)

def record (members : List (String × Json)) : Json :=
  .obj (members.map fun member => (.ofString member.1, member.2))

mutual

def depth : Json → Nat
  | .arr items => depthOfItems items + 1
  | .obj members => depthOfMembers members + 1
  | _ => 0

def depthOfItems : List Json → Nat
  | [] => 0
  | item :: rest => max item.depth (depthOfItems rest)

def depthOfMembers : List (Literal × Json) → Nat
  | [] => 0
  | (_, value) :: rest => max value.depth (depthOfMembers rest)

end

end Json

end PartitionLowering
