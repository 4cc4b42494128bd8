/-!
Lists as they appear in messages and dumps: the items between brackets, or bare, with a comma and a
blank between neighbours.
-/

set_option autoImplicit false

namespace PartitionLowering

/-- The items in order, separated by a comma and a blank. -/
def commaSeparated (items : List String) : String :=
  String.intercalate ", " items

/-- The items between square brackets: `[1, 2, 3]`. -/
def bracketed (items : List String) : String :=
  "[" ++ commaSeparated items ++ "]"

def natListing (values : List Nat) : String :=
  bracketed (values.map toString)

def intListing (values : List Int) : String :=
  bracketed (values.map toString)

def int32Text (value : Int32) : String :=
  toString value.toInt

def int32Listing (values : List Int32) : String :=
  bracketed (values.map int32Text)

end PartitionLowering
