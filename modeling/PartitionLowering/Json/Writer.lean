import PartitionLowering.Json.Basic

/-!
Writing JSON, without blanks.
-/

set_option autoImplicit false

namespace PartitionLowering.Json

mutual

def chars : Json → List Char
  | .null => ['n', 'u', 'l', 'l']
  | .bool true => ['t', 'r', 'u', 'e']
  | .bool false => ['f', 'a', 'l', 's', 'e']
  | .num numeral => numeral.chars
  | .str literal => literal.chars
  | .arr [] => ['[', ']']
  | .arr (item :: items) => '[' :: (item.chars ++ charsOfItems items)
  | .obj [] => ['\x7b', '\x7d']
  | .obj ((key, value) :: members) =>
    '\x7b' :: (key.chars ++ ':' :: (value.chars ++ charsOfMembers members))

/-- The items after the first one and the closing bracket. -/
def charsOfItems : List Json → List Char
  | [] => [']']
  | item :: items => ',' :: (item.chars ++ charsOfItems items)

/-- The members after the first one and the closing brace. -/
def charsOfMembers : List (Literal × Json) → List Char
  | [] => ['\x7d']
  | (key, value) :: members =>
    ',' :: (key.chars ++ ':' :: (value.chars ++ charsOfMembers members))

end

def text (value : Json) : String :=
  String.ofList value.chars

end PartitionLowering.Json
