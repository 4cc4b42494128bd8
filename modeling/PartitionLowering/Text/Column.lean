/-!
Columns of a report: texts filled up with blanks to a width counted in characters.  A longer text is
left as it is.
-/

set_option autoImplicit false

namespace PartitionLowering

def blanks (count : Nat) : String :=
  String.ofList (List.replicate count ' ')

def alignRight (width : Nat) (text : String) : String :=
  blanks (width - text.length) ++ text

def alignLeft (width : Nat) (text : String) : String :=
  text ++ blanks (width - text.length)

end PartitionLowering
