/-!
Files as a program meets them: the text behind a path, or why there is none.  A `Directory` answers
for paths that start in it; it stands for a working directory that holds texts and nothing else.
-/

set_option autoImplicit false

namespace PartitionLowering

/-- Why a file cannot be read.  A system may have further reasons, with codes of its own. -/
inductive FileError
  | notFound
  | permissionDenied
  | notDirectory
  | isDirectory
  | nameTooLong
  | notText
  | system (code : Nat) (reason : String)
  deriving DecidableEq

namespace FileError

def systemMessage (code : Nat) (reason : String) : String :=
  reason ++ s!" (os error {code})"

def message : FileError → String
  | notFound => systemMessage 2 "No such file or directory"
  | permissionDenied => systemMessage 13 "Permission denied"
  | notDirectory => systemMessage 20 "Not a directory"
  | isDirectory => systemMessage 21 "Is a directory"
  | nameTooLong => systemMessage 36 "File name too long"
  | notText => "stream did not contain valid UTF-8"
  | system code reason => systemMessage code reason

end FileError

abbrev FileReader := String → Except FileError String

/-- Texts by name, the later of two entries of one name last. -/
structure Directory where
  files : List (String × String)

namespace Directory

/-- Where a path has led so far.  Of the directories around, only their being there is known. -/
inductive Location
  | inside
  | outside
  | file (text : String)
  deriving DecidableEq

def nameLimit : Nat := 255

def pathLimit : Nat := 4095

def find (directory : Directory) (name : String) : Except FileError Location :=
  match directory.files.reverse.lookup name with
  | some text => .ok (.file text)
  | none => .error .notFound

/-- Goes on by one name of a path.  An empty name and a dot stay in a directory. -/
def enter (directory : Directory) : Location → String → Except FileError Location
  | .file _, _ => .error .notDirectory
  | location, name =>
    if name = "" ∨ name = "." then .ok location
    else if name = ".." then .ok .outside
    else if nameLimit < name.utf8ByteSize then .error .nameTooLong
    else if location = .inside then directory.find name
    else .error .notFound

def walk (directory : Directory) (start : Location) (names : List String) :
    Except FileError Location :=
  names.foldlM directory.enter start

/-- A path that starts with a slash starts outside. -/
def locate (directory : Directory) (path : String) : Except FileError Location :=
  if path.isEmpty then .error .notFound
  else if pathLimit < path.utf8ByteSize then .error .nameTooLong
  else directory.walk (if path.startsWith "/" then .outside else .inside) (path.splitOn "/")

def read (directory : Directory) : FileReader := fun path => do
  match ← directory.locate path with
  | .file text => return text
  | _ => throw .isDirectory

end Directory

end PartitionLowering
