import PartitionLowering.CommandLine

/-!
The program: it reads the files that a run may ask for and prints what `CommandLine.run` decides.
-/

set_option autoImplicit false

namespace PartitionLowering

def systemError (code : UInt32) (reason : String) : FileError :=
  match min code.toNat (-code).toNat with
  | 2 => .notFound
  | 13 => .permissionDenied
  | 20 => .notDirectory
  | 21 => .isDirectory
  | 36 => .nameTooLong
  | code => .system code reason

/-- The reason behind a failed read: a user error is that of a text that cannot be decoded. -/
def fileError : IO.Error → FileError
  | .userError _ => .notText
  | .noFileOrDirectory _ code reason => systemError code reason
  | .permissionDenied _ code reason => systemError code reason
  | .inappropriateType _ code reason => systemError code reason
  | .invalidArgument _ code reason => systemError code reason
  | .resourceExhausted _ code reason => systemError code reason
  | .noSuchThing _ code reason => systemError code reason
  | .otherError code reason => systemError code reason
  | error => .system 5 (toString error)

def readFile (path : String) : IO (String × Except FileError String) := do
  try
    let text ← IO.FS.readFile path
    return (path, .ok text)
  catch error => return (path, .error (fileError error))

def printOutcome (outcome : Outcome) : IO Unit := do
  for event in outcome.journal do
    IO.eprint event.report
  for line in outcome.stdout do
    IO.println line
  for line in outcome.stderr do
    IO.eprintln line

def program (arguments : List String) : IO UInt32 := do
  let files ← (CommandLine.paths arguments).mapM readFile
  let read : FileReader := fun path => (files.lookup path).getD (.error .notFound)
  let outcome := CommandLine.run arguments read
  printOutcome outcome
  return outcome.exitCode.toUInt32

end PartitionLowering

def main (arguments : List String) : IO UInt32 :=
  PartitionLowering.program arguments
