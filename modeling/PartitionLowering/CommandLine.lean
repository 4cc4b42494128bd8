import PartitionLowering.Files
import PartitionLowering.Fixture.Reader
import PartitionLowering.Lowering.Partition
import PartitionLowering.Text.Column

/-!
The command line: `check` prints for every node of a fixture whether it can be delegated, `lower`
prints the dump of the lowered partition.  `CommandLine.run` decides what a run prints and how it
ends, given the content of files.
-/

set_option autoImplicit false

namespace PartitionLowering

/-- What a run prints and how it ends.  The journal goes to the error output, before its lines. -/
structure Outcome where
  exitCode : UInt8
  stdout : List String := []
  journal : List Event := []
  stderr : List String := []
  deriving DecidableEq

namespace Outcome

def outputText (outcome : Outcome) : String :=
  String.join (outcome.stdout.map (· ++ "\n"))

/-- All of the error output.  A report need not end its line; what follows it then goes on there. -/
def errorText (outcome : Outcome) : String :=
  String.join (outcome.journal.map Event.report ++ outcome.stderr.map (· ++ "\n"))

end Outcome

namespace CommandLine

inductive Command
  | check
  | lower
  deriving DecidableEq

def Command.name : Command → String
  | check => "check"
  | lower => "lower"

structure Invocation where
  command : Command
  fixturePath : String
  settingsPath : Option String
  deriving DecidableEq

def helpLines : List String :=
  ["ov-lower — TFLite partition lowering",
    "",
    "Usage:",
    "  ov-lower check <subgraph.json> [--options <opts.json>]",
    "  ov-lower lower <subgraph.json> [--options <opts.json>]",
    "",
    "Subcommands:",
    "  check   Print the support decision for every node",
    "  lower   Lower the partition and print the IR",
    "",
    "Environment:",
    "  RUST_LOG=debug   Show why nodes are rejected"]

def usageLine (command : Command) : String :=
  "Usage: ov-lower " ++ command.name ++ " <subgraph.json> [--options <opts.json>]"

def stopped (exitCode : UInt8) (stderr : List String) : Outcome :=
  { exitCode, stderr }

/-- Reads the arguments of a command, the paths found so far in hand.  The last options file
counts. -/
def readArguments (command : Command) (fixture settings : Option String) :
    List String → Except Outcome Invocation
  | [] => match fixture with
    | some path => .ok ⟨command, path, settings⟩
    | none => .error (stopped 1 [usageLine command])
  | "--options" :: [] => .error (stopped 1 ["--options requires a file path"])
  | "--options" :: path :: rest => readArguments command fixture (some path) rest
  | argument :: rest =>
    if argument = "--help" ∨ argument = "-h" then .error (stopped 0 [usageLine command])
    else match fixture with
      | none => readArguments command (some argument) settings rest
      | some _ => .error (stopped 1 ["unexpected argument: " ++ argument, usageLine command])

def invocation : List String → Except Outcome Invocation
  | [] => .error (stopped 0 helpLines)
  | "check" :: rest => readArguments .check none none rest
  | "lower" :: rest => readArguments .lower none none rest
  | other :: _ =>
    if other = "--help" ∨ other = "-h" then .error (stopped 0 helpLines)
    else .error (stopped 1 (["error: unknown subcommand '" ++ other ++ "'", ""] ++ helpLines))

def readSettings (read : FileReader) : Option String → Except Outcome Settings
  | none => .ok {}
  | some path => match read path with
    | .error failure =>
      .error (stopped 1 ["error: cannot read " ++ path ++ ": " ++ failure.message])
    | .ok text => match Settings.read? text with
      | some settings => .ok settings
      | none => .error (stopped 1 ["error: invalid options: these are no delegate options"])

def readFixture (read : FileReader) (path : String) : Except Outcome Fixture :=
  match read path with
  | .error failure => .error (stopped 1 ["error reading " ++ path ++ ": " ++ failure.message])
  | .ok text => match Fixture.read? text with
    | some fixture => .ok fixture
    | none => .error (stopped 1 ["error parsing " ++ path ++ ": this is no subgraph file"])

/-! ## Commands -/

def nodeLine (tensors : TensorContext) (node : ScheduledNode) : String :=
  "node " ++ alignRight 3 (int32Text node.id) ++ "  " ++ alignLeft 28 node.op.text ++ " " ++
    if (Support.ofNode node tensors).supported then "supported" else "not supported"

def check (fixture : Fixture) : Outcome :=
  let nodes := fixture.partition.nodes
  let supported := Support.supportedNodes fixture.partition fixture.tensors
  { exitCode := 0
    stdout := nodes.map (nodeLine fixture.tensors)
    journal := Support.refusals fixture.partition fixture.tensors
    stderr := [s!"==> {supported.length}/{nodes.length} nodes can be delegated"] }

def lower (fixture : Fixture) (settings : Settings) : Outcome :=
  match fixture.partition.lowerWithJournal fixture.tensors settings with
  | (.error failure, journal) =>
    { exitCode := 1, journal, stderr := ["not accelerated: " ++ failure.message] }
  | (.ok lowered, journal) =>
    { exitCode := 0
      stdout := lowered.model.lines
      journal
      stderr :=
        [s!"==> {lowered.model.graph.size} IR nodes for " ++ lowered.device ++ " (inputs " ++
          int32Listing lowered.computeInputs ++ ", outputs " ++ int32Listing lowered.outputs ++
          ")"] }

/-- The outcome with the events that the settings show. -/
def showing (settings : Settings) (outcome : Outcome) : Outcome :=
  { outcome with journal := outcome.journal.filter fun event => settings.level.shows event.level }

/-- Reads the files of an invocation, the options first, and runs its command. -/
def runInvocation (read : FileReader) (invocation : Invocation) : Except Outcome Outcome := do
  let settings ← readSettings read invocation.settingsPath
  let fixture ← readFixture read invocation.fixturePath
  return showing settings <| match invocation.command with
    | .check => check fixture
    | .lower => lower fixture settings

def run (arguments : List String) (read : FileReader) : Outcome :=
  match invocation arguments >>= runInvocation read with
  | .ok outcome => outcome
  | .error outcome => outcome

/-- The files that a run with the given arguments may read. -/
def paths (arguments : List String) : List String :=
  match invocation arguments with
  | .ok invocation => invocation.settingsPath.toList ++ [invocation.fixturePath]
  | .error _ => []

end CommandLine

end PartitionLowering
