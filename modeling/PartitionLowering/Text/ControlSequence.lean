/-!
What the control sequences of a terminal leave of a text.  A sequence begins with the escape
character and runs to a character that ends its kind; neither it nor a lone control character is
shown.  Tabs, line feeds, form feeds and carriage returns are layout and not control characters:
where they interrupt a sequence, the text is shown again, and the next control character takes the
sequence up where it was left.
-/

set_option autoImplicit false

namespace PartitionLowering.ControlSequence

/-! ## Characters -/

def isLayout (c : Char) : Bool :=
  c = '\t' || c = '\n' || c = '\x0c' || c = '\r'

/-- The characters below the blank and the delete character, layout apart. -/
def isControl (c : Char) : Bool :=
  (decide (c.toNat < 32) || c.toNat == 127) && !isLayout c

def isAscii (c : Char) : Bool :=
  decide (c.toNat < 128)

def isIntermediate (c : Char) : Bool :=
  decide (' ' ≤ c) && decide (c ≤ '/')

def isParameter (c : Char) : Bool :=
  decide ('0' ≤ c) && decide (c ≤ '?')

def isFinal (c : Char) : Bool :=
  decide ('@' ≤ c) && decide (c ≤ '~')

/-- Control strings end at the byte 156, also where it is part of the encoding of a character. -/
def holdsTerminator (c : Char) : Bool :=
  (String.utf8EncodeChar c).any fun byte => byte.toNat == 156

/-! ## Sequences -/

/-- Where in a sequence a character stands. -/
inductive Phase
  | ground
  | escape
  | escapeIntermediate
  | parameters
  | deviceEntry
  | deviceParameters
  | deviceIntermediate
  | controlString
  | systemCommand
  deriving DecidableEq

namespace Phase

def afterEscape (c : Char) : Phase :=
  if isIntermediate c then escapeIntermediate
  else if c = '[' then parameters
  else if c = ']' then systemCommand
  else if c = 'P' then deviceEntry
  else if c = 'X' ∨ c = '^' ∨ c = '_' then controlString
  else if isParameter c || isFinal c then ground
  else escape

def inDeviceEntry (c : Char) : Phase :=
  if isIntermediate c then deviceIntermediate
  else if isParameter c then deviceParameters
  else if isFinal c then controlString
  else deviceEntry

/-- Among the parameters, the four private ones spoil the string. -/
def inDeviceParameters (c : Char) : Phase :=
  if isIntermediate c then deviceIntermediate
  else if decide ('<' ≤ c) && decide (c ≤ '~') then controlString
  else deviceParameters

/-- The phase after a character.  Two control characters abandon any sequence, and the escape
character begins a new one wherever it stands. -/
def next (phase : Phase) (c : Char) : Phase :=
  if c = '\x18' ∨ c = '\x1a' then ground
  else if c = '\x1b' then escape
  else match phase with
    | ground => ground
    | escape => afterEscape c
    | escapeIntermediate => if isParameter c || isFinal c then ground else escapeIntermediate
    | parameters => if isFinal c then ground else parameters
    | deviceEntry => inDeviceEntry c
    | deviceParameters => inDeviceParameters c
    | deviceIntermediate =>
      if isParameter c || isFinal c then controlString else deviceIntermediate
    | controlString => if holdsTerminator c then ground else controlString
    | systemCommand => if c = '\x07' then ground else systemCommand

/-- Whether a character that is no control character is shown in the phase. -/
def shows (phase : Phase) (c : Char) : Bool :=
  match phase with
  | ground => true
  | escape | escapeIntermediate | parameters => isLayout c
  | _ => false

end Phase

/-! ## Reading a text -/

/-- What is known after a character: the phase, and whether the character was shown. -/
structure Position where
  phase : Phase
  shown : Bool
  deriving DecidableEq

namespace Position

def start : Position :=
  ⟨.ground, true⟩

/-- Once a character is shown, so are those after it up to the next control character; the first of
them outside ASCII ends a sequence that was interrupted. -/
def step (position : Position) (c : Char) : Position :=
  if isControl c then ⟨position.phase.next c, false⟩
  else if position.shown then ⟨if isAscii c then position.phase else .ground, true⟩
  else ⟨position.phase.next c, position.phase.shows c⟩

end Position

def visibleFrom (position : Position) : List Char → List Char
  | [] => []
  | c :: rest =>
    if (position.step c).shown then c :: visibleFrom (position.step c) rest
    else visibleFrom (position.step c) rest

def visible (text : String) : String :=
  String.ofList (visibleFrom .start text.toList)

end PartitionLowering.ControlSequence
