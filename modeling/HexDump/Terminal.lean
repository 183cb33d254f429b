import HexDump.Utf8

/-! Text as a terminal would show it, without its control sequences. A scan is in
the middle of a sequence or not; inside one nothing shows, except that white space
breaks a sequence off and shows. -/
namespace HexDump.Terminal
open HexDump (Text)

inductive Mode where
  | ground
  | escape
  | intermediate
  | control
  | device
  | deviceParameters
  | deviceIntermediate
  | string
  | command
  deriving DecidableEq, Repr

def escapeCharacter : Char := '\x1B'

def aborts (c : Char) : Bool := c = '\x18' || c = '\x1A'

def between (low high : Char) (c : Char) : Bool := low ≤ c && c ≤ high

def isAscii (c : Char) : Bool := c < '\x80'

def isShownControl (c : Char) : Bool := c = '\t' || c = '\n' || c = '\x0C' || c = '\r'

def isControl (c : Char) : Bool := c < ' ' || c = '\x7F'

def shows (c : Char) : Bool := !isControl c || isShownControl c

def endsString (c : Char) : Bool := (String.utf8EncodeChar c).contains 0x9C

def Mode.next (mode : Mode) (c : Char) : Mode :=
  if c = escapeCharacter then .escape
  else if aborts c then .ground
  else match mode with
    | .ground => .ground
    | .escape =>
      if between ' ' '/' c then .intermediate
      else if c = '[' then .control
      else if c = ']' then .command
      else if c = 'P' then .device
      else if c = 'X' || c = '^' || c = '_' then .string
      else if between '0' '~' c then .ground
      else .escape
    | .intermediate => if between '0' '~' c then .ground else .intermediate
    | .control => if between '@' '~' c then .ground else .control
    | .device =>
      if between ' ' '/' c then .deviceIntermediate
      else if between '0' '?' c then .deviceParameters
      else if between '@' '~' c then .string
      else .device
    | .deviceParameters =>
      if between ' ' '/' c then .deviceIntermediate
      else if between '<' '~' c then .string
      else .deviceParameters
    | .deviceIntermediate => if between '0' '~' c then .string else .deviceIntermediate
    | .string => if endsString c then .ground else .string
    | .command => if c = '\x07' then .ground else .command

def Mode.showsHere (mode : Mode) (c : Char) : Bool :=
  match mode with
  | .ground => shows c
  | .escape | .intermediate | .control => isShownControl c
  | .device | .deviceParameters | .deviceIntermediate | .string | .command => false

/-- The state of a scan. While it is showing, the mode that white space has broken
off is kept and comes back with the next character that does not show. -/
structure Scan where
  mode : Mode
  showing : Bool
  deriving DecidableEq, Repr

def Scan.start : Scan := ⟨.ground, false⟩

def Scan.step (scan : Scan) (c : Char) : Scan × Bool :=
  if scan.showing && shows c then
    (⟨if isAscii c then scan.mode else .ground, true⟩, true)
  else if scan.mode.showsHere c then (⟨scan.mode, true⟩, true)
  else (⟨scan.mode.next c, false⟩, false)

def stripFrom (scan : Scan) : Text → Text
  | [] => []
  | c :: rest =>
    let (scan, shown) := scan.step c
    if shown then c :: stripFrom scan rest else stripFrom scan rest

def strip (text : Text) : Text := stripFrom .start text

end HexDump.Terminal
