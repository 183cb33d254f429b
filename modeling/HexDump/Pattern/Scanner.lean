import HexDump.Pattern.Written
import HexDump.Unicode.Range

/-! Reading a pattern from left to right. While white space is left out, so are
comments from a number sign to the end of its line. -/
namespace HexDump.Pattern
open HexDump (Text)

structure Scanner where
  rest : Text
  position : Position
  spaced : Bool
  names : List (Text × Span)
  deriving DecidableEq, Repr

namespace Scanner

def ofText (text : Text) : Scanner := ⟨text, .start, false, []⟩

def pastBlanks (inComment : Bool) : Text → Position → Text × Position
  | [], p => ([], p)
  | c :: rest, p =>
    if inComment then pastBlanks (c ≠ '\n') rest (p.past c)
    else if Unicode.isBlank c then pastBlanks false rest (p.past c)
    else if c = '#' then pastBlanks true rest (p.past c)
    else (c :: rest, p)

def firstVisible (signSeen : Bool) : Text → Option Char
  | [] => none
  | c :: rest =>
    if Unicode.isBlank c then firstVisible signSeen rest
    else if c = '#' && !signSeen then firstVisible true rest
    else some c

end Scanner

abbrev Reader := StateT Scanner (Except Mistake)

namespace Reader

variable {α : Type}

def refuse (cause : Cause) (span : Span) : Reader α := throw ⟨cause, span, none⟩

def here : Reader Position := return (← get).position

def current : Reader (Option Char) := return (← get).rest.head?

def following : Reader (Option Char) := return (← get).rest.tail.head?

def followingVisible : Reader (Option Char) := do
  let s ← get
  return if s.spaced then Scanner.firstVisible false s.rest.tail else s.rest.tail.head?

def skipBlanks : Reader Unit := modify fun s =>
  if s.spaced then
    let (rest, position) := Scanner.pastBlanks false s.rest s.position
    { s with rest, position }
  else s

def advance : Reader Unit := modify fun s =>
  match s.rest with
  | [] => s
  | c :: rest => { s with rest, position := s.position.past c }

def advanceBy : Nat → Reader Unit
  | 0 => return
  | n + 1 => do
    advance
    advanceBy n

def advanceVisibly : Reader Unit := do
  advance
  skipBlanks

def next : Reader (Option Char) := do
  advance
  current

def nextVisible : Reader (Option Char) := do
  advanceVisibly
  current

def accept (text : Text) : Reader Bool := do
  if text.isPrefixOf (← get).rest then
    advanceBy text.length
    return true
  else return false

def spanFrom (start : Position) : Reader Span := return ⟨start, ← here⟩

def pointSpan : Reader Span := return .point (← here)

def characterSpan : Reader Span := do
  let s ← get
  return ⟨s.position, (s.rest.head?.map s.position.past).getD s.position⟩

def gatherFrom (wanted : Char → Bool) (go : Reader Unit) : Nat → Reader Text
  | 0 => return []
  | n + 1 => do
    match ← current with
    | some c =>
      if wanted c then
        go
        return c :: (← gatherFrom wanted go n)
      else return []
    | none => return []

def gather (wanted : Char → Bool) (go : Reader Unit) : Reader Text := do
  gatherFrom wanted go (← get).rest.length

end Reader
end HexDump.Pattern
