import HexDump.Pattern.Meaning
import HexDump.Unicode.Stretches

/-! How much room a pattern takes as a machine on bytes, in which every repetition is
laid out, and the reading of patterns up to a limit of it. Two machines are made, one
for each direction, and only the forward one remembers groups. -/
namespace HexDump
open Unicode (CharSet Stretch)

namespace Pattern

inductive Direction where
  | forward
  | backward
  deriving DecidableEq, Repr

def stateRoom : Nat := 32

def branchRoom (ways : Nat) : Nat := stateRoom + 4 * ways

def rangesRoom (count : Nat) : Nat := stateRoom + 8 * count

/-- Backwards every beginning of an encoding has a state of its own. Forwards the
endings are shared, which takes about half of that. -/
def setRoom (direction : Direction) (s : CharSet.Ready) : Nat :=
  let stretches := Stretch.ofSet s
  if stretches.all (·.2 < 128) then
    match stretches with
    | [(first, last)] => if first = last then stateRoom else stateRoom + rangesRoom 1
    | _ => stateRoom + rangesRoom stretches.length
  else
    let encodings := Stretch.encodings stretches
    let states := stateRoom * Stretch.beginnings [] encodings
    match stretches with
    | [(first, last)] =>
      if first = last then states
      else wide direction encodings.length states
    | _ => wide direction encodings.length states
where
  wide (direction : Direction) (encodings states : Nat) : Nat :=
    let all := branchRoom encodings + stateRoom + states
    match direction with
    | .forward => all / 2
    | .backward => all

def isStill : Pattern → Bool
  | .empty | .place _ => true
  | .one _ => false
  | .sequence a b | .either a b => isStill a && isStill b
  | .group body => isStill body
  | .repeated _ most body => most == some 0 || isStill body

def mayStay : Pattern → Bool
  | .empty | .place _ => true
  | .one _ => false
  | .sequence a b => mayStay a && mayStay b
  | .either a b => mayStay a || mayStay b
  | .group body => mayStay body
  | .repeated least _ body => least == 0 || mayStay body

def repeatedRoom (least : Nat) (most : Option Nat) (mayStay : Bool) (body : Nat) : Nat :=
  match most with
  | none =>
    if 0 < least then least * body + branchRoom 2
    else if mayStay then body + 2 * branchRoom 2 + stateRoom
    else body + branchRoom 2
  | some most =>
    if most = least then max stateRoom (least * body)
    else if least = 0 ∧ most = 1 then body + branchRoom 2 + stateRoom
    else max stateRoom (least * body) + stateRoom + (most - least) * (body + branchRoom 2)

def room (direction : Direction) : Pattern → Nat
  | .empty | .place _ => stateRoom
  | .one s => setRoom direction s
  | .sequence a b => room direction a + room direction b
  | .either a b =>
    room direction a + room direction b +
      (match b with
        | .either _ _ => 4
        | _ => branchRoom 2 + stateRoom)
  | .group body =>
    match direction with
    | .forward => room direction body + 2 * stateRoom
    | .backward => room direction body
  | .repeated least most body =>
    if isStill body then room direction body
    else repeatedRoom least most (mayStay body) (room direction body)

def frameRoom (direction : Direction) : Nat :=
  let search := branchRoom 2 + stateRoom + rangesRoom 1
  match direction with
  | .forward => search + 3 * stateRoom
  | .backward => search + stateRoom

def roomLimit : Nat := 10485760

def fits (pattern : Pattern) (direction : Direction) : Bool :=
  frameRoom direction + room direction pattern ≤ roomLimit

def ofText (text : Text) : Except Text Pattern := do
  let node ← (Node.ofText text).mapError (·.text text)
  let (pattern, _) ← (node.meaning Flags.default).mapError (·.text text)
  if pattern.fits .forward && pattern.fits .backward then .ok pattern
  else .error ("Compiled regex exceeds size limit of ".toList ++ decimal roomLimit ++
    " bytes.".toList)

end Pattern
end HexDump
