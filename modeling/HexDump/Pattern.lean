import HexDump.Unicode.CharSet

/-! Patterns that a text may contain. A place of a text is a gap between characters,
one in front and one behind among them. A pattern leads from some places to others,
and a text contains it if there is any place it can lead to. -/
namespace HexDump
open Unicode (CharSet)

inductive Edge where
  | boundary
  | interior
  | beginning
  | ending
  | openBefore
  | openAfter
  deriving DecidableEq, Repr

def Edge.allows (edge : Edge) (wordBefore wordAfter : Bool) : Bool :=
  match edge with
  | .boundary => wordBefore != wordAfter
  | .interior => wordBefore == wordAfter
  | .beginning => !wordBefore && wordAfter
  | .ending => wordBefore && !wordAfter
  | .openBefore => !wordBefore
  | .openAfter => !wordAfter

inductive Place where
  | textStart
  | textEnd
  | lineStart (returns : Bool)
  | lineEnd (returns : Bool)
  | word (edge : Edge) (members : CharSet.Ready)
  deriving DecidableEq, Repr

def Place.allows (place : Place) (before after : Option Char) : Bool :=
  match place with
  | .textStart => before.isNone
  | .textEnd => after.isNone
  | .lineStart returns =>
    before.isNone || before == some '\n' ||
      (returns && before == some '\r' && after != some '\n')
  | .lineEnd returns =>
    after.isNone || (returns && after == some '\r') ||
      (after == some '\n' && !(returns && before == some '\r'))
  | .word edge members => edge.allows (before.any members.contains) (after.any members.contains)

inductive Pattern where
  | empty
  | one (set : CharSet.Ready)
  | place (p : Place)
  | sequence (first second : Pattern)
  | either (first second : Pattern)
  | group (body : Pattern)
  | repeated (least : Nat) (most : Option Nat) (body : Pattern)
  deriving DecidableEq, Repr

abbrev Marks := List Bool

namespace Marks

def union (a b : Marks) : Marks := List.zipWith (· || ·) a b

def minus (a b : Marks) : Marks := List.zipWith (fun x y => x && !y) a b

def across (set : CharSet.Ready) (text : Text) (marks : Marks) : Marks :=
  false :: List.zipWith (fun mark c => mark && set.contains c) marks text

def stay (p : Place) (text : Text) (marks : Marks) : Marks :=
  let sides := (none :: text.map some).zip (text.map some ++ [none])
  List.zipWith (fun mark side => mark && p.allows side.1 side.2) marks sides

def times (go : Marks → Marks) : Nat → Marks → Marks
  | 0, marks => marks
  | n + 1, marks =>
    let next := go marks
    if next = marks then marks else times go n next

def upTo (go : Marks → Marks) : Nat → Marks → Marks → Marks
  | 0, seen, _ => seen
  | n + 1, seen, fresh =>
    let next := (go fresh).minus seen
    if next.any id then upTo go n (seen.union next) next else seen

end Marks

namespace Pattern

/-- Where a pattern leads from the marked places. Without a bound a repetition ends
after as many rounds as there are places, for each round has to reach a new one. -/
def leads (text : Text) : Pattern → Marks → Marks
  | .empty, marks => marks
  | .one set, marks => marks.across set text
  | .place p, marks => marks.stay p text
  | .sequence first second, marks => leads text second (leads text first marks)
  | .either first second, marks => (leads text first marks).union (leads text second marks)
  | .group body, marks => leads text body marks
  | .repeated least most body, marks =>
    let marks := Marks.times (leads text body) least marks
    match most with
    | some most => Marks.upTo (leads text body) (most - least) marks marks
    | none => Marks.upTo (leads text body) (text.length + 1) marks marks

def followedBy (first second : Pattern) : Pattern :=
  match first, second with
  | .empty, _ => second
  | _, .empty => first
  | _, _ => .sequence first second

def orElse (first second : Pattern) : Pattern :=
  match first, second with
  | .one a, .one b => .one (.either a b)
  | _, _ => .either first second

def isIn (pattern : Pattern) (text : Text) : Bool :=
  (leads text pattern (List.replicate (text.length + 1) true)).any id

end Pattern
end HexDump
