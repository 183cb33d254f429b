import HexDump.Pattern.Escape

/-! Sets of characters in brackets, which may hold further brackets and be combined by
operators. All operators bind alike and from left to right. -/
namespace HexDump.Pattern
open HexDump (Text)

structure Members where
  start : Position
  items : List SetNode
  deriving Repr

namespace Members

def add (m : Members) (s : SetNode) : Members := { m with items := s :: m.items }

def node (m : Members) : SetNode :=
  match m.items with
  | [] => .empty (.point m.start)
  | [s] => s
  | last :: rest => .union ⟨(rest.getLast?.getD last).span.start, last.span.stop⟩ m.items.reverse

end Members

structure Bracket where
  start : Position
  opening : Span
  negated : Bool
  deriving DecidableEq, Repr

abbrev Pending := Option (SetNode × SetOperator)

def Pending.with (pending : Pending) (right : SetNode) : SetNode :=
  match pending with
  | none => right
  | some (left, operator) =>
    .combined ⟨left.span.start, right.span.stop⟩ operator left right

namespace Reader

def leadingHyphens (start : Position) : Nat → Members → Reader Members
  | 0, m => return m
  | n + 1, m => do
    if (← current) = some '-' then
      let span ← characterSpan
      if (← nextVisible).isNone then refuse .bracketUnclosed (.point start)
      leadingHyphens start n (m.add (.literal ⟨span, '-', false⟩))
    else return m

def openBracket : Reader (Bracket × Members) := do
  let start ← here
  let proceed : Reader Unit := do
    if (← nextVisible).isNone then refuse .bracketUnclosed (← spanFrom start)
  proceed
  let negated := (← current) == some '^'
  if negated then proceed
  let m ← leadingHyphens start (← get).rest.length ⟨← here, []⟩
  let first := m.items.isEmpty && (← current) == some ']'
  let span ← characterSpan
  if first then proceed
  let m := if first then m.add (.literal ⟨span, ']', false⟩) else m
  return (⟨start, ← spanFrom start, negated⟩, m)

def asciiClass? (rest : Text) : Option (AsciiClass × Bool × Nat) :=
  match rest with
  | '[' :: ':' :: rest =>
    let negated := rest.head? == some '^'
    let rest := if negated then rest.tail else rest
    let name := rest.takeWhile (· ≠ ':')
    if [':', ']'].isPrefixOf (rest.drop name.length) then
      (AsciiClass.all.find? (·.2.toList = name)).map fun (kind, _) =>
        (kind, negated, name.length + (if negated then 5 else 4))
    else none
  | _ => none

def member (c : Char) : Reader Atom := do
  if c = '\\' then escape
  else
    let span ← characterSpan
    advance
    return .literal ⟨span, c, false⟩

def bound : Atom → Reader Literal
  | .literal l => return l
  | a => refuse .rangeBoundary a.span

def single : Atom → Reader SetNode
  | .literal l => return .literal l
  | .oneOf s => return s
  | a => refuse .bracketEscape a.span

/-- A single member or a range. A hyphen makes no range in front of a closing bracket or
of another hyphen. -/
def memberOrRange (bracket : Bracket) (c : Char) : Reader SetNode := do
  let first ← member c
  skipBlanks
  match ← current with
  | none => refuse .bracketUnclosed bracket.opening
  | some '-' =>
    let ahead ← followingVisible
    if ahead = some ']' ∨ ahead = some '-' then single first
    else match ← nextVisible with
      | none => refuse .bracketUnclosed bracket.opening
      | some d =>
        let last ← member d
        let span : Span := ⟨first.span.start, last.span.stop⟩
        let low ← bound first
        let high ← bound last
        if high.char < low.char then refuse .rangeOrder span
        return .range span low high
  | some _ => single first

def operator? (c : Char) : Option SetOperator :=
  if c = '&' then some .intersection
  else if c = '-' then some .difference
  else if c = '~' then some .symmetricDifference
  else none

def operatorAhead? (c : Char) : Reader (Option SetOperator) := do
  return if (← following) = some c then operator? c else none

def members (bracket : Bracket) (pending : Pending) (m : Members) : Nat → Reader SetNode
  | 0 => return m.node
  | n + 1 => do
    skipBlanks
    match ← current with
    | none => refuse .bracketUnclosed bracket.opening
    | some '[' =>
      match asciiClass? (← get).rest with
      | some (kind, negated, length) =>
        let start ← here
        advanceBy length
        members bracket pending (m.add (.ascii (← spanFrom start) kind negated)) n
      | none =>
        let (inner, first) ← openBracket
        let s ← members inner none first n
        members bracket pending (m.add s) n
    | some ']' =>
      advance
      return .bracketed (← spanFrom bracket.start) bracket.negated (pending.with m.node)
    | some c =>
      match ← operatorAhead? c with
      | some operator =>
        advanceBy 2
        members bracket (some (pending.with m.node, operator)) ⟨← here, []⟩ n
      | none =>
        let s ← memberOrRange bracket c
        members bracket pending (m.add s) n

def bracket : Reader SetNode := do
  let (bracket, m) ← openBracket
  members bracket none m ((← get).rest.length + 1)

end Reader
end HexDump.Pattern
