import HexDump.Pattern.Bracket
import HexDump.Unicode.Property

/-! Whole patterns: sequences, alternatives, repetitions and groups. -/
namespace HexDump.Pattern
open HexDump (Text)
open HexDump.Unicode (Category CharSet Property)

structure Row where
  start : Position
  items : List Node
  deriving Repr

namespace Row

def add (r : Row) (n : Node) : Row := { r with items := n :: r.items }

def node (r : Row) (stop : Position) : Node :=
  match r.items with
  | [] => .empty ⟨r.start, stop⟩
  | [n] => n
  | items => .sequence ⟨r.start, stop⟩ items.reverse

end Row

structure Branches where
  start : Position
  finished : List Node
  row : Row
  deriving Repr

namespace Branches

def begin (start : Position) : Branches := ⟨start, [], ⟨start, []⟩⟩

def add (b : Branches) (n : Node) : Branches := { b with row := b.row.add n }

def pop (b : Branches) : Option (Node × Branches) :=
  match b.row.items with
  | [] => none
  | n :: rest => some (n, { b with row := { b.row with items := rest } })

def next (b : Branches) (stop start : Position) : Branches :=
  { b with finished := b.row.node stop :: b.finished, row := ⟨start, []⟩ }

def node (b : Branches) (stop : Position) : Node :=
  match b.finished with
  | [] => b.row.node stop
  | finished => .alternation ⟨b.start, stop⟩ (b.row.node stop :: finished).reverse

end Branches

inductive Opening where
  | changes (span : Span) (changes : Changes)
  | group (remembered : Bool) (changes : Changes)
  deriving DecidableEq, Repr

namespace Reader

def largestCount : Nat := 4294967295

/-- A count, with white space around it. Its mistake is returned and not thrown, since
another one may come first. -/
def count : Reader (Except Mistake Nat) := do
  let _ ← gather Unicode.isBlank advance
  let start ← here
  let digits ← gather Char.isDigit advanceVisibly
  let span ← spanFrom start
  let _ ← gather Unicode.isBlank advanceVisibly
  let n := digits.foldl (fun n c => 10 * n + (c.toNat - '0'.toNat)) 0
  return if digits.isEmpty then .error ⟨.countEmpty, span, none⟩
    else if largestCount < n then .error ⟨.countInvalid, span, none⟩
    else .ok n

def takeLazy : Reader Unit := do
  if (← current) = some '?' then advance

def repetition (least : Nat) (most : Option Nat) (body : Node) : Reader Node :=
  return .repetition ⟨body.span.start, ← here⟩ least most body

def bounds (start : Position) (first : Except Mistake Nat) : Reader (Nat × Option Nat) := do
  match ← current with
  | none => refuse .countUnclosed (← spanFrom start)
  | some ',' =>
    match ← nextVisible with
    | none => refuse .countUnclosed (← spanFrom start)
    | some '}' => return (← first, none)
    | some _ =>
      let least ← first
      let most ← (← count)
      return (least, some most)
  | some _ =>
    let n ← first
    return (n, some n)

def counted (body : Node) : Reader Node := do
  let start ← here
  if (← nextVisible).isNone then refuse .countUnclosed (← spanFrom start)
  let first ← count
  let (least, most) ← bounds start first
  if (← current) ≠ some '}' then refuse .countUnclosed (← spanFrom start)
  advanceVisibly
  takeLazy
  if most.any (· < least) then refuse .countOrder (← spanFrom start)
  repetition least most body

def repeated (c : Char) (body : Node) : Reader Node := do
  if c = '{' then counted body
  else
    advance
    takeLazy
    if c = '?' then repetition 0 (some 1) body
    else repetition (if c = '+' then 1 else 0) none body

def isRepetition (c : Char) : Bool := c = '?' || c = '*' || c = '+' || c = '{'

def numeric : CharSet String := Category.union [.decimalNumber, .letterNumber, .otherNumber]

def isNamePart (isFirst : Bool) (c : Char) : Bool :=
  c = '_' || Property.alphabetic.has c ||
    (!isFirst && (c = '.' || c = '[' || c = ']' || numeric.has c))

def nameFrom (isFirst : Bool) : Nat → Reader Text
  | 0 => return []
  | n + 1 => do
    match ← current with
    | none | some '>' => return []
    | some c =>
      if isNamePart isFirst c then
        advance
        return c :: (← nameFrom false n)
      else refuse .nameInvalid (← characterSpan)

def groupName : Reader Unit := do
  let start ← here
  let name ← nameFrom true (← get).rest.length
  let span ← spanFrom start
  if (← current).isNone then refuse .nameUnfinished (← pointSpan)
  advance
  if name.isEmpty then refuse .nameEmpty (.point start)
  match (← get).names.find? (·.1 = name) with
  | some (_, earlier) => throw ⟨.nameRepeated, span, some earlier⟩
  | none => modify fun s => { s with names := (name, span) :: s.names }

abbrev FlagsRead := List (Option Flag × Span)

def addFlag (flags : FlagsRead) (flag : Option Flag) : Reader FlagsRead := do
  let span ← characterSpan
  match flags.find? (·.1 = flag), flag with
  | some (_, earlier), some _ => throw ⟨.flagRepeated, span, some earlier⟩
  | some (_, earlier), none => throw ⟨.negationRepeated, span, some earlier⟩
  | none, _ => return flags ++ [(flag, span)]

def flagsFrom (flags : FlagsRead) : Nat → Reader FlagsRead
  | 0 => return flags
  | n + 1 => do
    match ← current with
    | none => refuse .flagUnfinished (← pointSpan)
    | some c =>
      if c = ':' ∨ c = ')' then return flags
      let flag : Option Flag ←
        if c = '-' then pure none
        else match Flag.ofChar? c with
          | some flag => pure (some flag)
          | none => refuse .flagUnknown (← characterSpan)
      let flags ← addFlag flags flag
      advance
      flagsFrom flags n

def changesOf (enabled : Bool) : FlagsRead → Changes
  | [] => []
  | (some flag, _) :: rest => (flag, enabled) :: changesOf enabled rest
  | (none, _) :: rest => changesOf false rest

def flags : Reader FlagsRead := do
  let flags ← flagsFrom [] ((← get).rest.length + 1)
  match flags.getLast? with
  | some (none, span) => refuse .flagDangling span
  | _ => return flags

def lookArounds : List Text := ["?=".toList, "?!".toList, "?<=".toList, "?<!".toList]

def refuseLookAround (start : Position) : List Text → Reader Unit
  | [] => return
  | text :: rest => do
    if ← accept text then refuse .lookAround (← spanFrom start)
    refuseLookAround start rest

def opening : Reader Opening := do
  let parenthesis ← characterSpan
  advanceVisibly
  refuseLookAround parenthesis.start lookArounds
  let inside ← pointSpan
  if ← accept "?P<".toList then
    groupName
    return .group true []
  else if ← accept "?<".toList then
    groupName
    return .group true []
  else if ← accept ['?'] then
    if (← current).isNone then refuse .groupUnclosed parenthesis
    let flags ← flags
    let isGroup := (← current) == some ':'
    advance
    if isGroup then return .group false (changesOf true flags)
    else if flags.isEmpty then refuse .operandMissing inside
    else return .changes (← spanFrom parenthesis.start) (changesOf true flags)
  else return .group true []

def setSpaced (changes : Changes) : Reader Unit := modify fun s =>
  { s with spaced := (changes.find? (·.1 = .spaced)).elim s.spaced (·.2) }

def branches (b : Branches) : Nat → Reader Node
  | 0 => return b.node (← here)
  | n + 1 => do
    skipBlanks
    match ← current with
    | none | some ')' => return b.node (← here)
    | some '|' =>
      let stop ← here
      advance
      branches (b.next stop (← here)) n
    | some '(' =>
      let parenthesis ← characterSpan
      match ← opening with
      | .changes span changes =>
        setSpaced changes
        branches (b.add (.changes span changes)) n
      | .group remembered changes =>
        let spaced := (← get).spaced
        setSpaced changes
        let body ← branches (.begin (← here)) n
        if (← current).isNone then refuse .groupUnclosed parenthesis
        modify fun s => { s with spaced }
        advance
        branches (b.add (.group (← spanFrom parenthesis.start) remembered changes body)) n
    | some '[' =>
      let s ← bracket
      branches (b.add (.oneOf s)) n
    | some c =>
      if isRepetition c then
        match b.pop with
        | some (body, b) =>
          if body.isOperand then
            let r ← repeated c body
            branches (b.add r) n
          else refuse .operandMissing (← pointSpan)
        | none => refuse .operandMissing (← pointSpan)
      else
        let a ← atom c
        branches (b.add a.node) n

def whole : Reader Node := do
  let node ← branches (.begin (← here)) ((← get).rest.length + 1)
  if (← current).isSome then refuse .groupUnopened (← characterSpan)
  match node.tooDeep 0 with
  | some span => refuse .nestingDepth span
  | none => return node

end Reader

def Node.ofText (text : Text) : Except Mistake Node :=
  (·.1) <$> Reader.whole (Scanner.ofText text)

end HexDump.Pattern
