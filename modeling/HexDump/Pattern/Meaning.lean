import HexDump.Pattern.Branches
import HexDump.Unicode.Named

/-! What a written pattern means. Flags hold from where they stand to the end of their
group. Where Unicode is switched off, sets consist of bytes, and none of them may reach
beyond ASCII, since the texts searched are not cut inside a character. -/
namespace HexDump.Pattern
open HexDump (Text)
open HexDump.Unicode (Category CharSet Named Property)

structure Flags where
  ignoreCase : Bool
  manyLines : Bool
  dotAll : Bool
  unicode : Bool
  carriageReturns : Bool
  deriving DecidableEq, Repr

namespace Flags

def default : Flags := ⟨false, false, false, true, false⟩

def change (flags : Flags) : Flag × Bool → Flags
  | (.ignoreCase, on) => { flags with ignoreCase := on }
  | (.manyLines, on) => { flags with manyLines := on }
  | (.dotAll, on) => { flags with dotAll := on }
  | (.unicode, on) => { flags with unicode := on }
  | (.carriageReturns, on) => { flags with carriageReturns := on }
  | (.swapGreed, _) | (.spaced, _) => flags

def apply (flags : Flags) (changes : Changes) : Flags := changes.foldl change flags

end Flags

def nothing : CharSet.Ready := .of []

def anything : CharSet.Ready := .outside nothing

def between (first last : Char) : CharSet.Ready := .of [⟨first.toNat, last.toNat, 1⟩]

def just (c : Char) : CharSet.Ready := between c c

def firstHalf : CharSet.Ready := between '\x00' '\x7F'

def AsciiClass.table : AsciiClass → String
  | .alnum => "30..39 41..5A 61..7A"
  | .alpha => "41..5A 61..7A"
  | .ascii => "0..7F"
  | .blank => "9 20"
  | .cntrl => "0..1F 7F"
  | .digit => "30..39"
  | .graph => "21..7E"
  | .lower => "61..7A"
  | .print => "20..7E"
  | .punct => "21..2F 3A..40 5B..60 7B..7E"
  | .space => "9..D 20"
  | .upper => "41..5A"
  | .word => "30..39 41..5A 5F 61..7A"
  | .xdigit => "30..39 41..46 61..66"

def Shorthand.set (unicode : Bool) (kind : Shorthand) : CharSet String :=
  match kind, unicode with
  | .digit, true => Category.decimalNumber.set
  | .space, true => Property.whiteSpace
  | .word, true => Property.word
  | .digit, false => .of AsciiClass.digit.table
  | .space, false => .of AsciiClass.space.table
  | .word, false => .of AsciiClass.word.table

namespace Flags

def widen (flags : Flags) (s : CharSet.Ready) : CharSet.Ready :=
  if flags.ignoreCase then
    if flags.unicode then .anyCase s else .both (.anyCase s) firstHalf
  else s

def negate (flags : Flags) (span : Span) (negated : Bool) (s : CharSet.Ready) :
    Except Mistake CharSet.Ready :=
  if !negated then .ok s
  else if flags.unicode then .ok (.outside s)
  else .error ⟨.utf8Invalid, span, none⟩

def literal (flags : Flags) (l : Literal) : Except Mistake CharSet.Ready :=
  if flags.unicode || l.char < '\x80' then .ok (just l.char)
  else if l.isByte then .error ⟨.utf8Invalid, l.span, none⟩
  else .error ⟨.unicodeOff, l.span, none⟩

def property (flags : Flags) (span : Span) (query : Query) (negated : Bool) :
    Except Mistake CharSet.Ready :=
  if !flags.unicode then .error ⟨.unicodeOff, span, none⟩
  else match query with
    | .name name =>
      match Named.ofName name with
      | .set s => flags.negate span negated (flags.widen s.read)
      | .vacant => .error ⟨.categoryValueUnknown, span, none⟩
      | .unknown => .error ⟨.categoryUnknown, span, none⟩
    | .value property value differs =>
      match Named.ofValue property value with
      | some (.set s) => flags.negate span (negated != differs) (flags.widen s.read)
      | some _ => .error ⟨.categoryValueUnknown, span, none⟩
      | none => .error ⟨.categoryUnknown, span, none⟩

end Flags

def SetOperator.apply : SetOperator → CharSet.Ready → CharSet.Ready → CharSet.Ready
  | .intersection, a, b => .both a b
  | .difference, a, b => .without a b
  | .symmetricDifference, a, b => .either (.without a b) (.without b a)

mutual

def SetNode.meaning (flags : Flags) : SetNode → Except Mistake CharSet.Ready
  | .empty _ => .ok nothing
  | .literal l => flags.literal l
  | .range _ first last => do
    let _ ← flags.literal first
    let _ ← flags.literal last
    return between first.char last.char
  | .ascii span kind negated =>
    flags.negate span negated (flags.widen (CharSet.read (.of kind.table)))
  | .shorthand span kind negated =>
    flags.negate span negated (kind.set flags.unicode).read
  | .property span query negated => flags.property span query negated
  | .bracketed span negated body => do
    flags.negate span negated (flags.widen (← body.meaning flags))
  | .union _ items => SetNode.meaningOfAny flags items
  | .combined _ operator left right => do
    let a ← left.meaning flags
    let b ← right.meaning flags
    return operator.apply (flags.widen a) (flags.widen b)

def SetNode.meaningOfAny (flags : Flags) : List SetNode → Except Mistake CharSet.Ready
  | [] => .ok nothing
  | s :: rest => do
    let a ← s.meaning flags
    let b ← SetNode.meaningOfAny flags rest
    return .either a b

end

abbrev Translator := StateT Flags (Except Mistake)

def Literal.meaning (flags : Flags) (l : Literal) : Except Mistake Pattern :=
  if flags.unicode || l.char < '\x80' then .ok (.one (flags.widen (just l.char)))
  else if l.isByte then .error ⟨.utf8Invalid, l.span, none⟩
  else .ok (.one (just l.char))

def Flags.dot (flags : Flags) (span : Span) : Except Mistake Pattern :=
  if !flags.unicode then .error ⟨.utf8Invalid, span, none⟩
  else if flags.dotAll then .ok (.one anything)
  else if flags.carriageReturns then .ok (.one (.outside (.either (just '\n') (just '\r'))))
  else .ok (.one (.outside (just '\n')))

def Flags.place (flags : Flags) : Assertion → Place
  | .lineStart => if flags.manyLines then .lineStart flags.carriageReturns else .textStart
  | .lineEnd => if flags.manyLines then .lineEnd flags.carriageReturns else .textEnd
  | .textStart => .textStart
  | .textEnd => .textEnd
  | .word edge => .word edge (Shorthand.word.set flags.unicode).read

mutual

def Node.meaning : Node → Translator Pattern
  | .empty _ => return .empty
  | .changes _ made => do
    modify (·.apply made)
    return .empty
  | .literal l => do l.meaning (← get)
  | .dot span => do (← get).dot span
  | .assertion _ a => return .place ((← get).place a)
  | .oneOf s => return .one (← s.meaning (← get))
  | .repetition _ least most body => return .repeated least most (← body.meaning)
  | .group _ remembered made body => do
    let outside ← get
    set (outside.apply made)
    let pattern ← body.meaning
    set outside
    return if remembered then .group pattern else pattern
  | .sequence _ items => Node.meaningOfAll items
  | .alternation _ branches => Node.meaningOfAny branches

def Node.meaningOfAll : List Node → Translator Pattern
  | [] => return .empty
  | [n] => n.meaning
  | n :: rest => return .followedBy (← n.meaning) (← Node.meaningOfAll rest)

def Node.meaningOfAny : List Node → Translator Pattern
  | [] => return .empty
  | [n] => n.meaning
  | n :: rest => return .orElse (← n.meaning) (← Node.meaningOfAny rest)

end

end HexDump.Pattern
