import HexDump.Pattern.Scanner

/-! What a backslash begins: a character that would have a meaning without it, one
given by name or number, a place, or a set of characters. -/
namespace HexDump.Pattern
open HexDump (Text)

inductive Atom where
  | literal (l : Literal)
  | dot (span : Span)
  | assertion (span : Span) (a : Assertion)
  | oneOf (s : SetNode)
  deriving Repr

def Atom.span : Atom → Span
  | .literal l => l.span
  | .dot span | .assertion span _ => span
  | .oneOf s => s.span

def Atom.node : Atom → Node
  | .literal l => .literal l
  | .dot span => .dot span
  | .assertion span a => .assertion span a
  | .oneOf s => .oneOf s

namespace Reader

def isMeta (c : Char) : Bool := c ∈ "\\.+*?()|[]\x7b\x7d^$#&-~".toList

def isPlain (c : Char) : Bool := c < '\x80' && !c.isAlphanum && c ≠ '<' && c ≠ '>'

def isHexadecimal (c : Char) : Bool :=
  c.isDigit || (('A' ≤ c && c ≤ 'F') || ('a' ≤ c && c ≤ 'f'))

def hexadecimalValue (digits : Text) : Nat := Unicode.number (digits.map Char.toUpper)

def character? (n : Nat) : Option Char :=
  if n.isValidChar then some (Char.ofNat n) else none

def literal (start : Position) (span : Span) (digits : Text) (isByte : Bool) : Reader Literal := do
  match character? (hexadecimalValue digits) with
  | some c => return ⟨← spanFrom start, c, isByte⟩
  | none => refuse .hexadecimalValue span

def hexadecimalDigits : Nat → Reader Text
  | 0 => return []
  | n + 1 => do
    match ← current with
    | none => refuse .escapeUnfinished (← pointSpan)
    | some c =>
      if isHexadecimal c then
        advanceVisibly
        return c :: (← hexadecimalDigits n)
      else refuse .hexadecimalDigit (← characterSpan)

def hexadecimalInBraces (start : Position) : Reader Literal := do
  let opened ← here
  let inside := (← characterSpan).stop
  advanceVisibly
  let digits ← gather isHexadecimal advanceVisibly
  match ← current with
  | none => refuse .escapeUnfinished (← spanFrom opened)
  | some '}' =>
    let span ← spanFrom inside
    advanceVisibly
    if digits.isEmpty then refuse .hexadecimalEmpty (← spanFrom opened)
    literal start span digits false
  | some _ => refuse .hexadecimalDigit (← characterSpan)

def hexadecimal (start : Position) (letter : Char) : Reader Literal := do
  match ← nextVisible with
  | none => refuse .escapeUnfinished (← pointSpan)
  | some '{' => hexadecimalInBraces start
  | some _ =>
    let inside ← here
    let digits ← hexadecimalDigits (if letter = 'x' then 2 else if letter = 'u' then 4 else 8)
    literal start (← spanFrom inside) digits (letter = 'x')

def cut? (mark : Text) : Text → Option (Text × Text)
  | [] => none
  | c :: rest =>
    if mark.isPrefixOf (c :: rest) then some ([], (c :: rest).drop mark.length)
    else (cut? mark rest).map fun (before, behind) => (c :: before, behind)

def query (text : Text) : Query :=
  match cut? ['!', '='] text with
  | some (property, value) => .value property value true
  | none =>
    match cut? [':'] text with
    | some (property, value) => .value property value false
    | none =>
      match cut? ['='] text with
      | some (property, value) => .value property value false
      | none => .name text

def property (start : Position) (negated : Bool) : Reader SetNode := do
  match ← nextVisible with
  | none => refuse .escapeUnfinished (← pointSpan)
  | some '{' =>
    advanceVisibly
    let text ← gather (· ≠ '}') advanceVisibly
    if (← current).isNone then refuse .escapeUnfinished (← pointSpan)
    advance
    return .property (← spanFrom start) (query text) negated
  | some '\\' => refuse .categoryInvalid (← characterSpan)
  | some c =>
    advanceVisibly
    return .property (← spanFrom start) (.name [c]) negated

def edgeNames : List (String × Edge) :=
  [("start", .beginning), ("end", .ending), ("start-half", .openBefore),
    ("end-half", .openAfter)]

def edge? (start : Position) : Reader (Option Edge) := do
  let isNamePart (c : Char) : Bool := c.isAlpha || c = '-'
  let before ← get
  match ← nextVisible with
  | none => refuse .boundaryUnfinished (← spanFrom start)
  | some c =>
    if isNamePart c then
      let inside ← here
      let name ← gather isNamePart advanceVisibly
      if (← current) ≠ some '}' then refuse .boundaryUnclosed (← spanFrom before.position)
      let span ← spanFrom inside
      advance
      match edgeNames.find? (·.1.toList = name) with
      | some (_, edge) => return some edge
      | none => refuse .boundaryUnknown span
    else
      set before
      return none

def shorthand? : Char → Option (Shorthand × Bool)
  | 'd' => some (.digit, false)
  | 'D' => some (.digit, true)
  | 's' => some (.space, false)
  | 'S' => some (.space, true)
  | 'w' => some (.word, false)
  | 'W' => some (.word, true)
  | _ => none

def control? : Char → Option Char
  | 'a' => some '\x07'
  | 'f' => some '\x0C'
  | 't' => some '\t'
  | 'n' => some '\n'
  | 'r' => some '\r'
  | 'v' => some '\x0B'
  | _ => none

def assertion? : Char → Option Assertion
  | 'A' => some .textStart
  | 'z' => some .textEnd
  | 'b' => some (.word .boundary)
  | 'B' => some (.word .interior)
  | '<' => some (.word .beginning)
  | '>' => some (.word .ending)
  | _ => none

def shortEscape (start : Position) (c : Char) : Reader Atom := do
  let span ← spanFrom start
  if isMeta c || isPlain c then return .literal ⟨span, c, false⟩
  match control? c, assertion? c with
  | some control, _ => return .literal ⟨span, control, false⟩
  | none, some a =>
    if c = 'b' && (← current) == some '{' then
      match ← edge? start with
      | some edge => return .assertion (← spanFrom start) (.word edge)
      | none => return .assertion span a
    else return .assertion span a
  | none, none => refuse .escapeUnknown span

def escape : Reader Atom := do
  let start ← here
  match ← next with
  | none => refuse .escapeUnfinished (← spanFrom start)
  | some c =>
    if c.isDigit then refuse .referenceBack ⟨start, (← characterSpan).stop⟩
    else if c = 'x' || c = 'u' || c = 'U' then return .literal (← hexadecimal start c)
    else if c = 'p' || c = 'P' then return .oneOf (← property start (c = 'P'))
    else match shorthand? c with
      | some (kind, negated) =>
        advance
        return .oneOf (.shorthand (← spanFrom start) kind negated)
      | none =>
        advance
        shortEscape start c

def atom (c : Char) : Reader Atom := do
  if c = '\\' then escape
  else
    let span ← characterSpan
    advance
    if c = '.' then return .dot span
    else if c = '^' then return .assertion span .lineStart
    else if c = '$' then return .assertion span .lineEnd
    else return .literal ⟨span, c, false⟩

end Reader
end HexDump.Pattern
