import HexDump.Pieces
import HexDump.Summary

/-! What can be wrong with a written pattern, where, and how that is shown: the lines
of the pattern with carets below the stretch meant. -/
namespace HexDump.Pattern
open HexDump (Text)

structure Position where
  line : Nat
  column : Nat
  deriving DecidableEq, Repr

namespace Position

def start : Position := ⟨1, 1⟩

def past (p : Position) (c : Char) : Position :=
  if c = '\n' then ⟨p.line + 1, 1⟩ else ⟨p.line, p.column + 1⟩

def isBefore (p q : Position) : Bool :=
  p.line < q.line || (p.line == q.line && p.column < q.column)

end Position

structure Span where
  start : Position
  stop : Position
  deriving DecidableEq, Repr

namespace Span

def point (p : Position) : Span := ⟨p, p⟩

def isOneLine (s : Span) : Bool := s.start.line == s.stop.line

end Span

def nestingLimit : Nat := 250

inductive Cause where
  | boundaryUnclosed
  | boundaryUnknown
  | boundaryUnfinished
  | bracketEscape
  | bracketUnclosed
  | categoryInvalid
  | categoryUnknown
  | categoryValueUnknown
  | countEmpty
  | countInvalid
  | countOrder
  | countUnclosed
  | escapeUnfinished
  | escapeUnknown
  | flagDangling
  | flagRepeated
  | flagUnfinished
  | flagUnknown
  | groupUnclosed
  | groupUnopened
  | hexadecimalDigit
  | hexadecimalEmpty
  | hexadecimalValue
  | lookAround
  | nameEmpty
  | nameInvalid
  | nameRepeated
  | nameUnfinished
  | negationRepeated
  | nestingDepth
  | operandMissing
  | rangeBoundary
  | rangeOrder
  | referenceBack
  | unicodeOff
  | utf8Invalid
  deriving DecidableEq, Repr

def Cause.message : Cause → Text
  | .boundaryUnclosed =>
    "special word boundary assertion is either unclosed or contains an invalid character".toList
  | .boundaryUnknown =>
    "unrecognized special word boundary assertion, ".toList ++
      "valid choices are: start, end, start-half or end-half".toList
  | .boundaryUnfinished =>
    "found either the beginning of a special word boundary or ".toList ++
      "a bounded repetition on a \\b with an opening brace, but no closing brace".toList
  | .bracketEscape => "invalid escape sequence found in character class".toList
  | .bracketUnclosed => "unclosed character class".toList
  | .categoryInvalid => "invalid Unicode character class".toList
  | .categoryUnknown => "Unicode property not found".toList
  | .categoryValueUnknown => "Unicode property value not found".toList
  | .countEmpty => "repetition quantifier expects a valid decimal".toList
  | .countInvalid => "decimal literal invalid".toList
  | .countOrder => "invalid repetition count range, the start must be <= the end".toList
  | .countUnclosed => "unclosed counted repetition".toList
  | .escapeUnfinished =>
    "incomplete escape sequence, reached end of pattern prematurely".toList
  | .escapeUnknown => "unrecognized escape sequence".toList
  | .flagDangling => "dangling flag negation operator".toList
  | .flagRepeated => "duplicate flag".toList
  | .flagUnfinished => "expected flag but got end of regex".toList
  | .flagUnknown => "unrecognized flag".toList
  | .groupUnclosed => "unclosed group".toList
  | .groupUnopened => "unopened group".toList
  | .hexadecimalDigit => "invalid hexadecimal digit".toList
  | .hexadecimalEmpty => "hexadecimal literal empty".toList
  | .hexadecimalValue => "hexadecimal literal is not a Unicode scalar value".toList
  | .lookAround =>
    "look-around, including look-ahead and look-behind, is not supported".toList
  | .nameEmpty => "empty capture group name".toList
  | .nameInvalid => "invalid capture group character".toList
  | .nameRepeated => "duplicate capture group name".toList
  | .nameUnfinished => "unclosed capture group name".toList
  | .negationRepeated => "flag negation operator repeated".toList
  | .nestingDepth =>
    "exceed the maximum number of nested parentheses/brackets (".toList ++
      decimal nestingLimit ++ [')']
  | .operandMissing => "repetition operator missing expression".toList
  | .rangeBoundary => "invalid range boundary, must be a literal".toList
  | .rangeOrder =>
    "invalid character class range, the start must be <= the end".toList
  | .referenceBack => "backreferences are not supported".toList
  | .unicodeOff => "Unicode not allowed here".toList
  | .utf8Invalid => "pattern can match invalid UTF-8".toList

structure Mistake where
  cause : Cause
  span : Span
  earlier : Option Span
  deriving DecidableEq, Repr

namespace Mistake

def spans (m : Mistake) : List Span :=
  match m.earlier with
  | none => [m.span]
  | some other =>
    if other.start.isBefore m.span.start then [other, m.span] else [m.span, other]

def bare (line : Text) : Text :=
  match line.reverse with
  | '\n' :: '\r' :: rest => rest.reverse
  | '\n' :: rest => rest.reverse
  | _ => line

/-- The columns that line numbers take. A pattern on one line has none; behind a line
feed at the end there is one more line. -/
def numberWidth (pattern : Text) : Nat :=
  let count := (Pieces.lines '\n' pattern).length + (if pattern.getLast? = some '\n' then 1 else 0)
  if count ≤ 1 then 0 else (decimal count).length

def margin (width number : Nat) : Text :=
  if width = 0 then List.replicate 4 ' '
  else List.replicate (width - (decimal number).length) ' ' ++ decimal number ++ [':', ' ']

def carets (column : Nat) : List Span → Text
  | [] => []
  | s :: rest =>
    let count := max 1 (s.stop.column - s.start.column)
    List.replicate (s.start.column - column) ' ' ++ List.replicate count '^' ++
      carets (max column s.start.column + count) rest

def notes (width number : Nat) (spans : List Span) : Text :=
  match spans.filter (fun s => s.isOneLine && s.start.line == number) with
  | [] => []
  | here => List.replicate (if width = 0 then 4 else width + 2) ' ' ++ carets 1 here ++ ['\n']

def drawing (width : Nat) (spans : List Span) : Nat → List Text → Text
  | _, [] => []
  | number, line :: rest =>
    margin width number ++ bare line ++ ['\n'] ++ notes width number spans ++
      drawing width spans (number + 1) rest

def divider : Text := List.replicate 79 '~' ++ ['\n']

def reach (s : Span) : Text :=
  "on line ".toList ++ decimal s.start.line ++ " (column ".toList ++ decimal s.start.column ++
    ") through line ".toList ++ decimal s.stop.line ++ " (column ".toList ++
    decimal (s.stop.column - 1) ++ [')', '\n']

def text (m : Mistake) (pattern : Text) : Text :=
  let picture := drawing (numberWidth pattern) m.spans 1 (Pieces.lines '\n' pattern)
  "regex parse error:\n".toList ++
    (if '\n' ∈ pattern then
      divider ++ picture ++ divider ++
        (m.spans.filter (fun s => !s.isOneLine)).flatMap reach
    else picture) ++
    "error: ".toList ++ m.cause.message

end Mistake
end HexDump.Pattern
