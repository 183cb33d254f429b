import HexDump.Pattern
import HexDump.Pattern.Mistake

/-! Patterns as they are written: what was read, with the stretch it was read from. -/
namespace HexDump.Pattern

structure Literal where
  span : Span
  char : Char
  isByte : Bool
  deriving DecidableEq, Repr

inductive Shorthand where
  | digit
  | space
  | word
  deriving DecidableEq, Repr

inductive AsciiClass where
  | alnum
  | alpha
  | ascii
  | blank
  | cntrl
  | digit
  | graph
  | lower
  | print
  | punct
  | space
  | upper
  | word
  | xdigit
  deriving DecidableEq, Repr

def AsciiClass.all : List (AsciiClass × String) :=
  [(alnum, "alnum"), (alpha, "alpha"), (ascii, "ascii"), (blank, "blank"), (cntrl, "cntrl"),
    (digit, "digit"), (graph, "graph"), (lower, "lower"), (print, "print"), (punct, "punct"),
    (space, "space"), (upper, "upper"), (word, "word"), (xdigit, "xdigit")]

inductive Query where
  | name (name : Text)
  | value (property value : Text) (differs : Bool)
  deriving DecidableEq, Repr

inductive SetOperator where
  | intersection
  | difference
  | symmetricDifference
  deriving DecidableEq, Repr

inductive SetNode where
  | empty (span : Span)
  | literal (l : Literal)
  | range (span : Span) (first last : Literal)
  | ascii (span : Span) (kind : AsciiClass) (negated : Bool)
  | shorthand (span : Span) (kind : Shorthand) (negated : Bool)
  | property (span : Span) (query : Query) (negated : Bool)
  | bracketed (span : Span) (negated : Bool) (body : SetNode)
  | union (span : Span) (items : List SetNode)
  | combined (span : Span) (operator : SetOperator) (left right : SetNode)
  deriving Repr

def SetNode.span : SetNode → Span
  | .empty span | .range span _ _ | .ascii span _ _ | .shorthand span _ _ | .property span _ _
  | .bracketed span _ _ | .union span _ | .combined span _ _ _ => span
  | .literal l => l.span

inductive Flag where
  | ignoreCase
  | manyLines
  | dotAll
  | swapGreed
  | unicode
  | carriageReturns
  | spaced
  deriving DecidableEq, Repr

def Flag.ofChar? : Char → Option Flag
  | 'i' => some ignoreCase
  | 'm' => some manyLines
  | 's' => some dotAll
  | 'U' => some swapGreed
  | 'u' => some unicode
  | 'R' => some carriageReturns
  | 'x' => some spaced
  | _ => none

abbrev Changes := List (Flag × Bool)

inductive Assertion where
  | lineStart
  | lineEnd
  | textStart
  | textEnd
  | word (edge : Edge)
  deriving DecidableEq, Repr

inductive Node where
  | empty (span : Span)
  | changes (span : Span) (changes : Changes)
  | literal (l : Literal)
  | dot (span : Span)
  | assertion (span : Span) (a : Assertion)
  | oneOf (s : SetNode)
  | repetition (span : Span) (least : Nat) (most : Option Nat) (body : Node)
  | group (span : Span) (remembered : Bool) (changes : Changes) (body : Node)
  | sequence (span : Span) (items : List Node)
  | alternation (span : Span) (branches : List Node)
  deriving Repr

def Node.span : Node → Span
  | .empty span | .changes span _ | .dot span | .assertion span _ | .repetition span _ _ _
  | .group span _ _ _ | .sequence span _ | .alternation span _ => span
  | .literal l => l.span
  | .oneOf s => s.span

def Node.isOperand : Node → Bool
  | .empty _ | .changes _ _ => false
  | _ => true

mutual

def SetNode.tooDeep (depth : Nat) : SetNode → Option Span
  | .bracketed span _ body =>
    if depth < nestingLimit then body.tooDeep (depth + 1) else some span
  | .union span items =>
    if depth < nestingLimit then SetNode.anyTooDeep (depth + 1) items else some span
  | .combined span _ left right =>
    if depth < nestingLimit then left.tooDeep (depth + 1) <|> right.tooDeep (depth + 1)
    else some span
  | _ => none

def SetNode.anyTooDeep (depth : Nat) : List SetNode → Option Span
  | [] => none
  | s :: rest => s.tooDeep depth <|> SetNode.anyTooDeep depth rest

end

mutual

def Node.tooDeep (depth : Nat) : Node → Option Span
  | .oneOf s => s.tooDeep depth
  | .repetition span _ _ body | .group span _ _ body =>
    if depth < nestingLimit then body.tooDeep (depth + 1) else some span
  | .sequence span items | .alternation span items =>
    if depth < nestingLimit then Node.anyTooDeep (depth + 1) items else some span
  | _ => none

def Node.anyTooDeep (depth : Nat) : List Node → Option Span
  | [] => none
  | n :: rest => n.tooDeep depth <|> Node.anyTooDeep depth rest

end

end HexDump.Pattern
