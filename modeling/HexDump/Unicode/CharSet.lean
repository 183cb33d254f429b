import HexDump.Unicode.Folding

/-! Sets of characters as expressions over parts of any kind, such as a table in text
or the ranges read from it. -/
namespace HexDump.Unicode

inductive CharSet (α : Type) where
  | of (part : α)
  | either (a b : CharSet α)
  | both (a b : CharSet α)
  | outside (a : CharSet α)
  | anyCase (a : CharSet α)
  deriving DecidableEq, Repr

namespace CharSet

variable {α β : Type}

def map (f : α → β) : CharSet α → CharSet β
  | .of part => .of (f part)
  | .either a b => .either (a.map f) (b.map f)
  | .both a b => .both (a.map f) (b.map f)
  | .outside a => .outside (a.map f)
  | .anyCase a => .anyCase (a.map f)

def holds (inside : α → Char → Bool) : CharSet α → Char → Bool
  | .of part, c => inside part c
  | .either a b, c => a.holds inside c || b.holds inside c
  | .both a b, c => a.holds inside c && b.holds inside c
  | .outside a, c => !a.holds inside c
  | .anyCase a, c => (alike c).any (fun d => a.holds inside d)

def anyOf : List (CharSet String) → CharSet String
  | [] => .of ""
  | [a] => a
  | a :: rest => .either a (anyOf rest)

def without (a b : CharSet α) : CharSet α := .both a (.outside b)

abbrev Ready := CharSet (List Range)

def read (a : CharSet String) : Ready := a.map ranges

def contains (a : Ready) (c : Char) : Bool := a.holds within c

def has (a : CharSet String) (c : Char) : Bool :=
  a.holds (fun table => within (ranges table)) c

end CharSet

end HexDump.Unicode
