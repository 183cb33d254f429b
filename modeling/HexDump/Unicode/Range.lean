import HexDump.Pieces
import HexDump.Utf8

/-! Sets of characters as ranges of code points, and tables of them as text: code
points in base sixteen, `41` alone or `41..5A` from first to last, `100..12E/2` for
every second one, with white space between entries. -/
namespace HexDump.Unicode
open HexDump (Text)

structure Range where
  first : Nat
  last : Nat
  step : Nat
  deriving DecidableEq, Repr

def Range.contains (r : Range) (n : Nat) : Bool :=
  r.first ≤ n && n ≤ r.last && (n - r.first) % r.step == 0

def within (ranges : List Range) (c : Char) : Bool := ranges.any (·.contains c.toNat)

def digitValue (c : Char) : Nat := if c ≤ '9' then c.toNat - 48 else c.toNat - 55

def number (digits : Text) : Nat := digits.foldl (fun n c => 16 * n + digitValue c) 0

def Range.ofEntry (entry : Text) : Range :=
  match Pieces.split '.' entry with
  | [first, _, last] =>
    match Pieces.split '/' last with
    | [last, step] => ⟨number first, number last, number step⟩
    | _ => ⟨number first, number last, 1⟩
  | _ => ⟨number entry, number entry, 1⟩

def entries (table : String) : List Text :=
  ((Pieces.lines '\n' table.toList).flatMap (Pieces.split ' ')).map (Pieces.trim (· = '\n'))
    |>.filter (· ≠ [])

def ranges (table : String) : List Range := (entries table).map Range.ofEntry

def blank : List Range :=
  [⟨0x9, 0xD, 1⟩, ⟨0x20, 0x20, 1⟩, ⟨0x85, 0x85, 1⟩, ⟨0xA0, 0xA0, 1⟩, ⟨0x1680, 0x1680, 1⟩,
    ⟨0x2000, 0x200A, 1⟩, ⟨0x2028, 0x2029, 1⟩, ⟨0x202F, 0x202F, 1⟩, ⟨0x205F, 0x205F, 1⟩,
    ⟨0x3000, 0x3000, 1⟩]

def isBlank (c : Char) : Bool := within blank c

end HexDump.Unicode
