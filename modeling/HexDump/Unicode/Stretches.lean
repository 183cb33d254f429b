import HexDump.Unicode.CharSet

/-! Sets of characters as rising stretches of code points, and the byte sequences that
encode them. -/
namespace HexDump.Unicode

abbrev Stretch := Nat × Nat

namespace Stretch

def lastCodePoint : Nat := 0x10FFFF

def joinFrom (s : Stretch) : List Stretch → List Stretch
  | [] => [s]
  | t :: rest =>
    if t.1 ≤ s.2 + 1 then joinFrom (s.1, max s.2 t.2) rest else s :: joinFrom t rest

def arrange (l : List Stretch) : List Stretch :=
  match l.mergeSort (fun s t => s.1 ≤ t.1) with
  | [] => []
  | s :: rest => joinFrom s rest

def gaps (low : Nat) : List Stretch → List Stretch
  | [] => if low ≤ lastCodePoint then [(low, lastCodePoint)] else []
  | s :: rest => if low < s.1 then (low, s.1 - 1) :: gaps (s.2 + 1) rest else gaps (s.2 + 1) rest

def both (a b : List Stretch) : List Stretch := gaps 0 (arrange (gaps 0 a ++ gaps 0 b))

def ofRange (r : Range) : List Stretch :=
  if r.step = 1 then [(r.first, r.last)]
  else (List.range ((r.last - r.first) / r.step + 1)).map fun i =>
    (r.first + i * r.step, r.first + i * r.step)

abbrev Move := Stretch × Nat

def moves : List Move := shifts.flatMap fun s => (ofRange s.range).map fun t => (t, s.apply t.1)

def back (m : Move) : Move := ((m.2, m.2 + (m.1.2 - m.1.1)), m.1.1)

def image? (m : Move) (s : Stretch) : Option Stretch :=
  let low := max m.1.1 s.1
  let high := min m.1.2 s.2
  if low ≤ high then some (m.2 + (low - m.1.1), m.2 + (high - m.1.1)) else none

def images (moves : List Move) (l : List Stretch) : List Stretch :=
  l ++ moves.flatMap fun m => l.filterMap (image? m)

def ofSet : CharSet.Ready → List Stretch
  | .of ranges => arrange (ranges.flatMap ofRange)
  | .either a b => arrange (ofSet a ++ ofSet b)
  | .both a b => both (ofSet a) (ofSet b)
  | .outside a => gaps 0 (ofSet a)
  | .anyCase a => arrange (images (moves.map back) (images moves (ofSet a)))

abbrev Bytes := List (Nat × Nat)

def sequences : Nat → Nat → Nat → List Bytes
  | 0, low, high => [[(low, high)]]
  | n + 1, low, high =>
    let size := 64 ^ (n + 1)
    let a := low / size
    let b := high / size
    if a = b then (sequences n (low % size) (high % size)).map ((a, a) :: ·)
    else
      let atStart := low % size == 0
      let atEnd := high % size == size - 1
      let front := if atStart then [] else (sequences n (low % size) (size - 1)).map ((a, a) :: ·)
      let back := if atEnd then [] else (sequences n 0 (high % size)).map ((b, b) :: ·)
      let first := if atStart then a else a + 1
      let last := if atEnd then b else b - 1
      let middle := if first ≤ last then [(first, last) :: List.replicate (n + 1) (0, 63)] else []
      front ++ middle ++ back

def widths : List (Stretch × Nat) :=
  [((0, 0x7F), 0), ((0x80, 0x7FF), 1), ((0x800, 0xD7FF), 2), ((0xE000, 0xFFFF), 2),
    ((0x10000, lastCodePoint), 3)]

def encodings (l : List Stretch) : List Bytes :=
  l.flatMap fun s => widths.flatMap fun w =>
    let low := max s.1 w.1.1
    let high := min s.2 w.1.2
    if low ≤ high then sequences w.2 low high else []

def agreement : Bytes → Bytes → Nat
  | a :: rest, b :: more => if a = b then agreement rest more + 1 else 0
  | _, _ => 0

def beginnings (previous : Bytes) : List Bytes → Nat
  | [] => 0
  | bytes :: rest =>
    let shared := if bytes.length = previous.length then agreement bytes previous else 0
    bytes.length - shared + beginnings bytes rest

end Stretch
end HexDump.Unicode
