import HexDump.Pieces
import HexDump.Fault

/-! A source is what is still to come from an input, one event per arrival: some
bytes, a fault, or no bytes at all, which reports an end of input. After the last
event the input has ended for good. Lines are collected across arrivals, and
nothing behind a line's end is touched before the next line is asked for. -/
namespace HexDump

inductive Event where
  | data (bytes : Bytes)
  | fault (cause : Fault)
  deriving DecidableEq, Repr

abbrev Source := List Event

namespace Source

def newline : UInt8 := 0x0A

def ofBytes (bytes : Bytes) : Source := [.data bytes]

def buffered (size : Nat) (bytes : Bytes) : Source := (Pieces.chunks (size - 1) bytes).map .data

inductive Reading where
  | line (bytes : Bytes) (rest : Source)
  | finished (rest : Source)
  | failed (cause : Fault) (lost : Bytes) (rest : Source)
  deriving DecidableEq, Repr

def settle (taken : Bytes) (rest : Source) : Reading :=
  if taken = [] then .finished rest else .line taken rest

def push (bytes : Bytes) (rest : Source) : Source :=
  if bytes = [] then rest else .data bytes :: rest

def collect (taken : Bytes) : Source → Reading
  | [] => settle taken []
  | .fault cause :: rest =>
    if cause.isInterruption then collect taken rest else .failed cause taken rest
  | .data [] :: rest => settle taken rest
  | .data (b :: bs) :: rest =>
    match (b :: bs).dropWhile (· ≠ newline) with
    | [] => collect (taken ++ b :: bs) rest
    | stop :: after =>
      .line (taken ++ (b :: bs).takeWhile (· ≠ newline) ++ [stop]) (push after rest)

def nextLine (s : Source) : Reading := collect [] s

def weight : Source → Nat
  | [] => 0
  | .fault _ :: rest => 1 + weight rest
  | .data bytes :: rest => 1 + bytes.length + weight rest

theorem pushWeight (bytes : Bytes) (rest : Source) :
    weight (push bytes rest) ≤ 1 + bytes.length + weight rest := by
  unfold push
  split
  · omega
  · simp [weight]

theorem collectWeight {taken : Bytes} {s : Source} {bytes : Bytes} {rest : Source}
    (h : collect taken s = .line bytes rest) :
    weight rest + (if taken = [] then 1 else 0) ≤ weight s := by
  fun_induction collect taken s with
  | case1 taken =>
    unfold settle at h
    split at h <;> simp_all [weight]
  | case2 taken cause rest' interruption ih =>
    have := ih h
    simp only [weight]
    omega
  | case3 => contradiction
  | case4 taken rest' =>
    unfold settle at h
    split at h
    · contradiction
    · cases h
      simp_all [weight]
  | case5 taken b bs rest' none ih =>
    have := ih h
    simp only [weight]
    split <;> omega
  | case6 taken b bs rest' stop after cut =>
    cases h
    have shorter := (List.dropWhile_suffix (p := (· ≠ newline)) (l := b :: bs)).length_le
    rw [cut] at shorter
    have := pushWeight after rest'
    simp only [weight, List.length_cons] at *
    split <;> omega

theorem lineDecreases {s : Source} {bytes : Bytes} {rest : Source}
    (h : nextLine s = .line bytes rest) : weight rest < weight s := by
  have := collectWeight h
  simp only [if_true] at this
  omega

end Source
end HexDump
