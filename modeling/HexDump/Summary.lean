import HexDump.Utf8

/-! The counts of one run, as 64-bit words, and their one line of text. -/
namespace HexDump

def decimal (n : Nat) : Text := Nat.toDigits 10 n

structure Summary where
  linesRead : UInt64
  recordsWritten : UInt64
  linesSkipped : UInt64
  deriving DecidableEq, Repr

namespace Summary

def empty : Summary := ⟨0, 0, 0⟩

def countLine (s : Summary) : Summary := { s with linesRead := s.linesRead + 1 }

def countRecord (s : Summary) : Summary := { s with recordsWritten := s.recordsWritten + 1 }

def countSkip (s : Summary) : Summary := { s with linesSkipped := s.linesSkipped + 1 }

def add (s t : Summary) : Summary :=
  ⟨s.linesRead + t.linesRead, s.recordsWritten + t.recordsWritten,
    s.linesSkipped + t.linesSkipped⟩

instance : Add Summary := ⟨add⟩

def text (s : Summary) : Text :=
  "Processed ".toList ++ decimal s.linesRead.toNat ++ " lines -> ".toList ++
    decimal s.recordsWritten.toNat ++ " records (".toList ++
    decimal s.linesSkipped.toNat ++ " skipped)".toList

end Summary
end HexDump
