import HexDump.Pieces
import HexDump.Utf8

/-! How a line of a dump becomes a record, one row of an array initializer. A line
with a colon is an annotation and becomes none. Padding is seven characters and no
other white space, and tokens are cut at the space alone, so what a token contains is
never judged. Preserving keeps empty tokens, so that a blank line is one bare marker;
strict reading drops them and skips what is left empty. -/
namespace HexDump

namespace Line

def isAnnotated (line : Text) : Bool := line.contains ':'

def isPadding (c : Char) : Bool :=
  c = ' ' || c = '\t' || c = '\n' || c = '\x0B' || c = '\x0C' || c = '\r' || c = '\x00'

def strip (line : Text) : Text := Pieces.trim isPadding line

def tokens (line : Text) : List Text := Pieces.split ' ' line

theorem annotatedIff (line : Text) : isAnnotated line = true ↔ ':' ∈ line := by
  simp [isAnnotated]

theorem unannotatedIff (line : Text) : isAnnotated line = false ↔ ':' ∉ line := by
  rw [← annotatedIff, Bool.not_eq_true]

theorem tokensJoin (line : Text) : [' '].intercalate (tokens line) = line :=
  Pieces.splitJoin ' ' line

end Line

structure Record where
  entries : List Text
  deriving DecidableEq, Repr

namespace Record

def ofTokens (marker : Text) (tokens : List Text) : Record := ⟨tokens.map (marker ++ ·)⟩

def size (r : Record) : Nat := r.entries.length

def isEmpty (r : Record) : Bool := r.entries.isEmpty

def opening : Text := ['{', ' ']

def closing : Text := [' ', '}', ';']

def comma : Text := [',', ' ']

def body (r : Record) : Text := comma.intercalate r.entries

def text (r : Record) : Text := opening ++ r.body ++ closing

def segments (r : Record) : List Bytes :=
  [Utf8.encode opening, Utf8.encode r.body, Utf8.encode closing, Utf8.encode ['\n']]

theorem sizeOfTokens (marker : Text) (tokens : List Text) :
    (ofTokens marker tokens).size = tokens.length := by
  simp [ofTokens, size]

theorem segmentsFlatten (r : Record) :
    r.segments.flatten = Utf8.encode (r.text ++ ['\n']) := by
  simp [segments, text]

end Record

inductive Strictness where
  | preserve
  | strict
  deriving DecidableEq, Repr

structure Options where
  strictness : Strictness
  marker : Text
  deriving DecidableEq, Repr

namespace Options

def default : Options := ⟨.preserve, ['0', 'x']⟩

def strict : Options := ⟨.strict, ['0', 'x']⟩

def kept (options : Options) (tokens : List Text) : List Text :=
  match options.strictness with
  | .preserve => tokens
  | .strict => tokens.filter (fun token => !token.isEmpty)

def formatLine (options : Options) (line : Text) : Option Record :=
  if Line.isAnnotated line then none
  else
    let record := Record.ofTokens options.marker (options.kept (Line.tokens (Line.strip line)))
    if record.isEmpty then none else some record

theorem annotatedSkipped (options : Options) {line : Text} (h : Line.isAnnotated line = true) :
    options.formatLine line = none := by
  simp [formatLine, h]

theorem preserveKeeps (marker : Text) {line : Text} (h : Line.isAnnotated line = false) :
    formatLine ⟨.preserve, marker⟩ line =
      some (Record.ofTokens marker (Line.tokens (Line.strip line))) := by
  have nonempty := Pieces.splitNonempty ' ' (Line.strip line)
  simp [formatLine, h, kept, Record.isEmpty, Record.ofTokens, Line.tokens, nonempty]

end Options
end HexDump
