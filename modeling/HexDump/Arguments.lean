import HexDump.Terminal

/-! The command line: one path, each flag at most once, and requests for help.
Arguments are read from the left and the first mistake decides, except that an
empty path is noticed late: with the next flag, or at the end. -/
namespace HexDump

structure Request where
  path : Bytes
  strict : Bool
  verbose : Bool
  deriving DecidableEq, Repr

namespace Arguments

inductive Flag where
  | strict
  | verbose
  | help
  deriving DecidableEq, Repr

def Flag.text : Flag → Text
  | .strict => "--strict".toList
  | .verbose => "--verbose".toList
  | .help => "--help".toList

def Flag.ofLong? (name : Bytes) : Option Flag :=
  [Flag.strict, .verbose, .help].find? (fun f => Utf8.encode (f.text.drop 2) = name)

def Flag.ofShort? (c : Char) : Option Flag :=
  if c = 'v' then some .verbose else if c = 'h' then some .help else none

inductive Mistake where
  | unexpectedArgument (shown : Text)
  | unexpectedValue (value : Text) (flag : Flag)
  | repeatedFlag (flag : Flag)
  | emptyPath
  | missingPath
  deriving DecidableEq, Repr

def Mistake.message : Mistake → Text
  | .unexpectedArgument shown =>
    "unexpected argument '".toList ++ Terminal.strip shown ++ "' found".toList
  | .unexpectedValue value flag =>
    "unexpected value '".toList ++ Terminal.strip value ++ "' for '".toList ++ flag.text ++
      "' found; no more were expected".toList
  | .repeatedFlag flag =>
    "the argument '".toList ++ flag.text ++ "' cannot be used multiple times".toList
  | .emptyPath => "a value is required for '<PATH>' but none was supplied".toList
  | .missingPath =>
    "the following required arguments were not provided:\n  <PATH>".toList

inductive Decision where
  | request (request : Request)
  | help (long : Bool)
  | mistake (mistake : Mistake)
  deriving DecidableEq, Repr

structure Seen where
  path : Option Bytes
  strict : Bool
  verbose : Bool
  deriving DecidableEq, Repr

namespace Seen

def nothing : Seen := ⟨none, false, false⟩

def accept (seen : Seen) (flag : Flag) (long : Bool) : Except Decision Seen :=
  if seen.path = some [] then .error (.mistake .emptyPath)
  else match flag with
    | .help => .error (.help long)
    | .strict =>
      if seen.strict then .error (.mistake (.repeatedFlag flag))
      else .ok { seen with strict := true }
    | .verbose =>
      if seen.verbose then .error (.mistake (.repeatedFlag flag))
      else .ok { seen with verbose := true }

def positional (seen : Seen) (argument : Bytes) : Except Decision Seen :=
  match seen.path with
  | none => .ok { seen with path := some argument }
  | some _ => .error (.mistake (.unexpectedArgument (Utf8.decode argument)))

def conclude (seen : Seen) : Decision :=
  match seen.path with
  | none => .mistake .missingPath
  | some [] => .mistake .emptyPath
  | some path => .request ⟨path, seen.strict, seen.verbose⟩

end Seen

def dash : UInt8 := 0x2D

def equals : UInt8 := 0x3D

def long (seen : Seen) (rest : Bytes) : Except Decision Seen :=
  let name := rest.takeWhile (· ≠ equals)
  match Flag.ofLong? name, rest.dropWhile (· ≠ equals) with
  | none, _ =>
    .error (.mistake (.unexpectedArgument ([ '-', '-'] ++ Utf8.decode name)))
  | some flag, [] => seen.accept flag true
  | some flag, _ :: value => .error (.mistake (.unexpectedValue (Utf8.decode value) flag))

def character? (bytes : Bytes) : Option (Char × Bytes) :=
  match Utf8.decode bytes with
  | [] => none
  | c :: _ =>
    let encoded := String.utf8EncodeChar c
    if encoded.isPrefixOf bytes then some (c, bytes.drop encoded.length) else none

theorem characterDecreases {bytes rest : Bytes} {c : Char} (h : character? bytes = some (c, rest)) :
    rest.length < bytes.length := by
  unfold character? at h
  split at h
  · contradiction
  · rename_i first tail decoded
    simp only at h
    split at h
    · rename_i isBeginning
      cases h
      have longer := (List.isPrefixOf_iff_prefix.mp isBeginning).length_le
      have positive : 0 < (String.utf8EncodeChar c).length := by simp [Char.utf8Size_pos]
      simp only [List.length_drop]
      omega
    · contradiction

def short (seen : Seen) (rest : Bytes) : Except Decision Seen :=
  if rest = [] then .ok seen
  else match _first : character? rest with
    | none => .error (.mistake (.unexpectedArgument ('-' :: Utf8.decode rest)))
    | some (c, rest) =>
      match Flag.ofShort? c with
      | none => .error (.mistake (.unexpectedArgument ['-', c]))
      | some flag =>
        match seen.accept flag false with
        | .error decision => .error decision
        | .ok seen => short seen rest
termination_by rest.length
decreasing_by exact characterDecreases _first

def argument (seen : Seen) (bytes : Bytes) : Except Decision Seen :=
  match bytes with
  | a :: b :: rest =>
    if a = dash then
      if b = dash then long seen rest else short seen (b :: rest)
    else seen.positional bytes
  | _ => seen.positional bytes

def positionals (seen : Seen) : List Bytes → Decision
  | [] => seen.conclude
  | bytes :: rest =>
    match seen.positional bytes with
    | .error decision => decision
    | .ok seen => positionals seen rest

def parseFrom (seen : Seen) : List Bytes → Decision
  | [] => seen.conclude
  | bytes :: rest =>
    if bytes = [dash, dash] then positionals seen rest
    else match argument seen bytes with
      | .error decision => decision
      | .ok seen => parseFrom seen rest

def parse (arguments : List Bytes) : Decision := parseFrom .nothing arguments

def usage : Text := "Usage: format-scans [OPTIONS] <PATH>\n".toList

def shortHelp : Text :=
  "Format hex dump lines as C-style byte array initializers\n\n".toList ++ usage ++
  "\nArguments:\n".toList ++
  "  <PATH>  Input file with one row of hex bytes per line\n".toList ++
  "\nOptions:\n".toList ++
  "      --strict   Drop empty tokens and skip lines left without any\n".toList ++
  "  -v, --verbose  Log progress and record counts on stderr\n".toList ++
  "  -h, --help     Print help (see more with '--help')\n".toList

def longHelp : Text :=
  "Format hex dump lines as C-style byte array initializers.\n\n".toList ++
  "Lines containing ':' are skipped. Every other line is split on single spaces and each ".toList ++
  "token is prefixed with 0x.\n\n".toList ++ usage ++
  "\nArguments:\n".toList ++
  "  <PATH>\n          Input file with one row of hex bytes per line\n".toList ++
  "\nOptions:\n".toList ++
  "      --strict\n          Drop empty tokens and skip lines left without any\n\n".toList ++
  "  -v, --verbose\n          Log progress and record counts on stderr\n\n".toList ++
  "  -h, --help\n          Print help (see a summary with '-h')\n".toList

end Arguments
end HexDump
