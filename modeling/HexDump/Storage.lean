import HexDump.Pieces
import HexDump.Fault

/-! A tree of directories and files, and what opening a path in it gives. A path
is bytes; its names are looked up from the left, so the first name that cannot be
followed decides the fault. -/
namespace HexDump

inductive Storage.Entry where
  | directory
  | file (content : Bytes)
  deriving DecidableEq, Repr

structure Storage where
  entries : List (List Bytes × Storage.Entry)
  working : List Bytes
  deriving DecidableEq, Repr

namespace Storage

def slash : UInt8 := 0x2F

def here : Bytes := [0x2E]

def parent : Bytes := [0x2E, 0x2E]

def longestName : Nat := 255

def longestPath : Nat := 4095

def names (path : Bytes) : List Bytes := Pieces.split slash path

def lookup (s : Storage) (place : List Bytes) : Option Entry :=
  if place = [] then some .directory
  else (s.entries.find? (fun e => e.1 = place)).map Prod.snd

/-- Follows the names from a place whose entry is known. Only a directory leads
on; an empty name and a single dot stay, and above the root is the root. -/
def walk (s : Storage) (place : List Bytes) (entry : Entry) :
    List Bytes → Except SystemError Entry
  | [] => .ok entry
  | name :: rest =>
    match entry with
    | .file _ => .error .notDirectory
    | .directory =>
      if name = [] ∨ name = here then walk s place .directory rest
      else if name = parent then walk s place.dropLast .directory rest
      else if longestName < name.length then .error .nameTooLong
      else match s.lookup (place ++ [name]) with
        | none => .error .noSuchEntry
        | some next => walk s (place ++ [name]) next rest

def find (s : Storage) (path : Bytes) : Except SystemError Entry :=
  if path = [] then .error .noSuchEntry
  else if longestPath < path.length then .error .nameTooLong
  else if path.head? = some slash then s.walk [] .directory (names path)
  else s.walk s.working .directory (names path)

def read (s : Storage) (path : Bytes) : Except Fault Bytes :=
  if path.contains 0 then
    .error (.described .invalidInput "file name contained an unexpected NUL byte".toList)
  else match s.find path with
    | .error cause => .error (.system cause)
    | .ok .directory => .error (.described .other "is a directory".toList)
    | .ok (.file content) => .ok content

end Storage
end HexDump
