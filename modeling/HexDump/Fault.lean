import HexDump.Summary

/-! What can go wrong outside the program: a fill, a write, a flush or an opening
that fails. A fault carries only its kind, a message of its own, or the answer of
the operating system; its text and its kind follow from that. A run that ends early
says in which of three ways; a path is any bytes, and its text is their decoding. -/
namespace HexDump

inductive FaultKind where
  | notFound
  | permissionDenied
  | brokenPipe
  | interrupted
  | invalidData
  | invalidInput
  | timedOut
  | unexpectedEnd
  | writeZero
  | storageFull
  | notDirectory
  | invalidName
  | inputOutput
  | other
  deriving DecidableEq, Repr

def FaultKind.text : FaultKind → Text
  | .notFound => "entity not found".toList
  | .permissionDenied => "permission denied".toList
  | .brokenPipe => "broken pipe".toList
  | .interrupted => "operation interrupted".toList
  | .invalidData => "invalid data".toList
  | .invalidInput => "invalid input parameter".toList
  | .timedOut => "timed out".toList
  | .unexpectedEnd => "unexpected end of file".toList
  | .writeZero => "write zero".toList
  | .storageFull => "no storage space".toList
  | .notDirectory => "not a directory".toList
  | .invalidName => "invalid filename".toList
  | .inputOutput => "input/output error".toList
  | .other => "other error".toList

inductive SystemError where
  | noSuchEntry
  | inputOutput
  | permissionDenied
  | notDirectory
  | noSpace
  | brokenPipe
  | nameTooLong
  deriving DecidableEq, Repr

namespace SystemError

def code : SystemError → Nat
  | .noSuchEntry => 2
  | .inputOutput => 5
  | .permissionDenied => 13
  | .notDirectory => 20
  | .noSpace => 28
  | .brokenPipe => 32
  | .nameTooLong => 36

def all : List SystemError :=
  [.noSuchEntry, .inputOutput, .permissionDenied, .notDirectory, .noSpace, .brokenPipe,
    .nameTooLong]

def ofCode? (n : Nat) : Option SystemError := all.find? (fun e => e.code = n)

def kind : SystemError → FaultKind
  | .noSuchEntry => .notFound
  | .inputOutput => .inputOutput
  | .permissionDenied => .permissionDenied
  | .notDirectory => .notDirectory
  | .noSpace => .storageFull
  | .brokenPipe => .brokenPipe
  | .nameTooLong => .invalidName

def description : SystemError → Text
  | .noSuchEntry => "No such file or directory".toList
  | .inputOutput => "Input/output error".toList
  | .permissionDenied => "Permission denied".toList
  | .notDirectory => "Not a directory".toList
  | .noSpace => "No space left on device".toList
  | .brokenPipe => "Broken pipe".toList
  | .nameTooLong => "File name too long".toList

def text (e : SystemError) : Text :=
  e.description ++ " (os error ".toList ++ decimal e.code ++ [')']

end SystemError

inductive Fault where
  | plain (kind : FaultKind)
  | described (kind : FaultKind) (message : Text)
  | system (error : SystemError)
  deriving DecidableEq, Repr

namespace Fault

def kind : Fault → FaultKind
  | .plain kind => kind
  | .described kind _ => kind
  | .system error => error.kind

def text : Fault → Text
  | .plain kind => kind.text
  | .described _ message => message
  | .system error => error.text

def isInterruption (f : Fault) : Bool := f.kind = .interrupted

def writeZero : Fault := .described .writeZero "failed to write whole buffer".toList

end Fault

theorem SystemError.notInterruption (e : SystemError) : (Fault.system e).isInterruption = false := by
  cases e <;> decide

inductive FormatError where
  | access (path : Bytes) (cause : Fault)
  | read (path : Bytes) (cause : Fault)
  | write (cause : Fault)
  deriving DecidableEq, Repr

namespace FormatError

def cause : FormatError → Fault
  | .access _ cause => cause
  | .read _ cause => cause
  | .write cause => cause

def message : FormatError → Text
  | .access path cause =>
    "cannot open '".toList ++ Utf8.decode path ++ "': ".toList ++ cause.text
  | .read path cause =>
    "error reading '".toList ++ Utf8.decode path ++ "': ".toList ++ cause.text
  | .write cause => "error writing output: ".toList ++ cause.text

end FormatError
end HexDump
