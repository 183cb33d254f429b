import HexDump.Command

/-! The program itself: it hands its arguments, its environment and the file to
`Command.run` and writes out what that returns. -/
namespace HexDump

def systemCode (error : IO.Error) : Nat :=
  let code : UInt32 := match error with
    | .noFileOrDirectory _ code _ => code
    | .permissionDenied _ code _ => code
    | .inappropriateType _ code _ => code
    | .resourceExhausted _ code _ => code
    | .invalidArgument _ code _ => code
    | .resourceVanished code _ => code
    | .hardwareFault code _ => code
    | .otherError code _ => code
    | _ => 0
  if code < 0x80000000 then code.toNat else (0 - code).toNat

def refusalOf (error : IO.Error) : Refusal :=
  let code := systemCode error
  if code = 21 then ⟨.described .other "is a directory".toList, rfl⟩
  else match SystemError.ofCode? code with
    | some known => .system known
    | none => ⟨.described .other (toString error).toList, rfl⟩

def openRequested (arguments : List Bytes) : IO Opener := do
  match Arguments.parse arguments with
  | .request request =>
    match Utf8.decode? request.path with
    | none => return fun _ => .error (.system .noSuchEntry)
    | some [] => return fun _ => .error (.system .noSuchEntry)
    | some path =>
      try
        let content ← IO.FS.readBinFile (String.ofList path)
        return fun _ => .ok content.toList
      catch error => return fun _ => .error (refusalOf error).cause
  | _ => return fun _ => .error (.system .noSuchEntry)

def write (bytes : Bytes) : IO Unit := do
  let output ← IO.getStdout
  output.write ⟨bytes.toArray⟩
  output.flush

end HexDump

open HexDump in
def main (arguments : List String) : IO UInt32 := do
  let arguments := arguments.map (fun a => Utf8.encode a.toList)
  let environment := (← IO.getEnv "RUST_LOG").map String.toList
  let opener ← openRequested arguments
  let exit := Command.run arguments opener environment .unlimited
  let exit ← try
      write exit.stdout
      pure exit
    catch error => pure (Command.run arguments opener environment (.closed (refusalOf error)))
  IO.eprint (String.ofList exit.stderr)
  return UInt32.ofNat exit.code
