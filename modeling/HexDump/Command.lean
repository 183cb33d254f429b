import HexDump.Arguments
import HexDump.Run
import HexDump.Log.Filter
import HexDump.Quoted

/-! The whole program as a function: from its arguments, the files, the log setting
and the standard output it gets, to its exit code and what it writes. The echo of
the arguments comes first and must be out before anything else is looked at; only
a run that reads its file to the end leaves records behind it. -/
namespace HexDump.Command

structure Exit where
  code : Nat
  stdout : Bytes
  stderr : Text
  deriving DecidableEq, Repr

def echo (arguments : List Bytes) : Text :=
  Quoted.list Quoted.unshown (arguments.map Utf8.decode)

def logTarget : Text := "format_scans".toList

def summaryEntry (summary : Summary) : Log.Entry := ⟨.info, logTarget, summary.text⟩

def errorLine (error : FormatError) : Text := "Error: ".toList ++ error.message ++ ['\n']

/-- What a mistake is told by. Advice on the declared usage that may follow it is left out. -/
def mistakeLine (mistake : Arguments.Mistake) : Text :=
  "error: ".toList ++ mistake.message ++ ['\n']

def logSetting (verbose : Bool) (environment : Option Text) : Log.Setting :=
  let base := Log.Filter.ofLevel (if verbose then .debug else .warn)
  match environment with
  | none => ⟨base, []⟩
  | some text => .ofText base text

def logLines (filter : Log.Filter) (entries : List Log.Entry) : Text :=
  (entries.filter filter.admits).flatMap (fun e => e.text ++ ['\n'])

def warningLines (setting : Log.Setting) : Text := setting.warnings.flatMap (· ++ ['\n'])

def options (strict : Bool) : Options := if strict then .strict else .default

def perform (request : Request) (opener : Opener) (environment : Option Text)
    (written : Bytes) (sink : Sink) : Exit :=
  let setting := logSetting request.verbose environment
  let report := (options request.strict).formatFile opener request.path sink
  let stdout := written ++ report.output
  match report.outcome with
  | .ok summary =>
    ⟨0, stdout, warningLines setting ++
      logLines setting.filter (report.log ++ [summaryEntry summary])⟩
  | .error error =>
    ⟨1, stdout, warningLines setting ++ logLines setting.filter report.log ++ errorLine error⟩

def deliverAll (sink : Sink) (segments : List Bytes) : Sink.Delivery :=
  let delivery := sink.deliver segments
  match delivery.fault with
  | some _ => delivery
  | none => { delivery with fault := delivery.sink.flushFault }

def run (arguments : List Bytes) (opener : Opener) (environment : Option Text) (sink : Sink) :
    Exit :=
  let line := [Utf8.encode (echo arguments), Utf8.encode ['\n']]
  let delivery := deliverAll sink line
  let written := delivery.accepted line.flatten
  match delivery.fault with
  | some cause => ⟨1, written, errorLine (.write cause)⟩
  | none =>
    match Arguments.parse arguments with
    | .mistake mistake => ⟨2, written, mistakeLine mistake⟩
    | .help long =>
      let page := [Utf8.encode (if long then Arguments.longHelp else Arguments.shortHelp)]
      ⟨0, written ++ (delivery.sink.deliver page).accepted page.flatten, []⟩
    | .request request => perform request opener environment written delivery.sink

end HexDump.Command
