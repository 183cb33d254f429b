import HexDump.Fault
import HexDump.Log
import HexDump.Options
import HexDump.Sink
import HexDump.Source

/-! A run reads, formats and delivers one line before it asks for the next. All
that crosses a line's end is in `Progress`. A run flushes once, when the input has
ended; a read or write error stops it before that, with everything already
delivered left in place. Over a file, opening comes first: a path that does not open
ends the run with nothing read and nothing written, and the sink untouched. -/
namespace HexDump

abbrev Opener := Bytes → Except Fault Bytes

structure Report where
  outcome : Except FormatError Summary
  output : Bytes
  consumed : Nat
  flushes : Nat
  source : Source
  sink : Sink
  log : List Log.Entry

structure Progress where
  source : Source
  sink : Sink
  summary : Summary
  output : Array UInt8
  consumed : Nat
  log : Array Log.Entry

namespace Progress

def start (source : Source) (sink : Sink) (log : Array Log.Entry) : Progress :=
  ⟨source, sink, .empty, #[], 0, log⟩

def report (p : Progress) (outcome : Except FormatError Summary) (flushes : Nat) : Report :=
  ⟨outcome, p.output.toList, p.consumed, flushes, p.source, p.sink, p.log.toList⟩

def consume (p : Progress) (taken : Bytes) (rest : Source) : Progress :=
  { p with source := rest, consumed := p.consumed + taken.length }

def logTarget : Text := "scan_format::formatter".toList

def skippedEntry (line : UInt64) : Log.Entry :=
  ⟨.trace, logTarget, "Skipping line ".toList ++ decimal line.toNat⟩

inductive Step where
  | next (p : Progress)
  | stop (r : Report)

def finish (p : Progress) : Report :=
  match p.sink.flushFault with
  | none => p.report (.ok p.summary) 1
  | some cause => p.report (.error (.write cause)) 1

def skip (p : Progress) : Progress :=
  { p with
    summary := p.summary.countSkip
    log := p.log.push (skippedEntry p.summary.linesRead) }

def emit (p : Progress) (record : Record) : Step :=
  let delivery := p.sink.deliver record.segments
  let p := { p with
    sink := delivery.sink
    output := p.output ++ delivery.accepted record.segments.flatten }
  match delivery.fault with
  | none => .next { p with summary := p.summary.countRecord }
  | some cause => .stop (p.report (.error (.write cause)) 0)

def format (options : Options) (line : Bytes) (p : Progress) : Step :=
  let p := { p with summary := p.summary.countLine }
  match options.formatLine (Utf8.decode line) with
  | none => .next p.skip
  | some record => p.emit record

def advance (options : Options) (origin : Bytes) (p : Progress) : Step :=
  match p.source.nextLine with
  | .finished rest => .stop (p.consume [] rest).finish
  | .failed cause lost rest => .stop ((p.consume lost rest).report (.error (.read origin cause)) 0)
  | .line bytes rest => (p.consume bytes rest).format options bytes

theorem emitSource {p q : Progress} {record : Record} (h : p.emit record = .next q) :
    q.source = p.source := by
  simp only [emit] at h
  split at h
  · cases h
    rfl
  · contradiction

theorem formatSource {options : Options} {line : Bytes} {p q : Progress}
    (h : p.format options line = .next q) : q.source = p.source := by
  simp only [format] at h
  split at h
  · cases h
    rfl
  · have same := emitSource h
    exact same

theorem advanceDecreases {options : Options} {origin : Bytes} {p q : Progress}
    (h : p.advance options origin = .next q) : q.source.weight < p.source.weight := by
  unfold advance at h
  split at h
  · contradiction
  · contradiction
  · rename_i line
    rw [formatSource h]
    exact Source.lineDecreases line

def run (options : Options) (origin : Bytes) (p : Progress) : Report :=
  match _step : p.advance options origin with
  | .next q => run options origin q
  | .stop r => r
termination_by p.source.weight
decreasing_by exact advanceDecreases _step

end Progress

namespace Options

def anonymous : Bytes := Utf8.encode "<input>".toList

def formatStream (options : Options) (source : Source) (sink : Sink) : Report :=
  (Progress.start source sink #[]).run options anonymous

def formatStreams (options : Options) : Nat → Source → Sink → List Report
  | 0, _, _ => []
  | runs + 1, source, sink =>
    let report := options.formatStream source sink
    report :: formatStreams options runs report.source report.sink

def formatText (options : Options) (text : Text) : Except FormatError (Text × Summary) :=
  let report := options.formatStream (.ofBytes (Utf8.encode text)) .unlimited
  report.outcome.map (fun summary => (Utf8.decode report.output, summary))

def readingEntry (path : Bytes) : Log.Entry :=
  ⟨.debug, Progress.logTarget, "Reading ".toList ++ Utf8.decode path⟩

def bufferSize : Nat := 8192

def formatFile (options : Options) (opener : Opener) (path : Bytes) (sink : Sink) : Report :=
  match opener path with
  | .error cause => ⟨.error (.access path cause), [], 0, 0, [], sink, []⟩
  | .ok content =>
    (Progress.start (.buffered bufferSize content) sink #[readingEntry path]).run options path

end Options
end HexDump
