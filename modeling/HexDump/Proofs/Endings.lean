import HexDump.Proofs.Signals
import HexDump.Proofs.Truncation
import Mathlib.Logic.ExistsUnique

/-! How a run ends. There are four ways, and what a run shows tells which of them it
was: all was read, written and flushed; a fill failed; a write failed; or the flush
did. Each names the side its fault came from, and no interruption is among the faults
of fills and writes. -/
namespace HexDump

inductive Ending where
  | completed
  | unread
  | unwritten
  | unflushed
  deriving DecidableEq, Repr

def Report.ending (r : Report) : Option Ending :=
  match r.outcome, r.flushes with
  | .ok _, _ => some .completed
  | .error (.read _ _), _ => some .unread
  | .error (.write _), 0 => some .unwritten
  | .error (.write _), _ + 1 => some .unflushed
  | .error (.access _ _), _ => none

namespace Options

open Signal (Calm)

structure Finished (options : Options) (source : Source) (r : Report) (lines : List Bytes) :
    Prop where
  met : ∃ met, source.signals = met ++ r.source.signals ∧ Calm met ∧
    Signal.content met = lines.flatten
  ended : ∃ rest, source.Yields lines rest ∧ rest.ReportsEnd r.source
  output : r.output = options.listing lines
  consumed : r.consumed = lines.flatten.length
  flushes : r.flushes = 1

structure Unread (options : Options) (source : Source) (r : Report) (lines : List Bytes)
    (lost : Bytes) (cause : Fault) : Prop where
  met : ∃ met, source.signals = met ++ .fault cause :: r.source.signals ∧ Calm met ∧
    Signal.content met = lines.flatten ++ lost
  hard : cause.isInterruption = false
  collected : ∃ rest, source.Yields lines rest
  output : r.output = options.listing lines
  consumed : r.consumed = (lines.flatten ++ lost).length
  flushes : r.flushes = 0
  outcome : r.outcome = .error (.read (Utf8.encode "<input>".toList) cause)

structure Unwritten (options : Options) (source : Source) (sink : Sink) (r : Report)
    (before : List Bytes) (line : Bytes) : Prop where
  met : ∃ met, source.signals = met ++ r.source.signals ∧ Calm met ∧
    Signal.content met = (before ++ [line]).flatten
  collected : source.Yields (before ++ [line]) r.source
  limit : sink.room = some r.output.length
  full : r.sink.room = some 0
  kept : options.listing before <+: r.output
  torn : r.output <+: options.listing (before ++ [line])
  short : r.output ≠ options.listing (before ++ [line])
  flushes : r.flushes = 0
  outcome : r.outcome = .error (.write sink.refusalFault)

def EndsBy (options : Options) (source : Source) (sink : Sink) (r : Report) : Ending → Prop
  | .completed => ∃ lines, options.Finished source r lines ∧ sink.flushFault = none ∧
      r.outcome = .ok (options.counts lines)
  | .unread => ∃ lines lost cause, options.Unread source r lines lost cause
  | .unwritten => ∃ before line, options.Unwritten source sink r before line
  | .unflushed => ∃ lines cause, options.Finished source r lines ∧
      sink.flushFault = some cause ∧ r.outcome = .error (.write cause)

variable (options : Options)

theorem runFaulted {source rest last : Source} {lines : List Bytes} {cause : Fault} {lost : Bytes}
    (yields : source.Yields lines rest) (reading : rest.nextLine = .failed cause lost last)
    {sink : Sink} (usable : sink.Usable) (fits : sink.Fits (options.listing lines).length) :
    options.formatStream source sink =
      ⟨.error (.read anonymous cause), options.listing lines, (lines.flatten ++ lost).length, 0,
        last, sink.offered (options.listing lines).length, options.skips 0 lines⟩ := by
  have passed := Progress.runPast options anonymous (.start source sink #[]) yields usable fits
  unfold formatStream
  rw [passed, Progress.runFailed options anonymous _ reading]
  simp [Progress.consume, Progress.report, Progress.past, Progress.start]

variable {options : Options} {source : Source} {sink : Sink} {r : Report}

theorem endsByFinished {lines : List Bytes} (finished : options.Finished source r lines)
    (outcome : r.outcome = sink.flush (options.counts lines)) :
    ∃ ending, options.EndsBy source sink r ending := by
  unfold Sink.flush at outcome
  cases flush : sink.flushFault with
  | none => exact ⟨.completed, lines, finished, flush, by rw [outcome, flush]⟩
  | some cause => exact ⟨.unflushed, lines, cause, finished, flush, by rw [outcome, flush]⟩

theorem streamEndsBy (options : Options) (source : Source) {sink : Sink} (usable : sink.Usable) :
    ∃ ending, options.EndsBy source sink (options.formatStream source sink) ending := by
  obtain ⟨lines, rest, yields, ended⟩ := source.yieldsAll
  obtain ⟨met, front, calm, content⟩ := Source.yieldsMet yields
  by_cases fits : sink.Fits (options.listing lines).length
  · have told := rest.nextLineTold
    cases reading : rest.nextLine with
    | line line last => exact absurd reading (ended line last)
    | finished last =>
      rw [reading] at told
      obtain ⟨more, behind, quiet, silent⟩ := Source.reportsMet told.2
      have report := options.runWhole yields reading usable fits
      have finished : options.Finished source (options.formatStream source sink) lines := by
        rw [report]
        refine ⟨⟨met ++ more, ?_, (Signal.calmAppend met more).mpr ⟨calm, quiet⟩, ?_⟩,
          ⟨rest, yields, told.2⟩, rfl, rfl, rfl⟩
        · rw [front, behind, List.append_assoc]
        · rw [Signal.contentAppend, content, silent, List.append_nil]
      exact endsByFinished finished (congrArg Report.outcome report)
    | failed cause lost last =>
      rw [reading] at told
      obtain ⟨hard, more, behind, quiet, taken⟩ := told
      refine ⟨.unread, lines, lost, cause, ?_⟩
      rw [options.runFaulted yields reading usable fits]
      refine ⟨⟨met ++ more, ?_, (Signal.calmAppend met more).mpr ⟨calm, quiet⟩, ?_⟩, hard,
        ⟨rest, yields⟩, rfl, rfl, rfl, rfl⟩
      · rw [front, behind, List.append_assoc]
      · rw [Signal.contentAppend, content, taken, List.nil_append]
  · obtain ⟨room, limit, exceeds⟩ := Sink.overflowLimit fits
    obtain ⟨before, line, mid, ahead, -, inside, passes⟩ := options.cutPlace yields exceeds
    obtain ⟨kept, length⟩ := options.cutShare inside passes
    refine ⟨.unwritten, before, line, ?_⟩
    rw [options.runCut ahead usable limit inside passes]
    refine ⟨Source.yieldsMet ahead, ahead, limit.trans (congrArg some length.symm), ?_, kept,
      List.take_prefix _ _, ?_, rfl, rfl⟩
    · have spent : room - (options.listing (before ++ [line])).length = 0 := by omega
      rw [Sink.offeredRoom, limit, Option.map_some, spent]
    · intro same
      have whole := (congrArg List.length same).symm.trans length
      omega

theorem endingShown {ending : Ending} (ends : options.EndsBy source sink r ending) :
    r.ending = some ending := by
  unfold Report.ending
  cases ending with
  | completed =>
    obtain ⟨lines, _, _, outcome⟩ := ends
    rw [outcome]
  | unread =>
    obtain ⟨lines, lost, cause, unread⟩ := ends
    rw [unread.outcome]
  | unwritten =>
    obtain ⟨before, line, unwritten⟩ := ends
    rw [unwritten.outcome, unwritten.flushes]
  | unflushed =>
    obtain ⟨lines, cause, finished, _, outcome⟩ := ends
    rw [outcome, finished.flushes]

theorem endsUnread {ending : Ending} (ends : options.EndsBy source sink r ending) {path : Bytes}
    {cause : Fault} (outcome : r.outcome = .error (.read path cause)) :
    ∃ lines lost, options.Unread source r lines lost cause ∧
      path = Utf8.encode "<input>".toList := by
  have shown := endingShown ends
  rw [Report.ending, outcome] at shown
  cases Option.some.inj shown
  obtain ⟨lines, lost, other, unread⟩ := ends
  cases outcome.symm.trans unread.outcome
  exact ⟨lines, lost, unread, rfl⟩

theorem endsUnwritten {ending : Ending} (ends : options.EndsBy source sink r ending)
    {cause : Fault} (outcome : r.outcome = .error (.write cause)) (flushes : r.flushes = 0) :
    cause = sink.refusalFault := by
  have shown := endingShown ends
  rw [Report.ending, outcome, flushes] at shown
  cases Option.some.inj shown
  obtain ⟨before, line, unwritten⟩ := ends
  cases outcome.symm.trans unwritten.outcome
  rfl

theorem endsCalm {ending : Ending} (ends : options.EndsBy source sink r ending)
    {summary : Summary} (ok : r.outcome = .ok summary) {met : List Signal}
    (front : source.signals = met ++ r.source.signals) : Calm met := by
  have shown := endingShown ends
  rw [Report.ending, ok] at shown
  cases Option.some.inj shown
  obtain ⟨lines, finished, _⟩ := ends
  obtain ⟨other, same, calm, _⟩ := finished.met
  exact List.append_cancel_right (front.symm.trans same) ▸ calm

theorem okDelivers (options : Options) (source : Source) (sink : Sink) {summary : Summary}
    (ok : (options.formatStream source sink).outcome = .ok summary) {lines : List Bytes}
    {rest : Source} (yields : source.Yields lines rest) :
    options.listing lines <+: (options.formatStream source sink).output := by
  obtain ⟨all, place, last, whole, finished, output⟩ :=
    Progress.runOk options anonymous (.start source sink #[]) ok
  obtain ⟨more, ended, behind, done⟩ := rest.yieldsAll
  obtain ⟨same, _⟩ := Source.yieldsUnique whole (Source.finishedEnded finished)
    (Source.yieldsJoin yields behind) done
  refine ⟨options.listing more, ?_⟩
  rw [← listingAppend, ← same]
  exact output.symm

end Options
end HexDump
