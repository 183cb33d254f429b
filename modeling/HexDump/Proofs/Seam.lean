import HexDump.Proofs.Lockstep
import HexDump.Proofs.Steady

/-! A run can be split at any line's end. What crosses it is the state of the sink and
three counts: a run over more than whole lines is the run over the lines and then a
fresh one over the rest, with the counts added up. -/
namespace HexDump

namespace Sink

theorem writeFlush (sink : Sink) (bytes : Bytes) :
    (sink.write bytes).sink.flushFault = sink.flushFault := by
  fun_induction write sink bytes with
  | case1 => rfl
  | case2 sink bytes offer cause answered again ih => exact ih
  | case3 => rfl
  | case4 => rfl
  | case5 sink bytes offer count answered ih => exact ih

theorem deliverFlush (sink : Sink) (segments : List Bytes) :
    (sink.deliver segments).sink.flushFault = sink.flushFault := by
  induction segments generalizing sink with
  | nil => rfl
  | cons segment rest ih =>
    simp only [deliver]
    split
    · exact sink.writeFlush segment
    · exact (ih _).trans (sink.writeFlush segment)

end Sink

namespace Summary

theorem countLineBehind (b s : Summary) : (b + s).countLine = b + s.countLine := by
  change countLine (add b s) = add b s.countLine
  simp [add, countLine, UInt64.add_assoc]

theorem countRecordBehind (b s : Summary) : (b + s).countRecord = b + s.countRecord := by
  change countRecord (add b s) = add b s.countRecord
  simp [add, countRecord, UInt64.add_assoc]

theorem countSkipBehind (b s : Summary) : (b + s).countSkip = b + s.countSkip := by
  change countSkip (add b s) = add b s.countSkip
  simp [add, countSkip, UInt64.add_assoc]

end Summary

namespace Source

inductive Continued (after : Source) : Nat → Source → Source → Prop where
  | whole {s : Source} (steady : s.Steady) (closed : Closed s.content) :
      Continued after 0 s (s ++ after)

def EndsWhere (after s t : Source) : Prop :=
  s.nextLine = .finished [] ∧ t.nextLine = after.nextLine

end Source

def Report.behind (b : Progress) (log : List Log.Entry) (r : Report) : Report :=
  { r with
    outcome := r.outcome.map (b.summary + ·)
    output := b.output.toList ++ r.output
    consumed := b.consumed + r.consumed
    log := log }

theorem Report.behindNothing {b : Progress} (summary : b.summary = .empty) (output : b.output = #[])
    (consumed : b.consumed = 0) (log : List Log.Entry) (r : Report) :
    r.behind b log = { r with log := log } := by
  have same : r.outcome.map (Summary.empty + ·) = r.outcome := by
    cases r.outcome <;> simp [Except.map]
  simp only [behind, summary, output, consumed, same, List.nil_append, Nat.zero_add]

namespace Progress

open Source (Continued EndsWhere)

theorem continuedLockstep (options : Options) (after : Source) :
    Lockstep options (EndsWhere after) (Continued after) := by
  intro surplus s t continued
  cases continued with
  | @whole s steady closed =>
    rcases Source.steadyReads steady closed with ⟨_, reads⟩ | ⟨line, rest, calm, later, reads⟩
    · have alone := reads []
      rw [List.append_nil] at alone
      exact .inl ⟨rfl, alone, reads after⟩
    · have alone := reads []
      rw [List.append_nil, List.append_nil] at alone
      exact .inr ⟨line, line, rest, _, 0, 0, alone, reads _, rfl, rfl, rfl, .whole calm later⟩

def behind (b : Progress) (log : Array Log.Entry) (p : Progress) : Progress :=
  { p with
    summary := b.summary + p.summary
    output := b.output ++ p.output
    consumed := b.consumed + p.consumed
    log := log }

theorem behindStart (b : Progress) (source : Source) :
    b.behind b.log (.start source b.sink #[]) = { b with source := source } := by
  simp [behind, start]

def Step.behind (b : Progress) (log : Array Log.Entry) (step : Step) : Step :=
  step.map (b.behind log) (Report.behind b log.toList)

variable {options : Options} {origin : Bytes}

theorem advanceSame {p : Progress} {t : Source} (same : t.nextLine = p.source.nextLine) :
    ({ p with source := t } : Progress).advance options origin = p.advance options origin := by
  unfold advance
  rw [same]
  rfl

theorem runSame {p : Progress} {t : Source} (same : t.nextLine = p.source.nextLine) :
    ({ p with source := t } : Progress).run options origin = p.run options origin := by
  cases step : p.advance options origin with
  | next q => rw [runNext step, runNext ((advanceSame same).trans step)]
  | stop r => rw [runStop step, runStop ((advanceSame same).trans step)]

theorem finishBehind (b p : Progress) (log : Array Log.Entry) :
    (b.behind log p).finish = p.finish.behind b log.toList := by
  unfold finish
  simp only [behind]
  cases p.sink.flushFault <;> simp [report, Report.behind, Except.map]

theorem emitBehind (b p : Progress) (log : Array Log.Entry) (record : Record) :
    (b.behind log p).emit record = (p.emit record).behind b log := by
  have joined : ∀ bytes : Bytes, b.output ++ p.output ++ bytes = b.output ++ (p.output ++ bytes) :=
    fun bytes => Array.ext' (by simp)
  unfold emit
  simp only [behind, joined]
  cases (p.sink.deliver record.segments).fault with
  | none => simp only [Step.behind, Step.map, behind, Summary.countRecordBehind]
  | some cause => simp [Step.behind, Step.map, Report.behind, report, Except.map]

theorem formatBehind (b p : Progress) (log : Array Log.Entry) (line : Bytes) :
    ∃ later, (b.behind log p).format options line = (p.format options line).behind b later := by
  unfold format
  simp only [behind, Summary.countLineBehind]
  cases options.formatLine (Utf8.decode line) with
  | none =>
    refine ⟨log.push (skippedEntry (b.summary + p.summary.countLine).linesRead), ?_⟩
    simp only [skip, Step.behind, Step.map, behind, Summary.countSkipBehind]
  | some record => exact ⟨log, emitBehind b { p with summary := p.summary.countLine } log record⟩

theorem advanceBehind (options : Options) (origin : Bytes) (b p : Progress) (log : Array Log.Entry) :
    ∃ later, (b.behind log p).advance options origin =
      (p.advance options origin).behind b later := by
  have taken : ∀ bytes rest, (b.behind log p).consume bytes rest =
      b.behind log (p.consume bytes rest) := by
    intro bytes rest
    simp [behind, consume, Nat.add_assoc]
  have sameSource : (b.behind log p).source = p.source := rfl
  unfold advance
  rw [sameSource]
  cases p.source.nextLine with
  | finished rest => exact ⟨log, by simp only [taken, finishBehind, Step.behind, Step.map]⟩
  | failed cause lost rest =>
    refine ⟨log, ?_⟩
    simp only [taken]
    simp [behind, report, Step.behind, Step.map, Report.behind, Except.map]
  | line bytes rest =>
    simp only [taken]
    exact formatBehind b (p.consume bytes rest) log bytes

theorem runBehind (options : Options) (origin : Bytes) (b p : Progress) (log : Array Log.Entry) :
    ∃ later, (b.behind log p).run options origin = (p.run options origin).behind b later := by
  refine runRelated origin (R := fun p q => ∃ log, q = b.behind log p)
    (S := fun r s => ∃ later, s = r.behind b later) ?_ ⟨log, rfl⟩
  rintro p _ ⟨log, rfl⟩
  obtain ⟨later, same⟩ := advanceBehind options origin b p log
  rw [same]
  cases p.advance options origin with
  | next q => exact .inr (.next ⟨later, rfl⟩)
  | stop r => exact .inr (.stop ⟨later.toList, rfl⟩)

def Step.sink : Step → Sink
  | .next p => p.sink
  | .stop r => r.sink

theorem finishSink (p : Progress) : p.finish.sink = p.sink := by
  unfold finish
  split <;> rfl

theorem emitFlush (p : Progress) (record : Record) :
    (p.emit record).sink.flushFault = p.sink.flushFault := by
  unfold emit
  dsimp only
  split <;> exact p.sink.deliverFlush record.segments

theorem formatFlush (options : Options) (line : Bytes) (p : Progress) :
    (p.format options line).sink.flushFault = p.sink.flushFault := by
  unfold format
  dsimp only
  split
  · rfl
  · exact emitFlush { p with summary := p.summary.countLine } _

theorem advanceFlush (options : Options) (origin : Bytes) (p : Progress) :
    (p.advance options origin).sink.flushFault = p.sink.flushFault := by
  unfold advance
  split
  · exact congrArg Sink.flushFault (finishSink _)
  · rfl
  · exact formatFlush options _ _

theorem reachedFlush {p q : Progress} (reached : Reached options origin p q) :
    q.sink.flushFault = p.sink.flushFault := by
  induction reached with
  | start => rfl
  | @next mid q before step ih =>
    have kept := advanceFlush options origin mid
    rw [step] at kept
    exact Eq.trans kept ih

theorem runFlush (options : Options) (origin : Bytes) (p : Progress) :
    (p.run options origin).sink.flushFault = p.sink.flushFault := by
  obtain ⟨last, reached, stop⟩ := runReaches options origin p
  have kept := advanceFlush options origin last
  rw [stop] at kept
  exact Eq.trans kept (reachedFlush reached)

end Progress

namespace Options

theorem runSplits (options : Options) {before : Source} (steady : before.Steady)
    (closed : Source.Closed before.content) (after : Source) {sink : Sink}
    (flushes : sink.flushFault = none) :
    let first := options.formatStream before sink
    let second := options.formatStream after first.sink
    let whole := options.formatStream (before ++ after) sink
    (first.CutShort → whole.answer = first.answer ∧ whole.sink = first.sink) ∧
      (¬ first.CutShort → ∃ summary, first.outcome = .ok summary ∧
        whole.outcome = second.outcome.map (summary + ·) ∧
        whole.output = first.output ++ second.output ∧
        whole.consumed = first.consumed + second.consumed ∧
        whole.flushes = second.flushes ∧ whole.source = second.source ∧
        whole.sink = second.sink) := by
  intro first second whole
  rcases Progress.runLockstep (Progress.continuedLockstep options after) anonymous
    (.start before sink #[]) (.whole steady closed) 0 with
    ⟨spent, left, t', split, related, cut, moved⟩ | ⟨q, t', ⟨alone, next⟩, one, two⟩
  · obtain ⟨rfl, rfl⟩ : spent = 0 ∧ left = 0 := by omega
    have moved : whole = first.moved t' first.consumed := moved
    exact ⟨fun _ => by rw [moved]; exact ⟨rfl, rfl⟩, fun through => absurd cut through⟩
  · -- The lines alone come to their end at `q`, and everything behind them is met there.
    have ended : first = (q.consume [] []).finish :=
      one.trans (Progress.runFinished options anonymous q alone)
    have flush : q.sink.flushFault = none := by
      have kept := Progress.runFlush options anonymous (.start before sink #[])
      rw [← flushes]
      exact (congrArg Sink.flushFault ((congrArg Report.sink ended).trans
        (Progress.finishSink _))).symm.trans kept
    have first' : first = ⟨.ok q.summary, q.output.toList, q.consumed, 1, [], q.sink, q.log.toList⟩ := by
      rw [ended]
      simp [Progress.finish, Progress.consume, Progress.report, flush]
    obtain ⟨later, behind⟩ := Progress.runBehind options anonymous q (.start after q.sink #[]) q.log
    have continued : whole = (options.formatStream after q.sink).behind q later := by
      refine two.trans (Eq.trans ?_ behind)
      rw [Progress.behindStart]
      exact Progress.runSame (p := { q with source := after }) next
    have through : ¬ first.CutShort := by simp [first', Report.CutShort]
    have later' : second = options.formatStream after q.sink := by
      rw [show second = options.formatStream after first.sink from rfl, first']
    refine ⟨fun cut => absurd cut through, fun _ => ?_⟩
    rw [continued, first', later']
    exact ⟨q.summary, rfl, rfl, rfl, rfl, rfl, rfl, rfl⟩

theorem runSplitsBoth :
    let before : Source := [.data (Utf8.encode "AB\n0:".toList), .fault (.plain .interrupted),
      .data [0x0A]]
    let after : Source := [.fault (.plain .interrupted), .data (Utf8.encode "C\nD E".toList),
      .data [], .fault (.plain .other)]
    let wide : Sink := ⟨some 25, some ⟨.plain .brokenPipe, rfl⟩, some 2, 3, none⟩
    let narrow : Sink := ⟨some 25, none, some 0, 3, none⟩
    let first := Options.default.formatStream before wide
    let second := Options.default.formatStream after first.sink
    let whole := Options.default.formatStream (before ++ after) wide
    before.Steady ∧ Source.Closed before.content ∧ first.output.length = 10 ∧
      second.output.length = 15 ∧
      (∃ summary, first.outcome = .ok summary ∧
        whole.outcome = second.outcome.map (summary + ·) ∧
        whole.output = first.output ++ second.output ∧
        whole.consumed = first.consumed + second.consumed) ∧
      (Options.default.formatStream (before ++ after) narrow).answer =
        (Options.default.formatStream before narrow).answer := by
  intro before after wide narrow first second whole
  have steady : before.Steady := by decide +kernel
  have closed : Source.Closed before.content := by decide +kernel
  have flushed : first.flushes = 1 := by decide +kernel
  have through : ¬ first.CutShort := by simp [Report.CutShort, flushed]
  have wideSplit := runSplits Options.default steady closed after (show wide.flushFault = none from rfl)
  have narrowSplit :=
    runSplits Options.default steady closed after (show narrow.flushFault = none from rfl)
  have cut : (Options.default.formatStream before narrow).CutShort := by
    refine Classical.byContradiction fun through => ?_
    obtain ⟨summary, ok, _⟩ := narrowSplit.2 through
    have failed : (Options.default.formatStream before narrow).outcome.toOption = none := by
      decide +kernel
    rw [ok] at failed
    cases failed
  obtain ⟨summary, ok, outcome, output, consumed, _⟩ := wideSplit.2 through
  exact ⟨steady, closed, by decide +kernel, by decide +kernel,
    ⟨summary, ok, outcome, output, consumed⟩, (narrowSplit.1 cut).1⟩

end Options
end HexDump
