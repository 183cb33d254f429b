import HexDump.Proofs.Padding
import HexDump.Proofs.ReadBack
import Mathlib.Algebra.BigOperators.Group.List.Basic

/-! The counters of a run, each time it asks for a line, whatever becomes of it later. They
add up, no more lines are read than bytes are taken, and each record that was written is a
line of the output. A machine word is wide enough for all of that as long as it could hold
the number of bytes. -/
namespace HexDump

namespace Source

theorem settleLine {taken line : Bytes} {s rest : Source} (stopless : newline ∉ taken)
    (reading : settle taken s = .line line rest) : Pieces.lines newline line = [line] := by
  unfold settle at reading
  split at reading
  · contradiction
  · rename_i some
    cases reading
    exact Pieces.linesOpen newline stopless some

theorem collectLine {taken line : Bytes} {s rest : Source} (stopless : newline ∉ taken)
    (reading : collect taken s = .line line rest) : Pieces.lines newline line = [line] := by
  induction s generalizing taken with
  | nil => exact settleLine stopless reading
  | cons event s ih =>
    cases event with
    | fault cause =>
      cases kind : cause.isInterruption with
      | true => exact ih stopless (collectInterrupted kind taken s ▸ reading)
      | false => simp [collect, kind] at reading
    | data bytes =>
      by_cases empty : bytes = []
      · subst empty
        exact settleLine stopless reading
      · rw [← pushSome empty] at reading
        by_cases stop : newline ∈ bytes
        · obtain ⟨front, after, rfl, clear⟩ := List.eq_append_cons_of_mem stop
          rw [collectCut taken clear] at reading
          cases reading
          have unstopped : newline ∉ taken ++ front := by simp [stopless, clear]
          exact Pieces.linesCut newline unstopped []
        · rw [collectOpen taken stop] at reading
          exact ih (by simp [stopless, stop]) reading

theorem nextLineWhole {s rest : Source} {line : Bytes} (reading : s.nextLine = .line line rest) :
    Pieces.lines newline line = [line] :=
  collectLine List.not_mem_nil reading

theorem yieldsWhole {s rest : Source} {lines : List Bytes} (yields : s.Yields lines rest) :
    ∀ line ∈ lines, Pieces.lines newline line = [line] := by
  induction yields with
  | nil => simp
  | cons first next ih => exact List.forall_mem_cons.mpr ⟨nextLineWhole first, ih⟩

theorem wholeSome {line : Bytes} (whole : Pieces.lines newline line = [line]) : line ≠ [] := by
  rintro rfl
  contradiction

theorem writtenStops {lines : List Bytes} (stopless : ∀ line ∈ lines, newline ∉ line) :
    (written lines).count newline = lines.length := by
  induction lines with
  | nil => rfl
  | cons line lines ih =>
    have first : line.count newline = 0 := List.count_eq_zero.mpr (stopless line List.mem_cons_self)
    have rest := ih (fun line member => stopless line (List.mem_cons_of_mem _ member))
    rw [writtenCons, List.count_append, List.count_cons_self, first, rest, List.length_cons]
    omega

theorem writtenClosed (lines : List Bytes) : Closed (written lines) := by
  induction lines with
  | nil => exact closedNil
  | cons line lines ih =>
    rw [writtenCons, closedCut]
    exact ih

theorem closedLines {bytes : Bytes} (closed : Closed bytes) :
    (Pieces.lines newline bytes).length = bytes.count newline := by
  induction bytes using Pieces.cutInduction newline with
  | nil => rfl
  | last bytes some absent => exact absurd (closedStopless closed absent) some
  | cut front behind absent ih =>
    rw [Pieces.linesCut newline absent, List.length_cons, ih (closedCut.mp closed),
      List.count_append, List.count_cons_self, List.count_eq_zero.mpr absent, Nat.zero_add]

end Source

theorem Record.segmentsEnded (r : Record) :
    r.segments.flatten = Utf8.encode r.text ++ [Source.newline] := by
  rw [r.segmentsFlatten, Utf8.encodeAppend]
  rfl

namespace Summary

structure Rises (s : Summary) : Prop where
  read : s.countLine.linesRead.toNat = s.linesRead.toNat + 1
  written : s.countRecord.recordsWritten.toNat = s.recordsWritten.toNat + 1
  skipped : s.countSkip.linesSkipped.toNat = s.linesSkipped.toNat + 1

theorem wordsRise {read written skipped : Nat} (countable : read + 1 < UInt64.size)
    (all : written + skipped = read) : (words read written skipped).Rises := by
  obtain ⟨r, w, s⟩ := wordsCountable (Nat.lt_of_succ_lt countable) all
  exact ⟨wordRaised (n := 1) (by omega), wordRaised (n := 1) (by omega),
    wordRaised (n := 1) (by omega)⟩

end Summary

namespace Options

variable (options : Options)

theorem listingWritten (lines : List Bytes) :
    options.listing lines =
      Source.written ((lines.filterMap options.recordOf).map (fun r => Utf8.encode r.text)) := by
  induction lines with
  | nil => rfl
  | cons line lines ih =>
    rw [listingCons, ih, rendering, List.filterMap_cons]
    cases options.recordOf line with
    | none => rfl
    | some record => exact congrArg (· ++ _) record.segmentsEnded

theorem recordStopless (stopless : '\n' ∉ options.marker) {line : Bytes}
    (whole : Pieces.lines Source.newline line = [line]) {record : Record}
    (found : options.recordOf line = some record) :
    Source.newline ∉ Utf8.encode record.text := by
  obtain ⟨rfl, some⟩ := options.formatRow found
  have member : Utf8.decode line ∈ Pieces.lines '\n' (Utf8.decode line) := by
    simp [Utf8.decodeLines, whole]
  exact Listing.encodeStopless (Listing.textStopless stopless (options.rowClear member some))

theorem recordsStopless (stopless : '\n' ∉ options.marker) {lines : List Bytes}
    (whole : ∀ line ∈ lines, Pieces.lines Source.newline line = [line]) :
    ∀ row ∈ (lines.filterMap options.recordOf).map (fun r => Utf8.encode r.text),
      Source.newline ∉ row := by
  intro row member
  obtain ⟨record, inside, rfl⟩ := List.mem_map.mp member
  obtain ⟨line, present, found⟩ := List.mem_filterMap.mp inside
  exact options.recordStopless stopless (whole line present) found

structure Balanced (options : Options) (summary : Summary) (consumed : Nat) (output : Bytes) :
    Prop where
  sum : summary.linesRead = summary.recordsWritten + summary.linesSkipped
  bounded : summary.linesRead.toNat ≤ consumed
  rows : '\n' ∉ options.marker →
    summary.recordsWritten = .ofNat (output.count Source.newline) ∧ Source.Closed output
  unwrapped : consumed < UInt64.size →
    summary.linesRead.toNat = summary.recordsWritten.toNat + summary.linesSkipped.toNat ∧
      ('\n' ∉ options.marker → summary.recordsWritten.toNat = output.count Source.newline)

end Options

namespace Progress

variable {options : Options} {origin : Bytes}

structure Tallied (options : Options) (lines : List Bytes) (p : Progress) : Prop where
  summary : p.summary = options.counts lines
  consumed : p.consumed = lines.flatten.length
  output : p.output.toList = options.listing lines
  whole : ∀ line ∈ lines, Pieces.lines Source.newline line = [line]

theorem reachedTallied {source : Source} {sink : Sink} {log : Array Log.Entry} {p : Progress}
    (reached : Reached options origin (.start source sink log) p) :
    ∃ lines, source.Yields lines p.source ∧ Tallied options lines p := by
  obtain ⟨lines, yields, same⟩ := reachedPast reached
  refine ⟨lines, yields, ?_, ?_, ?_, Source.yieldsWhole yields⟩ <;> rw [same]
  · exact Summary.emptyAdd _
  · exact Nat.zero_add _
  · simp [past, start]

variable {lines : List Bytes} {p : Progress}

theorem talliedLength (tallied : Tallied options lines p) : lines.length ≤ p.consumed := by
  have each : ∀ size ∈ lines.map List.length, 1 ≤ size := by
    intro size member
    obtain ⟨line, present, rfl⟩ := List.mem_map.mp member
    exact List.length_pos_iff.mpr (Source.wholeSome (tallied.whole line present))
  have sum := List.length_le_sum_of_one_le _ each
  rwa [List.length_map, ← List.length_flatten, ← tallied.consumed] at sum

theorem talliedRows (tallied : Tallied options lines p) (stopless : '\n' ∉ options.marker) :
    p.output.toList.count Source.newline = (lines.filterMap options.recordOf).length ∧
      Source.Closed p.output.toList := by
  rw [tallied.output, options.listingWritten]
  refine ⟨?_, Source.writtenClosed _⟩
  rw [Source.writtenStops (options.recordsStopless stopless tallied.whole), List.length_map]

theorem talliedBalanced (tallied : Tallied options lines p) :
    options.Balanced p.summary p.consumed p.output.toList := by
  have every := options.everyLine lines
  have words := tallied.summary.trans (options.countsWords lines)
  have length := talliedLength tallied
  refine ⟨?_, ?_, ?_, ?_⟩
  · rw [words, Summary.words, ← every, UInt64.ofNat_add]
  · rw [words]
    exact Nat.le_trans (Nat.mod_le _ _) length
  · intro stopless
    obtain ⟨counted, closed⟩ := talliedRows tallied stopless
    exact ⟨by rw [words, counted]; rfl, closed⟩
  · intro countable
    obtain ⟨read, written, skipped⟩ := Summary.wordsCountable (by omega) every
    rw [words, read, written, skipped]
    exact ⟨every.symm, fun stopless => (talliedRows tallied stopless).1.symm⟩

def Step.consumed : Step → Nat
  | .next p => p.consumed
  | .stop r => r.consumed

theorem formatConsumed (options : Options) (line : Bytes) (p : Progress) :
    (p.format options line).consumed = p.consumed := by
  unfold format
  dsimp only
  split
  · rfl
  · unfold emit
    dsimp only
    split <;> rfl

theorem advanceConsumes (options : Options) (origin : Bytes) (p : Progress) :
    p.consumed ≤ (p.advance options origin).consumed := by
  unfold advance
  split
  · unfold finish
    split <;> exact Nat.le_refl _
  · exact Nat.le_add_right _ _
  · rw [formatConsumed]
    exact Nat.le_add_right _ _

theorem reachedConsumes {q : Progress} (reached : Reached options origin p q) :
    p.consumed ≤ q.consumed := by
  induction reached with
  | start => exact Nat.le_refl _
  | @next mid q before step ih =>
    have more := advanceConsumes options origin mid
    rw [step] at more
    exact Nat.le_trans ih more

theorem runConsumes (options : Options) (origin : Bytes) (p : Progress) :
    (p.advance options origin).consumed ≤ (p.run options origin).consumed := by
  cases step : p.advance options origin with
  | stop r => exact Nat.le_of_eq (congrArg Report.consumed (runStop step).symm)
  | next q =>
    obtain ⟨last, reached, stop⟩ := runReaches options origin q
    have more := advanceConsumes options origin last
    rw [stop] at more
    rw [runNext step]
    exact Nat.le_trans (reachedConsumes reached) more

theorem lineConsumes {line : Bytes} {rest : Source}
    (reading : p.source.nextLine = .line line rest) :
    p.consumed + 1 ≤ (p.run options origin).consumed := by
  have taken := runConsumes options origin p
  rw [advanceLine reading, formatConsumed] at taken
  have some := List.length_pos_iff.mpr (Source.wholeSome (Source.nextLineWhole reading))
  exact Nat.le_trans (Nat.add_le_add_left some _) taken

theorem talliedRises (tallied : Tallied options lines p)
    (countable : p.consumed + 1 < UInt64.size) : p.summary.Rises := by
  have length := talliedLength tallied
  rw [tallied.summary, options.countsWords]
  exact Summary.wordsRise (by omega) (options.everyLine lines)

theorem stopOk {r : Report} (stop : p.advance options origin = .stop r) {summary : Summary}
    (ok : r.outcome = .ok summary) :
    summary = p.summary ∧ r.consumed = p.consumed ∧ r.output = p.output.toList := by
  cases reading : p.source.nextLine with
  | line line rest =>
    obtain ⟨-, -, -, cause, failed⟩ := formatStopped ((advanceLine reading).symm.trans stop)
    cases ok.symm.trans failed
  | failed cause lost rest =>
    simp only [advance, reading] at stop
    cases stop
    cases ok
  | finished rest =>
    simp only [advance, reading, finish] at stop
    split at stop
    · cases stop
      exact ⟨(Except.ok.inj ok).symm, rfl, rfl⟩
    · cases stop
      cases ok

end Progress

namespace Options

theorem countersBalance (options : Options) (source : Source) (sink : Sink) :
    let start := Progress.start source sink #[]
    let report := options.formatStream source sink
    (∀ p, Progress.Reached options anonymous start p →
      options.Balanced p.summary p.consumed p.output.toList ∧
        ∀ line rest, p.source.nextLine = .line line rest → report.consumed < UInt64.size →
          p.summary.Rises) ∧
    ∀ summary, report.outcome = .ok summary →
      options.Balanced summary report.consumed report.output ∧
        ('\n' ∉ options.marker →
          summary.recordsWritten =
              .ofNat (Pieces.lines Source.newline report.output).length ∧
            (report.consumed < UInt64.size → summary.recordsWritten.toNat =
              (Pieces.lines Source.newline report.output).length)) := by
  intro start report
  constructor
  · intro p reached
    obtain ⟨lines, -, tallied⟩ := Progress.reachedTallied reached
    refine ⟨Progress.talliedBalanced tallied, fun line rest reading countable => ?_⟩
    have taken : p.consumed + 1 ≤ (p.run options anonymous).consumed :=
      Progress.lineConsumes reading
    rw [Progress.reachedRun reached] at taken
    have within : p.consumed + 1 < UInt64.size := Nat.lt_of_le_of_lt taken countable
    exact Progress.talliedRises tallied within
  · intro summary ok
    obtain ⟨p, reached, stop⟩ := Progress.runReaches options anonymous start
    obtain ⟨rfl, consumed, output⟩ := Progress.stopOk stop ok
    obtain ⟨lines, -, tallied⟩ := Progress.reachedTallied reached
    have balanced : options.Balanced p.summary report.consumed report.output := by
      rw [show report.consumed = _ from consumed, show report.output = _ from output]
      exact Progress.talliedBalanced tallied
    refine ⟨balanced, fun stopless => ?_⟩
    obtain ⟨counted, closed⟩ := balanced.rows stopless
    rw [Source.closedLines closed]
    exact ⟨counted, fun countable => (balanced.unwrapped countable).2 stopless⟩

theorem countersBalanceResumed :
    let behind : Source := [.data [0x30, 0x3A], .data [], .fault (.plain .interrupted), .data [0x42]]
    let source : Source := .data [0x41, 0x0A, 0x30, 0x3A] :: behind.tail
    let sink : Sink := ⟨none, none, some 2, 1, none⟩
    let report := Options.default.formatStream source sink
    (∃ p, Progress.Reached Options.default anonymous (.start source sink #[]) p ∧
      p.source = behind ∧ p.summary.Rises ∧
      Options.default.Balanced p.summary p.consumed p.output.toList) ∧
    report.outcome = .ok ⟨3, 2, 1⟩ ∧ report.consumed < UInt64.size ∧
      '\n' ∉ Options.default.marker ∧
      (2 : UInt64).toNat = (Pieces.lines Source.newline report.output).length := by
  intro behind source sink report
  have counted : report.outcome = .ok ⟨3, 2, 1⟩ := by decide +kernel
  have countable : report.consumed < UInt64.size := by decide +kernel
  have stopless : '\n' ∉ Options.default.marker := by decide
  obtain ⟨asked, ended⟩ := countersBalance Options.default source sink
  have first : source.nextLine = .line [0x41, 0x0A] behind := by decide +kernel
  have second : behind.nextLine = .line [0x30, 0x3A] (behind.drop 2) := by decide +kernel
  have usable : (Progress.start source sink #[]).sink.Usable := by decide
  have step : (Progress.start source sink #[]).advance Options.default anonymous =
      .next ((Progress.start source sink #[]).past Options.default [[0x41, 0x0A]] behind _) :=
    (Progress.advanceLine first).trans
      (Progress.formatFits usable (Sink.fitsUnlimited rfl _) behind)
  have reached := Progress.Reached.next .start step
  obtain ⟨balanced, rises⟩ := asked _ reached
  exact ⟨⟨_, reached, rfl, rises _ _ second countable, balanced⟩, counted, countable, stopless,
    ((ended _ counted).2 stopless).2 countable⟩

end Options
end HexDump
