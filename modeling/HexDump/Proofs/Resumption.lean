import HexDump.Proofs.WholeText

/-! What a read fault leaves behind. The lines that ended before it are delivered,
the one it strikes is taken and lost, and the next run begins right behind it. -/
namespace HexDump

namespace Sink

/-- Taking these bytes in one write goes well. A sink that never fails a write
serves everything. -/
def Serves (sink : Sink) (bytes : Bytes) : Prop := (sink.write bytes).fault = none
instance (sink : Sink) (bytes : Bytes) : Decidable (sink.Serves bytes) :=
  inferInstanceAs (Decidable (_ = none))

theorem uselessFails {sink : Sink} (useless : sink.largestWrite = some 0) {bytes : Bytes}
    (offer : bytes ≠ []) : (sink.write bytes).fault ≠ none := by
  fun_induction write sink bytes with
  | case1 => contradiction
  | case2 sink bytes _ cause answered again ih => exact ih useless offer
  | case3 => simp
  | case4 => simp
  | case5 sink bytes _ count answered ih =>
    unfold answer capacity at answered
    simp only [useless, Option.getD_some] at answered
    split at answered
    · contradiction
    · split at answered
      · split at answered <;> cases answered
      · simp at answered

theorem servesUsable {sink : Sink} {bytes : Bytes} (serves : sink.Serves bytes)
    (offer : bytes ≠ []) : sink.Usable ∧ sink.Fits bytes.length := by
  have usable : sink.Usable := fun useless => uselessFails useless offer serves
  refine ⟨usable, ?_⟩
  unfold Serves at serves
  rw [writeSettles usable] at serves
  by_cases fits : sink.Fits bytes.length
  · exact fits
  · simp [settle, fits] at serves

end Sink

namespace Progress

variable {options : Options} {origin : Bytes}

theorem formatSilent (p : Progress) {line : Bytes} (skipped : options.recordOf line = none)
    (rest : Source) :
    (p.consume line rest).format options line = .next (p.past options [line] rest p.sink) := by
  rw [pastSkipped p skipped]
  unfold Options.recordOf at skipped
  simp only [format, skipped]
  rfl

theorem runSilent (options : Options) (origin : Bytes) (p : Progress) {lines : List Bytes}
    {rest : Source} (yields : p.source.Yields lines rest) (silent : options.listing lines = []) :
    p.run options origin = (p.past options lines rest p.sink).run options origin := by
  induction lines generalizing p with
  | nil =>
    cases yields
    exact congrArg _ p.pastNothing.symm
  | cons line lines ih =>
    cases yields with
    | cons first next =>
      obtain ⟨nothing, silent⟩ := List.append_eq_nil_iff.mp silent
      have skipped := options.renderingSilent.mp nothing
      rw [runNext ((advanceLine first).trans (p.formatSilent skipped _)), ih _ next silent, pastCons]
      rfl

theorem runServed (options : Options) (origin : Bytes) (p : Progress) {lines : List Bytes}
    {rest : Source} (yields : p.source.Yields lines rest)
    (serves : p.sink.Serves (options.listing lines)) :
    p.run options origin =
      (p.past options lines rest (p.sink.offered (options.listing lines).length)).run
        options origin := by
  by_cases silent : options.listing lines = []
  · rw [runSilent options origin p yields silent, silent]
    rfl
  · obtain ⟨usable, fits⟩ := Sink.servesUsable serves silent
    exact runPast options origin p yields usable fits

end Progress

namespace Options

variable (options : Options)

theorem runBroken {before : Source} (steady : before.Steady) {kept lost : Bytes}
    (whole : before.content = kept ++ lost) (closed : Source.Closed kept)
    (stopless : Source.newline ∉ lost) {cause : Fault} (hard : cause.isInterruption = false)
    {sink : Sink} (serves : sink.Serves (options.listing (Pieces.lines Source.newline kept)))
    (after : Source) :
    options.formatStream (before ++ .fault cause :: after) sink =
      ⟨.error (.read anonymous cause), options.listing (Pieces.lines Source.newline kept),
        before.content.length, 0, after,
        sink.offered (options.listing (Pieces.lines Source.newline kept)).length,
        options.skips 0 (Pieces.lines Source.newline kept)⟩ := by
  obtain ⟨rest, unfinished, content, yields⟩ := Source.yieldsSteady steady whole closed
  have reading : (rest ++ .fault cause :: after).nextLine = .failed cause lost after := by
    have collected := Source.collectSteady unfinished (content ▸ stopless) [] (.fault cause :: after)
    rw [content] at collected
    exact collected.trans (by simp [Source.collect, hard])
  have passed := Progress.runServed options anonymous
    (.start (before ++ .fault cause :: after) sink #[]) (yields _) serves
  unfold formatStream
  rw [passed, Progress.runFailed options anonymous _ reading]
  simp [Progress.consume, Progress.report, Progress.past, Progress.start, Pieces.linesFlatten,
    whole]

theorem readFaultResumes {before : Source} (steady : before.Steady) (after : Source)
    {cause : Fault} (hard : cause.isInterruption = false) {sink : Sink}
    (serves : sink.Serves
      (options.formatStream (.ofBytes (Source.complete before.content)) .unlimited).output)
    (runs : Nat) :
    let first := options.formatStream (before ++ .fault cause :: after) sink
    first.answer =
        ⟨.error (.read (Utf8.encode "<input>".toList) cause),
          (options.formatStream (.ofBytes (Source.complete before.content)) .unlimited).output,
          before.content.length, 0⟩ ∧
      options.formatStreams (runs + 1) (before ++ .fault cause :: after) sink =
        first :: options.formatStreams runs after first.sink ∧
      ∀ other : Source, other.Steady →
        Source.complete other.content = Source.complete before.content →
          (options.formatStreams (runs + 1) (other ++ .fault cause :: after) sink).map
              Report.shown =
            (options.formatStreams (runs + 1) (before ++ .fault cause :: after) sink).map
              Report.shown := by
  have output : (options.formatStream (.ofBytes (Source.complete before.content))
      .unlimited).output =
        options.listing (Pieces.lines Source.newline (Source.complete before.content)) :=
    congrArg Report.Answer.output (options.formatBytes _ unlimitedReliable)
  rw [output] at serves ⊢
  have own := options.runBroken steady (Source.completeRemainder _).symm
    (Source.completeClosed _) (Source.remainderStopless _) hard serves after
  refine ⟨?_, ?_, ?_⟩
  · rw [own]
    rfl
  · simp only [formatStreams, own]
  · intro other calm same
    have split : other.content =
        Source.complete before.content ++ Source.remainder other.content := by
      rw [← same, Source.completeRemainder]
    have theirs := options.runBroken calm split (Source.completeClosed _)
      (Source.remainderStopless _) hard serves after
    simp only [formatStreams, own, theirs]
    rfl

theorem readFaultResumesInCharacter :
    let before : Source := [.data (Utf8.encode "AB\n0: x\nC".toList), .fault (.plain .interrupted),
      .data [0xC3]]
    let after : Source := [.data [0xA9, 0x44, 0x0A], .data [], .data [0x45]]
    let sink : Sink := ⟨some 30, none, some 2, 1, none⟩
    let source := before ++ .fault (.plain .timedOut) :: after
    let first := Options.default.formatStream source sink
    before.Steady ∧ Source.complete before.content = Utf8.encode "AB\n0: x\n".toList ∧
      sink.Serves (Utf8.encode "\x7b 0xAB \x7d;\n".toList) ∧
      first.answer = ⟨.error (.read (Utf8.encode "<input>".toList) (.plain .timedOut)),
        Utf8.encode "\x7b 0xAB \x7d;\n".toList, 10, 0⟩ ∧
      Options.default.formatStreams 3 source sink =
        first :: Options.default.formatStreams 2 after first.sink := by
  intro before after sink source first
  have steady : before.Steady := by decide +kernel
  have complete : Source.complete before.content = Utf8.encode "AB\n0: x\n".toList := by
    decide +kernel
  have output : (Options.default.formatStream (.ofBytes (Source.complete before.content))
      .unlimited).output = Utf8.encode "\x7b 0xAB \x7d;\n".toList := by
    decide +kernel
  have serves : sink.Serves (Utf8.encode "\x7b 0xAB \x7d;\n".toList) := by decide +kernel
  have hard : (Fault.plain .timedOut).isInterruption = false := rfl
  obtain ⟨answered, resumed, _⟩ :=
    readFaultResumes Options.default steady after hard (output ▸ serves) 2
  exact ⟨steady, complete, serves, output ▸ answered, resumed⟩

end Options
end HexDump
