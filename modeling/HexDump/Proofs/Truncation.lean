import HexDump.Proofs.Passage

/-! What a limit does to a run. Below the limit a run is that of a sink that takes
everything; above it the output is cut at the limit to the byte, and the input is
left behind the line whose rendering did not fit. -/
namespace HexDump

def Sink.flush (sink : Sink) (summary : Summary) : Except FormatError Summary :=
  match sink.flushFault with
  | none => .ok summary
  | some cause => .error (.write cause)

def Sink.boundless (sink : Sink) : Sink := { Sink.unlimited with flushFault := sink.flushFault }

theorem Sink.boundlessUsable (sink : Sink) : sink.boundless.Usable := by
  simp [Usable, boundless, unlimited]

namespace Progress

variable (options : Options) (origin : Bytes)

theorem endedAnswer (p : Progress) (ended : p.source.Ended) {sink : Sink}
    (flush : sink.flushFault = p.sink.flushFault) :
    (run options origin { p with sink := sink }).answer = (p.run options origin).answer ∧
      (run options origin { p with sink := sink }).source = (p.run options origin).source := by
  cases reading : p.source.nextLine with
  | line line rest => exact absurd reading (ended line rest)
  | finished rest =>
    rw [runFinished options origin p reading,
      runFinished options origin { p with sink := sink } reading]
    unfold finish
    simp only [consume, flush]
    cases p.sink.flushFault <;> exact ⟨rfl, rfl⟩
  | failed cause lost rest =>
    rw [runFailed options origin p reading, runFailed options origin { p with sink := sink } reading]
    exact ⟨rfl, rfl⟩

end Progress

namespace Options

variable (options : Options)

theorem firstExceeding {lines : List Bytes} {room : Nat}
    (exceeds : room < (options.listing lines).length) :
    ∃ before line after, lines = before ++ line :: after ∧
      (options.listing before).length ≤ room ∧
      room < (options.listing (before ++ [line])).length := by
  induction lines generalizing room with
  | nil => simp [listing] at exceeds
  | cons line lines ih =>
    by_cases here : room < (options.rendering line).length
    · exact ⟨[], line, lines, rfl, Nat.zero_le _, by simpa [listing] using here⟩
    · rw [listingCons, List.length_append] at exceeds
      have left : room - (options.rendering line).length < (options.listing lines).length := by
        omega
      obtain ⟨before, last, after, same, fits, passes⟩ := ih left
      refine ⟨line :: before, last, after, by rw [same]; rfl, ?_, ?_⟩
      · rw [listingCons, List.length_append]
        omega
      · rw [List.cons_append, listingCons, List.length_append]
        omega

theorem cutShare {before : List Bytes} {line : Bytes} {room : Nat}
    (fits : (options.listing before).length ≤ room)
    (exceeds : room < (options.listing (before ++ [line])).length) :
    options.listing before <+: (options.listing (before ++ [line])).take room ∧
      ((options.listing (before ++ [line])).take room).length = room := by
  constructor
  · rw [listingAppend, List.take_append, List.take_of_length_le fits]
    exact List.prefix_append _ _
  · rw [List.length_take]
    omega

theorem cutPlace {source rest : Source} {lines : List Bytes} (yields : source.Yields lines rest)
    {room : Nat} (exceeds : room < (options.listing lines).length) :
    ∃ before line mid, source.Yields (before ++ [line]) mid ∧
      options.listing (before ++ [line]) <+: options.listing lines ∧
      (options.listing before).length ≤ room ∧
      room < (options.listing (before ++ [line])).length := by
  obtain ⟨before, line, after, cut, fits, passes⟩ := options.firstExceeding exceeds
  have same : lines = (before ++ [line]) ++ after := by rw [cut]; simp
  obtain ⟨mid, ahead, _⟩ := Source.yieldsSplit (same ▸ yields)
  refine ⟨before, line, mid, ahead, ?_, fits, passes⟩
  rw [same, listingAppend options (before ++ [line])]
  exact List.prefix_append _ _

theorem boundlessOutput {source rest : Source} {lines : List Bytes}
    (yields : source.Yields lines rest) (ended : rest.Ended) (sink : Sink) :
    (options.formatStream source sink.boundless).output = options.listing lines := by
  have passed := Progress.runPast options anonymous (.start source sink.boundless #[]) yields
    sink.boundlessUsable (Sink.fitsUnlimited rfl _)
  unfold formatStream
  rw [passed, Progress.endedOutput options anonymous _ ended]
  simp [Progress.past, Progress.start]

theorem runWithin {source rest : Source} {lines : List Bytes} (yields : source.Yields lines rest)
    (ended : rest.Ended) {sink : Sink} (usable : sink.Usable)
    (fits : sink.Fits (options.listing lines).length) :
    (options.formatStream source sink).answer =
        (options.formatStream source sink.boundless).answer ∧
      (options.formatStream source sink).source =
        (options.formatStream source sink.boundless).source := by
  have limited := Progress.runPast options anonymous (.start source sink #[]) yields usable fits
  have whole := Progress.runPast options anonymous (.start source sink.boundless #[]) yields
    sink.boundlessUsable (Sink.fitsUnlimited rfl _)
  have flush : (sink.offered (options.listing lines).length).flushFault =
      (sink.boundless.offered (options.listing lines).length).flushFault := by
    rw [Sink.offeredFlush, Sink.offeredFlush]
    rfl
  have alike := Progress.endedAnswer options anonymous
    (Progress.past options lines rest (sink.boundless.offered (options.listing lines).length)
      (.start source sink.boundless #[])) ended flush
  unfold formatStream
  rw [limited, whole]
  exact alike

theorem startWhole (origin : Bytes) (log : Array Log.Entry) {source rest last : Source}
    {lines : List Bytes} (yields : source.Yields lines rest)
    (finished : rest.nextLine = .finished last) {sink : Sink} (usable : sink.Usable)
    (fits : sink.Fits (options.listing lines).length) :
    (Progress.start source sink log).run options origin =
      ⟨sink.flush (options.counts lines), options.listing lines, lines.flatten.length, 1, last,
        sink.offered (options.listing lines).length, log.toList ++ options.skips 0 lines⟩ := by
  have passed := Progress.runPast options origin (.start source sink log) yields usable fits
  rw [passed, Progress.runFinished options origin _ finished]
  unfold Progress.finish Sink.flush
  simp only [Progress.consume, Progress.past, Progress.start, Sink.offeredFlush]
  cases sink.flushFault <;> simp [Progress.report]

theorem runWhole {source rest last : Source} {lines : List Bytes} (yields : source.Yields lines rest)
    (finished : rest.nextLine = .finished last) {sink : Sink} (usable : sink.Usable)
    (fits : sink.Fits (options.listing lines).length) :
    options.formatStream source sink =
      ⟨sink.flush (options.counts lines), options.listing lines, lines.flatten.length, 1, last,
        sink.offered (options.listing lines).length, options.skips 0 lines⟩ :=
  options.startWhole anonymous #[] yields finished usable fits

theorem runCut {source rest : Source} {before : List Bytes} {line : Bytes}
    (yields : source.Yields (before ++ [line]) rest) {sink : Sink} (usable : sink.Usable)
    {room : Nat} (limit : sink.room = some room) (fits : (options.listing before).length ≤ room)
    (exceeds : room < (options.listing (before ++ [line])).length) :
    options.formatStream source sink =
      ⟨.error (.write sink.refusalFault), (options.listing (before ++ [line])).take room,
        (before ++ [line]).flatten.length, 0, rest,
        sink.offered (options.listing (before ++ [line])).length, options.skips 0 before⟩ := by
  obtain ⟨mid, ahead, last⟩ := Source.yieldsSplit yields
  cases last with
  | cons first next =>
    cases next
    have inside : sink.Fits (options.listing before).length := by
      intro other same
      cases limit.symm.trans same
      exact fits
    rw [listingAppend, List.length_append, listingCons, listingNil, List.append_nil] at exceeds
    -- The state in front of the line that does not fit.
    obtain ⟨q, here⟩ : ∃ q, q = Progress.past options before mid
      (sink.offered (options.listing before).length) (.start source sink #[]) := ⟨_, rfl⟩
    have passed : options.formatStream source sink = q.run options anonymous := by
      rw [here]
      exact Progress.runPast options anonymous (.start source sink #[]) ahead usable inside
    have reading : q.source.nextLine = .line line rest := here ▸ first
    have able : q.sink.Usable := here ▸ Sink.offeredUsable usable _
    have left : q.sink.room = some (room - (options.listing before).length) := by
      rw [here]
      simp [Progress.past, limit]
    have passes : room - (options.listing before).length < (options.rendering line).length := by
      omega
    rw [passed, Progress.runStop ((Progress.advanceLine reading).trans
      (Progress.formatExceeds able left passes rest)), here]
    simp [Progress.past, Progress.start, Sink.offeredTwice, List.take_append,
      List.take_of_length_le fits]

theorem runBeyond {source rest : Source} {before : List Bytes} {line : Bytes}
    (yields : source.Yields (before ++ [line]) rest) {sink : Sink} (usable : sink.Usable)
    {room : Nat} (limit : sink.room = some room) (fits : (options.listing before).length ≤ room)
    (exceeds : room < (options.listing (before ++ [line])).length) :
    (options.formatStream source sink).answer =
        ⟨.error (.write sink.refusalFault), (options.listing (before ++ [line])).take room,
          (before ++ [line]).flatten.length, 0⟩ ∧
      (options.formatStream source sink).source = rest := by
  rw [options.runCut yields usable limit fits exceeds]
  exact ⟨rfl, rfl⟩

structure Truncated (source : Source) (sink : Sink) (room : Nat) (whole : Bytes) (r : Report) :
    Prop where
  outcome : r.outcome = .error (.write sink.refusalFault)
  output : r.output = whole.take room
  flushes : r.flushes = 0
  -- The source stands behind the first line with which the rendering passes the limit.
  place : ∃ before line, source.Yields (before ++ [line]) r.source ∧
    options.listing (before ++ [line]) <+: whole ∧
    (options.listing before).length ≤ room ∧
    room < (options.listing (before ++ [line])).length ∧
    r.consumed = (before ++ [line]).flatten.length
  -- A fault further on is met by the next run that gets there.
  pending : ∀ {lines : List Bytes} {there rest : Source} {cause : Fault} {lost : Bytes},
    r.source.Yields lines there → there.nextLine = .failed cause lost rest →
    ∀ next : Sink, next.Usable → next.Fits (options.listing lines).length →
      (options.formatStream r.source next).outcome = .error (.read anonymous cause)

theorem faultMet {source there rest : Source} {lines : List Bytes} {cause : Fault} {lost : Bytes}
    (yields : source.Yields lines there) (reading : there.nextLine = .failed cause lost rest)
    {sink : Sink} (usable : sink.Usable) (fits : sink.Fits (options.listing lines).length) :
    (options.formatStream source sink).outcome = .error (.read anonymous cause) := by
  have passed := Progress.runPast options anonymous (.start source sink #[]) yields usable fits
  unfold formatStream
  rw [passed, Progress.runFailed options anonymous _ reading]
  rfl

end Options
end HexDump
