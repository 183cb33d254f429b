import HexDump.Proofs.Delivery
import HexDump.Run

/-! A run seen as a passage over whole lines. What a source yields does not depend
on the sink, and what the lines come to does not depend on either; a run passes
over some lines and then stops, by the input's end or by a fault. -/
namespace HexDump

namespace Source

inductive Yields : Source → List Bytes → Source → Prop where
  | nil (s : Source) : Yields s [] s
  | cons {s mid rest : Source} {line : Bytes} {lines : List Bytes}
      (first : s.nextLine = .line line mid) (next : Yields mid lines rest) :
      Yields s (line :: lines) rest

def Ended (s : Source) : Prop := ∀ line rest, s.nextLine ≠ .line line rest

theorem yieldsSplit {s rest : Source} {lines more : List Bytes}
    (whole : Yields s (lines ++ more) rest) : ∃ mid, Yields s lines mid ∧ Yields mid more rest := by
  induction lines generalizing s with
  | nil => exact ⟨s, .nil s, whole⟩
  | cons line lines ih =>
    cases whole with
    | cons first next =>
      obtain ⟨mid, before, behind⟩ := ih next
      exact ⟨mid, .cons first before, behind⟩

theorem yieldsJoin {s mid rest : Source} {lines more : List Bytes} (ahead : Yields s lines mid)
    (behind : Yields mid more rest) : Yields s (lines ++ more) rest := by
  induction ahead with
  | nil => exact behind
  | cons first next ih => exact .cons first (ih behind)

theorem yieldsAll (s : Source) : ∃ lines rest, Yields s lines rest ∧ rest.Ended := by
  induction size : s.weight using Nat.strongRecOn generalizing s with
  | ind size ih =>
    cases reading : s.nextLine with
    | line line rest =>
      have smaller := lineDecreases reading
      obtain ⟨lines, last, yields, ended⟩ := ih rest.weight (by omega) rest rfl
      exact ⟨line :: lines, last, .cons reading yields, ended⟩
    | finished rest => exact ⟨[], s, .nil s, by simp [Ended, reading]⟩
    | failed cause lost rest => exact ⟨[], s, .nil s, by simp [Ended, reading]⟩

theorem yieldsUnique {s rest last : Source} {lines more : List Bytes}
    (one : Yields s lines rest) (ended : rest.Ended) (other : Yields s more last)
    (done : last.Ended) : lines = more ∧ rest = last := by
  induction one generalizing more with
  | nil =>
    cases other with
    | nil => exact ⟨rfl, rfl⟩
    | cons first next => exact absurd first (ended _ _)
  | cons first next ih =>
    cases other with
    | nil => exact absurd first (done _ _)
    | cons first' next' =>
      cases first.symm.trans first'
      obtain ⟨rfl, same⟩ := ih ended next'
      exact ⟨rfl, same⟩

theorem finishedEnded {s rest : Source} (finished : s.nextLine = .finished rest) : s.Ended := by
  intro line after other
  cases finished.symm.trans other

end Source

namespace Summary

theorem addAssoc (a b c : Summary) : a + b + c = a + (b + c) := by
  change add (add a b) c = add a (add b c)
  simp [add, UInt64.add_assoc]

@[simp] theorem addEmpty (s : Summary) : s + empty = s := by
  change add s empty = s
  simp [add, empty]

@[simp] theorem emptyAdd (s : Summary) : empty + s = s := by
  change add empty s = s
  simp [add, empty]

@[simp] theorem emptyRead : empty.linesRead = 0 := rfl

theorem countSkipped (s : Summary) : s.countLine.countSkip = s + ⟨1, 0, 1⟩ := by
  change _ = add s ⟨1, 0, 1⟩
  simp [add, countLine, countSkip]

theorem countWritten (s : Summary) : s.countLine.countRecord = s + ⟨1, 1, 0⟩ := by
  change _ = add s ⟨1, 1, 0⟩
  simp [add, countLine, countRecord]

end Summary

namespace Options

def recordOf (options : Options) (line : Bytes) : Option Record :=
  options.formatLine (Utf8.decode line)

def rendering (options : Options) (line : Bytes) : Bytes :=
  match options.recordOf line with
  | none => []
  | some record => record.segments.flatten

def listing (options : Options) (lines : List Bytes) : Bytes := lines.flatMap options.rendering

def tally (options : Options) (line : Bytes) : Summary :=
  match options.recordOf line with
  | none => ⟨1, 0, 1⟩
  | some _ => ⟨1, 1, 0⟩

def counts (options : Options) (lines : List Bytes) : Summary :=
  lines.foldr (fun line s => options.tally line + s) .empty

def skips (options : Options) (before : UInt64) : List Bytes → List Log.Entry
  | [] => []
  | line :: rest =>
    (if options.recordOf line = none then [Progress.skippedEntry (before + 1)] else []) ++
      skips options (before + 1) rest

variable (options : Options)

@[simp] theorem listingNil : options.listing [] = [] := rfl

@[simp] theorem listingCons (line : Bytes) (lines : List Bytes) :
    options.listing (line :: lines) = options.rendering line ++ options.listing lines := rfl

@[simp] theorem listingAppend (lines more : List Bytes) :
    options.listing (lines ++ more) = options.listing lines ++ options.listing more := by
  simp [listing]

theorem renderingSilent {line : Bytes} :
    options.rendering line = [] ↔ options.recordOf line = none := by
  unfold rendering
  cases options.recordOf line with
  | none => simp
  | some record =>
    have opened : Utf8.encode Record.opening ≠ [] := by decide
    simp [Record.segments, opened]

theorem listingSilent {lines : List Bytes} :
    options.listing lines = [] ↔ ∀ line ∈ lines, options.recordOf line = none := by
  simp [listing, renderingSilent]

@[simp] theorem countsNil : options.counts [] = .empty := rfl

@[simp] theorem countsCons (line : Bytes) (lines : List Bytes) :
    options.counts (line :: lines) = options.tally line + options.counts lines := rfl

@[simp] theorem tallyRead (s : Summary) (line : Bytes) :
    (s + options.tally line).linesRead = s.linesRead + 1 := by
  unfold tally
  split <;> rfl

end Options

namespace Report

structure Answer where
  outcome : Except FormatError Summary
  output : Bytes
  consumed : Nat
  flushes : Nat

def answer (r : Report) : Answer := ⟨r.outcome, r.output, r.consumed, r.flushes⟩

def shown (r : Report) : Except FormatError Summary × Bytes × Nat :=
  (r.outcome, r.output, r.flushes)

def reread (f : Source → Source) (g : Nat → Nat) (r : Report) : Report :=
  { r with source := f r.source, consumed := g r.consumed }

def CutShort (r : Report) : Prop := r.flushes = 0 ∧ ∃ cause, r.outcome = .error (.write cause)

end Report

namespace Progress

def reread (f : Source → Source) (g : Nat → Nat) (p : Progress) : Progress :=
  { p with source := f p.source, consumed := g p.consumed }

def Step.map (f : Progress → Progress) (g : Report → Report) : Step → Step
  | .next p => .next (f p)
  | .stop r => .stop (g r)

def Step.reread (f : Source → Source) (g : Nat → Nat) (step : Step) : Step :=
  step.map (Progress.reread f g) (Report.reread f g)

theorem finishReread (f : Source → Source) (g : Nat → Nat) (p : Progress) :
    (p.reread f g).finish = p.finish.reread f g := by
  unfold finish
  simp only [reread]
  split <;> rfl

theorem emitReread (f : Source → Source) (g : Nat → Nat) (p : Progress) (record : Record) :
    (p.reread f g).emit record = (p.emit record).reread f g := by
  unfold emit
  simp only [reread]
  split <;> rfl

theorem formatReread {options : Options} {line other : Bytes}
    (same : options.recordOf line = options.recordOf other) (f : Source → Source) (g : Nat → Nat)
    (p : Progress) :
    (p.reread f g).format options other = (p.format options line).reread f g := by
  unfold Options.recordOf at same
  unfold format
  rw [same]
  cases options.formatLine (Utf8.decode other) with
  | none => rfl
  | some record => exact emitReread f g { p with summary := p.summary.countLine } record

def past (options : Options) (lines : List Bytes) (rest : Source) (sink : Sink) (p : Progress) :
    Progress :=
  ⟨rest, sink, p.summary + options.counts lines, p.output ++ (options.listing lines).toArray,
    p.consumed + lines.flatten.length,
    p.log ++ (options.skips p.summary.linesRead lines).toArray⟩

variable {options : Options} {origin : Bytes}

theorem pastNothing (p : Progress) : p.past options [] p.source p.sink = p := by
  simp [past, Options.skips]

theorem pastCons (p : Progress) (line : Bytes) (lines : List Bytes) (mid rest : Source)
    (first sink : Sink) :
    (p.past options [line] mid first).past options lines rest sink =
      p.past options (line :: lines) rest sink := by
  simp [past, Options.skips, Summary.addAssoc, Nat.add_assoc]

theorem pastAppend (p : Progress) (lines more : List Bytes) (mid rest : Source) (first sink : Sink) :
    (p.past options lines mid first).past options more rest sink =
      p.past options (lines ++ more) rest sink := by
  induction lines generalizing p with
  | nil => simp [past, Options.skips]
  | cons line lines ih =>
    rw [← pastCons p line lines mid mid first first, ih, pastCons]
    rfl

theorem pastSkipped (p : Progress) {line : Bytes} (skipped : options.recordOf line = none)
    (rest : Source) (sink : Sink) :
    p.past options [line] rest sink =
      ⟨rest, sink, p.summary.countLine.countSkip, p.output, p.consumed + line.length,
        p.log.push (skippedEntry (p.summary.linesRead + 1))⟩ := by
  simp [past, Options.skips, Options.tally, Options.rendering, skipped, Summary.countSkipped]

theorem pastWritten (p : Progress) {line : Bytes} {record : Record}
    (found : options.recordOf line = some record) (rest : Source) (sink : Sink) :
    p.past options [line] rest sink =
      ⟨rest, sink, p.summary.countLine.countRecord, p.output ++ record.segments.flatten,
        p.consumed + line.length, p.log⟩ := by
  simp [past, Options.skips, Options.tally, Options.rendering, found, Summary.countWritten]
  exact Array.ext' (by simp)

theorem formatNext {line : Bytes} {rest : Source} {p q : Progress}
    (next : (p.consume line rest).format options line = .next q) :
    q = p.past options [line] rest q.sink := by
  unfold format at next
  split at next
  · rename_i skipped
    cases next
    exact (pastSkipped p skipped rest p.sink).symm
  · rename_i record found
    unfold emit at next
    dsimp only at next
    split at next
    · rename_i ok
      cases next
      rw [pastWritten p found, Sink.deliverComplete ok]
      rfl
    · contradiction

theorem formatFits {p : Progress} (usable : p.sink.Usable) {line : Bytes}
    (fits : p.sink.Fits (options.rendering line).length) (rest : Source) :
    (p.consume line rest).format options line =
      .next (p.past options [line] rest (p.sink.offered (options.rendering line).length)) := by
  unfold format
  cases found : options.recordOf line with
  | none =>
    have empty : options.rendering line = [] := by simp [Options.rendering, found]
    unfold Options.recordOf at found
    simp only [found]
    rw [pastSkipped p found, empty]
    rfl
  | some record =>
    have same : options.rendering line = record.segments.flatten := by
      simp [Options.rendering, found]
    rw [same] at fits ⊢
    have ok : (p.sink.deliver record.segments).fault = none := by
      rw [Sink.deliverSettles usable, Sink.settleFits fits]
    have after : (p.sink.deliver record.segments).sink =
        p.sink.offered record.segments.flatten.length := by
      rw [Sink.deliverSettles usable]
      rfl
    rw [pastWritten p found, ← after]
    unfold Options.recordOf at found
    simp only [found, emit, consume, ok, Sink.deliverComplete ok]

theorem formatExceeds {p : Progress} (usable : p.sink.Usable) {line : Bytes} {room : Nat}
    (limit : p.sink.room = some room) (exceeds : room < (options.rendering line).length)
    (rest : Source) :
    (p.consume line rest).format options line =
      .stop ⟨.error (.write p.sink.refusalFault), p.output.toList ++ (options.rendering line).take room,
        p.consumed + line.length, 0, rest, p.sink.offered (options.rendering line).length,
        p.log.toList⟩ := by
  unfold format
  cases found : options.recordOf line with
  | none => simp [Options.rendering, found] at exceeds
  | some record =>
    have same : options.rendering line = record.segments.flatten := by
      simp [Options.rendering, found]
    rw [same] at exceeds ⊢
    have settled := Sink.deliverSettles usable record.segments
    have taken := p.sink.settleAccepted record.segments.flatten
    rw [limit, Option.getD_some] at taken
    have failed := Sink.settleExceeds limit exceeds
    unfold Options.recordOf at found
    simp only [found, emit, consume, settled, taken, report]
    rw [failed]
    simp

theorem advanceLine {p : Progress} {line : Bytes} {rest : Source}
    (reading : p.source.nextLine = .line line rest) :
    p.advance options origin = (p.consume line rest).format options line := by
  simp [advance, reading]

theorem runNext {p q : Progress} (next : p.advance options origin = .next q) :
    p.run options origin = q.run options origin := by
  rw [run]
  split
  · rename_i other step
    cases next.symm.trans step
    rfl
  · rename_i r step
    cases next.symm.trans step

theorem runStop {p : Progress} {r : Report} (stop : p.advance options origin = .stop r) :
    p.run options origin = r := by
  rw [run]
  split
  · rename_i other step
    cases stop.symm.trans step
  · rename_i other step
    cases stop.symm.trans step
    rfl

inductive Step.Alike (R : Progress → Progress → Prop) (S : Report → Report → Prop) :
    Step → Step → Prop where
  | next {p q : Progress} (related : R p q) : Alike R S (.next p) (.next q)
  | stop {r t : Report} (related : S r t) : Alike R S (.stop r) (.stop t)

/-- A relation that every pair of steps keeps holds of what two runs end in. A pair may
instead settle what the runs end in at once. -/
theorem runRelated (path : Bytes) {R : Progress → Progress → Prop} {S : Report → Report → Prop}
    (step : ∀ ⦃p q⦄, R p q → S (p.run options origin) (q.run options path) ∨
      Step.Alike R S (p.advance options origin) (q.advance options path))
    {p q : Progress} (start : R p q) : S (p.run options origin) (q.run options path) := by
  induction p using run.induct options origin generalizing q with
  | case1 p further next ih =>
    rcases step start with known | alike
    · exact known
    · rw [next] at alike
      generalize moved : q.advance options path = other at alike
      cases alike with
      | next related =>
        rw [runNext next, runNext moved]
        exact ih related
  | case2 p r stop =>
    rcases step start with known | alike
    · exact known
    · rw [stop] at alike
      generalize moved : q.advance options path = other at alike
      cases alike with
      | stop related =>
        rw [runStop stop, runStop moved]
        exact related

theorem runMapped {path : Bytes} {f : Progress → Progress} {g : Report → Report}
    (step : ∀ p, (f p).advance options path = (p.advance options origin).map f g) (p : Progress) :
    (f p).run options path = g (p.run options origin) := by
  refine runRelated path (R := fun p q => q = f p) (S := fun r t => t = g r) ?_ rfl
  rintro p q rfl
  rw [step]
  cases p.advance options origin with
  | next p => exact .inr (.next rfl)
  | stop r => exact .inr (.stop rfl)

inductive Reached (options : Options) (origin : Bytes) (start : Progress) : Progress → Prop where
  | start : Reached options origin start start
  | next {p q : Progress} (before : Reached options origin start p)
      (step : p.advance options origin = .next q) : Reached options origin start q

theorem reachedRun {start p : Progress} (reached : Reached options origin start p) :
    p.run options origin = start.run options origin := by
  induction reached with
  | start => rfl
  | next before step ih => rw [← ih, runNext step]

theorem runReaches (options : Options) (origin : Bytes) (p : Progress) :
    ∃ last, Reached options origin p last ∧
      last.advance options origin = .stop (p.run options origin) := by
  refine runRelated origin (R := fun q same => q = same ∧ Reached options origin p q)
    (S := fun r _ => ∃ last, Reached options origin p last ∧ last.advance options origin = .stop r)
    ?_ ⟨rfl, .start⟩
  rintro q same ⟨rfl, reached⟩
  cases step : q.advance options origin with
  | next further => exact .inr (.next ⟨rfl, .next reached step⟩)
  | stop r => exact .inr (.stop ⟨q, reached, step⟩)

theorem reachedPast {p q : Progress} (reached : Reached options origin p q) :
    ∃ lines, p.source.Yields lines q.source ∧ q = p.past options lines q.source q.sink := by
  induction reached with
  | start => exact ⟨[], .nil _, p.pastNothing.symm⟩
  | @next mid q before step ih =>
    obtain ⟨lines, yields, same⟩ := ih
    cases reading : mid.source.nextLine with
    | finished rest => simp [advance, reading] at step
    | failed cause lost rest => simp [advance, reading] at step
    | line line rest =>
      have passed := formatNext ((advanceLine reading).symm.trans step)
      have place : q.source = rest := by
        rw [passed]
        rfl
      rw [same, pastAppend] at passed
      exact ⟨lines ++ [line], place ▸ Source.yieldsJoin yields (.cons reading (.nil _)),
        place ▸ passed⟩

theorem runFinished (options : Options) (origin : Bytes) (p : Progress) {rest : Source}
    (reading : p.source.nextLine = .finished rest) :
    p.run options origin = (p.consume [] rest).finish :=
  runStop (by simp [advance, reading])

theorem runFailed (options : Options) (origin : Bytes) (p : Progress) {cause : Fault}
    {lost : Bytes} {rest : Source} (reading : p.source.nextLine = .failed cause lost rest) :
    p.run options origin = (p.consume lost rest).report (.error (.read origin cause)) 0 :=
  runStop (by simp [advance, reading])

theorem endedOutput (options : Options) (origin : Bytes) (p : Progress) (ended : p.source.Ended) :
    (p.run options origin).output = p.output.toList := by
  cases reading : p.source.nextLine with
  | line line rest => exact absurd reading (ended line rest)
  | finished rest =>
    rw [runFinished options origin p reading]
    unfold finish
    split <;> rfl
  | failed cause lost rest =>
    rw [runFailed options origin p reading]
    rfl

theorem runPast (options : Options) (origin : Bytes) (p : Progress) {lines : List Bytes}
    {rest : Source} (yields : p.source.Yields lines rest) (usable : p.sink.Usable)
    (fits : p.sink.Fits (options.listing lines).length) :
    p.run options origin =
      (p.past options lines rest (p.sink.offered (options.listing lines).length)).run
        options origin := by
  induction lines generalizing p with
  | nil =>
    cases yields
    exact congrArg _ p.pastNothing.symm
  | cons line lines ih =>
    cases yields with
    | cons first next =>
      rw [Options.listingCons, List.length_append, Sink.fitsAdd] at fits
      rw [runNext ((advanceLine first).trans (formatFits usable fits.1 _)),
        ih _ next (Sink.offeredUsable usable _) fits.2, pastCons, Options.listingCons,
        List.length_append, ← Sink.offeredTwice]
      rfl

theorem runStops (options : Options) (origin : Bytes) (p : Progress) :
    ∃ lines rest sink, p.source.Yields lines rest ∧
      (p.past options lines rest sink).advance options origin = .stop (p.run options origin) := by
  obtain ⟨last, reached, stop⟩ := runReaches options origin p
  obtain ⟨lines, yields, same⟩ := reachedPast reached
  exact ⟨lines, last.source, last.sink, yields, same ▸ stop⟩

theorem formatStopped {line : Bytes} {p : Progress} {r : Report}
    (stop : p.format options line = .stop r) :
    r.source = p.source ∧ r.consumed = p.consumed ∧ r.CutShort := by
  unfold format at stop
  split at stop
  · contradiction
  · unfold emit at stop
    dsimp only at stop
    split at stop
    · contradiction
    · rename_i cause _
      cases stop
      exact ⟨rfl, rfl, rfl, cause, rfl⟩

theorem runOk (options : Options) (origin : Bytes) (p : Progress) {summary : Summary}
    (ok : (p.run options origin).outcome = .ok summary) :
    ∃ lines rest last, p.source.Yields lines rest ∧ rest.nextLine = .finished last ∧
      (p.run options origin).output = p.output.toList ++ options.listing lines := by
  obtain ⟨lines, rest, sink, yields, stops⟩ := runStops options origin p
  cases reading : rest.nextLine with
  | line line after =>
    have formatted := (advanceLine reading).symm.trans stops
    obtain ⟨_, _, _, cause, failed⟩ := formatStopped formatted
    rw [ok] at failed
    contradiction
  | failed cause lost after =>
    have failed := (runStop stops).symm.trans (runFailed options origin _ reading)
    rw [failed] at ok
    contradiction
  | finished last =>
    have ended := Source.finishedEnded reading
    refine ⟨lines, rest, last, yields, reading, ?_⟩
    rw [← runStop stops, endedOutput options origin _ ended]
    simp [past]

end Progress
end HexDump
