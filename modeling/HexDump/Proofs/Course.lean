import HexDump.Proofs.Resumption

/-! A run over an input that is there to its end, as a recursion on its lines. Of each
line only the record matters, if it has one: what decides nothing about the records
decides nothing about the run, whatever its sink does. -/
namespace HexDump

structure Course where
  outcome : Except FormatError Summary
  output : Bytes
  flushes : Nat
  sink : Sink

def Report.course (r : Report) : Course := ⟨r.outcome, r.output, r.flushes, r.sink⟩

theorem Report.courseShown {r other : Report} (same : r.course = other.course) :
    r.shown = other.shown :=
  congrArg (fun c : Course => (c.outcome, c.output, c.flushes)) same

namespace Summary

def words (read written skipped : Nat) : Summary := ⟨.ofNat read, .ofNat written, .ofNat skipped⟩

theorem wordsAdd (read written skipped more further others : Nat) :
    words read written skipped + words more further others =
      words (read + more) (written + further) (skipped + others) := by
  change add _ _ = _
  simp [add, words]

theorem wordRaised {word : UInt64} {n : Nat} (room : word.toNat + n < UInt64.size) :
    (word + .ofNat n).toNat = word.toNat + n := by
  rw [UInt64.toNat_add, UInt64.toNat_ofNat', Nat.add_mod_mod]
  exact Nat.mod_eq_of_lt room

theorem wordsCountable {read written skipped : Nat} (countable : read < UInt64.size)
    (all : written + skipped = read) :
    (words read written skipped).linesRead.toNat = read ∧
      (words read written skipped).recordsWritten.toNat = written ∧
      (words read written skipped).linesSkipped.toNat = skipped :=
  ⟨UInt64.toNat_ofNat_of_lt countable, UInt64.toNat_ofNat_of_lt (by omega),
    UInt64.toNat_ofNat_of_lt (by omega)⟩

end Summary

namespace Course

def behind (counted : Summary) (written : Bytes) (c : Course) : Course :=
  { c with outcome := c.outcome.map (counted + ·), output := written ++ c.output }

def along (sink : Sink) : List (Option Record) → Course
  | [] => ⟨sink.flush .empty, [], 1, sink⟩
  | none :: rest => (along sink rest).behind (.words 1 0 1) []
  | some record :: rest =>
    let delivery := sink.deliver record.segments
    match delivery.fault with
    | none => (along delivery.sink rest).behind (.words 1 1 0) record.segments.flatten
    | some cause =>
      ⟨.error (.write cause), delivery.accepted record.segments.flatten, 0, delivery.sink⟩

theorem behindTwice (c : Course) (counted further : Summary) (written more : Bytes) :
    (c.behind further more).behind counted written =
      c.behind (counted + further) (written ++ more) := by
  cases outcome : c.outcome <;> simp [behind, outcome, Except.map, Summary.addAssoc]

theorem behindNothing (c : Course) : c.behind .empty [] = c := by
  obtain ⟨outcome, output, flushes, sink⟩ := c
  cases outcome <;> simp [behind, Except.map]

theorem alongDelivered {sink : Sink} {record : Record}
    (ok : (sink.deliver record.segments).fault = none) (rest : List (Option Record)) :
    along sink (some record :: rest) =
      (along (sink.deliver record.segments).sink rest).behind (.words 1 1 0)
        record.segments.flatten := by
  simp only [along, ok]

theorem alongRefused {sink : Sink} {record : Record} {cause : Fault}
    (refused : (sink.deliver record.segments).fault = some cause) (rest : List (Option Record)) :
    along sink (some record :: rest) =
      ⟨.error (.write cause), (sink.deliver record.segments).accepted record.segments.flatten, 0,
        (sink.deliver record.segments).sink⟩ := by
  simp only [along, refused]

theorem behindOk {c : Course} {counted summary : Summary} {written : Bytes}
    (ok : (c.behind counted written).outcome = .ok summary) :
    ∃ further, c.outcome = .ok further ∧ summary = counted + further := by
  unfold behind at ok
  cases outcome : c.outcome with
  | error error => simp [outcome, Except.map] at ok
  | ok further =>
    rw [outcome] at ok
    exact ⟨further, rfl, (Except.ok.inj ok).symm⟩

theorem behindError (c : Course) (counted : Summary) (written : Bytes) (error : FormatError) :
    (c.behind counted written).outcome = .error error ↔ c.outcome = .error error := by
  cases outcome : c.outcome <;> simp [behind, outcome, Except.map]

theorem alongCounts {sink : Sink} {records : List (Option Record)} {summary : Summary}
    (ok : (along sink records).outcome = .ok summary) :
    summary = .words records.length (records.countP Option.isSome)
      (records.countP Option.isNone) := by
  induction records generalizing sink summary with
  | nil =>
    simp only [along, Sink.flush] at ok
    split at ok
    · exact (Except.ok.inj ok).symm
    · contradiction
  | cons first rest ih =>
    cases first with
    | none =>
      obtain ⟨further, counted, rfl⟩ := behindOk ok
      rw [ih counted, Summary.wordsAdd]
      simp [Nat.add_comm]
    | some record =>
      cases fault : (sink.deliver record.segments).fault with
      | some cause => simp [alongRefused fault] at ok
      | none =>
        rw [alongDelivered fault] at ok
        obtain ⟨further, counted, rfl⟩ := behindOk ok
        rw [ih counted, Summary.wordsAdd]
        simp [Nat.add_comm]

theorem everyCounted (records : List (Option Record)) :
    records.countP Option.isSome + records.countP Option.isNone = records.length := by
  induction records with
  | nil => rfl
  | cons record rest ih => cases record <;> simp <;> omega

theorem alongDropped {α : Type} (record : α → Option Record) (drops : α → Bool)
    (silent : ∀ a, drops a = true → record a = none) (sink : Sink) (l : List α) :
    along sink (l.map record) =
      (along sink ((l.filter (fun a => !drops a)).map record)).behind
        (.words (l.countP drops) 0 (l.countP drops)) [] := by
  -- The sink moves on only past a record, and those stand in both lists.
  induction l generalizing sink with
  | nil => exact (behindNothing _).symm
  | cons a rest ih =>
    cases dropped : drops a with
    | true =>
      simp [silent a dropped, dropped, along, ih sink, behindTwice, Summary.wordsAdd, Nat.add_comm]
    | false =>
      cases found : record a with
      | none =>
        simp [found, dropped, along, ih sink, behindTwice, Summary.wordsAdd, Nat.add_comm]
      | some r =>
        cases fault : (sink.deliver r.segments).fault with
        | some cause => simp [found, dropped, alongRefused fault, behind, Except.map]
        | none =>
          simp [found, dropped, alongDelivered fault, ih (sink.deliver r.segments).sink, behindTwice,
            Summary.wordsAdd, Nat.add_comm]

end Course

namespace Progress

variable {options : Options}

theorem formatDelivered (p : Progress) {line : Bytes} {record : Record}
    (found : options.recordOf line = some record)
    (ok : (p.sink.deliver record.segments).fault = none) (rest : Source) :
    (p.consume line rest).format options line =
      .next (p.past options [line] rest (p.sink.deliver record.segments).sink) := by
  rw [pastWritten p found]
  unfold Options.recordOf at found
  simp only [format, found, emit, consume, ok, Sink.deliverComplete ok]

theorem formatRefused (p : Progress) {line : Bytes} {record : Record}
    (found : options.recordOf line = some record) {cause : Fault}
    (refused : (p.sink.deliver record.segments).fault = some cause) (rest : Source) :
    (p.consume line rest).format options line =
      .stop ⟨.error (.write cause),
        p.output.toList ++ (p.sink.deliver record.segments).accepted record.segments.flatten,
        p.consumed + line.length, 0, rest, (p.sink.deliver record.segments).sink,
        p.log.toList⟩ := by
  unfold Options.recordOf at found
  simp [format, found, emit, consume, refused, report]

theorem finishCourse (p : Progress) :
    p.finish.course = (Course.along p.sink []).behind p.summary p.output.toList := by
  unfold finish
  simp only [Course.along, Sink.flush]
  cases p.sink.flushFault <;> simp [report, Report.course, Course.behind, Except.map]

theorem runCourse (options : Options) (origin : Bytes) (p : Progress) {lines : List Bytes}
    {rest last : Source} (yields : p.source.Yields lines rest)
    (finished : rest.nextLine = .finished last) :
    (p.run options origin).course =
      (Course.along p.sink (lines.map options.recordOf)).behind p.summary p.output.toList := by
  induction lines generalizing p with
  | nil =>
    cases yields
    rw [runFinished options origin p finished]
    exact finishCourse (p.consume [] last)
  | cons line lines ih =>
    cases yields with
    | @cons _ mid _ _ _ first next =>
      cases found : options.recordOf line with
      | none =>
        rw [runNext ((advanceLine first).trans (p.formatSilent found mid)), ih _ next,
          pastSkipped p found, Summary.countSkipped, List.map_cons, found]
        simp [Course.along, Course.behindTwice, Summary.words]
      | some record =>
        cases fault : (p.sink.deliver record.segments).fault with
        | none =>
          rw [runNext ((advanceLine first).trans (p.formatDelivered found fault mid)), ih _ next,
            pastWritten p found, Summary.countWritten, List.map_cons, found,
            Course.alongDelivered fault]
          simp [Course.behindTwice, Summary.words]
        | some cause =>
          rw [runStop ((advanceLine first).trans (p.formatRefused found fault mid)),
            List.map_cons, found, Course.alongRefused fault]
          rfl

end Progress

namespace Options

variable (options : Options)

theorem streamCourse (input : Bytes) (sink : Sink) :
    (options.formatStream (.ofBytes input) sink).course =
      Course.along sink ((Pieces.lines Source.newline input).map options.recordOf) := by
  obtain ⟨rest, yields, finished⟩ := Source.yieldsBytes input
  have course := Progress.runCourse options anonymous (.start (.ofBytes input) sink #[]) yields
    finished
  exact course.trans (Course.behindNothing _)

def records (options : Options) (input : Bytes) : List Record :=
  (Pieces.lines Source.newline input).filterMap options.recordOf

theorem countsWords (lines : List Bytes) :
    options.counts lines = .words lines.length (lines.filterMap options.recordOf).length
      (lines.countP (fun line => (options.recordOf line).isNone)) := by
  induction lines with
  | nil => rfl
  | cons line lines ih =>
    rw [countsCons, ih, tally]
    cases found : options.recordOf line with
    | none =>
      rw [show (⟨1, 0, 1⟩ : Summary) = .words 1 0 1 from rfl, Summary.wordsAdd]
      simp [found, Nat.add_comm]
    | some record =>
      rw [show (⟨1, 1, 0⟩ : Summary) = .words 1 1 0 from rfl, Summary.wordsAdd]
      simp [found, Nat.add_comm]

theorem everyLine (lines : List Bytes) :
    (lines.filterMap options.recordOf).length +
      lines.countP (fun line => (options.recordOf line).isNone) = lines.length := by
  have every := Course.everyCounted (lines.map options.recordOf)
  rw [List.countP_map, List.countP_map, List.length_map] at every
  rw [List.length_filterMap_eq_countP]
  exact every

theorem listingRecords (input : Bytes) :
    options.listing (Pieces.lines Source.newline input) =
      (options.records input).flatMap (·.segments.flatten) := by
  unfold records
  induction Pieces.lines Source.newline input with
  | nil => rfl
  | cons line rest ih =>
    rw [listingCons, ih, rendering, List.filterMap_cons]
    cases options.recordOf line <;> rfl

theorem streamCounts {input : Bytes} {sink : Sink} {summary : Summary}
    (ok : (options.formatStream (.ofBytes input) sink).outcome = .ok summary) :
    ∃ skipped, (options.records input).length + skipped =
        (Pieces.lines Source.newline input).length ∧
      summary = .words (Pieces.lines Source.newline input).length (options.records input).length
        skipped := by
  have outcome := congrArg Course.outcome (options.streamCourse input sink)
  have counted := Course.alongCounts (outcome.symm.trans ok)
  have every := Course.everyCounted ((Pieces.lines Source.newline input).map options.recordOf)
  have written : (options.records input).length =
      ((Pieces.lines Source.newline input).map options.recordOf).countP Option.isSome := by
    rw [records, List.length_filterMap_eq_countP, List.countP_map]
    rfl
  rw [List.length_map, ← written] at counted every
  exact ⟨_, every, counted⟩

theorem streamAlike {input other : Bytes}
    (same : (Pieces.lines Source.newline input).map options.recordOf =
      (Pieces.lines Source.newline other).map options.recordOf) (sink : Sink) :
    (options.formatStream (.ofBytes input) sink).shown =
      (options.formatStream (.ofBytes other) sink).shown := by
  apply Report.courseShown
  rw [streamCourse, streamCourse, same]

end Options
end HexDump
