import HexDump.Proofs.Seam
import HexDump.Proofs.WholeText

/-! A report of the input's end that is not the last event. Behind an unfinished line
it stands for the missing newline; between two lines it ends the run, and whatever
comes behind it is left for the next one. -/
namespace HexDump

namespace Options

variable (options : Options)

theorem formatEnded (line : Text) :
    options.formatLine (line ++ ['\n']) = options.formatLine line := by
  have annotated : Line.isAnnotated (line ++ ['\n']) = Line.isAnnotated line := by
    simp [Line.isAnnotated]
  have core : Line.strip (line ++ ['\n']) = Line.strip line :=
    Pieces.trimPadded (by decide) line
  simp only [formatLine, annotated, core]

theorem recordEnded (line : Bytes) :
    options.recordOf (line ++ [Source.newline]) = options.recordOf line := by
  unfold recordOf
  rw [Utf8.decodeNewline line []]
  exact options.formatEnded _

end Options

namespace Source

theorem nextLineEnd {s : Source} (steady : s.Steady) (stopless : newline ∉ s.content)
    (after : Source) : (s ++ .data [] :: after).nextLine = settle s.content after :=
  collectSteady steady stopless [] (.data [] :: after)

theorem nextLineStop {s : Source} (steady : s.Steady) (stopless : newline ∉ s.content)
    (after : Source) :
    (s ++ .data [newline] :: after).nextLine = .line (s.content ++ [newline]) after := by
  have collected := collectSteady steady stopless [] (.data [newline] :: after)
  refine collected.trans ?_
  simp [collect, push]

inductive Tied (after : Source) : Nat → Source → Source → Prop where
  | same (s : Source) : Tied after 0 s s
  | apart {s : Source} (steady : s.Steady) (unfinished : ¬ Closed s.content) :
      Tied after 1 (s ++ .data [] :: after) (s ++ .data [newline] :: after)

inductive Followed (after : Source) : Nat → Source → Source → Prop where
  | whole {s : Source} (steady : s.Steady) (closed : Closed s.content) :
      Followed after 0 s (s ++ .data [] :: after)

def SameEnd (s t : Source) : Prop := s = t ∧ s.Ended

def EndsBefore (after s t : Source) : Prop :=
  s.nextLine = .finished [] ∧ t.nextLine = .finished after

end Source

namespace Progress

open Source (Tied Followed SameEnd EndsBefore)

variable (options : Options)

theorem tiedLockstep (after : Source) : Lockstep options SameEnd (Tied after) := by
  intro surplus s t tied
  cases tied with
  | same =>
    cases reading : s.nextLine with
    | line line mid =>
      exact .inr ⟨line, line, mid, mid, 0, 0, rfl, rfl, rfl, rfl, rfl, .same mid⟩
    | finished rest => exact .inl ⟨rfl, rfl, Source.finishedEnded reading⟩
    | failed cause lost rest => exact .inl ⟨rfl, rfl, by simp [Source.Ended, reading]⟩
  | @apart s steady unfinished =>
    right
    by_cases stop : Source.newline ∈ s.content
    · obtain ⟨front, behind, whole, clear⟩ := List.eq_append_cons_of_mem stop
      obtain ⟨rest, calm, content, cut⟩ := Source.collectSteadyCut steady whole clear
      have later : ¬ Source.Closed rest.content := by
        rwa [content, ← Source.closedCut, ← whole]
      exact ⟨_, _, _, _, 0, 1, cut [] _, cut [] _, rfl, rfl, rfl, .apart calm later⟩
    · have some : s.content ≠ [] := fun empty => unfinished (empty ▸ Source.closedNil)
      have line : (s ++ .data [] :: after).nextLine = .line s.content after :=
        (Source.nextLineEnd steady stop after).trans (if_neg some)
      exact ⟨s.content, s.content ++ [Source.newline], after, after, 1, 0, line,
        Source.nextLineStop steady stop after, (options.recordEnded _).symm, by simp, rfl,
        .same after⟩

theorem followedLockstep (after : Source) :
    Lockstep options (EndsBefore after) (Followed after) := by
  intro surplus s t followed
  cases followed with
  | whole steady closed =>
    rcases continuedLockstep options (.data [] :: after) (.whole steady closed) with
      ⟨none, alone, ended⟩ | ⟨line, other, mid, mid', extra, left, one, two, same, longer, none, next⟩
    · exact .inl ⟨none, alone, ended⟩
    · cases next with
      | whole calm later =>
        exact .inr ⟨line, other, _, _, extra, 0, one, two, same, longer, none, .whole calm later⟩

theorem endedMoved (origin : Bytes) (p : Progress) (ended : p.source.Ended) (ahead : Nat) :
    (p.moved p.source (p.consumed + ahead)).run options origin =
      (p.run options origin).moved (p.run options origin).source
        ((p.run options origin).consumed + ahead) := by
  have sameSource : (p.moved p.source (p.consumed + ahead)).source = p.source := rfl
  cases reading : p.source.nextLine with
  | line line rest => exact absurd reading (ended line rest)
  | finished rest =>
    rw [runFinished options origin p reading,
      runFinished options origin (p.moved p.source (p.consumed + ahead)) reading]
    rw [(finishKeeps _).1, (finishKeeps _).2]
    exact finishReread (fun _ => rest) (fun _ => p.consumed + ahead) (p.consume [] rest)
  | failed cause lost rest =>
    rw [runFailed options origin p reading,
      runFailed options origin (p.moved p.source (p.consumed + ahead)) reading]
    simp [consume, report, moved, reread, Report.moved, Report.reread, Nat.add_right_comm]

theorem runTied (origin : Bytes) (p : Progress) {after t : Source} {surplus : Nat}
    (tied : Tied after surplus p.source t) (ahead : Nat) :
    ∃ spent left t', surplus = spent + left ∧ Tied after left (p.run options origin).source t' ∧
      (p.moved t (p.consumed + ahead)).run options origin =
        (p.run options origin).moved t' ((p.run options origin).consumed + ahead + spent) := by
  rcases runLockstep (tiedLockstep options after) origin p tied ahead with
    ⟨spent, left, t', split, related, _, moved⟩ | ⟨q, t', ⟨rfl, ended⟩, one, two⟩
  · exact ⟨spent, left, t', split, related, moved⟩
  · refine ⟨surplus, 0, (q.run options origin).source, rfl, one ▸ .same _, ?_⟩
    rw [two, one, Nat.add_assoc, endedMoved options origin q ended, Nat.add_assoc]

theorem runFollowed (origin : Bytes) (p : Progress) {after t : Source}
    (followed : Followed after 0 p.source t) :
    ∃ place, (p.moved t p.consumed).run options origin =
        (p.run options origin).moved place (p.run options origin).consumed ∧
      (place = after ∨ (p.run options origin).CutShort ∧
        place = (p.run options origin).source ++ .data [] :: after) := by
  rcases runLockstep (followedLockstep options after) origin p followed 0 with
    ⟨spent, left, t', split, related, cut, moved⟩ | ⟨q, t', ⟨alone, ended⟩, one, two⟩
  · obtain ⟨rfl, rfl⟩ : spent = 0 ∧ left = 0 := by omega
    cases related with
    | whole steady closed => exact ⟨_, moved, .inr ⟨cut, rfl⟩⟩
  · have last : p.run options origin = (q.consume [] []).finish :=
      one.trans (runFinished options origin q alone)
    have stopped := runFinished options origin (q.moved t' q.consumed) ended
    refine ⟨after, (two.trans stopped).trans ?_, .inl rfl⟩
    rw [last, (finishKeeps _).2]
    exact finishReread (fun _ => after) (fun _ => q.consumed) (q.consume [] [])

end Progress

namespace Report

def taken (reports : List Report) : Nat :=
  reports.foldr (fun r further => r.consumed + further) 0

theorem takenCons (r : Report) (reports : List Report) :
    taken (r :: reports) = r.consumed + taken reports := rfl

end Report

namespace Options

variable (options : Options)

theorem streamsTied (runs : Nat) {after s t : Source} {surplus : Nat}
    (tied : Source.Tied after surplus s t) (sink : Sink) :
    (options.formatStreams runs t sink).map Report.shown =
        (options.formatStreams runs s sink).map Report.shown ∧
      ∃ spent left, surplus = spent + left ∧
        Report.taken (options.formatStreams runs t sink) =
          Report.taken (options.formatStreams runs s sink) + spent := by
  induction runs generalizing surplus s t sink with
  | zero => exact ⟨rfl, 0, surplus, (Nat.zero_add _).symm, rfl⟩
  | succ runs ih =>
    obtain ⟨spent, left, t', rfl, further, moved⟩ :=
      Progress.runTied options anonymous (.start s sink #[]) tied 0
    have moved : options.formatStream t sink = (options.formatStream s sink).moved t'
        ((options.formatStream s sink).consumed + spent) := moved
    have further : Source.Tied after left (options.formatStream s sink).source t' := further
    obtain ⟨shown, more, rest, rfl, taken⟩ := ih further (options.formatStream s sink).sink
    simp only [formatStreams, moved, List.map_cons, Report.takenCons, Report.movedSource,
      Report.movedSink, Report.movedShown, Report.movedConsumed, shown, taken]
    exact ⟨trivial, spent + more, rest, by omega, by omega⟩

theorem endReportReads {before : Source} (steady : before.Steady) (after : Source) (sink : Sink)
    (runs : Nat) :
    (¬ Source.Closed before.content →
      (options.formatStreams runs (before ++ .data [] :: after) sink).map Report.shown =
          (options.formatStreams runs (before ++ .data [Source.newline] :: after) sink).map
            Report.shown ∧
        Report.taken (options.formatStreams runs (before ++ .data [] :: after) sink) ≤
          Report.taken
            (options.formatStreams runs (before ++ .data [Source.newline] :: after) sink) ∧
        Report.taken
            (options.formatStreams runs (before ++ .data [Source.newline] :: after) sink) ≤
          Report.taken (options.formatStreams runs (before ++ .data [] :: after) sink) + 1) ∧
    (Source.Closed before.content →
      let first := options.formatStream (before ++ .data [] :: after) sink
      first.answer = (options.formatStream before sink).answer ∧
        first.sink = (options.formatStream before sink).sink ∧
        after <:+ first.source ∧
        (¬ first.CutShort →
          options.formatStreams (runs + 1) (before ++ .data [] :: after) sink =
            first :: options.formatStreams runs after first.sink)) := by
  constructor
  · intro unfinished
    obtain ⟨shown, spent, left, split, taken⟩ :=
      options.streamsTied runs (show Source.Tied after 1 _ _ from .apart steady unfinished) sink
    exact ⟨shown.symm, by omega, by omega⟩
  · intro closed first
    obtain ⟨place, moved, behind⟩ := Progress.runFollowed options anonymous
      (.start before sink #[]) (show Source.Followed after 0 _ _ from .whole steady closed)
    have moved : first = (options.formatStream before sink).moved place
        (options.formatStream before sink).consumed := moved
    have ended : after <:+ place := by
      rcases behind with rfl | ⟨_, rfl⟩
      · exact List.suffix_refl _
      · exact (List.suffix_cons _ _).trans (List.suffix_append _ _)
    refine ⟨moved ▸ rfl, moved ▸ rfl, moved ▸ ended, fun through => ?_⟩
    have next : place = after := by
      rcases behind with same | ⟨cut, _⟩
      · exact same
      · exact absurd (moved ▸ cut) through
    have source : first.source = after := (congrArg Report.source moved).trans next
    simp only [formatStreams]
    rw [show options.formatStream (before ++ .data [] :: after) sink = first from rfl, source]

theorem endReportReadsBoth :
    let cut : Source := [.data (Utf8.encode "A B\nC".toList), .fault (.plain .interrupted),
      .data [0xC3]]
    let whole : Source := [.data [0x41, 0x42], .fault (.plain .interrupted), .data [0x0A]]
    let after : Source := [.data [0x44, 0x0A], .fault (.plain .other), .data [0x45]]
    let sink : Sink := ⟨some 40, none, some 2, 1, some (.plain .timedOut)⟩
    let first := Options.default.formatStream (whole ++ .data [] :: after) sink
    cut.Steady ∧ ¬ Source.Closed cut.content ∧
      (Options.default.formatStreams 3 (cut ++ .data [] :: after) sink).map Report.shown =
        (Options.default.formatStreams 3 (cut ++ .data [Source.newline] :: after) sink).map
          Report.shown ∧
      whole.Steady ∧ Source.Closed whole.content ∧ ¬ first.CutShort ∧
      Options.default.formatStreams 3 (whole ++ .data [] :: after) sink =
        first :: Options.default.formatStreams 2 after first.sink := by
  intro cut whole after sink first
  have steady : cut.Steady := by decide +kernel
  have unfinished : ¬ Source.Closed cut.content := by decide +kernel
  have calm : whole.Steady := by decide +kernel
  have closed : Source.Closed whole.content := by decide +kernel
  have flushed : first.flushes = 1 := by decide +kernel
  have through : ¬ first.CutShort := by simp [Report.CutShort, flushed]
  exact ⟨steady, unfinished,
    ((endReportReads Options.default steady after sink 3).1 unfinished).1, calm, closed, through,
    ((endReportReads Options.default calm after sink 2).2 closed).2.2.2 through⟩

end Options
end HexDump
