import HexDump.Proofs.Course
import Mathlib.Data.List.Forall2

/-! Annotations and what they cannot do. A line is known for one by a single byte, even
where it is no well-formed text; one may stand for another or for none at all, and
nothing but the counts of lines read and skipped can tell. -/
namespace HexDump

namespace Line

def colon : UInt8 := 0x3A

theorem annotatedColon (line : Bytes) :
    isAnnotated (Utf8.decode line) = line.contains colon := by
  rw [Bool.eq_iff_iff, annotatedIff, List.contains_iff_mem]
  exact Utf8.decodeMember (b := colon) (by decide)

inductive Exchanged : Bytes → Bytes → Prop where
  | same (line : Bytes) : Exchanged line line
  | annotations {line other : Bytes} (one : colon ∈ line) (two : colon ∈ other) :
      Exchanged line other

instance (line other : Bytes) : Decidable (Exchanged line other) :=
  decidable_of_iff (line = other ∨ colon ∈ line ∧ colon ∈ other)
    ⟨fun | .inl same => same ▸ .same line | .inr ⟨one, two⟩ => .annotations one two,
      fun | .same _ => .inl rfl | .annotations one two => .inr ⟨one, two⟩⟩

end Line

namespace Source

def unannotated (input : Bytes) : Bytes :=
  ((Pieces.lines newline input).filter (fun line => !line.contains Line.colon)).flatten

def annotations (input : Bytes) : List Bytes :=
  (Pieces.lines newline input).filter (·.contains Line.colon)

theorem unannotatedLines (input : Bytes) :
    Pieces.lines newline (unannotated input) =
      (Pieces.lines newline input).filter (fun line => !line.contains Line.colon) :=
  Pieces.linesSublist newline List.filter_sublist

end Source

namespace Options

variable (options : Options)

theorem recordAnnotated {line : Bytes} (annotated : Line.colon ∈ line) :
    options.recordOf line = none :=
  options.annotatedSkipped ((Line.annotatedColon line).trans (List.contains_iff_mem.mpr annotated))

theorem recordExchanged {line other : Bytes} (exchanged : Line.Exchanged line other) :
    options.recordOf line = options.recordOf other := by
  cases exchanged with
  | same => rfl
  | annotations one two => rw [options.recordAnnotated one, options.recordAnnotated two]

theorem recordsExchanged {lines others : List Bytes}
    (exchanged : List.Forall₂ Line.Exchanged lines others) :
    lines.map options.recordOf = others.map options.recordOf := by
  induction exchanged with
  | nil => rfl
  | cons first rest ih => rw [List.map_cons, List.map_cons, options.recordExchanged first, ih]

theorem streamUnannotated (input : Bytes) (sink : Sink) :
    (options.formatStream (.ofBytes input) sink).course =
      ((options.formatStream (.ofBytes (Source.unannotated input)) sink).course).behind
        (.words (Source.annotations input).length 0 (Source.annotations input).length) [] := by
  have dropped := Course.alongDropped options.recordOf (·.contains Line.colon)
    (fun line annotated => options.recordAnnotated (List.contains_iff_mem.mp annotated)) sink
    (Pieces.lines Source.newline input)
  rw [streamCourse, streamCourse, Source.unannotatedLines, dropped, List.countP_eq_length_filter]
  rfl

structure Relieved (deleted : Nat) (whole rest : Report) : Prop where
  output : rest.output = whole.output
  flushes : rest.flushes = whole.flushes
  sink : rest.sink = whole.sink
  errors : ∀ error, rest.outcome = .error error ↔ whole.outcome = .error error
  counts : ∀ less, rest.outcome = .ok less →
    whole.outcome = .ok ⟨less.linesRead + .ofNat deleted, less.recordsWritten,
      less.linesSkipped + .ofNat deleted⟩

theorem relievedCourse {deleted : Nat} {whole rest : Report}
    (course : whole.course = rest.course.behind (.words deleted 0 deleted) []) :
    Relieved deleted whole rest := by
  refine ⟨(congrArg Course.output course).symm, (congrArg Course.flushes course).symm,
    (congrArg Course.sink course).symm, ?_, ?_⟩
  · intro error
    have failed := rest.course.behindError (.words deleted 0 deleted) [] error
    rw [← course] at failed
    exact failed.symm
  · intro less ok
    refine (congrArg Course.outcome course).trans ?_
    simp only [Course.behind, Report.course, ok, Except.map]
    congr 1
    change Summary.add _ _ = _
    simp [Summary.add, Summary.words, UInt64.add_comm]

theorem streamRelieved (input : Bytes) (sink : Sink) :
    Relieved (Source.annotations input).length (options.formatStream (.ofBytes input) sink)
      (options.formatStream (.ofBytes (Source.unannotated input)) sink) :=
  relievedCourse (options.streamUnannotated input sink)

theorem relievedCounts {input : Bytes} {sink : Sink}
    (countable : (Pieces.lines Source.newline input).length < UInt64.size) {summary less : Summary}
    (whole : (options.formatStream (.ofBytes input) sink).outcome = .ok summary)
    (rest : (options.formatStream (.ofBytes (Source.unannotated input)) sink).outcome = .ok less) :
    summary.linesRead.toNat = less.linesRead.toNat + (Source.annotations input).length ∧
      summary.recordsWritten = less.recordsWritten ∧
      summary.linesSkipped.toNat = less.linesSkipped.toNat + (Source.annotations input).length := by
  have raised := (options.streamRelieved input sink).counts less rest
  rw [whole] at raised
  cases raised
  obtain ⟨skipped, every, rfl⟩ := options.streamCounts rest
  have lines := Pieces.filterLengths (·.contains Line.colon) (Pieces.lines Source.newline input)
  rw [← Source.annotations] at lines
  rw [Source.unannotatedLines] at every ⊢
  obtain ⟨read, _, others⟩ := Summary.wordsCountable (by omega) every
  exact ⟨Summary.wordRaised (by omega), rfl, Summary.wordRaised (by omega)⟩

theorem annotationsInert (sink : Sink) :
    (∀ {input other : Bytes},
      List.Forall₂ Line.Exchanged (Pieces.lines Source.newline input)
        (Pieces.lines Source.newline other) →
      (options.formatStream (.ofBytes input) sink).shown =
        (options.formatStream (.ofBytes other) sink).shown) ∧
    ∀ input : Bytes,
      let whole := options.formatStream (.ofBytes input) sink
      let rest := options.formatStream (.ofBytes (Source.unannotated input)) sink
      let deleted := (Source.annotations input).length
      Relieved deleted whole rest ∧
        ((Pieces.lines Source.newline input).length < UInt64.size →
          ∀ summary less, whole.outcome = .ok summary → rest.outcome = .ok less →
            summary.linesRead.toNat = less.linesRead.toNat + deleted ∧
            summary.recordsWritten = less.recordsWritten ∧
            summary.linesSkipped.toNat = less.linesSkipped.toNat + deleted) := by
  constructor
  · intro input other exchanged
    exact options.streamAlike (options.recordsExchanged exchanged) sink
  · intro input whole rest deleted
    exact ⟨options.streamRelieved input sink,
      fun countable summary less ok also => options.relievedCounts countable ok also⟩

theorem annotationsInertBroken :
    let input : Bytes := [0x41, 0x42, 0x0A, 0xE2, 0x82, 0x3A, 0x0A, 0x43, 0x0A, 0x3A]
    let other : Bytes := [0x41, 0x42, 0x0A, 0x3A, 0x0A, 0x43, 0x0A, 0x78, 0x3A, 0xFF, 0x20]
    let narrow : Sink := ⟨some 14, some ⟨.plain .brokenPipe, rfl⟩, some 3, 2, none⟩
    let wide : Sink := ⟨none, none, some 3, 2, none⟩
    List.Forall₂ Line.Exchanged (Pieces.lines Source.newline input)
        (Pieces.lines Source.newline other) ∧
      (Options.default.formatStream (.ofBytes input) narrow).shown =
        (Options.default.formatStream (.ofBytes other) narrow).shown ∧
      Source.unannotated input = Utf8.encode "AB\nC\n".toList ∧
      Relieved 2 (Options.default.formatStream (.ofBytes input) wide)
        (Options.default.formatStream (.ofBytes (Utf8.encode "AB\nC\n".toList)) wide) := by
  intro input other narrow wide
  have exchanged : List.Forall₂ Line.Exchanged (Pieces.lines Source.newline input)
      (Pieces.lines Source.newline other) := by
    decide +kernel
  have left : Source.unannotated input = Utf8.encode "AB\nC\n".toList := by decide +kernel
  have deleted : (Source.annotations input).length = 2 := by decide +kernel
  have relieved := ((annotationsInert Options.default wide).2 input).1
  rw [left, deleted] at relieved
  exact ⟨exchanged, (annotationsInert Options.default narrow).1 exchanged, left, relieved⟩

end Options
end HexDump
