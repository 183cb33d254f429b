import HexDump.Proofs.Decoding
import HexDump.Proofs.Steady
import HexDump.Proofs.Truncation

/-! Lines of bytes against lines of text. A newline is one byte that no longer
sequence contains, so cutting and decoding can change places, and a run over bytes
comes to what a run over their whole decoding comes to. -/
namespace HexDump

namespace Utf8

theorem decodeNewline (front after : Bytes) :
    decode (front ++ Source.newline :: after) = decode front ++ '\n' :: decode after :=
  decodeAscii (by decide) front after

theorem decodeStopless {bytes : Bytes} (absent : Source.newline ∉ bytes) :
    '\n' ∉ decode bytes :=
  mt (decodeMember (b := Source.newline) (by decide)).mp absent

theorem decodeLines (bytes : Bytes) :
    Pieces.lines '\n' (decode bytes) = (Pieces.lines Source.newline bytes).map decode := by
  induction bytes using Pieces.cutInduction Source.newline with
  | nil => rfl
  | last bytes some absent =>
    rw [Pieces.linesOpen _ absent some,
      Pieces.linesOpen _ (decodeStopless absent) (decodeNonempty some)]
    rfl
  | cut front after absent ih =>
    have line : decode front ++ ['\n'] = decode (front ++ [Source.newline]) :=
      (decodeNewline front []).symm
    rw [decodeNewline, Pieces.linesCut _ (decodeStopless absent), Pieces.linesCut _ absent,
      List.map_cons, line, ih]

end Utf8

namespace Source

theorem yieldsBytes (bytes : Bytes) :
    ∃ rest, (ofBytes bytes).Yields (Pieces.lines newline bytes) rest ∧
      rest.nextLine = .finished [] := by
  by_cases empty : bytes = []
  · rw [empty]
    exact ⟨ofBytes [], .nil _, rfl⟩
  · have yielded := yieldsToEnd (show (ofBytes bytes).Steady from .data empty .nil)
    rwa [show content (ofBytes bytes) = bytes from List.append_nil bytes] at yielded

end Source

structure Sink.Reliable (sink : Sink) : Prop where
  usable : sink.Usable
  boundless : sink.room = none
  flushes : sink.flushFault = none

namespace Options

variable (options : Options)

theorem formatReliable {source rest last : Source} {lines : List Bytes} {sink : Sink}
    (reliable : sink.Reliable) (yields : source.Yields lines rest)
    (finished : rest.nextLine = .finished last) :
    (options.formatStream source sink).answer =
      ⟨.ok (options.counts lines), options.listing lines, lines.flatten.length, 1⟩ := by
  rw [options.runWhole yields finished reliable.usable (Sink.fitsUnlimited reliable.boundless _)]
  simp [Report.answer, Sink.flush, reliable.flushes]

theorem formatBytes (bytes : Bytes) {sink : Sink} (reliable : sink.Reliable) :
    (options.formatStream (.ofBytes bytes) sink).answer =
      ⟨.ok (options.counts (Pieces.lines Source.newline bytes)),
        options.listing (Pieces.lines Source.newline bytes), bytes.length, 1⟩ := by
  obtain ⟨rest, yields, finished⟩ := Source.yieldsBytes bytes
  have answered := options.formatReliable reliable yields finished
  rwa [Pieces.linesFlatten] at answered

theorem sameDecoded {lines more : List Bytes}
    (same : lines.map Utf8.decode = more.map Utf8.decode) :
    options.listing lines = options.listing more ∧ options.counts lines = options.counts more := by
  induction lines generalizing more with
  | nil =>
    cases more with
    | nil => exact ⟨rfl, rfl⟩
    | cons line more => simp at same
  | cons line lines ih =>
    cases more with
    | nil => simp at same
    | cons other more =>
      obtain ⟨first, others⟩ := List.cons.inj same
      obtain ⟨listed, counted⟩ := ih others
      have found : options.recordOf line = options.recordOf other :=
        congrArg options.formatLine first
      rw [listingCons, listingCons, countsCons, countsCons, listed, counted]
      simp [rendering, tally, found]

theorem renderingEncoded (line : Bytes) : ∃ text, options.rendering line = Utf8.encode text := by
  unfold rendering
  cases options.recordOf line with
  | none => exact ⟨[], rfl⟩
  | some record => exact ⟨record.text ++ ['\n'], record.segmentsFlatten⟩

theorem listingEncoded (lines : List Bytes) : ∃ text, options.listing lines = Utf8.encode text := by
  induction lines with
  | nil => exact ⟨[], rfl⟩
  | cons line lines ih =>
    obtain ⟨first, head⟩ := options.renderingEncoded line
    obtain ⟨rest, tail⟩ := ih
    exact ⟨first ++ rest, by rw [listingCons, head, tail, Utf8.encodeAppend]⟩

theorem outputEncoded (source : Source) {sink : Sink} (usable : sink.Usable)
    (boundless : sink.room = none) :
    ∃ text, (options.formatStream source sink).output = Utf8.encode text := by
  obtain ⟨lines, rest, yields, ended⟩ := source.yieldsAll
  have within := (options.runWithin yields ended usable (Sink.fitsUnlimited boundless _)).1
  have whole := options.boundlessOutput yields ended sink
  obtain ⟨text, listed⟩ := options.listingEncoded lines
  refine ⟨text, ?_⟩
  rw [show (options.formatStream source sink).output = _ from
    congrArg Report.Answer.output within, ← listed]
  exact whole

theorem unlimitedReliable : Sink.unlimited.Reliable := ⟨by decide, rfl, rfl⟩

theorem formatTextWritten (input : Text) :
    ∃ text, options.formatText input =
        .ok (text, options.counts (Pieces.lines Source.newline (Utf8.encode input))) ∧
      (options.formatStream (.ofBytes (Utf8.encode input)) .unlimited).output =
        Utf8.encode text ∧
      options.listing (Pieces.lines Source.newline (Utf8.encode input)) = Utf8.encode text := by
  have answered := options.formatBytes (Utf8.encode input) unlimitedReliable
  obtain ⟨text, listed⟩ := options.listingEncoded (Pieces.lines Source.newline (Utf8.encode input))
  have outcome := congrArg Report.Answer.outcome answered
  have output := congrArg Report.Answer.output answered
  simp only [Report.answer] at outcome output
  refine ⟨text, ?_, output.trans listed, listed⟩
  simp only [formatText, outcome, output, listed, Utf8.decodeEncode]
  rfl

theorem bytesAgreeWithText (bytes : Bytes) (sink : Sink) (reliable : sink.Reliable) :
    (∃ text summary,
      options.formatText (Utf8.decode bytes) = .ok (text, summary) ∧
      (options.formatStream (.ofBytes bytes) sink).outcome = .ok summary ∧
      (options.formatStream (.ofBytes bytes) sink).output = Utf8.encode text) ∧
    (∀ source, ∃ text, (options.formatStream source sink).output = Utf8.encode text) ∧
    (∀ input text summary, options.formatText input = .ok (text, summary) →
      (options.formatStream (.ofBytes (Utf8.encode input)) .unlimited).output =
        Utf8.encode text) := by
  refine ⟨?_, fun source => options.outputEncoded source reliable.usable reliable.boundless, ?_⟩
  · obtain ⟨text, formatted, _, listed⟩ := options.formatTextWritten (Utf8.decode bytes)
    have answered := options.formatBytes bytes reliable
    -- Both inputs have the same lines once these are decoded.
    have lines : (Pieces.lines Source.newline (Utf8.encode (Utf8.decode bytes))).map Utf8.decode =
        (Pieces.lines Source.newline bytes).map Utf8.decode := by
      rw [← Utf8.decodeLines, ← Utf8.decodeLines, Utf8.decodeEncode]
    obtain ⟨sameListing, sameCounts⟩ := options.sameDecoded lines
    rw [sameListing] at listed
    rw [sameCounts] at formatted
    exact ⟨text, _, formatted, congrArg Report.Answer.outcome answered,
      (congrArg Report.Answer.output answered).trans listed⟩
  · intro input text summary formatted
    obtain ⟨other, same, written, _⟩ := options.formatTextWritten input
    have equal : other = text := congrArg Prod.fst (Except.ok.inj (same.symm.trans formatted))
    rw [written, equal]

theorem bytesAgreeWithTextBroken :
    let bytes : Bytes := [0x41, 0xE2, 0x82, 0x0A, 0xFF, 0x20, 0x42, 0x0A, 0xF0, 0x9F]
    let sink : Sink := ⟨none, none, some 2, 3, none⟩
    sink.Reliable ∧
      ∃ text summary,
        Options.default.formatText (Utf8.decode bytes) = .ok (text, summary) ∧
        (Options.default.formatStream (.ofBytes bytes) sink).outcome = .ok summary ∧
        (Options.default.formatStream (.ofBytes bytes) sink).output = Utf8.encode text := by
  intro bytes sink
  have reliable : sink.Reliable := ⟨by decide, rfl, rfl⟩
  exact ⟨reliable, (bytesAgreeWithText Options.default bytes sink reliable).1⟩

end Options
end HexDump
