import HexDump.Proofs.Core
import HexDump.Proofs.Course
import HexDump.Proofs.EndReport

/-! Padding around a line. It is ASCII, so no broken sequence next to it can swallow it,
and it holds no colon, so it may stand or be missing at both ends of any line without a
difference to the record. How the lines are ended is a case of that. -/
namespace HexDump

namespace Utf8

def characters (bytes : Bytes) : Text := bytes.map (fun b => Char.ofNat b.toNat)

theorem decodeBehind {front : Bytes} (ascii : ∀ b ∈ front, b < 0x80) (bytes : Bytes) :
    decode (front ++ bytes) = characters front ++ decode bytes := by
  induction front with
  | nil => rfl
  | cons b front ih =>
    have rest := ih (fun c member => ascii c (List.mem_cons_of_mem _ member))
    have first : decode (b :: (front ++ bytes)) =
        Char.ofNat b.toNat :: decode (front ++ bytes) :=
      decodeAscii (ascii b List.mem_cons_self) [] (front ++ bytes)
    rw [List.cons_append, first, rest]
    rfl

theorem decodeBefore (bytes : Bytes) {back : Bytes} (ascii : ∀ b ∈ back, b < 0x80) :
    decode (bytes ++ back) = decode bytes ++ characters back := by
  cases back with
  | nil => simp [characters]
  | cons b back =>
    have rest := decodeBehind (fun c member => ascii c (List.mem_cons_of_mem _ member)) []
    rw [List.append_nil] at rest
    rw [decodeAscii (ascii b List.mem_cons_self), rest]
    simp [characters, decode, Decoder.start, Decoder.finish]

end Utf8

namespace Line

def paddingBytes : Bytes := [0x20, 0x09, 0x0B, 0x0C, 0x0D, 0x00]

theorem paddingAscii : ∀ b ∈ paddingBytes, b < 0x80 := by decide +kernel

theorem paddingDecoded : ∀ b ∈ paddingBytes, isPadding (Char.ofNat b.toNat) = true := by
  decide +kernel

structure Padded where
  before : Bytes
  content : Bytes
  after : Bytes
  blankBefore : ∀ b ∈ before, b ∈ paddingBytes := by decide +kernel
  stopless : Source.newline ∉ content := by decide +kernel
  blankAfter : ∀ b ∈ after, b ∈ paddingBytes := by decide +kernel

namespace Padded

def bytes (line : Padded) : Bytes := line.before ++ line.content ++ line.after

theorem bytesStopless (line : Padded) : Source.newline ∉ line.bytes := by
  have other : Source.newline ∉ paddingBytes := by decide
  simp only [bytes, List.mem_append, not_or]
  exact ⟨⟨fun member => other (line.blankBefore _ member), line.stopless⟩,
    fun member => other (line.blankAfter _ member)⟩

theorem decodeParts (line : Padded) :
    Utf8.decode line.bytes =
      Utf8.characters line.before ++ Utf8.decode line.content ++ Utf8.characters line.after := by
  unfold bytes
  rw [Utf8.decodeBefore _ (fun b member => paddingAscii b (line.blankAfter b member)),
    Utf8.decodeBehind (fun b member => paddingAscii b (line.blankBefore b member))]

end Padded

theorem charactersPadding {bytes : Bytes} (blank : ∀ b ∈ bytes, b ∈ paddingBytes) :
    ∀ c ∈ Utf8.characters bytes, isPadding c = true := by
  intro c member
  obtain ⟨b, inside, rfl⟩ := List.mem_map.mp member
  exact paddingDecoded b (blank b inside)

end Line

namespace Source

def written (lines : List Bytes) : Bytes := lines.flatMap (· ++ [newline])

theorem writtenCons (line : Bytes) (lines : List Bytes) :
    written (line :: lines) = line ++ newline :: written lines := by
  simp [written]

theorem writtenLines {lines : List Bytes} (stopless : ∀ line ∈ lines, newline ∉ line)
    (more : Bytes) :
    Pieces.lines newline (written lines ++ more) =
      lines.map (· ++ [newline]) ++ Pieces.lines newline more := by
  induction lines with
  | nil => rfl
  | cons line lines ih =>
    have first := stopless line List.mem_cons_self
    have rest := ih (fun line member => stopless line (List.mem_cons_of_mem _ member))
    rw [writtenCons, List.append_assoc, List.cons_append, Pieces.linesCut _ first, rest]
    rfl

end Source

namespace Options

variable (options : Options)

theorem formatPadded {before after : Text} (front : ∀ c ∈ before, Line.isPadding c = true)
    (back : ∀ c ∈ after, Line.isPadding c = true) (raw : Text) :
    options.formatLine (before ++ raw ++ after) = options.formatLine raw := by
  have annotated := Line.annotatedPadded front back raw
  have core : Line.strip (before ++ raw ++ after) = Line.strip raw :=
    (Pieces.trimBack back _).trans (Pieces.trimFront front raw)
  simp only [formatLine, annotated, core]

theorem recordPadded (line : Line.Padded) :
    options.recordOf line.bytes = options.recordOf line.content := by
  unfold recordOf
  rw [line.decodeParts]
  exact options.formatPadded (Line.charactersPadding line.blankBefore)
    (Line.charactersPadding line.blankAfter) _

theorem recordsEnded (lines : List Bytes) :
    (lines.map (· ++ [Source.newline])).map options.recordOf = lines.map options.recordOf := by
  rw [List.map_map]
  exact List.map_congr_left (fun line _ => options.recordEnded line)

theorem recordsWritten {lines : List Bytes} (stopless : ∀ line ∈ lines, Source.newline ∉ line) :
    (Pieces.lines Source.newline (Source.written lines)).map options.recordOf =
      lines.map options.recordOf := by
  have cut := Source.writtenLines stopless []
  rw [List.append_nil, Pieces.linesNil, List.append_nil] at cut
  rw [cut, recordsEnded]

theorem recordsUnended {lines : List Bytes} (stopless : ∀ line ∈ lines, Source.newline ∉ line)
    (some : ∀ last ∈ lines.getLast?, last ≠ []) :
    (Pieces.lines Source.newline (Source.written lines).dropLast).map options.recordOf =
      lines.map options.recordOf := by
  rcases List.eq_nil_or_concat lines with rfl | ⟨front, last, rfl⟩
  · rfl
  · rw [List.concat_eq_append] at stopless some ⊢
    have fresh : ∀ line ∈ front, Source.newline ∉ line :=
      fun line member => stopless line (by simp [member])
    have clear : Source.newline ∉ last := stopless last (by simp)
    have unended : (Source.written (front ++ [last])).dropLast = Source.written front ++ last := by
      simp [Source.written, ← List.append_assoc]
    rw [unended, Source.writtenLines fresh, Pieces.linesOpen _ clear (some last (by simp)),
      List.map_append, recordsEnded, ← List.map_append]

theorem paddingInert (sink : Sink) :
    (∀ lines : List Line.Padded,
      let plain := Source.written (lines.map (·.content))
      let padded := Source.written (lines.map (·.bytes))
      (options.formatStream (.ofBytes padded) sink).shown =
          (options.formatStream (.ofBytes plain) sink).shown ∧
        ((∀ last ∈ lines.getLast?, last.bytes ≠ []) →
          (options.formatStream (.ofBytes padded.dropLast) sink).shown =
            (options.formatStream (.ofBytes plain) sink).shown)) ∧
    ∀ before raw after : Text, (∀ c ∈ before, Line.isPadding c = true) →
      (∀ c ∈ after, Line.isPadding c = true) →
        options.formatLine (before ++ raw ++ after) = options.formatLine raw := by
  refine ⟨?_, fun before raw after front back => options.formatPadded front back raw⟩
  intro lines plain padded
  have records : (Pieces.lines Source.newline plain).map options.recordOf =
      (lines.map (·.bytes)).map options.recordOf := by
    have alike : lines.map (fun line => options.recordOf line.bytes) =
        lines.map (fun line => options.recordOf line.content) :=
      List.map_congr_left (fun line _ => options.recordPadded line)
    rw [options.recordsWritten (by simp [Line.Padded.stopless]), List.map_map, List.map_map]
    exact alike.symm
  have stopless : ∀ line ∈ lines.map (·.bytes), Source.newline ∉ line := by
    simp [Line.Padded.bytesStopless]
  refine ⟨options.streamAlike ((options.recordsWritten stopless).trans records.symm) sink, ?_⟩
  intro some
  have unended := options.recordsUnended stopless (by simpa using some)
  exact options.streamAlike (unended.trans records.symm) sink

theorem paddingInertBroken :
    let broken : Line.Padded := .mk [0x20, 0x09] [0x41, 0xE2, 0x82] [0x0D]
    let blank : Line.Padded := .mk [0x0B] [] [0x00, 0x0C]
    let annotation : Line.Padded := .mk [0x0D] [0x3A, 0x82] [0x20]
    let last : Line.Padded := .mk [] [0xF0, 0x20, 0x42] [0x20]
    let lines := [broken, blank, annotation, last]
    let plain := Source.written (lines.map (·.content))
    let padded := Source.written (lines.map (·.bytes))
    let sink : Sink := ⟨some 40, none, some 3, 2, none⟩
    last.bytes ≠ [] ∧
      (Options.strict.formatStream (.ofBytes padded.dropLast) sink).shown =
        (Options.strict.formatStream (.ofBytes plain) sink).shown ∧
      Line.isPadding '\n' = true ∧
      Options.default.formatLine (['\t'] ++ ['A', ' ', ' ', 'B'] ++ ['\r', '\n']) =
        Options.default.formatLine ['A', ' ', ' ', 'B'] := by
  intro broken blank annotation last lines plain padded sink
  have some : ∀ line ∈ lines.getLast?, line.bytes ≠ [] := by decide
  have padding : Line.isPadding '\n' = true := by decide
  have front : ∀ c ∈ ['\t'], Line.isPadding c = true := by simp [Line.isPadding]
  have back : ∀ c ∈ ['\r', '\n'], Line.isPadding c = true := by simp [Line.isPadding]
  exact ⟨by decide, ((paddingInert Options.strict sink).1 lines).2 some, padding,
    (paddingInert Options.default sink).2 _ _ _ front back⟩

end Options
end HexDump
