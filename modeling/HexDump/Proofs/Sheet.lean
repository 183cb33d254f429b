import HexDump.Proofs.Course

/-! What a text comes to, said in characters alone. A sheet knows lines, entries
and counts and no bytes; formatting a text always succeeds and gives its sheet. -/
namespace HexDump

structure Sheet where
  listing : Text
  read : Nat
  written : Nat
  skipped : Nat
  deriving DecidableEq, Repr

namespace Sheet

def row (entries : List Text) : Text :=
  ['{', ' '] ++ [',', ' '].intercalate entries ++ [' ', '}', ';', '\n']

def summary (sheet : Sheet) : Summary :=
  ⟨.ofNat sheet.read, .ofNat sheet.written, .ofNat sheet.skipped⟩

theorem rowSegments (entries : List Text) :
    (Record.mk entries).segments.flatten = Utf8.encode (row entries) := by
  rw [Record.segmentsFlatten]
  simp [Record.text, Record.body, Record.opening, Record.closing, Record.comma, row]

end Sheet

namespace Options

def entries (options : Options) (line : Text) : Option (List Text) :=
  if ':' ∈ line then none
  else
    let parts := Line.tokens (Line.strip line)
    match options.strictness with
    | .preserve => some (parts.map (options.marker ++ ·))
    | .strict =>
      let present := parts.filter (· ≠ [])
      if present = [] then none else some (present.map (options.marker ++ ·))

def sheet (options : Options) (text : Text) : Sheet :=
  let lines := Pieces.lines '\n' text
  let rows := lines.filterMap options.entries
  ⟨rows.flatMap Sheet.row, lines.length, rows.length,
    (lines.filter (fun line => options.entries line = none)).length⟩

variable (options : Options)

theorem formatEntries (line : Text) :
    options.formatLine line = (options.entries line).map Record.mk := by
  unfold entries
  by_cases colon : ':' ∈ line
  · rw [if_pos colon]
    exact options.annotatedSkipped ((Line.annotatedIff line).mpr colon)
  · have plain : Line.isAnnotated line = false := (Line.unannotatedIff line).mpr colon
    rw [if_neg colon]
    obtain ⟨strictness, marker⟩ := options
    cases strictness with
    | preserve => exact preserveKeeps marker plain
    | strict =>
      have same : (Line.tokens (Line.strip line)).filter (fun token => !token.isEmpty) =
          (Line.tokens (Line.strip line)).filter (· ≠ []) := by
        refine List.filter_congr (fun token _ => ?_)
        cases token <;> rfl
      simp only [formatLine, plain, kept, same]
      cases (Line.tokens (Line.strip line)).filter (· ≠ []) <;> rfl

theorem renderingSheet (line : Bytes) :
    options.rendering line =
      Utf8.encode (((options.entries (Utf8.decode line)).map Sheet.row).getD []) := by
  unfold rendering recordOf
  rw [formatEntries]
  cases options.entries (Utf8.decode line) with
  | none => rfl
  | some entries => exact Sheet.rowSegments entries

theorem listingSheet (lines : List Bytes) :
    options.listing lines =
      Utf8.encode (((lines.map Utf8.decode).filterMap options.entries).flatMap Sheet.row) := by
  induction lines with
  | nil => rfl
  | cons line lines ih =>
    rw [listingCons, renderingSheet, ih, List.map_cons, List.filterMap_cons]
    cases options.entries (Utf8.decode line) with
    | none => rfl
    | some entries => exact (Utf8.encodeAppend _ _).symm

theorem countsSheet (lines : List Bytes) :
    options.counts lines =
      ⟨.ofNat lines.length, .ofNat ((lines.map Utf8.decode).filterMap options.entries).length,
        .ofNat ((lines.map Utf8.decode).filter (fun line => options.entries line = none)).length⟩ := by
  have each (line : Bytes) :
      options.recordOf line = (options.entries (Utf8.decode line)).map Record.mk :=
    options.formatEntries (Utf8.decode line)
  have written : (lines.filterMap options.recordOf).length =
      ((lines.map Utf8.decode).filterMap options.entries).length := by
    rw [List.length_filterMap_eq_countP, List.length_filterMap_eq_countP, List.countP_map]
    refine List.countP_congr (fun line _ => ?_)
    simp [each]
  have skipped : lines.countP (fun line => (options.recordOf line).isNone) =
      ((lines.map Utf8.decode).filter (fun line => options.entries line = none)).length := by
    rw [← List.countP_eq_length_filter, List.countP_map]
    refine List.countP_congr (fun line _ => ?_)
    simp [each]
  rw [options.countsWords, written, skipped, Summary.words]

theorem sheetBounded (text : Text) :
    (options.sheet text).written ≤ (options.sheet text).read ∧
      (options.sheet text).skipped ≤ (options.sheet text).read :=
  ⟨List.length_filterMap_le _ _, List.length_filter_le _ _⟩

theorem formatTextSheet (text : Text) :
    options.formatText text = .ok ((options.sheet text).listing, (options.sheet text).summary) ∧
      ((options.sheet text).read < UInt64.size →
        (options.sheet text).summary.linesRead.toNat = (options.sheet text).read ∧
        (options.sheet text).summary.recordsWritten.toNat = (options.sheet text).written ∧
        (options.sheet text).summary.linesSkipped.toNat = (options.sheet text).skipped) := by
  constructor
  · obtain ⟨output, formatted, _, listed⟩ := options.formatTextWritten text
    -- Cutting the bytes and decoding each line gives the lines of the text.
    have lines : (Pieces.lines Source.newline (Utf8.encode text)).map Utf8.decode =
        Pieces.lines '\n' text := by
      rw [← Utf8.decodeLines, Utf8.decodeEncode]
    have read : (Pieces.lines Source.newline (Utf8.encode text)).length =
        (Pieces.lines '\n' text).length := by
      rw [← lines, List.length_map]
    rw [listingSheet, lines] at listed
    have same : output = (options.sheet text).listing := by
      rw [← Utf8.decodeEncode output, ← listed, Utf8.decodeEncode]
      rfl
    rw [formatted, countsSheet, lines, read, same]
    rfl
  · intro countable
    obtain ⟨written, skipped⟩ := options.sheetBounded text
    exact ⟨UInt64.toNat_ofNat_of_lt countable,
      UInt64.toNat_ofNat_of_lt (Nat.lt_of_le_of_lt written countable),
      UInt64.toNat_ofNat_of_lt (Nat.lt_of_le_of_lt skipped countable)⟩

theorem formatTextSheetUnended :
    let text : Text := "00: AB\n\né  \x7D,\r\n😀".toList
    (Options.default.sheet text).read < UInt64.size ∧
      Options.default.formatText text =
        .ok ("\x7b 0x \x7d;\n\x7b 0xé, 0x, 0x\x7d, \x7d;\n\x7b 0x😀 \x7d;\n".toList, ⟨4, 3, 1⟩) ∧
      (Options.default.sheet text).summary.recordsWritten.toNat = 3 := by
  intro text
  have sheet : Options.default.sheet text =
      ⟨"\x7b 0x \x7d;\n\x7b 0xé, 0x, 0x\x7d, \x7d;\n\x7b 0x😀 \x7d;\n".toList, 4, 3, 1⟩ := by
    decide +kernel
  have countable : (Options.default.sheet text).read < UInt64.size := by
    rw [sheet]
    decide
  obtain ⟨formatted, counted⟩ := formatTextSheet Options.default text
  have written := (counted countable).2.1
  rw [sheet] at formatted written
  exact ⟨countable, formatted, by rw [sheet]; exact written⟩

end Options
end HexDump
