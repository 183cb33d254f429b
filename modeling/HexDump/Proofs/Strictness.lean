import HexDump.Proofs.Padding
import HexDump.Proofs.ReadBack

/-! Strict formatting against preserving formatting. What the one drops before it marks
the tokens, the other writes as an entry that is nothing but the marker; taking those
entries out of its records, and the records that have no other, gives the strict ones. -/
namespace HexDump

namespace Pieces

variable {α : Type}

theorem splitHead [DecidableEq α] {separator a : α} (other : a ≠ separator) (l : List α) :
    ∃ piece more, split separator (a :: l) = (a :: piece) :: more := by
  rw [splitCons, if_neg other]
  cases split separator l with
  | nil => exact ⟨[], [], rfl⟩
  | cons piece more => exact ⟨piece, more, rfl⟩

theorem splitFirst [DecidableEq α] {separator : α} {l : List α} (nonempty : l ≠ [])
    (first : l.head? ≠ some separator) : ∃ piece ∈ (split separator l).head?, piece ≠ [] := by
  cases l with
  | nil => contradiction
  | cons a rest =>
    have other : a ≠ separator := by simpa using first
    obtain ⟨piece, more, pieces⟩ := splitHead other rest
    exact ⟨a :: piece, by rw [pieces]; rfl, List.cons_ne_nil a piece⟩

end Pieces

namespace Line

theorem tokensPadding {line : Text} (padding : ∀ c ∈ line, isPadding c = true) :
    tokens (strip line) = [[]] := by
  have core : strip line = [] := Pieces.trimNothing.mpr padding
  rw [core]
  rfl

theorem tokensBlank (line : Text) :
    (∀ token ∈ tokens (strip line), token = []) ↔ ∀ c ∈ line, isPadding c = true := by
  constructor
  · intro empty
    by_contra padded
    have core : strip line ≠ [] := mt Pieces.trimNothing.mp padded
    obtain ⟨token, first, nonempty⟩ := Pieces.splitFirst core (stripEnds line).1
    exact nonempty (empty token (List.mem_of_head? first))
  · intro padding
    simp [tokensPadding padding]

end Line

namespace Record

def pruned (marker : Text) (record : Record) : Record :=
  ⟨record.entries.filter (· ≠ marker)⟩

def isBare (marker : Text) (record : Record) : Bool := (record.pruned marker).isEmpty

theorem prunedTokens (marker : Text) (tokens : List Text) :
    (ofTokens marker tokens).pruned marker =
      ofTokens marker (tokens.filter (fun token => !token.isEmpty)) := by
  have same : ∀ token : Text, decide (marker ++ token ≠ marker) = !token.isEmpty := by
    intro token
    cases token <;> simp
  simp only [pruned, ofTokens, List.filter_map, Function.comp_def, same]

theorem bareTokens {marker : Text} {tokens : List Text} :
    (ofTokens marker tokens).isBare marker = true ↔ ∀ token ∈ tokens, token = [] := by
  unfold isBare
  rw [prunedTokens]
  simp [isEmpty, ofTokens]

end Record

namespace Options

theorem formatPlain (options : Options) {line : Text} (plain : Line.isAnnotated line = false) :
    options.formatLine line =
      (some (Record.ofTokens options.marker (options.kept (Line.tokens (Line.strip line))))).filter
        (fun record => !record.isEmpty) := by
  unfold formatLine
  rw [plain, if_neg Bool.false_ne_true, Option.filter_some]
  split <;> simp_all

theorem strictFormat (marker line : Text) :
    formatLine ⟨.strict, marker⟩ line =
      ((formatLine ⟨.preserve, marker⟩ line).map (Record.pruned marker)).filter
        (fun record => !record.isEmpty) := by
  cases annotated : Line.isAnnotated line with
  | true => rw [annotatedSkipped _ annotated, annotatedSkipped _ annotated]; rfl
  | false =>
    rw [formatPlain _ annotated, preserveKeeps marker annotated, Option.map_some,
      Record.prunedTokens]
    rfl

theorem recordsPruned (marker : Text) (input : Bytes) :
    records ⟨.strict, marker⟩ input =
      ((records ⟨.preserve, marker⟩ input).map (Record.pruned marker)).filter
        (fun record => !record.isEmpty) := by
  have each : recordOf ⟨.strict, marker⟩ = fun line =>
      ((recordOf ⟨.preserve, marker⟩ line).map (Record.pruned marker)).filter
        (fun record => !record.isEmpty) :=
    funext (fun line => strictFormat marker (Utf8.decode line))
  unfold records
  rw [List.map_filterMap, List.filter_filterMap, each]

theorem streamRecords (options : Options) (input : Bytes) {sink : Sink} (reliable : sink.Reliable) :
    ∃ skipped, (options.records input).length + skipped =
        (Pieces.lines Source.newline input).length ∧
      (options.formatStream (.ofBytes input) sink).outcome =
        .ok (.words (Pieces.lines Source.newline input).length (options.records input).length
          skipped) ∧
      (options.formatStream (.ofBytes input) sink).output =
        (options.records input).flatMap (·.segments.flatten) := by
  have answered := options.formatBytes input reliable
  have outcome := congrArg Report.Answer.outcome answered
  have output := congrArg Report.Answer.output answered
  obtain ⟨skipped, every, counted⟩ := options.streamCounts outcome
  exact ⟨skipped, every, outcome.trans (congrArg Except.ok counted),
    output.trans (options.listingRecords input)⟩

theorem bareRecord {marker : Text} {line : Bytes} {record : Record}
    (found : recordOf ⟨.preserve, marker⟩ line = some record) :
    (record.isBare marker = true ↔ ∀ c ∈ Utf8.decode line, Line.isPadding c = true) ∧
      (record.isBare marker = true → record.entries = [marker]) := by
  obtain ⟨rfl, -⟩ := formatRow _ found
  have bare : (Record.ofTokens marker (row ⟨.preserve, marker⟩ (Utf8.decode line))).isBare marker =
      true ↔ ∀ c ∈ Utf8.decode line, Line.isPadding c = true :=
    Record.bareTokens.trans (Line.tokensBlank (Utf8.decode line))
  refine ⟨bare, fun dropped => ?_⟩
  have single : Line.tokens (Line.strip (Utf8.decode line)) = [[]] :=
    Line.tokensPadding (bare.mp dropped)
  simp [Record.ofTokens, row, single]

theorem strictEntries {marker : Text} {input : Bytes} {record : Record}
    (member : record ∈ records ⟨.strict, marker⟩ input) :
    marker ∉ record.entries ∧ record.entries ≠ [] := by
  rw [recordsPruned, List.mem_filter] at member
  obtain ⟨pruned, some⟩ := member
  obtain ⟨whole, -, rfl⟩ := List.mem_map.mp pruned
  constructor
  · simp [Record.pruned]
  · simpa [Record.isEmpty] using some

theorem recordsDropped (marker : Text) (input : Bytes) :
    (records ⟨.strict, marker⟩ input).length +
        ((records ⟨.preserve, marker⟩ input).filter (·.isBare marker)).length =
      (records ⟨.preserve, marker⟩ input).length := by
  rw [recordsPruned, List.filter_map, List.length_map]
  exact Pieces.filterLengths (Record.isBare marker) _

theorem strictPrunes (marker : Text) (input : Bytes) {sink other : Sink} (reliable : sink.Reliable)
    (also : other.Reliable) :
    let preserved := formatStream ⟨.preserve, marker⟩ (.ofBytes input) sink
    let strict := formatStream ⟨.strict, marker⟩ (.ofBytes input) other
    let rows := records ⟨.preserve, marker⟩ input
    let strictRows := records ⟨.strict, marker⟩ input
    let read := (Pieces.lines Source.newline input).length
    let dropped := (rows.filter (·.isBare marker)).length
    preserved.output = rows.flatMap (·.segments.flatten) ∧
      strict.output = strictRows.flatMap (·.segments.flatten) ∧
      strictRows = (rows.map (Record.pruned marker)).filter (fun record => !record.isEmpty) ∧
      (∃ skipped, strictRows.length + dropped + skipped = read ∧
        preserved.outcome = .ok (.words read (strictRows.length + dropped) skipped) ∧
        strict.outcome = .ok (.words read strictRows.length (skipped + dropped))) ∧
      (∀ line record, recordOf ⟨.preserve, marker⟩ line = some record →
        (record.isBare marker = true ↔ ∀ c ∈ Utf8.decode line, Line.isPadding c = true) ∧
          (record.isBare marker = true → record.entries = [marker])) ∧
      ∀ record ∈ strictRows, marker ∉ record.entries ∧ record.entries ≠ [] := by
  intro preserved strict rows strictRows read dropped
  obtain ⟨skipped, every, outcome, output⟩ := streamRecords ⟨.preserve, marker⟩ input reliable
  obtain ⟨others, all, result, listed⟩ := streamRecords ⟨.strict, marker⟩ input also
  have parts : strictRows.length + dropped = rows.length := recordsDropped marker input
  have more : others = skipped + dropped := by
    have both : strictRows.length + others = rows.length + skipped := all.trans every.symm
    omega
  refine ⟨output, listed, recordsPruned marker input, ⟨skipped, ?_, ?_, more ▸ result⟩,
    fun line record found => bareRecord found, fun record member => strictEntries member⟩
  · rw [parts]
    exact every
  · rw [parts]
    exact outcome

theorem strictPrunesBlank :
    let marker : Text := ['A']
    let input : Bytes := Utf8.encode "A  B\n\n0:\n \t\x00\r\nA".toList
    let sink : Sink := ⟨none, none, some 2, 3, none⟩
    sink.Reliable ∧ Sink.unlimited.Reliable ∧
      (formatStream ⟨.strict, marker⟩ (.ofBytes input) .unlimited).output =
        Utf8.encode "\x7b AA, AB \x7d;\n\x7b AA \x7d;\n".toList ∧
      (formatStream ⟨.preserve, marker⟩ (.ofBytes input) sink).outcome = .ok ⟨5, 4, 1⟩ ∧
      (formatStream ⟨.strict, marker⟩ (.ofBytes input) .unlimited).outcome = .ok ⟨5, 2, 3⟩ := by
  intro marker input sink
  have reliable : sink.Reliable := ⟨by decide, rfl, rfl⟩
  have read : (Pieces.lines Source.newline input).length = 5 := by decide +kernel
  have strictRows : records ⟨.strict, marker⟩ input = [⟨["AA".toList, "AB".toList]⟩,
      ⟨["AA".toList]⟩] := by decide +kernel
  have dropped : ((records ⟨.preserve, marker⟩ input).filter (·.isBare marker)).length = 2 := by
    decide +kernel
  obtain ⟨-, listed, -, ⟨skipped, every, outcome, result⟩, -, -⟩ :=
    strictPrunes marker input reliable unlimitedReliable
  rw [strictRows, dropped, read] at every outcome result
  rw [strictRows] at listed
  have one : skipped = 1 := Nat.add_left_cancel every
  rw [one] at outcome result
  exact ⟨reliable, unlimitedReliable, listed, outcome, result⟩

end Options
end HexDump
