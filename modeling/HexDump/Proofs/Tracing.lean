import HexDump.Proofs.Logging
import HexDump.Proofs.Skipping
import HexDump.Proofs.Tokens

/-! What the log tells when nothing in it is held back: the opening of the file, the number of
each line that is skipped, and the counts. From the numbers one knows which lines have no
record, so one may take these lines out and find every other line formatted as before. -/
namespace HexDump

theorem decimalStopless (n : Nat) : '\n' ∉ decimal n := by
  intro member
  have inside : '\n' ∈ Nat.toDigits 10 n := member
  have digit := Nat.isDigit_of_mem_toDigits (by decide) (by decide) inside
  exact absurd digit (by decide)

theorem Summary.textStopless (s : Summary) : '\n' ∉ s.text := by
  unfold Summary.text
  simp only [List.mem_append, not_or]
  exact ⟨⟨⟨⟨⟨⟨by decide, decimalStopless _⟩, by decide⟩, decimalStopless _⟩, by decide⟩,
    decimalStopless _⟩, by decide⟩

namespace Log

def heading (level : Level) (target : Text) : Text :=
  ['['] ++ level.name ++ List.replicate (nameWidth - level.name.length) ' ' ++ [' '] ++ target ++
    [']', ' ']

theorem indentedStopless {message : Text} (stopless : '\n' ∉ message) :
    indented message = message := by
  have same : indented message = Pieces.substitute '\n' ('\n' :: indent) message := by
    refine List.flatMap_congr (fun c _ => ?_)
    by_cases stop : c = '\n'
    · rw [if_pos stop, if_pos stop, stop]
    · rw [if_neg stop, if_neg stop]
  exact same.trans (Pieces.substituteOpen stopless _)

theorem textHeaded {e : Entry} (stopless : '\n' ∉ e.message) :
    e.text = heading e.level e.target ++ e.message := by
  rw [Entry.text, indentedStopless stopless]
  rfl

def Filter.everything : Filter := ⟨[⟨none, some .trace⟩], none⟩

theorem admitsAll (entry : Entry) : Filter.everything.admits entry = true := by
  have governed : Filter.governing Filter.everything.directives entry.target =
      some ⟨none, some .trace⟩ := by
    simp [Filter.everything, Filter.governing, Directive.applies, Directive.matchedLength]
  unfold Filter.admits
  rw [governed]
  cases entry.level <;> rfl

end Log

namespace Arguments

def asking (strict : Bool) (path : Bytes) : List Bytes :=
  if strict then [Flag.strict.name, path] else [path]

theorem parsePath {seen : Seen} (unnamed : seen.path = none) {path : Bytes} (some : path ≠ [])
    (unflagged : path.head? ≠ .some dash) :
    parseFrom seen [path] = .request ⟨path, seen.strict, seen.verbose⟩ := by
  have other : path ≠ escape := by
    rintro rfl
    contradiction
  have plain : isFlag path = false := by
    unfold isFlag
    split
    · simpa using unflagged
    · rfl
  have taken : argument seen path = .ok { seen with path := .some path } :=
    (argumentPlain seen plain).trans (positionalNone unnamed path)
  rw [parseFromOk other taken, parseFrom]
  obtain ⟨b, rest, rfl⟩ := List.exists_cons_of_ne_nil some
  rfl

theorem parseAsking (strict : Bool) {path : Bytes} (some : path ≠ [])
    (unflagged : path.head? ≠ .some dash) :
    parse (asking strict path) = .request ⟨path, strict, false⟩ := by
  cases strict with
  | false => exact parsePath rfl some unflagged
  | true =>
    have taken : argument .nothing Flag.strict.name = .ok ⟨none, true, false⟩ :=
      argumentName .nothing .strict
    exact (parseFromOk (by decide) taken [path]).trans (parsePath rfl some unflagged)

end Arguments

namespace Command

def numeral (n : UInt64) : Text := (toString n.toNat).toList

def traced (path : Bytes) (numbers : List UInt64) (summary : Summary) : Text :=
  "[DEBUG scan_format::formatter] Reading ".toList ++ Utf8.decode path ++ ['\n'] ++
    numbers.flatMap (fun n =>
      "[TRACE scan_format::formatter] Skipping line ".toList ++ numeral n ++ ['\n']) ++
    "[INFO  format_scans] Processed ".toList ++ numeral summary.linesRead ++
    " lines -> ".toList ++ numeral summary.recordsWritten ++ " records (".toList ++
    numeral summary.linesSkipped ++ " skipped)\n".toList

theorem numeralDecimal (n : UInt64) : numeral n = decimal n.toNat := by
  unfold numeral decimal
  rw [Nat.toString_eq_repr, Nat.toList_repr]

theorem traceSetting (verbose : Bool) :
    logSetting verbose (some "trace".toList) = ⟨.everything, []⟩ := by
  cases verbose <;> decide +kernel

theorem readingLine {path : Bytes} (stopless : Source.newline ∉ path) :
    (Options.readingEntry path).text =
      "[DEBUG scan_format::formatter] Reading ".toList ++ Utf8.decode path := by
  have message : '\n' ∉ (Options.readingEntry path).message := by
    simp [Options.readingEntry, Utf8.decodeStopless stopless]
  rw [Log.textHeaded message]
  rfl

theorem skippedLine (n : UInt64) :
    (Progress.skippedEntry n).text =
      "[TRACE scan_format::formatter] Skipping line ".toList ++ numeral n := by
  have message : '\n' ∉ (Progress.skippedEntry n).message := by
    simp [Progress.skippedEntry, decimalStopless]
  rw [Log.textHeaded message, numeralDecimal]
  rfl

theorem summaryLine (summary : Summary) :
    (summaryEntry summary).text ++ ['\n'] =
      "[INFO  format_scans] Processed ".toList ++ numeral summary.linesRead ++
      " lines -> ".toList ++ numeral summary.recordsWritten ++ " records (".toList ++
      numeral summary.linesSkipped ++ " skipped)\n".toList := by
  have front : "[INFO  format_scans] Processed ".toList =
      "[INFO  format_scans] ".toList ++ "Processed ".toList := by decide
  have back : " skipped)\n".toList = " skipped)".toList ++ ['\n'] := by decide
  have headed : (summaryEntry summary).text = "[INFO  format_scans] ".toList ++ summary.text :=
    Log.textHeaded summary.textStopless
  unfold Summary.text at headed
  simp only [headed, front, back, numeralDecimal, List.append_assoc]

theorem logTraced {path : Bytes} (stopless : Source.newline ∉ path) (numbers : List UInt64)
    (summary : Summary) :
    logLines .everything (Options.readingEntry path :: numbers.map Progress.skippedEntry ++
      [summaryEntry summary]) = traced path numbers summary := by
  have all : ∀ entries : List Log.Entry, entries.filter Log.Filter.everything.admits = entries :=
    fun entries => List.filter_eq_self.mpr (fun entry _ => Log.admitsAll entry)
  unfold logLines traced
  rw [all, List.flatMap_append, List.flatMap_cons, List.flatMap_map, List.flatMap_singleton,
    summaryLine]
  simp only [readingLine stopless, skippedLine, List.append_assoc]

theorem runTraced {storage : Storage} {path content : Bytes} (strict : Bool)
    (opens : storage.Opens path content) (stopless : Source.newline ∉ path)
    (unflagged : path.head? ≠ some Arguments.dash) :
    run (Arguments.asking strict path) storage.read (some "trace".toList) .unlimited =
      ⟨0, echoLine (Arguments.asking strict path) ++
          ((asked strict).records content).flatMap (·.segments.flatten),
        traced path
          (((asked strict).skipped 1 (Pieces.lines Source.newline content)).map .ofNat)
          ((asked strict).counts (Pieces.lines Source.newline content))⟩ := by
  have some : path ≠ [] := by
    rintro rfl
    cases opens.2
  have ended := (asked strict).formatFileReads opens Options.unlimitedReliable
  have skips : (asked strict).skips 0 (Pieces.lines Source.newline content) =
      (((asked strict).skipped 1 (Pieces.lines Source.newline content)).map .ofNat).map
        Progress.skippedEntry := by
    rw [List.map_map]
    exact (asked strict).skipsNumbered 0 _
  dsimp only at ended
  rw [skips, Options.listingRecords] at ended
  have exit := runRequest (Arguments.parseAsking strict some unflagged) storage.read
    (.some "trace".toList)
  dsimp only at exit
  rw [exit, optionsAsked, ended, traceSetting, ← logTraced stopless]
  simp [logged, entries, warningLines, failure, exitCode]

theorem traceNumbersSkipped (storage : Storage) {path content : Bytes} (strict : Bool)
    (opens : storage.Opens path content) (stopless : Source.newline ∉ path)
    (unflagged : path.head? ≠ some Arguments.dash) :
    let arguments := Arguments.asking strict path
    let exit := fun storage : Storage =>
      run arguments storage.read (some "trace".toList) .unlimited
    let lines := Pieces.lines Source.newline content
    let rows := (asked strict).records content
    let numbers := (asked strict).skipped 1 lines
    let summary := Summary.words lines.length rows.length numbers.length
    exit storage = ⟨0, echoLine arguments ++ rows.flatMap (·.segments.flatten),
        traced path (numbers.map .ofNat) summary⟩ ∧
      numbers.Pairwise (· < ·) ∧
      (∀ n, n ∈ numbers ↔ ∃ line, 1 ≤ n ∧ lines[n - 1]? = some line ∧
        (Line.colon ∈ line ∨ strict = true ∧ ∀ b ∈ line, b ∈ Line.blankBytes)) ∧
      rows.length + numbers.length = lines.length ∧
      (lines.length < UInt64.size →
        (numbers.map UInt64.ofNat).map UInt64.toNat = numbers ∧
          summary.linesSkipped.toNat = numbers.length) ∧
      ∀ other : Storage, other.Opens path (Source.without numbers content) →
        exit other = ⟨0, (exit storage).stdout,
          traced path [] (.words rows.length rows.length 0)⟩ := by
  intro arguments exit lines rows numbers summary
  obtain ⟨counted, every⟩ := (asked strict).countsSkipped content
  have strictly : (asked strict).strictness = .strict ↔ strict = true := by
    cases strict <;> decide
  have member : ∀ n, n ∈ numbers ↔ ∃ line, 1 ≤ n ∧ lines[n - 1]? = some line ∧
      (Line.colon ∈ line ∨ strict = true ∧ ∀ b ∈ line, b ∈ Line.blankBytes) := by
    intro n
    simp only [numbers, Options.skippedMember, Options.recordSkips, strictly]
  have first := runTraced strict opens stopless unflagged
  rw [counted] at first
  refine ⟨first, (asked strict).skippedOrdered 1 lines, member, every, ?_, ?_⟩
  · intro countable
    exact ⟨(asked strict).skippedExact countable, (Summary.wordsCountable countable every).2.2⟩
  · intro other also
    have second := runTraced strict also stopless unflagged
    obtain ⟨less, all⟩ := (asked strict).countsSkipped (Source.without numbers content)
    have none := (asked strict).skippedWithout content
    have same := (asked strict).recordsWithout content
    rw [none, same] at less all
    rw [less, none, same, ← all] at second
    have stdout := congrArg Exit.stdout first
    exact second.trans (congrArg (fun written => Exit.mk 0 written _) stdout.symm)

theorem traceNumbersSkippedBroken :
    let path : Bytes := [0xFF]
    let content : Bytes :=
      [0x30, 0x3A, 0x0A, 0x41, 0x42, 0x0A, 0x20, 0x0C, 0x0D, 0x0A, 0xE2, 0x82, 0x3A]
    let storage : Storage := ⟨[([path], .file content)], []⟩
    let other : Storage := ⟨[([path], .file [0x41, 0x42, 0x0A])], []⟩
    let arguments : List Bytes := [Arguments.Flag.strict.name, path]
    let stdout : Bytes := echoLine arguments ++ Utf8.encode "\x7b 0xAB \x7d;\n".toList
    let opening : Text := "[DEBUG scan_format::formatter] Reading \uFFFD\n".toList
    storage.Opens path content ∧ Source.newline ∉ path ∧ path.head? ≠ some Arguments.dash ∧
      other.Opens path (Source.without [1, 3, 4] content) ∧
      (Pieces.lines Source.newline content).length < UInt64.size ∧
      run arguments storage.read (some "trace".toList) .unlimited =
        ⟨0, stdout, opening ++ "[TRACE scan_format::formatter] Skipping line 1\n".toList ++
          "[TRACE scan_format::formatter] Skipping line 3\n".toList ++
          "[TRACE scan_format::formatter] Skipping line 4\n".toList ++
          "[INFO  format_scans] Processed 4 lines -> 1 records (3 skipped)\n".toList⟩ ∧
      ([1, 3, 4] : List UInt64).map UInt64.toNat = [1, 3, 4] ∧
      run arguments other.read (some "trace".toList) .unlimited =
        ⟨0, stdout, opening ++
          "[INFO  format_scans] Processed 1 lines -> 1 records (0 skipped)\n".toList⟩ := by
  intro path content storage other arguments stdout opening
  have opens : storage.Opens path content := ⟨by decide, rfl⟩
  have stopless : Source.newline ∉ path := by decide
  have unflagged : path.head? ≠ some Arguments.dash := by decide
  have numbers : (asked true).skipped 1 (Pieces.lines Source.newline content) = [1, 3, 4] := by
    decide +kernel
  have rows : (asked true).records content = [⟨["0xAB".toList]⟩] := by decide +kernel
  have also : other.Opens path (Source.without [1, 3, 4] content) := ⟨by decide, by decide +kernel⟩
  have countable : (Pieces.lines Source.newline content).length < UInt64.size := by decide +kernel
  obtain ⟨ran, -, -, -, exact, deleted⟩ :=
    traceNumbersSkipped storage true opens stopless unflagged
  rw [numbers, rows] at ran exact deleted
  have first : traced path [1, 3, 4] ⟨4, 1, 3⟩ = opening ++
      "[TRACE scan_format::formatter] Skipping line 1\n".toList ++
      "[TRACE scan_format::formatter] Skipping line 3\n".toList ++
      "[TRACE scan_format::formatter] Skipping line 4\n".toList ++
      "[INFO  format_scans] Processed 4 lines -> 1 records (3 skipped)\n".toList := by
    decide +kernel
  have second : traced path [] ⟨1, 1, 0⟩ = opening ++
      "[INFO  format_scans] Processed 1 lines -> 1 records (0 skipped)\n".toList := by
    decide +kernel
  refine ⟨opens, stopless, unflagged, also, countable, ?_, (exact countable).1, ?_⟩
  · rw [← first]
    exact ran
  · rw [← second]
    exact (deleted other also).trans (by rw [ran]; rfl)

end Command
end HexDump
