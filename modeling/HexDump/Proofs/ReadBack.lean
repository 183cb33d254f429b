import HexDump.Proofs.WholeText

/-! A listing read back. Tokens are never judged, so they may look like separators,
braces or markers; what keeps rows and entries apart is that no token contains a
space and no stripped line a newline. -/
namespace HexDump

namespace Listing

variable {α : Type} [DecidableEq α]

def dropFront (front l : List α) : Option (List α) :=
  if front <+: l then some (l.drop front.length) else none

def dropBack (back l : List α) : Option (List α) :=
  if back <:+ l then some (l.take (l.length - back.length)) else none

theorem dropFrontAppend (front l : List α) : dropFront front (front ++ l) = some l := by
  simp [dropFront]

theorem dropBackAppend (l back : List α) : dropBack back (l ++ back) = some l := by
  simp [dropBack]

def parts : Text → List Text
  | [] => [[]]
  | ',' :: ' ' :: rest => [] :: parts rest
  | c :: rest => Pieces.extend c (parts rest)

def readRow (marker : Text) (row : Bytes) : Option (List Text) := do
  let text ← Utf8.decode? row
  let inner ← dropFront ['{', ' '] text
  let body ← dropBack [' ', '}', ';', '\n'] inner
  (parts body).mapM (dropFront marker)

def read (marker : Text) (output : Bytes) : Option (List (List Text)) :=
  (Pieces.lines Source.newline output).mapM (readRow marker)

theorem partsOther {c : Char} {rest : Text} (other : rest.head? ≠ some ' ') :
    parts (c :: rest) = Pieces.extend c (parts rest) := by
  rw [parts]
  rintro after rfl rfl
  exact other rfl

theorem partsOpen {entry : Text} (spaceless : ' ' ∉ entry) : parts entry = [entry] := by
  fun_induction parts entry with
  | case1 => rfl
  | case2 rest ih => simp at spaceless
  | case3 c rest other ih =>
    rw [ih (fun member => spaceless (List.mem_cons_of_mem _ member))]
    rfl

theorem partsCut {entry : Text} (spaceless : ' ' ∉ entry) (more : Text) :
    parts (entry ++ Record.comma ++ more) = entry :: parts more := by
  induction entry with
  | nil => rfl
  | cons c entry ih =>
    have absent : ' ' ∉ entry := fun member => spaceless (List.mem_cons_of_mem _ member)
    -- Before the separator's own space stands its comma, which may not be the entry's last.
    have next : (entry ++ Record.comma ++ more).head? ≠ some ' ' := by
      cases entry with
      | nil => simp [Record.comma]
      | cons d entry =>
        have other : d ≠ ' ' := fun same => absent (same ▸ List.mem_cons_self)
        simpa using other
    rw [List.cons_append, List.cons_append, partsOther next, ih absent]
    rfl

theorem partsBody {entries : List Text} (nonempty : entries ≠ [])
    (spaceless : ∀ entry ∈ entries, ' ' ∉ entry) :
    parts (Record.comma.intercalate entries) = entries := by
  induction entries with
  | nil => contradiction
  | cons entry entries ih =>
    have first : ' ' ∉ entry := spaceless entry List.mem_cons_self
    cases entries with
    | nil =>
      rw [List.intercalate_singleton]
      exact partsOpen first
    | cons other entries =>
      have rest := fun entry member => spaceless entry (List.mem_cons_of_mem _ member)
      rw [List.intercalate_cons_cons, partsCut first, ih (List.cons_ne_nil _ _) rest]

theorem mapMarked (marker : Text) (tokens : List Text) :
    (tokens.map (marker ++ ·)).mapM (dropFront marker) = some tokens := by
  induction tokens with
  | nil => rfl
  | cons token tokens ih => simp [dropFrontAppend, ih]

structure Clear (row : List Text) : Prop where
  nonempty : row ≠ []
  spaceless : ∀ token ∈ row, ' ' ∉ token
  stopless : ∀ token ∈ row, '\n' ∉ token

def rowBytes (marker : Text) (row : List Text) : Bytes :=
  Utf8.encode ((Record.ofTokens marker row).text ++ ['\n'])

theorem readRowBytes {marker : Text} (spaceless : ' ' ∉ marker) {row : List Text}
    (clear : Clear row) : readRow marker (rowBytes marker row) = some row := by
  have entries : ∀ entry ∈ row.map (marker ++ ·), ' ' ∉ entry := by
    intro entry member
    obtain ⟨token, inside, rfl⟩ := List.mem_map.mp member
    simp [spaceless, clear.spaceless token inside]
  have nonempty : row.map (marker ++ ·) ≠ [] := by simp [clear.nonempty]
  have shape : (Record.ofTokens marker row).text ++ ['\n'] =
      ['{', ' '] ++ (Record.comma.intercalate (row.map (marker ++ ·)) ++
        [' ', '}', ';', '\n']) := by
    simp [Record.text, Record.opening, Record.closing, Record.body, Record.ofTokens]
  unfold readRow rowBytes
  rw [Utf8.decodeWellFormed, shape]
  simp only [Option.bind_eq_bind, Option.bind_some, dropFrontAppend, dropBackAppend]
  rw [partsBody nonempty entries]
  exact mapMarked marker row

theorem textAbsent {c : Char} (frame : c ∉ Record.opening ++ Record.comma ++ Record.closing)
    {marker : Text} (unmarked : c ∉ marker) {row : List Text} (absent : ∀ token ∈ row, c ∉ token) :
    c ∉ (Record.ofTokens marker row).text := by
  simp only [List.mem_append, not_or] at frame
  obtain ⟨⟨opening, comma⟩, closing⟩ := frame
  have entries : ∀ entry ∈ row.map (marker ++ ·), c ∉ entry := by
    intro entry member
    obtain ⟨token, inside, rfl⟩ := List.mem_map.mp member
    simp [unmarked, absent token inside]
  have body : c ∉ (Record.ofTokens marker row).body := Pieces.joinAbsent comma entries
  simp [Record.text, body, opening, closing]

theorem textStopless {marker : Text} (stopless : '\n' ∉ marker) {row : List Text}
    (clear : Clear row) : '\n' ∉ (Record.ofTokens marker row).text :=
  textAbsent (by decide) stopless clear.stopless

theorem encodeStopless {text : Text} (absent : '\n' ∉ text) :
    Source.newline ∉ Utf8.encode text := by
  intro member
  obtain ⟨front, after, cut, _⟩ := List.eq_append_cons_of_mem member
  have decoded := Utf8.decodeEncode text
  rw [cut, Utf8.decodeNewline] at decoded
  exact absent (decoded ▸ List.mem_append_right _ List.mem_cons_self)

theorem readRows {marker : Text} (spaceless : ' ' ∉ marker) (stopless : '\n' ∉ marker)
    {rows : List (List Text)} (clear : ∀ row ∈ rows, Clear row) :
    read marker (rows.flatMap (rowBytes marker)) = some rows := by
  induction rows with
  | nil => rfl
  | cons row rows ih =>
    have first := clear row List.mem_cons_self
    have others := ih (fun row member => clear row (List.mem_cons_of_mem _ member))
    have bytes : rowBytes marker row =
        Utf8.encode (Record.ofTokens marker row).text ++ [Source.newline] :=
      Utf8.encodeAppend _ _
    have line := readRowBytes spaceless first
    unfold read at others ⊢
    rw [bytes] at line
    rw [List.flatMap_cons, bytes, List.append_assoc, List.singleton_append,
      Pieces.linesCut _ (encodeStopless (textStopless stopless first)), List.mapM_cons, line, others]
    rfl

end Listing

namespace Line

theorem stripStopless {text line : Text} (member : line ∈ Pieces.lines '\n' text) :
    '\n' ∉ strip line := by
  rcases Pieces.linesMember '\n' member with absent | ⟨front, absent, rfl⟩
  · exact fun inside => absent (Pieces.trimMember inside)
  · unfold strip
    rw [Pieces.trimPadded (by decide)]
    exact fun inside => absent (Pieces.trimMember inside)

end Line

namespace Options

def row (options : Options) (line : Text) : List Text :=
  let tokens := Line.tokens (Line.strip line)
  match options.strictness with
  | .preserve => tokens
  | .strict => tokens.filter (· ≠ [])

def rows (options : Options) (lines : List Text) : List (List Text) :=
  ((lines.filter (':' ∉ ·)).map options.row).filter (· ≠ [])

def cores (lines : List Text) : List Text := (lines.filter (':' ∉ ·)).map Line.strip

def texts (input : Bytes) : List Text := (Pieces.lines Source.newline input).map Utf8.decode

variable (options : Options)

theorem rowKept (line : Text) :
    options.row line = options.kept (Line.tokens (Line.strip line)) := by
  unfold row kept
  cases options.strictness with
  | preserve => rfl
  | strict =>
    refine List.filter_congr (fun token _ => ?_)
    cases token <;> rfl

theorem formatLineRow (line : Text) :
    options.formatLine line =
      if ':' ∈ line ∨ options.row line = [] then none
      else some (Record.ofTokens options.marker (options.row line)) := by
  unfold formatLine
  rw [← rowKept]
  by_cases colon : ':' ∈ line
  · rw [if_pos ((Line.annotatedIff line).mpr colon), if_pos (.inl colon)]
  · rw [(Line.unannotatedIff line).mpr colon]
    cases options.row line with
    | nil => simp [Record.ofTokens, Record.isEmpty]
    | cons token tokens => simp [Record.ofTokens, Record.isEmpty, colon]

theorem formatFound {line : Text} (plain : ':' ∉ line) (some : options.row line ≠ []) :
    options.formatLine line = .some (Record.ofTokens options.marker (options.row line)) := by
  rw [formatLineRow, if_neg (not_or.mpr ⟨plain, some⟩)]

theorem rowsCons (line : Text) (lines : List Text) :
    options.rows (line :: lines) =
      if ':' ∈ line ∨ options.row line = [] then options.rows lines
      else options.row line :: options.rows lines := by
  unfold rows
  by_cases colon : ':' ∈ line
  · rw [List.filter_cons_of_neg (by simpa using colon), if_pos (.inl colon)]
  · rw [List.filter_cons_of_pos (by simpa using colon), List.map_cons]
    by_cases empty : options.row line = []
    · rw [List.filter_cons_of_neg (by simpa using empty), if_pos (.inr empty)]
    · rw [List.filter_cons_of_pos (by simpa using empty), if_neg (not_or.mpr ⟨colon, empty⟩)]

theorem formatRow {line : Text} {record : Record} (found : options.formatLine line = some record) :
    record = Record.ofTokens options.marker (options.row line) ∧ options.row line ≠ [] := by
  rw [formatLineRow] at found
  split at found
  · contradiction
  · rename_i written
    exact ⟨(Option.some.inj found).symm, (not_or.mp written).2⟩

theorem rowSubset (line : Text) : options.row line ⊆ Line.tokens (Line.strip line) := by
  unfold row
  cases options.strictness with
  | preserve => exact List.Subset.refl _
  | strict => exact List.filter_sublist.subset

theorem rowClear {text line : Text} (member : line ∈ Pieces.lines '\n' text)
    (nonempty : options.row line ≠ []) : Listing.Clear (options.row line) where
  nonempty := nonempty
  spaceless := fun _ inside => Pieces.splitAbsent ' ' (options.rowSubset line inside)
  stopless := fun _ inside newline =>
    Line.stripStopless member (Pieces.splitMember ' ' (options.rowSubset line inside) newline)

theorem rowsClear (input : Bytes) : ∀ row ∈ options.rows (texts input), Listing.Clear row := by
  intro row member
  obtain ⟨inside, some⟩ := List.mem_filter.mp member
  obtain ⟨line, present, rfl⟩ := List.mem_map.mp inside
  have whole := (List.mem_filter.mp present).1
  rw [texts, ← Utf8.decodeLines] at whole
  exact options.rowClear whole (by simpa using some)

theorem listingRows (lines : List Bytes) :
    options.listing lines =
      (options.rows (lines.map Utf8.decode)).flatMap (Listing.rowBytes options.marker) := by
  induction lines with
  | nil => rfl
  | cons line lines ih =>
    rw [listingCons, List.map_cons, rowsCons, ih]
    unfold rendering recordOf
    rw [formatLineRow]
    by_cases skipped : ':' ∈ Utf8.decode line ∨ options.row (Utf8.decode line) = []
    · rw [if_pos skipped, if_pos skipped]
      rfl
    · rw [if_neg skipped, if_neg skipped, List.flatMap_cons, Listing.rowBytes,
        ← Record.segmentsFlatten]

theorem coresRows (preserving : options.strictness = .preserve) (lines : List Text) :
    options.rows lines = (cores lines).map Line.tokens := by
  have each : ∀ line, options.row line = Line.tokens (Line.strip line) := by
    intro line
    simp [row, preserving]
  have some : ∀ row ∈ (lines.filter (':' ∉ ·)).map options.row, decide (row ≠ []) = true := by
    intro row member
    obtain ⟨line, -, rfl⟩ := List.mem_map.mp member
    simpa [each, Line.tokens] using Pieces.splitNonempty ' ' (Line.strip line)
  rw [rows, List.filter_eq_self.mpr some, cores, List.map_map]
  exact List.map_congr_left (fun line _ => each line)

theorem coresJoined (preserving : options.strictness = .preserve) (lines : List Text) :
    (options.rows lines).map ([' '].intercalate ·) = cores lines := by
  rw [options.coresRows preserving, List.map_map]
  exact (List.map_congr_left (fun line _ => Line.tokensJoin line)).trans (List.map_id _)

theorem outputListing {input : Bytes} {sink : Sink} {summary : Summary}
    (ok : (options.formatStream (.ofBytes input) sink).outcome = .ok summary) :
    (options.formatStream (.ofBytes input) sink).output =
      options.listing (Pieces.lines Source.newline input) := by
  obtain ⟨lines, rest, last, yields, finished, output⟩ := Progress.runOk options _ _ ok
  obtain ⟨other, whole, done⟩ := Source.yieldsBytes input
  obtain ⟨rfl, _⟩ := Source.yieldsUnique yields (Source.finishedEnded finished) whole
    (Source.finishedEnded done)
  exact output

theorem outputRows {input : Bytes} {sink : Sink} {summary : Summary}
    (ok : (options.formatStream (.ofBytes input) sink).outcome = .ok summary) :
    (options.formatStream (.ofBytes input) sink).output =
      (options.rows (texts input)).flatMap (Listing.rowBytes options.marker) := by
  rw [options.outputListing ok, listingRows]
  rfl

theorem listingReadsBack (spaceless : ' ' ∉ options.marker) (stopless : '\n' ∉ options.marker)
    {input : Bytes} {sink : Sink} {summary : Summary}
    (ok : (options.formatStream (.ofBytes input) sink).outcome = .ok summary) :
    Listing.read options.marker (options.formatStream (.ofBytes input) sink).output =
        some (options.rows (texts input)) ∧
      (options.strictness = .preserve →
        (options.rows (texts input)).map ([' '].intercalate ·) = cores (texts input) ∧
        ∀ other otherSink otherSummary,
          (options.formatStream (.ofBytes other) otherSink).outcome = .ok otherSummary →
          ((options.formatStream (.ofBytes input) sink).output =
              (options.formatStream (.ofBytes other) otherSink).output ↔
            cores (texts input) = cores (texts other))) := by
  have readsBack : ∀ bytes, Listing.read options.marker
      ((options.rows (texts bytes)).flatMap (Listing.rowBytes options.marker)) =
        some (options.rows (texts bytes)) :=
    fun bytes => Listing.readRows spaceless stopless (options.rowsClear bytes)
  rw [options.outputRows ok]
  refine ⟨readsBack input, fun preserving => ⟨options.coresJoined preserving _, ?_⟩⟩
  intro other otherSink otherSummary otherOk
  rw [options.outputRows otherOk]
  constructor
  · intro same
    have rows : some (options.rows (texts input)) = some (options.rows (texts other)) := by
      rw [← readsBack input, ← readsBack other, same]
    rw [← options.coresJoined preserving, ← options.coresJoined preserving, Option.some.inj rows]
  · intro same
    rw [options.coresRows preserving, options.coresRows preserving, same]

theorem listingReadsBackSeparators :
    let preserving : Options := ⟨.preserve, [',']⟩
    let strict : Options := ⟨.strict, [',']⟩
    let input : Bytes := [0x61, 0x2C, 0x20, 0x7D, 0x3B, 0x20, 0x20, 0x2C, 0x0D, 0x0A,
      0x31, 0x3A, 0x0A, 0x0A, 0x7B, 0xFF, 0x09, 0x7B]
    let report (options : Options) := options.formatStream (.ofBytes input) .unlimited
    (report preserving).outcome = .ok ⟨4, 3, 1⟩ ∧
      Listing.read [','] (report preserving).output =
        some [[['a', ','], ['}', ';'], [], [',']], [[]], [['{', '\uFFFD', '\t', '{']]] ∧
      (report strict).outcome = .ok ⟨4, 2, 2⟩ ∧
      Listing.read [','] (report strict).output =
        some [[['a', ','], ['}', ';'], [',']], [['{', '\uFFFD', '\t', '{']]] := by
  intro preserving strict input report
  have outcome : ∀ options : Options, (report options).outcome =
      .ok (options.counts (Pieces.lines Source.newline input)) :=
    fun options => congrArg Report.Answer.outcome (options.formatBytes input unlimitedReliable)
  have kept : (report preserving).outcome = .ok ⟨4, 3, 1⟩ :=
    (outcome preserving).trans (congrArg Except.ok (by decide +kernel))
  have dropped : (report strict).outcome = .ok ⟨4, 2, 2⟩ :=
    (outcome strict).trans (congrArg Except.ok (by decide +kernel))
  refine ⟨kept, ?_, dropped, ?_⟩
  · exact (listingReadsBack preserving (by decide) (by decide) kept).1.trans (by decide +kernel)
  · exact (listingReadsBack strict (by decide) (by decide) dropped).1.trans (by decide +kernel)

end Options
end HexDump
