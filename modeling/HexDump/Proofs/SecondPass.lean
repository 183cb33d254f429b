import HexDump.Proofs.Counters
import HexDump.Proofs.Strictness

/-! A listing formatted as if it were a dump. Its rows are never annotations as long as the
marker is none, and a brace at each end keeps them from being blank, so none of them is
skipped. The braces come to an entry each. -/
namespace HexDump

namespace Pieces

variable {α β : Type}

theorem joinCount [DecidableEq α] {a : α} {separator : List α} (once : separator.count a = 1)
    {pieces : List (List α)} (some : pieces ≠ []) (absent : ∀ piece ∈ pieces, a ∉ piece) :
    (separator.intercalate pieces).count a + 1 = pieces.length := by
  induction pieces with
  | nil => contradiction
  | cons piece pieces ih =>
    have first : piece.count a = 0 := List.count_eq_zero.mpr (absent piece List.mem_cons_self)
    cases pieces with
    | nil => simp [first]
    | cons next pieces =>
      have rest := ih (List.cons_ne_nil _ _)
        (fun piece member => absent piece (List.mem_cons_of_mem _ member))
      rw [List.intercalate_cons_cons, List.count_append, List.count_append, first, once,
        List.length_cons]
      omega

theorem filterMapAll {f : α → Option β} {r : α → β → Prop} {l : List α}
    (all : ∀ a ∈ l, ∃ b, f a = some b ∧ r a b) : List.Forall₂ r l (l.filterMap f) := by
  induction l with
  | nil => exact .nil
  | cons a rest ih =>
    obtain ⟨b, found, related⟩ := all a List.mem_cons_self
    rw [List.filterMap_cons_some found]
    exact .cons related (ih (fun a member => all a (List.mem_cons_of_mem _ member)))

end Pieces

namespace Record

theorem textFramed (r : Record) : r.text = '{' :: ((' ' :: r.body ++ [' ', '}']) ++ [';']) := by
  simp [text, opening, closing]

theorem textCore (r : Record) : Line.strip r.text = r.text := by
  have first : Line.isPadding '{' = false := by decide
  have last : Line.isPadding ';' = false := by decide
  rw [textFramed]
  exact Pieces.trimEnded (by simp [first]) (by simp [List.getLast?_cons, last])

theorem textFirst (r : Record) : ∃ piece more, Line.tokens r.text = ('{' :: piece) :: more := by
  rw [textFramed]
  exact Pieces.splitHead (by decide) _

theorem textTokens {r : Record} (some : r.entries ≠ []) (spaceless : ∀ entry ∈ r.entries, ' ' ∉ entry) :
    (Line.tokens r.text).length = r.size + 2 := by
  have body : r.body.count ' ' + 1 = r.entries.length :=
    Pieces.joinCount (by decide) some spaceless
  have spaces : r.text.count ' ' = r.body.count ' ' + 2 := by
    rw [text, List.count_append, List.count_append, show opening.count ' ' = 1 by decide,
      show closing.count ' ' = 1 by decide]
    omega
  rw [Line.tokens, Pieces.splitLength, spaces, size]
  omega

end Record

namespace Options

variable {first second : Options}

theorem textPlain (plain : ':' ∉ first.marker) {line : Text} {record : Record}
    (found : first.formatLine line = some record) : ':' ∉ record.text := by
  have unannotated : ':' ∉ line := by
    intro member
    rw [first.annotatedSkipped ((Line.annotatedIff line).mpr member)] at found
    contradiction
  obtain ⟨rfl, -⟩ := first.formatRow found
  have absent : ∀ token ∈ first.row line, ':' ∉ token := by
    intro token inside member
    exact unannotated (Pieces.trimMember
      (Pieces.splitMember ' ' (first.rowSubset line inside) member))
  exact Listing.textAbsent (by decide) plain absent

theorem formatAgain (plain : ':' ∉ first.marker) {line : Text} {record : Record}
    (found : first.formatLine line = some record) :
    ∃ again, second.formatLine record.text = some again ∧
      (' ' ∉ first.marker → second.strictness = .preserve → again.size = record.size + 2) := by
  have row : second.row record.text ≠ [] := by
    obtain ⟨piece, more, tokens⟩ := record.textFirst
    unfold Options.row
    rw [record.textCore, tokens]
    cases second.strictness <;> simp
  refine ⟨_, second.formatFound (textPlain plain found) row, ?_⟩
  intro unspaced preserving
  obtain ⟨rfl, some⟩ := first.formatRow found
  have spaceless : ∀ entry ∈ (Record.ofTokens first.marker (first.row line)).entries,
      ' ' ∉ entry := by
    intro entry member
    obtain ⟨token, inside, rfl⟩ := List.mem_map.mp member
    have clear := Pieces.splitAbsent ' ' (first.rowSubset line inside)
    simp [unspaced, clear]
  have whole : ∀ text, second.row text = Line.tokens (Line.strip text) := by
    intro text
    simp [Options.row, preserving]
  rw [Record.sizeOfTokens, whole, Record.textCore]
  exact Record.textTokens (by simpa [Record.ofTokens] using some) spaceless

theorem inputStopless (stopless : '\n' ∉ first.marker) (input : Bytes) :
    ∀ row ∈ (first.records input).map (fun r => Utf8.encode r.text), Source.newline ∉ row :=
  first.recordsStopless stopless (fun _ member => Pieces.linesWhole Source.newline member)

theorem recordsAgain (second : Options) (plain : ':' ∉ first.marker)
    (stopless : '\n' ∉ first.marker) (input : Bytes) :
    let output := first.listing (Pieces.lines Source.newline input)
    (Pieces.lines Source.newline output).length = (first.records input).length ∧
      List.Forall₂ (fun record again => ' ' ∉ first.marker → second.strictness = .preserve →
        again.size = record.size + 2) (first.records input) (second.records output) := by
  intro output
  have alike := second.recordsWritten (inputStopless stopless input)
  rw [records, ← first.listingWritten, ← records, List.map_map] at alike
  constructor
  · have lengths := congrArg List.length alike
    rwa [List.length_map, List.length_map] at lengths
  · have found : second.records output =
        (first.records input).filterMap (fun r => second.formatLine r.text) := by
      have each : second.recordOf ∘ (fun r : Record => Utf8.encode r.text) =
          fun r => second.formatLine r.text := by
        funext r
        exact congrArg second.formatLine (Utf8.decodeEncode r.text)
      have listed := congrArg (List.filterMap id) alike
      rwa [each, List.filterMap_map, List.filterMap_map] at listed
    rw [found]
    refine Pieces.filterMapAll (fun record member => ?_)
    obtain ⟨line, -, formatted⟩ := List.mem_filterMap.mp member
    exact formatAgain plain formatted

theorem listingFormatsAgain (first second : Options) (plain : ':' ∉ first.marker)
    (stopless : '\n' ∉ first.marker) {input : Bytes} {sink : Sink} {summary : Summary}
    (ok : (first.formatStream (.ofBytes input) sink).outcome = .ok summary) :
    let output := (first.formatStream (.ofBytes input) sink).output
    let again := fun other => second.formatStream (.ofBytes output) other
    output = (first.records input).flatMap (·.segments.flatten) ∧
      (∀ other : Sink, other.Reliable → ∃ counted, (again other).outcome = .ok counted) ∧
      (∀ other counted, (again other).outcome = .ok counted →
        counted = ⟨summary.recordsWritten, summary.recordsWritten, 0⟩ ∧
          (again other).output = (second.records output).flatMap (·.segments.flatten)) ∧
      (' ' ∉ first.marker → second.strictness = .preserve →
        List.Forall₂ (fun record again => again.size = record.size + 2) (first.records input)
          (second.records output)) := by
  intro output again
  have listed : output = _ := first.outputListing ok
  obtain ⟨length, each⟩ := recordsAgain second plain stopless input
  rw [← listed] at length each
  refine ⟨listed.trans (first.listingRecords input), ?_, ?_, ?_⟩
  · intro other reliable
    exact ⟨_, congrArg Report.Answer.outcome (second.formatBytes output reliable)⟩
  · intro other counted done
    obtain ⟨skipped, every, words⟩ := second.streamCounts done
    obtain ⟨-, -, rfl⟩ := first.streamCounts ok
    have none : skipped = 0 := by
      have same := each.length_eq
      omega
    rw [length, ← each.length_eq, none] at words
    exact ⟨words, (second.outputListing done).trans (second.listingRecords output)⟩
  · intro unspaced preserving
    exact each.imp (fun _ _ sizes => sizes unspaced preserving)

theorem listingFormatsAgainBare :
    let first : Options := ⟨.preserve, []⟩
    let second : Options := ⟨.preserve, [':', '\n']⟩
    let input : Bytes := [0x0A, 0x30, 0x3A, 0x0A, 0xE2, 0x82, 0x20, 0x20, 0x7D, 0x00]
    let output := (first.formatStream (.ofBytes input) .unlimited).output
    ':' ∉ first.marker ∧ '\n' ∉ first.marker ∧ ' ' ∉ first.marker ∧
      (first.formatStream (.ofBytes input) .unlimited).outcome = .ok ⟨3, 2, 1⟩ ∧
      (second.formatStream (.ofBytes output) .unlimited).outcome = .ok ⟨2, 2, 0⟩ ∧
      List.Forall₂ (fun record again => again.size = record.size + 2) (first.records input)
        (second.records output) := by
  intro first second input output
  have ok : (first.formatStream (.ofBytes input) .unlimited).outcome = .ok ⟨3, 2, 1⟩ := by
    decide +kernel
  have unmarked : ∀ c, c ∉ first.marker := fun _ => List.not_mem_nil
  obtain ⟨-, runs, counts, sizes⟩ := listingFormatsAgain first second (unmarked _) (unmarked _) ok
  obtain ⟨counted, done⟩ := runs .unlimited unlimitedReliable
  obtain ⟨rfl, -⟩ := counts .unlimited counted done
  exact ⟨unmarked _, unmarked _, unmarked _, ok, done, sizes (unmarked _) rfl⟩

end Options
end HexDump
