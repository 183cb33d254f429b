import HexDump.Proofs.ByteTokens
import HexDump.Proofs.Collapse

/-! The lines that are skipped, known by their numbers. An annotation always is and a blank line
is in strict formatting, and their bytes tell. Without the lines of these numbers, an input has
the same records and nothing in it is skipped. -/
namespace HexDump

namespace Line

theorem blankDecodes (line : Bytes) :
    (∀ c ∈ Utf8.decode line, isPadding c = true) ↔ ∀ b ∈ line, b ∈ blankBytes := by
  have core : Utf8.decode (Pieces.trim (fun b => blankBytes.contains b) line) = [] ↔
      Pieces.trim (fun b => blankBytes.contains b) line = [] :=
    ⟨fun empty => by_contra (fun some => Utf8.decodeNonempty some empty),
      fun empty => by rw [empty]; rfl⟩
  rw [← Pieces.trimNothing, ← Utf8.decodeTrim blankAgrees, core, Pieces.trimNothing]
  simp only [List.contains_iff_mem]

end Line

namespace Source

def without (numbers : List Nat) (input : Bytes) : Bytes :=
  ((((Pieces.lines newline input).zipIdx 1).filter (fun line => !numbers.contains line.2)).map
    Prod.fst).flatten

end Source

namespace Options

def skipped (options : Options) (first : Nat) (lines : List Bytes) : List Nat :=
  ((lines.zipIdx first).filter (fun line => (options.recordOf line.1).isNone)).map Prod.snd

variable (options : Options)

theorem recordSkips (line : Bytes) : options.recordOf line = none ↔
    Line.colon ∈ line ∨ options.strictness = .strict ∧ ∀ b ∈ line, b ∈ Line.blankBytes := by
  have colon : ':' ∈ Utf8.decode line ↔ Line.colon ∈ line :=
    Utf8.decodeMember (b := Line.colon) (by decide)
  rw [recordOf, formatSkips, colon, Line.blankDecodes]

theorem skippedCons (first : Nat) (line : Bytes) (lines : List Bytes) :
    options.skipped first (line :: lines) =
      (if options.recordOf line = none then [first] else []) ++ options.skipped (first + 1) lines := by
  unfold skipped
  rw [List.zipIdx_cons, List.filter_cons]
  cases options.recordOf line <;> rfl

theorem skippedOrdered (first : Nat) (lines : List Bytes) :
    (options.skipped first lines).Pairwise (· < ·) := by
  have all : ((lines.zipIdx first).map Prod.snd).Pairwise (· < ·) := by
    rw [List.zipIdx_map_snd]
    exact List.pairwise_lt_range'
  exact all.sublist (List.filter_sublist.map Prod.snd)

theorem skippedMember {first n : Nat} {lines : List Bytes} :
    n ∈ options.skipped first lines ↔
      ∃ line, first ≤ n ∧ lines[n - first]? = some line ∧ options.recordOf line = none := by
  constructor
  · intro member
    obtain ⟨⟨line, n⟩, inside, rfl⟩ := List.mem_map.mp member
    obtain ⟨numbered, silent⟩ := List.mem_filter.mp inside
    obtain ⟨least, found⟩ := List.mem_zipIdx_iff_le_and_getElem?_sub.mp numbered
    exact ⟨line, least, found, Option.isNone_iff_eq_none.mp silent⟩
  · rintro ⟨line, least, found, silent⟩
    have numbered : (line, n) ∈ lines.zipIdx first :=
      List.mem_zipIdx_iff_le_and_getElem?_sub.mpr ⟨least, found⟩
    have inside : (line, n) ∈ (lines.zipIdx first).filter
        (fun line => (options.recordOf line.1).isNone) :=
      List.mem_filter.mpr ⟨numbered, Option.isNone_iff_eq_none.mpr silent⟩
    exact List.mem_map.mpr ⟨(line, n), inside, rfl⟩

theorem skippedExact {lines : List Bytes} (countable : lines.length < UInt64.size) :
    ((options.skipped 1 lines).map UInt64.ofNat).map UInt64.toNat = options.skipped 1 lines := by
  rw [List.map_map]
  refine (List.map_congr_left (fun n member => ?_)).trans (List.map_id _)
  obtain ⟨line, least, found, -⟩ := options.skippedMember.mp member
  have within := (List.getElem?_eq_some_iff.mp found).1
  exact UInt64.toNat_ofNat_of_lt (by omega)

theorem skippedLength (first : Nat) (lines : List Bytes) :
    (options.skipped first lines).length =
      lines.countP (fun line => (options.recordOf line).isNone) := by
  induction lines generalizing first with
  | nil => rfl
  | cons line lines ih =>
    rw [skippedCons, List.length_append, ih, List.countP_cons]
    cases options.recordOf line <;> simp [Nat.add_comm]

theorem skipsNumbered (before : Nat) (lines : List Bytes) :
    options.skips (.ofNat before) lines =
      (options.skipped (before + 1) lines).map (fun n => Progress.skippedEntry (.ofNat n)) := by
  induction lines generalizing before with
  | nil => rfl
  | cons line lines ih =>
    have next : (UInt64.ofNat before) + 1 = .ofNat (before + 1) := (UInt64.ofNat_add before 1).symm
    rw [skips, skippedCons, next, ih, List.map_append]
    split <;> rfl

theorem withoutSkipped (input : Bytes) :
    let lines := Pieces.lines Source.newline input
    Pieces.lines Source.newline (Source.without (options.skipped 1 lines) input) =
      lines.filter (fun line => (options.recordOf line).isSome) := by
  intro lines
  have left : ((lines.zipIdx 1).filter
      (fun line => !(options.skipped 1 lines).contains line.2)).map Prod.fst =
        lines.filter (fun line => (options.recordOf line).isSome) := by
    have same : ∀ line ∈ lines.zipIdx 1, (!(options.skipped 1 lines).contains line.2) =
        (options.recordOf line.1).isSome := by
      rintro ⟨line, n⟩ member
      obtain ⟨least, found⟩ := List.mem_zipIdx_iff_le_and_getElem?_sub.mp member
      have listed : n ∈ options.skipped 1 lines ↔ options.recordOf line = none := by
        rw [skippedMember]
        constructor
        · rintro ⟨other, -, same, silent⟩
          cases found.symm.trans same
          exact silent
        · exact fun silent => ⟨line, least, found, silent⟩
      cases record : options.recordOf line <;> simp [listed, record]
    rw [List.filter_congr same]
    conv => rhs; rw [← List.zipIdx_map_fst 1 lines, List.filter_map]
    rfl
  rw [Source.without, left]
  exact Pieces.linesSublist _ List.filter_sublist

theorem recordsWithout (input : Bytes) :
    options.records (Source.without
      (options.skipped 1 (Pieces.lines Source.newline input)) input) = options.records input := by
  unfold records
  rw [options.withoutSkipped, List.filterMap_filter]
  refine List.filterMap_congr (fun line _ => ?_)
  cases options.recordOf line <;> rfl

theorem skippedWithout (input : Bytes) :
    options.skipped 1 (Pieces.lines Source.newline (Source.without
      (options.skipped 1 (Pieces.lines Source.newline input)) input)) = [] := by
  rw [← List.length_eq_zero_iff, skippedLength, options.withoutSkipped, List.countP_eq_zero]
  intro line member
  have written := (List.mem_filter.mp member).2
  simpa [Option.isSome_iff_ne_none] using written

theorem countsSkipped (input : Bytes) :
    let lines := Pieces.lines Source.newline input
    options.counts lines = .words lines.length (options.records input).length
        (options.skipped 1 lines).length ∧
      (options.records input).length + (options.skipped 1 lines).length = lines.length := by
  intro lines
  rw [skippedLength]
  exact ⟨options.countsWords lines, options.everyLine lines⟩

end Options
end HexDump
