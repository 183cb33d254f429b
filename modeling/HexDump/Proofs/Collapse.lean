import HexDump.Proofs.SecondPass

/-! Strict formatting as preserving formatting of another line. A run of spaces cuts off
empty tokens, a single space cuts off none; so where spaces do not stand in runs, at the
ends neither, there is nothing that strict formatting could drop. -/
namespace HexDump

namespace Pieces

variable {α : Type}

def collapse [DecidableEq α] (separator : α) : List α → List α
  | a :: b :: rest =>
    if a = separator ∧ b = separator then collapse separator (b :: rest)
    else a :: collapse separator (b :: rest)
  | l => l

variable [DecidableEq α] (separator : α)

theorem collapseCons (a : α) (l : List α) :
    collapse separator (a :: l) =
      if a = separator ∧ l.head? = some separator then collapse separator l
      else a :: collapse separator l := by
  cases l with
  | nil => simp [collapse]
  | cons b rest => simp [collapse]

theorem collapseSublist (l : List α) : (collapse separator l).Sublist l := by
  fun_induction collapse separator l with
  | case1 a b rest run ih => exact ih.cons a
  | case2 a b rest other ih => exact ih.cons_cons a
  | case3 l short => exact List.Sublist.refl l

theorem collapseConcat (l : List α) (a : α) :
    collapse separator (l ++ [a]) =
      if a = separator ∧ l.getLast? = some separator then collapse separator l
      else collapse separator l ++ [a] := by
  fun_induction collapse separator l with
  | case1 b c rest run ih =>
    rw [List.getLast?_cons_cons, ← ih, List.cons_append, List.cons_append, collapse, if_pos run]
  | case2 b c rest other ih =>
    rw [List.getLast?_cons_cons, List.cons_append, List.cons_append, collapse, if_neg other]
    rw [List.cons_append] at ih
    rw [ih]
    split <;> rfl
  | case3 l short =>
    cases l with
    | nil => simp [collapse]
    | cons b rest =>
      cases rest with
      | cons c rest => exact absurd rfl (short b c rest)
      | nil =>
        by_cases run : b = separator ∧ a = separator
        · simp [collapse, run.1, run.2]
        · have other : ¬ (a = separator ∧ b = separator) := fun last => run last.symm
          simp [collapse, run, other]

theorem collapseReverse (l : List α) :
    collapse separator l.reverse = (collapse separator l).reverse := by
  induction l with
  | nil => rfl
  | cons a rest ih =>
    rw [List.reverse_cons, collapseConcat, collapseCons, List.getLast?_reverse, ih]
    split
    · rfl
    · rw [List.reverse_cons]

variable {separator}

theorem collapseDrop {p : α → Bool} (padding : p separator = true) (l : List α) :
    (collapse separator l).dropWhile p = collapse separator (l.dropWhile p) := by
  induction l with
  | nil => rfl
  | cons a rest ih =>
    rw [collapseCons]
    cases dropped : p a with
    | true =>
      rw [List.dropWhile_cons_of_pos dropped, ← ih]
      split
      · rfl
      · rw [List.dropWhile_cons_of_pos dropped]
    | false =>
      have kept : ¬ p a = true := by simp [dropped]
      have other : ¬ (a = separator ∧ rest.head? = some separator) :=
        fun run => kept (run.1 ▸ padding)
      rw [if_neg other, List.dropWhile_cons_of_neg kept, List.dropWhile_cons_of_neg kept,
        collapseCons, if_neg other]

theorem collapseTrim {p : α → Bool} (padding : p separator = true) (l : List α) :
    trim p (collapse separator l) = collapse separator (trim p l) := by
  unfold trim
  rw [collapseDrop padding, ← collapseReverse, collapseDrop padding, ← collapseReverse]

/- The pieces between single separators are those that are not empty, up to one in front of a
separator at the beginning. The induction needs that one, since every rest may begin so. -/
theorem collapseSplit {l : List α} (nonempty : l ≠ []) (last : l.getLast? ≠ some separator) :
    split separator (collapse separator l) =
      (if l.head? = some separator then [[]] else []) ++
        (split separator l).filter (fun piece => !piece.isEmpty) := by
  fun_induction collapse separator l with
  | case1 a b rest run ih =>
    rw [ih (List.cons_ne_nil _ _) last, splitCons separator a, if_pos run.1]
    simp [run.1, run.2]
  | case2 a b rest other ih =>
    have cut := ih (List.cons_ne_nil _ _) last
    by_cases first : a = separator
    · subst first
      have fresh : b ≠ a := fun same => other ⟨rfl, same⟩
      rw [splitCons, if_pos rfl, cut, splitCons a a, if_pos rfl]
      simp [fresh]
    · rw [splitCons, if_neg first, cut, splitCons separator a, if_neg first]
      by_cases second : b = separator
      · simp [second, first, splitCons, extend]
      · obtain ⟨piece, more, pieces⟩ := splitHead second rest
        simp [second, first, pieces, extend]
  | case3 l short =>
    cases l with
    | nil => contradiction
    | cons a rest =>
      cases rest with
      | cons b rest => exact absurd rfl (short a b rest)
      | nil =>
        have other : a ≠ separator := by simpa using last
        simp [splitCons, other, extend]

end Pieces

namespace Line

theorem stripCollapsed (line : Text) :
    strip (Pieces.collapse ' ' line) = Pieces.collapse ' ' (strip line) :=
  Pieces.collapseTrim (by decide) line

theorem tokensCollapsed {line : Text} (some : strip line ≠ []) :
    tokens (strip (Pieces.collapse ' ' line)) =
      (tokens (strip line)).filter (fun token => !token.isEmpty) := by
  obtain ⟨first, last⟩ := stripEnds line
  rw [stripCollapsed, tokens, Pieces.collapseSplit some last, if_neg first]
  rfl

end Line

namespace Options

variable (options : Options)

theorem rowEmpty (line : Text) : options.row line = [] ↔
    options.strictness = .strict ∧ ∀ c ∈ line, Line.isPadding c = true := by
  unfold row
  rw [← Line.tokensBlank]
  cases options.strictness with
  | preserve => simp [Line.tokens, Pieces.splitNonempty]
  | strict => simp

theorem formatSkips (line : Text) : options.formatLine line = none ↔
    ':' ∈ line ∨ options.strictness = .strict ∧ ∀ c ∈ line, Line.isPadding c = true := by
  rw [← rowEmpty, formatLineRow]
  split <;> simp_all

theorem strictCollapses (marker line : Text) :
    (formatLine ⟨.strict, marker⟩ line = none ↔
      ':' ∈ line ∨ ∀ c ∈ line, Line.isPadding c = true) ∧
    (¬ (':' ∈ line ∨ ∀ c ∈ line, Line.isPadding c = true) →
      formatLine ⟨.strict, marker⟩ line =
        formatLine ⟨.preserve, marker⟩ (Pieces.collapse ' ' line)) := by
  refine ⟨by simpa using formatSkips ⟨.strict, marker⟩ line, fun formatted => ?_⟩
  obtain ⟨plain, unblank⟩ := not_or.mp formatted
  have absent : ':' ∉ Pieces.collapse ' ' line :=
    fun member => plain ((Pieces.collapseSublist ' ' line).mem member)
  have collapsed := (Line.unannotatedIff _).mpr absent
  have some : row ⟨.strict, marker⟩ line ≠ [] := by
    intro empty
    exact unblank ((rowEmpty ⟨.strict, marker⟩ line).mp empty).2
  have core : Line.strip line ≠ [] := fun blank => unblank (Pieces.trimNothing.mp blank)
  rw [formatFound _ plain some, preserveKeeps marker collapsed, Line.tokensCollapsed core, rowKept]
  rfl

theorem strictCollapsesTabs :
    let line : Text := "  \t  A   \t  B\x0b  \n".toList
    ¬ (':' ∈ line ∨ ∀ c ∈ line, Line.isPadding c = true) ∧
      Pieces.collapse ' ' line = " \t A \t B\x0b \n".toList ∧
      formatLine ⟨.strict, ['$']⟩ line = some ⟨["$A".toList, "$\t".toList, "$B".toList]⟩ ∧
      formatLine ⟨.preserve, ['$']⟩ (Pieces.collapse ' ' line) =
        some ⟨["$A".toList, "$\t".toList, "$B".toList]⟩ := by
  intro line
  have formatted : ¬ (':' ∈ line ∨ ∀ c ∈ line, Line.isPadding c = true) := by
    rintro (colon | blank)
    · exact absurd colon (by decide)
    · exact absurd (blank 'A' (by decide)) (by decide)
  have strict : formatLine ⟨.strict, ['$']⟩ line =
      some ⟨["$A".toList, "$\t".toList, "$B".toList]⟩ := by decide +kernel
  exact ⟨formatted, by decide +kernel, strict,
    ((strictCollapses ['$'] line).2 formatted).symm.trans strict⟩

end Options
end HexDump
