import HexDump.Options
import HexDump.Proofs.Strictness
import Mathlib.Data.List.Count

/-! Entries that are nothing but the marker. Each comes from an empty token, and that from two
separators in a row; since the space is padding, none are left at the ends of a core, so bare
entries stand inside their record, and as many as there are pairs of spaces in the line. -/
namespace HexDump

namespace Pieces

variable {α : Type} [DecidableEq α] {separator : α}

def pairs (a : α) (l : List α) : Nat := (l.zip l.tail).count (a, a)

theorem pairsCons (a b : α) (l : List α) :
    pairs a (b :: l) = pairs a l + if b = a ∧ l.head? = some a then 1 else 0 := by
  cases l with
  | nil => simp [pairs]
  | cons c rest => simp [pairs, List.count_cons]

theorem pairsConcat (a b : α) (l : List α) :
    pairs a (l ++ [b]) = pairs a l + if b = a ∧ l.getLast? = some a then 1 else 0 := by
  induction l with
  | nil => simp [pairs]
  | cons c rest ih =>
    rw [List.cons_append, pairsCons, pairsCons, ih]
    cases rest with
    | nil => simp [and_comm]
    | cons d rest =>
      rw [List.getLast?_cons_cons, List.cons_append, List.head?_cons, List.head?_cons]
      omega

theorem pairsFront {front : List α} (absent : separator ∉ front) (after : List α) :
    pairs separator (separator :: (front ++ separator :: after)) =
      pairs separator (separator :: after) + if front = [] then 1 else 0 := by
  have skipped : pairs separator (front ++ separator :: after) =
      pairs separator (separator :: after) := by
    induction front with
    | nil => rfl
    | cons a front ih =>
      obtain ⟨other, absent⟩ := not_or.mp (mt List.mem_cons.mpr absent)
      have alone : ¬ (a = separator ∧ (front ++ separator :: after).head? = some separator) :=
        fun pair => other pair.1.symm
      rw [List.cons_append, pairsCons, if_neg alone, ih absent, Nat.add_zero]
  rw [pairsCons, skipped]
  cases front with
  | nil => simp
  | cons a front =>
    have other : a ≠ separator := fun same => absent (same ▸ List.mem_cons_self)
    simp [other]

/- Every piece lies between two separators if there is one more at each end, and is empty if
these two are next to each other. -/
theorem splitEmpty (l : List α) :
    (split separator l).count [] = pairs separator (separator :: (l ++ [separator])) := by
  induction l using cutInduction separator with
  | nil => simp [pairs]
  | last l some absent =>
    rw [splitOpen separator absent, pairsFront absent []]
    simp [pairs, some]
  | cut front after absent ih =>
    rw [splitCut separator absent, List.append_assoc, List.cons_append, pairsFront absent, ← ih,
      List.count_cons]
    simp

theorem splitPairs {l : List α} (nonempty : l ≠ []) (first : l.head? ≠ some separator)
    (last : l.getLast? ≠ some separator) : (split separator l).count [] = pairs separator l := by
  have front : ¬ (separator = separator ∧ (l ++ [separator]).head? = some separator) := by
    rw [List.head?_append_of_ne_nil _ nonempty]
    exact fun pair => first pair.2
  rw [splitEmpty, pairsCons, if_neg front, pairsConcat, if_neg (fun pair => last pair.2)]
  rfl

theorem splitAppend (before after : List α) :
    split separator (before ++ separator :: after) =
      split separator before ++ split separator after := by
  induction before using cutInduction separator with
  | nil => exact splitCut separator List.not_mem_nil after
  | last before some absent => rw [splitCut separator absent, splitOpen separator absent]; rfl
  | cut front rest absent ih =>
    rw [List.append_assoc, List.cons_append, splitCut separator absent, ih,
      splitCut separator absent]
    rfl

theorem splitRun (k : Nat) (before after : List α) :
    split separator (before ++ List.replicate (k + 1) separator ++ after) =
      split separator before ++ List.replicate k [] ++ split separator after := by
  induction k generalizing before with
  | zero => simp [splitAppend]
  | succ k ih =>
    have rest := ih []
    rw [List.nil_append] at rest
    rw [List.replicate_succ, List.append_assoc, List.cons_append, splitAppend, rest,
      List.replicate_succ]
    simp

theorem splitLast {l : List α} (nonempty : l ≠ []) (last : l.getLast? ≠ some separator) :
    ∃ piece ∈ (split separator l).getLast?, piece ≠ [] := by
  induction l using cutInduction separator with
  | nil => contradiction
  | last l some absent => exact ⟨l, by rw [splitOpen separator absent]; rfl, some⟩
  | cut front after absent ih =>
    cases after with
    | nil => simp at last
    | cons b rest =>
      rw [List.getLast?_append_cons, List.getLast?_cons_cons] at last
      obtain ⟨piece, found, more⟩ := ih (List.cons_ne_nil b rest) last
      refine ⟨piece, ?_, more⟩
      rw [splitCut separator absent, List.getLast?_cons, Option.mem_def.mp found]
      rfl

end Pieces

namespace Line

theorem tokensBare (line : Text) :
    tokens (strip line) = [[]] ↔ ∀ c ∈ line, isPadding c = true := by
  constructor
  · intro bare
    exact (tokensBlank line).mp (by simp [bare])
  · exact tokensPadding

theorem runInside {line before after : Text} {k : Nat}
    (run : strip line = before ++ List.replicate (k + 1) ' ' ++ after) :
    before ≠ [] ∧ after ≠ [] := by
  obtain ⟨first, last⟩ := stripEnds line
  rw [run] at first last
  constructor
  · rintro rfl
    simp [List.replicate_succ] at first
  · rintro rfl
    simp [List.getLast?_replicate] at last

end Line

namespace Record

theorem bareCount (marker : Text) (tokens : List Text) :
    (ofTokens marker tokens).entries.count marker = tokens.count [] := by
  have bare := List.count_map_of_injective tokens (marker ++ ·)
    (List.append_right_injective marker) []
  rwa [List.append_nil] at bare

theorem markedOther {token : Option Text} (other : ∃ text ∈ token, text ≠ []) (marker : Text) :
    ∃ entry ∈ token.map (marker ++ ·), entry ≠ marker := by
  obtain ⟨text, found, nonempty⟩ := other
  exact ⟨marker ++ text, Option.mem_map_of_mem _ found, by simpa using nonempty⟩

theorem markedFirst {tokens : List Text} (other : ∃ text ∈ tokens.head?, text ≠ [])
    (marker : Text) : ∃ entry ∈ (ofTokens marker tokens).entries.head?, entry ≠ marker := by
  rw [ofTokens, List.head?_map]
  exact markedOther other marker

theorem markedLast {tokens : List Text} (other : ∃ text ∈ tokens.getLast?, text ≠ [])
    (marker : Text) : ∃ entry ∈ (ofTokens marker tokens).entries.getLast?, entry ≠ marker := by
  rw [ofTokens, List.getLast?_map]
  exact markedOther other marker

theorem tokensRun (marker : Text) (k : Nat) (before after : Text) :
    (ofTokens marker (Line.tokens (before ++ List.replicate (k + 1) ' ' ++ after))).entries =
      (ofTokens marker (Line.tokens before)).entries ++ List.replicate k marker ++
        (ofTokens marker (Line.tokens after)).entries := by
  simp only [ofTokens, Line.tokens, Pieces.splitRun, List.map_append, List.map_replicate,
    List.append_nil]

end Record

namespace Options

theorem bareInside (marker : Text) {line : Text} (plain : ':' ∉ line) :
    ∃ record, formatLine ⟨.preserve, marker⟩ line = some record ∧
      (record.entries = [marker] ↔ ∀ c ∈ line, Line.isPadding c = true) ∧
      (record.entries ≠ [marker] →
        (∃ entry ∈ record.entries.head?, entry ≠ marker) ∧
          (∃ entry ∈ record.entries.getLast?, entry ≠ marker) ∧
          record.entries.count marker = Pieces.pairs ' ' (Line.strip line)) ∧
      ∀ k before after, Line.strip line = before ++ List.replicate (k + 1) ' ' ++ after →
        before.getLast? ≠ some ' ' → after.head? ≠ some ' ' →
          let front := (Record.ofTokens marker (Line.tokens before)).entries
          let behind := (Record.ofTokens marker (Line.tokens after)).entries
          record.entries = front ++ List.replicate k marker ++ behind ∧
            (∃ entry ∈ front.getLast?, entry ≠ marker) ∧
            ∃ entry ∈ behind.head?, entry ≠ marker := by
  have unannotated := (Line.unannotatedIff line).mpr plain
  have bare : (Record.ofTokens marker (Line.tokens (Line.strip line))).entries = [marker] ↔
      ∀ c ∈ line, Line.isPadding c = true := by
    rw [← Line.tokensBare]
    simp [Record.ofTokens, List.map_eq_singleton_iff]
  refine ⟨_, preserveKeeps marker unannotated, bare, fun other => ?_, ?_⟩
  · have core : Line.strip line ≠ [] :=
      fun blank => other (bare.mpr (Pieces.trimNothing.mp blank))
    obtain ⟨first, last⟩ := Line.stripEnds line
    refine ⟨Record.markedFirst (Pieces.splitFirst core first) marker,
      Record.markedLast (Pieces.splitLast core last) marker, ?_⟩
    rw [Record.bareCount]
    exact Pieces.splitPairs core first last
  · intro k before after run ended begun front behind
    obtain ⟨some, more⟩ := Line.runInside run
    refine ⟨?_, Record.markedLast (Pieces.splitLast some ended) marker,
      Record.markedFirst (Pieces.splitFirst more begun) marker⟩
    rw [run]
    exact Record.tokensRun marker k before after

theorem bareInsideRuns :
    let marker : Text := ['$']
    let before : Text := ['A', ' ', '\t', ' ', ' ', '\x00']
    let after : Text := ['é']
    let line : Text := [' ', ' '] ++ (before ++ List.replicate 3 ' ' ++ after) ++ [' ', '\r', '\n']
    ':' ∉ line ∧ Line.strip line = before ++ List.replicate 3 ' ' ++ after ∧
      before.getLast? ≠ some ' ' ∧ after.head? ≠ some ' ' ∧
      ∃ record, formatLine ⟨.preserve, marker⟩ line = some record ∧
        record.entries = [['$', 'A'], ['$', '\t'], marker, ['$', '\x00']] ++
          List.replicate 2 marker ++ [['$', 'é']] ∧
        record.entries ≠ [marker] ∧ record.entries.count marker = 3 := by
  intro marker before after line
  have plain : ':' ∉ line := by decide
  have core : Line.strip line = before ++ List.replicate 3 ' ' ++ after := by decide
  have ended : before.getLast? ≠ some ' ' := by decide
  have begun : after.head? ≠ some ' ' := by decide
  obtain ⟨record, formatted, -, others, runs⟩ := bareInside marker plain
  obtain ⟨entries, -, -⟩ := runs 2 before after core ended begun
  have some : record.entries ≠ [marker] := by
    rw [entries]
    decide
  have counted := (others some).2.2
  rw [core] at counted
  exact ⟨plain, core, ended, begun, record, formatted, entries, some, counted⟩

end Options
end HexDump
