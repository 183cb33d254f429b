import HexDump.Options
import Mathlib.Data.List.DropRight

/-! The core of a line. Whoever takes padding off both ends until none is left there comes to
the same text, in whatever order it is taken off; so what is known of a line's padding says
what its core is, and trimming need not be looked at again. -/
namespace HexDump

namespace Pieces

variable {α : Type} {p : α → Bool} {l core : List α}

structure Core (p : α → Bool) (l core : List α) : Prop where
  around : ∃ front back, (∀ a ∈ front, p a = true) ∧ (∀ a ∈ back, p a = true) ∧
    l = front ++ core ++ back
  first : ∀ a ∈ core.head?, p a = false
  last : ∀ a ∈ core.getLast?, p a = false

theorem trimFront {front : List α} (padding : ∀ a ∈ front, p a = true) (l : List α) :
    trim p (front ++ l) = trim p l := by
  unfold trim
  rw [List.dropWhile_append_of_pos padding]

theorem trimBack {back : List α} (padding : ∀ a ∈ back, p a = true) (l : List α) :
    trim p (l ++ back) = trim p l := by
  induction back generalizing l with
  | nil => rw [List.append_nil]
  | cons a back ih =>
    have rest := ih (fun b member => padding b (List.mem_cons_of_mem _ member)) (l ++ [a])
    rw [List.append_assoc] at rest
    exact rest.trans (trimPadded (padding a List.mem_cons_self) l)

theorem trimEnded (first : ∀ a ∈ l.head?, p a = false) (last : ∀ a ∈ l.getLast?, p a = false) :
    trim p l = l := by
  have front : l.dropWhile p = l := by
    cases l with
    | nil => rfl
    | cons a rest => exact List.dropWhile_cons_of_neg (by simp [first a rfl])
  have back : l.rdropWhile p = l := by
    refine List.rdropWhile_eq_self_iff.mpr (fun some => ?_)
    simp [last _ (List.getLast?_eq_some_getLast some)]
  have both : trim p l = (l.dropWhile p).rdropWhile p := rfl
  rw [both, front, back]

theorem trimCore (p : α → Bool) (l : List α) : Core p l (trim p l) := by
  have padded : l = l.takeWhile p ++ trim p l ++ (l.dropWhile p).rtakeWhile p := by
    have back : trim p l ++ (l.dropWhile p).rtakeWhile p = l.dropWhile p :=
      List.rdropWhile_append_rtakeWhile
    rw [List.append_assoc, back, List.takeWhile_append_dropWhile]
  refine ⟨⟨_, _, fun a => List.mem_takeWhile_imp, fun a => List.mem_rtakeWhile_imp, padded⟩, ?_, ?_⟩
  · intro a first
    obtain ⟨back, whole⟩ : trim p l <+: l.dropWhile p := List.rdropWhile_prefix p _
    have same : (l.dropWhile p).head? = some a := by
      rw [← whole, List.head?_append, Option.mem_def.mp first, Option.some_or]
    have stays := List.head?_dropWhile_not p l
    rw [same] at stays
    exact stays
  · intro a last
    obtain ⟨some, rfl⟩ := List.mem_getLast?_eq_getLast last
    exact Bool.not_eq_true _ ▸ List.rdropWhile_last_not p _ some

theorem coreUnique (only : Core p l core) : core = trim p l := by
  obtain ⟨front, back, before, after, rfl⟩ := only.around
  rw [trimBack after, trimFront before, trimEnded only.first only.last]

theorem trimNothing : trim p l = [] ↔ ∀ a ∈ l, p a = true := by
  constructor
  · intro nothing
    obtain ⟨front, back, before, after, whole⟩ := (trimCore p l).around
    rw [nothing, List.append_nil] at whole
    rw [whole]
    exact List.forall_mem_append.mpr ⟨before, after⟩
  · intro padding
    have nothing : Core p l [] := ⟨⟨l, [], padding, by simp, by simp⟩, by simp, by simp⟩
    exact (coreUnique nothing).symm

theorem dropBefore {front : List α} {a : α} (stays : ∃ b ∈ front ++ [a], p b = false)
    (back : List α) : (front ++ a :: back).dropWhile p = front.dropWhile p ++ a :: back := by
  rw [List.dropWhile_append]
  split
  · rename_i empty
    have nothing := List.isEmpty_iff.mp empty
    have padding := List.dropWhile_eq_nil_iff.mp nothing
    obtain ⟨b, member, kept⟩ := stays
    rcases List.mem_append.mp member with inside | same
    · simp [padding b inside] at kept
    · rw [List.mem_singleton.mp same] at kept
      rw [nothing, List.dropWhile_cons_of_neg (by simp [kept])]
      rfl
  · rfl

theorem dropBehind {back : List α} {a : α} (stays : ∃ b ∈ a :: back, p b = false)
    (front : List α) : (front ++ a :: back).rdropWhile p = front ++ a :: back.rdropWhile p := by
  have turned : ∃ b ∈ back.reverse ++ [a], p b = false := by simpa [or_comm] using stays
  have dropped := dropBefore turned front.reverse
  simpa [List.rdropWhile] using congrArg List.reverse dropped

theorem trimInside {before after : List α} {a : α} (front : ∃ b ∈ before ++ [a], p b = false)
    (back : ∃ b ∈ a :: after, p b = false) :
    trim p (before ++ a :: after) = before.dropWhile p ++ a :: after.rdropWhile p := by
  have both : trim p (before ++ a :: after) =
      ((before ++ a :: after).dropWhile p).rdropWhile p := rfl
  rw [both, dropBefore front, dropBehind back]

end Pieces

namespace Line

theorem paddingNarrow {c : Char} (padding : isPadding c = true) : c.toNat < 0x80 := by
  simp only [isPadding, Bool.or_eq_true, decide_eq_true_eq] at padding
  rcases padding with (((((rfl | rfl) | rfl) | rfl) | rfl) | rfl) | rfl <;> decide

theorem paddingPlain {text : Text} (padding : ∀ c ∈ text, isPadding c = true) : ':' ∉ text := by
  intro member
  have colon := padding ':' member
  revert colon
  decide

theorem annotatedPadded {before after : Text} (front : ∀ c ∈ before, isPadding c = true)
    (back : ∀ c ∈ after, isPadding c = true) (line : Text) :
    isAnnotated (before ++ line ++ after) = isAnnotated line := by
  simp [isAnnotated, paddingPlain front, paddingPlain back]

theorem annotatedCore {line core : Text} (only : Pieces.Core isPadding line core) :
    isAnnotated core = isAnnotated line := by
  obtain ⟨before, after, front, back, rfl⟩ := only.around
  exact (annotatedPadded front back core).symm

theorem stripEnds (line : Text) :
    (strip line).head? ≠ some ' ' ∧ (strip line).getLast? ≠ some ' ' := by
  have space : ¬ isPadding ' ' = false := by decide
  have core := Pieces.trimCore isPadding line
  exact ⟨fun same => space (core.first ' ' same), fun same => space (core.last ' ' same)⟩

theorem stripUnique (line : Text) :
    Pieces.Core isPadding line (strip line) ∧
      (∀ core, Pieces.Core isPadding line core → core = strip line) ∧
      (strip line = [] ↔ ∀ c ∈ line, isPadding c = true) ∧
      strip (strip line) = strip line ∧
      (∀ before c after, line = before ++ c :: after →
        (∃ a ∈ before ++ [c], isPadding a = false) → (∃ b ∈ c :: after, isPadding b = false) →
          ∃ front back, strip line = front ++ c :: back ∧ front <:+ before ∧ back <+: after) ∧
      (∀ c : Char, 0x80 ≤ c.toNat → isPadding c = false) ∧
      isAnnotated (strip line) = isAnnotated line := by
  have found : Pieces.Core isPadding line (strip line) := Pieces.trimCore isPadding line
  refine ⟨found, fun core only => Pieces.coreUnique only, Pieces.trimNothing,
    Pieces.trimEnded found.first found.last, ?_, ?_, annotatedCore found⟩
  · rintro before c after rfl front back
    exact ⟨_, _, Pieces.trimInside front back, List.dropWhile_suffix isPadding,
      List.rdropWhile_prefix isPadding after⟩
  · intro c wide
    cases padding : isPadding c with
    | false => rfl
    | true => exact absurd (paddingNarrow padding) (Nat.not_lt.mpr wide)

theorem stripUniqueWide :
    let before : Text := ['\x00', ' ', '\t']
    let core : Text := ['\u00a0', 'A', ':', ' ', '\t', ' ', '\u2003']
    let after : Text := ['\x0b', '\x0c', '\r', '\n']
    let line := before ++ core ++ after
    Pieces.Core isPadding line core ∧ core = strip line ∧
      (∃ a ∈ before ++ ['\u00a0', 'A', ':', ' '] ++ ['\t'], isPadding a = false) ∧
      (∃ b ∈ '\t' :: ([' ', '\u2003'] ++ after), isPadding b = false) ∧
      (∃ front back, strip line = front ++ '\t' :: back ∧
        front <:+ before ++ ['\u00a0', 'A', ':', ' '] ∧ back <+: [' ', '\u2003'] ++ after) ∧
      isPadding '\u2003' = false ∧ isAnnotated core = true := by
  intro before core after line
  have padded : ∀ c ∈ before, isPadding c = true := by simp [before, isPadding]
  have ended : ∀ c ∈ after, isPadding c = true := by simp [after, isPadding]
  have around : Pieces.Core isPadding line core :=
    ⟨⟨before, after, padded, ended, rfl⟩, by simp [core, isPadding], by simp [core, isPadding]⟩
  have front : ∃ a ∈ before ++ ['\u00a0', 'A', ':', ' '] ++ ['\t'], isPadding a = false :=
    ⟨'A', by decide, by decide⟩
  have back : ∃ b ∈ '\t' :: ([' ', '\u2003'] ++ after), isPadding b = false :=
    ⟨'\u2003', by decide, by decide⟩
  obtain ⟨-, unique, -, -, inside, wide, annotated⟩ := stripUnique line
  have same := unique core around
  have colon : isAnnotated line = true := by decide
  exact ⟨around, same, front, back, inside _ '\t' _ rfl front back, wide _ (by decide),
    same ▸ annotated.trans colon⟩

end Line
end HexDump
