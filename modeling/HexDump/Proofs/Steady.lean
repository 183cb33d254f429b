import HexDump.Proofs.Arrival

/-! The steady part of a source: bytes and interruptions, no end of the input and
no fault. A line is cut from it wherever its bytes were cut into arrivals, and what
stands behind the steady part is not touched before its last newline is passed. -/
namespace HexDump

def Event.bytes : Event → Bytes
  | .data bytes => bytes
  | .fault _ => []

namespace Source

inductive Steady : Source → Prop where
  | nil : Steady []
  | data {bytes : Bytes} {s : Source} (some : bytes ≠ []) (next : Steady s) :
      Steady (.data bytes :: s)
  | interruption {cause : Fault} {s : Source} (interrupted : cause.isInterruption = true)
      (next : Steady s) : Steady (.fault cause :: s)

instance decideSteady : (s : Source) → Decidable (Steady s)
  | [] => isTrue .nil
  | .data bytes :: s =>
    have := decideSteady s
    decidable_of_iff (bytes ≠ [] ∧ Steady s)
      ⟨fun ⟨bytes, next⟩ => .data bytes next, fun | .data bytes next => ⟨bytes, next⟩⟩
  | .fault cause :: s =>
    have := decideSteady s
    decidable_of_iff (cause.isInterruption = true ∧ Steady s)
      ⟨fun ⟨interrupted, next⟩ => .interruption interrupted next,
        fun | .interruption interrupted next => ⟨interrupted, next⟩⟩

def content (s : Source) : Bytes := s.flatMap Event.bytes

def complete (bytes : Bytes) : Bytes := (bytes.reverse.dropWhile (· ≠ newline)).reverse

def remainder (bytes : Bytes) : Bytes := (bytes.reverse.takeWhile (· ≠ newline)).reverse

def Closed (bytes : Bytes) : Prop := ∀ b ∈ bytes.getLast?, b = newline
instance (bytes : Bytes) : Decidable (Closed bytes) :=
  inferInstanceAs (Decidable (∀ b ∈ bytes.getLast?, b = newline))

@[simp] theorem contentNil : content [] = [] := rfl

@[simp] theorem contentData (bytes : Bytes) (s : Source) :
    content (.data bytes :: s) = bytes ++ s.content := rfl

@[simp] theorem contentFault (cause : Fault) (s : Source) :
    content (.fault cause :: s) = s.content := rfl

theorem steadyPush (bytes : Bytes) {s : Source} (steady : s.Steady) : (push bytes s).Steady := by
  cases bytes with
  | nil => exact steady
  | cons b bs => exact .data (by simp) steady

theorem contentPush (bytes : Bytes) (s : Source) : (push bytes s).content = bytes ++ s.content := by
  cases bytes <;> rfl

theorem pushAppend (bytes : Bytes) (s after : Source) :
    push bytes s ++ after = push bytes (s ++ after) := by
  cases bytes <;> rfl

theorem collectInterrupted {cause : Fault} (interrupted : cause.isInterruption = true)
    (taken : Bytes) (s : Source) : collect taken (.fault cause :: s) = collect taken s := by
  simp [collect, interrupted]

theorem collectSteady {before : Source} (steady : before.Steady)
    (stopless : newline ∉ before.content) (taken : Bytes) (after : Source) :
    collect taken (before ++ after) = collect (taken ++ before.content) after := by
  induction steady generalizing taken with
  | nil => simp
  | interruption interrupted next ih =>
    exact (collectInterrupted interrupted taken _).trans (ih stopless taken)
  | data some next ih =>
    rw [contentData] at stopless ⊢
    simp only [List.mem_append, not_or] at stopless
    rw [List.cons_append, ← pushSome some, collectOpen taken stopless.1, ih stopless.2,
      List.append_assoc]

theorem cutLater {bytes more front behind : Bytes} (stopless : newline ∉ bytes)
    (whole : bytes ++ more = front ++ newline :: behind) :
    ∃ later, front = bytes ++ later ∧ more = later ++ newline :: behind := by
  rcases List.append_eq_append_iff.mp whole with ⟨later, same, rest⟩ | ⟨later, same, rest⟩
  · exact ⟨later, same, rest⟩
  · cases later with
    | nil => exact ⟨[], by simpa using same.symm, by simpa using rest.symm⟩
    | cons b later =>
      obtain ⟨rfl, _⟩ := List.cons.inj rest
      exact absurd (same ▸ List.mem_append_right front List.mem_cons_self) stopless

theorem cutUnique {first front more behind : Bytes} (fresh : newline ∉ first)
    (clear : newline ∉ front) (whole : first ++ newline :: more = front ++ newline :: behind) :
    first = front ∧ more = behind := by
  have others : ∀ {bytes : Bytes}, newline ∉ bytes → ∀ b ∈ bytes, ¬ b = newline :=
    fun absent b member same => absent (same ▸ member)
  obtain ⟨same, _, rest⟩ := Pieces.firstUnique (others fresh) rfl (others clear) rfl whole
  exact ⟨same, rest⟩

theorem collectSteadyCut {before : Source} (steady : before.Steady) {front behind : Bytes}
    (whole : before.content = front ++ newline :: behind) (clear : newline ∉ front) :
    ∃ rest : Source, rest.Steady ∧ rest.content = behind ∧ ∀ taken after,
      collect taken (before ++ after) = .line (taken ++ front ++ [newline]) (rest ++ after) := by
  induction steady generalizing front with
  | nil => simp at whole
  | interruption interrupted next ih =>
    obtain ⟨rest, steady, content, cut⟩ := ih whole clear
    exact ⟨rest, steady, content,
      fun taken after => (collectInterrupted interrupted taken _).trans (cut taken after)⟩
  | @data bytes s some next ih =>
    rw [contentData] at whole
    by_cases stop : newline ∈ bytes
    · obtain ⟨first, more, rfl, fresh⟩ := List.eq_append_cons_of_mem stop
      rw [List.append_assoc, List.cons_append] at whole
      obtain ⟨rfl, rfl⟩ := cutUnique fresh clear whole
      refine ⟨push more s, steadyPush more next, contentPush more s, fun taken after => ?_⟩
      rw [List.cons_append, ← pushSome some, collectCut taken fresh, pushAppend]
    · obtain ⟨later, rfl, rest⟩ := cutLater stop whole
      simp only [List.mem_append, not_or] at clear
      obtain ⟨rest, steady, content, cut⟩ := ih rest clear.2
      refine ⟨rest, steady, content, fun taken after => ?_⟩
      rw [List.cons_append, ← pushSome some, collectOpen taken stop, cut]
      simp only [List.append_assoc]

theorem completeRemainder (bytes : Bytes) : complete bytes ++ remainder bytes = bytes := by
  unfold complete remainder
  rw [← List.reverse_append, List.takeWhile_append_dropWhile, List.reverse_reverse]

theorem remainderStopless (bytes : Bytes) : newline ∉ remainder bytes := by
  intro member
  have other := List.all_eq_true.mp List.all_takeWhile _ (List.mem_reverse.mp member)
  simp at other

theorem completeClosed (bytes : Bytes) : Closed (complete bytes) := by
  intro b last
  unfold complete at last
  rw [List.getLast?_reverse, Option.mem_def] at last
  have stop := List.head?_dropWhile_not (· ≠ newline) bytes.reverse
  rw [last] at stop
  simpa using stop

theorem closedCut {front behind : Bytes} :
    Closed (front ++ newline :: behind) ↔ Closed behind := by
  unfold Closed
  rw [List.getLast?_append, List.getLast?_cons]
  cases behind.getLast? <;> simp

theorem closedNil : Closed [] := by simp [Closed]

theorem closedStopless {bytes : Bytes} (closed : Closed bytes) (stopless : newline ∉ bytes) :
    bytes = [] := by
  by_cases empty : bytes = []
  · exact empty
  · have stop := closed _ (List.getLast?_eq_some_getLast empty)
    exact absurd (stop ▸ List.getLast_mem empty) stopless

theorem steadyReads {s : Source} (steady : s.Steady) (closed : Closed s.content) :
    (s.content = [] ∧ ∀ after, (s ++ after).nextLine = after.nextLine) ∨
    ∃ (line : Bytes) (rest : Source), rest.Steady ∧ Closed rest.content ∧
      ∀ after, (s ++ after).nextLine = .line line (rest ++ after) := by
  by_cases stop : newline ∈ s.content
  · obtain ⟨front, behind, whole, clear⟩ := List.eq_append_cons_of_mem stop
    obtain ⟨rest, calm, content, cut⟩ := collectSteadyCut steady whole clear
    have later : Closed rest.content := by
      rwa [content, ← closedCut, ← whole]
    exact .inr ⟨_, rest, calm, later, cut []⟩
  · have empty := closedStopless closed stop
    refine .inl ⟨empty, fun after => ?_⟩
    have collected := collectSteady steady stop [] after
    rwa [empty] at collected

theorem yieldsSteady {before : Source} (steady : before.Steady) {kept lost : Bytes}
    (whole : before.content = kept ++ lost) (closed : Closed kept) :
    ∃ rest : Source, rest.Steady ∧ rest.content = lost ∧ ∀ after,
      (before ++ after).Yields (Pieces.lines newline kept) (rest ++ after) := by
  induction kept using Pieces.cutInduction newline generalizing before with
  | nil => exact ⟨before, steady, whole, fun after => .nil _⟩
  | last kept some absent =>
    exact absurd (closedStopless closed absent) some
  | cut front behind absent ih =>
    rw [List.append_assoc, List.cons_append] at whole
    obtain ⟨mid, steady, content, cut⟩ := collectSteadyCut steady whole absent
    obtain ⟨rest, steady, content, yields⟩ := ih steady content (closedCut.mp closed)
    rw [Pieces.linesCut _ absent]
    exact ⟨rest, steady, content, fun after => .cons (cut [] after) (yields after)⟩

theorem yieldsToEnd {s : Source} (steady : s.Steady) :
    ∃ rest, s.Yields (Pieces.lines newline s.content) rest ∧ rest.nextLine = .finished [] := by
  generalize whole : s.content = bytes
  induction bytes using Pieces.cutInduction newline generalizing s with
  | nil =>
    have collected := collectSteady steady (by simp [whole]) [] []
    rw [List.append_nil, whole] at collected
    exact ⟨s, .nil s, collected⟩
  | last bytes some absent =>
    have collected := collectSteady steady (whole ▸ absent) [] []
    rw [List.append_nil, whole, List.nil_append] at collected
    have line : s.nextLine = .line bytes [] := collected.trans (by simp [collect, settle, some])
    rw [Pieces.linesOpen _ absent some]
    exact ⟨[], .cons line (.nil []), rfl⟩
  | cut front behind absent ih =>
    obtain ⟨mid, steady, content, cut⟩ := collectSteadyCut steady whole absent
    obtain ⟨rest, yields, finished⟩ := ih steady content
    have line := cut [] []
    rw [List.append_nil, List.append_nil] at line
    rw [Pieces.linesCut _ absent]
    exact ⟨rest, .cons line yields, finished⟩

end Source
end HexDump
