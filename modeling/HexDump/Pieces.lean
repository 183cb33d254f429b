/-! Cutting, trimming and chunking of lists, for bytes and characters alike.
A cut never drops or adds an element: `splitJoin` puts the separators back and
`linesFlatten` needs none, since a line keeps its stop. -/
namespace HexDump.Pieces

variable {α : Type}

def extend (a : α) : List (List α) → List (List α)
  | [] => [[a]]
  | piece :: pieces => (a :: piece) :: pieces

def split [DecidableEq α] (separator : α) (l : List α) : List (List α) :=
  l.foldr (fun a pieces => if a = separator then [] :: pieces else extend a pieces) [[]]

/-- Each line ends with its stop, apart from a last one that may lack it. No line
is empty. -/
def lines [DecidableEq α] (stop : α) (l : List α) : List (List α) :=
  l.foldr (fun a pieces => if a = stop then [a] :: pieces else extend a pieces) []

def trim (p : α → Bool) (l : List α) : List α :=
  ((l.dropWhile p).reverse.dropWhile p).reverse

def chunks (size : Nat) : List α → List (List α)
  | [] => []
  | a :: rest => (a :: rest.take size) :: chunks size (rest.drop size)
termination_by l => l.length
decreasing_by simp only [List.length_drop, List.length_cons]; omega

theorem trimMember {p : α → Bool} {l : List α} {a : α} (inside : a ∈ trim p l) : a ∈ l := by
  have back := List.dropWhile_subset p (List.mem_reverse.mp inside)
  exact List.dropWhile_subset p (List.mem_reverse.mp back)

theorem trimPadded {p : α → Bool} {a : α} (padding : p a = true) (l : List α) :
    trim p (l ++ [a]) = trim p l := by
  unfold trim
  rw [List.dropWhile_append]
  split
  · rename_i empty
    simp [List.isEmpty_iff.mp empty, padding]
  · simp [padding]

theorem filterLengths (p : α → Bool) (l : List α) :
    (l.filter (fun a => !p a)).length + (l.filter p).length = l.length := by
  induction l with
  | nil => rfl
  | cons a rest ih => cases kept : p a <;> simp [kept] <;> omega

theorem firstUnique {p : α → Prop} {front behind first more : List α} {a b : α}
    (clear : ∀ x ∈ front, ¬ p x) (hit : p a) (fresh : ∀ x ∈ first, ¬ p x) (other : p b)
    (whole : front ++ a :: behind = first ++ b :: more) :
    front = first ∧ a = b ∧ behind = more := by
  induction front generalizing first with
  | nil =>
    cases first with
    | nil => exact ⟨rfl, List.cons.inj whole⟩
    | cons y first =>
      obtain ⟨rfl, _⟩ := List.cons.inj whole
      exact absurd hit (fresh _ List.mem_cons_self)
  | cons x front ih =>
    cases first with
    | nil =>
      obtain ⟨rfl, _⟩ := List.cons.inj whole
      exact absurd other (clear _ List.mem_cons_self)
    | cons y first =>
      obtain ⟨rfl, rest⟩ := List.cons.inj whole
      obtain ⟨rfl, same⟩ := ih (fun x member => clear x (List.mem_cons_of_mem _ member))
        (fun x member => fresh x (List.mem_cons_of_mem _ member)) rest
      exact ⟨rfl, same⟩

theorem joinAbsent {separator : List α} {a : α} (fresh : a ∉ separator) {pieces : List (List α)}
    (absent : ∀ piece ∈ pieces, a ∉ piece) : a ∉ separator.intercalate pieces := by
  induction pieces with
  | nil => simp
  | cons piece pieces ih =>
    have first := absent piece List.mem_cons_self
    have others := ih (fun piece member => absent piece (List.mem_cons_of_mem _ member))
    cases pieces with
    | nil => simpa using first
    | cons next pieces =>
      rw [List.intercalate_cons_cons]
      simp [first, fresh, others]

theorem joinMember (separator : List α) {pieces : List (List α)} {piece : List α} {a : α}
    (member : piece ∈ pieces) (inside : a ∈ piece) : a ∈ separator.intercalate pieces := by
  induction pieces with
  | nil => contradiction
  | cons first rest ih =>
    cases rest with
    | nil =>
      rw [List.mem_singleton.mp member] at inside
      simpa using inside
    | cons next rest =>
      rw [List.intercalate_cons_cons]
      rcases List.mem_cons.mp member with same | later
      · rw [same] at inside
        simp [inside]
      · exact List.mem_append_right _ (ih later)

section
variable [DecidableEq α] (separator : α)

@[simp] theorem splitNil : split separator [] = [[]] := rfl

theorem splitCons (a : α) (l : List α) :
    split separator (a :: l) =
      if a = separator then [] :: split separator l else extend a (split separator l) := rfl

theorem splitNonempty (l : List α) : split separator l ≠ [] := by
  cases l with
  | nil => simp
  | cons a rest =>
    rw [splitCons]
    split
    · simp
    · cases split separator rest <;> simp [extend]

theorem splitJoin (l : List α) : [separator].intercalate (split separator l) = l := by
  induction l with
  | nil => simp [List.intercalate]
  | cons a rest ih =>
    rw [splitCons]
    have nonempty := splitNonempty separator rest
    split
    · rename_i same
      subst same
      cases h : split a rest with
      | nil => contradiction
      | cons piece pieces =>
        rw [h] at ih
        simp [← ih, List.intercalate, List.intersperse]
    · cases h : split separator rest with
      | nil => contradiction
      | cons piece pieces =>
        rw [h] at ih
        cases pieces <;> simpa [extend, List.intercalate, List.intersperse] using ih

@[simp] theorem linesNil : lines separator [] = [] := rfl

theorem linesCons (a : α) (l : List α) :
    lines separator (a :: l) =
      if a = separator then [a] :: lines separator l else extend a (lines separator l) := rfl

theorem linesFlatten (l : List α) : (lines separator l).flatten = l := by
  induction l with
  | nil => rfl
  | cons a rest ih =>
    rw [linesCons]
    split
    · simp [ih]
    · cases h : lines separator rest with
      | nil => simp only [h] at ih; simp [extend, ← ih]
      | cons line more => simp only [h] at ih; simp [extend, ← ih]

theorem splitAbsent {l piece : List α} (member : piece ∈ split separator l) :
    separator ∉ piece := by
  induction l generalizing piece with
  | nil => simp_all
  | cons a rest ih =>
    rw [splitCons] at member
    split at member
    · rcases List.mem_cons.mp member with same | later
      · simp [same]
      · exact ih later
    · rename_i other
      cases parts : split separator rest with
      | nil => exact absurd parts (splitNonempty separator rest)
      | cons first more =>
        rw [parts] at member ih
        rcases List.mem_cons.mp member with same | later
        · rw [same]
          have fresh : separator ∉ first := ih List.mem_cons_self
          simp [Ne.symm other, fresh]
        · exact ih (List.mem_cons_of_mem _ later)

theorem splitOpen {l : List α} (absent : separator ∉ l) : split separator l = [l] := by
  induction l with
  | nil => rfl
  | cons a rest ih =>
    obtain ⟨other, absent⟩ := not_or.mp (mt List.mem_cons.mpr absent)
    rw [splitCons, if_neg (Ne.symm other), ih absent]
    rfl

theorem splitCut {front : List α} (absent : separator ∉ front) (after : List α) :
    split separator (front ++ separator :: after) = front :: split separator after := by
  induction front with
  | nil => simp [splitCons]
  | cons a rest ih =>
    obtain ⟨other, absent⟩ := not_or.mp (mt List.mem_cons.mpr absent)
    rw [List.cons_append, splitCons, if_neg (Ne.symm other), ih absent]
    rfl

theorem splitMember {l piece : List α} (member : piece ∈ split separator l) {a : α}
    (inside : a ∈ piece) : a ∈ l := by
  have joined := joinMember [separator] member inside
  rwa [splitJoin] at joined

@[elab_as_elim]
theorem cutInduction {motive : List α → Prop} (nil : motive [])
    (last : ∀ l, l ≠ [] → separator ∉ l → motive l)
    (cut : ∀ front after, separator ∉ front → motive after →
      motive (front ++ separator :: after)) (l : List α) : motive l := by
  induction size : l.length using Nat.strongRecOn generalizing l with
  | ind n ih =>
    by_cases stop : separator ∈ l
    · obtain ⟨front, after, rfl, absent⟩ := List.eq_append_cons_of_mem stop
      have shorter : after.length < n := by
        rw [← size, List.length_append, List.length_cons]
        omega
      exact cut front after absent (ih _ shorter after rfl)
    · by_cases empty : l = []
      · exact empty ▸ nil
      · exact last l empty stop

theorem linesOpen {l : List α} (absent : separator ∉ l) (some : l ≠ []) :
    lines separator l = [l] := by
  induction l with
  | nil => contradiction
  | cons a rest ih =>
    obtain ⟨other, absent⟩ := not_or.mp (mt List.mem_cons.mpr absent)
    rw [linesCons, if_neg (Ne.symm other)]
    cases rest with
    | nil => rfl
    | cons b more =>
      rw [ih absent (by simp)]
      rfl

theorem linesCut {front : List α} (absent : separator ∉ front) (after : List α) :
    lines separator (front ++ separator :: after) =
      (front ++ [separator]) :: lines separator after := by
  induction front with
  | nil => simp [linesCons]
  | cons a rest ih =>
    obtain ⟨other, absent⟩ := not_or.mp (mt List.mem_cons.mpr absent)
    rw [List.cons_append, linesCons, if_neg (Ne.symm other), ih absent]
    rfl

theorem linesWhole {l line : List α} (member : line ∈ lines separator l) :
    lines separator line = [line] := by
  induction l using cutInduction separator with
  | nil => contradiction
  | last l some absent =>
    rw [linesOpen _ absent some] at member
    rw [List.mem_singleton.mp member, linesOpen _ absent some]
  | cut front after absent ih =>
    rw [linesCut _ absent] at member
    rcases List.mem_cons.mp member with same | later
    · rw [same]
      exact linesCut separator absent []
    · exact ih later

theorem splitLength (l : List α) : (split separator l).length = l.count separator + 1 := by
  induction l using cutInduction separator with
  | nil => rfl
  | last l some absent => rw [splitOpen _ absent, List.count_eq_zero.mpr absent, List.length_singleton]
  | cut front after absent ih =>
    rw [splitCut _ absent, List.length_cons, ih, List.count_append, List.count_cons_self,
      List.count_eq_zero.mpr absent, Nat.zero_add]

theorem linesMember {l line : List α} (member : line ∈ lines separator l) :
    separator ∉ line ∨ ∃ front, separator ∉ front ∧ line = front ++ [separator] := by
  induction l using cutInduction separator with
  | nil => contradiction
  | last l some absent =>
    rw [linesOpen _ absent some] at member
    exact .inl (List.mem_singleton.mp member ▸ absent)
  | cut front after absent ih =>
    rw [linesCut _ absent] at member
    rcases List.mem_cons.mp member with same | later
    · exact .inr ⟨front, absent, same⟩
    · exact ih later

theorem linesSublist {l : List α} {kept : List (List α)} (left : kept.Sublist (lines separator l)) :
    lines separator kept.flatten = kept := by
  induction l using cutInduction separator generalizing kept with
  | nil => rw [List.sublist_nil.mp left]; rfl
  | last l some absent =>
    rw [linesOpen _ absent some] at left
    rcases List.sublist_cons_iff.mp left with none | ⟨more, rfl, none⟩
    · rw [List.sublist_nil.mp none]
      rfl
    · rw [List.sublist_nil.mp none, List.flatten_singleton, linesOpen _ absent some]
  | cut front after absent ih =>
    rw [linesCut _ absent] at left
    rcases List.sublist_cons_iff.mp left with later | ⟨more, rfl, later⟩
    · exact ih later
    · rw [List.flatten_cons, List.append_assoc, List.singleton_append, linesCut _ absent, ih later]

end

theorem chunksFlatten (size : Nat) (l : List α) : (chunks size l).flatten = l := by
  fun_induction chunks size l with
  | case1 => rfl
  | case2 a rest ih => simp [ih]

end HexDump.Pieces
