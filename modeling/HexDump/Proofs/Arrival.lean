import HexDump.Proofs.Passage

/-! How an input arrives is invisible. Interruptions and the places where bytes are
cut into arrivals can be taken out of a source before a run or after it; what the
run shows is the same. -/
namespace HexDump

namespace Event

def isInterruption : Event → Bool
  | .data _ => false
  | .fault cause => cause.isInterruption

end Event

namespace Source

def uninterrupted (s : Source) : Source := s.filter (fun e => !e.isInterruption)

def join : Bytes → Source → Source
  | [], s => s
  | b :: bs, .data (c :: cs) :: rest => .data (b :: bs ++ c :: cs) :: rest
  | b :: bs, s => .data (b :: bs) :: s

def merge : Source → Source
  | [] => []
  | .fault cause :: rest => .fault cause :: merge rest
  | .data [] :: rest => .data [] :: merge rest
  | .data (b :: bs) :: rest => join (b :: bs) (merge rest)

def canonical (s : Source) : Source := s.uninterrupted.merge

theorem canonicalInterruption {cause : Fault} (interruption : cause.isInterruption = true)
    (rest : Source) : canonical (.fault cause :: rest) = canonical rest := by
  simp [canonical, uninterrupted, Event.isInterruption, interruption]

theorem canonicalFault {cause : Fault} (hard : cause.isInterruption = false) (rest : Source) :
    canonical (.fault cause :: rest) = .fault cause :: canonical rest := by
  simp [canonical, uninterrupted, Event.isInterruption, hard, merge]

theorem canonicalEnd (rest : Source) :
    canonical (.data [] :: rest) = .data [] :: canonical rest := rfl

theorem canonicalPush (bytes : Bytes) (rest : Source) :
    canonical (push bytes rest) = join bytes (canonical rest) := by
  cases bytes with
  | nil => rfl
  | cons b bs => rfl

theorem pushSome {bytes : Bytes} (some : bytes ≠ []) (rest : Source) :
    push bytes rest = .data bytes :: rest := if_neg some

theorem joinPushes (s : Source) :
    (∃ more rest, more ≠ [] ∧ s = .data more :: rest ∧
      ∀ bytes, join bytes s = push (bytes ++ more) rest) ∨
    (∀ bytes, join bytes s = push bytes s) := by
  cases s with
  | nil => exact .inr (fun bytes => by cases bytes <;> rfl)
  | cons event rest =>
    cases event with
    | fault cause => exact .inr (fun bytes => by cases bytes <;> rfl)
    | data more =>
      cases more with
      | nil => exact .inr (fun bytes => by cases bytes <;> rfl)
      | cons c cs =>
        exact .inl ⟨c :: cs, rest, by simp, rfl, fun bytes => by cases bytes <;> rfl⟩

theorem everyNotNewline {bytes : Bytes} (stopless : newline ∉ bytes) :
    ∀ c ∈ bytes, decide (c ≠ newline) = true := by
  intro c member
  have other : c ≠ newline := fun same => stopless (same ▸ member)
  simpa using other

theorem collectOpen (taken : Bytes) {bytes : Bytes} (stopless : newline ∉ bytes)
    (rest : Source) : collect taken (push bytes rest) = collect (taken ++ bytes) rest := by
  cases bytes with
  | nil => simp [push]
  | cons b bs =>
    have none : (b :: bs).dropWhile (· ≠ newline) = [] := by
      rw [← List.append_nil (b :: bs), List.dropWhile_append_of_pos (everyNotNewline stopless)]
      rfl
    rw [pushSome (by simp)]
    simp only [collect, none]

theorem collectCut (taken : Bytes) {front : Bytes} (stopless : newline ∉ front) (after : Bytes)
    (rest : Source) :
    collect taken (push (front ++ newline :: after) rest) =
      .line (taken ++ front ++ [newline]) (push after rest) := by
  have tail : (front ++ newline :: after).dropWhile (· ≠ newline) = newline :: after := by
    rw [List.dropWhile_append_of_pos (everyNotNewline stopless)]
    simp
  have head : (front ++ newline :: after).takeWhile (· ≠ newline) = front := by
    rw [List.takeWhile_append_of_pos (everyNotNewline stopless)]
    simp
  rw [pushSome (by simp)]
  cases whole : front ++ newline :: after with
  | nil => simp at whole
  | cons b bs =>
    rw [whole] at tail head
    simp only [collect, tail, head]

theorem collectJoinOpen (taken : Bytes) {bytes : Bytes} (stopless : newline ∉ bytes)
    (s : Source) : collect taken (join bytes s) = collect (taken ++ bytes) s := by
  rcases joinPushes s with ⟨more, rest, some, rfl, joins⟩ | joins
  · rw [joins, ← pushSome some]
    by_cases stop : newline ∈ more
    · obtain ⟨front, after, rfl, clear⟩ := List.eq_append_cons_of_mem stop
      have both : newline ∉ bytes ++ front := by simp [stopless, clear]
      rw [← List.append_assoc, collectCut _ both, collectCut _ clear,
        ← List.append_assoc taken bytes front]
    · have both : newline ∉ bytes ++ more := by simp [stopless, stop]
      rw [collectOpen _ both, collectOpen _ stop, List.append_assoc]
  · rw [joins, collectOpen _ stopless]

theorem collectJoinCut (taken : Bytes) {front : Bytes} (stopless : newline ∉ front)
    (after : Bytes) (s : Source) :
    collect taken (join (front ++ newline :: after) s) =
      .line (taken ++ front ++ [newline]) (join after s) := by
  rcases joinPushes s with ⟨more, rest, _, rfl, joins⟩ | joins
  · rw [joins, joins, List.append_assoc, List.cons_append, collectCut _ stopless]
  · rw [joins, joins, collectCut _ stopless]

namespace Reading

def canonical : Reading → Reading
  | .line bytes rest => .line bytes rest.canonical
  | .finished rest => .finished rest.canonical
  | .failed cause lost rest => .failed cause lost rest.canonical

end Reading

theorem settleCanonical (taken : Bytes) (rest : Source) :
    (settle taken rest).canonical = settle taken rest.canonical := by
  unfold settle
  split <;> rfl

/- Taking out the cuts and interruptions before a line is collected or after it
comes to the same, since a cut inside a line only moves bytes to what is taken. -/
theorem collectCanonical (taken : Bytes) (s : Source) :
    (collect taken s).canonical = collect taken s.canonical := by
  induction s generalizing taken with
  | nil => exact settleCanonical taken []
  | cons event rest ih =>
    cases event with
    | fault cause =>
      cases kind : cause.isInterruption with
      | true =>
        rw [canonicalInterruption kind, ← ih]
        simp [collect, kind]
      | false =>
        rw [canonicalFault kind]
        simp [collect, kind, Reading.canonical]
    | data bytes =>
      by_cases empty : bytes = []
      · subst empty
        rw [canonicalEnd]
        exact settleCanonical taken rest
      · rw [← pushSome empty, canonicalPush]
        by_cases stop : newline ∈ bytes
        · obtain ⟨front, after, rfl, clear⟩ := List.eq_append_cons_of_mem stop
          rw [collectCut taken clear, collectJoinCut taken clear, Reading.canonical, canonicalPush]
        · rw [collectOpen taken stop, collectJoinOpen taken stop, ih]

theorem nextLineCanonical (s : Source) : s.nextLine.canonical = s.canonical.nextLine :=
  collectCanonical [] s

end Source

def Report.canonical (r : Report) : Report := r.reread Source.canonical id

namespace Progress

def canonical (p : Progress) : Progress := p.reread Source.canonical id

theorem advanceCanonical (options : Options) (origin : Bytes) (p : Progress) :
    p.canonical.advance options origin =
      (p.advance options origin).reread Source.canonical id := by
  have reading : p.canonical.source.nextLine = p.source.nextLine.canonical :=
    p.source.nextLineCanonical.symm
  unfold advance
  rw [reading]
  cases p.source.nextLine with
  | finished rest => exact congrArg Step.stop (finishReread Source.canonical id (p.consume [] rest))
  | failed cause lost rest => rfl
  | line bytes rest => exact formatReread rfl Source.canonical id (p.consume bytes rest)

theorem runCanonical (options : Options) (origin : Bytes) (p : Progress) :
    (p.run options origin).canonical = p.canonical.run options origin :=
  (runMapped (advanceCanonical options origin) p).symm

end Progress

namespace Options

theorem formatStreamCanonical (options : Options) (s : Source) (sink : Sink) :
    (options.formatStream s sink).canonical = options.formatStream s.canonical sink :=
  Progress.runCanonical options anonymous (.start s sink #[])

theorem formatStreamsCanonical (options : Options) (runs : Nat) (s : Source) (sink : Sink) :
    (options.formatStreams runs s sink).map Report.answer =
      (options.formatStreams runs s.canonical sink).map Report.answer := by
  induction runs generalizing s sink with
  | zero => rfl
  | succ runs ih =>
    have same := options.formatStreamCanonical s sink
    simp only [formatStreams, List.map_cons]
    rw [← same, ih]
    rfl

theorem arrivalInvisible (options : Options) (runs : Nat) (sink : Sink) {s t : Source}
    (alike : s.canonical = t.canonical) :
    (options.formatStreams runs s sink).map Report.answer =
      (options.formatStreams runs t sink).map Report.answer := by
  rw [formatStreamsCanonical, alike, ← formatStreamsCanonical]

theorem arrivalInvisibleInCharacter :
    let s : Source := [.data [0x41, 0xC3], .fault (.plain .interrupted), .data [0xA9],
      .fault (.plain .interrupted), .data [0x0A, 0x42], .data [], .fault (.plain .other),
      .data [0x43], .data [0x0A]]
    let t : Source := [.data [0x41, 0xC3, 0xA9, 0x0A, 0x42], .data [], .fault (.plain .other),
      .data [0x43, 0x0A]]
    let sink : Sink := ⟨some 20, none, some 2, 3, none⟩
    s.canonical = t.canonical ∧
      (Options.default.formatStreams 3 s sink).map Report.answer =
        (Options.default.formatStreams 3 t sink).map Report.answer := by
  intro s t sink
  have alike : s.canonical = t.canonical := by decide
  exact ⟨alike, arrivalInvisible Options.default 3 sink alike⟩

end Options
end HexDump
