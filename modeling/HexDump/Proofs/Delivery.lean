import HexDump.Sink

/-! What a delivery comes to. Interruptions, short writes and the cut into
segments leave no trace: only the room decides what is taken, and the refusal
decides the fault. Offering no bytes at all is no write and changes nothing. -/
namespace HexDump.Sink

def refusalFault (sink : Sink) : Fault :=
  match sink.refusal with
  | some refusal => refusal.cause
  | none => .described .writeZero "failed to write whole buffer".toList

def Usable (sink : Sink) : Prop := sink.largestWrite ≠ some 0
instance (sink : Sink) : Decidable sink.Usable := inferInstanceAs (Decidable (_ ≠ _))

def Fits (sink : Sink) (count : Nat) : Prop := ∀ room ∈ sink.room, count ≤ room
instance (sink : Sink) (count : Nat) : Decidable (sink.Fits count) :=
  inferInstanceAs (Decidable (∀ room ∈ sink.room, count ≤ room))

def offered (sink : Sink) (count : Nat) : Sink :=
  if count = 0 then sink
  else { sink with room := sink.room.map (· - count), interruptions := 0 }

/-- One offer of all the bytes, as if nothing could come in between. -/
def settle (sink : Sink) (bytes : Bytes) : Delivery :=
  ⟨sink.offered bytes.length, bytes.drop (sink.room.getD bytes.length),
    if sink.Fits bytes.length then none else some sink.refusalFault⟩

theorem fitsNothing (sink : Sink) : sink.Fits 0 := by
  intro room limit
  exact Nat.zero_le room

theorem fitsUnlimited {sink : Sink} (unlimited : sink.room = none) (count : Nat) :
    sink.Fits count := by
  simp [Fits, unlimited]

theorem overflowLimit {sink : Sink} {count : Nat} (overflow : ¬ sink.Fits count) :
    ∃ room, sink.room = some room ∧ room < count := by
  simpa [Fits] using overflow

@[simp] theorem offeredRoom (sink : Sink) (count : Nat) :
    (sink.offered count).room = sink.room.map (· - count) := by
  unfold offered
  split
  · simp [*]
  · rfl

@[simp] theorem offeredRefusal (sink : Sink) (count : Nat) :
    (sink.offered count).refusalFault = sink.refusalFault := by
  unfold offered
  split <;> rfl

@[simp] theorem offeredFlush (sink : Sink) (count : Nat) :
    (sink.offered count).flushFault = sink.flushFault := by
  unfold offered
  split <;> rfl

theorem offeredUsable {sink : Sink} (usable : sink.Usable) (count : Nat) :
    (sink.offered count).Usable := by
  unfold offered
  split <;> exact usable

theorem offeredTwice (sink : Sink) (first second : Nat) :
    (sink.offered first).offered second = sink.offered (first + second) := by
  by_cases none : first = 0
  · simp [offered, none]
  · by_cases more : second = 0
    · simp [offered, more]
    · simp [offered, none, more, Function.comp_def, Nat.sub_sub]

theorem fitsAdd (sink : Sink) (first second : Nat) :
    sink.Fits (first + second) ↔ sink.Fits first ∧ (sink.offered first).Fits second := by
  unfold Fits
  rw [offeredRoom]
  cases sink.room with
  | none => simp
  | some room =>
    simp only [Option.map_some, Option.mem_def, Option.some.injEq, forall_eq']
    omega

theorem settleFits {sink : Sink} {bytes : Bytes} (fits : sink.Fits bytes.length) :
    sink.settle bytes = ⟨sink.offered bytes.length, [], none⟩ := by
  unfold settle
  rw [if_pos fits]
  cases limit : sink.room with
  | none => simp
  | some room =>
    have enough : bytes.length ≤ room := fits room limit
    simp [enough]

theorem settleExceeds {sink : Sink} {bytes : Bytes} {room : Nat} (limit : sink.room = some room)
    (exceeds : room < bytes.length) :
    sink.settle bytes =
      ⟨sink.offered bytes.length, bytes.drop room, some sink.refusalFault⟩ := by
  have overflow : ¬ sink.Fits bytes.length := by
    intro fits
    have enough := fits room limit
    omega
  simp [settle, overflow, limit]

theorem settleFull {sink : Sink} (calm : sink.interruptions = 0) (full : sink.room = some 0)
    {bytes : Bytes} (offer : bytes ≠ []) :
    sink.settle bytes = ⟨sink, bytes, some sink.refusalFault⟩ := by
  have same : sink.offered bytes.length = sink := by
    obtain ⟨room, refusal, largest, interruptions, flush⟩ := sink
    cases calm
    cases full
    simp [offered]
  rw [settleExceeds full (List.length_pos_iff.mpr offer), same, List.drop_zero]

theorem settleAppend {sink : Sink} (first second : Bytes) (fits : sink.Fits first.length) :
    (sink.offered first.length).settle second = sink.settle (first ++ second) := by
  have both := sink.fitsAdd first.length second.length
  rw [← List.length_append] at both
  by_cases all : sink.Fits (first ++ second).length
  · rw [settleFits all, settleFits (both.mp all).2, offeredTwice, List.length_append]
  · obtain ⟨room, limit, beyond⟩ := overflowLimit all
    have inside : first.length ≤ room := fits room limit
    have left : (sink.offered first.length).room = some (room - first.length) := by
      simp [limit]
    have passes : room - first.length < second.length := by
      rw [List.length_append] at beyond
      omega
    rw [settleExceeds limit beyond, settleExceeds left passes, offeredTwice, offeredRefusal,
      List.length_append, List.drop_append, List.drop_eq_nil_of_le inside, List.nil_append]

theorem settleOverflow {sink : Sink} {first : Bytes} (overflow : ¬ sink.Fits first.length)
    (second : Bytes) :
    sink.settle (first ++ second) =
      { sink.settle first with pending := (sink.settle first).pending ++ second } := by
  obtain ⟨room, limit, beyond⟩ := overflowLimit overflow
  have more : room < (first ++ second).length := by
    rw [List.length_append]
    omega
  have spent : sink.offered (first ++ second).length = sink.offered first.length := by
    have none : first.length ≠ 0 := by omega
    have empty : room - (first.length + second.length) = room - first.length := by omega
    simp [offered, none, limit, empty]
  rw [settleExceeds limit beyond, settleExceeds limit more, spent,
    List.drop_append_of_le_length (Nat.le_of_lt beyond)]

theorem refusalFinal (sink : Sink) : sink.refusalFault.isInterruption = false := by
  unfold refusalFault
  split
  · rename_i refusal _
    exact refusal.final
  · rfl

theorem answerSource {sink : Sink} {length : Nat} (usable : sink.Usable) (offer : length ≠ 0) :
    (sink.answer length = .failed (.plain .interrupted) ∧ sink.interruptions ≠ 0) ∨
    (sink.interruptions = 0 ∧ sink.room = some 0 ∧ (sink.answer length = .failed sink.refusalFault ∨
      sink.answer length = .taken 0 ∧ sink.refusalFault = .writeZero)) ∨
    (sink.interruptions = 0 ∧ ∃ count, sink.answer length = .taken (count + 1) ∧
      count + 1 ≤ length ∧ sink.Fits (count + 1)) := by
  unfold answer
  by_cases calm : sink.interruptions = 0
  · by_cases full : sink.room = some 0
    · refine .inr (.inl ⟨calm, full, ?_⟩)
      cases refusal : sink.refusal with
      | none => exact .inr (by simp [refusalFault, calm, full, refusal, Fault.writeZero])
      | some refusal => exact .inl (by simp [refusalFault, *])
    · refine .inr (.inr ⟨calm, sink.capacity length - 1, ?_⟩)
      have takes : sink.capacity length ≠ 0 := by
        unfold Usable at usable
        unfold capacity
        cases room : sink.room <;> cases largest : sink.largestWrite <;> simp_all
      have bounded : sink.capacity length ≤ length := Nat.min_le_left _ _
      have inside : sink.Fits (sink.capacity length) := by
        intro room limit
        unfold capacity
        simp only [Option.mem_def.mp limit, Option.getD_some]
        omega
      have same : sink.capacity length - 1 + 1 = sink.capacity length := by omega
      rw [same]
      exact ⟨by simp [calm, full], bounded, inside⟩
  · exact .inl ⟨by simp [calm], calm⟩

theorem settleRefused {sink : Sink} (usable : sink.Usable) {bytes : Bytes} (offer : bytes ≠ [])
    {cause : Fault} (hard : cause.isInterruption = false)
    (refused : sink.answer bytes.length = .failed cause ∨
      (sink.answer bytes.length = .taken 0 ∧ cause = .writeZero)) :
    sink.settle bytes = ⟨sink, bytes, some cause⟩ := by
  have length : bytes.length ≠ 0 := by simpa using offer
  rcases answerSource usable length with ⟨said, -⟩ | ⟨calm, full, said⟩ | ⟨-, taken, took, -⟩
  · rcases refused with failed | ⟨stuck, -⟩
    · cases said.symm.trans failed
      contradiction
    · cases said.symm.trans stuck
  · have same : cause = sink.refusalFault := by
      rcases said with said | ⟨said, zero⟩ <;> rcases refused with failed | ⟨stuck, rfl⟩
      · cases said.symm.trans failed
        rfl
      · cases said.symm.trans stuck
      · cases said.symm.trans failed
      · exact zero.symm
    rw [settleFull calm full offer, same]
  · rcases refused with failed | ⟨stuck, -⟩
    · cases took.symm.trans failed
    · cases took.symm.trans stuck

theorem writeSettles {sink : Sink} (usable : sink.Usable) (bytes : Bytes) :
    sink.write bytes = sink.settle bytes := by
  fun_induction write sink bytes with
  | case1 sink =>
    rw [settleFits sink.fitsNothing]
    rfl
  | case2 sink bytes offer cause answered again ih =>
    have length : bytes.length ≠ 0 := by simpa using offer
    rw [ih usable]
    simp only [settle, offered, if_neg length]
    rfl
  | case3 sink bytes offer cause answered hard =>
    exact (settleRefused usable offer (Bool.not_eq_true _ ▸ hard) (.inl answered)).symm
  | case4 sink bytes offer answered =>
    exact (settleRefused usable offer rfl (.inr ⟨answered, rfl⟩)).symm
  | case5 sink bytes offer count answered ih =>
    have length : bytes.length ≠ 0 := by simpa using offer
    rcases answerSource usable length with ⟨said, -⟩ | ⟨-, -, said⟩ | ⟨calm, taken, took, bounded, inside⟩
    · cases said.symm.trans answered
    · rcases said with said | ⟨said, -⟩ <;> cases said.symm.trans answered
    · cases took.symm.trans answered
      have filled : sink.fill (count + 1) = sink.offered (count + 1) := by
        simp [fill, offered, calm]
      have size : (bytes.take (count + 1)).length = count + 1 := by
        rw [List.length_take, Nat.min_eq_left bounded]
      have parts := settleAppend (bytes.take (count + 1)) (bytes.drop (count + 1)) (size ▸ inside)
      rw [ih usable, filled, ← List.take_append_drop (count + 1) bytes, ← parts, size,
        List.take_append_drop]

theorem deliverSettles {sink : Sink} (usable : sink.Usable) (segments : List Bytes) :
    sink.deliver segments = sink.settle segments.flatten := by
  induction segments generalizing sink with
  | nil =>
    have nothing : sink.Fits ([] : Bytes).length := sink.fitsNothing
    exact (settleFits nothing).symm
  | cons segment rest ih =>
    simp only [deliver, writeSettles usable, List.flatten_cons]
    by_cases fits : sink.Fits segment.length
    · rw [← settleAppend _ _ fits, ← ih (offeredUsable usable _)]
      simp only [settleFits fits]
    · rw [settleOverflow fits]
      simp [settle, fits]

theorem settleAccepted (sink : Sink) (whole : Bytes) :
    (sink.settle whole).accepted whole = whole.take (sink.room.getD whole.length) := by
  simp only [Delivery.accepted, settle, List.length_drop]
  rw [List.take_eq_take_iff]
  omega

theorem deliverComplete {sink : Sink} {segments : List Bytes}
    (ok : (sink.deliver segments).fault = none) :
    (sink.deliver segments).accepted segments.flatten = segments.flatten := by
  have empty : (sink.deliver segments).pending = [] := by
    induction segments generalizing sink with
    | nil => rfl
    | cons segment rest ih =>
      simp only [deliver] at ok ⊢
      split at ok
      · simp_all
      · simp_all
  have whole := sink.deliverWhole segments
  rwa [empty, List.append_nil] at whole

end HexDump.Sink
