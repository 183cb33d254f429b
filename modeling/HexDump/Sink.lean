import HexDump.Fault

/-! A sink is what an output will still take. It may have room for so many bytes
only, take few at a time, interrupt its first writes, or fail to flush. Delivery
goes on after short and interrupted writes until all is taken or the sink refuses. -/
namespace HexDump

/-- What a write without room fails with for good. An interruption is no such failure: the
write is tried again after each one, and on a sink that never stopped with them it would
not return. So a sink has only so many of them. -/
structure Refusal where
  cause : Fault
  final : cause.isInterruption = false
  deriving DecidableEq, Repr

def Refusal.system (error : SystemError) : Refusal := ⟨.system error, error.notInterruption⟩

structure Sink where
  room : Option Nat
  refusal : Option Refusal
  largestWrite : Option Nat
  interruptions : Nat
  flushFault : Option Fault
  deriving DecidableEq, Repr

namespace Sink

def unlimited : Sink := ⟨none, none, none, 0, none⟩

def closed (refusal : Refusal) : Sink := ⟨some 0, some refusal, none, 0, some refusal.cause⟩

inductive Answer where
  | taken (count : Nat)
  | failed (cause : Fault)
  deriving DecidableEq, Repr

def capacity (sink : Sink) (length : Nat) : Nat :=
  min length (min (sink.room.getD length) (sink.largestWrite.getD length))

def answer (sink : Sink) (length : Nat) : Answer :=
  if sink.interruptions ≠ 0 then .failed (.plain .interrupted)
  else if sink.room = some 0 then
    match sink.refusal with
    | some refusal => .failed refusal.cause
    | none => .taken 0
  else .taken (sink.capacity length)

def interrupt (sink : Sink) : Sink := { sink with interruptions := sink.interruptions - 1 }

def fill (sink : Sink) (count : Nat) : Sink := { sink with room := sink.room.map (· - count) }

structure Delivery where
  sink : Sink
  pending : Bytes
  fault : Option Fault
  deriving DecidableEq, Repr

theorem answerTaken {sink : Sink} {length count : Nat} (h : sink.answer length = .taken count) :
    count ≤ length := by
  unfold answer capacity at h
  split at h
  · contradiction
  · split at h
    · split at h
      · contradiction
      · cases h
        omega
    · cases h
      omega

theorem interruptsLeft {sink : Sink} {length : Nat} {cause : Fault}
    (h : sink.answer length = .failed cause) (again : cause.isInterruption = true) :
    sink.interruptions ≠ 0 := by
  intro none
  simp only [answer, none, ne_eq, not_true_eq_false, if_false] at h
  split at h
  · split at h
    · rename_i refusal _
      cases h
      exact absurd again (Bool.eq_false_iff.mp refusal.final)
    · contradiction
  · contradiction

def write (sink : Sink) (bytes : Bytes) : Delivery :=
  if _some : bytes = [] then ⟨sink, [], none⟩
  else match _answered : sink.answer bytes.length with
    | .failed cause =>
      if _again : cause.isInterruption = true then write sink.interrupt bytes
      else ⟨sink, bytes, some cause⟩
    | .taken 0 => ⟨sink, bytes, some .writeZero⟩
    | .taken (count + 1) => write (sink.fill (count + 1)) (bytes.drop (count + 1))
termination_by sink.interruptions + bytes.length
decreasing_by
  · have left := interruptsLeft _answered _again
    simp only [interrupt]
    omega
  · have := answerTaken _answered
    simp only [fill, List.length_drop]
    omega

def deliver (sink : Sink) : List Bytes → Delivery
  | [] => ⟨sink, [], none⟩
  | segment :: rest =>
    let first := sink.write segment
    match first.fault with
    | some _ => { first with pending := first.pending ++ rest.flatten }
    | none => deliver first.sink rest

def Delivery.accepted (d : Delivery) (whole : Bytes) : Bytes :=
  whole.take (whole.length - d.pending.length)

theorem writeSuffix (sink : Sink) (bytes : Bytes) : (sink.write bytes).pending <:+ bytes := by
  fun_induction write sink bytes with
  | case1 => simp
  | case2 sink bytes offer cause answered again ih => exact ih
  | case3 => exact List.suffix_refl _
  | case4 => exact List.suffix_refl _
  | case5 sink bytes offer count answered ih =>
    exact ih.trans (List.drop_suffix _ _)

theorem deliverSuffix (sink : Sink) (segments : List Bytes) :
    (sink.deliver segments).pending <:+ segments.flatten := by
  induction segments generalizing sink with
  | nil => simp [deliver]
  | cons segment rest ih =>
    simp only [deliver]
    split
    · obtain ⟨before, same⟩ := sink.writeSuffix segment
      refine ⟨before, ?_⟩
      rw [List.flatten_cons, ← List.append_assoc, same]
    · exact (ih _).trans (List.suffix_append _ _)

theorem deliverWhole (sink : Sink) (segments : List Bytes) :
    (sink.deliver segments).accepted segments.flatten ++ (sink.deliver segments).pending =
      segments.flatten := by
  obtain ⟨before, same⟩ := sink.deliverSuffix segments
  unfold Delivery.accepted
  have lengths := congrArg List.length same
  rw [List.length_append] at lengths
  have : segments.flatten.length - (sink.deliver segments).pending.length = before.length := by
    omega
  rw [this]
  conv => lhs; arg 1; rw [← same, List.take_left]
  exact same

end Sink
end HexDump
