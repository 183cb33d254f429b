import HexDump.Proofs.Steady

/-! A source told signal by signal: every byte, every report of the end and every
fault is one signal, in the order in which they arrive. What is left of a source is
then a suffix of what it was, however its bytes were cut, and the signals in front of
that suffix are what was met on the way. -/
namespace HexDump

inductive Signal where
  | byte (b : UInt8)
  | ended
  | fault (cause : Fault)
  deriving DecidableEq, Repr

namespace Signal

def carried : Signal → Bytes
  | byte b => [b]
  | ended => []
  | fault _ => []

def Calm (met : List Signal) : Prop := ∀ cause, fault cause ∈ met → cause.isInterruption = true

def Idle (met : List Signal) : Prop :=
  ∀ signal ∈ met, ∃ cause, signal = fault cause ∧ cause.isInterruption = true

def content (met : List Signal) : Bytes := met.flatMap carried

@[simp] theorem contentNil : content [] = [] := rfl

@[simp] theorem contentCons (signal : Signal) (met : List Signal) :
    content (signal :: met) = signal.carried ++ content met := rfl

@[simp] theorem contentAppend (met more : List Signal) :
    content (met ++ more) = content met ++ content more := by
  simp [content]

@[simp] theorem contentBytes (bytes : Bytes) : content (bytes.map byte) = bytes := by
  induction bytes with
  | nil => rfl
  | cons b rest ih => simp [carried, ih]

@[simp] theorem calmNil : Calm [] := by simp [Calm]

@[simp] theorem calmCons (signal : Signal) (met : List Signal) :
    Calm (signal :: met) ↔
      (∀ cause, signal = fault cause → cause.isInterruption = true) ∧ Calm met := by
  constructor
  · intro calm
    exact ⟨fun cause same => calm cause (same ▸ List.mem_cons_self),
      fun cause member => calm cause (List.mem_cons_of_mem _ member)⟩
  · rintro ⟨first, others⟩ cause member
    rcases List.mem_cons.mp member with same | later
    · exact first cause same.symm
    · exact others cause later

@[simp] theorem calmAppend (met more : List Signal) :
    Calm (met ++ more) ↔ Calm met ∧ Calm more := by
  induction met with
  | nil => simp
  | cons signal met ih => simp [ih, and_assoc]

theorem idleAppend {idle more : List Signal} (only : Idle idle) (others : Idle more) :
    Idle (idle ++ more) := by
  intro signal member
  rcases List.mem_append.mp member with front | behind
  · exact only signal front
  · exact others signal behind

theorem idleCalm {idle : List Signal} (only : Idle idle) : Calm idle := by
  intro cause member
  obtain ⟨other, same, interruption⟩ := only _ member
  cases same
  exact interruption

theorem idleSilent {idle : List Signal} (only : Idle idle) : content idle = [] := by
  refine List.flatMap_eq_nil_iff.mpr fun signal member => ?_
  obtain ⟨cause, rfl, _⟩ := only signal member
  rfl

@[simp] theorem calmBytes (bytes : Bytes) : Calm (bytes.map byte) := by simp [Calm]

end Signal

def Event.signals : Event → List Signal
  | .data bytes => if bytes = [] then [.ended] else bytes.map .byte
  | .fault cause => [.fault cause]

namespace Source
open Signal (Calm Idle)

def signals (s : Source) : List Signal := s.flatMap Event.signals

/- The end was reported with nothing in front of it but interruptions, by an event or
because no event is left. -/
def ReportsEnd (s rest : Source) : Prop :=
  ∃ idle, Idle idle ∧
    (s.signals = idle ++ .ended :: rest.signals ∨ (s.signals = idle ∧ rest = []))

@[simp] theorem signalsNil : signals [] = [] := rfl

@[simp] theorem signalsFault (cause : Fault) (s : Source) :
    signals (.fault cause :: s) = .fault cause :: s.signals := rfl

@[simp] theorem signalsEnd (s : Source) : signals (.data [] :: s) = .ended :: s.signals := rfl

theorem signalsPush (bytes : Bytes) (s : Source) :
    (push bytes s).signals = bytes.map .byte ++ s.signals := by
  cases bytes <;> rfl

theorem reportsBehind {s t rest : Source} {idle : List Signal} (only : Idle idle)
    (front : s.signals = idle ++ t.signals) (reports : t.ReportsEnd rest) : s.ReportsEnd rest := by
  obtain ⟨more, others, ended⟩ := reports
  refine ⟨idle ++ more, Signal.idleAppend only others, ?_⟩
  rw [front, List.append_assoc]
  rcases ended with event | ⟨all, none⟩
  · exact .inl (congrArg (idle ++ ·) event)
  · exact .inr ⟨congrArg (idle ++ ·) all, none⟩

theorem reportsMet {s rest : Source} (reports : s.ReportsEnd rest) :
    ∃ met, s.signals = met ++ rest.signals ∧ Calm met ∧ Signal.content met = [] := by
  obtain ⟨idle, only, ended⟩ := reports
  rcases ended with event | ⟨all, rfl⟩
  · refine ⟨idle ++ [.ended], by simp [event], ?_, ?_⟩
    · simp [Signal.idleCalm only]
    · simp [Signal.idleSilent only, Signal.carried]
  · exact ⟨idle, by simp [all], Signal.idleCalm only, Signal.idleSilent only⟩

def Told (s : Source) (taken : Bytes) : Reading → Prop
  | .line bytes rest => ∃ met, s.signals = met ++ rest.signals ∧ Calm met ∧
      bytes = taken ++ Signal.content met
  | .finished rest => taken = [] ∧ s.ReportsEnd rest
  | .failed cause lost rest => cause.isInterruption = false ∧ ∃ met,
      s.signals = met ++ .fault cause :: rest.signals ∧ Calm met ∧
        lost = taken ++ Signal.content met

theorem toldBehind {s t : Source} {taken : Bytes} (met : List Signal) (calm : Calm met)
    (idle : Signal.content met = [] → Idle met) (front : s.signals = met ++ t.signals)
    {reading : Reading} (told : t.Told (taken ++ Signal.content met) reading) :
    s.Told taken reading := by
  cases reading with
  | line bytes rest =>
    obtain ⟨more, after, quiet, whole⟩ := told
    refine ⟨met ++ more, ?_, (Signal.calmAppend met more).mpr ⟨calm, quiet⟩, ?_⟩
    · rw [front, after, List.append_assoc]
    · rw [whole, Signal.contentAppend, List.append_assoc]
  | finished rest =>
    obtain ⟨empty, reports⟩ := told
    obtain ⟨none, nothing⟩ := List.append_eq_nil_iff.mp empty
    exact ⟨none, reportsBehind (idle nothing) front reports⟩
  | failed cause lost rest =>
    obtain ⟨hard, more, after, quiet, whole⟩ := told
    refine ⟨hard, met ++ more, ?_, (Signal.calmAppend met more).mpr ⟨calm, quiet⟩, ?_⟩
    · rw [front, after, List.append_assoc]
    · rw [whole, Signal.contentAppend, List.append_assoc]

theorem settleTold {s rest : Source} {taken : Bytes} (met : List Signal) (calm : Calm met)
    (silent : Signal.content met = []) (after : s.signals = met ++ rest.signals)
    (reports : s.ReportsEnd rest) : s.Told taken (settle taken rest) := by
  unfold settle
  split
  · exact ⟨by assumption, reports⟩
  · exact ⟨met, after, calm, by simp [silent]⟩

theorem collectTold (taken : Bytes) (s : Source) : s.Told taken (collect taken s) := by
  induction s generalizing taken with
  | nil => exact settleTold [] Signal.calmNil rfl rfl ⟨[], by simp [Idle], .inr ⟨rfl, rfl⟩⟩
  | cons event rest ih =>
    cases event with
    | fault cause =>
      cases kind : cause.isInterruption with
      | true =>
        rw [collectInterrupted kind]
        have idle : Idle [.fault cause] := by simp [Idle, kind]
        refine toldBehind [.fault cause] (by simp [kind]) (fun _ => idle) rfl ?_
        simpa [Signal.carried] using ih taken
      | false =>
        simp only [collect, kind]
        exact ⟨kind, [], rfl, Signal.calmNil, by simp⟩
    | data bytes =>
      by_cases empty : bytes = []
      · subst empty
        exact settleTold [.ended] (by simp) rfl rfl ⟨[], by simp [Idle], .inl rfl⟩
      · rw [← pushSome empty]
        by_cases stop : newline ∈ bytes
        · obtain ⟨front, after, rfl, clear⟩ := List.eq_append_cons_of_mem stop
          rw [collectCut taken clear]
          refine ⟨(front ++ [newline]).map .byte, ?_, Signal.calmBytes _, ?_⟩
          · simp [signalsPush]
          · rw [Signal.contentBytes, List.append_assoc]
        · rw [collectOpen taken stop]
          refine toldBehind (bytes.map .byte) (Signal.calmBytes bytes) ?_ (signalsPush bytes rest) ?_
          · intro nothing
            rw [Signal.contentBytes] at nothing
            exact absurd nothing empty
          · rw [Signal.contentBytes]
            exact ih _

theorem nextLineTold (s : Source) : s.Told [] s.nextLine := collectTold [] s

theorem yieldsMet {s rest : Source} {lines : List Bytes} (yields : s.Yields lines rest) :
    ∃ met, s.signals = met ++ rest.signals ∧ Calm met ∧ Signal.content met = lines.flatten := by
  induction yields with
  | nil s => exact ⟨[], rfl, Signal.calmNil, rfl⟩
  | @cons s mid rest line lines first next ih =>
    have told := s.nextLineTold
    rw [first] at told
    obtain ⟨met, front, calm, whole⟩ := told
    obtain ⟨more, after, quiet, others⟩ := ih
    refine ⟨met ++ more, ?_, (Signal.calmAppend met more).mpr ⟨calm, quiet⟩, ?_⟩
    · rw [front, after, List.append_assoc]
    · rw [Signal.contentAppend, others, List.flatten_cons, whole, List.nil_append]

theorem steadyCalm {s : Source} (steady : s.Steady) : Calm s.signals := by
  induction steady with
  | nil => exact Signal.calmNil
  | data some next ih =>
    rw [← pushSome some, signalsPush, Signal.calmAppend]
    exact ⟨Signal.calmBytes _, ih⟩
  | interruption interrupted next ih => simp [interrupted, ih]

end Source
end HexDump
