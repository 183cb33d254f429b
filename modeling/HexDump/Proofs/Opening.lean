import HexDump.Run
import HexDump.Storage
import HexDump.Proofs.Seam
import HexDump.Proofs.Signals

/-! A run over a file against a run over what is in it. Opening decides everything that
is special about files: a path that does not lead to a file leaves the sink alone, and
behind an open file the run is that of its content, in whatever pieces it arrives. -/
namespace HexDump

def FormatError.named (path : Bytes) : FormatError → FormatError
  | .read _ cause => .read path cause
  | error => error

def Report.named (path : Bytes) (r : Report) : Report :=
  { r with outcome := r.outcome.mapError (FormatError.named path) }

namespace Progress

def Step.named (path : Bytes) (step : Step) : Step := step.map id (Report.named path)

theorem finishNamed (path : Bytes) (p : Progress) : p.finish.named path = p.finish := by
  unfold finish
  split <;> rfl

theorem formatNamed (options : Options) (path line : Bytes) (p : Progress) :
    (p.format options line).named path = p.format options line := by
  unfold format
  dsimp only
  split
  · rfl
  · unfold emit
    dsimp only
    split <;> rfl

theorem advanceNamed (options : Options) (origin path : Bytes) (p : Progress) :
    p.advance options path = (p.advance options origin).named path := by
  unfold advance
  split
  · exact congrArg Step.stop (finishNamed path _).symm
  · rfl
  · exact (formatNamed options path _ _).symm

theorem runNamed (options : Options) (origin path : Bytes) (p : Progress) :
    p.run options path = (p.run options origin).named path :=
  runMapped (advanceNamed options origin path) p

theorem runErrors (options : Options) (origin : Bytes) (p : Progress) {error : FormatError}
    (failed : (p.run options origin).outcome = .error error) :
    (∃ cause, error = .write cause) ∨
    ∃ lines rest cause lost last, error = .read origin cause ∧ p.source.Yields lines rest ∧
      rest.nextLine = .failed cause lost last := by
  obtain ⟨lines, rest, sink, yields, stops⟩ := runStops options origin p
  have stopped := runStop stops
  cases reading : rest.nextLine with
  | line line mid =>
    obtain ⟨-, -, -, cause, short⟩ := formatStopped ((advanceLine reading).symm.trans stops)
    cases failed.symm.trans short
    exact .inl ⟨cause, rfl⟩
  | finished last =>
    rw [← stopped, runFinished options origin _ reading, finish] at failed
    split at failed
    · cases failed
    · cases failed
      exact .inl ⟨_, rfl⟩
  | failed cause lost last =>
    rw [← stopped, runFailed options origin _ reading] at failed
    cases failed
    exact .inr ⟨lines, rest, cause, lost, last, rfl, yields, reading⟩

end Progress

namespace Source

theorem steadyUnfailed {s rest last : Source} (steady : s.Steady) {lines : List Bytes}
    (yields : s.Yields lines rest) {cause : Fault} {lost : Bytes} :
    rest.nextLine ≠ .failed cause lost last := by
  intro reading
  have told := rest.nextLineTold
  rw [reading] at told
  obtain ⟨hard, more, behind, -, -⟩ := told
  obtain ⟨met, front, -, -⟩ := yieldsMet yields
  have member : Signal.fault cause ∈ s.signals := by
    rw [front, behind]
    simp
  rw [steadyCalm steady cause member] at hard
  contradiction

theorem canonicalSteady {s : Source} (steady : s.Steady) : s.canonical = push s.content [] := by
  induction steady with
  | nil => rfl
  | @data bytes s some next ih =>
    rw [← pushSome some, canonicalPush, ih, contentPush]
    cases bytes with
    | nil => rfl
    | cons b bs => cases s.content <;> simp [join, push]
  | interruption interrupted next ih => rw [canonicalInterruption interrupted, ih, contentFault]

theorem bufferedSteady (size : Nat) (bytes : Bytes) : (buffered size bytes).Steady := by
  unfold buffered
  fun_induction Pieces.chunks (size - 1) bytes with
  | case1 => exact .nil
  | case2 b rest ih => exact .data (by simp) ih

theorem bufferedContent (size : Nat) (bytes : Bytes) : (buffered size bytes).content = bytes := by
  have flat : (buffered size bytes).content = (Pieces.chunks (size - 1) bytes).flatten := by
    unfold buffered
    induction Pieces.chunks (size - 1) bytes with
    | nil => rfl
    | cons chunk chunks ih => simp [ih]
  rw [flat, Pieces.chunksFlatten]

end Source

namespace Storage

def Opens (storage : Storage) (path content : Bytes) : Prop :=
  0 ∉ path ∧ storage.find path = .ok (.file content)

theorem readOpens (storage : Storage) (path content : Bytes) :
    storage.read path = .ok content ↔ storage.Opens path content := by
  unfold read Opens
  by_cases nul : 0 ∈ path
  · simp [nul]
  · cases found : storage.find path with
    | error cause => simp [nul]
    | ok entry => cases entry <;> simp [nul]

theorem readFails (storage : Storage) (path : Bytes) :
    (∃ cause, storage.read path = .error cause) ↔
      0 ∈ path ∨ (∃ cause, storage.find path = .error cause) ∨
        storage.find path = .ok .directory := by
  unfold read
  by_cases nul : 0 ∈ path
  · simp [nul]
  · cases found : storage.find path with
    | error cause => simp [nul]
    | ok entry => cases entry <;> simp [nul]

end Storage

namespace Options

variable (options : Options)

theorem streamSteady {s t : Source} (steady : s.Steady) (other : t.Steady)
    (same : s.content = t.content) (sink : Sink) :
    (options.formatStream s sink).answer = (options.formatStream t sink).answer ∧
      (options.formatStream s sink).sink = (options.formatStream t sink).sink := by
  have alike : (options.formatStream s sink).canonical = (options.formatStream t sink).canonical := by
    rw [formatStreamCanonical, formatStreamCanonical, Source.canonicalSteady steady,
      Source.canonicalSteady other, same]
  have answered := congrArg Report.answer alike
  have left := congrArg Report.sink alike
  exact ⟨answered, left⟩

def readAs (path : Bytes) (source : Source) (sink : Sink) : Report :=
  (Progress.start source sink #[readingEntry path]).run options path

theorem readAsStream (path : Bytes) (source : Source) (sink : Sink) :
    ∃ log, options.readAs path source sink =
      { (options.formatStream source sink).named path with log := log } := by
  obtain ⟨log, behind⟩ := Progress.runBehind options anonymous (.start source sink #[])
    (.start source sink #[]) #[readingEntry path]
  have begun : (Progress.start source sink #[]).behind #[readingEntry path] (.start source sink #[]) =
      .start source sink #[readingEntry path] := by
    simp [Progress.behind, Progress.start]
  rw [begun, Report.behindNothing rfl rfl rfl] at behind
  exact ⟨log, by rw [readAs, Progress.runNamed options anonymous, behind]; rfl⟩

theorem formatFileOpened {opener : Opener} {path content : Bytes} (opened : opener path = .ok content)
    (sink : Sink) : options.formatFile opener path sink =
      options.readAs path (.buffered bufferSize content) sink := by
  simp [formatFile, opened, readAs]

theorem steadyErrors {source : Source} (steady : source.Steady) (sink : Sink)
    {error : FormatError} (failed : (options.formatStream source sink).outcome = .error error) :
    ∃ cause, error = .write cause := by
  rcases Progress.runErrors options anonymous (.start source sink #[]) failed with
    write | ⟨lines, rest, cause, lost, last, -, yields, reading⟩
  · exact write
  · exact absurd reading (Source.steadyUnfailed steady yields)

theorem steadyUnnamed {source : Source} (steady : source.Steady) (path : Bytes) (sink : Sink) :
    (options.formatStream source sink).named path = options.formatStream source sink := by
  have same : (options.formatStream source sink).outcome.mapError (FormatError.named path) =
      (options.formatStream source sink).outcome := by
    cases outcome : (options.formatStream source sink).outcome with
    | ok summary => rfl
    | error error =>
      obtain ⟨cause, rfl⟩ := options.steadyErrors steady sink outcome
      rfl
  rw [Report.named, same]

theorem readAsSteady {delivered given : Source} (steady : delivered.Steady) (other : given.Steady)
    (same : delivered.content = given.content) (path : Bytes) (sink : Sink) :
    (options.readAs path delivered sink).answer = (options.formatStream given sink).answer ∧
      (options.readAs path delivered sink).sink = (options.formatStream given sink).sink := by
  obtain ⟨log, read⟩ := options.readAsStream path delivered sink
  rw [read, options.steadyUnnamed steady]
  exact options.streamSteady steady other same sink

theorem accessFails (storage : Storage) (path : Bytes) (sink : Sink) :
    (∃ other cause, (options.formatFile storage.read path sink).outcome =
        .error (.access other cause)) ↔ ∃ cause, storage.read path = .error cause := by
  cases opened : storage.read path with
  | error cause => simp [formatFile, opened]
  | ok content =>
    have agree := (options.readAsSteady (Source.bufferedSteady bufferSize content)
      (Source.bufferedSteady bufferSize content) rfl path sink).1
    rw [← options.formatFileOpened opened] at agree
    constructor
    · rintro ⟨other, cause, failed⟩
      have outcome := (congrArg Report.Answer.outcome agree).symm.trans failed
      obtain ⟨_, write⟩ := options.steadyErrors (Source.bufferedSteady bufferSize content) sink outcome
      cases write
    · rintro ⟨cause, failed⟩
      cases failed

theorem formatFileAgrees (storage : Storage) (path : Bytes) (sink : Sink) :
    let file := options.formatFile storage.read path sink
    ((¬ ∃ content, storage.Opens path content) → ∃ cause, storage.read path = .error cause ∧
        file = ⟨.error (.access path cause), [], 0, 0, [], sink, []⟩) ∧
      (∀ content, storage.Opens path content →
        (∀ given : Source, given.Steady → given.content = content →
          file.answer = (options.formatStream given sink).answer ∧
            file.sink = (options.formatStream given sink).sink) ∧
        (∀ delivered : Source, delivered.Steady → delivered.content = content →
          (options.readAs path delivered sink).answer = file.answer ∧
            (options.readAs path delivered sink).sink = file.sink)) ∧
      ((∃ other cause, file.outcome = .error (.access other cause)) ↔
        0 ∈ path ∨ (∃ cause, storage.find path = .error cause) ∨
          storage.find path = .ok .directory) ∧
      (∀ source, ∃ log, options.readAs path source sink =
        { (options.formatStream source sink).named path with log := log }) := by
  intro file
  refine ⟨?_, ?_, ?_, fun source => options.readAsStream path source sink⟩
  · intro unopened
    cases opened : storage.read path with
    | error cause => exact ⟨cause, rfl, by simp [file, formatFile, opened]⟩
    | ok content => exact absurd ⟨content, (storage.readOpens path content).mp opened⟩ unopened
  · intro content opens
    have opened := (storage.readOpens path content).mpr opens
    have read : file = options.readAs path (.buffered bufferSize content) sink :=
      options.formatFileOpened opened sink
    have steady := Source.bufferedSteady bufferSize content
    have whole := Source.bufferedContent bufferSize content
    constructor
    · intro given calm same
      rw [read]
      exact options.readAsSteady steady calm (whole.trans same.symm) path sink
    · intro delivered calm same
      obtain ⟨answered, left⟩ := options.readAsSteady steady steady rfl path sink
      rw [read, answered, left]
      exact options.readAsSteady calm steady (same.trans whole.symm) path sink
  · rw [options.accessFails, storage.readFails]

end Options
end HexDump
