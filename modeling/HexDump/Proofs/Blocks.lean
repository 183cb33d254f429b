import HexDump.Proofs.Steady
import HexDump.Proofs.Truncation

/-! Several runs on one source and one sink. Each run takes a block of whole lines
where the one before it has stopped, so that no line is lost or taken twice, and the
limit of the sink, met once, is met by every later run that has a record to write. -/
namespace HexDump

def Report.written (reports : List Report) : Nat :=
  reports.foldr (fun r further => r.output.length + further) 0

namespace Options

inductive Took (options : Options) (sink : Sink) (remaining block : List Bytes) (r : Report) :
    Prop where
  | whole (source : Source) (all : block = remaining)
      (fits : sink.Fits (options.listing block).length)
      (report : r = ⟨sink.flush (options.counts block), options.listing block,
        block.flatten.length, 1, source, sink.offered (options.listing block).length,
        options.skips 0 block⟩)
  | cut (source : Source) (before behind : List Bytes) (line : Bytes) (room : Nat)
      (lines : remaining = before ++ line :: behind) (taken : block = before ++ [line])
      (limit : sink.room = some room) (fits : (options.listing before).length ≤ room)
      (exceeds : room < (options.listing block).length)
      (report : r = ⟨.error (.write sink.refusalFault), (options.listing block).take room,
        block.flatten.length, 0, source, sink.offered (options.listing block).length,
        options.skips 0 before⟩)

inductive Chain (options : Options) : Sink → List Bytes → List (List Bytes) → List Report → Prop where
  | nil (sink : Sink) (lines : List Bytes) : Chain options sink lines [] []
  | cons {sink : Sink} {block behind : List Bytes} {blocks : List (List Bytes)} {r : Report}
      {reports : List Report} (took : options.Took sink (block ++ behind) block r)
      (next : Chain options r.sink behind blocks reports) :
      Chain options sink (block ++ behind) (block :: blocks) (r :: reports)

variable (options : Options)

theorem streamTook {s rest : Source} {lines : List Bytes} (yields : s.Yields lines rest)
    (finished : rest.nextLine = .finished []) {sink : Sink} (usable : sink.Usable) :
    ∃ block behind last, lines = block ++ behind ∧
      options.Took sink lines block (options.formatStream s sink) ∧
      (options.formatStream s sink).source.Yields behind last ∧ last.nextLine = .finished [] := by
  by_cases fits : sink.Fits (options.listing lines).length
  · have report := options.runWhole yields finished usable fits
    refine ⟨lines, [], [], (List.append_nil lines).symm, .whole [] rfl fits report, ?_, rfl⟩
    rw [report]
    exact .nil []
  · obtain ⟨room, limit, exceeds⟩ := Sink.overflowLimit fits
    obtain ⟨before, line, behind, split, inside, passes⟩ := options.firstExceeding exceeds
    have parts : lines = (before ++ [line]) ++ behind := by simp [split]
    obtain ⟨mid, ahead, later⟩ := Source.yieldsSplit (parts ▸ yields)
    have report := options.runCut ahead usable limit inside passes
    refine ⟨before ++ [line], behind, rest, parts,
      .cut mid before behind line room split rfl limit inside passes report, ?_, finished⟩
    rw [report]
    exact later

variable {options : Options} {sink : Sink} {remaining block lines : List Bytes} {r : Report}
  {blocks : List (List Bytes)} {reports : List Report}

theorem tookSink (took : options.Took sink remaining block r) :
    r.sink = sink.offered (options.listing block).length := by
  cases took with
  | whole _ _ _ report => rw [report]
  | cut _ _ _ _ _ _ _ _ _ _ report => rw [report]

theorem tookRoom (took : options.Took sink remaining block r) :
    r.sink.room = sink.room.map (· - r.output.length) := by
  rw [tookSink took, Sink.offeredRoom]
  cases took with
  | whole _ _ _ report => rw [report]
  | cut _ _ _ _ room _ _ limit _ exceeds report =>
    rw [report, limit]
    simp
    omega

theorem streamsChain (options : Options) (runs : Nat) {s rest : Source}
    (yields : s.Yields lines rest) (finished : rest.nextLine = .finished []) (usable : sink.Usable) :
    ∃ blocks, options.Chain sink lines blocks (options.formatStreams runs s sink) := by
  induction runs generalizing s rest lines sink with
  | zero => exact ⟨[], .nil sink lines⟩
  | succ runs ih =>
    obtain ⟨block, behind, last, rfl, took, later, ended⟩ :=
      options.streamTook yields finished usable
    have able : (options.formatStream s sink).sink.Usable :=
      tookSink took ▸ Sink.offeredUsable usable _
    obtain ⟨blocks, next⟩ := ih later ended able
    exact ⟨block :: blocks, .cons took next⟩

theorem chainLength (chain : options.Chain sink lines blocks reports) :
    blocks.length = reports.length := by
  induction chain with
  | nil => rfl
  | cons took next ih => simp [ih]

theorem chainOrder (chain : options.Chain sink lines blocks reports) :
    blocks.flatten <+: lines := by
  induction chain with
  | nil => exact List.nil_prefix
  | cons took next ih =>
    rw [List.flatten_cons]
    exact (List.prefix_append_right_inj _).mpr ih

theorem chainAt (chain : options.Chain sink lines blocks reports) {i : Nat}
    (there : blocks[i]? = some block) (said : reports[i]? = some r) :
    ∃ current : Sink, current.refusalFault = sink.refusalFault ∧
      current.flushFault = sink.flushFault ∧
      current.room = sink.room.map (· - Report.written (reports.take i)) ∧
      options.Took current (lines.drop (blocks.take i).flatten.length) block r := by
  induction chain generalizing i with
  | nil => simp at there
  | @cons sink first behind blocks report reports took next ih =>
    cases i with
    | zero =>
      cases Option.some.inj there
      cases Option.some.inj said
      exact ⟨sink, rfl, rfl, by simp [Report.written], took⟩
    | succ i =>
      obtain ⟨current, refusal, flush, room, later⟩ := ih there said
      have rest : (first ++ behind).drop ((first :: blocks).take (i + 1)).flatten.length =
          behind.drop (blocks.take i).flatten.length := by
        rw [List.take_succ_cons, List.flatten_cons, List.length_append, ← List.drop_drop,
          List.drop_left]
      have used : Report.written ((report :: reports).take (i + 1)) =
          report.output.length + Report.written (reports.take i) := rfl
      rw [tookSink took, Sink.offeredRefusal] at refusal
      rw [tookSink took, Sink.offeredFlush] at flush
      rw [tookRoom took, Option.map_map] at room
      refine ⟨current, refusal, flush, ?_, rest ▸ later⟩
      rw [room, used]
      simp [Function.comp_def, Nat.sub_sub]

structure Share (options : Options) (sink : Sink) (remaining block : List Bytes) (r : Report) :
    Prop where
  leading : block <+: remaining
  consumed : r.consumed = block.flatten.length
  ending :
    (r.flushes = 1 ∧ r.outcome = sink.flush (options.counts block) ∧ block = remaining ∧
      r.output = options.listing block) ∨
    (r.flushes = 0 ∧ r.outcome = .error (.write sink.refusalFault) ∧
      options.listing block.dropLast <+: r.output ∧ r.output <+: options.listing block ∧
      r.output ≠ options.listing block)

structure Stalled (options : Options) (sink : Sink) (remaining block : List Bytes) (r : Report) :
    Prop where
  silent : r.output = []
  stops : ∀ before line behind, remaining = before ++ line :: behind →
    (∀ other ∈ before, options.recordOf other = none) → options.recordOf line ≠ none →
      block = before ++ [line] ∧ r.flushes = 0 ∧ r.outcome = .error (.write sink.refusalFault)
  passes : (∀ line ∈ remaining, options.recordOf line = none) →
    block = remaining ∧ r.flushes = 1 ∧ r.outcome = sink.flush (options.counts remaining)

def Torn (options : Options) (block : List Bytes) (r : Report) : Prop :=
  (options.listing block.dropLast).length < r.output.length ∧
    r.output.length < (options.listing block).length

def TornAt (options : Options) (blocks : List (List Bytes)) (reports : List Report) (i : Nat) :
    Prop :=
  ∃ block r, blocks[i]? = some block ∧ reports[i]? = some r ∧ options.Torn block r

theorem flushSame {current : Sink} (flush : current.flushFault = sink.flushFault)
    (summary : Summary) : current.flush summary = sink.flush summary := by
  simp [Sink.flush, flush]

theorem tookShare {current : Sink} (took : options.Took current remaining block r)
    (refusal : current.refusalFault = sink.refusalFault)
    (flush : current.flushFault = sink.flushFault) : options.Share sink remaining block r := by
  cases took with
  | whole source all fits report =>
    subst report
    exact ⟨all ▸ List.prefix_refl _, rfl, .inl ⟨rfl, flushSame flush _, all, rfl⟩⟩
  | cut source before behind line room split taken limit fits exceeds report =>
    subst report taken
    refine ⟨⟨behind, by simp [split]⟩, rfl, .inr ⟨rfl, by rw [refusal], ?_, List.take_prefix _ _, ?_⟩⟩
    · rw [List.dropLast_concat]
      exact (options.cutShare fits exceeds).1
    · intro same
      have length := (congrArg List.length same).symm.trans (options.cutShare fits exceeds).2
      omega

theorem tookStalled {current : Sink} (took : options.Took current remaining block r)
    (full : current.room = some 0) (refusal : current.refusalFault = sink.refusalFault)
    (flush : current.flushFault = sink.flushFault) : options.Stalled sink remaining block r := by
  cases took with
  | whole source all fits report =>
    subst report all
    have nothing : options.listing block = [] :=
      List.length_eq_zero_iff.mp (Nat.le_zero.mp (fits 0 full))
    refine ⟨nothing, ?_, fun _ => ⟨rfl, rfl, flushSame flush _⟩⟩
    rintro before line behind rfl _ recorded
    exact absurd (options.listingSilent.mp nothing line (by simp)) recorded
  | cut source before behind line room split taken limit fits exceeds report =>
    subst report taken
    cases full.symm.trans limit
    have nothing : options.listing before = [] :=
      List.length_eq_zero_iff.mp (Nat.le_zero.mp fits)
    have quiet := options.listingSilent.mp nothing
    have written : options.recordOf line ≠ none := by
      intro skipped
      have empty : options.listing (before ++ [line]) = [] := by
        simp [nothing, options.renderingSilent.mpr skipped]
      simp [empty] at exceeds
    refine ⟨rfl, ?_, ?_⟩
    · intro first other later same silent recorded
      have recordless : ∀ {passed : List Bytes}, (∀ line ∈ passed, options.recordOf line = none) →
          ∀ line ∈ passed, ¬ options.recordOf line ≠ none :=
        fun all line member => not_not_intro (all line member)
      obtain ⟨rfl, rfl, _⟩ := Pieces.firstUnique (recordless quiet) written (recordless silent)
        recorded (split.symm.trans same)
      exact ⟨rfl, rfl, by rw [refusal]⟩
    · intro silent
      exact absurd (silent line (by simp [split])) written

theorem tookTorn (took : options.Took sink remaining block r) (torn : options.Torn block r) :
    r.sink.room = some 0 := by
  cases took with
  | whole source all fits report =>
    subst report
    exact absurd torn.2 (Nat.lt_irrefl _)
  | cut source before behind line room split taken limit fits exceeds report =>
    subst report
    have spent : room - (options.listing block).length = 0 := by omega
    simp [limit, spent]

theorem chainStalled (chain : options.Chain sink lines blocks reports) (full : sink.room = some 0)
    (i : Nat) : ¬ options.TornAt blocks reports i := by
  rintro ⟨block, r, there, said, torn, _⟩
  obtain ⟨current, refusal, flush, room, took⟩ := chainAt chain there said
  rw [full] at room
  have stalled := tookStalled took (room.trans (by simp)) refusal flush
  simp [stalled.silent] at torn

theorem chainTorn (chain : options.Chain sink lines blocks reports) (i j : Nat)
    (one : options.TornAt blocks reports i) (other : options.TornAt blocks reports j) : i = j := by
  induction chain generalizing i j with
  | nil =>
    obtain ⟨block, r, there, _⟩ := one
    simp at there
  | @cons sink block behind blocks r reports took next ih =>
    -- A torn first record leaves a full sink, and then no later one is torn.
    have alone : options.TornAt (block :: blocks) (r :: reports) 0 → ∀ n,
        ¬ options.TornAt blocks reports n := by
      rintro ⟨_, _, there, said, torn⟩
      cases Option.some.inj there
      cases Option.some.inj said
      exact chainStalled next (tookTorn took torn)
    cases i with
    | zero =>
      cases j with
      | zero => rfl
      | succ j => exact absurd other (alone one j)
    | succ i =>
      cases j with
      | zero => exact absurd one (alone other i)
      | succ j => exact congrArg Nat.succ (ih i j one other)

structure Division (options : Options) (sink : Sink) (lines : List Bytes)
    (blocks : List (List Bytes)) (reports : List Report) : Prop where
  each : blocks.length = reports.length
  order : blocks.flatten <+: lines
  share : ∀ {i block r}, blocks[i]? = some block → reports[i]? = some r →
    options.Share sink (lines.drop (blocks.take i).flatten.length) block r
  torn : ∀ i j, options.TornAt blocks reports i → options.TornAt blocks reports j → i = j
  stalled : ∀ {i block r}, blocks[i]? = some block → reports[i]? = some r →
    sink.room = some (Report.written (reports.take i)) →
      options.Stalled sink (lines.drop (blocks.take i).flatten.length) block r

theorem streamsLength (options : Options) (runs : Nat) (s : Source) (sink : Sink) :
    (options.formatStreams runs s sink).length = runs := by
  induction runs generalizing s sink with
  | zero => rfl
  | succ runs ih => simp [formatStreams, ih]

theorem linesDivided (options : Options) {s : Source} (steady : s.Steady) {sink : Sink}
    (usable : sink.Usable) (runs : Nat) :
    (options.formatStreams runs s sink).length = runs ∧
      ∃ blocks, options.Division sink (Pieces.lines Source.newline s.content) blocks
        (options.formatStreams runs s sink) := by
  obtain ⟨rest, yields, finished⟩ := Source.yieldsToEnd steady
  obtain ⟨blocks, chain⟩ := streamsChain options runs yields finished usable
  refine ⟨streamsLength options runs s sink, blocks, chainLength chain, chainOrder chain, ?_,
    chainTorn chain, ?_⟩
  · intro i block r there said
    obtain ⟨current, refusal, flush, _, took⟩ := chainAt chain there said
    exact tookShare took refusal flush
  · intro i block r there said limit
    obtain ⟨current, refusal, flush, room, took⟩ := chainAt chain there said
    rw [limit] at room
    exact tookStalled took (room.trans (by simp)) refusal flush

theorem linesDividedTorn :
    let s : Source := [.data (Utf8.encode "AB\nC".toList), .fault (.plain .interrupted),
      .data (Utf8.encode "D\n0:\nEF\n1:".toList)]
    let sink : Sink := ⟨some 15, some ⟨.plain .brokenPipe, rfl⟩, some 2, 3, none⟩
    let reports := Options.default.formatStreams 3 s sink
    s.Steady ∧ sink.Usable ∧ reports.length = 3 ∧
      reports.map (fun r => (r.consumed, r.output.length)) = [(6, 15), (6, 0), (2, 0)] ∧
      ∃ blocks, Options.default.Division sink (Pieces.lines Source.newline s.content) blocks
        reports := by
  intro s sink reports
  have steady : s.Steady := by decide +kernel
  have usable : sink.Usable := by decide
  obtain ⟨length, blocks, division⟩ := linesDivided Options.default steady usable 3
  exact ⟨steady, usable, length, by decide +kernel, blocks, division⟩

/- A full sink with no record left to come may still fail in its flush: the limit is
reached by the first run, the second skips its only line and does not succeed. -/
theorem fullSinkFailsInFlush :
    let s : Source := [.data (Utf8.encode "AB\nx:\n".toList)]
    let sink : Sink := ⟨some 5, none, none, 0, some (.plain .timedOut)⟩
    let reports := Options.default.formatStreams 2 s sink
    s.Steady ∧ sink.Usable ∧ sink.room = some (Report.written (reports.take 1)) ∧
      Pieces.lines Source.newline s.content =
        [Utf8.encode "AB\n".toList, Utf8.encode "x:\n".toList] ∧
      Options.default.recordOf (Utf8.encode "x:\n".toList) = none ∧
      reports.map (fun r => (r.consumed, r.output.length, r.outcome.toOption)) =
        [(3, 5, none), (3, 0, none)] := by
  intro s sink reports
  exact ⟨by decide +kernel, by decide, by decide +kernel, by decide +kernel,
    by decide +kernel, by decide +kernel⟩

end Options
end HexDump
