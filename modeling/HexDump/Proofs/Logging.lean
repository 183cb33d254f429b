import HexDump.Proofs.Echo
import Mathlib.Data.List.Forall2

/-! What the log can change: lines on standard error. Neither its setting, whether that
can be read or not, nor the verbose flag reaches the exit code or a record, and what has
gone wrong is said in the same words. The flag itself only ever adds lines. -/
namespace HexDump

namespace Log

namespace Directive

structure Below (d e : Directive) : Prop where
  name : d.name = e.name
  admits : ∀ level, d.admits level = true → e.admits level = true

theorem belowSelf (d : Directive) : d.Below d := ⟨rfl, fun _ admitted => admitted⟩

end Directive

namespace Filter

variable {quiet loud : List Directive}

theorem insertBelow (d : Directive) (below : List.Forall₂ Directive.Below quiet loud) :
    List.Forall₂ Directive.Below (insert d quiet) (insert d loud) := by
  induction below with
  | nil => exact .cons d.belowSelf .nil
  | cons first rest ih =>
    simp only [insert, first.name]
    split
    · exact .cons d.belowSelf rest
    · exact .cons first ih

theorem governingBelow (below : List.Forall₂ Directive.Below quiet loud) (target : Text) :
    Option.Rel Directive.Below (governing quiet target) (governing loud target) := by
  refine List.rel_foldl ?_ .none below
  intro best better same d e first
  have length : d.matchedLength = e.matchedLength := by
    simp only [Directive.matchedLength, first.name]
  have applies : d.applies target = e.applies target := by
    simp only [Directive.applies, first.name]
  have longest : (best.map Directive.matchedLength).getD 0 =
      (better.map Directive.matchedLength).getD 0 := by
    cases same with
    | none => rfl
    | some chosen => simp [Directive.matchedLength, chosen.name]
  dsimp only
  rw [length, applies, longest]
  split
  · exact .some first
  · exact same

end Filter

namespace Setting

structure Below (quiet loud : Setting) : Prop where
  directives : List.Forall₂ Directive.Below quiet.filter.directives loud.filter.directives
  wanted : quiet.filter.wanted = loud.filter.wanted
  warnings : quiet.warnings = loud.warnings

variable {quiet loud : Setting}

theorem addClauseBelow (below : quiet.Below loud) (clause : Clause) :
    (quiet.addClause clause).Below (loud.addClause clause) := by
  cases clause with
  | directive d => exact ⟨Filter.insertBelow d below.directives, below.wanted, below.warnings⟩
  | rejected part =>
    exact ⟨below.directives, below.wanted, congrArg (· ++ [complaint part]) below.warnings⟩

theorem addClausesBelow (below : quiet.Below loud) (clauses : List Clause) :
    (clauses.foldl addClause quiet).Below (clauses.foldl addClause loud) := by
  induction clauses generalizing quiet loud with
  | nil => exact below
  | cons clause rest ih => exact ih (addClauseBelow below clause)

theorem addWantedBelow (below : quiet.Below loud) (text : Text) :
    (quiet.addWanted text).Below (loud.addWanted text) := by
  unfold addWanted
  split
  · exact ⟨below.directives, rfl, below.warnings⟩
  · exact ⟨below.directives, below.wanted, congrArg (· ++ _) below.warnings⟩

theorem ofTextBelow {base more : Filter} (below : Below ⟨base, []⟩ ⟨more, []⟩) (text : Text) :
    (ofText base text).Below (ofText more text) := by
  unfold ofText
  split
  · exact addClausesBelow below _
  · exact addWantedBelow (addClausesBelow below _) _
  · exact ⟨below.directives, below.wanted, rfl⟩

theorem admitsBelow (below : quiet.Below loud) {entry : Entry}
    (admitted : quiet.filter.admits entry = true) : loud.filter.admits entry = true := by
  have governing := Filter.governingBelow below.directives entry.target
  unfold Filter.admits at admitted ⊢
  rw [Bool.and_eq_true] at admitted ⊢
  refine ⟨?_, below.wanted ▸ admitted.2⟩
  have grave := admitted.1
  generalize Filter.governing quiet.filter.directives entry.target = one at governing grave
  generalize Filter.governing loud.filter.directives entry.target = other at governing
  cases governing with
  | none => exact grave
  | some first => exact first.admits _ grave

end Setting

end Log

namespace Arguments

theorem parseVerbose {arguments : List Bytes} {path : Bytes} {strict : Bool}
    (parsed : parse arguments = .request ⟨path, strict, false⟩) :
    parse (verboseLetter :: arguments) = .request ⟨path, strict, true⟩ := by
  have declares := (parseRequest arguments _).mp parsed
  refine (parseRequest _ _).mpr ((completesCons .nothing (by decide) arguments _).mpr ?_)
  refine ⟨{ Seen.nothing with verbose := true }, .verbose (.inr rfl) nofun rfl, ?_⟩
  refine ⟨declares.path, declares.named, declares.known, declares.strict, ?_⟩
  have absent : 0 + _ = 0 := declares.verbose
  exact congrArg (1 + ·) ((Nat.zero_add _).symm.trans absent)

end Arguments

namespace Command

def exitCode : Except FormatError Summary → Nat
  | .ok _ => 0
  | .error _ => 1

def failure : Except FormatError Summary → Text
  | .ok _ => []
  | .error error => errorLine error

def entries (report : Report) : List Log.Entry :=
  match report.outcome with
  | .ok summary => report.log ++ [summaryEntry summary]
  | .error _ => report.log

def logged (setting : Log.Setting) (report : Report) : Text :=
  warningLines setting ++ logLines setting.filter (entries report)

theorem performLogged (request : Request) (opener : Opener) (environment : Option Text)
    (written : Bytes) (sink : Sink) :
    let report := (options request.strict).formatFile opener request.path sink
    perform request opener environment written sink =
      ⟨exitCode report.outcome, written ++ report.output,
        logged (logSetting request.verbose environment) report ++ failure report.outcome⟩ := by
  intro report
  unfold perform logged entries
  dsimp only
  cases report.outcome with
  | ok summary => exact congrArg (Exit.mk 0 _) (List.append_nil _).symm
  | error error => rfl

theorem runUnlogged (arguments : List Bytes) (opener : Opener) (environment other : Option Text)
    (sink : Sink) :
    (run arguments opener environment sink).code = (run arguments opener other sink).code ∧
      (run arguments opener environment sink).stdout =
        (run arguments opener other sink).stdout := by
  unfold run
  dsimp only
  split
  · exact ⟨rfl, rfl⟩
  · split
    · exact ⟨rfl, rfl⟩
    · exact ⟨rfl, rfl⟩
    · rw [performLogged, performLogged]
      exact ⟨rfl, rfl⟩

theorem runRequest {arguments : List Bytes} {request : Request}
    (parsed : Arguments.parse arguments = .request request) (opener : Opener)
    (environment : Option Text) :
    let report := (options request.strict).formatFile opener request.path .unlimited
    run arguments opener environment .unlimited =
      ⟨exitCode report.outcome, echoLine arguments ++ report.output,
        logged (logSetting request.verbose environment) report ++ failure report.outcome⟩ := by
  rw [runUnlimited, parsed]
  exact performLogged request opener environment _ .unlimited

theorem logSettingBelow (environment : Option Text) :
    (logSetting false environment).Below (logSetting true environment) := by
  have base : Log.Setting.Below ⟨.ofLevel .warn, []⟩ ⟨.ofLevel .debug, []⟩ := by
    refine ⟨.cons ⟨rfl, ?_⟩ .nil, rfl, rfl⟩
    intro level admitted
    have grave : level.rank ≤ 2 := of_decide_eq_true admitted
    exact decide_eq_true (Nat.le_trans grave (by decide))
  cases environment with
  | none => exact base
  | some text => exact Log.Setting.ofTextBelow base text

theorem loggingInert (arguments : List Bytes) (opener : Opener) :
    (∀ environment other sink,
      (run arguments opener environment sink).code = (run arguments opener other sink).code ∧
        (run arguments opener environment sink).stdout =
          (run arguments opener other sink).stdout) ∧
    ∀ path strict, Arguments.parse arguments = .request ⟨path, strict, false⟩ →
      ∀ environment,
        let loudly := Arguments.verboseLetter :: arguments
        let report := (options strict).formatFile opener path .unlimited
        let quiet := logSetting false environment
        let loud := logSetting true environment
        run arguments opener environment .unlimited =
            ⟨exitCode report.outcome, echoLine arguments ++ report.output,
              logged quiet report ++ failure report.outcome⟩ ∧
          run loudly opener environment .unlimited =
            ⟨exitCode report.outcome, echoLine loudly ++ report.output,
              logged loud report ++ failure report.outcome⟩ ∧
          quiet.warnings = loud.warnings ∧
          ((entries report).filter quiet.filter.admits).Sublist
            ((entries report).filter loud.filter.admits) ∧
          ∀ cause, run loudly opener environment (.closed cause) =
            run arguments opener environment (.closed cause) := by
  refine ⟨fun environment other sink => runUnlogged arguments opener environment other sink, ?_⟩
  intro path strict parsed environment loudly report quiet loud
  have below : quiet.Below loud := logSettingBelow environment
  refine ⟨runRequest parsed opener environment,
    runRequest (Arguments.parseVerbose parsed) opener environment, below.warnings, ?_, ?_⟩
  · exact List.monotone_filter_right _ (fun entry => Log.Setting.admitsBelow below)
  · intro cause
    rw [runClosed, runClosed]

theorem loggingInertUnread :
    let arguments : List Bytes := [Utf8.encode "--strict".toList, Utf8.encode ['a']]
    let opener : Opener := fun _ => .ok (Utf8.encode "0:\nA\n".toList)
    let environment : Option Text := some "scan_format=loud,a=b=c".toList
    let report := (options true).formatFile opener (Utf8.encode ['a']) .unlimited
    Arguments.parse arguments = .request ⟨Utf8.encode ['a'], true, false⟩ ∧
      (logSetting true environment).warnings =
        [Log.complaint "loud".toList, Log.complaint "a=b=c".toList] ∧
      (run arguments opener environment .unlimited).stdout =
        (run arguments opener none .unlimited).stdout ∧
      run (Arguments.verboseLetter :: arguments) opener environment .unlimited =
        ⟨exitCode report.outcome, echoLine (Arguments.verboseLetter :: arguments) ++ report.output,
          logged (logSetting true environment) report ++ failure report.outcome⟩ := by
  intro arguments opener environment report
  have parsed : Arguments.parse arguments = .request ⟨Utf8.encode ['a'], true, false⟩ := by
    decide +kernel
  have warned : (logSetting true environment).warnings =
      [Log.complaint "loud".toList, Log.complaint "a=b=c".toList] := by decide +kernel
  obtain ⟨settings, verbose⟩ := loggingInert arguments opener
  exact ⟨parsed, warned, (settings environment none .unlimited).2,
    (verbose _ _ parsed environment).2.1⟩

end Command
end HexDump
