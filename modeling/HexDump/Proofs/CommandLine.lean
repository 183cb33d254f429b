import HexDump.Command
import HexDump.Proofs.Opening
import HexDump.Proofs.Parsing
import HexDump.Proofs.WholeText
import Mathlib.Logic.ExistsUnique

/-! The whole program behind its echo. It ends in one of four ways, and only a run that
has read its file to the end leaves records behind it, all of them. Where nothing can be
written, that is all it says. -/
namespace HexDump

namespace Sink

theorem unlimitedTakes (segments : List Bytes) :
    unlimited.deliver segments = ⟨unlimited, [], none⟩ := by
  have spent : unlimited.offered segments.flatten.length = unlimited := by
    unfold offered
    split <;> rfl
  rw [deliverSettles (by decide), settleFits (fitsUnlimited rfl _), spent]

theorem closedRefuses (refusal : Refusal) {segments : List Bytes} (some : segments.flatten ≠ []) :
    (closed refusal).deliver segments =
      ⟨closed refusal, segments.flatten, .some refusal.cause⟩ := by
  have usable : (closed refusal).Usable := by simp [Usable, closed]
  rw [deliverSettles usable, settleFull rfl rfl some]
  rfl

end Sink

namespace Options

theorem formatFileReads (options : Options) {storage : Storage} {path content : Bytes}
    (opens : storage.Opens path content) {sink : Sink} (reliable : sink.Reliable) :
    let lines := Pieces.lines Source.newline content
    options.formatFile storage.read path sink =
      ⟨.ok (options.counts lines), options.listing lines, content.length, 1, [],
        sink.offered (options.listing lines).length, readingEntry path :: options.skips 0 lines⟩ := by
  intro lines
  have opened := (storage.readOpens path content).mpr opens
  obtain ⟨rest, yields, finished⟩ := Source.yieldsToEnd (Source.bufferedSteady bufferSize content)
  rw [Source.bufferedContent] at yields
  rw [options.formatFileOpened opened, readAs, options.startWhole path _ yields finished
    reliable.usable (Sink.fitsUnlimited reliable.boundless _), Pieces.linesFlatten, Sink.flush,
    reliable.flushes]
  rfl

theorem formatFileWhole (options : Options) {storage : Storage} {path content : Bytes}
    (opens : storage.Opens path content) {sink : Sink} (reliable : sink.Reliable) :
    (options.formatFile storage.read path sink).answer =
      ⟨.ok (options.counts (Pieces.lines Source.newline content)),
        options.listing (Pieces.lines Source.newline content), content.length, 1⟩ :=
  congrArg Report.answer (options.formatFileReads opens reliable)

end Options

namespace Command
open Arguments (Declares AsksHelp)

def echoLine (arguments : List Bytes) : Bytes := Utf8.encode (echo arguments ++ ['\n'])

def helpPage (long : Bool) : Text := if long then Arguments.longHelp else Arguments.shortHelp

def asked (strict : Bool) : Options := ⟨if strict then .strict else .preserve, ['0', 'x']⟩

inductive Way where
  | misused
  | unopened
  | helped
  | formatted
  deriving DecidableEq, Repr

def Concludes (arguments : List Bytes) (storage : Storage) (exit : Exit) (tail : Bytes) :
    Way → Prop
  | .misused => exit.code = 2 ∧ tail = [] ∧ (∀ request, ¬ Declares arguments request) ∧
      ∀ long, ¬ AsksHelp .nothing arguments long
  | .unopened => exit.code = 1 ∧ tail = [] ∧ ∃ request cause, Declares arguments request ∧
      storage.read request.path = .error cause ∧
      "Error: cannot open '".toList ++ Utf8.decode request.path ++ "': ".toList ++ cause.text ++
        ['\n'] <:+ exit.stderr
  | .helped => exit.code = 0 ∧ ∃ long, AsksHelp .nothing arguments long ∧
      tail = Utf8.encode (helpPage long)
  | .formatted => exit.code = 0 ∧ ∃ request content, Declares arguments request ∧
      storage.Opens request.path content ∧
      let lines := Pieces.lines Source.newline content
      let options := asked request.strict
      (options.formatFile storage.read request.path .unlimited).answer =
        ⟨.ok (options.counts lines), tail, content.length, 1⟩ ∧ tail = options.listing lines

theorem deliverAllUnlimited (segments : List Bytes) :
    deliverAll .unlimited segments = ⟨.unlimited, [], none⟩ := by
  simp only [deliverAll, Sink.unlimitedTakes]
  rfl

theorem echoSegments (arguments : List Bytes) :
    [Utf8.encode (echo arguments), Utf8.encode ['\n']].flatten = echoLine arguments := by
  simp [echoLine, Utf8.encodeAppend]

theorem runUnlimited (arguments : List Bytes) (opener : Opener) (environment : Option Text) :
    run arguments opener environment .unlimited =
      match Arguments.parse arguments with
      | .mistake mistake => ⟨2, echoLine arguments, mistakeLine mistake⟩
      | .help long => ⟨0, echoLine arguments ++ Utf8.encode (helpPage long), []⟩
      | .request request =>
        perform request opener environment (echoLine arguments) .unlimited := by
  have written : (⟨.unlimited, [], none⟩ : Sink.Delivery).accepted (echoLine arguments) =
      echoLine arguments := by
    simp [Sink.Delivery.accepted]
  unfold run
  simp only [deliverAllUnlimited, echoSegments, written]
  cases Arguments.parse arguments with
  | mistake mistake => rfl
  | request request => rfl
  | help long => simp [Sink.unlimitedTakes, Sink.Delivery.accepted, helpPage]

theorem runClosed (arguments : List Bytes) (opener : Opener) (environment : Option Text)
    (refusal : Refusal) :
    run arguments opener environment (.closed refusal) =
      ⟨1, [], errorLine (.write refusal.cause)⟩ := by
  have some : [Utf8.encode (echo arguments), Utf8.encode ['\n']].flatten ≠ [] := by
    rw [echoSegments, echoLine, Utf8.encodeAppend]
    exact List.append_ne_nil_of_right_ne_nil _ (by decide)
  unfold run
  simp only [deliverAll, Sink.closedRefuses refusal some, Sink.Delivery.accepted, Nat.sub_self,
    List.take_zero]

theorem performUnopened {request : Request} {opener : Opener} {cause : Fault}
    (unopened : opener request.path = .error cause) (environment : Option Text) (written : Bytes)
    (sink : Sink) :
    let exit := perform request opener environment written sink
    exit.code = 1 ∧ exit.stdout = written ∧
      "Error: cannot open '".toList ++ Utf8.decode request.path ++ "': ".toList ++ cause.text ++
        ['\n'] <:+ exit.stderr := by
  have line : errorLine (.access request.path cause) = "Error: cannot open '".toList ++
      Utf8.decode request.path ++ "': ".toList ++ cause.text ++ ['\n'] := by
    have front : "Error: cannot open '".toList = "Error: ".toList ++ "cannot open '".toList := by
      decide
    unfold errorLine FormatError.message
    simp only [front, List.append_assoc]
  rw [← line]
  simp only [perform, Options.formatFile, unopened, List.append_nil, true_and]
  exact List.suffix_append _ _

theorem optionsAsked (strict : Bool) : options strict = asked strict := by
  cases strict <;> rfl

theorem performOpened {request : Request} {opener : Opener} {summary : Summary} {sink : Sink}
    (ok : ((options request.strict).formatFile opener request.path sink).outcome = .ok summary)
    (environment : Option Text) (written : Bytes) :
    let exit := perform request opener environment written sink
    exit.code = 0 ∧ exit.stdout =
      written ++ ((options request.strict).formatFile opener request.path sink).output := by
  simp [perform, ok]

variable {arguments : List Bytes} {storage : Storage} {exit : Exit} {tail : Bytes}

theorem declaredHelpless {request : Request} (declares : Declares arguments request) (long : Bool) :
    ¬ AsksHelp .nothing arguments long := by
  intro asks
  have parsed := (Arguments.parseRequest arguments request).mpr declares
  cases parsed.symm.trans ((Arguments.parseHelp arguments long).mpr asks)

def Way.code : Way → Nat
  | .misused => 2
  | .unopened => 1
  | .helped => 0
  | .formatted => 0

theorem concludesCode {way : Way} (concludes : Concludes arguments storage exit tail way) :
    exit.code = way.code := by
  cases way <;> exact concludes.1

theorem concludesOnce {way other : Way} (first : Concludes arguments storage exit tail way)
    (second : Concludes arguments storage exit tail other) : other = way := by
  have codes : way.code = other.code := (concludesCode first).symm.trans (concludesCode second)
  cases way <;> cases other <;> try first | rfl | contradiction
  case helped.formatted =>
    obtain ⟨-, long, asks, -⟩ := first
    obtain ⟨-, request, -, declares, -⟩ := second
    exact absurd asks (declaredHelpless declares long)
  case formatted.helped =>
    obtain ⟨-, request, -, declares, -⟩ := first
    obtain ⟨-, long, asks, -⟩ := second
    exact absurd asks (declaredHelpless declares long)

theorem concludesMistake {mistake : Arguments.Mistake}
    (parsed : Arguments.parse arguments = .mistake mistake) (misused : exit.code = 2) :
    Concludes arguments storage exit [] .misused := by
  refine ⟨misused, rfl, ?_, ?_⟩
  · intro request declares
    cases parsed.symm.trans ((Arguments.parseRequest _ _).mpr declares)
  · intro long asks
    cases parsed.symm.trans ((Arguments.parseHelp _ _).mpr asks)

theorem runConcludes (arguments : List Bytes) (storage : Storage) (environment : Option Text) :
    ∃ tail way, (run arguments storage.read environment .unlimited).stdout =
        echoLine arguments ++ tail ∧
      Concludes arguments storage (run arguments storage.read environment .unlimited) tail way := by
  rw [runUnlimited]
  cases parsed : Arguments.parse arguments with
  | mistake mistake => exact ⟨[], .misused, (List.append_nil _).symm, concludesMistake parsed rfl⟩
  | help long =>
    exact ⟨_, .helped, rfl, rfl, long, (Arguments.parseHelp _ _).mp parsed, rfl⟩
  | request request =>
    have declares := (Arguments.parseRequest _ _).mp parsed
    cases opened : storage.read request.path with
    | error cause =>
      obtain ⟨code, stdout, line⟩ :=
        performUnopened opened environment (echoLine arguments) .unlimited
      exact ⟨[], .unopened, stdout.trans (List.append_nil _).symm, code, rfl, request, cause,
        declares, opened, line⟩
    | ok content =>
      have opens := (storage.readOpens _ _).mp opened
      have whole := (options request.strict).formatFileWhole opens Options.unlimitedReliable
      obtain ⟨code, stdout⟩ := performOpened (congrArg Report.Answer.outcome whole) environment
        (echoLine arguments)
      rw [optionsAsked] at whole stdout
      have output := congrArg Report.Answer.output whole
      exact ⟨_, .formatted, stdout.trans (congrArg _ output), code, request, content, declares,
        opens, whole, rfl⟩

end Command
end HexDump
