import HexDump.Proofs.CommandLine
import HexDump.Proofs.Quotation

/-! The echo of the arguments, which is a line of its own. From that line alone the
arguments can be told, as they were decoded, and where it ends, whatever else the program
has to say begins. -/
namespace HexDump.Command

def echoHolding (held : Char → Bool) (arguments : List Bytes) : Bytes :=
  Utf8.encode (Quoted.list held (arguments.map Utf8.decode) ++ ['\n'])

def readEcho (line : Bytes) : Option (List Text) := do
  let text ← Utf8.decode? line
  let list ← Listing.dropBack ['\n'] text
  Quoted.readList list

def behindLine (output : Bytes) : Bytes := (output.dropWhile (· ≠ Source.newline)).tail

def answer (arguments : List Bytes) (opener : Opener) : Bytes :=
  match Arguments.parse arguments with
  | .mistake _ => []
  | .help long => Utf8.encode (helpPage long)
  | .request request =>
    ((options request.strict).formatFile opener request.path .unlimited).output

theorem behindLineCut {front : Bytes} (absent : Source.newline ∉ front) (more : Bytes) :
    behindLine (front ++ Source.newline :: more) = more := by
  have whole : ∀ b ∈ front, decide (b ≠ Source.newline) = true := by
    intro b member
    exact decide_eq_true (fun same => absent (same ▸ member))
  unfold behindLine
  rw [List.dropWhile_append_of_pos whole, List.dropWhile_cons_of_neg (by decide), List.tail_cons]

theorem echoStopped (held : Char → Bool) (arguments : List Bytes) :
    ∃ front, echoHolding held arguments = front ++ [Source.newline] ∧ Source.newline ∉ front :=
  ⟨_, Utf8.encodeAppend _ _, Listing.encodeStopless (Quoted.listStopless held _)⟩

theorem readEchoed (held : Char → Bool) (arguments : List Bytes) :
    readEcho (echoHolding held arguments) = some (arguments.map Utf8.decode) := by
  unfold readEcho echoHolding
  rw [Utf8.decodeWellFormed]
  simp only [Option.bind_eq_bind, Option.bind_some, Listing.dropBackAppend]
  exact Quoted.readListed held _

theorem echoSame (held : Char → Bool) (arguments others : List Bytes) :
    echoHolding held arguments = echoHolding held others ↔
      arguments.map Utf8.decode = others.map Utf8.decode := by
  constructor
  · intro same
    have read := congrArg readEcho same
    rw [readEchoed, readEchoed] at read
    exact Option.some.inj read
  · intro same
    rw [echoHolding, echoHolding, same]

theorem runAnswers (arguments : List Bytes) (opener : Opener) (environment : Option Text) :
    (run arguments opener environment .unlimited).stdout =
      echoLine arguments ++ answer arguments opener := by
  rw [runUnlimited]
  unfold answer
  cases Arguments.parse arguments with
  | mistake mistake => exact (List.append_nil _).symm
  | help long => rfl
  | request request =>
    simp only [perform]
    split <;> rfl

theorem echoReadsBack (arguments : List Bytes) :
    (∀ held,
      (∃ front, echoHolding held arguments = front ++ [Source.newline] ∧
        Source.newline ∉ front) ∧
      readEcho (echoHolding held arguments) = some (arguments.map Utf8.decode) ∧
      ∀ others, echoHolding held arguments = echoHolding held others ↔
        arguments.map Utf8.decode = others.map Utf8.decode) ∧
    echoLine arguments = echoHolding Quoted.unshown arguments ∧
    ∀ opener environment,
      let stdout := (run arguments opener environment .unlimited).stdout
      stdout = echoLine arguments ++ answer arguments opener ∧
        behindLine stdout = answer arguments opener := by
  refine ⟨fun held => ⟨echoStopped held arguments, readEchoed held arguments,
    echoSame held arguments⟩, rfl, ?_⟩
  intro opener environment stdout
  have written : stdout = _ := runAnswers arguments opener environment
  refine ⟨written, ?_⟩
  obtain ⟨front, cut, absent⟩ := echoStopped Quoted.unshown arguments
  have line : echoLine arguments = front ++ [Source.newline] := cut
  rw [written, line, List.append_assoc]
  exact behindLineCut absent _

end HexDump.Command
