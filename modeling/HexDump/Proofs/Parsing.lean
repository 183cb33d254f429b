import HexDump.Proofs.Grammar

/-! The command line as it is declared: one path that is not empty, and each flag at most
once. A sole `--` ends the flags. Arguments are taken for a request exactly if they are
written in this way, and help is given exactly if it is asked for before anything is
wrong. -/
namespace HexDump.Arguments

def flags (arguments : List Bytes) : List Bytes :=
  (arguments.takeWhile (· ≠ escape)).filter isFlag

def paths (arguments : List Bytes) : List Bytes :=
  (arguments.takeWhile (· ≠ escape)).filter (fun argument => !isFlag argument) ++
    (arguments.dropWhile (· ≠ escape)).drop 1

structure Completes (seen : Seen) (arguments : List Bytes) (request : Request) : Prop where
  path : seen.path.toList ++ paths arguments = [request.path]
  named : request.path ≠ []
  known : ∀ flag ∈ flags arguments, flag ∈ [Flag.strict.name, Flag.verbose.name, verboseLetter]
  strict : seen.strict.toNat + (flags arguments).count Flag.strict.name = request.strict.toNat
  verbose : seen.verbose.toNat + ((flags arguments).count Flag.verbose.name +
    (flags arguments).count verboseLetter) = request.verbose.toNat

def Declares (arguments : List Bytes) (request : Request) : Prop :=
  Completes .nothing arguments request

theorem flagsEscape (rest : List Bytes) : flags (escape :: rest) = [] := by
  simp [flags]

theorem pathsEscape (rest : List Bytes) : paths (escape :: rest) = rest := by
  simp [paths]

theorem flagsCons {argument : Bytes} (other : argument ≠ escape) (rest : List Bytes) :
    flags (argument :: rest) = if isFlag argument then argument :: flags rest else flags rest := by
  simp [flags, other, List.filter_cons]

theorem pathsCons {argument : Bytes} (other : argument ≠ escape) (rest : List Bytes) :
    paths (argument :: rest) = if isFlag argument then paths rest else argument :: paths rest := by
  cases flag : isFlag argument <;> simp [paths, other, flag]

inductive AsksHelp : Seen → List Bytes → Bool → Prop where
  | now {seen : Seen} {argument : Bytes} {long : Bool} (asks : Asks seen argument long)
      (rest : List Bytes) : AsksHelp seen (argument :: rest) long
  | later {seen next : Seen} {argument : Bytes} {rest : List Bytes} {long : Bool}
      (other : argument ≠ escape) (takes : Takes seen argument next)
      (asks : AsksHelp next rest long) : AsksHelp seen (argument :: rest) long

theorem Completes.unemptied {seen : Seen} {arguments : List Bytes} {request : Request}
    (completes : Completes seen arguments request) : seen.path ≠ some [] := by
  intro empty
  have path := completes.path
  rw [empty] at path
  exact completes.named (List.cons.inj path).1.symm

theorem toNatSame {a b : Bool} (same : a.toNat = b.toNat) : a = b := by
  cases a <;> cases b <;> simp_all

theorem completesPaths {seen : Seen} {arguments : List Bytes} (flagless : flags arguments = [])
    (request : Request) :
    Completes seen arguments request ↔ seen.path.toList ++ paths arguments = [request.path] ∧
      request.path ≠ [] ∧ request.strict = seen.strict ∧ request.verbose = seen.verbose := by
  constructor
  · rintro ⟨path, named, -, strict, verbose⟩
    rw [flagless] at strict verbose
    exact ⟨path, named, (toNatSame strict).symm, (toNatSame verbose).symm⟩
  · rintro ⟨path, named, strict, verbose⟩
    refine ⟨path, named, ?_, ?_, ?_⟩ <;> simp [flagless, strict, verbose]

theorem completesPath {seen : Seen} {arguments more : List Bytes} {bytes : Bytes}
    (same : flags arguments = flags more) (next : paths arguments = bytes :: paths more)
    (request : Request) : Completes seen arguments request ↔
      seen.path = none ∧ Completes { seen with path := some bytes } more request := by
  constructor
  · rintro ⟨path, named, known, strict, verbose⟩
    rw [next] at path
    cases unnamed : seen.path with
    | some before => simp [unnamed] at path
    | none =>
      rw [unnamed] at path
      exact ⟨rfl, path, named, same ▸ known, same ▸ strict, same ▸ verbose⟩
  · rintro ⟨unnamed, path, named, known, strict, verbose⟩
    refine ⟨?_, named, same ▸ known, same ▸ strict, same ▸ verbose⟩
    rw [unnamed, next]
    exact path

theorem countOnce {seen wanted : Bool} {others : Nat} :
    seen.toNat + (others + 1) = wanted.toNat ↔ seen = false ∧ true.toNat + others = wanted.toNat := by
  cases seen <;> simp [Nat.add_comm]
  intro many
  cases wanted <;> simp_all

theorem completesStrict {seen : Seen} {arguments more : List Bytes}
    (next : flags arguments = Flag.strict.name :: flags more) (same : paths arguments = paths more)
    (request : Request) : Completes seen arguments request ↔
      seen.strict = false ∧ Completes { seen with strict := true } more request := by
  have counts : (flags arguments).count Flag.strict.name =
        (flags more).count Flag.strict.name + 1 ∧
      (flags arguments).count Flag.verbose.name = (flags more).count Flag.verbose.name ∧
      (flags arguments).count verboseLetter = (flags more).count verboseLetter := by
    rw [next]
    exact ⟨List.count_cons_self, List.count_cons_of_ne (by decide), List.count_cons_of_ne (by decide)⟩
  constructor
  · rintro ⟨path, named, known, strict, verbose⟩
    rw [counts.1, countOnce] at strict
    rw [counts.2.1, counts.2.2] at verbose
    refine ⟨strict.1, same ▸ path, named, fun flag member => known flag ?_, strict.2, verbose⟩
    rw [next]
    exact List.mem_cons_of_mem _ member
  · rintro ⟨fresh, path, named, known, strict, verbose⟩
    refine ⟨same ▸ path, named, ?_, ?_, ?_⟩
    · rw [next]
      exact List.forall_mem_cons.mpr ⟨by simp, known⟩
    · rw [counts.1, countOnce]
      exact ⟨fresh, strict⟩
    · rw [counts.2.1, counts.2.2]
      exact verbose

theorem completesVerbose {seen : Seen} {arguments more : List Bytes} {bytes : Bytes}
    (spelled : bytes = Flag.verbose.name ∨ bytes = verboseLetter)
    (next : flags arguments = bytes :: flags more) (same : paths arguments = paths more)
    (request : Request) : Completes seen arguments request ↔
      seen.verbose = false ∧ Completes { seen with verbose := true } more request := by
  have counts : (flags arguments).count Flag.strict.name = (flags more).count Flag.strict.name ∧
      (flags arguments).count Flag.verbose.name + (flags arguments).count verboseLetter =
        (flags more).count Flag.verbose.name + (flags more).count verboseLetter + 1 := by
    rw [next]
    rcases spelled with rfl | rfl
    · rw [List.count_cons_of_ne (by decide), List.count_cons_self,
        List.count_cons_of_ne (by decide)]
      omega
    · rw [List.count_cons_of_ne (by decide), List.count_cons_of_ne (by decide),
        List.count_cons_self]
      omega
  constructor
  · rintro ⟨path, named, known, strict, verbose⟩
    rw [counts.1] at strict
    rw [counts.2, countOnce] at verbose
    refine ⟨verbose.1, same ▸ path, named, fun flag member => known flag ?_, strict, verbose.2⟩
    rw [next]
    exact List.mem_cons_of_mem _ member
  · rintro ⟨fresh, path, named, known, strict, verbose⟩
    refine ⟨same ▸ path, named, ?_, ?_, ?_⟩
    · rw [next]
      exact List.forall_mem_cons.mpr ⟨by rcases spelled with rfl | rfl <;> simp, known⟩
    · rw [counts.1]
      exact strict
    · rw [counts.2, countOnce]
      exact ⟨fresh, verbose⟩

theorem concludeRequest (seen : Seen) {arguments : List Bytes} (flagless : flags arguments = [])
    (pathless : paths arguments = []) (request : Request) :
    seen.conclude = .request request ↔ Completes seen arguments request := by
  rw [completesPaths flagless, pathless, List.append_nil]
  unfold Seen.conclude
  split
  · rename_i unnamed
    simp [unnamed]
  · rename_i empty
    rw [empty]
    constructor
    · intro wrong
      cases wrong
    · rintro ⟨path, named, -⟩
      exact absurd (List.cons.inj path).1.symm named
  · rename_i path named given
    rw [given]
    constructor
    · intro same
      cases same
      exact ⟨rfl, named, rfl, rfl⟩
    · rintro ⟨same, -, strict, verbose⟩
      rw [(List.cons.inj same).1, ← strict, ← verbose]

theorem positionalsRequest (seen : Seen) (arguments : List Bytes) (request : Request) :
    positionals seen arguments = .request request ↔
      Completes seen (escape :: arguments) request := by
  induction arguments generalizing seen with
  | nil => exact concludeRequest seen (flagsEscape []) (pathsEscape []) request
  | cons bytes rest ih =>
    have next : paths (escape :: bytes :: rest) = bytes :: paths (escape :: rest) := by
      rw [pathsEscape, pathsEscape]
    have same : flags (escape :: bytes :: rest) = flags (escape :: rest) := by
      rw [flagsEscape, flagsEscape]
    rw [completesPath same next, positionals]
    cases unnamed : seen.path with
    | none =>
      rw [positionalNone unnamed]
      exact (ih _).trans (and_iff_right rfl).symm
    | some before =>
      constructor
      · simp [Seen.positional, unnamed]
      · rintro ⟨none, -⟩
        cases none

theorem completesCons (seen : Seen) {bytes : Bytes} (other : bytes ≠ escape)
    (rest : List Bytes) (request : Request) :
    Completes seen (bytes :: rest) request ↔
      ∃ next, Takes seen bytes next ∧ Completes next rest request := by
  have flagged := flagsCons other rest
  have pathed := pathsCons other rest
  constructor
  · intro completes
    have named := completes.unemptied
    cases flag : isFlag bytes with
    | false =>
      rw [flag] at flagged pathed
      obtain ⟨unnamed, after⟩ := (completesPath flagged pathed request).mp completes
      exact ⟨_, .path flag unnamed, after⟩
    | true =>
      rw [flag] at flagged pathed
      have known := completes.known bytes (by rw [flagged]; exact List.mem_cons_self)
      rcases List.mem_cons.mp known with rfl | letters
      · obtain ⟨fresh, after⟩ := (completesStrict flagged pathed request).mp completes
        exact ⟨_, .strict named fresh, after⟩
      · have spelled : bytes = Flag.verbose.name ∨ bytes = verboseLetter := by simpa using letters
        obtain ⟨fresh, after⟩ := (completesVerbose spelled flagged pathed request).mp completes
        exact ⟨_, .verbose spelled named fresh, after⟩
  · rintro ⟨next, takes, after⟩
    cases takes with
    | strict named fresh => exact (completesStrict flagged pathed request).mpr ⟨fresh, after⟩
    | verbose spelled named fresh =>
      have flag : isFlag bytes = true := by rcases spelled with rfl | rfl <;> rfl
      rw [flag] at flagged pathed
      exact (completesVerbose spelled flagged pathed request).mpr ⟨fresh, after⟩
    | path plain unnamed =>
      rw [plain] at flagged pathed
      exact (completesPath flagged pathed request).mpr ⟨unnamed, after⟩

theorem parseFromEscape (seen : Seen) (rest : List Bytes) :
    parseFrom seen (escape :: rest) = positionals seen rest := if_pos rfl

theorem parseFromError {seen : Seen} {bytes : Bytes} {decision : Decision}
    (other : bytes ≠ escape) (error : argument seen bytes = .error decision) (rest : List Bytes) :
    parseFrom seen (bytes :: rest) = decision := by
  rw [parseFrom, if_neg (show bytes ≠ [dash, dash] from other), error]

theorem parseFromOk {seen next : Seen} {bytes : Bytes} (other : bytes ≠ escape)
    (ok : argument seen bytes = .ok next) (rest : List Bytes) :
    parseFrom seen (bytes :: rest) = parseFrom next rest := by
  rw [parseFrom, if_neg (show bytes ≠ [dash, dash] from other), ok]

theorem parseFromRequest (seen : Seen) (arguments : List Bytes) (request : Request) :
    parseFrom seen arguments = .request request ↔ Completes seen arguments request := by
  induction arguments generalizing seen with
  | nil => exact concludeRequest seen rfl rfl request
  | cons bytes rest ih =>
    by_cases escaped : bytes = escape
    · rw [escaped, parseFromEscape]
      exact positionalsRequest seen rest request
    · rw [completesCons seen escaped]
      cases read : argument seen bytes with
      | error decision =>
        rw [parseFromError escaped read]
        constructor
        · rintro rfl
          rcases argumentError read with ⟨long, help, -⟩ | ⟨mistake, wrong⟩
          · cases help
          · cases wrong
        · rintro ⟨next, takes, -⟩
          cases read.symm.trans ((argumentTakes seen next escaped).mpr takes)
      | ok next =>
        rw [parseFromOk escaped read, ih]
        constructor
        · intro completes
          exact ⟨next, (argumentTakes seen next escaped).mp read, completes⟩
        · rintro ⟨other, takes, completes⟩
          cases read.symm.trans ((argumentTakes seen other escaped).mpr takes)
          exact completes

theorem parseRequest (arguments : List Bytes) (request : Request) :
    parse arguments = .request request ↔ Declares arguments request :=
  parseFromRequest .nothing arguments request

theorem concludeHelpless (seen : Seen) (long : Bool) : seen.conclude ≠ .help long := by
  unfold Seen.conclude
  split <;> simp

theorem positionalsHelpless (seen : Seen) (arguments : List Bytes) (long : Bool) :
    positionals seen arguments ≠ .help long := by
  induction arguments generalizing seen with
  | nil => exact concludeHelpless seen long
  | cons bytes rest ih =>
    rw [positionals]
    unfold Seen.positional
    split
    · rename_i error
      split at error
      · cases error
      · cases error
        simp
    · exact ih _

theorem parseFromHelp (seen : Seen) (arguments : List Bytes) (long : Bool) :
    parseFrom seen arguments = .help long ↔ AsksHelp seen arguments long := by
  constructor
  · intro help
    induction arguments generalizing seen with
    | nil => exact absurd help (concludeHelpless seen long)
    | cons bytes rest ih =>
      by_cases escaped : bytes = escape
      · rw [escaped, parseFromEscape] at help
        exact absurd help (positionalsHelpless seen rest long)
      · cases read : argument seen bytes with
        | error decision =>
          rw [parseFromError escaped read] at help
          rcases argumentError read with ⟨other, same, asks⟩ | ⟨mistake, wrong⟩
          · cases help.symm.trans same
            exact .now asks rest
          · cases help.symm.trans wrong
        | ok next =>
          rw [parseFromOk escaped read] at help
          exact .later escaped ((argumentTakes seen next escaped).mp read) (ih next help)
  · intro asks
    induction asks with
    | @now seen argument long asks rest =>
      exact parseFromError (asksOther asks) (argumentHelp asks) rest
    | @later seen next argument rest long other takes asks ih =>
      rw [parseFromOk other ((argumentTakes seen next other).mpr takes), ih]

theorem parseHelp (arguments : List Bytes) (long : Bool) :
    parse arguments = .help long ↔ AsksHelp .nothing arguments long :=
  parseFromHelp .nothing arguments long

end HexDump.Arguments
