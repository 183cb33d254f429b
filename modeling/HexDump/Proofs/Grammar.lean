import HexDump.Arguments
import HexDump.Proofs.Decoding

/-! One argument of the command line: a path, or a flag by its long name or its letter.
What it adds to the arguments before it, and how it asks for help, is exactly what is
made of it. -/
namespace HexDump.Arguments

def escape : Bytes := [dash, dash]

def Flag.name (flag : Flag) : Bytes := Utf8.encode flag.text

def verboseLetter : Bytes := Utf8.encode "-v".toList

def letterV : UInt8 := 0x76

def letterH : UInt8 := 0x68

def isFlag : Bytes → Bool
  | a :: _ :: _ => a = dash
  | _ => false

inductive Takes (seen : Seen) : Bytes → Seen → Prop where
  | strict (named : seen.path ≠ some []) (fresh : seen.strict = false) :
      Takes seen Flag.strict.name { seen with strict := true }
  | verbose {argument : Bytes} (spelled : argument = Flag.verbose.name ∨ argument = verboseLetter)
      (named : seen.path ≠ some []) (fresh : seen.verbose = false) :
      Takes seen argument { seen with verbose := true }
  | path {argument : Bytes} (plain : isFlag argument = false) (unnamed : seen.path = none) :
      Takes seen argument { seen with path := some argument }

/- The letters behind one dash ask for help with the first of them, or with the second
if the first one is the verbose flag. -/
def LettersAsk (seen : Seen) (letters : Bytes) : Prop :=
  seen.path ≠ some [] ∧
    ([letterH] <+: letters ∨ ([letterV, letterH] <+: letters ∧ seen.verbose = false))

inductive Asks (seen : Seen) : Bytes → Bool → Prop where
  | name (named : seen.path ≠ some []) : Asks seen Flag.help.name true
  | letter {letters : Bytes} (asks : LettersAsk seen letters) : Asks seen (dash :: letters) false

theorem acceptCases (seen : Seen) (flag : Flag) (long : Bool) :
    (∃ mistake, seen.accept flag long = .error (.mistake mistake)) ∨ (seen.path ≠ some [] ∧
      ((flag = .help ∧ seen.accept flag long = .error (.help long)) ∨
        (flag = .strict ∧ seen.strict = false ∧
          seen.accept flag long = .ok { seen with strict := true }) ∨
        (flag = .verbose ∧ seen.verbose = false ∧
          seen.accept flag long = .ok { seen with verbose := true }))) := by
  unfold Seen.accept
  by_cases named : seen.path = some []
  · exact .inl ⟨_, if_pos named⟩
  · rw [if_neg named]
    cases flag with
    | help => exact .inr ⟨named, .inl ⟨rfl, rfl⟩⟩
    | strict =>
      cases seen.strict with
      | true => exact .inl ⟨_, rfl⟩
      | false => exact .inr ⟨named, .inr (.inl ⟨rfl, rfl, rfl⟩)⟩
    | verbose =>
      cases seen.verbose with
      | true => exact .inl ⟨_, rfl⟩
      | false => exact .inr ⟨named, .inr (.inr ⟨rfl, rfl, rfl⟩)⟩

theorem acceptOk {seen next : Seen} {flag : Flag} {long : Bool}
    (ok : seen.accept flag long = .ok next) :
    seen.path ≠ some [] ∧
      ((flag = .strict ∧ seen.strict = false ∧ next = { seen with strict := true }) ∨
        (flag = .verbose ∧ seen.verbose = false ∧ next = { seen with verbose := true })) := by
  rcases acceptCases seen flag long with
    ⟨_, wrong⟩ | ⟨named, ⟨_, help⟩ | ⟨strict, fresh, taken⟩ | ⟨verbose, fresh, taken⟩⟩
  · cases ok.symm.trans wrong
  · cases ok.symm.trans help
  · exact ⟨named, .inl ⟨strict, fresh, Except.ok.inj (ok.symm.trans taken)⟩⟩
  · exact ⟨named, .inr ⟨verbose, fresh, Except.ok.inj (ok.symm.trans taken)⟩⟩

theorem acceptError {seen : Seen} {flag : Flag} {long : Bool} {decision : Decision}
    (error : seen.accept flag long = .error decision) :
    (flag = .help ∧ decision = .help long ∧ seen.path ≠ some []) ∨
      ∃ mistake, decision = .mistake mistake := by
  rcases acceptCases seen flag long with
    ⟨mistake, wrong⟩ | ⟨named, ⟨asked, help⟩ | ⟨_, _, taken⟩ | ⟨_, _, taken⟩⟩
  · exact .inr ⟨mistake, Except.error.inj (error.symm.trans wrong)⟩
  · exact .inl ⟨asked, Except.error.inj (error.symm.trans help), named⟩
  · cases error.symm.trans taken
  · cases error.symm.trans taken

theorem acceptStrict {seen : Seen} (named : seen.path ≠ some []) (fresh : seen.strict = false)
    (long : Bool) : seen.accept .strict long = .ok { seen with strict := true } := by
  simp [Seen.accept, named, fresh]

theorem acceptVerbose {seen : Seen} (named : seen.path ≠ some []) (fresh : seen.verbose = false)
    (long : Bool) : seen.accept .verbose long = .ok { seen with verbose := true } := by
  simp [Seen.accept, named, fresh]

theorem acceptHelp {seen : Seen} (named : seen.path ≠ some []) (long : Bool) :
    seen.accept .help long = .error (.help long) := by
  simp [Seen.accept, named]

theorem nameDashes (flag : Flag) : flag.name = dash :: dash :: Utf8.encode (flag.text.drop 2) := by
  cases flag <;> rfl

theorem longFlag (seen : Seen) (flag : Flag) :
    long seen (Utf8.encode (flag.text.drop 2)) = seen.accept flag true := by
  cases flag <;> rfl

theorem longNamed (seen : Seen) (rest : Bytes) :
    (∃ flag : Flag, rest = Utf8.encode (flag.text.drop 2)) ∨
      ∃ mistake, long seen rest = .error (.mistake mistake) := by
  unfold long
  dsimp only
  split
  · exact .inr ⟨_, rfl⟩
  · rename_i flag found nothing
    have whole := List.takeWhile_append_dropWhile (p := (· ≠ equals)) (l := rest)
    rw [nothing, List.append_nil] at whole
    have written := List.find?_some found
    exact .inl ⟨flag, whole.symm.trans (of_decide_eq_true written).symm⟩
  · exact .inr ⟨_, rfl⟩

theorem characterFront {bytes rest : Bytes} {c : Char} (read : character? bytes = some (c, rest)) :
    bytes = String.utf8EncodeChar c ++ rest := by
  unfold character? at read
  split at read
  · contradiction
  · dsimp only at read
    split at read
    · rename_i begins
      cases read
      obtain ⟨behind, same⟩ := List.isPrefixOf_iff_prefix.mp begins
      rw [← same, List.drop_left]
    · contradiction

theorem ofShort {c : Char} {flag : Flag} (known : Flag.ofShort? c = some flag) :
    (c = 'v' ∧ flag = .verbose) ∨ (c = 'h' ∧ flag = .help) := by
  unfold Flag.ofShort? at known
  split at known
  · rename_i letter
    cases known
    exact .inl ⟨letter, rfl⟩
  · split at known
    · rename_i letter
      cases known
      exact .inr ⟨letter, rfl⟩
    · contradiction

theorem shortRead (seen : Seen) {letters rest : Bytes} {c : Char} {flag : Flag}
    (read : character? letters = some (c, rest)) (known : Flag.ofShort? c = some flag) :
    short seen letters = (seen.accept flag false).bind (short · rest) := by
  have some : letters ≠ [] := by
    rintro rfl
    cases read
  rw [short, if_neg some]
  split
  · rename_i unread
    cases read.symm.trans unread
  · rename_i found
    cases read.symm.trans found
    simp only [known]
    cases seen.accept flag false <;> rfl

theorem shortLetter (seen : Seen) {letter : UInt8} {flag : Flag} (ascii : letter < 0x80)
    (single : String.utf8EncodeChar (Char.ofNat letter.toNat) = [letter])
    (known : Flag.ofShort? (Char.ofNat letter.toNat) = some flag) (rest : Bytes) :
    short seen (letter :: rest) = (seen.accept flag false).bind (short · rest) := by
  have decoded : Utf8.decode (letter :: rest) = Char.ofNat letter.toNat :: Utf8.decode rest :=
    Utf8.decodeAscii ascii [] rest
  have read : character? (letter :: rest) = some (Char.ofNat letter.toNat, rest) := by
    simp [character?, decoded, single]
  exact shortRead seen read known

theorem shortV (seen : Seen) (rest : Bytes) :
    short seen (letterV :: rest) = (seen.accept .verbose false).bind (short · rest) :=
  shortLetter seen (by decide) (by decide +kernel) rfl rest

theorem shortH (seen : Seen) (rest : Bytes) :
    short seen (letterH :: rest) = (seen.accept .help false).bind (short · rest) :=
  shortLetter seen (by decide) (by decide +kernel) rfl rest

theorem shortVerbose (seen : Seen) : short seen [letterV] = seen.accept .verbose false := by
  rw [shortV]
  cases seen.accept .verbose false with
  | error decision => rfl
  | ok next => simp [short, Except.bind]

theorem shortAsked {seen : Seen} {letters : Bytes} (asks : LettersAsk seen letters) :
    short seen letters = .error (.help false) := by
  obtain ⟨named, ⟨rest, rfl⟩ | ⟨⟨rest, rfl⟩, fresh⟩⟩ := asks
  · rw [List.singleton_append, shortH, acceptHelp named]
    rfl
  · rw [List.cons_append, shortV, acceptVerbose named fresh]
    change short { seen with verbose := true } (letterH :: rest) = _
    rw [shortH, acceptHelp (by exact named)]
    rfl

theorem shortOk {seen next : Seen} {letters : Bytes} (ok : short seen letters = .ok next) :
    (letters = [] ∧ next = seen) ∨
      (letters = [0x76] ∧ seen.accept .verbose false = .ok next) := by
  fun_induction short seen letters with
  | case1 seen =>
    cases ok
    exact .inl ⟨rfl, rfl⟩
  | case2 => contradiction
  | case3 => contradiction
  | case4 => contradiction
  | case5 seen letters some c rest read flag known after accepted ih =>
    right
    obtain ⟨named, taken⟩ := acceptOk accepted
    rcases ofShort known with ⟨rfl, rfl⟩ | ⟨-, rfl⟩
    · rcases ih ok with ⟨rfl, rfl⟩ | ⟨-, again⟩
      · exact ⟨characterFront read, accepted⟩
      · obtain ⟨-, repeated⟩ := acceptOk again
        simp_all
    · simp at taken

theorem shortError {seen : Seen} {letters : Bytes} {decision : Decision}
    (error : short seen letters = .error decision) :
    (decision = .help false ∧ LettersAsk seen letters) ∨ ∃ mistake, decision = .mistake mistake := by
  fun_induction short seen letters with
  | case1 => contradiction
  | case2 =>
    cases error
    exact .inr ⟨_, rfl⟩
  | case3 =>
    cases error
    exact .inr ⟨_, rfl⟩
  | case4 seen letters some c rest read flag known other refused =>
    cases error
    refine (acceptError refused).imp_left ?_
    rintro ⟨rfl, asked, named⟩
    obtain ⟨-, none⟩ | ⟨rfl, -⟩ := ofShort known
    · contradiction
    · exact ⟨asked, named, .inl ⟨rest, (characterFront read).symm⟩⟩
  | case5 seen letters some c rest read flag known after accepted ih =>
    refine (ih error).imp_left ?_
    rintro ⟨asked, named, asks⟩
    obtain ⟨unemptied, taken⟩ := acceptOk accepted
    rcases ofShort known with ⟨rfl, rfl⟩ | ⟨-, rfl⟩
    · obtain ⟨fresh, met⟩ : seen.verbose = false ∧ after = { seen with verbose := true } := by
        simpa using taken
      refine ⟨asked, unemptied, .inr ⟨?_, fresh⟩⟩
      rcases asks with ⟨more, rfl⟩ | ⟨-, again⟩
      · exact ⟨more, (characterFront read).symm⟩
      · rw [met] at again
        cases again
    · simp at taken

theorem argumentName (seen : Seen) (flag : Flag) :
    argument seen flag.name = seen.accept flag true := by
  rw [nameDashes]
  exact longFlag seen flag

theorem argumentLetter (seen : Seen) :
    argument seen verboseLetter = seen.accept .verbose false :=
  shortVerbose seen

theorem positionalOk {seen next : Seen} {argument : Bytes}
    (ok : seen.positional argument = .ok next) :
    seen.path = none ∧ next = { seen with path := some argument } := by
  unfold Seen.positional at ok
  split at ok
  · rename_i unnamed
    cases ok
    exact ⟨unnamed, rfl⟩
  · contradiction

theorem positionalNone {seen : Seen} (unnamed : seen.path = none) (argument : Bytes) :
    seen.positional argument = .ok { seen with path := some argument } := by
  simp [Seen.positional, unnamed]

theorem argumentPlain (seen : Seen) {bytes : Bytes} (plain : isFlag bytes = false) :
    argument seen bytes = seen.positional bytes := by
  unfold argument
  split
  · rename_i a b rest
    rw [if_neg (by simpa [isFlag] using plain)]
  · rfl

theorem flagForms (seen : Seen) {bytes : Bytes} (flag : isFlag bytes = true) :
    (∃ rest, bytes = dash :: dash :: rest ∧ argument seen bytes = long seen rest) ∨
      ∃ letters, bytes = dash :: letters ∧ letters ≠ [] ∧
        argument seen bytes = short seen letters := by
  unfold isFlag at flag
  split at flag
  · rename_i a b rest
    have first : a = dash := of_decide_eq_true flag
    by_cases second : b = dash
    · exact .inl ⟨rest, by rw [first, second], by simp [argument, first, second]⟩
    · exact .inr ⟨b :: rest, by rw [first], List.cons_ne_nil _ _,
        by simp [argument, first, second]⟩
  · contradiction

theorem acceptTakes {seen next : Seen} {flag : Flag} {long : Bool} {bytes : Bytes}
    (spelled : bytes = flag.name ∨ (flag = .verbose ∧ bytes = verboseLetter))
    (ok : seen.accept flag long = .ok next) : Takes seen bytes next := by
  obtain ⟨named, ⟨rfl, fresh, rfl⟩ | ⟨rfl, fresh, rfl⟩⟩ := acceptOk ok
  · rcases spelled with rfl | ⟨none, -⟩
    · exact .strict named fresh
    · contradiction
  · exact .verbose (spelled.imp_right And.right) named fresh

theorem argumentTakes (seen next : Seen) {bytes : Bytes} (other : bytes ≠ escape) :
    argument seen bytes = .ok next ↔ Takes seen bytes next := by
  constructor
  · intro ok
    cases flag : isFlag bytes with
    | false =>
      rw [argumentPlain seen flag] at ok
      obtain ⟨unnamed, rfl⟩ := positionalOk ok
      exact .path flag unnamed
    | true =>
      rcases flagForms seen flag with ⟨rest, whole, read⟩ | ⟨letters, whole, some, read⟩
      · rcases longNamed seen rest with ⟨flag, rfl⟩ | ⟨mistake, wrong⟩
        · rw [read, longFlag] at ok
          exact acceptTakes (.inl (whole.trans (nameDashes flag).symm)) ok
        · cases (read.trans wrong).symm.trans ok
      · rcases shortOk (read.symm.trans ok) with ⟨none, -⟩ | ⟨rfl, accepted⟩
        · exact absurd none some
        · exact acceptTakes (.inr ⟨rfl, whole⟩) accepted
  · intro takes
    cases takes with
    | strict named fresh => rw [argumentName, acceptStrict named fresh]
    | verbose spelled named fresh =>
      rcases spelled with rfl | rfl
      · rw [argumentName, acceptVerbose named fresh]
      · rw [argumentLetter, acceptVerbose named fresh]
    | path plain unnamed => rw [argumentPlain seen plain, positionalNone unnamed]

theorem asksOther {seen : Seen} {argument : Bytes} {long : Bool} (asks : Asks seen argument long) :
    argument ≠ escape := by
  cases asks with
  | name => decide
  | letter asks =>
    obtain ⟨-, ⟨rest, rfl⟩ | ⟨⟨rest, rfl⟩, -⟩⟩ := asks <;> simp [escape, dash, letterH, letterV]

theorem argumentHelp {seen : Seen} {bytes : Bytes} {long : Bool} (asks : Asks seen bytes long) :
    argument seen bytes = .error (.help long) := by
  cases asks with
  | name named => rw [argumentName, acceptHelp named]
  | @letter letters asks =>
    have single : argument seen (dash :: letters) = short seen letters := by
      obtain ⟨-, ⟨rest, rfl⟩ | ⟨⟨rest, rfl⟩, -⟩⟩ := asks <;> rfl
    rw [single, shortAsked asks]

theorem argumentError {seen : Seen} {bytes : Bytes} {decision : Decision}
    (error : argument seen bytes = .error decision) :
    (∃ long, decision = .help long ∧ Asks seen bytes long) ∨
      ∃ mistake, decision = .mistake mistake := by
  cases flag : isFlag bytes with
  | false =>
    rw [argumentPlain seen flag] at error
    unfold Seen.positional at error
    split at error
    · contradiction
    · cases error
      exact .inr ⟨_, rfl⟩
  | true =>
    rcases flagForms seen flag with ⟨rest, whole, read⟩ | ⟨letters, whole, -, read⟩
    · rw [read] at error
      rcases longNamed seen rest with ⟨flag, rfl⟩ | ⟨mistake, wrong⟩
      · rw [longFlag] at error
        refine (acceptError error).imp_left ?_
        rintro ⟨rfl, rfl, named⟩
        rw [whole, ← nameDashes]
        exact ⟨true, rfl, .name named⟩
      · cases error.symm.trans wrong
        exact .inr ⟨mistake, rfl⟩
    · rw [read] at error
      refine (shortError error).imp_left ?_
      rintro ⟨rfl, asks⟩
      rw [whole]
      exact ⟨false, rfl, .letter asks⟩

end HexDump.Arguments
