import HexDump.Quoted
import HexDump.Proofs.ReadBack

/-! Quoted texts read back. A reading needs to know nothing of which characters were held
to be unprintable: every escape begins with a backslash and says itself where it ends, and
no quote stands inside a text without one. -/
namespace HexDump.Quoted

open Listing (dropFront dropBack)

/-- Where a reading stands inside quotes: before a character, behind a backslash, or in a
code point, before its brace or behind the digits of this number. -/
inductive Place where
  | plain
  | escaped
  | opening
  | digits (value : Nat)
  deriving DecidableEq, Repr

def digitValue (c : Char) : Option Nat :=
  if '0' ≤ c ∧ c ≤ '9' then some (c.toNat - '0'.toNat)
  else if 'a' ≤ c ∧ c ≤ 'f' then some (c.toNat - 'a'.toNat + 10)
  else none

def short (c : Char) : Option Char :=
  if c = '"' then some '"'
  else if c = '\\' then some '\\'
  else if c = 'n' then some '\n'
  else if c = 'r' then some '\r'
  else if c = 't' then some '\t'
  else if c = '0' then some '\x00'
  else none

def readFrom : Place → Text → Option (List Text)
  | _, [] => none
  -- A quote of the text itself is met behind its backslash, so this one closes the text.
  | .plain, ['"'] => some [[]]
  | .plain, '"' :: ',' :: ' ' :: '"' :: rest => (readFrom .plain rest).map ([] :: ·)
  | .plain, c :: rest =>
    if c = '"' then none
    else if c = '\\' then readFrom .escaped rest
    else (readFrom .plain rest).map (Pieces.extend c)
  | .escaped, c :: rest =>
    if c = 'u' then readFrom .opening rest
    else (short c).bind (fun meant => (readFrom .plain rest).map (Pieces.extend meant))
  | .opening, c :: rest => if c = '{' then readFrom (.digits 0) rest else none
  | .digits value, c :: rest =>
    if c = '}' then
      if value.isValidChar then
        (readFrom .plain rest).map (Pieces.extend (Char.ofNat value))
      else none
    else (digitValue c).bind (fun digit => readFrom (.digits (value * 16 + digit)) rest)

def readTexts : Text → Option (List Text)
  | [] => some []
  | '"' :: rest => readFrom .plain rest
  | _ :: _ => none

def readList (text : Text) : Option (List Text) := do
  let inner ← dropFront ['['] text
  let body ← dropBack [']'] inner
  readTexts body

theorem digitRead : ∀ d < 16,
    Nat.digitChar d ≠ '}' ∧ Nat.digitChar d ≠ '\n' ∧ digitValue (Nat.digitChar d) = some d := by
  decide

theorem readDigit {digit : Nat} (small : digit < 16) (value : Nat) (rest : Text) :
    readFrom (.digits value) (Nat.digitChar digit :: rest) =
      readFrom (.digits (value * 16 + digit)) rest := by
  obtain ⟨inside, -, worth⟩ := digitRead digit small
  simp [readFrom, inside, worth]

theorem hexadecimalLast (n : Nat) :
    hexadecimal n = (if n < 16 then [] else hexadecimal (n / 16)) ++ [Nat.digitChar (n % 16)] := by
  unfold hexadecimal
  rw [Nat.toDigits_eq_if (by decide)]
  split
  · rename_i small
    rw [Nat.mod_eq_of_lt small]
    rfl
  · rfl

theorem readHexadecimal (n : Nat) (rest : Text) :
    readFrom (.digits 0) (hexadecimal n ++ rest) = readFrom (.digits n) rest := by
  induction n using Nat.strongRecOn generalizing rest with
  | ind n ih =>
    have last : n % 16 < 16 := Nat.mod_lt n (by decide)
    rw [hexadecimalLast, List.append_assoc, List.singleton_append]
    split
    · rename_i small
      rw [List.nil_append, readDigit last, Nat.mod_eq_of_lt small, Nat.zero_mul, Nat.zero_add]
    · rw [ih (n / 16) (by omega), readDigit last, Nat.div_add_mod']

theorem hexadecimalStopless (n : Nat) : '\n' ∉ hexadecimal n := by
  induction n using Nat.strongRecOn with
  | ind n ih =>
    have last := (digitRead (n % 16) (Nat.mod_lt n (by decide))).2.1
    rw [hexadecimalLast]
    split
    · simp [last.symm]
    · simp [ih (n / 16) (by omega), last.symm]

theorem readCodePoint (c : Char) (rest : Text) :
    readFrom .plain (codePoint c ++ rest) = (readFrom .plain rest).map (Pieces.extend c) := by
  have valid : c.toNat.isValidChar := c.valid
  have digits := readHexadecimal c.toNat ('}' :: rest)
  have closed : readFrom (.digits c.toNat) ('}' :: rest) =
      (readFrom .plain rest).map (Pieces.extend c) := by
    simp [readFrom, valid, Char.ofNat_toNat]
  rw [← closed, ← digits]
  simp [codePoint, readFrom]

theorem readShort {mark c : Char} (meant : short mark = some c) (rest : Text) :
    readFrom .plain ('\\' :: mark :: rest) = (readFrom .plain rest).map (Pieces.extend c) := by
  have other : mark ≠ 'u' := by
    rintro rfl
    simp [short] at meant
  simp [readFrom, other, meant]

theorem readPlain {c : Char} (quoteless : c ≠ '"') (slashless : c ≠ '\\') (rest : Text) :
    readFrom .plain (c :: rest) = (readFrom .plain rest).map (Pieces.extend c) := by
  rw [readFrom] <;> simp [quoteless, slashless]

theorem readEscape (held : Char → Bool) (c : Char) (rest : Text) :
    readFrom .plain (escape held c ++ rest) = (readFrom .plain rest).map (Pieces.extend c) := by
  fun_cases escape held c with
  | case7 => exact readCodePoint c rest
  | case8 quoteless slashless => exact readPlain quoteless slashless rest
  | _ =>
    subst_vars
    exact readShort (by decide) rest

theorem readText (held : Char → Bool) (text : Text) {piece rest : Text} {more : List Text}
    (reads : readFrom .plain rest = some (piece :: more)) :
    readFrom .plain (text.flatMap (escape held) ++ rest) = some ((text ++ piece) :: more) := by
  induction text with
  | nil => exact reads
  | cons c text ih =>
    rw [List.flatMap_cons, List.append_assoc, readEscape, ih]
    rfl

theorem readQuotes (held : Char → Bool) (text : Text) (texts : List Text) :
    ∃ inner, comma.intercalate ((text :: texts).map (quote held)) = '"' :: inner ∧
      readFrom .plain inner = some (text :: texts) := by
  induction texts generalizing text with
  | nil =>
    refine ⟨text.flatMap (escape held) ++ ['"'], by simp [quote], ?_⟩
    have closed : readFrom .plain ['"'] = some [[]] := rfl
    simpa using readText held text closed
  | cons next texts ih =>
    obtain ⟨inner, joined, reads⟩ := ih next
    refine ⟨text.flatMap (escape held) ++ '"' :: ',' :: ' ' :: '"' :: inner, ?_, ?_⟩
    · rw [List.map_cons, List.map_cons, List.intercalate_cons_cons, ← List.map_cons, joined]
      simp [quote, comma]
    · have closed : readFrom .plain ('"' :: ',' :: ' ' :: '"' :: inner) =
          some ([] :: next :: texts) := by
        simp [readFrom, reads]
      simpa using readText held text closed

theorem readListed (held : Char → Bool) (texts : List Text) :
    readList (list held texts) = some texts := by
  unfold readList list
  rw [List.append_assoc, Listing.dropFrontAppend]
  simp only [Option.bind_eq_bind, Option.bind_some, Listing.dropBackAppend]
  cases texts with
  | nil => rfl
  | cons text texts =>
    obtain ⟨inner, joined, reads⟩ := readQuotes held text texts
    rw [joined]
    exact reads

example : list Char.isWhitespace [['"', ',', ' ', '"'], ['\x00', '1', '}', '\n'], []] =
    "[\"\\\",\\u\x7b20\x7d\\\"\", \"\\01\x7d\\n\", \"\"]".toList := by decide +kernel

theorem escapeStopless (held : Char → Bool) (c : Char) : '\n' ∉ escape held c := by
  fun_cases escape held c with
  | case7 => simp [codePoint, hexadecimalStopless]
  | case8 _ _ newline => simpa using Ne.symm newline
  | _ => decide

theorem listStopless (held : Char → Bool) (texts : List Text) : '\n' ∉ list held texts := by
  have quoted : ∀ text ∈ texts.map (quote held), '\n' ∉ text := by
    intro text member
    obtain ⟨inside, -, rfl⟩ := List.mem_map.mp member
    simp [quote, escapeStopless]
  have fresh : '\n' ∉ comma := by decide
  simp [list, Pieces.joinAbsent fresh quoted]

end HexDump.Quoted
