import HexDump.Proofs.Annotations
import HexDump.Proofs.Strictness
import Mathlib.Data.List.DropRight

/-! Tokens cut out of the bytes of a line, before any of it is decoded. The decoder starts
afresh at each ASCII byte and makes no ASCII character of any other, so it leaves the
annotations, the padding and the spaces of a line where they are. What is broken in one
token never reaches the next. -/
namespace HexDump

namespace Utf8

theorem readOpen {p : Pending} (sound : p.Sound) (pending : p ≠ .ready) (bytes : Bytes) :
    ∃ c text, p.read bytes = c :: text ∧ 0x80 ≤ c.toNat := by
  induction bytes generalizing p with
  | nil =>
    cases p with
    | ready => contradiction
    | owed further low high bits => exact ⟨replacement, [], rfl, by decide⟩
  | cons b bytes ih =>
    have next := stepSound sound b
    cases p with
    | ready => contradiction
    | owed further low high bits =>
      rw [Pending.read]
      by_cases inside : low ≤ b ∧ b ≤ high
      · cases further with
        | zero =>
          have scalar := sound.2 b inside.1 inside.2
          rw [stepLast inside]
          exact ⟨_, _, rfl, scalar.1.trans_eq (scalarNumber scalar.2).symm⟩
        | succ further =>
          rw [stepOn inside] at next ⊢
          exact ih next (by simp)
      · rw [stepOutside inside]
        exact ⟨replacement, _, rfl, by decide⟩

theorem decodeFirst {b : UInt8} (wide : ¬ b < 0x80) (bytes : Bytes) :
    ∃ c text, decode (b :: bytes) = c :: text ∧ 0x80 ≤ c.toNat := by
  rw [decodeRead]
  have sound := opensSound b
  have silent := opensSilent (b := b)
  rw [Pending.read, Pending.step]
  cases leads : lead b with
  | none => exact ⟨replacement, _, by simp [opens, wide, leads]; rfl, by decide⟩
  | some p =>
    rw [opensLead leads] at sound silent ⊢
    exact readOpen sound (silent rfl) bytes

theorem readFront {p : Pending} (sound : p.Sound) (bytes : Bytes) :
    ∃ (front : Text) (q : Pending), q.Sound ∧
      ∀ more, p.read (bytes ++ more) = front ++ q.read more := by
  induction bytes generalizing p with
  | nil => exact ⟨[], p, sound, fun more => rfl⟩
  | cons b bytes ih =>
    obtain ⟨front, q, last, split⟩ := ih (stepSound sound b)
    exact ⟨(p.step b).1 ++ front, q, last, fun more => by simp [Pending.read, split]⟩

theorem decodeLast {b : UInt8} (wide : ¬ b < 0x80) (bytes : Bytes) :
    ∃ text c, decode (bytes ++ [b]) = text ++ [c] ∧ 0x80 ≤ c.toNat := by
  obtain ⟨front, q, sound, split⟩ := readFront readySound bytes
  have some : q.read [b] ≠ [] := readNonempty (.inr (List.cons_ne_nil b []))
  refine ⟨front ++ (q.read [b]).dropLast, (q.read [b]).getLast some, ?_, ?_⟩
  · rw [decodeRead, split, List.append_assoc, List.dropLast_append_getLast]
  · refine Nat.le_of_not_lt (fun ascii => wide ?_)
    have member := readBeyond sound (List.getLast_mem some) ascii
    rw [← List.mem_singleton.mp member, UInt8.lt_iff_toNat_lt, byteNumber (by omega)]
    exact ascii

theorem decodeSplit {b : UInt8} (ascii : b < 0x80) (bytes : Bytes) :
    (Pieces.split b bytes).map decode = Pieces.split (Char.ofNat b.toNat) (decode bytes) := by
  induction bytes using Pieces.cutInduction b with
  | nil => rfl
  | last bytes some absent =>
    have clear := mt (decodeMember ascii).mp absent
    rw [Pieces.splitOpen _ absent, Pieces.splitOpen _ clear]
    rfl
  | cut front after absent ih =>
    have clear := mt (decodeMember ascii).mp absent
    rw [decodeAscii ascii, Pieces.splitCut _ absent, Pieces.splitCut _ clear, List.map_cons, ih]

structure Agree (p : UInt8 → Bool) (q : Char → Bool) : Prop where
  ascii : ∀ b < 0x80, p b = q (Char.ofNat b.toNat)
  bytes : ∀ b, p b = true → b < 0x80
  characters : ∀ c, q c = true → c.toNat < 0x80

variable {p : UInt8 → Bool} {q : Char → Bool}

theorem decodeDropFront (agree : Agree p q) (bytes : Bytes) :
    decode (bytes.dropWhile p) = (decode bytes).dropWhile q := by
  induction bytes with
  | nil => rfl
  | cons b bytes ih =>
    by_cases ascii : b < 0x80
    · have first : decode (b :: bytes) = Char.ofNat b.toNat :: decode bytes :=
        decodeAscii ascii [] bytes
      have same := agree.ascii b ascii
      cases dropped : p b with
      | true =>
        rw [first, List.dropWhile_cons_of_pos dropped,
          List.dropWhile_cons_of_pos (same.symm.trans dropped), ih]
      | false =>
        rw [List.dropWhile_cons_of_neg (by simp [dropped]), first,
          List.dropWhile_cons_of_neg (by simp [← same, dropped])]
    · obtain ⟨c, text, first, beyond⟩ := decodeFirst ascii bytes
      have kept : ¬ p b = true := fun dropped => ascii (agree.bytes b dropped)
      have stays : ¬ q c = true := fun dropped => by have := agree.characters c dropped; omega
      rw [List.dropWhile_cons_of_neg kept, first, List.dropWhile_cons_of_neg stays]

theorem decodeDropBack (agree : Agree p q) (bytes : Bytes) :
    decode (bytes.rdropWhile p) = (decode bytes).rdropWhile q := by
  induction bytes using List.reverseRecOn with
  | nil => rfl
  | append_singleton bytes b ih =>
    by_cases ascii : b < 0x80
    · have last : decode (bytes ++ [b]) = decode bytes ++ [Char.ofNat b.toNat] :=
        decodeAscii ascii bytes []
      have same := agree.ascii b ascii
      cases dropped : p b with
      | true =>
        rw [last, List.rdropWhile_concat_pos _ _ _ dropped,
          List.rdropWhile_concat_pos _ _ _ (same.symm.trans dropped), ih]
      | false =>
        rw [List.rdropWhile_concat_neg _ _ _ (by simp [dropped]), last,
          List.rdropWhile_concat_neg _ _ _ (by simp [← same, dropped])]
    · obtain ⟨text, c, last, beyond⟩ := decodeLast ascii bytes
      have kept : ¬ p b = true := fun dropped => ascii (agree.bytes b dropped)
      have stays : ¬ q c = true := fun dropped => by have := agree.characters c dropped; omega
      rw [List.rdropWhile_concat_neg _ _ _ kept, last, List.rdropWhile_concat_neg _ _ _ stays]

theorem decodeTrim (agree : Agree p q) (bytes : Bytes) :
    decode (Pieces.trim p bytes) = Pieces.trim q (decode bytes) := by
  have back := decodeDropBack agree (bytes.dropWhile p)
  rwa [decodeDropFront agree] at back

end Utf8

namespace Line

def blankBytes : Bytes := Source.newline :: paddingBytes

def parts (line : Bytes) : List Bytes :=
  Pieces.split 0x20 (Pieces.trim (fun b => blankBytes.contains b) line)

theorem blankDecoded : ∀ n : Fin 256,
    blankBytes.contains (.ofNat n.val) = isPadding (Char.ofNat n.val) := by
  decide +kernel

theorem blankAgrees : Utf8.Agree (fun b => blankBytes.contains b) isPadding where
  ascii := by
    intro b ascii
    have same := blankDecoded ⟨b.toNat, b.toNat_lt⟩
    rwa [UInt8.ofNat_toNat] at same
  bytes := by
    intro b blank
    rcases List.mem_cons.mp (List.contains_iff_mem.mp blank) with rfl | padding
    · decide
    · exact paddingAscii b padding
  characters := fun _ padding => paddingNarrow padding

theorem partsDecoded (line : Bytes) :
    (parts line).map Utf8.decode = tokens (strip (Utf8.decode line)) := by
  rw [parts, Utf8.decodeSplit (by decide), Utf8.decodeTrim blankAgrees]
  rfl

end Line

namespace Options

def keptParts (options : Options) (parts : List Bytes) : List Bytes :=
  match options.strictness with
  | .preserve => parts
  | .strict => parts.filter (fun part => !part.isEmpty)

variable (options : Options)

theorem keptDecoded (parts : List Bytes) :
    (options.keptParts parts).map Utf8.decode = options.kept (parts.map Utf8.decode) := by
  unfold keptParts kept
  cases options.strictness with
  | preserve => rfl
  | strict =>
    have same : ∀ part : Bytes, (Utf8.decode part).isEmpty = part.isEmpty := by
      intro part
      cases part with
      | nil => rfl
      | cons b part => simp [Utf8.decodeNonempty (List.cons_ne_nil b part)]
    simp only [List.filter_map, Function.comp_def, same]

theorem partsFormat (line : Bytes) :
    let parts := options.keptParts (Line.parts line)
    options.formatLine (Utf8.decode line) =
        (if Line.colon ∈ line ∨ parts = [] then none
          else some ⟨parts.map (fun part => options.marker ++ Utf8.decode part)⟩) ∧
      (options.strictness = .preserve → parts ≠ []) ∧
      ∀ b < 0x80, (Pieces.split b line).map Utf8.decode =
        Pieces.split (Char.ofNat b.toNat) (Utf8.decode line) := by
  intro parts
  have row : options.kept (Line.tokens (Line.strip (Utf8.decode line))) = parts.map Utf8.decode := by
    rw [← Line.partsDecoded, ← keptDecoded]
  refine ⟨?_, ?_, fun b ascii => Utf8.decodeSplit ascii line⟩
  · by_cases annotated : Line.colon ∈ line
    · rw [if_pos (.inl annotated)]
      exact options.recordAnnotated annotated
    · have plain : Line.isAnnotated (Utf8.decode line) = false := by
        rw [Line.annotatedColon]
        simpa using annotated
      have record : Record.ofTokens options.marker (parts.map Utf8.decode) =
          ⟨parts.map (fun part => options.marker ++ Utf8.decode part)⟩ :=
        congrArg Record.mk List.map_map
      rw [options.formatPlain plain, row, record, Option.filter_some]
      by_cases empty : parts = []
      · simp [empty, Record.isEmpty]
      · simp [empty, Record.isEmpty, annotated]
  · intro preserving nothing
    have all : parts = Line.parts line := by
      simp [parts, keptParts, preserving]
    exact Pieces.splitNonempty _ _ (all.symm.trans nothing)

theorem partsFormatBroken :
    let line : Bytes := [0x09, 0xE2, 0x82, 0x20, 0xC0, 0xBA, 0x20, 0x20, 0xF0, 0x9F, 0x98, 0x0D, 0x0A]
    let broken := Utf8.replacement
    Options.default.strictness = .preserve ∧
      Options.default.keptParts (Line.parts line) ≠ [] ∧
      Options.default.formatLine (Utf8.decode line) =
        some ⟨[['0', 'x', broken], ['0', 'x', broken, broken], ['0', 'x'], ['0', 'x', broken]]⟩ ∧
      (0x20 : UInt8) < 0x80 ∧
      (Pieces.split 0x20 line).map Utf8.decode = Pieces.split ' ' (Utf8.decode line) := by
  intro line broken
  obtain ⟨formatted, some, cut⟩ := partsFormat Options.default line
  exact ⟨rfl, some rfl, formatted.trans (by decide +kernel), by decide, cut 0x20 (by decide)⟩

end Options
end HexDump
