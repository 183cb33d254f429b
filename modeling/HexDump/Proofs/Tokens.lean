import HexDump.Options
import Mathlib.Data.Set.Function

/-! The tokens of a line and the line again. Cutting at single spaces and joining with them
undo each other, for every text and for every row of tokens that could have been cut. So a
preserved record is its line in other words: one text in place of each space, and a frame. -/
namespace HexDump

namespace Pieces

variable {α : Type} {separator : α} {l : List α} {pieces : List (List α)}

inductive Between (separator : α) : List α → List (List α) → Prop where
  | last {piece : List α} (absent : separator ∉ piece) : Between separator piece [piece]
  | next {front after : List α} {pieces : List (List α)} (absent : separator ∉ front)
      (rest : Between separator after pieces) :
      Between separator (front ++ separator :: after) (front :: pieces)

theorem betweenJoin : Between separator l pieces ↔
    pieces ≠ [] ∧ (∀ piece ∈ pieces, separator ∉ piece) ∧ [separator].intercalate pieces = l := by
  constructor
  · intro between
    induction between with
    | last absent => exact ⟨List.cons_ne_nil _ _, by simpa using absent, List.intercalate_singleton⟩
    | @next front after pieces absent rest ih =>
      obtain ⟨some, others, rfl⟩ := ih
      obtain ⟨piece, pieces, rfl⟩ := List.exists_cons_of_ne_nil some
      refine ⟨List.cons_ne_nil _ _, List.forall_mem_cons.mpr ⟨absent, others⟩, ?_⟩
      rw [List.intercalate_cons_cons, List.append_assoc, List.singleton_append]
  · rintro ⟨some, absent, rfl⟩
    induction pieces with
    | nil => contradiction
    | cons first pieces ih =>
      obtain ⟨fresh, others⟩ := List.forall_mem_cons.mp absent
      cases pieces with
      | nil =>
        rw [List.intercalate_singleton]
        exact .last fresh
      | cons second pieces =>
        rw [List.intercalate_cons_cons, List.append_assoc, List.singleton_append]
        exact .next fresh (ih (List.cons_ne_nil _ _) others)

variable [DecidableEq α]

theorem betweenSplit : Between separator l pieces ↔ pieces = split separator l := by
  constructor
  · intro between
    induction between with
    | last absent => exact (splitOpen separator absent).symm
    | next absent rest ih => rw [splitCut separator absent, ih]
  · rintro rfl
    induction l using cutInduction separator with
    | nil => exact .last List.not_mem_nil
    | last l some absent =>
      rw [splitOpen separator absent]
      exact .last absent
    | cut front after absent ih =>
      rw [splitCut separator absent]
      exact .next absent ih

def substitute (separator : α) (other l : List α) : List α :=
  l.flatMap (fun a => if a = separator then other else [a])

theorem substituteOpen (absent : separator ∉ l) (other : List α) :
    substitute separator other l = l := by
  induction l with
  | nil => rfl
  | cons a rest ih =>
    obtain ⟨fresh, absent⟩ := not_or.mp (mt List.mem_cons.mpr absent)
    rw [substitute, List.flatMap_cons, if_neg (Ne.symm fresh), ← substitute, ih absent]
    rfl

/- Marking all pieces and joining them puts joint and mark where a separator was. The first
piece has a mark and no joint in front of it. -/
theorem joinMarked (separator : α) (joint mark l : List α) :
    joint.intercalate ((split separator l).map (mark ++ ·)) =
      mark ++ substitute separator (joint ++ mark) l := by
  induction l using cutInduction separator with
  | nil => simp [substitute]
  | last l some absent => simp [splitOpen separator absent, substituteOpen absent]
  | cut front after absent ih =>
    obtain ⟨piece, more, pieces⟩ := List.exists_cons_of_ne_nil (splitNonempty separator after)
    have cut : substitute separator (joint ++ mark) (front ++ separator :: after) =
        front ++ (joint ++ mark) ++ substitute separator (joint ++ mark) after := by
      have first := substituteOpen absent (joint ++ mark)
      unfold substitute at first ⊢
      rw [List.flatMap_append, first, List.flatMap_cons, if_pos rfl, ← List.append_assoc]
    rw [splitCut separator absent, List.map_cons, cut]
    rw [pieces, List.map_cons] at ih ⊢
    rw [List.intercalate_cons_cons, ih]
    simp only [List.append_assoc]

end Pieces

namespace Line

structure Cuttable (row : List Text) : Prop where
  nonempty : row ≠ []
  spaceless : ∀ token ∈ row, ' ' ∉ token

theorem tokensCuttable (text : Text) : Cuttable (tokens text) :=
  ⟨Pieces.splitNonempty ' ' text, fun _ member => Pieces.splitAbsent ' ' member⟩

theorem joinTokens {row : List Text} (cuttable : Cuttable row) :
    tokens ([' '].intercalate row) = row := by
  have between : Pieces.Between ' ' ([' '].intercalate row) row :=
    Pieces.betweenJoin.mpr ⟨cuttable.nonempty, cuttable.spaceless, rfl⟩
  exact (Pieces.betweenSplit.mp between).symm

theorem tokensInvertible :
    (∀ text row, Pieces.Between ' ' text row ↔ row = tokens text) ∧
      (∀ text, [' '].intercalate (tokens text) = text ∧ Cuttable (tokens text)) ∧
      (∀ row, Cuttable row → tokens ([' '].intercalate row) = row) ∧
      Set.BijOn tokens Set.univ {row | Cuttable row} := by
  refine ⟨fun text row => Pieces.betweenSplit, fun text => ⟨tokensJoin text, tokensCuttable text⟩,
    fun row cuttable => joinTokens cuttable, ?_⟩
  have inverse : Set.InvOn ([' '].intercalate ·) tokens Set.univ {row | Cuttable row} :=
    ⟨fun text _ => tokensJoin text, fun row cuttable => joinTokens cuttable⟩
  exact inverse.bijOn (fun text _ => tokensCuttable text) (fun row _ => Set.mem_univ _)

theorem tokensInvertibleEmpty :
    let row : List Text := [[], ['A', ':'], [], [], ['\t'], []]
    Cuttable row ∧ [' '].intercalate row = " A:   \t ".toList ∧ tokens " A:   \t ".toList = row := by
  intro row
  have cuttable : Cuttable row := ⟨by decide, by decide⟩
  exact ⟨cuttable, by decide, tokensInvertible.2.2.1 row cuttable⟩

end Line

namespace Utf8

theorem encodeCons (c : Char) (text : Text) :
    encode (c :: text) = String.utf8EncodeChar c ++ encode text := rfl

theorem substituteLength (other text : Text) :
    (encode (Pieces.substitute ' ' other text)).length + text.count ' ' =
      (encode text).length + text.count ' ' * (encode other).length := by
  induction text with
  | nil => simp [Pieces.substitute]
  | cons c text ih =>
    rw [Pieces.substitute, List.flatMap_cons, ← Pieces.substitute, encodeAppend, encodeCons,
      List.length_append, List.length_append]
    by_cases space : c = ' '
    · have one : (String.utf8EncodeChar ' ').length = 1 := by decide
      rw [if_pos space, space, List.count_cons_self, Nat.add_mul, one]
      omega
    · rw [if_neg space, List.count_cons_of_ne space, encodeCons, encodeNil, List.append_nil]
      omega

end Utf8

namespace Record

theorem tokensText (marker line : Text) :
    (ofTokens marker (Line.tokens line)).text =
      opening ++ (marker ++ Pieces.substitute ' ' (comma ++ marker) line) ++ closing :=
  congrArg (opening ++ · ++ closing) (Pieces.joinMarked ' ' comma marker line)

theorem tokensSize (marker line : Text) :
    (ofTokens marker (Line.tokens line)).size = line.count ' ' + 1 := by
  rw [sizeOfTokens, Line.tokens, Pieces.splitLength]

theorem tokensLength (marker line : Text) :
    (Utf8.encode (ofTokens marker (Line.tokens line)).text).length =
      (Utf8.encode line).length +
        (line.count ' ' + 1) * (Utf8.encode marker).length + line.count ' ' + 5 := by
  have substituted := Utf8.substituteLength (comma ++ marker) line
  have two : (Utf8.encode comma).length = 2 := by decide
  have frame : (Utf8.encode opening).length = 2 ∧ (Utf8.encode closing).length = 3 := by decide
  rw [Utf8.encodeAppend, List.length_append, two, Nat.mul_add] at substituted
  rw [tokensText, Utf8.encodeAppend, Utf8.encodeAppend, Utf8.encodeAppend, List.length_append,
    List.length_append, List.length_append, frame.1, frame.2, Nat.add_mul]
  omega

end Record

namespace Options

theorem preserveSubstitutes (marker : Text) {line : Text} (plain : ':' ∉ line) :
    ∃ record, formatLine ⟨.preserve, marker⟩ line = some record ∧
      record.text = ['{', ' '] ++ marker ++
        (Line.strip line).flatMap (fun c => if c = ' ' then [',', ' '] ++ marker else [c]) ++
        [' ', '}', ';'] ∧
      record.size = (Line.strip line).count ' ' + 1 ∧
      (Utf8.encode record.text).length = (Utf8.encode (Line.strip line)).length +
        record.size * (Utf8.encode marker).length + (record.size - 1) + 5 := by
  have unannotated := (Line.unannotatedIff line).mpr plain
  have text := Record.tokensText marker (Line.strip line)
  have size := Record.tokensSize marker (Line.strip line)
  rw [← List.append_assoc] at text
  refine ⟨_, preserveKeeps marker unannotated, text, size, ?_⟩
  rw [size, Nat.add_sub_cancel]
  exact Record.tokensLength marker (Line.strip line)

theorem preserveSubstitutesSeparators :
    let line : Text := "\t,  é, \r\n".toList
    ':' ∉ line ∧ ∃ record, formatLine ⟨.preserve, ", ".toList⟩ line = some record ∧
      record.text = "\x7b , ,, , , , é, \x7d;".toList ∧ record.size = 3 ∧
      (Utf8.encode record.text).length = 19 := by
  intro line
  have plain : ':' ∉ line := by decide
  have core : Line.strip line = ",  é,".toList := by decide
  obtain ⟨record, formatted, text, size, length⟩ := preserveSubstitutes ", ".toList plain
  rw [core] at text size length
  rw [size] at length
  exact ⟨plain, record, formatted, text, size, length⟩

end Options
end HexDump
