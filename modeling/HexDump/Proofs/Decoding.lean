import HexDump.Utf8

/-! The decoder read as a machine on lists. A sequence that is open never contains
an ASCII byte, so decoding starts afresh at each of them, and whatever a longer
sequence completes to lies beyond ASCII. Encoded text is read back as it was. -/
namespace HexDump.Utf8

def Pending.closing : Pending → Text
  | .ready => []
  | .owed .. => [replacement]

def opens (b : UInt8) : Text × Pending :=
  if b < 0x80 then ([Char.ofNat b.toNat], .ready)
  else match lead b with
    | some pending => ([], pending)
    | none => ([replacement], .ready)

def Pending.step : Pending → UInt8 → Text × Pending
  | .ready, b => opens b
  | .owed further low high bits, b =>
    if low ≤ b ∧ b ≤ high then
      match further with
      | 0 => ([Char.ofNat (bits * 64 + (b.toNat - 0x80))], .ready)
      | further + 1 => ([], .owed further 0x80 0xBF (bits * 64 + (b.toNat - 0x80)))
    else (replacement :: (opens b).1, (opens b).2)

def Pending.read : Pending → Bytes → Text
  | p, [] => p.closing
  | p, b :: bytes => (p.step b).1 ++ (p.step b).2.read bytes

theorem stepOutside {further : Nat} {low high b : UInt8} {bits : Nat}
    (outside : ¬ (low ≤ b ∧ b ≤ high)) :
    (Pending.owed further low high bits).step b = (replacement :: (opens b).1, (opens b).2) :=
  if_neg outside

theorem stepLast {low high b : UInt8} {bits : Nat} (inside : low ≤ b ∧ b ≤ high) :
    (Pending.owed 0 low high bits).step b =
      ([Char.ofNat (bits * 64 + (b.toNat - 0x80))], .ready) :=
  if_pos inside

theorem stepOn {further : Nat} {low high b : UInt8} {bits : Nat} (inside : low ≤ b ∧ b ≤ high) :
    (Pending.owed (further + 1) low high bits).step b =
      ([], .owed further 0x80 0xBF (bits * 64 + (b.toNat - 0x80))) :=
  if_pos inside

theorem beginOpens (output : Array Char) (b : UInt8) :
    Decoder.begin output b = ⟨output ++ (opens b).1.toArray, (opens b).2⟩ := by
  unfold Decoder.begin opens
  split
  · simp
  · cases lead b <;> simp

theorem feedStep (output : Array Char) (p : Pending) (b : UInt8) :
    (Decoder.mk output p).feed b = ⟨output ++ (p.step b).1.toArray, (p.step b).2⟩ := by
  cases p with
  | ready => exact beginOpens output b
  | owed further low high bits =>
    simp only [Decoder.feed, Pending.step]
    split
    · cases further <;> simp
    · rw [beginOpens]
      simp

theorem foldRead (output : Array Char) (p : Pending) (bytes : Bytes) :
    (bytes.foldl Decoder.feed ⟨output, p⟩).finish = output.toList ++ p.read bytes := by
  induction bytes generalizing output p with
  | nil => cases p <;> simp [Decoder.finish, Pending.read, Pending.closing]
  | cons b bytes ih =>
    rw [List.foldl_cons, feedStep, ih]
    simp [Pending.read]

theorem decodeRead (bytes : Bytes) : decode bytes = Pending.ready.read bytes :=
  foldRead #[] .ready bytes

def Completes : Nat → UInt8 → UInt8 → Nat → Prop
  | 0, low, high, bits => 0x80 ≤ low ∧ ∀ b, low ≤ b → b ≤ high →
      0x80 ≤ bits * 64 + (b.toNat - 0x80) ∧ (bits * 64 + (b.toNat - 0x80)).isValidChar
  | further + 1, low, high, bits => 0x80 ≤ low ∧ ∀ b, low ≤ b → b ≤ high →
      Completes further 0x80 0xBF (bits * 64 + (b.toNat - 0x80))

def Pending.Sound : Pending → Prop
  | .ready => True
  | .owed further low high bits => Completes further low high bits

theorem readySound : Pending.ready.Sound := trivial

theorem scalarNumber {n : Nat} (valid : n.isValidChar) : (Char.ofNat n).toNat = n := by
  unfold Char.ofNat
  rw [dif_pos valid]
  rfl

theorem leadTwo {b : UInt8} (least : 0xC2 ≤ b.toNat) (most : b.toNat < 0xE0) :
    lead b = some (.owed 0 0x80 0xBF (b.toNat - 0xC0)) := by
  simp only [lead, UInt8.lt_iff_toNat_lt, UInt8.reduceToNat]
  rw [if_neg (by omega), if_pos most]

theorem leadThree {b : UInt8} (least : 0xE0 ≤ b.toNat) (most : b.toNat < 0xF0) :
    lead b = some (.owed 1 (if b.toNat = 0xE0 then 0xA0 else 0x80)
      (if b.toNat = 0xED then 0x9F else 0xBF) (b.toNat - 0xE0)) := by
  simp only [lead, UInt8.lt_iff_toNat_lt, ← UInt8.toNat_inj, UInt8.reduceToNat]
  rw [if_neg (by omega), if_neg (by omega)]
  by_cases first : b.toNat = 0xE0
  · simp [first]
  · by_cases surrogate : b.toNat = 0xED
    · simp [surrogate]
    · simp [first, surrogate, most]

theorem leadFour {b : UInt8} (least : 0xF0 ≤ b.toNat) (most : b.toNat < 0xF5) :
    lead b = some (.owed 2 (if b.toNat = 0xF0 then 0x90 else 0x80)
      (if b.toNat = 0xF4 then 0x8F else 0xBF) (b.toNat - 0xF0)) := by
  simp only [lead, UInt8.lt_iff_toNat_lt, ← UInt8.toNat_inj, UInt8.reduceToNat]
  rw [if_neg (by omega), if_neg (by omega), if_neg (by omega), if_neg (by omega),
    if_neg (by omega)]
  by_cases first : b.toNat = 0xF0
  · simp [first]
  · by_cases last : b.toNat = 0xF4
    · simp [last]
    · have inner : b.toNat < 0xF4 := by omega
      simp [first, last, inner]

theorem leadNone {b : UInt8} (other : b.toNat < 0xC2 ∨ 0xF5 ≤ b.toNat) : lead b = none := by
  simp only [lead, UInt8.lt_iff_toNat_lt, ← UInt8.toNat_inj, UInt8.reduceToNat]
  rcases other with low | high
  · rw [if_pos low]
  · rw [if_neg (by omega), if_neg (by omega), if_neg (by omega), if_neg (by omega),
      if_neg (by omega), if_neg (by omega), if_neg (by omega), if_neg (by omega)]

theorem leadSound {b : UInt8} {p : Pending} (leads : lead b = some p) : p.Sound := by
  by_cases low : b.toNat < 0xC2
  · rw [leadNone (.inl low)] at leads
    contradiction
  by_cases two : b.toNat < 0xE0
  · rw [leadTwo (by omega) two] at leads
    cases leads
    refine ⟨by decide, ?_⟩
    intro c least most
    simp only [UInt8.le_iff_toNat_le, UInt8.reduceToNat, Nat.isValidChar] at least most ⊢
    omega
  by_cases three : b.toNat < 0xF0
  · rw [leadThree (by omega) three] at leads
    cases leads
    refine ⟨by split <;> decide, ?_⟩
    intro c least most
    refine ⟨by decide, ?_⟩
    intro d least' most'
    simp only [UInt8.le_iff_toNat_le, apply_ite UInt8.toNat, UInt8.reduceToNat, Nat.isValidChar]
      at least most least' most' ⊢
    split at least <;> split at most <;> omega
  by_cases four : b.toNat < 0xF5
  · rw [leadFour (by omega) four] at leads
    cases leads
    refine ⟨by split <;> decide, ?_⟩
    intro c least most
    refine ⟨by decide, ?_⟩
    intro d least' most'
    refine ⟨by decide, ?_⟩
    intro e least'' most''
    simp only [UInt8.le_iff_toNat_le, apply_ite UInt8.toNat, UInt8.reduceToNat, Nat.isValidChar]
      at least most least' most' least'' most'' ⊢
    split at least <;> split at most <;> omega
  · rw [leadNone (.inr (by omega))] at leads
    contradiction

theorem opensSound (b : UInt8) : (opens b).2.Sound := by
  unfold opens
  split
  · trivial
  · cases leads : lead b with
    | none => trivial
    | some p => exact leadSound leads

theorem stepSound {p : Pending} (sound : p.Sound) (b : UInt8) : (p.step b).2.Sound := by
  cases p with
  | ready => exact opensSound b
  | owed further low high bits =>
    by_cases inside : low ≤ b ∧ b ≤ high
    · cases further with
      | zero =>
        rw [stepLast inside]
        exact readySound
      | succ further =>
        rw [stepOn inside]
        exact sound.2 b inside.1 inside.2
    · rw [stepOutside inside]
      exact opensSound b

theorem opensAscii {b : UInt8} (ascii : b < 0x80) : opens b = ([Char.ofNat b.toNat], .ready) :=
  if_pos ascii

theorem stepAscii {p : Pending} (sound : p.Sound) {b : UInt8} (ascii : b < 0x80) :
    p.step b = (p.closing ++ [Char.ofNat b.toNat], .ready) := by
  cases p with
  | ready => exact opensAscii ascii
  | owed further low high bits =>
    have least : 0x80 ≤ low := by cases further <;> exact sound.1
    have outside : ¬ (low ≤ b ∧ b ≤ high) := by
      rintro ⟨inside, _⟩
      exact absurd (UInt8.lt_of_lt_of_le ascii (UInt8.le_trans least inside)) (UInt8.lt_irrefl b)
    rw [stepOutside outside, opensAscii ascii]
    rfl

theorem readAscii {p : Pending} (sound : p.Sound) {b : UInt8} (ascii : b < 0x80)
    (before after : Bytes) :
    p.read (before ++ b :: after) =
      p.read before ++ Char.ofNat b.toNat :: Pending.ready.read after := by
  induction before generalizing p with
  | nil => simp [Pending.read, stepAscii sound ascii]
  | cons c before ih =>
    simp only [List.cons_append, Pending.read, ih (stepSound sound c), List.append_assoc]

theorem decodeAscii {b : UInt8} (ascii : b < 0x80) (before after : Bytes) :
    decode (before ++ b :: after) = decode before ++ Char.ofNat b.toNat :: decode after := by
  simp only [decodeRead]
  exact readAscii readySound ascii before after

theorem opensBeyond {b : UInt8} {c : Char} (member : c ∈ (opens b).1) :
    (b < 0x80 ∧ c = Char.ofNat b.toNat) ∨ 0x80 ≤ c.toNat := by
  unfold opens at member
  split at member
  · rename_i ascii
    exact .inl ⟨ascii, by simpa using member⟩
  · refine .inr ?_
    cases leads : lead b with
    | none =>
      have same : c = replacement := by simpa [leads] using member
      rw [same]
      decide
    | some p => simp [leads] at member

theorem stepBeyond {p : Pending} (sound : p.Sound) {b : UInt8} {c : Char}
    (member : c ∈ (p.step b).1) : (b < 0x80 ∧ c = Char.ofNat b.toNat) ∨ 0x80 ≤ c.toNat := by
  cases p with
  | ready => exact opensBeyond member
  | owed further low high bits =>
    by_cases inside : low ≤ b ∧ b ≤ high
    · cases further with
      | zero =>
        have scalar := sound.2 b inside.1 inside.2
        rw [stepLast inside] at member
        rw [List.mem_singleton.mp member, scalarNumber scalar.2]
        exact .inr scalar.1
      | succ further =>
        rw [stepOn inside] at member
        exact absurd member List.not_mem_nil
    · rw [stepOutside inside] at member
      rcases List.mem_cons.mp member with same | opened
      · rw [same]
        exact .inr (by decide)
      · exact opensBeyond opened

theorem readBeyond {p : Pending} (sound : p.Sound) {bytes : Bytes} {c : Char}
    (member : c ∈ p.read bytes) (ascii : c.toNat < 0x80) : UInt8.ofNat c.toNat ∈ bytes := by
  induction bytes generalizing p with
  | nil =>
    cases p with
    | ready => simp [Pending.read, Pending.closing] at member
    | owed further low high bits =>
      have same : c = replacement := by simpa [Pending.read, Pending.closing] using member
      rw [same] at ascii
      exact absurd ascii (by decide)
  | cons b bytes ih =>
    rcases List.mem_append.mp member with now | later
    · rcases stepBeyond sound now with ⟨small, same⟩ | beyond
      · have valid : b.toNat.isValidChar := by
          have below := UInt8.lt_iff_toNat_lt.mp small
          simp only [UInt8.reduceToNat, Nat.isValidChar] at below ⊢
          omega
        rw [same, scalarNumber valid, UInt8.ofNat_toNat]
        exact List.mem_cons_self
      · omega
    · exact List.mem_cons_of_mem _ (ih (stepSound sound b) later)

theorem decodeBeyond {bytes : Bytes} {c : Char} (member : c ∈ decode bytes)
    (ascii : c.toNat < 0x80) : UInt8.ofNat c.toNat ∈ bytes := by
  rw [decodeRead] at member
  exact readBeyond readySound member ascii

theorem decodeMember {b : UInt8} (ascii : b < 0x80) {bytes : Bytes} :
    Char.ofNat b.toNat ∈ decode bytes ↔ b ∈ bytes := by
  constructor
  · intro member
    have below := UInt8.lt_iff_toNat_lt.mp ascii
    simp only [UInt8.reduceToNat] at below
    have number : (Char.ofNat b.toNat).toNat = b.toNat :=
      scalarNumber (by unfold Nat.isValidChar; omega)
    have inside := decodeBeyond member (by omega)
    rwa [number, UInt8.ofNat_toNat] at inside
  · intro member
    obtain ⟨front, after, rfl⟩ := List.append_of_mem member
    rw [decodeAscii ascii]
    exact List.mem_append_right _ List.mem_cons_self

theorem opensSilent {b : UInt8} (silent : (opens b).1 = []) : (opens b).2 ≠ .ready := by
  unfold opens at silent ⊢
  split at silent
  · simp at silent
  · rename_i ascii
    rw [if_neg ascii]
    cases leads : lead b with
    | none => simp [leads] at silent
    | some p =>
      intro ready
      have same : p = .ready := by simpa [leads] using ready
      subst same
      unfold lead at leads
      repeat' split at leads
      all_goals cases leads

theorem stepSilent {p : Pending} {b : UInt8} (silent : (p.step b).1 = []) :
    (p.step b).2 ≠ .ready := by
  cases p with
  | ready => exact opensSilent silent
  | owed further low high bits =>
    by_cases inside : low ≤ b ∧ b ≤ high
    · cases further with
      | zero => simp [stepLast inside] at silent
      | succ further => simp [stepOn inside]
    · simp [stepOutside inside] at silent

theorem readNonempty {p : Pending} {bytes : Bytes} (more : p ≠ .ready ∨ bytes ≠ []) :
    p.read bytes ≠ [] := by
  induction bytes generalizing p with
  | nil =>
    cases p with
    | ready => simp at more
    | owed further low high bits => simp [Pending.read, Pending.closing]
  | cons b bytes ih =>
    intro empty
    obtain ⟨silent, later⟩ := List.append_eq_nil_iff.mp empty
    exact ih (.inl (stepSilent silent)) later

theorem decodeNonempty {bytes : Bytes} (some : bytes ≠ []) : decode bytes ≠ [] := by
  rw [decodeRead]
  exact readNonempty (.inr some)

theorem byteNumber {n : Nat} (small : n < 256) : (UInt8.ofNat n).toNat = n := by
  simpa using small

theorem opensLead {b : UInt8} {p : Pending} (leads : lead b = some p) :
    opens b = ([], p) := by
  have wide : ¬ b < 0x80 := by
    intro ascii
    have below := UInt8.lt_iff_toNat_lt.mp ascii
    rw [leadNone (.inl (by simp only [UInt8.reduceToNat] at below; omega))] at leads
    contradiction
  simp [opens, wide, leads]

theorem readLead {b : UInt8} {p : Pending} (leads : lead b = some p) (bytes : Bytes) :
    Pending.ready.read (b :: bytes) = p.read bytes := by
  simp [Pending.read, Pending.step, opensLead leads]

theorem readOn {further : Nat} {low high b : UInt8} (bits : Nat) (least : low.toNat ≤ b.toNat)
    (most : b.toNat ≤ high.toNat) (bytes : Bytes) :
    (Pending.owed (further + 1) low high bits).read (b :: bytes) =
      (Pending.owed further 0x80 0xBF (bits * 64 + (b.toNat - 0x80))).read bytes := by
  have inside : low ≤ b ∧ b ≤ high := ⟨UInt8.le_iff_toNat_le.mpr least, UInt8.le_iff_toNat_le.mpr most⟩
  simp [Pending.read, stepOn inside]

theorem readLast {low high b : UInt8} (bits : Nat) (least : low.toNat ≤ b.toNat)
    (most : b.toNat ≤ high.toNat) (bytes : Bytes) :
    (Pending.owed 0 low high bits).read (b :: bytes) =
      Char.ofNat (bits * 64 + (b.toNat - 0x80)) :: Pending.ready.read bytes := by
  have inside : low ≤ b ∧ b ≤ high := ⟨UInt8.le_iff_toNat_le.mpr least, UInt8.le_iff_toNat_le.mpr most⟩
  simp [Pending.read, stepLast inside]

theorem readTwo {a b : UInt8} {v : Nat} (first : a.toNat = v / 64 + 0xC0)
    (second : b.toNat = v % 64 + 0x80) (least : 0x80 ≤ v) (most : v ≤ 0x7FF) (rest : Bytes) :
    Pending.ready.read (a :: b :: rest) = Char.ofNat v :: Pending.ready.read rest := by
  have value : (a.toNat - 0xC0) * 64 + (b.toNat - 0x80) = v := by omega
  rw [readLead (leadTwo (by omega) (by omega)),
    readLast _ (by simp only [UInt8.reduceToNat]; omega) (by simp only [UInt8.reduceToNat]; omega),
    value]

theorem readThree {a b c : UInt8} {v : Nat} (first : a.toNat = v / 4096 + 0xE0)
    (second : b.toNat = v / 64 % 64 + 0x80) (third : c.toNat = v % 64 + 0x80)
    (least : 0x800 ≤ v) (most : v ≤ 0xFFFF) (scalar : v < 0xD800 ∨ 0xDFFF < v) (rest : Bytes) :
    Pending.ready.read (a :: b :: c :: rest) = Char.ofNat v :: Pending.ready.read rest := by
  have value : ((a.toNat - 0xE0) * 64 + (b.toNat - 0x80)) * 64 + (c.toNat - 0x80) = v := by omega
  have inside : (if a.toNat = 0xE0 then 0xA0 else 0x80 : UInt8).toNat ≤ b.toNat ∧
      b.toNat ≤ (if a.toNat = 0xED then 0x9F else 0xBF : UInt8).toNat := by
    simp only [apply_ite UInt8.toNat, UInt8.reduceToNat]
    constructor <;> split <;> omega
  rw [readLead (leadThree (by omega) (by omega)), readOn _ inside.1 inside.2,
    readLast _ (by simp only [UInt8.reduceToNat]; omega) (by simp only [UInt8.reduceToNat]; omega),
    value]

theorem readFour {a b c d : UInt8} {v : Nat} (first : a.toNat = v / 262144 + 0xF0)
    (second : b.toNat = v / 4096 % 64 + 0x80) (third : c.toNat = v / 64 % 64 + 0x80)
    (fourth : d.toNat = v % 64 + 0x80) (least : 0x10000 ≤ v) (most : v < 0x110000)
    (rest : Bytes) :
    Pending.ready.read (a :: b :: c :: d :: rest) = Char.ofNat v :: Pending.ready.read rest := by
  have value : (((a.toNat - 0xF0) * 64 + (b.toNat - 0x80)) * 64 + (c.toNat - 0x80)) * 64 +
      (d.toNat - 0x80) = v := by omega
  have inside : (if a.toNat = 0xF0 then 0x90 else 0x80 : UInt8).toNat ≤ b.toNat ∧
      b.toNat ≤ (if a.toNat = 0xF4 then 0x8F else 0xBF : UInt8).toNat := by
    simp only [apply_ite UInt8.toNat, UInt8.reduceToNat]
    constructor <;> split <;> omega
  rw [readLead (leadFour (by omega) (by omega)), readOn _ inside.1 inside.2,
    readOn _ (by simp only [UInt8.reduceToNat]; omega) (by simp only [UInt8.reduceToNat]; omega),
    readLast _ (by simp only [UInt8.reduceToNat]; omega) (by simp only [UInt8.reduceToNat]; omega),
    value]

theorem readEncoded (c : Char) (rest : Bytes) :
    Pending.ready.read (String.utf8EncodeChar c ++ rest) = c :: Pending.ready.read rest := by
  obtain ⟨v, number⟩ : ∃ v, v = c.val.toNat := ⟨_, rfl⟩
  have valid : v.isValidChar := number ▸ c.valid
  have same : Char.ofNat v = c := by rw [number]; exact c.ofNat_toNat
  have beyond : v < 0x110000 := by
    unfold Nat.isValidChar at valid
    omega
  have scalar : v < 0xD800 ∨ 0xDFFF < v := by
    unfold Nat.isValidChar at valid
    omega
  unfold String.utf8EncodeChar
  rw [← number, ← same]
  dsimp only
  split
  · rename_i one
    have byte := byteNumber (show v < 256 by omega)
    have ascii : UInt8.ofNat v < 0x80 := by
      rw [UInt8.lt_iff_toNat_lt, byte]
      exact Nat.lt_succ_of_le one
    have read := readAscii readySound ascii [] rest
    rwa [byte] at read
  · split
    · exact readTwo (by rw [byteNumber] <;> omega) (by rw [byteNumber]; omega) (by omega)
        (by omega) rest
    · split
      · exact readThree (by rw [byteNumber] <;> omega) (by rw [byteNumber]; omega)
          (by rw [byteNumber]; omega) (by omega) (by omega) scalar rest
      · exact readFour (by rw [byteNumber] <;> omega) (by rw [byteNumber]; omega)
          (by rw [byteNumber]; omega) (by rw [byteNumber]; omega) (by omega) beyond rest

theorem decodeEncode (text : Text) : decode (encode text) = text := by
  rw [decodeRead]
  induction text with
  | nil => rfl
  | cons c text ih =>
    rw [encode, List.flatMap_cons, readEncoded]
    exact congrArg (c :: ·) ih

theorem decodeWellFormed (text : Text) : decode? (encode text) = some text := by
  simp [decode?, decodeEncode]

end HexDump.Utf8
