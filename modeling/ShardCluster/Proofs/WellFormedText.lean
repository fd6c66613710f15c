import ShardCluster.Proofs.CrashReports

/-!
# Well-formed text

The strict reader of UTF-8 is the inverse of the writer: `Utf8.strict_eq_some_iff` says that it
gives a text for the octets of that text and for no others. A character of several octets is
followed from its first one through the octets that complete it (`Utf8.Completes`).
-/

namespace ShardCluster.Utf8

/-! ### The octets of a character -/

/-- the octets of the character with a given value -/
def octets (value : Nat) : Bytes :=
  if value < 0x80 then [UInt8.ofNat value]
  else if value < 0x800 then [UInt8.ofNat (0xC0 + value / 64), UInt8.ofNat (0x80 + value % 64)]
  else if value < 0x10000 then
    [UInt8.ofNat (0xE0 + value / 4096), UInt8.ofNat (0x80 + value / 64 % 64),
      UInt8.ofNat (0x80 + value % 64)]
  else
    [UInt8.ofNat (0xF0 + value / 262144), UInt8.ofNat (0x80 + value / 4096 % 64),
      UInt8.ofNat (0x80 + value / 64 % 64), UInt8.ofNat (0x80 + value % 64)]

lemma octets_two {value : Nat} (least : 0x80 ≤ value) (greatest : value < 0x800) :
    octets value = [UInt8.ofNat (0xC0 + value / 64), UInt8.ofNat (0x80 + value % 64)] := by
  rw [octets, if_neg (by omega), if_pos greatest]

lemma octets_three {value : Nat} (least : 0x800 ≤ value) (greatest : value < 0x10000) :
    octets value = [UInt8.ofNat (0xE0 + value / 4096), UInt8.ofNat (0x80 + value / 64 % 64),
      UInt8.ofNat (0x80 + value % 64)] := by
  rw [octets, if_neg (by omega), if_neg (by omega), if_pos greatest]

lemma octets_four {value : Nat} (least : 0x10000 ≤ value) :
    octets value = [UInt8.ofNat (0xF0 + value / 262144), UInt8.ofNat (0x80 + value / 4096 % 64),
      UInt8.ofNat (0x80 + value / 64 % 64), UInt8.ofNat (0x80 + value % 64)] := by
  rw [octets, if_neg (by omega), if_neg (by omega), if_neg (by omega)]

/-- the values that characters have: no surrogates, and none above the last plane -/
def IsScalar (value : Nat) : Prop := value < 0xD800 ∨ 0xE000 ≤ value ∧ value < 0x110000

lemma isScalar_toNat (c : Char) : IsScalar c.toNat := by
  have valid : c.toNat.isValidChar := c.valid
  unfold Nat.isValidChar at valid
  unfold IsScalar
  omega

lemma toNat_ofNat {value : Nat} (scalar : IsScalar value) : (Char.ofNat value).toNat = value := by
  have valid : value.isValidChar := by
    unfold IsScalar at scalar
    unfold Nat.isValidChar
    omega
  rw [Char.ofNat, dif_pos valid]
  rfl

lemma encodeChar_eq (c : Char) : String.utf8EncodeChar c = octets c.toNat := by
  have scalar := isScalar_toNat c
  unfold IsScalar at scalar
  rw [String.utf8EncodeChar.eq_1, octets]
  change (if c.toNat ≤ 127 then _ else _) = _
  split_ifs <;> grind [Char.toNat]

/-! ### The octets that complete a character -/

/-- the octets that end a character begun as a part, and the value it has then -/
inductive Completes : Partial → Bytes → Nat → Prop
  | last {value : Nat} {low high b : UInt8} (least : low ≤ b) (greatest : b ≤ high) :
      Completes ⟨value, 0, low, high⟩ [b] (value * 64 + (b.toNat - 0x80))
  | more {value after result : Nat} {low high b : UInt8} {bs : Bytes}
      (least : low ≤ b) (greatest : b ≤ high)
      (others : Completes ⟨value * 64 + (b.toNat - 0x80), after, 0x80, 0xBF⟩ bs result) :
      Completes ⟨value, after + 1, low, high⟩ (b :: bs) result

lemma Completes.next {value after result : Nat} {low high : UInt8} {bs : Bytes}
    (complete : Completes ⟨value, after, low, high⟩ bs result) :
    ∃ b rest, bs = b :: rest ∧ low ≤ b ∧ b ≤ high ∧
      (after = 0 ∧ rest = [] ∧ result = value * 64 + (b.toNat - 0x80) ∨
        ∃ n, after = n + 1 ∧
          Completes ⟨value * 64 + (b.toNat - 0x80), n, 0x80, 0xBF⟩ rest result) := by
  cases complete with
  | last least greatest => exact ⟨_, _, rfl, least, greatest, .inl ⟨rfl, rfl, rfl⟩⟩
  | more least greatest others => exact ⟨_, _, rfl, least, greatest, .inr ⟨_, rfl, others⟩⟩

lemma Completes.read {p : Partial} {bs : Bytes} {value : Nat} (complete : Completes p bs value)
    (rest : Bytes) :
    piecesFrom (some p) (bs ++ rest) = some (Char.ofNat value) :: piecesFrom none rest := by
  induction complete with
  | last least greatest => simp [piecesFrom, least, greatest]
  | more least greatest _ ih => simpa [piecesFrom, least, greatest] using ih

lemma exists_completes {p : Partial} {bytes : Bytes} (sound : none ∉ piecesFrom (some p) bytes) :
    ∃ bs value rest, Completes p bs value ∧ bytes = bs ++ rest ∧
      piecesFrom (some p) bytes = some (Char.ofNat value) :: piecesFrom none rest := by
  induction bytes generalizing p with
  | nil => simp [piecesFrom] at sound
  | cons b bytes ih =>
    obtain ⟨value, after, low, high⟩ := p
    by_cases within : low ≤ b ∧ b ≤ high
    · cases after with
      | zero => exact ⟨[b], _, bytes, .last within.1 within.2, rfl, by simp [piecesFrom, within]⟩
      | succ after =>
        simp only [piecesFrom, within, and_self, if_true] at sound ⊢
        obtain ⟨bs, result, rest, complete, rfl, others⟩ := ih sound
        exact ⟨b :: bs, result, rest, .more within.1 within.2 complete, rfl, others⟩
    · simp [piecesFrom, within] at sound

/-! ### Where a character begins -/

lemma eq_iff_toNat {a b : UInt8} : a = b ↔ a.toNat = b.toNat := UInt8.toNat_inj.symm

/-- the first octets that open a character, and what they leave to read -/
lemma lead_eq_opens_iff {b : UInt8} {p : Partial} : lead b = .opens p ↔
    0xC2 ≤ b ∧ b < 0xE0 ∧ p = ⟨b.toNat - 0xC0, 0, 0x80, 0xBF⟩ ∨
    b = 0xE0 ∧ p = ⟨0, 1, 0xA0, 0xBF⟩ ∨
    b = 0xED ∧ p = ⟨0xD, 1, 0x80, 0x9F⟩ ∨
    0xE0 < b ∧ b < 0xF0 ∧ b ≠ 0xED ∧ p = ⟨b.toNat - 0xE0, 1, 0x80, 0xBF⟩ ∨
    b = 0xF0 ∧ p = ⟨0, 2, 0x90, 0xBF⟩ ∨
    0xF0 < b ∧ b < 0xF4 ∧ p = ⟨b.toNat - 0xF0, 2, 0x80, 0xBF⟩ ∨
    b = 0xF4 ∧ p = ⟨4, 2, 0x80, 0x8F⟩ := by
  unfold lead
  grind

/-- The first two octets of a character, by what they write: enough for their number, no surrogate
and nothing above the last plane. -/
lemma opens_iff {first second : UInt8} {value after : Nat} :
    (∃ low high, lead first = .opens ⟨value, after, low, high⟩ ∧ low ≤ second ∧ second ≤ high) ↔
      (0x80 ≤ second.toNat ∧ second.toNat < 0xC0) ∧
        (after = 0 ∧ first.toNat = 0xC0 + value ∧ 2 ≤ value ∧ value < 0x20 ∨
         after = 1 ∧ first.toNat = 0xE0 + value ∧ value < 0x10 ∧
          0x20 ≤ value * 64 + (second.toNat - 0x80) ∧
          ¬ (0x360 ≤ value * 64 + (second.toNat - 0x80) ∧
            value * 64 + (second.toNat - 0x80) < 0x380) ∨
         after = 2 ∧ first.toNat = 0xF0 + value ∧
          0x10 ≤ value * 64 + (second.toNat - 0x80) ∧
          value * 64 + (second.toNat - 0x80) < 0x110) := by
  have bounded := first.toNat_lt
  -- the bounds go before the octets turn into numbers: they are found as octets
  simp only [lead_eq_opens_iff, Partial.mk.injEq, or_and_right, exists_or, and_assoc,
    exists_and_left, exists_eq_left]
  simp only [UInt8.lt_iff_toNat_lt, UInt8.le_iff_toNat_le, ne_eq, eq_iff_toNat,
    UInt8.reduceToNat]
  constructor
  · rintro (two | three | three | three | four | four | four) <;> omega
  · rintro ⟨least, greatest, two | three | four⟩
    · exact .inl (by omega)
    · obtain zero | lead | other : value = 0 ∨ value = 13 ∨ value ≠ 0 ∧ value ≠ 13 := by omega
      · exact .inr (.inl (by omega))
      · exact .inr (.inr (.inl (by omega)))
      · exact .inr (.inr (.inr (.inl (by omega))))
    · obtain zero | lead | other : value = 0 ∨ value = 4 ∨ value ≠ 0 ∧ value < 4 := by omega
      · exact .inr (.inr (.inr (.inr (.inl (by omega)))))
      · exact .inr (.inr (.inr (.inr (.inr (.inr (by omega))))))
      · exact .inr (.inr (.inr (.inr (.inr (.inl (by omega))))))
lemma lead_below {b : UInt8} (below : b.toNat < 0x80) :
    lead b = .character (Char.ofNat b.toNat) := by
  have below : b < 0x80 := UInt8.lt_iff_toNat_lt.2 below
  simp [lead, below]

lemma toNat_lt_of_lead {b : UInt8} {c : Char} (whole : lead b = .character c) :
    b.toNat < 0x80 ∧ c = Char.ofNat b.toNat := by
  by_cases below : b < 0x80
  · rw [lead, if_pos below] at whole
    exact ⟨UInt8.lt_iff_toNat_lt.1 below, (Lead.character.inj whole).symm⟩
  · rw [lead, if_neg below] at whole
    grind

lemma eq_ofNat {b : UInt8} {n : Nat} (same : b.toNat = n) : b = UInt8.ofNat n := by
  rw [← same, UInt8.ofNat_toNat]

lemma later (n : Nat) : (0x80 : UInt8) ≤ UInt8.ofNat (0x80 + n % 64) ∧
    UInt8.ofNat (0x80 + n % 64) ≤ 0xBF ∧ (UInt8.ofNat (0x80 + n % 64)).toNat = 0x80 + n % 64 := by
  have same : (UInt8.ofNat (0x80 + n % 64)).toNat = 0x80 + n % 64 := by
    rw [UInt8.toNat_ofNat']
    omega
  have bounds : (0x80 : UInt8).toNat = 0x80 ∧ (0xBF : UInt8).toNat = 0xBF := ⟨rfl, rfl⟩
  refine ⟨UInt8.le_iff_toNat_le.2 ?_, UInt8.le_iff_toNat_le.2 ?_, same⟩ <;> omega

lemma bounds_of_later {b : UInt8} (least : 0x80 ≤ b) (greatest : b ≤ 0xBF) :
    0x80 ≤ b.toNat ∧ b.toNat < 0xC0 := by
  have least := UInt8.le_iff_toNat_le.1 least
  have greatest := UInt8.le_iff_toNat_le.1 greatest
  have bounds : (0x80 : UInt8).toNat = 0x80 ∧ (0xBF : UInt8).toNat = 0xBF := ⟨rfl, rfl⟩
  omega

lemma octets_of_completes {first : UInt8} {p : Partial} {bs : Bytes} {value : Nat}
    (opened : lead first = .opens p) (complete : Completes p bs value) :
    IsScalar value ∧ octets value = first :: bs := by
  obtain ⟨value₁, after, low, high⟩ := p
  obtain ⟨second, bs, rfl, least, greatest, ⟨rfl, rfl, whole⟩ | ⟨after, rfl, others⟩⟩ :=
    complete.next
  · have facts := opens_iff.1 ⟨_, _, opened, least, greatest⟩
    refine ⟨by unfold IsScalar; omega, (octets_two (by omega) (by omega)).trans ?_⟩
    simp only [List.cons.injEq, and_true]
    exact ⟨(eq_ofNat (by omega)).symm, (eq_ofNat (by omega)).symm⟩
  have facts := opens_iff.1 ⟨_, _, opened, least, greatest⟩
  obtain ⟨third, bs, rfl, least', greatest', ⟨rfl, rfl, whole⟩ | ⟨after, rfl, others'⟩⟩ :=
    others.next
  · have within := bounds_of_later least' greatest'
    refine ⟨by unfold IsScalar; omega, (octets_three (by omega) (by omega)).trans ?_⟩
    simp only [List.cons.injEq, and_true]
    exact ⟨(eq_ofNat (by omega)).symm, (eq_ofNat (by omega)).symm, (eq_ofNat (by omega)).symm⟩
  have within := bounds_of_later least' greatest'
  obtain ⟨fourth, bs, rfl, least'', greatest'', ⟨rfl, rfl, whole⟩ | ⟨after, rfl, -⟩⟩ :=
    others'.next
  · have within' := bounds_of_later least'' greatest''
    refine ⟨by unfold IsScalar; omega, (octets_four (by omega)).trans ?_⟩
    simp only [List.cons.injEq, and_true]
    exact ⟨(eq_ofNat (by omega)).symm, (eq_ofNat (by omega)).symm, (eq_ofNat (by omega)).symm,
      (eq_ofNat (by omega)).symm⟩
  · omega

/-- The octets of a character beyond the first 128 begin a part and complete it. -/
lemma completes_octets {value : Nat} (wide : 0x80 ≤ value) (scalar : IsScalar value) :
    ∃ first p bs, octets value = first :: bs ∧ lead first = .opens p ∧ Completes p bs value := by
  unfold IsScalar at scalar
  obtain ⟨least, greatest, same⟩ := later value
  by_cases two : value < 0x800
  · obtain ⟨low, high, opened, least, greatest⟩ := (@opens_iff (UInt8.ofNat (0xC0 + value / 64))
      (UInt8.ofNat (0x80 + value % 64)) (value / 64) 0).2
      (by rw [same, UInt8.toNat_ofNat']; omega)
    have ends := @Completes.last (value / 64) _ _ _ least greatest
    rw [same, show value / 64 * 64 + (0x80 + value % 64 - 0x80) = value by omega] at ends
    exact ⟨_, _, _, octets_two wide two, opened, ends⟩
  obtain ⟨least', greatest', same'⟩ := later (value / 64)
  by_cases three : value < 0x10000
  · obtain ⟨low, high, opened, least', greatest'⟩ :=
      (@opens_iff (UInt8.ofNat (0xE0 + value / 4096)) (UInt8.ofNat (0x80 + value / 64 % 64))
        (value / 4096) 1).2 (by rw [same', UInt8.toNat_ofNat']; omega)
    have ends := @Completes.more (value / 4096) _ _ _ _ _ _ least' greatest'
      (.last least greatest)
    rw [same, same', show (value / 4096 * 64 + (0x80 + value / 64 % 64 - 0x80)) * 64 +
      (0x80 + value % 64 - 0x80) = value by omega] at ends
    exact ⟨_, _, _, octets_three (by omega) three, opened, ends⟩
  obtain ⟨least'', greatest'', same''⟩ := later (value / 4096)
  obtain ⟨low, high, opened, least'', greatest''⟩ :=
    (@opens_iff (UInt8.ofNat (0xF0 + value / 262144)) (UInt8.ofNat (0x80 + value / 4096 % 64))
      (value / 262144) 2).2 (by rw [same'', UInt8.toNat_ofNat']; omega)
  have ends := @Completes.more (value / 262144) _ _ _ _ _ _ least'' greatest''
    (.more least' greatest' (.last least greatest))
  rw [same, same', same'', show ((value / 262144 * 64 + (0x80 + value / 4096 % 64 - 0x80)) * 64 +
    (0x80 + value / 64 % 64 - 0x80)) * 64 + (0x80 + value % 64 - 0x80) = value by omega] at ends
  exact ⟨_, _, _, octets_four (by omega), opened, ends⟩

/-! ### Texts -/

/-- A character is read off the octets that write it, whatever follows. -/
lemma piecesFrom_encodeChar (c : Char) (rest : Bytes) :
    piecesFrom none (String.utf8EncodeChar c ++ rest) = some c :: piecesFrom none rest := by
  rw [encodeChar_eq]
  by_cases narrow : c.toNat < 0x80
  · have same : (UInt8.ofNat c.toNat).toNat = c.toNat := by
      rw [UInt8.toNat_ofNat']
      omega
    rw [octets, if_pos narrow, List.singleton_append, piecesFrom, lead_below (by omega)]
    simp [same]
  · obtain ⟨first, p, bs, spelled, opened, complete⟩ :=
      completes_octets (Nat.le_of_not_lt narrow) (isScalar_toNat c)
    rw [spelled, List.cons_append, piecesFrom, opened]
    simpa using complete.read rest

lemma pieces_encode (s : String) : pieces (encode s) = s.toList.map some := by
  rw [pieces, encode]
  induction s.toList with
  | nil => rfl
  | cons c cs ih => rw [List.flatMap_cons, piecesFrom_encodeChar, ih, List.map_cons]

lemma eq_encode_of_sound {bytes : Bytes} (sound : none ∉ piecesFrom none bytes) :
    bytes = ((piecesFrom none bytes).map (·.getD '\uFFFD')).flatMap String.utf8EncodeChar := by
  induction size : bytes.length using Nat.strong_induction_on generalizing bytes with
  | _ size ih =>
    subst size
    cases bytes with
    | nil => rfl
    | cons b rest =>
      rcases kind : lead b with c | p | -
      · obtain ⟨narrow, rfl⟩ := toNat_lt_of_lead kind
        have read : piecesFrom none (b :: rest) =
            some (Char.ofNat b.toNat) :: piecesFrom none rest := by simp [piecesFrom, kind]
        rw [read] at sound ⊢
        have others := ih rest.length (by simp) (fun fault => sound (by simp [fault])) rfl
        have scalar : IsScalar b.toNat := .inl (by omega)
        rw [List.map_cons, List.flatMap_cons, ← others, Option.getD_some, encodeChar_eq,
          toNat_ofNat scalar, octets, if_pos narrow, UInt8.ofNat_toNat, List.singleton_append]
      · have read : piecesFrom none (b :: rest) = piecesFrom (some p) rest := by
          simp [piecesFrom, kind]
        rw [read] at sound ⊢
        obtain ⟨bs, value, others, complete, rfl, whole⟩ := exists_completes sound
        rw [whole] at sound ⊢
        have fewer : others.length < (b :: (bs ++ others)).length := by
          rw [List.length_cons, List.length_append]
          omega
        have later := ih others.length fewer (fun fault => sound (by simp [fault])) rfl
        obtain ⟨scalar, spelled⟩ := octets_of_completes kind complete
        rw [List.map_cons, List.flatMap_cons, ← later, Option.getD_some, encodeChar_eq,
          toNat_ofNat scalar, spelled, List.cons_append]
      · simp [piecesFrom, kind] at sound

/-- **The strict reader and the writer are inverse to one another**: a text is read off the octets
that write it, and off no others. -/
theorem strict_eq_some_iff {bytes : Bytes} {s : String} :
    strict bytes = some s ↔ bytes = encode s := by
  constructor
  · intro read
    have sound : none ∉ pieces bytes := by
      intro fault
      rw [strict_eq_none_iff.2 fault] at read
      cases read
    rw [eq_lossy_of_strict read, lossy, encode, String.toList_ofList]
    exact eq_encode_of_sound sound
  · rintro rfl
    rw [strict, pieces_encode, mapM_id, if_neg (by simp)]
    rw [List.map_map]
    exact congrArg some ((congrArg String.ofList (List.map_id _)).trans String.ofList_toList)

end ShardCluster.Utf8
