import Mathlib.Data.List.Forall2
import ShardCluster.Json.Writer
import ShardCluster.Proofs.JsonGrammar

/-!
# The texts of JSON values

Both layouts of a value spell it, so that the reader gives the value back
(`Json.read?_compact`, `Json.read?_indented`). That is so of the values that a text can say exactly
(`Json.Exact`): their strings and keys are texts and their numbers natural.
-/

namespace ShardCluster.Json

/-! ### Strings -/

lemma spellsPiece_escaped (c : Char) : SpellsPiece (.whole c) (escaped c) := by
  unfold escaped
  split_ifs with quote backslash backspace tab feed page return_ control
  · exact .letter (by rw [quote]; decide)
  · exact .letter (by rw [backslash]; decide)
  · exact .letter (by rw [backspace]; decide)
  · exact .letter (by rw [tab]; decide)
  · exact .letter (by rw [feed]; decide)
  · exact .letter (by rw [page]; decide)
  · exact .letter (by rw [return_]; decide)
  · have number : ∀ n < 0x20, hexNumber? '0' '0' (Nat.digitChar (n / 16)) (Nat.digitChar (n % 16)) =
        some n := by decide
    have piece : Piece.ofUnit c.toNat = .whole c := by
      rw [Piece.ofUnit, if_neg (by omega), Char.ofNat_toNat]
    exact piece ▸ .unit (number c.toNat control)
  · exact .plain quote backslash (Nat.le_of_not_lt control)

lemma spellsPieces_escaped (cs : List Char) :
    SpellsPieces (cs.map .whole) (cs.flatMap escaped) := by
  induction cs with
  | nil => exact .nil
  | cons c cs ih => exact .cons (spellsPiece_escaped c) ih

lemma joined?_whole (cs : List Char) : joined? (cs.map .whole) = some cs := by
  induction cs with
  | nil => rfl
  | cons c cs ih => rw [List.map_cons, joined?, ih, Option.map_some]

lemma spellsString_quote (s : String) : SpellsString (some s) (quote s) := by
  refine ⟨s.toList.map .whole, _, rfl, spellsPieces_escaped s.toList, ?_⟩
  rw [joined?_whole, Option.map_some, String.ofList_toList]

/-! ### Numbers -/

/-- The digits of a number begin with a zero if it is zero and nothing else. -/
lemma head?_toDigits {n : Nat} (some_ : 0 < n) : (Nat.toDigits 10 n).head? ≠ some '0' := by
  induction n using Nat.strong_induction_on with
  | _ n ih =>
    by_cases one : n < 10
    · rw [Nat.toDigits_of_lt_base one]
      have nonzero : ∀ m < 10, 0 < m → some (Nat.digitChar m) ≠ some '0' := by decide
      exact nonzero n one some_
    · rw [Nat.toDigits_of_base_le (by decide) (by omega),
        List.head?_append_of_ne_nil _ Nat.toDigits_ne_nil]
      exact ih (n / 10) (by omega) (by omega)

lemma whole_toDigits (n : Nat) : Whole (Nat.toDigits 10 n) where
  digits := ⟨Nat.toDigits_ne_nil, fun _ among =>
    Nat.isDigit_of_mem_toDigits (by decide) (by decide) among⟩
  no_zero several := by
    refine head?_toDigits (Nat.pos_of_ne_zero ?_)
    rintro rfl
    exact absurd several (by decide)

lemma spellsNumber_toDigits (n : Nat) : SpellsNumber (some n) (Nat.toDigits 10 n) :=
  ⟨[], _, [], [], by simp, .inl rfl, whole_toDigits n, .inl rfl, .inl rfl, by
    simp [Nat.ofDigitChars_ten_toDigits]⟩

/-! ### Items and fields one after another -/

section Separated

variable {before after : List Char} (left : Blank before) (right : Blank after)

include left right

/-- Values with commas between them, and blanks after every comma, spell the items of an array. -/
lemma spells_items {js : List Json} {css : List (List Char)} (some_ : js ≠ [])
    (spelled : List.Forall₂ (fun j cs => Spells (.value j) cs) js css) :
    Spells (.items js) (before ++ separated (',' :: before) css ++ after) := by
  induction spelled with
  | nil => exact absurd rfl some_
  | @cons j cs js css value others ih =>
    cases others with
    | nil => exact .item (.padded left value right)
    | cons =>
      have first := Spells.padded left value blank_nil
      have whole := Spells.items first (ih (List.cons_ne_nil _ _))
      simpa [separated] using whole

lemma spells_fields {fs : List (Option String × Json)} {css : List (List Char)} (some_ : fs ≠ [])
    (spelled : List.Forall₂ (fun f cs => ∃ key between vs, f.1 = some key ∧ Blank between ∧
      Spells (.value f.2) vs ∧ cs = quote key ++ ':' :: (between ++ vs)) fs css) :
    Spells (.fields fs) (before ++ separated (',' :: before) css ++ after) := by
  induction spelled with
  | nil => exact absurd rfl some_
  | @cons f cs fs css entry others ih =>
    obtain ⟨key, j⟩ := f
    obtain ⟨key, between, vs, rfl, middle, value, rfl⟩ := entry
    cases others with
    | nil =>
      have field := Spells.field left (spellsString_quote key) blank_nil
        (.padded middle value right)
      simpa [separated] using Spells.lastField field
    | cons =>
      have first := Spells.field left (spellsString_quote key) blank_nil
        (.padded middle value blank_nil)
      have whole := Spells.fields first (ih (List.cons_ne_nil _ _))
      simpa [separated] using whole

end Separated

/-! ### Both layouts -/

mutual

/-- a value that a text can say exactly -/
def Exact : Json → Prop
  | .number n => n.isSome
  | .string s => s.isSome
  | .array items => ItemsExact items
  | .object fields => FieldsExact fields
  | _ => True

def ItemsExact : List Json → Prop
  | [] => True
  | item :: rest => Exact item ∧ ItemsExact rest

def FieldsExact : List (Option String × Json) → Prop
  | [] => True
  | (key, value) :: rest => key.isSome ∧ Exact value ∧ FieldsExact rest

end

lemma spells_scalar {j : Json} (exact_ : Exact j) (no_array : ∀ js, j ≠ .array js)
    (no_object : ∀ fs, j ≠ .object fs) : Spells (.value j) (scalar j) := by
  cases j with
  | null => exact .null
  | bool b =>
    cases b
    · exact .no
    · exact .yes
  | number n =>
    cases n with
    | none => cases exact_
    | some n => exact .number (spellsNumber_toDigits n)
  | string s =>
    cases s with
    | none => cases exact_
    | some s => exact .string (spellsString_quote s)
  | array js => exact absurd rfl (no_array js)
  | object fs => exact absurd rfl (no_object fs)

mutual

/-- **The text without blanks spells its value.** -/
theorem spells_compactChars : (j : Json) → Exact j → Spells (.value j) (compactChars j)
  | .null, exact_ => spells_scalar exact_ (by simp) (by simp)
  | .bool _, exact_ => spells_scalar exact_ (by simp) (by simp)
  | .number _, exact_ => spells_scalar exact_ (by simp) (by simp)
  | .string _, exact_ => spells_scalar exact_ (by simp) (by simp)
  | .array [], _ => .emptyArray blank_nil
  | .array (j :: js), exact_ => by
    have items := spells_items blank_nil blank_nil (List.cons_ne_nil j js)
      (compactItems_spelled (j :: js) exact_)
    rw [compactChars]
    exact .array (by simpa using items)
  | .object [], _ => .emptyObject blank_nil
  | .object (f :: fs), exact_ => by
    have fields := spells_fields blank_nil blank_nil (List.cons_ne_nil f fs)
      (compactFields_spelled (f :: fs) exact_)
    rw [compactChars]
    exact .object (by simpa using fields)

lemma compactItems_spelled : (js : List Json) → ItemsExact js →
    List.Forall₂ (fun j cs => Spells (.value j) cs) js (compactItems js)
  | [], _ => .nil
  | j :: js, exact_ => .cons (spells_compactChars j exact_.1) (compactItems_spelled js exact_.2)

lemma compactFields_spelled : (fs : List (Option String × Json)) → FieldsExact fs →
    List.Forall₂ (fun f cs => ∃ key between vs, f.1 = some key ∧ Blank between ∧
      Spells (.value f.2) vs ∧ cs = quote key ++ ':' :: (between ++ vs)) fs (compactFields fs)
  | [], _ => .nil
  | (none, _) :: _, exact_ => by cases exact_.1
  | (some key, j) :: fs, exact_ =>
    .cons ⟨key, [], _, rfl, blank_nil, spells_compactChars j exact_.2.1, rfl⟩
      (compactFields_spelled fs exact_.2.2)

end

lemma blank_line (indent : Nat) : Blank ('\n' :: List.replicate indent ' ') := by
  intro c among
  rcases List.mem_cons.1 among with rfl | among
  · rfl
  · rw [List.eq_of_mem_replicate among]
    rfl

lemma block_of_ne_nil {level : Nat} {opening closing : Char} {css : List (List Char)}
    (some_ : css ≠ []) : block level opening closing css =
      opening :: (('\n' :: List.replicate (2 * (level + 1)) ' ') ++
        separated (',' :: '\n' :: List.replicate (2 * (level + 1)) ' ') css ++
        ('\n' :: List.replicate (2 * level) ' ') ++ [closing]) := by
  rw [block, if_neg (by simpa using some_)]
  simp

mutual

/-- **The indented text spells its value.** -/
theorem spells_indentedChars (level : Nat) :
    (j : Json) → Exact j → Spells (.value j) (indentedChars level j)
  | .null, exact_ => spells_scalar exact_ (by simp) (by simp)
  | .bool _, exact_ => spells_scalar exact_ (by simp) (by simp)
  | .number _, exact_ => spells_scalar exact_ (by simp) (by simp)
  | .string _, exact_ => spells_scalar exact_ (by simp) (by simp)
  | .array [], _ => .emptyArray blank_nil
  | .array (j :: js), exact_ => by
    rw [indentedChars, block_of_ne_nil (by simp [indentedItems])]
    exact .array (spells_items (blank_line _) (blank_line _) (List.cons_ne_nil j js)
      (indentedItems_spelled (level + 1) (j :: js) exact_))
  | .object [], _ => .emptyObject blank_nil
  | .object (f :: fs), exact_ => by
    obtain ⟨key, j⟩ := f
    rw [indentedChars, block_of_ne_nil (by simp [indentedFields])]
    exact .object (spells_fields (blank_line _) (blank_line _) (List.cons_ne_nil (key, j) fs)
      (indentedFields_spelled (level + 1) ((key, j) :: fs) exact_))

lemma indentedItems_spelled (level : Nat) : (js : List Json) → ItemsExact js →
    List.Forall₂ (fun j cs => Spells (.value j) cs) js (indentedItems level js)
  | [], _ => .nil
  | j :: js, exact_ =>
    .cons (spells_indentedChars level j exact_.1) (indentedItems_spelled level js exact_.2)

lemma indentedFields_spelled (level : Nat) :
    (fs : List (Option String × Json)) → FieldsExact fs →
    List.Forall₂ (fun f cs => ∃ key between vs, f.1 = some key ∧ Blank between ∧
      Spells (.value f.2) vs ∧ cs = quote key ++ ':' :: (between ++ vs)) fs
      (indentedFields level fs)
  | [], _ => .nil
  | (none, _) :: _, exact_ => by cases exact_.1
  | (some key, j) :: fs, exact_ =>
    .cons ⟨key, [' '], _, rfl, by simp [Blank, isSpace], spells_indentedChars level j exact_.2.1,
      rfl⟩ (indentedFields_spelled level fs exact_.2.2)

end

/-! ### Reading a text back -/

lemma read?_of_spells {j : Json} {text : String} (spelled : Spells (.value j) text.toList) :
    read? text = some j :=
  ofChars?_eq_some_iff.2 ⟨[], _, [], by simp, blank_nil, blank_nil, spelled⟩

/-- **A value is read back from its text without blanks.** -/
theorem read?_compact {j : Json} (exact_ : Exact j) : read? j.compact = some j :=
  read?_of_spells (by rw [compact, String.toList_ofList]; exact spells_compactChars j exact_)

/-- **A value is read back from its indented text.** -/
theorem read?_indented {j : Json} (exact_ : Exact j) : read? j.indented = some j :=
  read?_of_spells (by rw [indented, String.toList_ofList]; exact spells_indentedChars 0 j exact_)

end ShardCluster.Json
