import Mathlib.Data.List.DropRight
import ShardCluster.Json.Reader

/-!
# The grammar of JSON

Which characters spell a value (`Json.Spells`), and that the reader gives a value for the texts that
spell it and for no others (`Json.ofChars?_eq_some_iff`). Every function of the reader has one
lemma that says what it takes and what it leaves.
-/

namespace ShardCluster.Json

/-! ### Blanks -/

/-- nothing but blanks -/
def Blank (cs : List Char) : Prop := ∀ c ∈ cs, isSpace c

lemma blank_nil : Blank [] := fun _ none_ => absurd none_ List.not_mem_nil

lemma skipSpace_append {before : List Char} (blank : Blank before) (cs : List Char) :
    skipSpace (before ++ cs) = skipSpace cs :=
  List.dropWhile_append_of_pos blank

lemma skipSpace_cons {c : Char} (solid : isSpace c = false) (cs : List Char) :
    skipSpace (c :: cs) = c :: cs :=
  List.dropWhile_cons_of_neg (by simp [solid])

lemma exists_blank (cs : List Char) : ∃ before, Blank before ∧ cs = before ++ skipSpace cs :=
  ⟨cs.takeWhile isSpace, fun _ among => List.mem_takeWhile_imp among,
    List.takeWhile_append_dropWhile.symm⟩

/-! ### Strings -/

/-- the characters that spell a piece of a string -/
inductive SpellsPiece : Piece → List Char → Prop
  /-- any character but a quote, a backslash or a control -/
  | plain {c : Char} (quote : c ≠ '\x22') (backslash : c ≠ '\x5c') (control : 0x20 ≤ c.toNat) :
      SpellsPiece (.whole c) [c]
  /-- a backslash and a letter -/
  | letter {e c : Char} (stands : escape? e = some c) : SpellsPiece (.whole c) ['\x5c', e]
  /-- a code unit in four hexadecimal digits -/
  | unit {n : Nat} {a b c d : Char} (number : hexNumber? a b c d = some n) :
      SpellsPiece (.ofUnit n) ['\x5c', 'u', a, b, c, d]

/-- the characters that spell pieces one after another -/
inductive SpellsPieces : List Piece → List Char → Prop
  | nil : SpellsPieces [] []
  | cons {p : Piece} {ps : List Piece} {cs ds : List Char} (first : SpellsPiece p cs)
      (rest : SpellsPieces ps ds) : SpellsPieces (p :: ps) (cs ++ ds)

lemma SpellsPiece.read {p : Piece} {ps : List Piece} {cs tail rest : List Char}
    (spelled : SpellsPiece p cs) (others : pieces? tail = some (ps, rest)) :
    pieces? (cs ++ tail) = some (p :: ps, rest) := by
  cases spelled with
  | plain quote backslash control =>
    rw [List.singleton_append, pieces?.eq_4 _ _ (by simp [backslash]) (by simp [backslash]),
      if_neg quote, if_neg (by simp [backslash, control]), others]
    rfl
  | @letter e c stands =>
    have other : ∀ a b c d tail', e = 'u' → tail = a :: b :: c :: d :: tail' → False := by
      rintro _ _ _ _ _ rfl -
      have no_letter : escape? 'u' = none := by decide
      rw [no_letter] at stands
      cases stands
    rw [List.cons_append, List.singleton_append, pieces?.eq_3 _ _ other, stands, others]
    rfl
  | unit number =>
    simp only [List.cons_append, List.nil_append]
    rw [pieces?.eq_2, number, others]
    rfl

/-- The pieces of a string end at the first quote that is not part of one. -/
lemma pieces?_eq_some_iff {cs rest : List Char} {ps : List Piece} :
    pieces? cs = some (ps, rest) ↔ ∃ body, cs = body ++ '\x22' :: rest ∧ SpellsPieces ps body := by
  constructor
  · intro read
    fun_induction pieces? cs generalizing ps with
    | case1 => cases read
    | case2 a b c d tail ih =>
      simp only [Option.bind_eq_bind, Option.bind_eq_some_iff, Option.pure_def, Option.some.injEq,
        Prod.exists, Prod.mk.injEq] at read
      obtain ⟨n, number, more, _, others, rfl, rfl⟩ := read
      obtain ⟨body, rfl, spelled⟩ := ih others
      exact ⟨_, rfl, .cons (.unit number) spelled⟩
    | case3 e tail _ ih =>
      simp only [Option.bind_eq_bind, Option.bind_eq_some_iff, Option.pure_def, Option.some.injEq,
        Prod.exists, Prod.mk.injEq] at read
      obtain ⟨c, stands, more, _, others, rfl, rfl⟩ := read
      obtain ⟨body, rfl, spelled⟩ := ih others
      exact ⟨_, rfl, .cons (.letter stands) spelled⟩
    | case4 =>
      obtain ⟨rfl, rfl⟩ := Prod.mk.inj (Option.some.inj read)
      exact ⟨[], rfl, .nil⟩
    | case5 => cases read
    | case6 c tail _ _ quote plain ih =>
      simp only [Option.bind_eq_bind, Option.bind_eq_some_iff, Option.pure_def, Option.some.injEq,
        Prod.exists, Prod.mk.injEq] at read
      obtain ⟨more, _, others, rfl, rfl⟩ := read
      obtain ⟨body, rfl, spelled⟩ := ih others
      obtain ⟨backslash, control⟩ := not_or.1 plain
      exact ⟨_, rfl, .cons (.plain quote backslash (Nat.le_of_not_lt control)) spelled⟩
  · rintro ⟨body, rfl, spelled⟩
    induction spelled with
    | nil => rw [List.nil_append, pieces?.eq_4] <;> simp
    | cons first _ ih =>
      rw [List.append_assoc]
      exact first.read ih

/-- the characters that spell a string, whose text is lost if half of a surrogate pair stands
alone in it -/
def SpellsString (s : Option String) (cs : List Char) : Prop :=
  ∃ ps body, cs = '\x22' :: (body ++ ['\x22']) ∧ SpellsPieces ps body ∧
    s = (joined? ps).map String.ofList

lemma string?_eq_some_iff {cs rest : List Char} {s : Option String} :
    string? cs = some (s, rest) ↔
      ∃ body, '\x22' :: cs = body ++ rest ∧ SpellsString s body := by
  rw [string?]
  simp only [Option.bind_eq_bind, Option.bind_eq_some_iff, Option.pure_def, Option.some.injEq,
    Prod.exists, Prod.mk.injEq, pieces?_eq_some_iff]
  constructor
  · rintro ⟨ps, _, ⟨body, rfl, spelled⟩, rfl, rfl⟩
    exact ⟨_, by simp, ps, body, rfl, spelled, rfl⟩
  · rintro ⟨_, whole, ps, body, rfl, spelled, rfl⟩
    refine ⟨ps, rest, ⟨body, ?_, spelled⟩, rfl, rfl⟩
    simpa using whole

/-! ### Numbers -/

/-- at least one digit -/
structure Digits (ds : List Char) : Prop where
  some_ : ds ≠ []
  all : ∀ d ∈ ds, d.isDigit

/-- no digit stands in front -/
def NoDigit (cs : List Char) : Prop := ∀ c, cs.head? = some c → c.isDigit = false

lemma digits?_eq_some_iff {cs ds rest : List Char} :
    digits? cs = some (ds, rest) ↔ cs = ds ++ rest ∧ Digits ds ∧ NoDigit rest := by
  have step : digits? cs = if (cs.takeWhile Char.isDigit).isEmpty then none
    else some (cs.takeWhile Char.isDigit, cs.dropWhile Char.isDigit) := rfl
  rw [step]
  constructor
  · intro read
    split at read
    · cases read
    · next none_ =>
      obtain ⟨rfl, rfl⟩ := Prod.mk.inj (Option.some.inj read)
      refine ⟨List.takeWhile_append_dropWhile.symm, ⟨by simpa using none_, ?_⟩, ?_⟩
      · exact fun d among => List.mem_takeWhile_imp among
      · intro c first
        have := List.head?_dropWhile_not Char.isDigit cs
        rw [first] at this
        simpa using this
  · rintro ⟨rfl, ⟨some_, all⟩, ended⟩
    have taken : (ds ++ rest).takeWhile Char.isDigit = ds := by
      rw [List.takeWhile_append_of_pos all]
      cases rest with
      | nil => simp
      | cons c rest => simp [ended c rfl]
    have left : (ds ++ rest).dropWhile Char.isDigit = rest := by
      rw [List.dropWhile_append_of_pos all]
      cases rest with
      | nil => rfl
      | cons c rest => simp [ended c rfl]
    rw [taken, left]
    simp [some_]

/-- an integer part: one zero, or digits of which the first is no zero -/
structure Whole (ds : List Char) : Prop where
  digits : Digits ds
  no_zero : ds.length > 1 → ds.head? ≠ some '0'

lemma decimal_eq (ds : List Char) : decimal ds = Nat.ofDigitChars 10 ds 0 := by
  rw [decimal, Nat.ofDigitChars]
  congr 1
  funext n d
  rw [Nat.mul_comm]
  rfl

lemma whole?_eq_some_iff {cs rest : List Char} {n : Nat} :
    whole? cs = some (n, rest) ↔
      ∃ ds, cs = ds ++ rest ∧ Whole ds ∧ NoDigit rest ∧ n = Nat.ofDigitChars 10 ds 0 := by
  rw [whole?]
  simp only [Option.bind_eq_bind, Option.bind_eq_some_iff, Prod.exists, digits?_eq_some_iff]
  constructor
  · rintro ⟨ds, _, ⟨rfl, digits, ended⟩, read⟩
    split at read
    · cases read
    · next no_zero =>
      obtain ⟨rfl, rfl⟩ := Prod.mk.inj (Option.some.inj read)
      exact ⟨ds, rfl, ⟨digits, by simpa using no_zero⟩, ended, decimal_eq ds⟩
  · rintro ⟨ds, rfl, ⟨digits, no_zero⟩, ended, rfl⟩
    refine ⟨ds, rest, ⟨rfl, digits, ended⟩, ?_⟩
    rw [if_neg (by simpa using no_zero), decimal_eq]

/-- nothing, or a point and digits -/
def Fraction (cs : List Char) : Prop := cs = [] ∨ ∃ ds, Digits ds ∧ cs = '.' :: ds

lemma fraction?_eq_some_iff {cs rest : List Char} {cut : Bool} :
    fraction? cs = some (cut, rest) ↔ ∃ part, Fraction part ∧ cs = part ++ rest ∧
      (part = [] → rest.head? ≠ some '.') ∧ (part ≠ [] → NoDigit rest) ∧ cut = !part.isEmpty := by
  constructor
  · intro read
    unfold fraction? at read
    split at read
    · simp only [Option.map_eq_some_iff, Prod.exists, digits?_eq_some_iff, Prod.mk.injEq] at read
      obtain ⟨ds, _, ⟨rfl, digits, ended⟩, rfl, rfl⟩ := read
      exact ⟨'.' :: ds, .inr ⟨ds, digits, rfl⟩, by simp [ended]⟩
    · next no_point =>
      obtain ⟨rfl, rfl⟩ := Prod.mk.inj (Option.some.inj read)
      refine ⟨[], .inl rfl, rfl, fun _ point => ?_, by simp, rfl⟩
      obtain ⟨tail, rfl⟩ := List.head?_eq_some_iff.1 point
      exact no_point tail rfl
  · rintro ⟨part, rfl | ⟨ds, digits, rfl⟩, rfl, no_point, ended, rfl⟩
    · refine fraction?.eq_2 _ fun tail point => no_point rfl ?_
      rw [point, List.head?_cons]
    · rw [List.cons_append, fraction?, digits?_eq_some_iff.2 ⟨rfl, digits, ended (by simp)⟩]
      rfl

/-- nothing, or a letter, perhaps a sign, and digits -/
def Exponent (cs : List Char) : Prop :=
  cs = [] ∨ ∃ e sign ds, (e = 'e' ∨ e = 'E') ∧ (sign = [] ∨ sign = ['+'] ∨ sign = ['-']) ∧
    Digits ds ∧ cs = e :: (sign ++ ds)

/-- what is left of an exponent without its sign -/
def afterSign : List Char → List Char
  | '+' :: cs => cs
  | '-' :: cs => cs
  | cs => cs

lemma exists_sign (cs : List Char) :
    ∃ sign, (sign = [] ∨ sign = ['+'] ∨ sign = ['-']) ∧ cs = sign ++ afterSign cs := by
  unfold afterSign
  split
  · exact ⟨['+'], .inr (.inl rfl), rfl⟩
  · exact ⟨['-'], .inr (.inr rfl), rfl⟩
  · exact ⟨[], .inl rfl, rfl⟩

lemma afterSign_append {sign ds : List Char} (signed : sign = [] ∨ sign = ['+'] ∨ sign = ['-'])
    (digits : Digits ds) (rest : List Char) : afterSign (sign ++ ds ++ rest) = ds ++ rest := by
  rcases signed with rfl | rfl | rfl
  · obtain ⟨d, ds, rfl⟩ := List.exists_cons_of_ne_nil digits.some_
    have digit := digits.all d List.mem_cons_self
    unfold afterSign
    split
    · next plus =>
      obtain rfl := (List.cons.inj plus).1
      exact absurd digit (by decide)
    · next minus =>
      obtain rfl := (List.cons.inj minus).1
      exact absurd digit (by decide)
    · rfl
  · rfl
  · rfl

lemma exponent?_cons (e : Char) (cs : List Char) : exponent? (e :: cs) =
    if e = 'e' ∨ e = 'E' then (digits? (afterSign cs)).map fun (_, rest) => (true, rest)
    else some (false, e :: cs) := rfl

lemma exponent?_eq_some_iff {cs rest : List Char} {scaled : Bool} :
    exponent? cs = some (scaled, rest) ↔ ∃ part, Exponent part ∧ cs = part ++ rest ∧
      (part = [] → rest.head? ≠ some 'e' ∧ rest.head? ≠ some 'E') ∧
      (part ≠ [] → NoDigit rest) ∧ scaled = !part.isEmpty := by
  constructor
  · intro read
    cases cs with
    | nil =>
      obtain ⟨rfl, rfl⟩ := Prod.mk.inj (Option.some.inj read)
      exact ⟨[], .inl rfl, by simp⟩
    | cons e tail =>
      rw [exponent?_cons] at read
      split at read
      · next letter =>
        simp only [Option.map_eq_some_iff, Prod.exists, digits?_eq_some_iff, Prod.mk.injEq] at read
        obtain ⟨ds, _, ⟨spelled, digits, ended⟩, rfl, rfl⟩ := read
        obtain ⟨sign, signed, whole⟩ := exists_sign tail
        refine ⟨e :: (sign ++ ds), .inr ⟨e, sign, ds, letter, signed, digits, rfl⟩, ?_, by simp,
          fun _ => ended, rfl⟩
        rw [whole, spelled, List.cons_append, List.append_assoc]
      · next no_letter =>
        obtain ⟨rfl, rfl⟩ := Prod.mk.inj (Option.some.inj read)
        exact ⟨[], .inl rfl, by simpa using no_letter⟩
  · rintro ⟨part, rfl | ⟨e, sign, ds, letter, signed, digits, rfl⟩, rfl, no_letter, ended, rfl⟩
    · cases cs with
      | nil => rfl
      | cons e tail =>
        rw [exponent?_cons, if_neg (by simpa using no_letter)]
        rfl
    · rw [List.cons_append, exponent?_cons, if_pos letter, afterSign_append signed digits,
        digits?_eq_some_iff.2 ⟨rfl, digits, ended (by simp)⟩]
      rfl

/-- what may follow a number: no character that would belong to it -/
structure Ends (cs : List Char) : Prop where
  no_digit : NoDigit cs
  no_point : cs.head? ≠ some '.'
  no_exponent : cs.head? ≠ some 'e' ∧ cs.head? ≠ some 'E'

/-- the characters that spell a number, which is natural if it has none but digits -/
def SpellsNumber (n : Option Nat) (cs : List Char) : Prop :=
  ∃ sign ds cut scale, cs = sign ++ ds ++ cut ++ scale ∧ (sign = [] ∨ sign = ['-']) ∧ Whole ds ∧
    Fraction cut ∧ Exponent scale ∧
    n = if sign = [] ∧ cut = [] ∧ scale = [] then some (Nat.ofDigitChars 10 ds 0) else none

lemma Ends.exponent {scale rest : List Char} (ended : Ends rest) (exponent : Exponent scale) :
    NoDigit (scale ++ rest) ∧ (scale ++ rest).head? ≠ some '.' := by
  rcases exponent with rfl | ⟨e, sign, ds, letter, -, -, rfl⟩
  · exact ⟨ended.no_digit, ended.no_point⟩
  · refine ⟨fun c first => ?_, ?_⟩
    · obtain rfl := Option.some.inj first
      rcases letter with rfl | rfl <;> decide
    · rcases letter with rfl | rfl <;> simp

lemma NoDigit.fraction {cut rest : List Char} (ended : NoDigit rest) (fraction : Fraction cut) :
    NoDigit (cut ++ rest) := by
  rcases fraction with rfl | ⟨ds, -, rfl⟩
  · exact ended
  · intro c first
    obtain rfl := Option.some.inj first
    decide

lemma unsigned?_of {ds cut scale rest : List Char} (whole : Whole ds) (fraction : Fraction cut)
    (exponent : Exponent scale) (ended : Ends rest) :
    unsigned? (ds ++ cut ++ scale ++ rest) = some
      (if cut = [] ∧ scale = [] then some (Nat.ofDigitChars 10 ds 0) else none, rest) := by
  obtain ⟨no_digit, no_point⟩ := ended.exponent exponent
  have first : whole? (ds ++ cut ++ scale ++ rest) =
      some (Nat.ofDigitChars 10 ds 0, cut ++ scale ++ rest) :=
    whole?_eq_some_iff.2 ⟨ds, by simp, whole, by simpa using no_digit.fraction fraction, rfl⟩
  have second : fraction? (cut ++ scale ++ rest) = some (!cut.isEmpty, scale ++ rest) :=
    fraction?_eq_some_iff.2
      ⟨cut, fraction, by simp, fun _ => no_point, fun _ => no_digit, rfl⟩
  have third : exponent? (scale ++ rest) = some (!scale.isEmpty, rest) :=
    exponent?_eq_some_iff.2
      ⟨scale, exponent, rfl, fun _ => ended.no_exponent, fun _ => ended.no_digit, rfl⟩
  simp only [unsigned?, first, second, third, Option.bind_eq_bind, Option.bind_some,
    Option.pure_def]
  cases cut <;> cases scale <;> simp

lemma exists_of_unsigned? {cs rest : List Char} {n : Option Nat}
    (read : unsigned? cs = some (n, rest)) :
    ∃ ds cut scale, cs = ds ++ cut ++ scale ++ rest ∧ Whole ds ∧ Fraction cut ∧ Exponent scale ∧
      n = if cut = [] ∧ scale = [] then some (Nat.ofDigitChars 10 ds 0) else none := by
  simp only [unsigned?, Option.bind_eq_bind, Option.bind_eq_some_iff, Prod.exists,
    whole?_eq_some_iff, fraction?_eq_some_iff, exponent?_eq_some_iff, Option.pure_def,
    Option.some.injEq, Prod.mk.injEq] at read
  obtain ⟨_, _, ⟨ds, rfl, whole, -, rfl⟩, _, _, ⟨cut, fraction, rfl, -, -, rfl⟩, _, _,
    ⟨scale, exponent, rfl, -, -, rfl⟩, rfl, rfl⟩ := read
  refine ⟨ds, cut, scale, by simp, whole, fraction, exponent, ?_⟩
  cases cut <;> cases scale <;> simp

/-! ### Values -/

/-- a part of a JSON text -/
inductive Phrase where
  /-- a value, without blanks around it -/
  | value (j : Json)
  /-- a value and the blanks around it -/
  | padded (j : Json)
  /-- the items of an array, at least one -/
  | items (items : List Json)
  /-- one field of an object -/
  | field (key : Option String) (j : Json)
  /-- the fields of an object, at least one -/
  | fields (fields : List (Option String × Json))

/-- **The grammar of JSON**: the characters that spell a phrase. -/
inductive Spells : Phrase → List Char → Prop
  | null : Spells (.value .null) ['n', 'u', 'l', 'l']
  | yes : Spells (.value (.bool true)) ['t', 'r', 'u', 'e']
  | no : Spells (.value (.bool false)) ['f', 'a', 'l', 's', 'e']
  | number {n : Option Nat} {cs : List Char} (number : SpellsNumber n cs) :
      Spells (.value (.number n)) cs
  | string {s : Option String} {cs : List Char} (string : SpellsString s cs) :
      Spells (.value (.string s)) cs
  | emptyArray {blanks : List Char} (blank : Blank blanks) :
      Spells (.value (.array [])) ('[' :: (blanks ++ [']']))
  | array {js : List Json} {cs : List Char} (items : Spells (.items js) cs) :
      Spells (.value (.array js)) ('[' :: (cs ++ [']']))
  | emptyObject {blanks : List Char} (blank : Blank blanks) :
      Spells (.value (.object [])) ('\x7b' :: (blanks ++ ['\x7d']))
  | object {fs : List (Option String × Json)} {cs : List Char} (fields : Spells (.fields fs) cs) :
      Spells (.value (.object fs)) ('\x7b' :: (cs ++ ['\x7d']))
  | padded {j : Json} {before cs after : List Char} (left : Blank before)
      (value : Spells (.value j) cs) (right : Blank after) :
      Spells (.padded j) (before ++ cs ++ after)
  | item {j : Json} {cs : List Char} (last : Spells (.padded j) cs) : Spells (.items [j]) cs
  | items {j : Json} {js : List Json} {cs ds : List Char} (first : Spells (.padded j) cs)
      (others : Spells (.items js) ds) : Spells (.items (j :: js)) (cs ++ ',' :: ds)
  | field {key : Option String} {j : Json} {before ks after cs : List Char} (left : Blank before)
      (name : SpellsString key ks) (right : Blank after) (value : Spells (.padded j) cs) :
      Spells (.field key j) (before ++ ks ++ after ++ ':' :: cs)
  | lastField {key : Option String} {j : Json} {cs : List Char} (last : Spells (.field key j) cs) :
      Spells (.fields [(key, j)]) cs
  | fields {key : Option String} {j : Json} {fs : List (Option String × Json)} {cs ds : List Char}
      (first : Spells (.field key j) cs) (others : Spells (.fields fs) ds) :
      Spells (.fields ((key, j) :: fs)) (cs ++ ',' :: ds)

/-- what one call for a value takes, the blanks before it apart -/
inductive TakesValue (fuel : Nat) : List Char → Json → List Char → Prop
  | null {rest : List Char} : TakesValue fuel ('n' :: 'u' :: 'l' :: 'l' :: rest) .null rest
  | yes {rest : List Char} : TakesValue fuel ('t' :: 'r' :: 'u' :: 'e' :: rest) (.bool true) rest
  | no {rest : List Char} :
      TakesValue fuel ('f' :: 'a' :: 'l' :: 's' :: 'e' :: rest) (.bool false) rest
  | string {cs rest : List Char} {s : Option String} (read : string? cs = some (s, rest)) :
      TakesValue fuel ('\x22' :: cs) (.string s) rest
  | negative {cs rest : List Char} {n : Option Nat} (read : unsigned? cs = some (n, rest)) :
      TakesValue fuel ('-' :: cs) (.number none) rest
  | emptyArray {cs rest : List Char} (closed : skipSpace cs = ']' :: rest) :
      TakesValue fuel ('[' :: cs) (.array []) rest
  | array {cs rest : List Char} {js : List Json} (opened : (skipSpace cs).head? ≠ some ']')
      (read : items? fuel (skipSpace cs) = some (js, rest)) :
      TakesValue fuel ('[' :: cs) (.array js) rest
  | emptyObject {cs rest : List Char} (closed : skipSpace cs = '\x7d' :: rest) :
      TakesValue fuel ('\x7b' :: cs) (.object []) rest
  | object {cs rest : List Char} {fs : List (Option String × Json)}
      (opened : (skipSpace cs).head? ≠ some '\x7d')
      (read : fields? fuel (skipSpace cs) = some (fs, rest)) :
      TakesValue fuel ('\x7b' :: cs) (.object fs) rest
  | number {cs rest : List Char} {n : Option Nat} (read : unsigned? cs = some (n, rest)) :
      TakesValue fuel cs (.number n) rest

lemma exists_digit_of_unsigned? {cs rest : List Char} {n : Option Nat}
    (read : unsigned? cs = some (n, rest)) : ∃ d ds, cs = d :: ds ∧ d.isDigit := by
  obtain ⟨ds, cut, scale, rfl, whole, -⟩ := exists_of_unsigned? read
  obtain ⟨d, ds, rfl⟩ := List.exists_cons_of_ne_nil whole.digits.some_
  exact ⟨d, _, rfl, whole.digits.all d List.mem_cons_self⟩

lemma takesValue_of_read {fuel : Nat} {cs rest : List Char} {j : Json}
    (read : value? (fuel + 1) cs = some (j, rest)) : TakesValue fuel (skipSpace cs) j rest := by
  rw [value?] at read
  split at read
  · next spelled =>
    obtain ⟨rfl, rfl⟩ := Prod.mk.inj (Option.some.inj read)
    rw [spelled]
    exact .null
  · next spelled =>
    obtain ⟨rfl, rfl⟩ := Prod.mk.inj (Option.some.inj read)
    rw [spelled]
    exact .yes
  · next spelled =>
    obtain ⟨rfl, rfl⟩ := Prod.mk.inj (Option.some.inj read)
    rw [spelled]
    exact .no
  · next spelled =>
    obtain ⟨⟨s, _⟩, taken, same⟩ := Option.map_eq_some_iff.1 read
    obtain ⟨rfl, rfl⟩ := Prod.mk.inj same
    rw [spelled]
    exact .string taken
  · next spelled =>
    obtain ⟨⟨n, _⟩, taken, same⟩ := Option.map_eq_some_iff.1 read
    obtain ⟨rfl, rfl⟩ := Prod.mk.inj same
    rw [spelled]
    exact .negative taken
  · next spelled =>
    rw [spelled]
    split at read
    · next closed =>
      obtain ⟨rfl, rfl⟩ := Prod.mk.inj (Option.some.inj read)
      exact .emptyArray closed
    · next opened =>
      obtain ⟨⟨js, _⟩, taken, same⟩ := Option.map_eq_some_iff.1 read
      obtain ⟨rfl, rfl⟩ := Prod.mk.inj same
      refine .array (fun closed => ?_) taken
      obtain ⟨tail, closed⟩ := List.head?_eq_some_iff.1 closed
      exact opened tail closed
  · next spelled =>
    rw [spelled]
    split at read
    · next closed =>
      obtain ⟨rfl, rfl⟩ := Prod.mk.inj (Option.some.inj read)
      exact .emptyObject closed
    · next opened =>
      obtain ⟨⟨js, _⟩, taken, same⟩ := Option.map_eq_some_iff.1 read
      obtain ⟨rfl, rfl⟩ := Prod.mk.inj same
      refine .object (fun closed => ?_) taken
      obtain ⟨tail, closed⟩ := List.head?_eq_some_iff.1 closed
      exact opened tail closed
  · obtain ⟨⟨n, _⟩, taken, same⟩ := Option.map_eq_some_iff.1 read
    obtain ⟨rfl, rfl⟩ := Prod.mk.inj same
    exact .number taken

lemma TakesValue.read {fuel : Nat} {cs rest : List Char} {j : Json}
    (takes : TakesValue fuel (skipSpace cs) j rest) : value? (fuel + 1) cs = some (j, rest) := by
  rw [value?]
  generalize skipSpace cs = cs' at takes
  cases takes with
  | null | yes | no => rfl
  | string read => simp only [read, Option.map_some]
  | negative read => simp only [read, Option.map_some]
  | emptyArray closed => simp only [closed]
  | array opened read =>
    simp only
    split
    · next closed => simp [closed] at opened
    · rw [read, Option.map_some]
  | emptyObject closed => simp only [closed]
  | object opened read =>
    simp only
    split
    · next closed => simp [closed] at opened
    · rw [read, Option.map_some]
  | number read =>
    obtain ⟨d, ds, rfl, digit⟩ := exists_digit_of_unsigned? read
    split
    all_goals try
      next same =>
        obtain rfl := (List.cons.inj same).1
        exact absurd digit (by decide)
    rw [read, Option.map_some]

lemma items?_succ_eq_some_iff {fuel : Nat} {cs rest : List Char} {js : List Json} :
    items? (fuel + 1) cs = some (js, rest) ↔ ∃ j tail, value? fuel cs = some (j, tail) ∧
      (skipSpace tail = ']' :: rest ∧ js = [j] ∨
        ∃ tail' others, skipSpace tail = ',' :: tail' ∧ items? fuel tail' = some (others, rest) ∧
          js = j :: others) := by
  rw [items?]
  simp only [Option.bind_eq_bind, Option.bind_eq_some_iff, Prod.exists]
  refine exists_congr fun j => exists_congr fun tail => and_congr_right fun _ => ?_
  constructor
  · intro read
    split at read
    · next tail' comma =>
      simp only [Option.bind_eq_some_iff, Prod.exists, Option.pure_def, Option.some.injEq,
        Prod.mk.injEq] at read
      obtain ⟨others, _, read, rfl, rfl⟩ := read
      exact .inr ⟨tail', others, comma, read, rfl⟩
    · next closed =>
      obtain ⟨rfl, rfl⟩ := Prod.mk.inj (Option.some.inj read)
      exact .inl ⟨closed, rfl⟩
    · cases read
  · rintro (⟨closed, rfl⟩ | ⟨tail', others, comma, read, rfl⟩)
    · rw [closed]
      rfl
    · rw [comma]
      simp only [read, Option.bind_some, Option.pure_def]

lemma fields?_succ_eq_some_iff {fuel : Nat} {cs rest : List Char}
    {fs : List (Option String × Json)} :
    fields? (fuel + 1) cs = some (fs, rest) ↔
      ∃ tail key tail' tail'' j tail₃, skipSpace cs = '\x22' :: tail ∧
        string? tail = some (key, tail') ∧ skipSpace tail' = ':' :: tail'' ∧
        value? fuel tail'' = some (j, tail₃) ∧
      (skipSpace tail₃ = '\x7d' :: rest ∧ fs = [(key, j)] ∨
        ∃ tail₄ others, skipSpace tail₃ = ',' :: tail₄ ∧ fields? fuel tail₄ = some (others, rest) ∧
          fs = (key, j) :: others) := by
  rw [fields?]
  constructor
  · intro read
    simp only [Option.bind_eq_bind] at read
    split at read
    · next tail quoted =>
      simp only [Option.bind_eq_some_iff, Prod.exists] at read
      obtain ⟨key, tail', named, read⟩ := read
      split at read
      · next tail'' colon =>
        simp only [Option.bind_eq_some_iff, Prod.exists] at read
        obtain ⟨j, tail₃, valued, read⟩ := read
        refine ⟨tail, key, tail', tail'', j, tail₃, quoted, named, colon, valued, ?_⟩
        split at read
        · next tail₄ comma =>
          simp only [Option.bind_eq_some_iff, Prod.exists, Option.pure_def, Option.some.injEq,
            Prod.mk.injEq] at read
          obtain ⟨others, _, read, rfl, rfl⟩ := read
          exact .inr ⟨tail₄, others, comma, read, rfl⟩
        · next closed =>
          obtain ⟨rfl, rfl⟩ := Prod.mk.inj (Option.some.inj read)
          exact .inl ⟨closed, rfl⟩
        · cases read
      · cases read
    · cases read
  · rintro ⟨tail, key, tail', tail'', j, tail₃, quoted, named, colon, valued, ends⟩
    simp only [quoted, named, colon, valued, Option.bind_eq_bind, Option.bind_some]
    rcases ends with ⟨closed, rfl⟩ | ⟨tail₄, others, comma, read, rfl⟩
    · rw [closed]
      rfl
    · rw [comma]
      simp only [read, Option.bind_some, Option.pure_def]

/-! ### Blanks in front -/

lemma skipSpace_skipSpace (cs : List Char) : skipSpace (skipSpace cs) = skipSpace cs :=
  List.dropWhile_idempotent isSpace cs

lemma value?_skipSpace (fuel : Nat) (cs : List Char) :
    value? fuel (skipSpace cs) = value? fuel cs := by
  cases fuel with
  | zero => rfl
  | succ fuel => rw [value?, skipSpace_skipSpace, value?]

lemma items?_skipSpace (fuel : Nat) (cs : List Char) :
    items? fuel (skipSpace cs) = items? fuel cs := by
  cases fuel with
  | zero => rfl
  | succ fuel => rw [items?, value?_skipSpace, items?]

lemma fields?_skipSpace (fuel : Nat) (cs : List Char) :
    fields? fuel (skipSpace cs) = fields? fuel cs := by
  cases fuel with
  | zero => rfl
  | succ fuel => rw [fields?, skipSpace_skipSpace, fields?]

/-! ### What is read is spelled -/

/-- whatever is read as a value is spelled, with blanks before it -/
def ValuesSpelled (fuel : Nat) : Prop := ∀ cs rest j, value? fuel cs = some (j, rest) →
  ∃ before body, cs = before ++ body ++ rest ∧ Blank before ∧ Spells (.value j) body

/-- whatever is read as items is spelled, with a bracket after it -/
def ItemsSpelled (fuel : Nat) : Prop := ∀ cs rest js, items? fuel cs = some (js, rest) →
  ∃ body, cs = body ++ ']' :: rest ∧ Spells (.items js) body

/-- whatever is read as fields is spelled, with a brace after it -/
def FieldsSpelled (fuel : Nat) : Prop := ∀ cs rest fs, fields? fuel cs = some (fs, rest) →
  ∃ body, cs = body ++ '\x7d' :: rest ∧ Spells (.fields fs) body

section Spelled

variable {fuel : Nat} {cs rest : List Char}

lemma TakesValue.spelled (itemses : ItemsSpelled fuel) (fieldses : FieldsSpelled fuel) {j : Json}
    (taken : TakesValue fuel cs j rest) : ∃ body, cs = body ++ rest ∧ Spells (.value j) body := by
  cases taken with
  | null => exact ⟨_, rfl, .null⟩
  | yes => exact ⟨_, rfl, .yes⟩
  | no => exact ⟨_, rfl, .no⟩
  | string read =>
    obtain ⟨body, spelled, string⟩ := string?_eq_some_iff.1 read
    exact ⟨body, spelled, .string string⟩
  | negative read =>
    obtain ⟨ds, cut, scale, rfl, whole, fraction, exponent, -⟩ := exists_of_unsigned? read
    exact ⟨'-' :: (ds ++ cut ++ scale), rfl, .number
      ⟨['-'], ds, cut, scale, rfl, .inr rfl, whole, fraction, exponent, by simp⟩⟩
  | number read =>
    obtain ⟨ds, cut, scale, rfl, whole, fraction, exponent, rfl⟩ := exists_of_unsigned? read
    exact ⟨ds ++ cut ++ scale, rfl, .number
      ⟨[], ds, cut, scale, rfl, .inl rfl, whole, fraction, exponent, by simp⟩⟩
  | @emptyArray tail _ closed =>
    obtain ⟨blanks, blank, whole⟩ := exists_blank tail
    exact ⟨'[' :: (blanks ++ [']']), by rw [whole, closed]; simp, .emptyArray blank⟩
  | array _ read =>
    rw [items?_skipSpace] at read
    obtain ⟨body, rfl, items⟩ := itemses _ _ _ read
    exact ⟨'[' :: (body ++ [']']), by simp, .array items⟩
  | @emptyObject tail _ closed =>
    obtain ⟨blanks, blank, whole⟩ := exists_blank tail
    exact ⟨'\x7b' :: (blanks ++ ['\x7d']), by rw [whole, closed]; simp, .emptyObject blank⟩
  | object _ read =>
    rw [fields?_skipSpace] at read
    obtain ⟨body, rfl, fields⟩ := fieldses _ _ _ read
    exact ⟨'\x7b' :: (body ++ ['\x7d']), by simp, .object fields⟩

lemma valuesSpelled_succ (itemses : ItemsSpelled fuel) (fieldses : FieldsSpelled fuel) :
    ValuesSpelled (fuel + 1) := by
  intro cs rest j read
  obtain ⟨before, blank, whole⟩ := exists_blank cs
  obtain ⟨body, spelled, value⟩ := (takesValue_of_read read).spelled itemses fieldses
  exact ⟨before, body, by rw [List.append_assoc, ← spelled, ← whole], blank, value⟩

lemma itemsSpelled_succ (values : ValuesSpelled fuel) (itemses : ItemsSpelled fuel) :
    ItemsSpelled (fuel + 1) := by
  intro cs rest js read
  obtain ⟨j, tail, valued, ends⟩ := items?_succ_eq_some_iff.1 read
  obtain ⟨before, body, rfl, left, value⟩ := values _ _ _ valued
  obtain ⟨after, right, whole⟩ := exists_blank tail
  have padded := Spells.padded left value right
  rw [whole]
  rcases ends with ⟨closed, rfl⟩ | ⟨tail', others, comma, more, rfl⟩
  · exact ⟨_, by rw [closed]; simp, .item padded⟩
  · obtain ⟨body', rfl, items⟩ := itemses _ _ _ more
    exact ⟨_, by rw [comma]; simp, .items padded items⟩

lemma fieldsSpelled_succ (values : ValuesSpelled fuel) (fieldses : FieldsSpelled fuel) :
    FieldsSpelled (fuel + 1) := by
  intro cs rest fs read
  obtain ⟨tail, key, tail', tail'', j, tail₃, quoted, named, colon, valued, ends⟩ :=
    fields?_succ_eq_some_iff.1 read
  obtain ⟨before, left, whole⟩ := exists_blank cs
  obtain ⟨ks, spelled, name⟩ := string?_eq_some_iff.1 named
  obtain ⟨between, middle, whole'⟩ := exists_blank tail'
  obtain ⟨before', body, rfl, left', value⟩ := values _ _ _ valued
  obtain ⟨after, right, whole₃⟩ := exists_blank tail₃
  have field := Spells.field left name middle (.padded left' value right)
  have start : cs = before ++ ks ++ between ++ ':' :: (before' ++ body ++ after) ++
      skipSpace tail₃ := by
    have colon := whole'.trans (congrArg _ colon)
    rw [whole, quoted, spelled, colon]
    simp [← whole₃]
  rcases ends with ⟨closed, rfl⟩ | ⟨tail₄, others, comma, more, rfl⟩
  · exact ⟨_, by rw [start, closed], .lastField field⟩
  · obtain ⟨body', rfl, fields⟩ := fieldses _ _ _ more
    exact ⟨_, by rw [start, comma]; simp, .fields field fields⟩

/-- **Whatever is read is spelled by the characters that are taken.** -/
theorem spells_of_read (fuel : Nat) :
    ValuesSpelled fuel ∧ ItemsSpelled fuel ∧ FieldsSpelled fuel := by
  induction fuel with
  | zero =>
    refine ⟨fun _ _ _ read => ?_, fun _ _ _ read => ?_, fun _ _ _ read => ?_⟩ <;> cases read
  | succ fuel ih =>
    obtain ⟨values, itemses, fieldses⟩ := ih
    exact ⟨valuesSpelled_succ itemses fieldses, itemsSpelled_succ values itemses,
      fieldsSpelled_succ values fieldses⟩

end Spelled

/-! ### What is spelled is read -/

lemma isSpace_iff {c : Char} : isSpace c ↔ c = ' ' ∨ c = '\n' ∨ c = '\t' ∨ c = '\x0d' := by
  simp [isSpace, or_assoc]

lemma Spells.value_starts {j : Json} {cs : List Char} (spelled : Spells (.value j) cs) :
    ∃ c tail, cs = c :: tail ∧ isSpace c = false ∧ c ≠ ']' := by
  cases spelled with
  | null | yes | no | emptyArray | array | emptyObject | object => exact ⟨_, _, rfl, by decide⟩
  | number number =>
    obtain ⟨sign, ds, cut, scale, rfl, rfl | rfl, whole, -⟩ := number
    · obtain ⟨d, ds, rfl⟩ := List.exists_cons_of_ne_nil whole.digits.some_
      have digit := whole.digits.all d List.mem_cons_self
      refine ⟨d, _, rfl, Bool.eq_false_iff.2 fun space => ?_, ?_⟩
      · rcases isSpace_iff.1 space with rfl | rfl | rfl | rfl <;> exact absurd digit (by decide)
      · rintro rfl
        exact absurd digit (by decide)
    · exact ⟨'-', _, rfl, by decide⟩
  | string string =>
    obtain ⟨ps, body, rfl, -⟩ := string
    exact ⟨_, _, rfl, by decide⟩

lemma Spells.padded_starts {j : Json} {cs : List Char} (spelled : Spells (.padded j) cs)
    (rest : List Char) : (skipSpace (cs ++ rest)).head? ≠ some ']' := by
  cases spelled with
  | padded left value right =>
    obtain ⟨c, tail, rfl, solid, no_bracket⟩ := value.value_starts
    rw [List.append_assoc, List.append_assoc, skipSpace_append left, List.cons_append,
      skipSpace_cons solid, List.head?_cons]
    exact fun same => no_bracket (Option.some.inj same)

lemma Spells.items_start {js : List Json} {cs : List Char} (spelled : Spells (.items js) cs)
    (rest : List Char) : (skipSpace (cs ++ rest)).head? ≠ some ']' := by
  cases spelled with
  | item last => exact last.padded_starts rest
  | items first _ =>
    rw [List.append_assoc]
    exact first.padded_starts _

lemma Spells.field_starts {key : Option String} {j : Json} {cs : List Char}
    (spelled : Spells (.field key j) cs) (rest : List Char) :
    (skipSpace (cs ++ rest)).head? ≠ some '\x7d' := by
  cases spelled with
  | field left name _ _ =>
    obtain ⟨ps, body, rfl, -⟩ := name
    simp only [List.append_assoc, List.cons_append]
    rw [skipSpace_append left, skipSpace_cons (by decide)]
    simp

lemma Spells.fields_start {fs : List (Option String × Json)} {cs : List Char}
    (spelled : Spells (.fields fs) cs) (rest : List Char) :
    (skipSpace (cs ++ rest)).head? ≠ some '\x7d' := by
  cases spelled with
  | lastField last => exact last.field_starts rest
  | fields first _ =>
    rw [List.append_assoc]
    exact first.field_starts _

/-- where a value with blanks around it may end: at a comma or a closing bracket -/
def Mark (c : Char) : Prop := c = ',' ∨ c = ']' ∨ c = '\x7d'

lemma ends_of_front {cs : List Char} (front : ∀ c, cs.head? = some c → isSpace c ∨ Mark c) :
    Ends cs := by
  have unlike (c : Char) (first : cs.head? = some c) :
      c.isDigit = false ∧ c ≠ '.' ∧ c ≠ 'e' ∧ c ≠ 'E' := by
    rcases front c first with space | rfl | rfl | rfl
    · rcases isSpace_iff.1 space with rfl | rfl | rfl | rfl <;> decide
    · decide
    · decide
    · decide
  exact ⟨fun c first => (unlike c first).1, fun first => (unlike _ first).2.1 rfl,
    fun first => (unlike _ first).2.2.1 rfl, fun first => (unlike _ first).2.2.2 rfl⟩

lemma Blank.ends {after : List Char} (blank : Blank after) : Ends after :=
  ends_of_front fun _ first => .inl (blank _ (List.mem_of_head? first))

lemma Blank.ends_mark {after : List Char} (blank : Blank after) {c : Char} (mark : Mark c)
    (rest : List Char) : Ends (after ++ c :: rest) := by
  refine ends_of_front fun d first => ?_
  cases after with
  | nil => exact .inr (Option.some.inj first ▸ mark)
  | cons a after => exact .inl (Option.some.inj first ▸ blank a List.mem_cons_self)

/-- what the reader does where a phrase is spelled -/
def Reads : Phrase → List Char → Prop
  | .value j, cs => ∀ fuel before rest, 2 * cs.length ≤ fuel → Blank before → Ends rest →
      value? fuel (before ++ cs ++ rest) = some (j, rest)
  | .padded j, cs => ∀ fuel c rest, 2 * cs.length ≤ fuel → Mark c →
      ∃ after, Blank after ∧ value? fuel (cs ++ c :: rest) = some (j, after ++ c :: rest)
  | .items js, cs => ∀ fuel rest, 2 * cs.length + 1 ≤ fuel →
      items? fuel (cs ++ ']' :: rest) = some (js, rest)
  | .field key j, cs => ∀ fuel c rest, 2 * cs.length ≤ fuel → Mark c →
      ∃ tail tail' tail'' after, skipSpace (cs ++ c :: rest) = '\x22' :: tail ∧
        string? tail = some (key, tail') ∧ skipSpace tail' = ':' :: tail'' ∧ Blank after ∧
        value? fuel tail'' = some (j, after ++ c :: rest)
  | .fields fs, cs => ∀ fuel rest, 2 * cs.length + 1 ≤ fuel →
      fields? fuel (cs ++ '\x7d' :: rest) = some (fs, rest)

lemma Spells.reads_value {j : Json} {cs : List Char} (spelled : Spells (.value j) cs)
    (takes : ∀ fuel rest, 2 * cs.length ≤ fuel + 1 → Ends rest →
      TakesValue fuel (cs ++ rest) j rest) :
    Reads (.value j) cs := by
  intro fuel before rest enough blank ended
  obtain ⟨c, tail, rfl, solid, -⟩ := spelled.value_starts
  cases fuel with
  | zero => simp at enough
  | succ fuel =>
    refine TakesValue.read ?_
    rw [List.append_assoc, skipSpace_append blank, List.cons_append, skipSpace_cons solid]
    exact takes fuel rest enough ended

section Reads

variable {j : Json} {js : List Json} {key : Option String} {fs : List (Option String × Json)}
  {before after cs ds ks : List Char}

lemma reads_number {n : Option Nat} (number : SpellsNumber n cs) :
    Reads (.value (.number n)) cs := by
  refine (Spells.number number).reads_value fun fuel rest _ ended => ?_
  obtain ⟨sign, ds, cut, scale, rfl, rfl | rfl, whole, fraction, exponent, rfl⟩ := number
  · have read := unsigned?_of whole fraction exponent ended
    exact .number (by simpa using read)
  · have read := unsigned?_of whole fraction exponent ended
    simp only [List.cons_ne_nil, false_and, if_false]
    exact .negative (by simpa using read)

lemma reads_string {s : Option String} (string : SpellsString s cs) :
    Reads (.value (.string s)) cs := by
  refine (Spells.string string).reads_value fun fuel rest _ _ => ?_
  obtain ⟨ps, body, rfl, spelled, rfl⟩ := string
  exact .string (string?_eq_some_iff.2 ⟨_, rfl, ps, body, rfl, spelled, rfl⟩)

lemma reads_emptyArray (blank : Blank cs) : Reads (.value (.array [])) ('[' :: (cs ++ [']'])) := by
  refine (Spells.emptyArray blank).reads_value fun fuel rest _ _ => ?_
  rw [List.cons_append, List.append_assoc]
  refine .emptyArray ?_
  rw [skipSpace_append blank]
  exact skipSpace_cons (by decide) rest

lemma reads_emptyObject (blank : Blank cs) :
    Reads (.value (.object [])) ('\x7b' :: (cs ++ ['\x7d'])) := by
  refine (Spells.emptyObject blank).reads_value fun fuel rest _ _ => ?_
  rw [List.cons_append, List.append_assoc]
  refine .emptyObject ?_
  rw [skipSpace_append blank]
  exact skipSpace_cons (by decide) rest

lemma Reads.array (items : Spells (.items js) cs) (inside : Reads (.items js) cs) :
    Reads (.value (.array js)) ('[' :: (cs ++ [']'])) := by
  refine (Spells.array items).reads_value fun fuel rest enough _ => ?_
  simp only [List.length_cons, List.length_append, List.length_nil] at enough
  rw [List.cons_append, List.append_assoc]
  refine .array (items.items_start _) ?_
  rw [items?_skipSpace]
  exact inside fuel rest (by omega)

lemma Reads.object (fields : Spells (.fields fs) cs) (inside : Reads (.fields fs) cs) :
    Reads (.value (.object fs)) ('\x7b' :: (cs ++ ['\x7d'])) := by
  refine (Spells.object fields).reads_value fun fuel rest enough _ => ?_
  simp only [List.length_cons, List.length_append, List.length_nil] at enough
  rw [List.cons_append, List.append_assoc]
  refine .object (fields.fields_start _) ?_
  rw [fields?_skipSpace]
  exact inside fuel rest (by omega)

lemma Reads.padded (left : Blank before) (value : Reads (.value j) cs) (right : Blank after) :
    Reads (.padded j) (before ++ cs ++ after) := by
  intro fuel c rest enough mark
  refine ⟨_, right, ?_⟩
  rw [List.append_assoc]
  refine value fuel _ _ ?_ left (right.ends_mark mark rest)
  simp at enough
  omega

lemma Reads.item (last : Reads (.padded j) cs) : Reads (.items [j]) cs := by
  intro fuel rest enough
  cases fuel with
  | zero => simp at enough
  | succ fuel =>
    obtain ⟨after, blank, read⟩ := last fuel ']' rest (by omega) (.inr (.inl rfl))
    refine items?_succ_eq_some_iff.2 ⟨_, _, read, .inl ⟨?_, rfl⟩⟩
    rw [skipSpace_append blank, skipSpace_cons (by decide)]

lemma Reads.items (first : Reads (.padded j) cs) (others : Reads (.items js) ds) :
    Reads (.items (j :: js)) (cs ++ ',' :: ds) := by
  intro fuel rest enough
  rw [List.append_assoc, List.cons_append]
  cases fuel with
  | zero => simp at enough
  | succ fuel =>
    simp at enough
    obtain ⟨after, blank, read⟩ := first fuel ',' _ (by omega) (.inl rfl)
    refine items?_succ_eq_some_iff.2
      ⟨_, _, read, .inr ⟨_, _, ?_, others fuel rest (by omega), rfl⟩⟩
    rw [skipSpace_append blank, skipSpace_cons (by decide)]

lemma Reads.field (left : Blank before) (name : SpellsString key ks) (right : Blank after)
    (value : Reads (.padded j) cs) :
    Reads (.field key j) (before ++ ks ++ after ++ ':' :: cs) := by
  intro fuel c rest enough mark
  simp at enough
  obtain ⟨blanks, blank, read⟩ := value fuel c rest (by omega) mark
  obtain ⟨ps, body, rfl, spelled, rfl⟩ := name
  have named (tail : List Char) :
      string? (body ++ '\x22' :: tail) = some ((joined? ps).map String.ofList, tail) :=
    string?_eq_some_iff.2 ⟨'\x22' :: (body ++ ['\x22']), by simp, ps, body, rfl, spelled, rfl⟩
  refine ⟨_, _, _, blanks, ?_, named (after ++ ':' :: (cs ++ c :: rest)), ?_, blank, read⟩
  · simp only [List.append_assoc, List.cons_append, List.nil_append]
    rw [skipSpace_append left, skipSpace_cons (by decide)]
  · rw [skipSpace_append right, skipSpace_cons (by decide)]

lemma Reads.lastField (last : Reads (.field key j) cs) : Reads (.fields [(key, j)]) cs := by
  intro fuel rest enough
  cases fuel with
  | zero => simp at enough
  | succ fuel =>
    obtain ⟨tail, tail', tail'', after, quoted, named, colon, blank, read⟩ :=
      last fuel '\x7d' rest (by omega) (.inr (.inr rfl))
    refine fields?_succ_eq_some_iff.2
      ⟨_, _, _, _, _, _, quoted, named, colon, read, .inl ⟨?_, rfl⟩⟩
    rw [skipSpace_append blank, skipSpace_cons (by decide)]

lemma Reads.fields (first : Reads (.field key j) cs) (others : Reads (.fields fs) ds) :
    Reads (.fields ((key, j) :: fs)) (cs ++ ',' :: ds) := by
  intro fuel rest enough
  rw [List.append_assoc, List.cons_append]
  cases fuel with
  | zero => simp at enough
  | succ fuel =>
    simp at enough
    obtain ⟨tail, tail', tail'', after, quoted, named, colon, blank, read⟩ :=
      first fuel ',' _ (by omega) (.inl rfl)
    refine fields?_succ_eq_some_iff.2 ⟨_, _, _, _, _, _, quoted, named, colon, read,
      .inr ⟨_, _, ?_, others fuel rest (by omega), rfl⟩⟩
    rw [skipSpace_append blank, skipSpace_cons (by decide)]

end Reads

/-- **Whatever is spelled is read**, as long as there is fuel for twice its characters. -/
theorem Spells.reads {phrase : Phrase} {cs : List Char} (spelled : Spells phrase cs) :
    Reads phrase cs := by
  induction spelled with
  | null => exact Spells.null.reads_value fun _ _ _ _ => .null
  | yes => exact Spells.yes.reads_value fun _ _ _ _ => .yes
  | no => exact Spells.no.reads_value fun _ _ _ _ => .no
  | number number => exact reads_number number
  | string string => exact reads_string string
  | emptyArray blank => exact reads_emptyArray blank
  | array items ih => exact .array items ih
  | emptyObject blank => exact reads_emptyObject blank
  | object fields ih => exact .object fields ih
  | padded left _ right ih => exact .padded left ih right
  | item _ ih => exact .item ih
  | items _ _ ih ih' => exact .items ih ih'
  | field left name right _ ih => exact .field left name right ih
  | lastField _ ih => exact .lastField ih
  | fields _ _ ih ih' => exact .fields ih ih'

/-- **The reader is exact**: it gives a value for the texts that spell it, with blanks around them,
and for no others. -/
theorem ofChars?_eq_some_iff {cs : List Char} {j : Json} :
    ofChars? cs = some j ↔
      ∃ before body after, cs = before ++ body ++ after ∧ Blank before ∧ Blank after ∧
        Spells (.value j) body := by
  rw [ofChars?]
  simp only [Option.bind_eq_bind, Option.bind_eq_some_iff, Prod.exists]
  constructor
  · rintro ⟨_, rest, read, ended⟩
    split at ended
    · next empty =>
      obtain rfl := Option.some.inj ended
      obtain ⟨before, body, rfl, blank, spelled⟩ := (spells_of_read _).1 _ _ _ read
      refine ⟨before, body, rest, rfl, blank, ?_, spelled⟩
      exact List.dropWhile_eq_nil_iff.1 (List.isEmpty_iff.1 empty)
    · cases ended
  · rintro ⟨before, body, after, rfl, left, right, spelled⟩
    refine ⟨j, after, spelled.reads _ before after (by simp; omega) left right.ends, ?_⟩
    rw [if_pos]
    exact List.isEmpty_iff.2 (List.dropWhile_eq_nil_iff.2 right)

end ShardCluster.Json
