import Mathlib.Data.List.TakeWhile
import ShardCluster.Proofs.Literals
import ShardCluster.Proofs.RenderedSettings

/-!
# Connection strings read back

A reader for connection strings, by the rules for keywords and values: parameters stand between
spaces, an unquoted value runs to the next space, a backslash makes way for the character after it,
and a value that begins with a quote runs to the next quote. Whatever is read takes at least as much
text as it takes to write it (`extent_le`), and a value takes no more than that only if it is plain
(`plain_of_extent`). So a connection string, which names its database as it is, leads there exactly
if the name is plain (`leadsTo_reaching_iff`).
-/

namespace ShardCluster

namespace ConnectionString

/-! ### The rules for keywords and values -/

/-- the characters that stand between parameters: the white space of ASCII -/
def spaces : List Char := [' ', '\t', '\n', '\x0b', '\x0c', '\x0d']

def isSpace (c : Char) : Bool := c ∈ spaces

/-- the characters of a keyword -/
def inKeyword (c : Char) : Bool := c ≠ '=' && !isSpace c

/-- an unquoted value and what follows it: the value runs to the next space, and a backslash makes
way for the character after it -/
def scanPlain : List Char → List Char × List Char
  | [] => ([], [])
  | ['\x5c'] => ([], [])
  | '\x5c' :: c :: rest => (c :: (scanPlain rest).1, (scanPlain rest).2)
  | c :: rest =>
    if isSpace c then ([], c :: rest) else (c :: (scanPlain rest).1, (scanPlain rest).2)

/-- what an opened quoted value holds, and what follows the quote that closes it -/
def scanQuoted : List Char → Option (List Char × List Char)
  | [] => none
  | ['\x5c'] => none
  | '\x5c' :: c :: rest => (scanQuoted rest).map fun read => (c :: read.1, read.2)
  | '\x27' :: rest => some ([], rest)
  | c :: rest => (scanQuoted rest).map fun read => (c :: read.1, read.2)

/-- the value at the head of the characters, and what follows it -/
def scanValue : List Char → Option (List Char × List Char)
  | '\x27' :: rest => scanQuoted rest
  | cs => some (scanPlain cs)

/-- the keyword and the value at the head of the characters, and what follows them -/
def scanParameter (cs : List Char) : Option ((String × String) × List Char) :=
  match (cs.dropWhile inKeyword).dropWhile isSpace with
  | '=' :: after => (scanValue (after.dropWhile isSpace)).map fun read =>
    ((String.ofList (cs.takeWhile inKeyword), String.ofList read.1), read.2)
  | _ => none

/-! ### How much text a parameter takes -/

lemma length_scanPlain (cs : List Char) :
    (scanPlain cs).1.length + (scanPlain cs).2.length ≤ cs.length := by
  fun_induction scanPlain cs with
  | case1 => simp
  | case2 => simp
  | case3 c rest ih =>
    simp only [List.length_cons]
    omega
  | case4 c rest _ _ space => simp
  | case5 c rest _ _ _ ih =>
    simp only [List.length_cons]
    omega

lemma scanPlain_cons {c : Char} (notEscape : c ≠ '\x5c') (rest : List Char) :
    scanPlain (c :: rest)
      = if isSpace c then ([], c :: rest) else (c :: (scanPlain rest).1, (scanPlain rest).2) := by
  rw [scanPlain] <;> simp [notEscape]

lemma scanPlain_ends (cs : List Char) : ∀ c ∈ (scanPlain cs).2.head?, isSpace c = true := by
  fun_induction scanPlain cs <;> simp_all

lemma plain_of_length (cs : List Char)
    (whole : cs.length ≤ (scanPlain cs).1.length + (scanPlain cs).2.length) :
    cs = (scanPlain cs).1 ++ (scanPlain cs).2
      ∧ ∀ c ∈ (scanPlain cs).1, isSpace c = false ∧ c ≠ '\x5c' := by
  fun_induction scanPlain cs with
  | case1 => simp
  | case2 => simp at whole
  | case3 c rest ih =>
    have shorter := length_scanPlain rest
    simp only [List.length_cons] at whole
    omega
  | case4 c rest _ _ space => simp
  | case5 c rest last inner other ih =>
    have notEscape : c ≠ '\x5c' := by
      intro escape
      cases rest with
      | nil => exact last escape rfl
      | cons d rest => exact inner d rest escape rfl
    simp only [List.length_cons] at whole
    obtain ⟨written, characters⟩ := ih (by omega)
    rw [List.forall_mem_cons]
    exact ⟨congrArg (c :: ·) written, ⟨by simpa using other, notEscape⟩, characters⟩

lemma length_scanQuoted {cs : List Char} {read : List Char × List Char}
    (scanned : scanQuoted cs = some read) : read.1.length + read.2.length < cs.length := by
  fun_induction scanQuoted cs generalizing read with
  | case1 => cases scanned
  | case2 => cases scanned
  | case3 c rest ih =>
    obtain ⟨inner, found, rfl⟩ := Option.map_eq_some_iff.1 scanned
    have shorter := ih found
    simp only [List.length_cons]
    omega
  | case4 rest =>
    cases scanned
    simp
  | case5 c rest _ _ _ ih =>
    obtain ⟨inner, found, rfl⟩ := Option.map_eq_some_iff.1 scanned
    have shorter := ih found
    simp only [List.length_cons]
    omega

lemma scanValue_cases {cs : List Char} {read : List Char × List Char}
    (scanned : scanValue cs = some read) :
    cs.head? ≠ some '\x27' ∧ read = scanPlain cs
      ∨ read.1.length + read.2.length + 2 ≤ cs.length := by
  rw [scanValue.eq_def] at scanned
  split at scanned
  · have shorter := length_scanQuoted scanned
    right
    simp only [List.length_cons]
    omega
  · next unquoted =>
    cases scanned
    refine .inl ⟨fun quoted => ?_, rfl⟩
    obtain ⟨rest, rfl⟩ := List.head?_eq_some_iff.1 quoted
    exact unquoted rest rfl

lemma length_of_scanValue {cs : List Char} {read : List Char × List Char}
    (scanned : scanValue cs = some read) : read.1.length + read.2.length ≤ cs.length := by
  rcases scanValue_cases scanned with ⟨-, rfl⟩ | quoted
  · exact length_scanPlain cs
  · omega

/-- What a parameter is read from: its keyword, an equals sign and its value, with spaces around
the sign. -/
lemma scanParameter_eq_some {cs : List Char} {parameter : String × String} {rest : List Char}
    (scanned : scanParameter cs = some (parameter, rest)) :
    ∃ after, parameter.1.length + 1 + after.length ≤ cs.length
      ∧ (∀ c ∈ after.head?, isSpace c = false)
      ∧ scanValue after = some (parameter.2.toList, rest) := by
  rw [scanParameter] at scanned
  split at scanned
  · next after opened =>
    obtain ⟨read, value, same⟩ := Option.map_eq_some_iff.1 scanned
    cases same
    refine ⟨_, ?_, ?_, by rw [value, String.toList_ofList]⟩
    swap
    · intro c first
      have start := List.head?_dropWhile_not isSpace after
      rwa [first] at start
    have both := congrArg List.length (List.takeWhile_append_dropWhile (p := inKeyword) (l := cs))
    have skipped := (List.dropWhile_sublist (l := cs.dropWhile inKeyword) isSpace).length_le
    have skippedAfter := (List.dropWhile_sublist (l := after) isSpace).length_le
    simp only [opened, List.length_append, List.length_cons] at both skipped
    simp only [String.length_ofList]
    omega
  · cases scanned

lemma length_of_scanParameter {cs : List Char} {parameter : String × String} {rest : List Char}
    (scanned : scanParameter cs = some (parameter, rest)) : rest.length < cs.length := by
  obtain ⟨after, longer, -, value⟩ := scanParameter_eq_some scanned
  have shorter := length_of_scanValue value
  simp only at shorter
  omega

/-- the parameters of a text, up to its end -/
def readParameters (cs : List Char) : Option (List (String × String)) :=
  match _nonempty : cs.dropWhile isSpace with
  | [] => some []
  | c :: word =>
    match _scanned : scanParameter (c :: word) with
    | some (parameter, rest) => (readParameters rest).map (parameter :: ·)
    | none => none
termination_by cs.length
decreasing_by
  have shorter := length_of_scanParameter _scanned
  have skipped := (List.dropWhile_sublist (l := cs) isSpace).length_le
  rw [_nonempty] at skipped
  omega

/-- the parameters of a connection string, which ends at its first NUL for those who read it -/
def parameters? (c : ConnectionString) : Option (List (String × String)) :=
  readParameters (c.text.toList.takeWhile (· ≠ '\x00'))

lemma readParameters_eq (cs : List Char) :
    readParameters cs = if cs.dropWhile isSpace = [] then some []
      else (scanParameter (cs.dropWhile isSpace)).bind fun read =>
        (readParameters read.2).map (read.1 :: ·) := by
  rw [readParameters]
  split
  · next empty => rw [if_pos empty]
  · next c word opened =>
    rw [if_neg (by rw [opened]; exact List.cons_ne_nil _ _), opened]
    split
    · next scanned => rw [scanned, Option.bind_some]
    · next scanned => rw [scanned, Option.bind_none]

lemma readParameters_nil : readParameters [] = some [] := by
  rw [readParameters_eq]
  rfl

lemma readParameters_space {c : Char} (space : isSpace c = true) (rest : List Char) :
    readParameters (c :: rest) = readParameters rest := by
  rw [readParameters_eq, readParameters_eq rest, List.dropWhile_cons_of_pos space]

lemma readParameters_eq_some_cons {cs : List Char} {parameter : String × String}
    {others : List (String × String)} (read : readParameters cs = some (parameter :: others)) :
    ∃ rest, scanParameter (cs.dropWhile isSpace) = some (parameter, rest)
      ∧ readParameters rest = some others := by
  rw [readParameters_eq] at read
  split at read
  · cases read
  · obtain ⟨⟨first, rest⟩, scanned, readRest⟩ := Option.bind_eq_some_iff.1 read
    obtain ⟨more, found, same⟩ := Option.map_eq_some_iff.1 readRest
    cases same
    exact ⟨rest, scanned, found⟩

/-- characters in the shortest text with these parameters, with a space after each of them -/
def extent : List (String × String) → Nat
  | [] => 0
  | parameter :: others => parameter.1.length + 1 + parameter.2.length + 1 + extent others

section Extent

variable {after rest : List Char} {value : List Char} {others : List (String × String)}

/-- What follows an unquoted value begins with a space, which is no part of any parameter. -/
lemma extent_rest (read : readParameters (scanPlain after).2 = some others)
    (bounded : extent others ≤ ((scanPlain after).2.dropWhile isSpace).length + 1) :
    extent others ≤ (scanPlain after).2.length := by
  have ends := scanPlain_ends after
  cases same : (scanPlain after).2 with
  | nil =>
    rw [same, readParameters_nil] at read
    cases read
    exact Nat.zero_le _
  | cons c more =>
    rw [same] at bounded ends
    rw [List.dropWhile_cons_of_pos (ends c rfl)] at bounded
    have skipped := (List.dropWhile_sublist (l := more) isSpace).length_le
    rw [List.length_cons]
    omega

lemma extent_value (scanned : scanValue after = some (value, rest))
    (read : readParameters rest = some others)
    (bounded : extent others ≤ (rest.dropWhile isSpace).length + 1) :
    value.length + extent others ≤ after.length := by
  rcases scanValue_cases scanned with ⟨-, same⟩ | quoted
  · obtain ⟨rfl, rfl⟩ := Prod.mk.inj same
    have shorter := length_scanPlain after
    have follows := extent_rest read bounded
    omega
  · have skipped := (List.dropWhile_sublist (l := rest) isSpace).length_le
    simp only at quoted
    omega

end Extent

lemma extent_le {cs : List Char} {parameters : List (String × String)}
    (read : readParameters cs = some parameters) :
    extent parameters ≤ (cs.dropWhile isSpace).length + 1 := by
  fun_induction readParameters cs generalizing parameters with
  | case1 =>
    cases read
    exact Nat.zero_le _
  | case2 cs c word opened parameter rest scanned ih =>
    obtain ⟨others, readRest, rfl⟩ := Option.map_eq_some_iff.1 read
    obtain ⟨after, longer, -, value⟩ := scanParameter_eq_some scanned
    have shorter := extent_value value readRest (ih readRest)
    rw [String.length_toList] at shorter
    rw [opened, extent]
    omega
  | case3 => cases read

/-! ### Values that are written as they are -/

/-- a value that needs neither quotes nor backslashes -/
def PlainValue (value : List Char) : Prop :=
  value ≠ [] ∧ value.head? ≠ some '\x27' ∧ ∀ c ∈ value, isSpace c = false ∧ c ≠ '\x5c'

instance (value : List Char) : Decidable (PlainValue value) :=
  inferInstanceAs (Decidable (_ ∧ _ ∧ _))

/-- Only a plain value takes no more text than it holds, if more follows it. -/
lemma plain_of_extent {after rest value : List Char} {others : List (String × String)}
    (scanned : scanValue after = some (value, rest)) (read : readParameters rest = some others)
    (start : ∀ c ∈ after.head?, isSpace c = false) (more : others ≠ [])
    (whole : after.length ≤ value.length + extent others) : PlainValue value := by
  have bounded := extent_le read
  rcases scanValue_cases scanned with ⟨unquoted, same⟩ | quoted
  · obtain ⟨rfl, rfl⟩ := Prod.mk.inj same
    have follows := extent_rest read bounded
    obtain ⟨written, characters⟩ := plain_of_length after (by omega)
    cases first : (scanPlain after).1 with
    | nil =>
      -- the text would begin with the space that ends the value
      rw [first, List.nil_append] at written
      have ends := scanPlain_ends after
      rw [← written] at ends read
      cases after with
      | nil =>
        rw [readParameters_nil] at read
        exact absurd (Option.some.inj read).symm more
      | cons c after =>
        have space := ends c rfl
        rw [start c rfl] at space
        cases space
    | cons c value =>
      rw [first] at written characters
      refine ⟨List.cons_ne_nil _ _, ?_, characters⟩
      rw [written] at unquoted
      exact unquoted
  · have skipped := (List.dropWhile_sublist (l := rest) isSpace).length_le
    simp only at quoted
    omega

lemma scanPlain_append {value rest : List Char}
    (characters : ∀ c ∈ value, isSpace c = false ∧ c ≠ '\x5c')
    (ends : ∀ c ∈ rest.head?, isSpace c = true) : scanPlain (value ++ rest) = (value, rest) := by
  induction value with
  | nil =>
    cases rest with
    | nil => rfl
    | cons c rest =>
      have space := ends c rfl
      have notEscape : c ≠ '\x5c' := by
        rintro rfl
        cases space
      rw [List.nil_append, scanPlain_cons notEscape, if_pos space]
  | cons c value ih =>
    obtain ⟨⟨other, notEscape⟩, characters⟩ := List.forall_mem_cons.1 characters
    rw [List.cons_append, scanPlain_cons notEscape, ih characters, if_neg (by simp [other])]

/-- A parameter with a plain value is read off the text, whatever its keyword is made of. -/
lemma readParameters_written {keyword value rest : List Char} (named : keyword ≠ [])
    (letters : ∀ c ∈ keyword, inKeyword c = true) (plain : PlainValue value)
    (ends : ∀ c ∈ rest.head?, isSpace c = true) :
    readParameters (keyword ++ '=' :: (value ++ rest))
      = (readParameters rest).map ((String.ofList keyword, String.ofList value) :: ·) := by
  obtain ⟨nonempty, unquoted, characters⟩ := plain
  have start : (keyword ++ '=' :: (value ++ rest)).dropWhile isSpace
      = keyword ++ '=' :: (value ++ rest) := by
    cases keyword with
    | nil => exact absurd rfl named
    | cons c keyword =>
      refine List.dropWhile_cons_of_neg ?_
      have letter := letters c List.mem_cons_self
      simp only [inKeyword, Bool.and_eq_true, Bool.not_eq_true'] at letter
      simp [letter.2]
  have stops : ∀ c ∈ ('=' :: (value ++ rest)).head?, inKeyword c = false := by
    rintro _ ⟨⟩
    rfl
  obtain ⟨taken, dropped⟩ := Sql.word_ends letters stops
  have scanned : scanParameter (keyword ++ '=' :: (value ++ rest))
      = some ((String.ofList keyword, String.ofList value), rest) := by
    have sign : ('=' :: (value ++ rest)).dropWhile isSpace = '=' :: (value ++ rest) := rfl
    obtain ⟨c, more, rfl⟩ := List.exists_cons_of_ne_nil nonempty
    have valueStart : (c :: more ++ rest).dropWhile isSpace = c :: more ++ rest :=
      List.dropWhile_cons_of_neg (by simp [(characters c List.mem_cons_self).1])
    have value : scanValue (c :: more ++ rest) = some (c :: more, rest) := by
      rw [scanValue.eq_def]
      split
      · next opened =>
        obtain rfl := (List.cons.inj opened).1
        exact absurd rfl unquoted
      · rw [scanPlain_append characters ends]
    rw [scanParameter, taken, dropped, sign]
    simp only [valueStart, value, Option.map_some]
  rw [readParameters_eq, start, if_neg (by simp), scanned, Option.bind_some]

/-! ### What a connection string leads to -/

/-- the connection string has exactly two parameters: this database, and this port -/
def LeadsTo (c : ConnectionString) (dbname : String) (port : UInt16) : Prop :=
  c.parameters? = some [("dbname", dbname), ("port", toString port.toNat)]

instance (c : ConnectionString) (dbname : String) (port : UInt16) :
    Decidable (c.LeadsTo dbname port) :=
  inferInstanceAs (Decidable (_ = _))

/-- a name that a connection string holds as it is -/
def PlainName (dbname : String) : Prop :=
  PlainValue dbname.toList ∧ '\x00' ∉ dbname.toList

instance (dbname : String) : Decidable (PlainName dbname) :=
  inferInstanceAs (Decidable (_ ∧ _))

section Reaching

variable (dbname : String) (port : UInt16)

lemma toList_reaching : (reaching dbname port).text.toList
    = "dbname".toList ++ '=' :: (dbname.toList
      ++ ' ' :: ("port".toList ++ '=' :: (toString port.toNat).toList)) := by
  simp [reaching, String.toList_append]

/-- A connection string has no character more than its parameters need. -/
lemma extent_reaching : extent [("dbname", dbname), ("port", toString port.toNat)]
    = (reaching dbname port).text.toList.length + 1 := by
  rw [toList_reaching]
  simp only [extent, List.length_append, List.length_cons, String.length_toList]
  omega

/-- The rest of a connection string has only letters, digits, spaces and equals signs in it. -/
lemma mem_reaching {c : Char} (sign : c.isAlphanum = false) (space : c ≠ ' ') (equals : c ≠ '=') :
    c ∈ (reaching dbname port).text.toList ↔ c ∈ dbname.toList := by
  have digits : c ∉ (toString port.toNat).toList := by
    intro there
    rw [Template.alphanum_of_number _ c there] at sign
    cases sign
  have words : ∀ d ∈ "dbname".toList ++ "port".toList, d.isAlphanum = true := by
    apply List.all_eq_true.1
    decide
  have name : c ∉ "dbname".toList ++ "port".toList := by
    intro there
    rw [words c there] at sign
    cases sign
  rw [toList_reaching]
  simp only [List.mem_append, List.mem_cons, not_or] at name ⊢
  simp only [name, space, equals, digits, false_or, or_false]

lemma plainValue_number (n : Nat) : PlainValue (toString n).toList := by
  have letters := Template.alphanum_of_number n
  have signs : ('\x5c' :: spaces).all (!Char.isAlphanum ·) = true := by decide
  refine ⟨?_, ?_, fun c there => ⟨?_, ?_⟩⟩
  · rw [Template.toList_number]
    exact Nat.toDigits_ne_nil
  · intro quoted
    exact absurd (letters _ (List.mem_of_head? quoted)) (by decide)
  · refine decide_eq_false fun space => ?_
    have sign := List.all_eq_true.1 signs c (List.mem_cons_of_mem _ space)
    rw [letters c there] at sign
    cases sign
  · rintro rfl
    exact absurd (letters _ there) (by decide)

/-- What leads to a database takes at least as much text as the string for it. -/
lemma length_of_leadsTo {c : ConnectionString} (leads : c.LeadsTo dbname port) :
    (reaching dbname port).text.toList.length ≤ (c.text.toList.takeWhile (· ≠ '\x00')).length := by
  have needed := extent_le leads
  have skipped := (List.dropWhile_sublist (l := c.text.toList.takeWhile (· ≠ '\x00'))
    isSpace).length_le
  rw [extent_reaching] at needed
  omega

variable {dbname} in
lemma takeWhile_reaching (unbroken : '\x00' ∉ dbname.toList) :
    (reaching dbname port).text.toList.takeWhile (· ≠ '\x00')
      = (reaching dbname port).text.toList := by
  refine List.takeWhile_eq_self_iff.2 fun c there => decide_eq_true ?_
  rintro rfl
  exact unbroken ((mem_reaching dbname port rfl (by decide) (by decide)).1 there)

lemma word_dbname : "dbname".toList ≠ [] ∧ ∀ c ∈ "dbname".toList, inKeyword c = true :=
  ⟨by decide, List.all_eq_true.1 (by decide)⟩

lemma readParameters_port :
    readParameters (' ' :: ("port".toList ++ '=' :: (toString port.toNat).toList))
      = some [("port", toString port.toNat)] := by
  have word : "port".toList ≠ [] ∧ ∀ c ∈ "port".toList, inKeyword c = true :=
    ⟨by decide, List.all_eq_true.1 (by decide)⟩
  have ends : ∀ c ∈ ([] : List Char).head?, isSpace c = true := by simp
  have last := readParameters_written word.1 word.2 (plainValue_number port.toNat) ends
  rw [List.append_nil, readParameters_nil] at last
  rw [readParameters_space rfl, last]
  simp only [Option.map_some, String.ofList_toList]

/-- **A connection string leads to its database exactly if the name is plain.** -/
theorem leadsTo_reaching_iff : (reaching dbname port).LeadsTo dbname port ↔ PlainName dbname := by
  have nul := mem_reaching dbname port (c := '\x00') rfl (by decide) (by decide)
  constructor
  · intro leads
    have longer := length_of_leadsTo dbname port leads
    -- nothing is cut off, since all of the text is needed
    have whole : (reaching dbname port).text.toList.takeWhile (· ≠ '\x00')
        = (reaching dbname port).text.toList := by
      have cut := List.takeWhile_prefix (l := (reaching dbname port).text.toList) (· ≠ '\x00')
      exact cut.eq_of_length (le_antisymm cut.length_le longer)
    refine ⟨?_, fun there => ?_⟩
    · obtain ⟨rest, scanned, read⟩ := readParameters_eq_some_cons leads
      obtain ⟨after, shorter, start, value⟩ := scanParameter_eq_some scanned
      refine plain_of_extent value read start (List.cons_ne_nil _ _) ?_
      have skipped := (List.dropWhile_sublist isSpace).length_le.trans_eq
        (congrArg List.length whole)
      have needed := extent_reaching dbname port
      have name : dbname.toList.length = dbname.length := String.length_toList
      simp only [extent] at shorter needed ⊢
      omega
    · have passed := List.takeWhile_eq_self_iff.1 whole _ (nul.2 there)
      exact absurd passed (by decide)
  · rintro ⟨plain, unbroken⟩
    rw [LeadsTo, parameters?, takeWhile_reaching port unbroken, toList_reaching,
      readParameters_written word_dbname.1 word_dbname.2 plain (by rintro _ ⟨⟩; rfl),
      readParameters_port]
    simp only [Option.map_some, String.ofList_toList]

/-- A name with a space in it can bring a parameter of its own into the connection. -/
theorem parameters?_spaced {first keyword value : String} (plainFirst : PlainName first)
    (named : keyword ≠ "") (letters : ∀ c ∈ keyword.toList, inKeyword c = true ∧ c ≠ '\x00')
    (plainValue : PlainName value) :
    (reaching (first ++ (" " ++ (keyword ++ ("=" ++ value)))) port).parameters?
      = some [("dbname", first), (keyword, value), ("port", toString port.toNat)] := by
  have spelled : (first ++ (" " ++ (keyword ++ ("=" ++ value)))).toList
      = first.toList ++ ' ' :: (keyword.toList ++ '=' :: value.toList) := by
    simp only [String.toList_append]
    rfl
  have unbroken : '\x00' ∉ (first ++ (" " ++ (keyword ++ ("=" ++ value)))).toList := by
    rw [spelled]
    simp only [List.mem_append, List.mem_cons, plainFirst.2, plainValue.2, or_false, false_or,
      not_or]
    exact ⟨by decide, fun there => (letters _ there).2 rfl, by decide⟩
  have keywords : keyword.toList ≠ [] := fun empty => named (String.toList_eq_nil_iff.1 empty)
  rw [parameters?, takeWhile_reaching port unbroken, toList_reaching, spelled]
  simp only [List.append_assoc, List.cons_append]
  rw [readParameters_written word_dbname.1 word_dbname.2 plainFirst.1 (by rintro _ ⟨⟩; rfl),
    readParameters_space rfl,
    readParameters_written keywords (fun c there => (letters c there).1) plainValue.1
      (by rintro _ ⟨⟩; rfl),
    readParameters_port]
  simp only [Option.map_some, String.ofList_toList]

end Reaching

/-- A name in two words is refused, a backslash is lost, and an empty name gets the port for one. -/
example :
    (reaching "my db" 5432).parameters? = none
    ∧ (reaching "a\x5cb" 5432).parameters? = some [("dbname", "ab"), ("port", "5432")]
    ∧ (reaching "" 5432).parameters? = some [("dbname", "port=5432")] := by
  decide +kernel

end ConnectionString

end ShardCluster
