import Mathlib.Data.List.Basic
import ShardCluster.Sql

/-!
# Literals read back

A reader for the statements of `Sql`, by the standard rule for literals: two quotes stand for one, a
lone quote closes, and a backslash is a character like any other. Whatever text a literal is made
of, the reader gets that text and stops where the literal ends (`scanInside_doubled`), so that no
text can close its literal early and turn into SQL. A call is read into its function and its
arguments, and `literals_read_back` puts together what the statements are as calls.
-/

namespace ShardCluster

namespace Sql

/-! ### The literal rule -/

/-- what an opened literal holds, and what follows the quote that closes it -/
def scanInside : List Char → Option (List Char × List Char)
  | [] => none
  | '\x27' :: '\x27' :: rest => (scanInside rest).map fun read => ('\x27' :: read.1, read.2)
  | '\x27' :: rest => some ([], rest)
  | c :: rest => (scanInside rest).map fun read => (c :: read.1, read.2)

/-- the text of the literal at the head of the characters, and what follows it -/
def scanLiteral : List Char → Option (String × List Char)
  | '\x27' :: rest => (scanInside rest).map fun read => (String.ofList read.1, read.2)
  | _ => none

lemma scanInside_closed {rest : List Char} (lone : rest.head? ≠ some '\x27') :
    scanInside ('\x27' :: rest) = some ([], rest) := by
  cases rest with
  | nil => rfl
  | cons c rest =>
    have other : c ≠ '\x27' := fun same => lone (congrArg some same)
    rw [scanInside]
    rintro _ same
    exact other (List.cons.inj same).1

lemma scanInside_cons {c : Char} (other : c ≠ '\x27') (rest : List Char) :
    scanInside (c :: rest) = (scanInside rest).map fun read => (c :: read.1, read.2) := by
  rw [scanInside] <;> simp [other]

/-- **The rule undoes the doubling**: the characters come back, and the reader stands where the
literal ended. -/
theorem scanInside_doubled (value : List Char) {rest : List Char}
    (lone : rest.head? ≠ some '\x27') :
    scanInside (doubled value ++ '\x27' :: rest) = some (value, rest) := by
  induction value with
  | nil => exact scanInside_closed lone
  | cons c value ih =>
    rw [doubled]
    split
    · next quote =>
      subst quote
      rw [List.cons_append, List.cons_append, scanInside, ih]
      rfl
    · next other =>
      rw [List.cons_append, scanInside_cons other, ih]
      rfl

/-- The rule reads nothing else: what a literal is read from is its text with the quotes doubled. -/
theorem eq_doubled_of_scanInside {cs : List Char} {read : List Char × List Char}
    (scanned : scanInside cs = some read) : cs = doubled read.1 ++ '\x27' :: read.2 := by
  induction cs using scanInside.induct generalizing read with
  | case1 => simp [scanInside] at scanned
  | case2 rest ih =>
    rw [scanInside, Option.map_eq_some_iff] at scanned
    obtain ⟨inner, found, rfl⟩ := scanned
    rw [doubled, if_pos rfl, ih found]
    rfl
  | case3 rest lone =>
    rw [scanInside] at scanned
    · cases scanned
      rfl
    · exact lone
  | case4 c rest _ other ih =>
    rw [scanInside, Option.map_eq_some_iff] at scanned
    · obtain ⟨inner, found, rfl⟩ := scanned
      rw [doubled, if_neg other, ih found]
      rfl
    all_goals assumption

lemma length_doubled (value : List Char) :
    (doubled value).length = value.length + value.count '\x27' := by
  induction value with
  | nil => rfl
  | cons c value ih =>
    rw [doubled]
    split
    · next quote =>
      subst quote
      simp only [List.length_cons, ih, List.count_cons_self]
      omega
    · next other =>
      simp only [List.length_cons, ih, List.count_cons_of_ne other]
      omega

/-- Doubling changes every text that has a quote in it. -/
lemma doubled_eq_self_iff {value : List Char} : doubled value = value ↔ '\x27' ∉ value := by
  induction value with
  | nil => simp [doubled]
  | cons c value ih =>
    rw [doubled]
    split
    · next quote =>
      subst quote
      refine iff_of_false (fun same => ?_) (fun free => free List.mem_cons_self)
      have length := congrArg List.length same
      simp only [List.length_cons, length_doubled] at length
      omega
    · next other =>
      simp [ih, Ne.symm other]

theorem scanLiteral_literal (value : String) {rest : List Char}
    (lone : rest.head? ≠ some '\x27') :
    scanLiteral ((literal value).toList ++ rest) = some (value, rest) := by
  have spelled : (literal value).toList ++ rest
      = '\x27' :: (doubled value.toList ++ '\x27' :: rest) := by
    simp [literal]
  rw [spelled, scanLiteral, scanInside_doubled _ lone, Option.map_some, String.ofList_toList]

lemma length_of_scanInside {cs : List Char} {read : List Char × List Char}
    (scanned : scanInside cs = some read) : read.2.length < cs.length := by
  induction cs using scanInside.induct generalizing read with
  | case1 => simp [scanInside] at scanned
  | case2 rest ih =>
    rw [scanInside, Option.map_eq_some_iff] at scanned
    obtain ⟨inner, found, rfl⟩ := scanned
    have shorter := ih found
    simp only [List.length_cons]
    omega
  | case3 rest lone =>
    rw [scanInside] at scanned
    · cases scanned
      simp
    · exact lone
  | case4 c rest _ other ih =>
    rw [scanInside, Option.map_eq_some_iff] at scanned
    · obtain ⟨inner, found, rfl⟩ := scanned
      have shorter := ih found
      simp only [List.length_cons]
      omega
    all_goals assumption

/-! ### Calls -/

/-- what an argument of a call says -/
inductive Argument where
  | text (value : String)
  | number (value : Nat)
  | flag (value : Bool)
  deriving DecidableEq

/-- the letters and digits of a word -/
def Argument.ofWord? (word : List Char) : Option Argument :=
  if word = "true".toList then some (.flag true)
  else if word = "false".toList then some (.flag false)
  else if word ≠ [] ∧ word.all Char.isDigit then some (.number (Nat.ofDigitChars 10 word 0))
  else none

/-- The argument at the head of the characters, and what follows it: a literal, or a word that ends
where its letters and digits end. -/
def readArgument : List Char → Option (Argument × List Char)
  | '\x27' :: rest => (scanLiteral ('\x27' :: rest)).map fun read => (.text read.1, read.2)
  | cs => (Argument.ofWord? (cs.takeWhile Char.isAlphanum)).map fun argument =>
    (argument, cs.dropWhile Char.isAlphanum)

lemma length_of_readArgument {cs : List Char} {read : Argument × List Char}
    (found : readArgument cs = some read) : read.2.length ≤ cs.length := by
  rw [readArgument.eq_def] at found
  split at found
  · next rest =>
    simp only [scanLiteral, Option.map_map, Option.map_eq_some_iff] at found
    obtain ⟨inner, scanned, rfl⟩ := found
    have shorter := length_of_scanInside scanned
    simp only [Function.comp, List.length_cons]
    omega
  · rw [Option.map_eq_some_iff] at found
    obtain ⟨argument, -, rfl⟩ := found
    exact (List.dropWhile_sublist _).length_le

/-- arguments with a comma and a blank between them, and what follows their closing parenthesis -/
def readArguments (cs : List Char) : Option (List Argument × List Char) :=
  match _h : readArgument cs with
  | some (argument, ')' :: rest) => some ([argument], rest)
  | some (argument, ',' :: ' ' :: rest) =>
    (readArguments rest).map fun read => (argument :: read.1, read.2)
  | _ => none
termination_by cs.length
decreasing_by
  have shorter := length_of_readArgument _h
  simp only [List.length_cons] at shorter
  omega

/-- a function and what it is applied to -/
structure Call where
  function : String
  arguments : List Argument
  deriving DecidableEq

/-- The call a statement selects; nothing may be left of the statement after it. -/
def Call.read? (statement : String) : Option Call :=
  match statement.toList.dropPrefix? "select ".toList with
  | none => none
  | some call =>
    match readArguments ((call.dropWhile (· ≠ '(')).drop 1) with
    | some (arguments, []) => some ⟨String.ofList (call.takeWhile (· ≠ '(')), arguments⟩
    | _ => none

/-! ### Arguments and calls as they are written -/

/-- the text is that of the argument, wherever neither a quote nor a letter nor a digit follows -/
def Argument.Spelled (argument : Argument) (text : String) : Prop :=
  ∀ rest : List Char, rest.head? ≠ some '\x27' → (∀ c ∈ rest.head?, c.isAlphanum = false) →
    readArgument (text.toList ++ rest) = some (argument, rest)

lemma spelled_literal (value : String) : (Argument.text value).Spelled (literal value) := by
  intro rest lone _
  have opened : (literal value).toList ++ rest
      = '\x27' :: (doubled value.toList ++ '\x27' :: rest) := by
    simp [literal]
  have scanned := scanLiteral_literal value lone
  rw [opened] at scanned ⊢
  rw [readArgument, scanned, Option.map_some]

lemma word_ends {accepts : Char → Bool} {word rest : List Char}
    (inside : ∀ c ∈ word, accepts c = true) (ended : ∀ c ∈ rest.head?, accepts c = false) :
    (word ++ rest).takeWhile accepts = word ∧ (word ++ rest).dropWhile accepts = rest := by
  rw [List.takeWhile_append_of_pos inside, List.dropWhile_append_of_pos inside]
  cases rest with
  | nil => simp
  | cons c rest => simp [ended c rfl]

lemma spelled_word {word : String} {argument : Argument}
    (meant : Argument.ofWord? word.toList = some argument)
    (letters : ∀ c ∈ word.toList, c.isAlphanum = true) : argument.Spelled word := by
  intro rest _ ended
  obtain ⟨taken, dropped⟩ := word_ends letters ended
  rw [readArgument.eq_def]
  split
  · next quoted opened =>
    -- a word is not empty and has no quote in it
    cases same : word.toList with
    | nil => simp [same, Argument.ofWord?] at meant
    | cons c others =>
      rw [same] at opened letters
      obtain rfl : c = '\x27' := (List.cons.inj opened).1
      exact absurd (letters _ List.mem_cons_self) (by decide)
  · rw [taken, dropped, meant, Option.map_some]

lemma spelled_number (n : Nat) : (Argument.number n).Spelled (toString n) := by
  have digits : (toString n).toList = Nat.toDigits 10 n := by
    rw [Nat.toString_eq_ofList_toDigits, String.toList_ofList]
  have decimal : ∀ c ∈ Nat.toDigits 10 n, c.isDigit = true :=
    fun c there => Nat.isDigit_of_mem_toDigits (by decide) (by decide) there
  apply spelled_word
  · rw [digits, Argument.ofWord?, if_neg, if_neg, if_pos, Nat.ofDigitChars_ten_toDigits]
    · exact ⟨Nat.toDigits_ne_nil, List.all_eq_true.2 decimal⟩
    all_goals
      intro same
      rw [same] at decimal
      exact absurd (decimal 'e' (by decide)) (by decide)
  · intro c there
    rw [digits] at there
    simp [Char.isAlphanum, decimal c there]

lemma spelled_flag (b : Bool) : (Argument.flag b).Spelled (flag b) := by
  have letters : ∀ c ∈ (flag b).toList, c.isAlphanum = true := by
    apply List.all_eq_true.1
    cases b <;> decide
  apply spelled_word _ letters
  cases b <;> decide

section Listing

variable {argument : Argument} {text : String}

lemma Argument.Spelled.last (spelled : argument.Spelled text) :
    readArguments (text ++ ")").toList = some ([argument], []) := by
  have read : readArgument (text ++ ")").toList = some (argument, [')']) := by
    rw [String.toList_append]
    exact spelled [')'] (by decide) (by rintro _ ⟨⟩; rfl)
  rw [readArguments, read]
  rfl

lemma Argument.Spelled.more (spelled : argument.Spelled text) {inside : String}
    {arguments : List Argument} (others : readArguments inside.toList = some (arguments, [])) :
    readArguments (text ++ (", " ++ inside)).toList = some (argument :: arguments, []) := by
  have comma : (", " ++ inside).toList = ',' :: ' ' :: inside.toList := by
    rw [String.toList_append]
    rfl
  have read : readArgument (text ++ (", " ++ inside)).toList
      = some (argument, ',' :: ' ' :: inside.toList) := by
    rw [String.toList_append, comma]
    exact spelled _ (by simp) (by simp)
  rw [readArguments, read]
  show (readArguments inside.toList).map _ = _
  rw [others, Option.map_some]

end Listing

/-- A call is read off its opening, which names the function, and off what stands after that. -/
lemma Call.read?_opening {opening function : String} {arguments : List Argument}
    (opens : opening.toList = "select ".toList ++ (function.toList ++ ['(']))
    (name : '(' ∉ function.toList) {inside : String}
    (read : readArguments inside.toList = some (arguments, [])) :
    Call.read? (opening ++ inside) = some ⟨function, arguments⟩ := by
  have plain : ∀ c ∈ function.toList, decide (c ≠ '(') = true := by
    intro c there
    exact decide_eq_true fun same => name (same ▸ there)
  have spelled : (opening ++ inside).toList
      = "select ".toList ++ (function.toList ++ '(' :: inside.toList) := by
    rw [String.toList_append, opens, List.append_assoc, List.append_assoc, List.singleton_append]
  have call : ("select ".toList ++ (function.toList ++ '(' :: inside.toList)).dropPrefix?
      "select ".toList = some (function.toList ++ '(' :: inside.toList) := by
    rw [List.dropPrefix?_eq_some_iff]
    exact ⟨_, rfl, by simp⟩
  have opened : ∀ c ∈ ('(' :: inside.toList).head?, decide (c ≠ '(') = false := by simp
  obtain ⟨taken, dropped⟩ := word_ends plain opened
  simp only [Call.read?, spelled, call, taken, dropped, List.drop_one, List.tail_cons, read,
    String.ofList_toList]

/-! ### What the statements are as calls -/

/-- Registering a worker is a call with the one argument that leads to the worker. -/
theorem read?_addNode (worker : ConnectionString) :
    Call.read? (addNode worker) = some ⟨"shardman.add_node", [.text worker.text]⟩ := by
  have regrouped : addNode worker
      = "select shardman.add_node(" ++ (literal worker.text ++ ")") :=
    String.append_assoc
  rw [regrouped]
  exact Call.read?_opening (by decide) (by decide) (spelled_literal _).last

/-- the arguments of a partitioning, in the order of the statement -/
def partitioningArguments (p : HashPartitioning) : List Argument :=
  [.number p.replicationFactor.toNat, .text p.table, .text p.key, .number p.partitions.toNat,
    .flag p.immediate]

/-- Partitioning a table is a call with five arguments, which say what was asked for. -/
theorem read?_statement (p : HashPartitioning) :
    Call.read? p.statement
      = some ⟨"shardman.create_hash_partitions", partitioningArguments p⟩ := by
  have regroup : ∀ opening a b c d e comma close : String,
      opening ++ a ++ comma ++ b ++ comma ++ c ++ comma ++ d ++ comma ++ e ++ close
        = opening ++ (a ++ (comma ++ (b ++ (comma ++ (c ++ (comma ++ (d ++ (comma
          ++ (e ++ close))))))))) := by
    intros
    simp only [String.append_assoc]
  have flagRead := (spelled_flag p.immediate).last
  have keyRead := (spelled_literal p.key).more ((spelled_number p.partitions.toNat).more flagRead)
  have read := (spelled_number p.replicationFactor.toNat).more
    ((spelled_literal p.table).more keyRead)
  refine (congrArg Call.read? (regroup _ _ _ _ _ _ _ _)).trans ?_
  exact Call.read?_opening (by decide) (by decide) read

lemma eq_of_partitioningArguments {p q : HashPartitioning}
    (same : partitioningArguments p = partitioningArguments q) : p = q := by
  simp only [partitioningArguments, List.cons.injEq, Argument.number.injEq, Argument.text.injEq,
    Argument.flag.injEq, UInt32.toNat_inj] at same
  obtain ⟨factor, table, key, partitions, immediate, -⟩ := same
  cases p
  cases q
  simp_all

lemma statement_injective : Function.Injective HashPartitioning.statement := by
  intro p q same
  have read := read?_statement p
  rw [same, read?_statement q, Option.some_inj, Call.mk.injEq] at read
  exact (eq_of_partitioningArguments read.2).symm

/-- **Literals are faithful**: whatever text a literal is made of is read back to its last
character, and the reader stops where the literal ends. So a partitioning is a call with exactly
five arguments that say what was asked for, no two of them are one statement, and a worker is
registered by a call with exactly one argument, the connection string. -/
theorem literals_read_back :
    (∀ (value : String) (rest : List Char), rest.head? ≠ some '\x27' →
      scanLiteral ((literal value).toList ++ rest) = some (value, rest))
    ∧ (∀ p : HashPartitioning, Call.read? p.statement
        = some ⟨"shardman.create_hash_partitions",
          [.number p.replicationFactor.toNat, .text p.table, .text p.key,
            .number p.partitions.toNat, .flag p.immediate]⟩)
    ∧ (∀ p q : HashPartitioning, p.statement = q.statement → p = q)
    ∧ ∀ worker : ConnectionString,
        Call.read? (addNode worker) = some ⟨"shardman.add_node", [.text worker.text]⟩ :=
  ⟨fun value _ lone => scanLiteral_literal value lone, read?_statement,
    fun _ _ same => statement_injective same, read?_addNode⟩

/-- A text full of quotes, commas and parentheses, read back before the rest of a list of
arguments; and a partitioning of a table of that name. -/
theorem hostile_text_read_back :
    scanLiteral ((literal "x''); drop table y; --").toList ++ ", 2)".toList)
      = some ("x''); drop table y; --", ", 2)".toList)
    ∧ Call.read? (HashPartitioning.statement ⟨1, "x''); drop table y; --", "'", 2, false⟩)
      = some ⟨"shardman.create_hash_partitions",
          [.number 1, .text "x''); drop table y; --", .text "'", .number 2, .flag false]⟩ :=
  ⟨literals_read_back.1 _ _ (by decide), literals_read_back.2.1 _⟩

end Sql

end ShardCluster
