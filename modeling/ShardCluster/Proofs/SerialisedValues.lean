import Mathlib.Data.List.Perm.Basic
import ShardCluster.Node.Identity
import ShardCluster.Proofs.JsonTexts
import ShardCluster.Proofs.WellFormedText
import ShardCluster.Sql

/-!
# Serialised values

A partitioning, an identity and a connection string each have a format (`Json.Format`): how they
are written as JSON and read from it. `serialised_values_faithful` says what the three guarantee
(`Json.Format.Faithful`): what is written is read back, the texts that are read as a value are
those that spell an array or object of its fields (`Json.Lists`), and all of them are rewritten as
one text.
-/

namespace ShardCluster

namespace Json

/-! ### Records -/

/-- the fields of a record in their order -/
def known (names : List String) (values : List Json) : List (Option String × Json) :=
  (names.zip values).map fun (name, value) => (some name, value)

/-- **What says a record**: the array of its values in their order, or an object that has its
fields in any order and among them others with other names. -/
def Lists (names : List String) (values : List Json) : Json → Prop
  | .array items => items = values
  | .object fields => ∃ others, fields.Perm (known names values ++ others) ∧
      ∀ f ∈ others, ∃ key, f.1 = some key ∧ key ∉ names
  | _ => False

variable {names : List String} {values : List Json} {fields : List (Option String × Json)}

lemma only?_eq_some_iff {name : String} {value : Json} :
    only? fields name = some value ↔
      fields.filter (fun field => field.1 == some name) = [(some name, value)] := by
  unfold only?
  constructor
  · intro found
    split at found
    · next key value' alone =>
      obtain rfl := Option.some.inj found
      have named : (key, value') ∈ fields.filter (fun field => field.1 == some name) := by
        rw [alone]
        exact List.mem_singleton_self _
      have same : key = some name := by simpa using (List.mem_filter.1 named).2
      rw [alone, same]
    · cases found
  · intro alone
    rw [alone]

lemma filter_known {name : String} (fresh : name ∉ names) :
    (known names values).filter (fun field => field.1 == some name) = [] := by
  refine List.filter_eq_nil_iff.2 fun field among => ?_
  obtain ⟨⟨other, value⟩, listed, rfl⟩ := List.mem_map.1 among
  have there : other ∈ names := (List.of_mem_zip listed).1
  simp only [Option.some_beq_some, beq_iff_eq]
  rintro rfl
  exact fresh there

/-- The fields of some name are those of that name beside the known ones of other names. -/
lemma filter_others {name : String} (fresh : name ∉ names) {others : List (Option String × Json)}
    (same : fields.Perm (known names values ++ others)) :
    (fields.filter fun field => field.1 == some name).Perm
      (others.filter fun field => field.1 == some name) := by
  have shared := same.filter fun field => field.1 == some name
  rwa [List.filter_append, filter_known fresh, List.nil_append] at shared

/-- All fields are found if they are there once each, in whatever order and among whatever else. -/
lemma mapM_only?_eq_some_iff (distinct : names.Nodup) :
    names.mapM (only? fields) = some values ↔ values.length = names.length ∧
      ∃ others, fields.Perm (known names values ++ others) ∧ ∀ f ∈ others, ∀ name ∈ names,
        f.1 ≠ some name := by
  induction names generalizing values with
  | nil =>
    constructor
    · intro found
      obtain rfl := Option.some.inj found
      exact ⟨rfl, fields, .refl _, fun _ _ _ none_ => absurd none_ List.not_mem_nil⟩
    · rintro ⟨long, -⟩
      rw [List.eq_nil_of_length_eq_zero long]
      rfl
  | cons name names ih =>
    obtain ⟨fresh, distinct⟩ := List.nodup_cons.1 distinct
    rw [List.mapM_cons]
    simp only [Option.bind_eq_bind, Option.bind_eq_some_iff, Option.pure_def, Option.some.injEq,
      ih distinct, only?_eq_some_iff]
    constructor
    · rintro ⟨value, alone, values, ⟨long, others, same, unlike⟩, rfl⟩
      -- the field of this name is among the others, once
      have picked : others.filter (fun field => field.1 == some name) = [(some name, value)] := by
        have shared := filter_others fresh same
        rw [alone] at shared
        exact List.perm_singleton.1 shared.symm
      refine ⟨by simp [long], others.filter (fun field => !(field.1 == some name)), ?_, ?_⟩
      · have apart := List.filter_append_perm (fun field => field.1 == some name) others
        rw [picked] at apart
        refine same.trans ((apart.symm.append_left _).trans ?_)
        exact List.perm_middle
      · intro f among other listed
        obtain ⟨there, rest⟩ := List.mem_filter.1 among
        rcases List.mem_cons.1 listed with rfl | listed
        · simpa using rest
        · exact unlike f there other listed
    · rintro ⟨long, others, same, unlike⟩
      obtain ⟨value, values, rfl⟩ := List.exists_cons_of_length_eq_add_one long
      have same : fields.Perm (known names values ++ (some name, value) :: others) :=
        same.trans List.perm_middle.symm
      have alone : fields.filter (fun field => field.1 == some name) = [(some name, value)] := by
        have shared := filter_others fresh same
        have nothing : others.filter (fun field => field.1 == some name) = [] :=
          List.filter_eq_nil_iff.2 fun f among => by
            simpa using unlike f among name List.mem_cons_self
        rw [List.filter_cons_of_pos (by simp), nothing] at shared
        exact List.perm_singleton.1 shared
      refine ⟨value, alone, values, ⟨by simpa using long, (some name, value) :: others, same, ?_⟩,
        rfl⟩
      intro f among other listed
      rcases List.mem_cons.1 among with rfl | among
      · intro same
        obtain rfl := Option.some.inj same
        exact fresh listed
      · exact unlike f among other (List.mem_cons_of_mem _ listed)

lemma record?_eq_some_iff (distinct : names.Nodup) {j : Json} :
    record? names j = some values ↔ values.length = names.length ∧ Lists names values j := by
  cases j with
  | array items =>
    rw [record?, Lists]
    constructor
    · intro read
      split at read
      · next long =>
        obtain rfl := Option.some.inj read
        exact ⟨long, rfl⟩
      · cases read
    · rintro ⟨long, rfl⟩
      rw [if_pos long]
  | object fields =>
    rw [record?, Lists]
    constructor
    · intro read
      split at read
      · next texts =>
        obtain ⟨long, others, same, unlike⟩ := (mapM_only?_eq_some_iff distinct).1 read
        refine ⟨long, others, same, fun f among => ?_⟩
        have there : f ∈ fields := same.mem_iff.2 (List.mem_append_right _ among)
        obtain ⟨key, named⟩ := Option.isSome_iff_exists.1 (List.all_eq_true.1 texts f there)
        exact ⟨key, named, fun listed => unlike f among key listed named⟩
      · cases read
    · rintro ⟨long, others, same, unlike⟩
      have texts : fields.all (·.1.isSome) := by
        refine List.all_eq_true.2 fun f there => ?_
        rcases List.mem_append.1 (same.mem_iff.1 there) with there | among
        · obtain ⟨_, _, rfl⟩ := List.mem_map.1 there
          rfl
        · obtain ⟨key, named, -⟩ := unlike f among
          rw [named]
          rfl
      rw [if_pos texts]
      refine (mapM_only?_eq_some_iff distinct).2 ⟨long, others, same, fun f among name listed => ?_⟩
      obtain ⟨key, named, other⟩ := unlike f among
      rw [named]
      rintro ⟨⟩
      exact other listed
  | null | bool | number | string => simp [record?, Lists]

/-! ### Members of a record -/

lemma toText?_eq_some_iff {j : Json} {s : String} : j.toText? = some s ↔ j = .ofString s := by
  cases j with
  | string text => simp [toText?, ofString]
  | null | bool | number | array | object => simp [toText?, ofString]

lemma toBool?_eq_some_iff {j : Json} {b : Bool} : j.toBool? = some b ↔ j = .bool b := by
  cases j with
  | bool b' => simp [toBool?]
  | null | string | number | array | object => simp [toBool?]

lemma toNatBelow?_eq_some_iff {bound n : Nat} {j : Json} :
    j.toNatBelow? bound = some n ↔ j = .ofNat n ∧ n < bound := by
  unfold toNatBelow?
  split
  · next m =>
    simp only [ofNat, number.injEq, Option.some.injEq]
    split <;> grind
  · next other =>
    simp only [reduceCtorEq, false_iff, not_and]
    intro same
    exact absurd same (other n)

lemma toUInt16?_eq_some_iff {j : Json} {w : UInt16} :
    j.toUInt16? = some w ↔ j = .ofNat w.toNat := by
  simp only [toUInt16?, Option.map_eq_some_iff, toNatBelow?_eq_some_iff]
  constructor
  · rintro ⟨n, ⟨rfl, held⟩, rfl⟩
    rw [UInt16.toNat_ofNat_of_lt' held]
  · rintro rfl
    exact ⟨w.toNat, ⟨rfl, w.toNat_lt⟩, UInt16.ofNat_toNat⟩

lemma toUInt32?_eq_some_iff {j : Json} {w : UInt32} :
    j.toUInt32? = some w ↔ j = .ofNat w.toNat := by
  simp only [toUInt32?, Option.map_eq_some_iff, toNatBelow?_eq_some_iff]
  constructor
  · rintro ⟨n, ⟨rfl, held⟩, rfl⟩
    rw [UInt32.toNat_ofNat_of_lt' held]
  · rintro rfl
    exact ⟨w.toNat, ⟨rfl, w.toNat_lt⟩, UInt32.ofNat_toNat⟩

@[simp] lemma toText?_ofString (s : String) : (ofString s).toText? = some s := rfl

@[simp] lemma toBool?_bool (b : Bool) : (bool b).toBool? = some b := rfl

@[simp] lemma toUInt16?_ofNat (w : UInt16) : (ofNat w.toNat).toUInt16? = some w :=
  toUInt16?_eq_some_iff.2 rfl

@[simp] lemma toUInt32?_ofNat (w : UInt32) : (ofNat w.toNat).toUInt32? = some w :=
  toUInt32?_eq_some_iff.2 rfl

lemma exact_ofFields {fs : List (String × Json)} (values : ∀ f ∈ fs, Exact f.2) :
    Exact (ofFields fs) := by
  rw [ofFields, Exact]
  induction fs with
  | nil => trivial
  | cons f fs ih =>
    exact ⟨rfl, values f List.mem_cons_self,
      ih fun f' among => values f' (List.mem_cons_of_mem _ among)⟩

lemma lists_ofFields (names : List String) (values : List Json) :
    Lists names values (ofFields (names.zip values)) :=
  ⟨[], by rw [List.append_nil]; exact .refl _, fun _ none_ => absurd none_ List.not_mem_nil⟩

/-- a text that spells a value, with blanks around it or without -/
def IsText (j : Json) (text : String) : Prop :=
  ∃ before body after, text.toList = before ++ body ++ after ∧ Blank before ∧ Blank after ∧
    Spells (.value j) body

lemma read?_eq_some_iff {text : String} {j : Json} : read? text = some j ↔ j.IsText text :=
  ofChars?_eq_some_iff

/-! ### Formats -/

/-- how values of a type are written as JSON and read from it -/
structure Format (α : Type) where
  /-- the value in JSON, unless it has a part that no text says -/
  write? : α → Option Json
  ofJson? : Json → Option α
  /-- the values that can be written -/
  Writable : α → Prop
  /-- what JSON says of a value -/
  Denotes : α → Json → Prop

namespace Format

variable {α : Type} (format : Format α)

/-- the value a text is read as -/
def decode (text : String) : Option α := Json.read? text >>= format.ofJson?

/-- the text that is written for what a text is read as -/
def rewrite (text : String) : Option String := do
  let x ← format.decode text
  return (← format.write? x).compact

/-- **What a format guarantees.** -/
structure Faithful : Prop where
  /-- what is written is read back, in both layouts -/
  returns : ∀ x, format.Writable x → ∃ j, format.write? x = some j ∧
    format.decode j.compact = some x ∧ format.decode j.indented = some x
  /-- a text is read as a value if it spells what says the value, and not otherwise -/
  reads : ∀ text x, format.decode text = some x ↔ ∃ j, format.Denotes x j ∧ j.IsText text
  /-- all texts of a value are rewritten as one, which is another of them -/
  rewrites : ∀ x, (∃ text, format.decode text = some x) →
    ∃ canonical, format.decode canonical = some x ∧
      ∀ text, format.decode text = some x → format.rewrite text = some canonical

variable {format}

/-- A format guarantees all that if it reads what says a value and writes something that does. -/
lemma faithful_of (reads : ∀ j x, format.ofJson? j = some x ↔ format.Denotes x j)
    (writes : ∀ x, format.Writable x → ∃ j, format.write? x = some j ∧ j.Exact ∧ format.Denotes x j)
    (writable : ∀ x j, format.Denotes x j → format.Writable x) : format.Faithful := by
  have decodes (text : String) (x : α) :
      format.decode text = some x ↔ ∃ j, format.Denotes x j ∧ j.IsText text := by
    simp only [decode, Option.bind_eq_bind, Option.bind_eq_some_iff, read?_eq_some_iff, reads]
    exact exists_congr fun j => and_comm
  have returns (x : α) (can : format.Writable x) : ∃ j, format.write? x = some j ∧
      format.decode j.compact = some x ∧ format.decode j.indented = some x := by
    obtain ⟨j, written, exact_, denotes⟩ := writes x can
    exact ⟨j, written, (decodes _ x).2 ⟨j, denotes, read?_eq_some_iff.1 (read?_compact exact_)⟩,
      (decodes _ x).2 ⟨j, denotes, read?_eq_some_iff.1 (read?_indented exact_)⟩⟩
  refine ⟨returns, decodes, ?_⟩
  rintro x ⟨text, read⟩
  obtain ⟨j, denotes, -⟩ := (decodes text x).1 read
  obtain ⟨canonical, written, back, -⟩ := returns x (writable x j denotes)
  refine ⟨canonical.compact, back, fun text' read' => ?_⟩
  simp only [rewrite, read', written, Option.bind_eq_bind, Option.bind_some, Option.pure_def]

end Format

end Json

/-! ### The three formats -/

namespace HashPartitioning

def names : List String := ["replication_factor", "table", "key", "partitions", "immediate"]

/-- the values of the fields in JSON -/
def values (p : HashPartitioning) : List Json :=
  [.ofNat p.replicationFactor.toNat, .ofString p.table, .ofString p.key,
    .ofNat p.partitions.toNat, .bool p.immediate]

/-- a partitioning of a table in JSON: its five fields -/
def format : Json.Format HashPartitioning where
  write? p := some p.toJson
  ofJson? := ofJson?
  Writable _ := True
  Denotes p j := j.Lists names p.values

lemma ofJson?_eq_some_iff {j : Json} {p : HashPartitioning} :
    ofJson? j = some p ↔ j.Lists names p.values := by
  have record {values : List Json} : j.record? names = some values ↔
      values.length = names.length ∧ j.Lists names values :=
    Json.record?_eq_some_iff (by decide)
  constructor
  · intro read
    simp only [ofJson?, Option.bind_eq_bind, Option.bind_eq_some_iff] at read
    obtain ⟨values, recorded, read⟩ := read
    split at read
    · simp only [Option.bind_eq_some_iff, Json.toUInt32?_eq_some_iff, Json.toText?_eq_some_iff,
        Json.toBool?_eq_some_iff, Option.pure_def, Option.some.injEq] at read
      obtain ⟨factor, rfl, table, rfl, key, rfl, partitions, rfl, immediate, rfl, rfl⟩ := read
      exact (record.1 recorded).2
    · cases read
  · intro listed
    have recorded := record.2 ⟨rfl, listed⟩
    simp only [ofJson?, Option.bind_eq_bind]
    rw [show j.record? ["replication_factor", "table", "key", "partitions", "immediate"] =
      some p.values from recorded]
    simp [values]

lemma lists_toJson (p : HashPartitioning) : p.toJson.Lists names p.values :=
  Json.lists_ofFields names p.values

lemma exact_toJson (p : HashPartitioning) : p.toJson.Exact := by
  refine Json.exact_ofFields fun f among => ?_
  simp only [List.mem_cons, List.not_mem_nil, or_false] at among
  rcases among with rfl | rfl | rfl | rfl | rfl <;> trivial

end HashPartitioning

namespace Identity

def names : List String := ["name", "port", "data_directory"]

/-- an identity in JSON: its three fields, as long as its directory is a text -/
def format : Json.Format Identity where
  write? := toJson?
  ofJson? := ofJson?
  Writable i := ∃ directory, i.dataDirectory = .ofString directory
  Denotes i j := ∃ directory, i.dataDirectory = .ofString directory ∧
    j.Lists names [.ofString i.name, .ofNat i.port.toNat, .ofString directory]

lemma ofJson?_eq_some_iff {j : Json} {i : Identity} :
    ofJson? j = some i ↔ format.Denotes i j := by
  have record {values : List Json} : j.record? names = some values ↔
      values.length = names.length ∧ j.Lists names values :=
    Json.record?_eq_some_iff (by decide)
  constructor
  · intro read
    simp only [ofJson?, Option.bind_eq_bind, Option.bind_eq_some_iff] at read
    obtain ⟨values, recorded, read⟩ := read
    split at read
    · simp only [Option.bind_eq_some_iff, Json.toUInt16?_eq_some_iff, Json.toText?_eq_some_iff,
        Option.pure_def, Option.some.injEq] at read
      obtain ⟨name, rfl, port, rfl, directory, rfl, rfl⟩ := read
      exact ⟨directory, rfl, (record.1 recorded).2⟩
    · cases read
  · rintro ⟨directory, spelled, listed⟩
    have recorded := record.2 ⟨rfl, listed⟩
    simp only [ofJson?, Option.bind_eq_bind]
    rw [show j.record? ["name", "port", "data_directory"] = _ from recorded]
    simp [← spelled]

lemma exists_toJson? {i : Identity} (can : format.Writable i) :
    ∃ j, i.toJson? = some j ∧ j.Exact ∧ format.Denotes i j := by
  obtain ⟨directory, spelled⟩ := can
  have read : i.dataDirectory.text? = some directory :=
    Utf8.strict_eq_some_iff.2 (congrArg Path.bytes spelled)
  have written : i.toJson? = some (.ofFields (names.zip
      [.ofString i.name, .ofNat i.port.toNat, .ofString directory])) := by
    rw [toJson?, read]
    rfl
  refine ⟨_, written, Json.exact_ofFields fun f among => ?_, directory, spelled,
    Json.lists_ofFields names _⟩
  simp only [names, List.zip_cons_cons, List.zip_nil_right] at among
  simp only [List.mem_cons, List.not_mem_nil, or_false] at among
  rcases among with rfl | rfl | rfl <;> trivial

end Identity

namespace ConnectionString

/-- a connection string in JSON: its text -/
def format : Json.Format ConnectionString where
  write? c := some c.toJson
  ofJson? := ofJson?
  Writable _ := True
  Denotes c j := j = .ofString c.text

lemma ofJson?_eq_some_iff {j : Json} {c : ConnectionString} :
    ofJson? j = some c ↔ j = .ofString c.text := by
  simp only [ofJson?, Option.map_eq_some_iff, Json.toText?_eq_some_iff]
  constructor
  · rintro ⟨text, rfl, rfl⟩
    rfl
  · rintro rfl
    exact ⟨c.text, rfl, rfl⟩

end ConnectionString

/-- **Values are written as JSON that is read as themselves**, in either layout; any other spelling
of them is read as them too, and rewritten as one and the same text. -/
theorem serialised_values_faithful :
    HashPartitioning.format.Faithful ∧ Identity.format.Faithful ∧
      ConnectionString.format.Faithful := by
  refine ⟨Json.Format.faithful_of (fun _ _ => HashPartitioning.ofJson?_eq_some_iff)
      (fun p _ => ⟨_, rfl, p.exact_toJson, p.lists_toJson⟩) (fun _ _ _ => trivial),
    Json.Format.faithful_of (fun _ _ => Identity.ofJson?_eq_some_iff)
      (fun _ can => Identity.exists_toJson? can) ?_,
    Json.Format.faithful_of (fun _ _ => ConnectionString.ofJson?_eq_some_iff)
      (fun c _ => ⟨_, rfl, rfl, rfl⟩) (fun _ _ _ => trivial)⟩
  rintro i j ⟨directory, spelled, -⟩
  exact ⟨directory, spelled⟩

/-- a partitioning with its fields in another order, one of its own and escapes in its table -/
def scrambled : String :=
  "\x7b \"key\" : \"id\", \"note\": [-1.5e3, null], \"immediate\": true,\n\"table\": " ++
    "\"tr\\u0061ck \\ud83d\\ude00\", \"partitions\":4,\"replication_factor\":2\x7d "

/-- The scrambled text and the array of the same values are read as one partitioning and rewritten
as one text of it. -/
theorem scrambled_rewritten :
    ∃ canonical, HashPartitioning.format.decode canonical = some ⟨2, "track 😀", "id", 4, true⟩ ∧
      HashPartitioning.format.rewrite scrambled = some canonical ∧
      HashPartitioning.format.rewrite "[2, \"track 😀\", \"id\", 4, true]" = some canonical := by
  have read : HashPartitioning.format.decode scrambled = some ⟨2, "track 😀", "id", 4, true⟩ := by
    decide +kernel
  obtain ⟨canonical, back, all⟩ := serialised_values_faithful.1.rewrites _ ⟨_, read⟩
  exact ⟨canonical, back, all _ read, all _ (by decide +kernel)⟩

end ShardCluster
