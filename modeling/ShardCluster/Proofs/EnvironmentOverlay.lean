import Mathlib
import ShardCluster.Cluster.Config
import ShardCluster.Proofs.JsonGrammar
import ShardCluster.Proofs.TimeSettings
import ShardCluster.Proofs.WellFormedText

/-!
# A configuration from the environment

Every field of a configuration is read from a variable of its own, the base directory also from the
one for temporary files where its own is unset, and from no other. `Config.ofEnvironment_overlaid`
says what each one is (`Config.Overlaid`), and that a change of one variable shows in no field but
the one it is for.
-/

namespace ShardCluster

/-! ### Reading a variable -/

namespace Environment

variable {env : Environment} {name : String} {s : String} {n : Nat}

lemma text?_eq_some_iff : env.text? name = some s ↔ env.raw? name = some (Utf8.encode s) := by
  rw [text?, Option.bind_eq_bind, Option.bind_eq_some_iff]
  constructor
  · rintro ⟨bytes, set, read⟩
    rw [set, Utf8.strict_eq_some_iff.1 read]
  · intro set
    exact ⟨_, set, Utf8.strict_eq_some_iff.2 rfl⟩

/-- what a number looks like: at least one digit, with a plus sign in front or without -/
def Writes (s : String) (n : Nat) : Prop :=
  ∃ sign digits, s.toList = sign ++ digits ∧ (sign = [] ∨ sign = ['+']) ∧ digits ≠ [] ∧
    (∀ d ∈ digits, d.isDigit) ∧ Nat.ofDigitChars 10 digits 0 = n

/-- a variable is set to the text of a number that fits a 64-bit word -/
def Sets (env : Environment) (name : String) (n : Nat) : Prop :=
  ∃ s, env.raw? name = some (Utf8.encode s) ∧ Writes s n ∧ n < 2 ^ 64

lemma digits?_eq_some_iff {cs : List Char} :
    digits? cs = some n ↔ cs ≠ [] ∧ (∀ d ∈ cs, d.isDigit) ∧ Nat.ofDigitChars 10 cs 0 = n := by
  have folded : cs.foldl (fun n d => n * 10 + (d.toNat - 48)) 0 = Nat.ofDigitChars 10 cs 0 :=
    Json.decimal_eq cs
  rw [digits?, folded]
  split
  · next faulty =>
    simp at faulty ⊢
    grind
  · next sound =>
    simp at sound ⊢
    grind

/-- what is left of a number without a plus sign in front -/
def unsigned : List Char → List Char
  | '+' :: cs => cs
  | cs => cs

lemma writes_iff : Writes s n ↔ digits? (unsigned s.toList) = some n := by
  rw [digits?_eq_some_iff]
  constructor
  · rintro ⟨sign, digits, spelled, rfl | rfl, some_, all, value⟩
    · have unsigned_ : unsigned digits = digits := by
        unfold unsigned
        split
        · exact absurd (all '+' List.mem_cons_self) (by decide)
        · rfl
      rw [spelled, List.nil_append, unsigned_]
      exact ⟨some_, all, value⟩
    · rw [spelled]
      exact ⟨some_, all, value⟩
  · intro held
    unfold unsigned at held
    split at held
    · next cs spelled => exact ⟨['+'], cs, spelled, .inr rfl, held⟩
    · exact ⟨[], s.toList, rfl, .inl rfl, held⟩

lemma number?_eq_some_iff {w : UInt64} : number? s = some w ↔ Writes s w.toNat := by
  have whole : number? s = (digits? (unsigned s.toList)).bind fun n =>
      if n < UInt64.size then some (UInt64.ofNat n) else none := rfl
  rw [whole, writes_iff, Option.bind_eq_some_iff]
  constructor
  · rintro ⟨n, digits, fits⟩
    split at fits
    · next held => rw [digits, ← Option.some.inj fits, UInt64.toNat_ofNat_of_lt' held]
    · cases fits
  · intro digits
    exact ⟨w.toNat, digits, by rw [if_pos w.toNat_lt, UInt64.ofNat_toNat]⟩

/-- A number that a variable is set to is read, whatever stands in for it otherwise. -/
lemma numberOr_of_sets (set : env.Sets name n) (fallback : UInt64) :
    (env.numberOr name fallback).toNat = n := by
  obtain ⟨s, spelled, written, held⟩ := set
  have exact_ : (UInt64.ofNat n).toNat = n := UInt64.toNat_ofNat_of_lt' held
  rw [numberOr, text?_eq_some_iff.2 spelled, Option.bind_eq_bind, Option.bind_some,
    number?_eq_some_iff.2 (exact_.symm ▸ written), Option.getD_some, exact_]

lemma numberOr_of_not_sets (unset : ∀ n, ¬ env.Sets name n) (fallback : UInt64) :
    env.numberOr name fallback = fallback := by
  have nothing : (env.text? name >>= number?) = none := by
    rw [Option.bind_eq_bind, Option.bind_eq_none_iff]
    intro s spelled
    refine Option.eq_none_iff_forall_ne_some.2 fun w read => unset w.toNat ?_
    exact ⟨s, text?_eq_some_iff.1 spelled, number?_eq_some_iff.1 read, w.toNat_lt⟩
  rw [numberOr, nothing, Option.getD_none]

/-! ### Switches -/

/-- the same character, or the capital and the small form of one letter of ASCII -/
def SameLetter (c d : Char) : Prop :=
  c = d ∨ c.isUpper ∧ d.toNat = c.toNat + 32 ∨ d.isUpper ∧ c.toNat = d.toNat + 32

/-- two texts that differ in the case of ASCII letters at most -/
def SameWord (s t : String) : Prop := List.Forall₂ SameLetter s.toList t.toList

lemma isUpper_iff {c : Char} : c.isUpper ↔ 65 ≤ c.toNat ∧ c.toNat ≤ 90 := by
  simp [Char.isUpper, UInt32.le_iff_toNat_le]

lemma toNat_toLower {c : Char} (capital : c.isUpper) : c.toLower.toNat = c.toNat + 32 := by
  have bounds := isUpper_iff.1 capital
  have within : c.val ≥ 'A'.val ∧ c.val ≤ 'Z'.val := by simpa [Char.isUpper] using capital
  rw [Char.toLower, dif_pos within]
  change (c.val + 32).toNat = c.val.toNat + 32
  rw [UInt32.toNat_add]
  change (c.toNat + 32) % _ = c.toNat + 32
  omega

lemma toLower_of_not {c : Char} (small : c.isUpper = false) : c.toLower = c := by
  have without : ¬ (c.val ≥ 'A'.val ∧ c.val ≤ 'Z'.val) := by simpa [Char.isUpper] using small
  rw [Char.toLower, dif_neg without]

lemma toLower_eq_iff {c d : Char} (small : d.isUpper = false) : c.toLower = d ↔ SameLetter c d := by
  rw [SameLetter, small]
  by_cases capital : c.isUpper
  · have different : c ≠ d := by
      rintro rfl
      simp [capital] at small
    rw [← Char.toNat_inj, toNat_toLower capital]
    simp [capital, different, eq_comm]
  · simp [toLower_of_not (Bool.eq_false_iff.2 capital), capital]

lemma lowered_eq_iff {t : String} (small : ∀ d ∈ t.toList, d.isUpper = false) :
    s.toList.map Char.toLower = t.toList ↔ SameWord s t := by
  rw [SameWord]
  generalize s.toList = cs
  generalize t.toList = ds at small ⊢
  induction ds generalizing cs with
  | nil => simp
  | cons d ds ih =>
    cases cs with
    | nil => simp
    | cons c cs =>
      rw [List.map_cons, List.cons_eq_cons, List.forall₂_cons,
        toLower_eq_iff (small d List.mem_cons_self),
        ih cs fun d among => small d (List.mem_cons_of_mem _ among)]

lemma switch_iff : env.switch name = true ↔
    ∃ s, env.raw? name = some (Utf8.encode s) ∧
      (s = "1" ∨ SameWord s "true" ∨ SameWord s "on") := by
  rw [switch, Option.any_eq_true]
  refine exists_congr fun s => ?_
  rw [text?_eq_some_iff, isOn, ← lowered_eq_iff (t := "true") (by simp),
    ← lowered_eq_iff (t := "on") (by simp)]
  simp only [Bool.or_eq_true, beq_iff_eq, or_assoc]

end Environment

/-! ### The fields of a configuration -/

namespace Config

open Environment (Sets SameWord)

/-- the fields of a configuration -/
inductive Field where
  | dbname
  | baseDirectory
  | startTimeout
  | plannedWorkers
  | cmdRetryNaptime
  | pollInterval
  | walReceiverTimeout
  | syncReplicas
  deriving DecidableEq

namespace Field

/-- the kind of thing a field holds -/
abbrev Value : Field → Type
  | dbname => String
  | baseDirectory => Path
  | startTimeout | cmdRetryNaptime | pollInterval | walReceiverTimeout => Duration
  | plannedWorkers => Nat
  | syncReplicas => Bool

/-- what a configuration has in a field -/
def read (config : Config) : (field : Field) → field.Value
  | dbname => config.dbname
  | baseDirectory => config.baseDirectory
  | startTimeout => config.startTimeout
  | plannedWorkers => config.plannedWorkers
  | cmdRetryNaptime => config.cmdRetryNaptime
  | pollInterval => config.pollInterval
  | walReceiverTimeout => config.walReceiverTimeout
  | syncReplicas => config.syncReplicas

/-- the variable of its own that a field has -/
def own : Field → String
  | dbname => "SHARDLORD_DBNAME"
  | baseDirectory => "SHARDLORD_BASE_DIR"
  | startTimeout => "SHARDLORD_START_TIMEOUT_SECS"
  | plannedWorkers => "SHARDLORD_WORKERS"
  | cmdRetryNaptime => "SHARDLORD_CMD_RETRY_NAPTIME_MS"
  | pollInterval => "SHARDLORD_POLL_INTERVAL_MS"
  | walReceiverTimeout => "SHARDLORD_WAL_RECEIVER_TIMEOUT_SECS"
  | syncReplicas => "SHARDLORD_SYNC_REPLICAS"

/-- the variables a field is read from -/
def sources (env : Environment) (field : Field) : List String :=
  if field = baseDirectory ∧ env.raw? baseDirectory.own = none then [field.own, "TMPDIR"]
  else [field.own]

/-- the field a variable is for -/
def ofSource? (name : String) : Option Field :=
  if name = "TMPDIR" then some baseDirectory
  else [dbname, baseDirectory, startTimeout, plannedWorkers, cmdRetryNaptime, pollInterval,
    walReceiverTimeout, syncReplicas].find? (·.own = name)

lemma baseDirectory_of_set {env : Environment} {bytes : Bytes}
    (set : env.raw? baseDirectory.own = some bytes) :
    (ofEnvironment env).baseDirectory = ⟨bytes⟩ := by
  simp only [own] at set
  simp only [ofEnvironment, set]

lemma baseDirectory_of_unset {env : Environment} (unset : env.raw? baseDirectory.own = none) :
    (ofEnvironment env).baseDirectory = Path.child ⟨env.temporaryDirectory⟩ "shardlord" := by
  simp only [own] at unset
  simp only [ofEnvironment, unset]

/-- **A field is read from its sources and from nothing else.** -/
theorem read_congr {env env' : Environment} (field : Field)
    (agree : ∀ name ∈ field.sources env, env'.raw? name = env.raw? name) :
    read (ofEnvironment env') field = read (ofEnvironment env) field := by
  have same : env'.raw? field.own = env.raw? field.own := by
    refine agree field.own ?_
    unfold sources
    split <;> simp
  have sameText : env'.text? field.own = env.text? field.own := by
    rw [Environment.text?, same, Environment.text?]
  have sameNumber (fallback : UInt64) :
      env'.numberOr field.own fallback = env.numberOr field.own fallback := by
    rw [Environment.numberOr, sameText, Environment.numberOr]
  cases field with
  | dbname => exact congrArg (·.getD defaultDbname) sameText
  | baseDirectory =>
    change (ofEnvironment env').baseDirectory = (ofEnvironment env).baseDirectory
    cases set : env.raw? baseDirectory.own with
    | some bytes => rw [baseDirectory_of_set set, baseDirectory_of_set (same.trans set)]
    | none =>
      have temporary : env'.raw? "TMPDIR" = env.raw? "TMPDIR" := by
        refine agree "TMPDIR" ?_
        simp [sources, set]
      rw [baseDirectory_of_unset set, baseDirectory_of_unset (same.trans set),
        Environment.temporaryDirectory, temporary, Environment.temporaryDirectory]
  | startTimeout => exact congrArg Duration.ofSeconds (sameNumber 60)
  | plannedWorkers => exact congrArg UInt64.toNat (sameNumber 3)
  | cmdRetryNaptime => exact congrArg Duration.ofMillis (sameNumber 500)
  | pollInterval => exact congrArg Duration.ofMillis (sameNumber 500)
  | walReceiverTimeout => exact congrArg Duration.ofSeconds (sameNumber 60)
  | syncReplicas => exact congrArg (·.any Environment.isOn) sameText

lemma ofSource?_eq_some {env : Environment} {field : Field} {name : String}
    (source : name ∈ field.sources env) : ofSource? name = some field := by
  unfold sources at source
  split at source
  · next based =>
    rw [based.1] at source ⊢
    simp at source
    rcases source with rfl | rfl <;> decide
  · rw [List.mem_singleton.1 source]
    cases field <;> decide

end Field

/-- a field that holds a number of units -/
structure NumberField where
  field : Field
  /-- what a configuration has in the field -/
  amount : Config → Nat
  /-- what each one of a number stands for -/
  unit : Nat
  /-- the number where none is set -/
  fallback : Nat

/-- The fields that hold numbers; spans of time are in nanoseconds. -/
def numberFields : List NumberField :=
  [⟨.startTimeout, (·.startTimeout.totalNanos), 1000000000, 60⟩,
    ⟨.plannedWorkers, (·.plannedWorkers), 1, 3⟩,
    ⟨.cmdRetryNaptime, (·.cmdRetryNaptime.totalNanos), 1000000, 500⟩,
    ⟨.pollInterval, (·.pollInterval.totalNanos), 1000000, 500⟩,
    ⟨.walReceiverTimeout, (·.walReceiverTimeout.totalNanos), 1000000000, 60⟩]

/-- **What a configuration takes from an environment.** -/
structure Overlaid (env : Environment) (config : Config) : Prop where
  /-- a number that is set is taken -/
  number : ∀ f ∈ numberFields, ∀ n, env.Sets f.field.own n → f.amount config = n * f.unit
  /-- where none is set, the default stands -/
  no_number : ∀ f ∈ numberFields, (∀ n, ¬ env.Sets f.field.own n) →
    f.amount config = f.fallback * f.unit
  /-- a name of the database is any text -/
  dbname : ∀ s, env.raw? Field.dbname.own = some (Utf8.encode s) → config.dbname = s
  /-- where no text is set, the default stands -/
  no_dbname : (∀ s, env.raw? Field.dbname.own ≠ some (Utf8.encode s)) → config.dbname = "postgres"
  /-- the base directory has the octets that are set -/
  baseDirectory : ∀ bytes, env.raw? Field.baseDirectory.own = some bytes →
    config.baseDirectory = ⟨bytes⟩
  /-- where none is set, it is within the directory for temporary files -/
  no_baseDirectory : env.raw? Field.baseDirectory.own = none → config.baseDirectory =
    Path.child ⟨(env.raw? "TMPDIR").getD (Utf8.encode "/tmp")⟩ "shardlord"
  /-- one of three words turns the switch on, in letters of either case -/
  syncReplicas : config.syncReplicas = true ↔
    ∃ s, env.raw? Field.syncReplicas.own = some (Utf8.encode s) ∧
      (s = "1" ∨ SameWord s "true" ∨ SameWord s "on")

lemma overlaid_number {env : Environment} {f : NumberField} (among : f ∈ numberFields) :
    f.amount (ofEnvironment env) =
      (env.numberOr f.field.own (.ofNat f.fallback)).toNat * f.unit := by
  have seconds (n : UInt64) : (Duration.ofSeconds n).totalNanos = n.toNat * 1000000000 :=
    Nat.add_zero _
  simp only [numberFields, List.mem_cons, List.not_mem_nil, or_false] at among
  rcases among with rfl | rfl | rfl | rfl | rfl
  · exact seconds _
  · exact (Nat.mul_one _).symm
  · exact Duration.totalNanos_ofMillis _
  · exact Duration.totalNanos_ofMillis _
  · exact seconds _

lemma overlaid_ofEnvironment (env : Environment) : Overlaid env (ofEnvironment env) where
  number f among n set := by
    rw [overlaid_number among, Environment.numberOr_of_sets set]
  no_number f among unset := by
    rw [overlaid_number among, Environment.numberOr_of_not_sets unset]
    simp only [numberFields, List.mem_cons, List.not_mem_nil, or_false] at among
    rcases among with rfl | rfl | rfl | rfl | rfl <;> rfl
  dbname s set := by
    change (env.text? Field.dbname.own).getD _ = s
    rw [Environment.text?_eq_some_iff.2 set, Option.getD_some]
  no_dbname unset := by
    have nothing : env.text? Field.dbname.own = none :=
      Option.eq_none_iff_forall_ne_some.2 fun s read =>
        unset s (Environment.text?_eq_some_iff.1 read)
    change (env.text? Field.dbname.own).getD _ = _
    rw [nothing, Option.getD_none, defaultDbname]
  baseDirectory bytes set := Field.baseDirectory_of_set set
  no_baseDirectory unset := Field.baseDirectory_of_unset unset
  syncReplicas := Environment.switch_iff

/-- **Every field of a configuration is its own variable's, and its default otherwise**, and of two
environments that differ in one variable the configurations differ in no field but the one that the
variable is for. -/
theorem ofEnvironment_overlaid (env : Environment) :
    Overlaid env (ofEnvironment env) ∧
      (∀ (field : Field) (env' : Environment),
        (∀ name ∈ field.sources env, env'.raw? name = env.raw? name) →
        field.read (ofEnvironment env') = field.read (ofEnvironment env)) ∧
      ∀ (name : String) (env' : Environment),
        (∀ other, other ≠ name → env'.raw? other = env.raw? other) →
        ∀ field, Field.ofSource? name ≠ some field →
          field.read (ofEnvironment env') = field.read (ofEnvironment env) := by
  refine ⟨overlaid_ofEnvironment env, fun field env' => field.read_congr, ?_⟩
  intro name env' unchanged field unrelated
  refine field.read_congr fun other source => unchanged other ?_
  rintro rfl
  exact unrelated (Field.ofSource?_eq_some source)

/-- an environment with a signed number, one too many for a word, octets that are no text and a
word in letters of both cases -/
def mixedEnvironment : Environment :=
  ⟨[("SHARDLORD_WORKERS", Utf8.encode "+007"),
    ("SHARDLORD_POLL_INTERVAL_MS", Utf8.encode "18446744073709551616"),
    ("SHARDLORD_DBNAME", [0x64, 0xFF]), ("SHARDLORD_SYNC_REPLICAS", Utf8.encode "oN")]⟩

/-- The number is taken and so is the word, the other two fields have their defaults, and without
the number no field but its own is another. -/
theorem mixedEnvironment_overlaid :
    (ofEnvironment mixedEnvironment).plannedWorkers = 7 ∧
      (ofEnvironment mixedEnvironment).pollInterval.totalNanos = 500000000 ∧
      (ofEnvironment mixedEnvironment).dbname = "postgres" ∧
      (ofEnvironment mixedEnvironment).syncReplicas = true ∧
      ∀ field, field ≠ .plannedWorkers →
        Field.read (ofEnvironment ⟨mixedEnvironment.bindings.tail⟩) field =
          Field.read (ofEnvironment mixedEnvironment) field := by
  obtain ⟨overlaid, -, apart⟩ := ofEnvironment_overlaid mixedEnvironment
  have workers : mixedEnvironment.Sets Field.plannedWorkers.own 7 :=
    ⟨"+007", by decide +kernel, ⟨['+'], ['0', '0', '7'], by decide +kernel, .inr rfl, by simp,
      by simp, by decide⟩, by decide⟩
  have no_poll (n : Nat) : ¬ mixedEnvironment.Sets Field.pollInterval.own n := by
    rintro ⟨s, spelled, written, held⟩
    have text : mixedEnvironment.text? Field.pollInterval.own = some "18446744073709551616" := by
      decide +kernel
    obtain rfl := Option.some.inj (text.symm.trans (Environment.text?_eq_some_iff.2 spelled))
    have read : Environment.digits? (Environment.unsigned "18446744073709551616".toList) =
      some 18446744073709551616 := by decide +kernel
    rw [Environment.writes_iff, read] at written
    obtain rfl := Option.some.inj written
    exact absurd held (by decide)
  have no_dbname (s : String) : mixedEnvironment.raw? Field.dbname.own ≠ some (Utf8.encode s) := by
    intro spelled
    have text := Environment.text?_eq_some_iff.2 spelled
    exact absurd (text.symm.trans (by decide +kernel : _ = none)) (by simp)
  refine ⟨overlaid.number ⟨.plannedWorkers, (·.plannedWorkers), 1, 3⟩ (by simp [numberFields]) 7
      workers,
    overlaid.no_number ⟨.pollInterval, (·.pollInterval.totalNanos), 1000000, 500⟩
      (by simp [numberFields]) no_poll,
    overlaid.no_dbname no_dbname,
    overlaid.syncReplicas.2 ⟨"oN", by decide +kernel, .inr (.inr ?_)⟩, ?_⟩
  · rw [← Environment.lowered_eq_iff (by simp)]
    decide +kernel
  · intro field other
    refine apart "SHARDLORD_WORKERS" _ (fun name unlike => ?_) field ?_
    · simp [Environment.raw?, mixedEnvironment, List.lookup, beq_eq_false_iff_ne.2 unlike]
    · intro same
      exact other (Option.some.inj (same.symm.trans (by decide)))

end Config

end ShardCluster
