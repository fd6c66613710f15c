import Mathlib.Data.List.Induction
import Mathlib.Data.List.TakeWhile
import ShardCluster.Node.Template
import ShardCluster.Text.Lines

/-!
# Rendered settings

The block of a node, read back line by line: a line that begins with a number sign is skipped, and
every other one is split at its first equals sign. A text that ends with a line feed can be read
apart from what follows it (`lines_append`), so a block is its heading and its settings one by one,
and each of them comes back exactly if its value stays on its line (`read?_line`). From that
`rendered_reads_back` says which blocks come back as the settings they were rendered from: those in
which no name, database name or connection string breaks a line.
-/

namespace ShardCluster

namespace Text

/-! ### Lines -/

/-- a line without the carriage return that belongs to its ending -/
def chomp (line : List Char) : List Char :=
  if line.getLast? = some '\x0d' then line.dropLast else line

/-- the text ends with a line feed -/
def Ended (text : String) : Prop := ∃ front : List Char, text.toList = front ++ ['\n']

lemma linesFrom_feed (line rest : List Char) :
    linesFrom line ('\n' :: rest) = chomp line.reverse :: linesFrom [] rest := by
  rw [linesFrom.eq_def]
  simp only [↓reduceIte, chomp, List.getLast?_reverse]
  congr 1
  split
  · next before => simp
  · next other =>
    rw [if_neg]
    intro returned
    obtain ⟨before, rfl⟩ := List.head?_eq_some_iff.1 returned
    exact other before rfl

lemma linesFrom_other {c : Char} (other : c ≠ '\n') (line rest : List Char) :
    linesFrom line (c :: rest) = linesFrom (c :: line) rest := by
  rw [linesFrom.eq_def]
  simp only [if_neg other]

/-- What comes after a line feed is read as if nothing came before it. -/
lemma linesFrom_append (line text rest : List Char) :
    linesFrom line (text ++ '\n' :: rest)
      = linesFrom line (text ++ ['\n']) ++ linesFrom [] rest := by
  induction text generalizing line with
  | nil =>
    rw [List.nil_append, List.nil_append, linesFrom_feed, linesFrom_feed]
    rfl
  | cons c text ih =>
    by_cases feed : c = '\n'
    · subst feed
      rw [List.cons_append, List.cons_append, linesFrom_feed, linesFrom_feed, ih,
        List.cons_append]
    · rw [List.cons_append, List.cons_append, linesFrom_other feed, linesFrom_other feed, ih]

lemma linesFrom_first (line text : List Char) :
    ∃ others, linesFrom line (text ++ ['\n'])
        = chomp (line.reverse ++ text.takeWhile (· ≠ '\n')) :: others
      ∧ ('\n' ∉ text → others = []) := by
  induction text generalizing line with
  | nil => exact ⟨[], by simp [linesFrom_feed, linesFrom], fun _ => rfl⟩
  | cons c text ih =>
    by_cases feed : c = '\n'
    · subst feed
      refine ⟨linesFrom [] (text ++ ['\n']), ?_, fun unbroken => ?_⟩
      · rw [List.cons_append, linesFrom_feed]
        simp
      · exact absurd List.mem_cons_self unbroken
    · obtain ⟨others, first, alone⟩ := ih (c :: line)
      refine ⟨others, ?_, fun unbroken => ?_⟩
      · rw [List.cons_append, linesFrom_other feed, first]
        simp [feed]
      · exact alone fun there => unbroken (List.mem_cons_of_mem _ there)

lemma chomp_append {front : List Char} (kept : front.getLast? ≠ some '\x0d') (line : List Char) :
    chomp (front ++ line) = front ++ chomp line := by
  cases line using List.reverseRecOn with
  | nil => simp [chomp, kept]
  | append_singleton line c =>
    simp only [chomp, ← List.append_assoc, List.getLast?_concat, List.dropLast_concat]
    split
    · rfl
    · rw [List.append_assoc]

/-- What is read of a line is all of it if it has no line feed and no carriage return to lose. -/
lemma chomp_takeWhile_eq_iff (text : List Char) :
    chomp (text.takeWhile (· ≠ '\n')) = text
      ↔ '\n' ∉ text ∧ text.getLast? ≠ some '\x0d' := by
  constructor
  · intro whole
    have shorter : (chomp (text.takeWhile (· ≠ '\n'))).Sublist (text.takeWhile (· ≠ '\n')) := by
      unfold chomp
      split
      · exact List.dropLast_sublist _
      · exact List.Sublist.refl _
    have unbroken : '\n' ∉ text := by
      intro there
      rw [← whole] at there
      have passed := List.mem_takeWhile_imp (shorter.subset there)
      exact absurd passed (by decide)
    have all : text.takeWhile (· ≠ '\n') = text :=
      List.takeWhile_eq_self_iff.2 fun c there => decide_eq_true fun same => unbroken (same ▸ there)
    refine ⟨unbroken, fun returned => ?_⟩
    rw [all, chomp, if_pos returned] at whole
    have length := congrArg List.length whole
    have nonempty : text ≠ [] := by
      rintro rfl
      cases returned
    have positive := List.length_pos_iff.2 nonempty
    rw [List.length_dropLast] at length
    omega
  · rintro ⟨unbroken, kept⟩
    have all : text.takeWhile (· ≠ '\n') = text :=
      List.takeWhile_eq_self_iff.2 fun c there => decide_eq_true fun same => unbroken (same ▸ there)
    rw [all, chomp, if_neg kept]

lemma lines_append {text : String} (ended : Ended text) (rest : String) :
    lines (text ++ rest) = lines text ++ lines rest := by
  obtain ⟨front, spelled⟩ := ended
  rw [lines, lines, lines, String.toList_append, spelled, List.append_assoc,
    List.singleton_append, linesFrom_append, List.map_append]

end Text

/-! ### Reading a block -/

/-- what stands before the first equals sign between blanks, and what stands after it -/
def Setting.split : List Char → Option (List Char × List Char)
  | [] => none
  | ' ' :: '=' :: ' ' :: value => some ([], value)
  | c :: rest => (split rest).map fun parts => (c :: parts.1, parts.2)

/-- the setting on a line -/
def Setting.ofLine? (line : String) : Option Setting :=
  (Setting.split line.toList).map fun parts => ⟨String.ofList parts.1, String.ofList parts.2⟩

/-- the value stays on the line of its setting -/
def Setting.OnOneLine (s : Setting) : Prop :=
  '\n' ∉ s.value.toList ∧ s.value.toList.getLast? ≠ some '\x0d'

instance (s : Setting) : Decidable s.OnOneLine :=
  inferInstanceAs (Decidable (_ ∧ _))

/-- a key with no blank, no line feed and no number sign at its head -/
def Setting.PlainKey (s : Setting) : Prop :=
  ' ' ∉ s.key.toList ∧ '\n' ∉ s.key.toList ∧ s.key.toList.head? ≠ some '#'

namespace Template

/-- the settings on these lines, but for those that begin with a number sign -/
def readLines (lines : List String) : Option (List Setting) :=
  (lines.filter fun line => line.toList.head? ≠ some '#').mapM Setting.ofLine?

/-- the settings of a block -/
def read? (block : String) : Option (List Setting) := readLines (Text.lines block)

lemma readLines_append (lines others : List String) :
    readLines (lines ++ others)
      = (readLines lines).bind fun read => (readLines others).map (read ++ ·) := by
  unfold readLines
  rw [List.filter_append, List.mapM_append]
  simp only [Option.bind_eq_bind, Option.map_eq_bind]
  rfl

lemma read?_append {block : String} (ended : Text.Ended block) (rest : String) :
    read? (block ++ rest) = (read? block).bind fun read => (read? rest).map (read ++ ·) := by
  rw [read?, Text.lines_append ended, readLines_append]
  rfl

/-! ### The line of a setting -/

lemma split_key {key : List Char} (unspaced : ' ' ∉ key) (value : List Char) :
    Setting.split (key ++ ' ' :: '=' :: ' ' :: value) = some (key, value) := by
  induction key with
  | nil => rfl
  | cons c key ih =>
    have other : c ≠ ' ' := fun same => unspaced (same ▸ List.mem_cons_self)
    rw [List.cons_append, Setting.split]
    · rw [ih fun there => unspaced (List.mem_cons_of_mem _ there)]
      rfl
    · intro _ same
      exact absurd same other

section Line

variable {s : Setting} (plain : s.PlainKey)

include plain

/-- The first setting on the line has the key, and as much of the value as its line holds. -/
lemma lines_line :
    ∃ first others, Text.lines s.line = first :: others ∧ first.toList.head? ≠ some '#'
      ∧ Setting.ofLine? first
        = some ⟨s.key, String.ofList (Text.chomp (s.value.toList.takeWhile (· ≠ '\n')))⟩
      ∧ ('\n' ∉ s.value.toList → others = []) := by
  obtain ⟨unspaced, unbroken, unmarked⟩ := plain
  set kept := Text.chomp (s.value.toList.takeWhile (· ≠ '\n')) with kept_def
  have spelled : s.line.toList = (s.key.toList ++ [' ', '=', ' '] ++ s.value.toList) ++ ['\n'] := by
    simp [Setting.line, String.toList_append]
  have front : (s.key.toList ++ [' ', '=', ' '] ++ s.value.toList).takeWhile (· ≠ '\n')
      = s.key.toList ++ [' ', '=', ' '] ++ s.value.toList.takeWhile (· ≠ '\n') := by
    refine List.takeWhile_append_of_pos fun c there => ?_
    rcases List.mem_append.1 there with inKey | inSign
    · exact decide_eq_true fun same => unbroken (same ▸ inKey)
    · simp only [List.mem_cons, List.not_mem_nil, or_false] at inSign
      rcases inSign with rfl | rfl | rfl <;> decide
  obtain ⟨others, first, alone⟩ :=
    Text.linesFrom_first [] (s.key.toList ++ [' ', '=', ' '] ++ s.value.toList)
  rw [List.reverse_nil, List.nil_append, front, Text.chomp_append (by simp)] at first
  refine ⟨String.ofList (s.key.toList ++ [' ', '=', ' '] ++ kept), others.map String.ofList, ?_,
    ?_, ?_, fun unbrokenValue => ?_⟩
  · rw [Text.lines, spelled, first, List.map_cons]
  · rw [String.toList_ofList]
    cases sameKey : s.key.toList with
    | nil => simp
    | cons c key => simpa [sameKey] using unmarked
  · rw [Setting.ofLine?, String.toList_ofList, List.append_assoc]
    simp only [List.cons_append, List.nil_append]
    rw [split_key unspaced, Option.map_some, String.ofList_toList]
  · rw [alone, List.map_nil]
    simp only [List.mem_append, not_or]
    exact ⟨⟨unbroken, by decide⟩, unbrokenValue⟩

/-- A setting is never lost: its line gives one setting at least. -/
lemma length_of_read?_line {read : List Setting} (done : read? s.line = some read) :
    1 ≤ read.length := by
  obtain ⟨first, others, lines, unmarked, setting, -⟩ := lines_line plain
  rw [read?, readLines, lines, List.filter_cons_of_pos (by simpa using unmarked),
    List.mapM_cons, setting] at done
  simp only [Option.bind_eq_bind, Option.bind_some, Option.pure_def, Option.bind_eq_some_iff,
    Option.some.injEq] at done
  obtain ⟨rest, -, rfl⟩ := done
  simp

/-- **A setting comes back exactly if its value stays on its line.** -/
theorem read?_line : read? s.line = some [s] ↔ s.OnOneLine := by
  obtain ⟨first, others, lines, unmarked, setting, alone⟩ := lines_line plain
  have same : (⟨s.key, String.ofList (Text.chomp (s.value.toList.takeWhile (· ≠ '\n')))⟩ : Setting)
      = s ↔ s.OnOneLine := by
    cases s
    simp only [Setting.mk.injEq, true_and, Setting.OnOneLine, ← Text.chomp_takeWhile_eq_iff,
      ← String.toList_inj, String.toList_ofList]
  rw [read?, readLines, lines, List.filter_cons_of_pos (by simpa using unmarked),
    List.mapM_cons, setting, ← same]
  simp only [Option.bind_eq_bind, Option.bind_some, Option.pure_def, Option.bind_eq_some_iff,
    Option.some.injEq, List.cons.injEq]
  constructor
  · rintro ⟨rest, -, first, -⟩
    exact first
  · intro whole
    have unbroken : '\n' ∉ s.value.toList := (same.1 whole).1
    exact ⟨[], by rw [alone unbroken]; rfl, whole, rfl⟩

end Line

/-! ### The block -/

lemma read?_join {settings : List Setting} (plain : ∀ s ∈ settings, s.PlainKey) :
    (∀ read, read? (String.join (settings.map Setting.line)) = some read →
        settings.length ≤ read.length)
      ∧ (read? (String.join (settings.map Setting.line)) = some settings
        ↔ ∀ s ∈ settings, s.OnOneLine) := by
  induction settings with
  | nil => exact ⟨fun _ _ => Nat.zero_le _, by simp [read?, readLines, Text.lines, Text.linesFrom]⟩
  | cons s settings ih =>
    obtain ⟨longer, all⟩ := ih fun other there => plain other (List.mem_cons_of_mem _ there)
    have plainHead := plain s List.mem_cons_self
    have ended : Text.Ended s.line := ⟨(s.key ++ " = " ++ s.value).toList, String.toList_append⟩
    have parts : read? (String.join ((s :: settings).map Setting.line))
        = (read? s.line).bind fun read =>
            (read? (String.join (settings.map Setting.line))).map (read ++ ·) := by
      rw [List.map_cons, String.join_cons, read?_append ended]
    rw [parts]
    simp only [Option.bind_eq_some_iff, Option.map_eq_some_iff, List.forall_mem_cons,
      ← read?_line plainHead, ← all]
    constructor
    · rintro read ⟨here, readHere, rest, readRest, rfl⟩
      have some_here := length_of_read?_line plainHead readHere
      have some_rest := longer rest readRest
      rw [List.length_append, List.length_cons]
      omega
    · constructor
      · rintro ⟨here, readHere, rest, readRest, both⟩
        have some_here := length_of_read?_line plainHead readHere
        have some_rest := longer rest readRest
        have length := congrArg List.length both
        rw [List.length_append, List.length_cons] at length
        have single : here.length = [s].length := by
          rw [List.length_singleton]
          omega
        obtain ⟨one, others⟩ := List.append_inj both single
        rw [readHere, readRest, one, others]
        exact ⟨rfl, rfl⟩
      · rintro ⟨one, others⟩
        exact ⟨[s], one, settings, others, rfl⟩

lemma readLines_eq_nil {lines : List String} :
    readLines lines = some [] ↔ ∀ line ∈ lines, line.toList.head? = some '#' := by
  rw [readLines]
  constructor
  · intro none line there
    by_contra unmarked
    have kept : line ∈ lines.filter fun line => line.toList.head? ≠ some '#' :=
      List.mem_filter.2 ⟨there, by simpa using unmarked⟩
    obtain ⟨first, rest, same⟩ := List.exists_cons_of_ne_nil (List.ne_nil_of_mem kept)
    rw [same, List.mapM_cons] at none
    simp [Option.bind_eq_some_iff] at none
  · intro marked
    rw [List.filter_eq_nil_iff.2 fun line there => by simpa using marked line there]
    rfl

/-- the keys only nodes of one role have -/
def roleKeys : Role → List String
  | .coordinator => ["shardman.shardlord", "shardman.shardlord_dbname",
    "shardman.shardlord_connstring", "shardman.cmd_retry_naptime", "shardman.poll_interval"]
  | .worker => ["max_logical_replication_workers", "max_worker_processes", "wal_receiver_timeout"]

/-- the keys every node has -/
def sharedKeys : List String :=
  ["shared_preload_libraries", "log_min_messages", "client_min_messages", "log_line_prefix",
    "log_replication_commands", "synchronous_commit", "wal_level", "max_replication_slots",
    "max_wal_senders", "max_connections", "shardman.sync_replicas"]

/-- the keys of a block, in order -/
def keys (role : Role) : List String :=
  "port" :: "listen_addresses" :: roleKeys role ++ sharedKeys

section Keys

variable (t : Template) (role : Role) (node : Identity) (coordinator : ConnectionString)

lemma map_key_settings : (t.settings role node coordinator).map Setting.key = keys role := by
  cases role <;> rfl

lemma map_key_roleSettings : (t.roleSettings coordinator role).map Setting.key = roleKeys role := by
  cases role <;> rfl

lemma nodup_keys : (keys role).Nodup := by
  cases role <;> decide

lemma disjoint_keys {other : Role} (apart : other ≠ role) {key : String}
    (there : key ∈ roleKeys other) : key ∉ keys role := by
  revert there key
  cases role <;> cases other <;> first | exact absurd rfl apart | decide

lemma plainKey_of_mem {s : Setting} (there : s ∈ t.settings role node coordinator) :
    s.PlainKey := by
  have plain : ∀ key ∈ keys role,
      ' ' ∉ key.toList ∧ '\n' ∉ key.toList ∧ key.toList.head? ≠ some '#' := by
    cases role <;> decide
  refine plain s.key ?_
  rw [← map_key_settings t role node coordinator]
  exact List.mem_map_of_mem there

end Keys

/-! ### Which values stay on their line -/

lemma oneLine_of_alphanum {key value : String} (letters : ∀ c ∈ value.toList, c.isAlphanum = true) :
    Setting.OnOneLine ⟨key, value⟩ := by
  constructor
  · intro there
    exact absurd (letters _ there) (by decide)
  · intro last
    exact absurd (letters _ (List.mem_of_getLast? last)) (by decide)

lemma toList_number (n : Nat) : (toString n).toList = Nat.toDigits 10 n := by
  rw [Nat.toString_eq_ofList_toDigits, String.toList_ofList]

lemma digit_of_number (n : Nat) : ∀ c ∈ (toString n).toList, c.isDigit = true := by
  intro c there
  rw [toList_number] at there
  exact Nat.isDigit_of_mem_toDigits (by decide) (by decide) there

lemma alphanum_of_number (n : Nat) : ∀ c ∈ (toString n).toList, c.isAlphanum = true := by
  intro c there
  simp [Char.isAlphanum, digit_of_number n c there]

lemma oneLine_number (key : String) (n : Nat) : Setting.OnOneLine ⟨key, toString n⟩ :=
  oneLine_of_alphanum (alphanum_of_number n)

lemma oneLine_onOff (key : String) (b : Bool) : Setting.OnOneLine ⟨key, onOff b⟩ :=
  oneLine_of_alphanum (List.all_eq_true.1 (by cases b <;> decide))

lemma oneLine_timeSetting (key : String) (duration : Duration) :
    Setting.OnOneLine ⟨key, timeSetting duration⟩ := by
  refine oneLine_of_alphanum fun c there => ?_
  have unit : ∀ c ∈ "s".toList ++ "ms".toList, c.isAlphanum = true :=
    List.all_eq_true.1 (by decide)
  rw [timeSetting] at there
  split at there
  all_goals
    rw [String.toList_append] at there
    rcases List.mem_append.1 there with digit | letter
    · exact alphanum_of_number _ c digit
    · exact unit c (by simp_all)

lemma toList_inQuotes (value : String) :
    (inQuotes value).toList = '\x27' :: value.toList ++ ['\x27'] := by
  simp [inQuotes, String.toList_append]

/-- Between quotes only a line feed can break the line. -/
lemma oneLine_inQuotes (key value : String) :
    Setting.OnOneLine ⟨key, inQuotes value⟩ ↔ '\n' ∉ value.toList := by
  rw [Setting.OnOneLine, toList_inQuotes, List.getLast?_concat]
  simp

/-! ### The heading -/

lemma toList_marked {opening : String} {front : List Char} (opens : opening.toList = '#' :: front)
    (rest : String) : (opening ++ rest).toList = '#' :: (front ++ rest.toList) := by
  rw [String.toList_append, opens, List.cons_append]

lemma toList_closed {title close : String} {front back : List Char}
    (opens : title.toList = '#' :: front) (closes : close.toList = back ++ ['\n']) :
    (title ++ close).toList = '#' :: (front ++ back) ++ ['\n'] := by
  rw [String.toList_append, opens, closes, List.cons_append, List.cons_append, List.append_assoc]

/-- A heading is marked with a number sign, and breaks only where a name in it does. -/
lemma toList_heading (node : Identity) (coordinator : ConnectionString) (role : Role) :
    ∃ title, (heading role node coordinator).toList = '#' :: title ++ ['\n']
      ∧ ('\n' ∉ node.name.toList → '\n' ∉ coordinator.text.toList → '\n' ∉ '#' :: title) := by
  cases role with
  | coordinator =>
    have opens : "# shardlord: coordinator node '".toList
        = '#' :: " shardlord: coordinator node '".toList := by decide
    have closes : "'\n".toList = ['\x27'] ++ ['\n'] := by decide
    refine ⟨_, toList_closed (toList_marked opens node.name) closes, fun name _ => ?_⟩
    have words : '\n' ∉ '#' :: " shardlord: coordinator node '".toList ++ ['\x27'] := by decide
    simp only [List.mem_cons, List.mem_append, not_or] at words ⊢
    exact ⟨words.1.1, ⟨words.1.2, name⟩, words.2⟩
  | worker =>
    have opens : "# shardlord: worker node '".toList
        = '#' :: " shardlord: worker node '".toList := by decide
    have closes : ")\n".toList = [')'] ++ ['\n'] := by decide
    refine ⟨_, toList_closed (toList_marked (toList_marked (toList_marked opens node.name)
      "' (coordinator: ") coordinator.text) closes, fun name text => ?_⟩
    have words : '\n' ∉ '#' :: " shardlord: worker node '".toList
        ++ ("' (coordinator: ".toList ++ [')']) := by decide
    simp only [List.mem_cons, List.mem_append, not_or] at words ⊢
    exact ⟨words.1.1, ⟨⟨⟨words.1.2, name⟩, words.2.1⟩, text⟩, words.2.2⟩

section Values

variable (t : Template) (node : Identity) (coordinator : ConnectionString)

lemma oneLine_sharedSettings : ∀ s ∈ t.sharedSettings, s.OnOneLine := by
  simp only [sharedSettings, List.forall_mem_cons, oneLine_number, oneLine_onOff,
    oneLine_inQuotes, List.not_mem_nil, false_imp_iff, implies_true, and_true]
  decide

/-- Only the database name and the connection string of a coordinator can break a line. -/
lemma oneLine_settings (role : Role) :
    (∀ s ∈ t.settings role node coordinator, s.OnOneLine)
      ↔ (role = .coordinator → '\n' ∉ t.dbname.toList ∧ t.dbname.toList.getLast? ≠ some '\x0d'
        ∧ '\n' ∉ coordinator.text.toList) := by
  have shared := oneLine_sharedSettings t
  have words : Setting.OnOneLine ⟨"listen_addresses", "'localhost'"⟩
      ∧ Setting.OnOneLine ⟨"shardman.shardlord", "on"⟩ := by
    decide
  cases role with
  | coordinator =>
    have block : t.settings .coordinator node coordinator
        = ⟨"port", toString node.port.toNat⟩ :: ⟨"listen_addresses", "'localhost'"⟩
          :: ⟨"shardman.shardlord", "on"⟩ :: ⟨"shardman.shardlord_dbname", t.dbname⟩
          :: ⟨"shardman.shardlord_connstring", inQuotes coordinator.text⟩
          :: ⟨"shardman.cmd_retry_naptime", toString t.retry.naptime.millis⟩
          :: ⟨"shardman.poll_interval", toString t.retry.pollInterval.millis⟩
          :: t.sharedSettings := rfl
    rw [block]
    simp only [List.forall_mem_cons, oneLine_number, oneLine_inQuotes, words, true_and,
      iff_true_intro shared, and_true, forall_const]
    rw [Setting.OnOneLine, and_assoc]
  | worker =>
    have block : t.settings .worker node coordinator
        = ⟨"port", toString node.port.toNat⟩ :: ⟨"listen_addresses", "'localhost'"⟩
          :: ⟨"max_logical_replication_workers",
            toString t.ceilings.maxLogicalReplicationWorkers.toNat⟩
          :: ⟨"max_worker_processes", toString t.ceilings.maxWorkerProcesses.toNat⟩
          :: ⟨"wal_receiver_timeout", timeSetting t.walReceiverTimeout⟩
          :: t.sharedSettings := rfl
    rw [block]
    simp only [List.forall_mem_cons, oneLine_number, oneLine_timeSetting, words, true_and,
      iff_true_intro shared, reduceCtorEq, false_imp_iff]

/-- A block comes back as its settings exactly if its heading is skipped to the end and every value
stays on its line. -/
lemma read?_render (role : Role) :
    read? (t.render role node coordinator) = some (t.settings role node coordinator)
      ↔ (∀ line ∈ Text.lines (heading role node coordinator), line.toList.head? = some '#')
        ∧ ∀ s ∈ t.settings role node coordinator, s.OnOneLine := by
  obtain ⟨longer, all⟩ := read?_join fun s there =>
    plainKey_of_mem t role node coordinator there
  obtain ⟨title, spelled, -⟩ := toList_heading node coordinator role
  have ended : Text.Ended (heading role node coordinator) := ⟨_, spelled⟩
  rw [render, read?_append ended, ← all, ← readLines_eq_nil]
  simp only [Option.bind_eq_some_iff, Option.map_eq_some_iff]
  constructor
  · rintro ⟨extra, readHeading, rest, readRest, both⟩
    -- what the heading gives is too much, since every setting gives something
    have enough := longer rest readRest
    have length := congrArg List.length both
    rw [List.length_append] at length
    obtain rfl : extra = [] := List.length_eq_zero_iff.1 (by omega)
    exact ⟨readHeading, readRest.trans (congrArg some both)⟩
  · rintro ⟨skipped, readRest⟩
    exact ⟨[], skipped, _, readRest, rfl⟩

/-- A heading made from names without line feeds is one line, and skipped. -/
lemma skipped_heading (role : Role) (name : '\n' ∉ node.name.toList)
    (text : '\n' ∉ coordinator.text.toList) :
    ∀ line ∈ Text.lines (heading role node coordinator), line.toList.head? = some '#' := by
  obtain ⟨title, spelled, unbroken⟩ := toList_heading node coordinator role
  have plain := unbroken name text
  have all : ('#' :: title).takeWhile (· ≠ '\n') = '#' :: title :=
    List.takeWhile_eq_self_iff.2 fun c there => decide_eq_true fun same => plain (same ▸ there)
  obtain ⟨others, first, alone⟩ := Text.linesFrom_first [] ('#' :: title)
  intro line there
  rw [Text.lines, spelled, first, alone plain, all] at there
  obtain rfl := List.mem_singleton.1 there
  have kept : Text.chomp (['#'] ++ title) = ['#'] ++ Text.chomp title :=
    Text.chomp_append (by decide) title
  rw [String.toList_ofList, List.reverse_nil, List.nil_append]
  exact congrArg List.head? kept

end Values

/-- A block whose name, database name and connection string have no line feed in them comes back
as its settings, unless the database name of a coordinator ends with a carriage return. -/
theorem read?_render_of_unbroken (t : Template) (role : Role) (node : Identity)
    (coordinator : ConnectionString) (name : '\n' ∉ node.name.toList)
    (dbname : '\n' ∉ t.dbname.toList ∧ t.dbname.toList.getLast? ≠ some '\x0d')
    (text : '\n' ∉ coordinator.text.toList) :
    read? (t.render role node coordinator) = some (t.settings role node coordinator) := by
  refine (read?_render t node coordinator role).2 ⟨?_, ?_⟩
  · exact skipped_heading node coordinator role name text
  · exact (oneLine_settings t node coordinator role).2 fun _ => ⟨dbname.1, dbname.2, text⟩

/-- **Blocks read back**: read line by line, a block gives exactly its settings in their order, if
and only if every line of its heading is a comment and, for a coordinator, the database name and
the connection string stay on their lines. No key of a block occurs twice in it or belongs to the
other role, and the shared keys have the same value in the blocks of any two nodes. -/
theorem rendered_reads_back (t : Template) (role : Role) (node : Identity)
    (coordinator : ConnectionString) :
    (read? (t.render role node coordinator) = some (t.settings role node coordinator)
      ↔ (∀ line ∈ Text.lines (heading role node coordinator), line.toList.head? = some '#')
        ∧ (role = .coordinator → '\n' ∉ t.dbname.toList
          ∧ t.dbname.toList.getLast? ≠ some '\x0d' ∧ '\n' ∉ coordinator.text.toList))
    ∧ ((t.settings role node coordinator).map Setting.key).Nodup
    ∧ (∀ other coordinator', other ≠ role → ∀ s ∈ t.roleSettings coordinator' other,
        s.key ∉ (t.settings role node coordinator).map Setting.key)
    ∧ ∀ role' node' coordinator', ∀ s ∈ t.sharedSettings,
        s ∈ t.settings role node coordinator ∧ s ∈ t.settings role' node' coordinator' := by
  refine ⟨?_, ?_, ?_, ?_⟩
  · rw [read?_render, oneLine_settings]
  · rw [map_key_settings]
    exact nodup_keys role
  · intro other coordinator' apart s there
    rw [map_key_settings]
    refine disjoint_keys role apart ?_
    rw [← map_key_roleSettings t other coordinator']
    exact List.mem_map_of_mem there
  · intro role' node' coordinator' s there
    exact ⟨List.mem_append_right _ there, List.mem_append_right _ there⟩

/-- A name with a line feed in it brings a setting of its own into the block, whatever the rest of
the block is made from. -/
theorem name_brings_setting (t : Template)
    (dbname : '\n' ∉ t.dbname.toList ∧ t.dbname.toList.getLast? ≠ some '\x0d') :
    read? (t.render .coordinator ⟨"Lord\nport = 1", 5432, ⟨[]⟩⟩ ⟨"dbname=postgres port=5432"⟩)
      = some (⟨"port", "1'"⟩ :: t.settings .coordinator ⟨"Lord\nport = 1", 5432, ⟨[]⟩⟩
        ⟨"dbname=postgres port=5432"⟩) := by
  set node : Identity := ⟨"Lord\nport = 1", 5432, ⟨[]⟩⟩ with node_def
  set coordinator : ConnectionString := ⟨"dbname=postgres port=5432"⟩ with coordinator_def
  obtain ⟨title, spelled, -⟩ := toList_heading node coordinator .coordinator
  have readHeading : read? (heading .coordinator node coordinator) = some [⟨"port", "1'"⟩] := by
    decide +kernel
  have unbroken := (oneLine_settings t node coordinator .coordinator).2 fun _ =>
    ⟨dbname.1, dbname.2, by decide⟩
  have readSettings := (read?_join fun s there =>
    plainKey_of_mem t .coordinator node coordinator there).2.2 unbroken
  rw [render, read?_append ⟨_, spelled⟩, readHeading, readSettings]
  rfl

end Template

end ShardCluster
