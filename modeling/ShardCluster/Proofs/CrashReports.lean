import Mathlib.Data.List.DropRight
import ShardCluster.Proofs.OrderlyPrograms
import ShardCluster.Proofs.RenderedSettings

/-!
# Reports of crashes

The report of a server that ended before it was ready is to show the end of the server's log: its
last lines, read as the output of any other program is, with U+FFFD for what is no text
(`Postgres.logEnd`). `Postgres.crash_shows_log_iff` says when it does. The log is read strictly, so
a single octet out of place, in whichever line, has the whole log left out of the report.
-/

namespace ShardCluster

open ShardCluster.Task (Ensures Leads ensures_bind ensures_iff_leads ensures_of_forall ensures_pause
  ensures_pure ensures_read ensures_yield)

/-! ### Text and ill-formed parts -/

namespace Utf8

lemma mapM_id (parts : List (Option Char)) :
    parts.mapM id = if none ∈ parts then none else some (parts.map (·.getD '\uFFFD')) := by
  induction parts with
  | nil => rfl
  | cons part parts ih =>
    rw [List.mapM_cons, ih]
    cases part with
    | none => rfl
    | some c => by_cases broken : none ∈ parts <;> simp [broken]

/-- The strict reader gives what the forgiving one shows, where it gives anything. -/
lemma strict_eq (bytes : Bytes) :
    strict bytes = if none ∈ pieces bytes then none else some (lossy bytes) := by
  rw [strict, mapM_id]
  split
  · rfl
  · rfl

lemma strict_eq_none_iff {bytes : Bytes} : strict bytes = none ↔ none ∈ pieces bytes := by
  simp [strict_eq]

lemma eq_lossy_of_strict {bytes : Bytes} {text : String} (read : strict bytes = some text) :
    text = lossy bytes := by
  rw [strict_eq] at read
  split at read
  · cases read
  · exact (Option.some.inj read).symm

lemma mem_lossy_of_strict {bytes : Bytes} (refused : strict bytes = none) :
    '\uFFFD' ∈ (lossy bytes).toList := by
  rw [lossy, String.toList_ofList]
  exact List.mem_map.2 ⟨none, strict_eq_none_iff.1 refused, rfl⟩

end Utf8

/-! ### The last lines of a text -/

namespace Text

lemma mem_chomp {c : Char} {line : List Char} (kept : c ≠ '\x0d') (there : c ∈ line) :
    c ∈ chomp line := by
  unfold chomp
  split
  · rename_i returned
    obtain ⟨front, rfl⟩ := List.getLast?_eq_some_iff.1 returned
    rw [List.dropLast_concat]
    simpa [kept] using there
  · exact there

lemma mem_linesFrom {c : Char} (unbroken : c ≠ '\n') (kept : c ≠ '\x0d') {line rest : List Char}
    (there : c ∈ line ∨ c ∈ rest) : ∃ l ∈ linesFrom line rest, c ∈ l := by
  induction rest generalizing line with
  | nil =>
    have there : c ∈ line := by simpa using there
    have nonempty : line.isEmpty = false := by
      cases line
      · cases there
      · rfl
    exact ⟨line.reverse, by simp [linesFrom, nonempty], List.mem_reverse.2 there⟩
  | cons d rest ih =>
    by_cases feed : d = '\n'
    · subst feed
      rw [linesFrom_feed]
      have there : c ∈ line ∨ c ∈ rest := by simpa [unbroken] using there
      rcases there with there | there
      · exact ⟨_, List.mem_cons_self, mem_chomp kept (List.mem_reverse.2 there)⟩
      · obtain ⟨l, among, within⟩ := ih (.inr there)
        exact ⟨l, List.mem_cons_of_mem _ among, within⟩
    · rw [linesFrom_other feed]
      refine ih ?_
      simpa [or_assoc, or_left_comm] using there

lemma mem_lines {c : Char} (unbroken : c ≠ '\n') (kept : c ≠ '\x0d') {s : String}
    (there : c ∈ s.toList) : ∃ l ∈ lines s, c ∈ l.toList := by
  obtain ⟨l, among, within⟩ : ∃ l ∈ linesFrom [] s.toList, c ∈ l :=
    mem_linesFrom unbroken kept (.inr there)
  exact ⟨String.ofList l, List.mem_map.2 ⟨l, among, rfl⟩, by simpa using within⟩

lemma mem_joined {c : Char} {separator l : String} {ls : List String} (among : l ∈ ls)
    (within : c ∈ l.toList) : c ∈ (separator.intercalate ls).toList := by
  induction ls with
  | nil => cases among
  | cons first rest ih =>
    cases rest with
    | nil =>
      obtain rfl := List.mem_singleton.1 among
      simpa using within
    | cons second rest =>
      rw [String.intercalate_cons_cons, String.toList_append, List.mem_append]
      rcases List.mem_cons.1 among with rfl | among
      · left
        simp [within]
      · exact .inr (ih among)

lemma separator_mem_joined {c : Char} {separator : String} {ls : List String}
    (several : 2 ≤ ls.length) (within : c ∈ separator.toList) :
    c ∈ (separator.intercalate ls).toList := by
  obtain ⟨first, second, rest, rfl⟩ : ∃ first second rest, ls = first :: second :: rest := by
    match ls, several with
    | first :: second :: rest, _ => exact ⟨first, second, rest, rfl⟩
  rw [String.intercalate_cons_cons]
  simp [within]

end Text

/-! ### The end of a log -/

namespace Postgres

/-- **What the report of a crash is to show of a log**: its last lines, with U+FFFD for what is no
text. -/
def logEnd (content : Bytes) : List String := (Text.lines (Utf8.lossy content)).rtake tailLines

/-- what a report says instead of the log, and why -/
def unavailable (cause : IoError) : String := "<log unavailable: " ++ cause.message ++ ">"

lemma logEnd_suffix (content : Bytes) : logEnd content <:+ Text.lines (Utf8.lossy content) :=
  List.drop_suffix _ _

lemma length_logEnd (content : Bytes) :
    (logEnd content).length = min tailLines (Text.lines (Utf8.lossy content)).length := by
  rw [logEnd, List.rtake, List.length_drop]
  omega

lemma logTail_ok (content : Bytes) : logTail (.ok content) =
    match Utf8.strict content with
    | some text => Text.lastLines tailLines text
    | none => unavailable .notText := rfl

lemma logTail_of_text {content : Bytes} {text : String} (read : Utf8.strict content = some text) :
    logTail (.ok content) = "\n".intercalate (logEnd content) := by
  obtain rfl := Utf8.eq_lossy_of_strict read
  rw [logTail_ok, read]
  rfl

lemma logTail_of_illFormed {content : Bytes} (refused : Utf8.strict content = none) :
    logTail (.ok content) = unavailable .notText := by
  rw [logTail_ok, refused]

lemma logEnd_ne_of_illFormed {content : Bytes} (refused : Utf8.strict content = none) :
    "\n".intercalate (logEnd content) ≠ unavailable .notText := by
  intro same
  have plain : '\uFFFD' ∉ (unavailable .notText).toList := by decide +kernel
  have oneLine : '\n' ∉ (unavailable .notText).toList := by decide +kernel
  by_cases short : (Text.lines (Utf8.lossy content)).length ≤ tailLines
  · -- All lines are shown, and one of them has the ill-formed part in it.
    have whole : logEnd content = Text.lines (Utf8.lossy content) := by
      rw [logEnd, List.rtake, Nat.sub_eq_zero_of_le short, List.drop_zero]
    obtain ⟨l, among, within⟩ := Text.mem_lines (by decide) (by decide)
      (Utf8.mem_lossy_of_strict refused)
    have shown : '\uFFFD' ∈ ("\n".intercalate (logEnd content)).toList :=
      Text.mem_joined (whole ▸ among) within
    rw [same] at shown
    exact absurd shown plain
  · -- The ill-formed part may be further up, but then several lines are shown.
    have several : 2 ≤ (logEnd content).length := by
      rw [length_logEnd, tailLines]
      rw [tailLines] at short
      omega
    have shown : '\n' ∈ ("\n".intercalate (logEnd content)).toList :=
      Text.separator_mem_joined several (by simp)
    rw [same] at shown
    exact absurd shown oneLine

lemma logTail_eq_logEnd_iff (content : Bytes) :
    logTail (.ok content) = "\n".intercalate (logEnd content) ↔ (Utf8.strict content).isSome := by
  cases read : Utf8.strict content with
  | some text => simp [logTail_of_text read]
  | none =>
    rw [logTail_of_illFormed read]
    simpa using (logEnd_ne_of_illFormed read).symm

/-! ### Crashes at the start -/

section Starting

variable {C W : Type} {env : W → W → Prop} {config : Config} {programs : Programs C W}
  {files : Part W FileSystem} {launch : Launch} {child : C} {w : W}

/-- A report on a server that ended with a status shows the log as it was when it was read; what
others do afterwards is too late. -/
def Reports (env : W → W → Prop) (files : Part W FileSystem) (log : Path) (status tail : String)
    (w : W) : Prop :=
  ∃ exit : ExitStatus, status = exit.text ∧
    ∃ w₁, env w₁ w ∧ tail = logTail ((files.get w₁).contentOf log)

/-- If that is how a start ended, it is a report on a server that has ended. -/
def ReportsCrash (env : W → W → Prop) (files : Part W FileSystem) (log : Path)
    (r : Except EngineError (Process C)) (w : W) : Prop :=
  ∀ status tail, r = .error (.crash status tail) → status ≠ "not spawned" →
    Reports env files log status tail w

lemma reportsCrash_of_ne {log : Path} {r : Except EngineError (Process C)}
    (other : ∀ status tail, r ≠ .error (.crash status tail)) : ReportsCrash env files log r w :=
  fun status tail crashed => absurd crashed (other status tail)

lemma ensures_giveUp : Ensures env (fun _ => True) (ReportsCrash env files launch.logFile)
    (giveUp programs launch child) w :=
  ensures_bind.2 (ensures_of_forall (fun _ => trivial) fun _ _ =>
    ensures_pure.2 (reportsCrash_of_ne (by simp)))

lemma ensures_crashReport {exit : ExitStatus} : Ensures env (fun _ => True)
    (fun e => ReportsCrash env files launch.logFile (.error e : Except EngineError (Process C)))
    (crashReport (.ofFiles files) launch exit) w := by
  simp only [crashReport, Storage.ofFiles, Storage.ask, ensures_bind, ensures_read, ensures_yield,
    ensures_pure, true_and]
  intro w₁ others status tail crashed _
  obtain ⟨rfl, rfl⟩ :
      exit.text = status ∧ logTail ((files.get w).contentOf launch.logFile) = tail :=
    by simpa using crashed
  exact ⟨exit, rfl, w, others, rfl⟩

lemma ensures_awaitReady {deadline rounds : Nat} : Ensures env (fun _ => True)
    (ReportsCrash env files launch.logFile)
    (awaitReady config programs (.ofFiles files) launch child deadline rounds) w := by
  induction rounds generalizing w with
  | zero => exact ensures_giveUp
  | succ rounds ih =>
    refine ensures_bind.2 (ensures_of_forall (fun _ => trivial) fun seen w₁ => ?_)
    rcases seen with e | _ | exit
    · exact ensures_pure.2 (reportsCrash_of_ne (by simp))
    · refine ensures_bind.2 (ensures_of_forall (fun _ => trivial) fun ready w₂ => ?_)
      cases ready
      · refine ensures_bind.2 (ensures_of_forall (fun _ => trivial) fun now w₃ => ?_)
        split
        · exact ensures_giveUp
        · exact ensures_bind.2 (ensures_of_forall (fun _ => trivial) fun _ w₄ => ih)
      · exact ensures_pure.2 (reportsCrash_of_ne (by simp))
    · exact ensures_bind.2 (ensures_crashReport.mono (fun _ => id) fun e w₂ reports =>
        ensures_pure.2 reports)

lemma ensures_start : Ensures env (fun _ => True) (ReportsCrash env files launch.logFile)
    (start config programs (.ofFiles files) launch) w := by
  refine ensures_bind.2 (ensures_of_forall (fun _ => trivial) fun made w₁ => ?_)
  cases made with
  | error e => exact ensures_pure.2 (reportsCrash_of_ne (by simp))
  | ok =>
    refine ensures_bind.2 (ensures_of_forall (fun _ => trivial) fun spawned w₂ => ?_)
    cases spawned with
    | error e =>
      refine ensures_pure.2 fun status tail crashed started => ?_
      cases crashed
      exact absurd rfl started
    | ok child =>
      refine ensures_bind.2 (ensures_of_forall (fun _ => trivial) fun now w₃ => ?_)
      split
      · exact ensures_pause.2 ⟨trivial, by simp⟩
      · exact ensures_awaitReady

/-- **The report of a crash shows the end of the log if and only if the log is text.** What is to be
shown are the last lines, twenty at most, with U+FFFD for what is no text; a log with anything in it
that is no text is left out altogether. Every crash of a server that was spawned is reported with
how it ended and with the log as it was then. -/
theorem crash_shows_log_iff (env : W → W → Prop) (config : Config) (programs : Programs C W)
    (files : Part W FileSystem) (launch : Launch) :
    (∀ content, logEnd content <:+ Text.lines (Utf8.lossy content) ∧
      (logEnd content).length = min 20 (Text.lines (Utf8.lossy content)).length ∧
      (logTail (.ok content) = "\n".intercalate (logEnd content) ↔
        (Utf8.strict content).isSome) ∧
      (Utf8.strict content = none → logTail (.ok content) = unavailable .notText)) ∧
    ∀ w status tail w', Leads env (start config programs (.ofFiles files) launch) w
        (some (.error (.crash status tail))) w' →
      status = "not spawned" ∨ Reports env files launch.logFile status tail w' := by
  refine ⟨fun content => ⟨logEnd_suffix content, length_logEnd content,
    logTail_eq_logEnd_iff content, logTail_of_illFormed⟩, fun w status tail w' led => ?_⟩
  rw [or_iff_not_imp_left]
  exact ensures_iff_leads.1 ensures_start _ _ led status tail rfl

end Starting

open Machine (Bench benchConfig benchLaunch benchStart)

/-- `abc` and an octet that is no text -/
def brokenLog : Bytes := [0x61, 0x62, 0x63, 0xFF]

/-- A server that writes such a log and exits: there is one line to show, and the report does not
show it. -/
theorem brokenLog_left_out : ∃ b tail,
    Leads (fun b b' => b' = b) benchStart
      (Bench.of { mode := .exit, exit := 1, err := brokenLog } {})
      (some (.error (.crash "exit status: 1" tail))) b ∧
    Reports (fun b b' => b' = b) (Bench.machinePart.comp Machine.filesPart) benchLaunch.logFile
      "exit status: 1" tail b ∧
    tail = logTail (.ok brokenLog) ∧ logEnd brokenLog = ["abc\uFFFD"] ∧
    tail ≠ "\n".intercalate (logEnd brokenLog) := by
  obtain ⟨shows, reports⟩ := crash_shows_log_iff (fun b b' => b' = b) benchConfig
    (Machine.programs Bench.machinePart) (Bench.machinePart.comp Machine.filesPart) benchLaunch
  obtain ⟨-, -, shown_iff, left_out⟩ := shows brokenLog
  have refused : Utf8.strict brokenLog = none := by decide +kernel
  have led : Leads (fun b b' => b' = b) benchStart
      (Bench.of { mode := .exit, exit := 1, err := brokenLog } {})
      (some (.error (.crash "exit status: 1" (logTail (.ok brokenLog))))) _ :=
    Task.leads_of_quiet_run Task.quiet_eq (by decide +kernel)
  refine ⟨_, _, led, (reports _ _ _ _ led).resolve_left (by decide), rfl, by decide +kernel, ?_⟩
  rw [ne_eq, shown_iff, refused]
  simp

end Postgres

end ShardCluster
