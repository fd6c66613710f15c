import ShardCluster.Proofs.Achievements
import ShardCluster.Proofs.Children
import ShardCluster.Proofs.RenderedSettings
import ShardCluster.Proofs.Service
import ShardCluster.Proofs.WrittenFiles

/-!
# The settings file

The settings file of a node begins with the defaults of the simulated engine, and every text that is
appended to it is added as a block of its own (`Node.settingsText`). A course of calls keeps the
node's directory as long as no clean-up gets to removing it (`Upkeep`); `settings_accumulate` says
what is in the file after any such course, how it reads line by line, and that an append which fails
does nothing. A clean-up whose removal fails half way may take the file with it
(`settings_lost_halfway`).
-/

namespace ShardCluster

open ShardCluster.Task (Assures Beside Ensures Fulfils Leads)
open Scenario (Floor)
open Simulated (Process)

/-! ### Blocks and their lines -/

namespace Text

lemma ended_append {front text : String} (h : Ended text) : Ended (front ++ text) := by
  obtain ⟨most, spelled⟩ := h
  exact ⟨front.toList ++ most, by simp [spelled]⟩

lemma linesFrom_closed {last : Char} (other : last ≠ '\n') (kept : last ≠ '\x0d')
    (line front : List Char) :
    linesFrom line (front ++ [last, '\n']) = linesFrom line (front ++ [last]) := by
  induction front generalizing line with
  | nil =>
    have whole : (last :: line).reverse.getLast? ≠ some '\x0d' := by simpa using kept
    rw [List.nil_append, List.nil_append, linesFrom_other other, linesFrom_other other,
      linesFrom_feed, chomp, if_neg whole]
    rfl
  | cons c front ih =>
    by_cases feed : c = '\n'
    · subst feed
      rw [List.cons_append, List.cons_append, linesFrom_feed, linesFrom_feed, ih]
    · rw [List.cons_append, List.cons_append, linesFrom_other feed, linesFrom_other feed, ih]

end Text

namespace Node

/-- the text with a line feed at its end -/
def closed (text : String) : String :=
  text ++ if text.toList.getLast? = some '\n' then "" else "\n"

/-- what a settings file holds once these texts have been appended -/
def settingsText (texts : List String) : String :=
  texts.foldl (fun file text => file ++ configBlock text) "# simulated engine defaults\n"

section Lines

variable {text : String} {texts : List String}

lemma configBlock_eq : configBlock text = "\n" ++ closed text := by
  rw [configBlock, closed, String.append_assoc]

lemma settingsText_concat :
    settingsText (texts ++ [text]) = settingsText texts ++ configBlock text := by
  simp [settingsText]

lemma ended_closed : Text.Ended (closed text) := by
  unfold closed
  split
  · rename_i ended
    obtain ⟨front, spelled⟩ := List.getLast?_eq_some_iff.1 ended
    exact ⟨front, by simp [spelled]⟩
  · exact ⟨text.toList, by simp⟩

lemma ended_settingsText : Text.Ended (settingsText texts) := by
  induction texts using List.reverseRecOn with
  | nil => exact ⟨"# simulated engine defaults".toList, by decide⟩
  | append_singleton texts text =>
    rw [settingsText_concat, configBlock_eq]
    exact Text.ended_append (Text.ended_append ended_closed)

/-- **The lines of a settings file**: those of the defaults, and for every text an empty line and
its own lines. -/
lemma lines_settingsText : Text.lines (settingsText texts) =
    "# simulated engine defaults" :: texts.flatMap fun text => "" :: Text.lines (closed text) := by
  induction texts using List.reverseRecOn with
  | nil => decide
  | append_singleton texts text ih =>
    have feed : Text.Ended "\n" := ⟨[], rfl⟩
    have empty : Text.lines "\n" = [""] := by decide
    rw [settingsText_concat, Text.lines_append ended_settingsText, ih, configBlock_eq,
      Text.lines_append feed, empty]
    simp

/-- The lines are the text's own unless it is empty or ends in a carriage return. -/
lemma lines_closed (given : text ≠ "") (kept : text.toList.getLast? ≠ some '\x0d') :
    Text.lines (closed text) = Text.lines text := by
  unfold closed
  split
  · rw [String.append_empty]
  · rename_i other
    obtain ⟨front, last, spelled⟩ : ∃ front last, text.toList = front ++ [last] := by
      simpa [List.concat_eq_append, given] using List.eq_nil_or_concat text.toList
    simp only [spelled, List.getLast?_concat, Option.some.injEq, ne_eq] at other kept
    have feed : "\n".toList = ['\n'] := rfl
    rw [Text.lines, Text.lines, String.toList_append, spelled, feed, List.append_assoc,
      List.singleton_append, Text.linesFrom_closed other kept]

end Lines

/-! ### Calls of a node with its settings file -/

/-- the file that settings of a node are added to -/
def settingsFile (i : Identity) : Path := Floor.host.engine.configFile i.engineDirectory

/-- These texts have been appended to the file, and nothing else has been done to it. -/
def Appended (i : Identity) (texts : List String) (fs : FileSystem) : Prop :=
  fs.contentOf (settingsFile i) = .ok (Utf8.encode (settingsText texts))

/-- **A node with its settings file**, to which these texts have been appended. -/
structure Configured (i : Identity) (texts : List String) (p : Node Process × Floor) : Prop where
  identity : p.1.identity = i
  set_up : p.1.phase ≠ .created
  there : p.1.phase ≠ .cleanedUp
  appended : Appended i texts p.2.files

section Calls

variable {env : Floor → Floor → Prop} {i : Identity} {text : String} {texts : List String}
  {n : Node Process} {f f' : Floor}

lemma Configured.stays (h : Configured i texts (n, f)) (appended : Appended i texts f'.files) :
    Configured i texts (n, f') :=
  ⟨h.identity, h.set_up, h.there, appended⟩

lemma Appended.extended {fs fs' : FileSystem} (h : Appended i texts fs)
    (added : FileSystem.Extended (settingsFile i) (Utf8.encode (configBlock text)) fs fs') :
    Appended i (texts ++ [text]) fs' := by
  obtain ⟨old, before, now⟩ := added
  obtain rfl := Except.ok.inj (before.symm.trans h)
  rw [Appended, now, settingsText_concat, Utf8.encode_append]

variable (others : ∀ f f', env f f' → f'.files.find (settingsFile i) .followed =
  f.files.find (settingsFile i) .followed)
include others

lemma still_appended (f f' : Floor) (he : env f f') (h : Appended i texts f.files) :
    Appended i texts f'.files :=
  (FileSystem.contentOf_congr (others f f' he)).trans h

/-- **Appending a text** adds its block and does not fail; where it waits, the block may be there or
not. -/
theorem appendConfig_configured (text : String) (h : Configured i texts (n, f)) :
    Assures (Beside env) (fun p => Configured i texts p ∨ Configured i (texts ++ [text]) p)
      (fun _ => Configured i (texts ++ [text])) (fun _ _ => False)
      (appendConfig Floor.host text) (n, f) := by
  unfold appendConfig
  simp only [Task.assures_bind, assures_current, Task.assures_ite]
  rw [if_neg (by simp [h.set_up, h.there])]
  simp only [assures_attempt]
  have adds : Ensures env _ _ (Storage.appendTo Floor.filesPart (settingsFile i)
      (Utf8.encode (configBlock text))) f := ensures_extended (fun _ _ => rfl) others
  rw [h.identity]
  refine adds.mono ?_ ?_
  · rintro f' (same | added)
    · exact .inl (h.stays (same.trans h.appended))
    · exact .inr ⟨h.identity, h.set_up, h.there, h.appended.extended added⟩
  · rintro (e | _) f' left
    · exact left _ h.appended
    · exact ⟨h.identity, h.set_up, h.there, h.appended.extended left⟩

theorem appendConfig_fulfils (text : String) (h : Configured i texts (n, f)) :
    Fulfils (Beside env) (fun _ => Configured i (texts ++ [text])) (fun _ _ => False)
      (appendConfig Floor.host text) (n, f) := by
  have timed : (appendConfig Floor.host text).run.Timed :=
    Task.timed_run_bind timed_current fun _ =>
      Task.timed_run_guard (timed_attempt (Simulated.timed_appendTo _ _))
  exact timed.fulfils (appendConfig_configured others text h)

theorem start_configured (h : Configured i texts (n, f)) :
    Assures (Beside env) (Configured i texts) (fun _ => Configured i texts)
      (fun _ => Configured i texts) (start Floor.host) (n, f) := by
  unfold start
  simp only [Task.assures_bind, assures_current, Task.assures_ite]
  split
  · exact Task.assures_throw.2 h
  simp only [assures_attempt, assures_change]
  refine (keeps_start (still_appended others) _ f h.appended).mono (fun _ => h.stays) ?_
  rintro (e | process) f' appended
  · exact h.stays appended
  · exact ⟨h.identity, by simp, by simp, appended⟩

theorem runSql_configured (database statement : String) (h : Configured i texts (n, f)) :
    Assures (Beside env) (Configured i texts) (fun _ => Configured i texts)
      (fun _ => Configured i texts)
      ((NodeCall.runSql database statement).attempt Floor.host) (n, f) := by
  simp only [NodeCall.attempt, Task.assures_bind, assures_current, assures_attempt]
  have kept : Assures env (fun f => Configured i texts (n, f))
      (fun _ f => Configured i texts (n, f)) (fun _ f => Configured i texts (n, f))
      (n.runSql Floor.host database statement) f :=
    runSql_keeps (keeps_execute (still_appended others) n.port database statement) h.appended
      (fun _ => h.stays) (fun _ _ => h.stays) fun _ _ => h.stays
  refine kept.ensures.mono (fun _ h => h) ?_
  rintro (e | _) f' h
  · exact h
  · exact Task.assures_pure.2 h

theorem stop_configured (h : Configured i texts (n, f)) :
    Assures (Beside env) (Configured i texts)
      (fun _ p => Configured i texts p ∧ p.1.phase ≠ .running) (fun _ => Configured i texts)
      (stop Floor.host) (n, f) := by
  unfold stop
  simp only [Task.assures_bind, assures_current, Task.assures_ite]
  split
  · rename_i resting
    exact Task.assures_pure.2 ⟨h, resting⟩
  split
  · simp only [Task.assures_bind, assures_attempt, assures_change]
    refine (keeps_stop (still_appended others) _ f h.appended).mono (fun _ => h.stays) ?_
    rintro (e | _) f' appended
    · exact h.stays appended
    · exact ⟨⟨h.identity, by simp, by simp, appended⟩, by simp⟩
  · simp only [assures_change]
    exact ⟨⟨h.identity, by simp, by simp, h.appended⟩, by simp⟩

omit others in
lemma removeDirectory_resting {m : Node Process} (resting : n.phase ≠ .running) :
    Assures (Beside env) (·.1.phase ≠ .running) (fun _ p => p.1.phase ≠ .running)
      (fun _ p => p.1.phase ≠ .running) (removeDirectory Floor.host m) (n, f) := by
  unfold removeDirectory
  dsimp only
  split
  · simp only [Task.assures_bind, assures_outside]
    refine Task.ensures_of_forall (fun _ => resting) fun r f => ?_
    split
    · simp
    · simp
    · exact Task.assures_throw.2 resting
  · simp

/-- A clean-up after which the node runs has not got to the directory. -/
theorem cleanup_configured (h : Configured i texts (n, f)) :
    Assures (Beside env) (fun p => p.1.phase = .running → Configured i texts p)
      (fun _ p => p.1.phase = .running → Configured i texts p)
      (fun _ p => p.1.phase = .running → Configured i texts p) (cleanup Floor.host) (n, f) := by
  rw [cleanup_eq]
  simp only [Task.assures_bind, assures_current, Task.assures_ite]
  rw [if_neg h.there]
  have nothing {p : Node Process × Floor} (resting : p.1.phase ≠ .running)
      (running : p.1.phase = .running) : Configured i texts p := absurd running resting
  refine (stop_configured others h).mono (fun _ h _ => h) ?_ fun _ _ h _ => h
  rintro - ⟨n', f'⟩ ⟨-, resting⟩
  exact (removeDirectory_resting resting).mono (fun _ => nothing) (fun _ _ => nothing)
    fun _ _ => nothing

/-! ### Setting up -/

omit others in
lemma ensures_guarded {α : Type} {Q : Except EngineError α → Floor → Prop} {call : EngineCall}
    {site : String} {t : Task Floor (Except EngineError α)} (failed : ∀ e f, Q (.error e) f)
    (h : ∀ f, Ensures env (fun _ => True) Q t f) :
    Ensures env (fun _ => True) Q (Interference.guarded Floor.interferencePart call site t) f := by
  unfold Interference.guarded
  simp only [Task.ensures_bind, Task.ensures_read]
  refine Task.ensures_of_forall (fun _ => trivial) fun _ f => ?_
  simp only [Task.ensures_atomic]
  split
  · exact Task.ensures_pure.2 (failed _ _)
  · exact h _

/-- The defaults are the last thing that populating a directory writes. -/
lemma populate_appended : Assures env (fun _ => True) (fun _ f => Appended i [] f.files)
    (fun _ _ => True) (Simulated.populate Floor.storage i.engineDirectory) f := by
  have anyway {α : Type} {Q : α → Floor → Prop} {t : Task Floor (Except IoError α)} {f : Floor}
      (hQ : ∀ a f, Q a f) : Ensures env (fun _ => True)
        (fun r f => r.casesOn (fun _ => True) fun a => Q a f) t f := by
    refine Task.ensures_of_forall (fun _ => trivial) ?_
    rintro (e | a) f
    · trivial
    · exact hQ a f
  unfold Simulated.populate
  simp only [Task.assures_bind, assures_stored]
  refine anyway fun found f => ?_
  simp only [Task.assures_ite]
  split
  · exact Task.assures_throw.2 trivial
  simp only [Task.assures_bind, assures_stored]
  refine anyway fun _ f => anyway fun _ f => ?_
  have written : Ensures env _ _ (Storage.perform Floor.filesPart
      (FileSystem.writeFile (settingsFile i) (Utf8.encode (settingsText [])))) f :=
    ensures_writeFile (fun _ _ => rfl) others
  refine written.mono (fun _ h => h) ?_
  rintro (e | _) f appended
  · trivial
  · exact appended rfl

/-- **Setting a node up** leaves the defaults in its settings file. -/
theorem init_configured (identity : n.identity = i) :
    Assures (Beside env) (fun _ => True) (fun _ => Configured i []) (fun _ _ => True)
      (init Floor.host) (n, f) := by
  unfold init
  simp only [Task.assures_bind, assures_current, Task.assures_ite]
  split
  · exact Task.assures_throw.2 trivial
  refine checkVacant_keeps (J := fun _ => True) (fun _ => Task.keeps_true)
    (fun _ => Task.keeps_true) trivial (fun _ _ => trivial) (fun f _ => ?_) fun _ _ _ => trivial
  simp only [assures_outside]
  refine Task.ensures_of_forall (fun _ => trivial) fun free f => ?_
  split
  · exact Task.assures_throw.2 trivial
  simp only [assures_change, assures_attempt]
  refine Task.ensures_of_forall (fun _ => trivial) ?_
  rintro (e | _) f
  · trivial
  simp only [identity]
  refine ensures_guarded (fun _ _ => trivial) (fun f => populate_appended others) |>.mono
    (fun _ h => h) ?_
  rintro (e | _) f appended
  · trivial
  · exact ⟨rfl, by simp, by simp, appended⟩

/-! ### Any call -/

omit others in
theorem appendConfig_failed : Assures (Beside env) (fun _ => True) (fun _ _ => True)
    (fun _ p => p.1 = n ∧ (p.2 = f ∨ env f p.2)) (appendConfig Floor.host text) (n, f) := by
  unfold appendConfig
  simp only [Task.assures_bind, assures_current, Task.assures_ite]
  split
  · exact Task.assures_throw.2 ⟨rfl, .inl rfl⟩
  simp only [assures_attempt]
  have opens : Ensures env _ _ (Storage.appendTo Floor.filesPart
      (Floor.host.engine.configFile n.identity.engineDirectory)
      (Utf8.encode (configBlock text))) f := ensures_appendTo_failed fun _ => rfl
  refine opens.mono (fun _ h => h) ?_
  rintro (e | _) f' left
  · exact ⟨trivial, .inr (left.resolve_left Bool.false_ne_true)⟩
  · trivial

end Calls

end Node

/-! ### Courses of calls -/

/-- what became of a call of a node: its answer, or none if it was given up -/
abbrev NodeOutcome := NodeCall × Option (Except ClusterError Unit)

namespace NodeOutcome

/-- the text that a call has appended for certain -/
def appended : NodeOutcome → List String
  | (.appendConfig text, some (.ok ())) => [text]
  | _ => []

/-- **What a call adds to the settings file.** An append that is given up may have added its
text. -/
inductive Adds : NodeOutcome → List String → Prop
  | appended (outcome : NodeOutcome) : Adds outcome outcome.appended
  | givenUp (text : String) : Adds (.appendConfig text, none) [text]

end NodeOutcome

/-- These texts have been added in a course of calls, of which the latest comes first. -/
inductive Added : List NodeOutcome → List String → Prop
  | nothing : Added [] []
  | more {outcome : NodeOutcome} {earlier : List NodeOutcome} {texts more : List String} :
      Added earlier texts → outcome.Adds more → Added (outcome :: earlier) (texts ++ more)

lemma Added.eq_appended {outcomes : List NodeOutcome} {texts : List String}
    (h : Added outcomes texts) (ended : ∀ text, (.appendConfig text, none) ∉ outcomes) :
    texts = outcomes.reverse.flatMap NodeOutcome.appended := by
  induction h with
  | nothing => rfl
  | more _ adds ih =>
    have before := ih fun text there => ended text (List.mem_cons_of_mem _ there)
    rw [List.reverse_cons, List.flatMap_append, ← before, List.flatMap_singleton]
    cases adds with
    | appended => rfl
    | givenUp text => exact absurd List.mem_cons_self (ended text)

section Upkeep

variable {P W : Type}

/-- **A course of calls that keeps the directory**, with the latest call first: a clean-up may be
among them if the server went on running, so that it has not got to the directory. -/
inductive Upkeep (env : W → W → Prop) (host : Host P W) (s : Node P × W) :
    List NodeOutcome → Node P × W → Prop
  | start : Upkeep env host s [] s
  | called {outcomes : List NodeOutcome} {s₁ s₂ : Node P × W}
      {r : Option (Except ClusterError Unit)} (call : NodeCall) :
      Upkeep env host s outcomes s₁ → Leads (Beside env) (call.attempt host).run s₁ r s₂ →
      (call = .cleanup → s₂.1.phase = .running) → Upkeep env host s ((call, r) :: outcomes) s₂
  | meanwhile {outcomes : List NodeOutcome} {n : Node P} {w w' : W} :
      Upkeep env host s outcomes (n, w) → env w w' → Upkeep env host s outcomes (n, w')

end Upkeep

section Accumulation

variable {env : Floor → Floor → Prop} {i : Identity} {texts : List String} {n : Node Process}
  {f : Floor}

open Node (Configured settingsFile settingsText)

/-- **Whatever is called**, the texts that the call adds have been appended afterwards, unless it is
a clean-up that may have got to the directory. -/
theorem Node.Configured.leads (others : ∀ f f', env f f' →
      f'.files.find (settingsFile i) .followed = f.files.find (settingsFile i) .followed)
    {p : Node Process × Floor} {r : Option (Except ClusterError Unit)} {call : NodeCall}
    (h : Configured i texts (n, f))
    (led : Leads (Beside env) (call.attempt Floor.host).run (n, f) r p)
    (kept : call = .cleanup → p.1.phase = .running) :
    ∃ more, NodeOutcome.Adds (call, r) more ∧ Configured i (texts ++ more) p := by
  have nothing (other : ∀ text, call ≠ .appendConfig text) (h : Configured i texts p) :
      ∃ more, NodeOutcome.Adds (call, r) more ∧ Configured i (texts ++ more) p := by
    have none_ : NodeOutcome.appended (call, r) = [] := by
      unfold NodeOutcome.appended
      split
      · rename_i text same
        exact absurd (congrArg Prod.fst same) (other text)
      · rfl
    exact ⟨_, .appended _, by rwa [none_, List.append_nil]⟩
  cases call with
  | init =>
    refine nothing nofun (Task.Assures.holds (x := Node.init Floor.host) ?_ led)
    unfold Node.init
    simpa [h.set_up] using h
  | appendConfig text =>
    have left := Node.appendConfig_configured others text h r p led
    rcases r with _ | e | _
    · rcases left with left | left
      · exact ⟨[], .appended (.appendConfig text, none), by rwa [List.append_nil]⟩
      · exact ⟨[text], .givenUp text, left⟩
    · exact left.elim
    · exact ⟨[text], .appended (.appendConfig text, some (.ok ())), left⟩
  | start => exact nothing nofun ((Node.start_configured others h).holds led)
  | runSql database statement =>
    exact nothing nofun ((Node.runSql_configured others database statement h).holds led)
  | stop =>
    exact nothing nofun (((Node.stop_configured others h).mono (fun _ h => h) (fun _ _ h => h.1)
      fun _ _ h => h).holds led)
  | cleanup => exact nothing nofun ((Node.cleanup_configured others h).holds led (kept rfl))

lemma Upkeep.configured (others : ∀ f f', env f f' →
      f'.files.find (settingsFile i) .followed = f.files.find (settingsFile i) .followed)
    {s p : Node Process × Floor} {outcomes : List NodeOutcome}
    (h : Upkeep env Floor.host s outcomes p) (begins : Configured i [] s) :
    ∃ texts, Added outcomes texts ∧ Configured i texts p := by
  induction h with
  | start => exact ⟨[], .nothing, begins⟩
  | called call _ led kept ih =>
    obtain ⟨texts, added, configured⟩ := ih
    obtain ⟨more, adds, configured⟩ := configured.leads others led kept
    exact ⟨texts ++ more, added.more adds, configured⟩
  | meanwhile _ he ih =>
    obtain ⟨texts, added, configured⟩ := ih
    exact ⟨texts, added, configured.stays (Node.still_appended others _ _ he configured.appended)⟩

/-- **Settings accumulate.** A node is set up, and calls are made of it that keep its directory,
with nobody else at its settings file. Then the file holds the defaults and after them, for each
text that was appended, in order, a line feed and the text, with a line feed at its end. So it
always ends with a line feed, and its lines are those of the defaults and for each text an empty
line and the lines of the closed text, which are the text's own unless it is empty or ends in a
carriage return. The texts are those of the appends that succeed, if none is given up, and the next
append does succeed. An append that fails does nothing, whatever the state of the node. -/
theorem settings_accumulate {n₀ : Node Process} {f₀ : Floor} {s p : Node Process × Floor}
    {outcomes : List NodeOutcome}
    (others : ∀ f f', env f f' → f'.files.find (settingsFile n₀.identity) .followed =
      f.files.find (settingsFile n₀.identity) .followed)
    (set_up : Leads (Beside env) (Node.init Floor.host).run (n₀, f₀) (some (.ok ())) s)
    (h : Upkeep env Floor.host s outcomes p) :
    (∃ texts, Added outcomes texts ∧
      ((∀ text, (.appendConfig text, none) ∉ outcomes) →
        texts = outcomes.reverse.flatMap NodeOutcome.appended) ∧
      p.2.files.contentOf (settingsFile n₀.identity) = .ok (Utf8.encode (settingsText texts)) ∧
      Text.Ended (settingsText texts) ∧
      Text.lines (settingsText texts) = "# simulated engine defaults" ::
        texts.flatMap (fun text => "" :: Text.lines (Node.closed text)) ∧
      (∀ text ∈ texts, text ≠ "" → text.toList.getLast? ≠ some '\x0d' →
        Text.lines (Node.closed text) = Text.lines text) ∧
      ∀ text, Fulfils (Beside env)
        (fun _ q => q.2.files.contentOf (settingsFile n₀.identity) =
          .ok (Utf8.encode (settingsText (texts ++ [text]))))
        (fun _ _ => False) (Node.appendConfig Floor.host text) p) ∧
    ∀ (n : Node Process) (f : Floor) (text : String) (e : ClusterError) (q : Node Process × Floor),
      Leads (Beside env) (Node.appendConfig Floor.host text).run (n, f) (some (.error e)) q →
      q.1 = n ∧ (q.2 = f ∨ env f q.2) := by
  have begins : Configured n₀.identity [] s := Node.init_configured others rfl _ _ set_up
  obtain ⟨texts, added, configured⟩ := h.configured others begins
  refine ⟨⟨texts, added, added.eq_appended, configured.appended, Node.ended_settingsText,
    Node.lines_settingsText, fun _ _ => Node.lines_closed, fun text => ?_⟩,
    fun n f text e q led => Node.appendConfig_failed _ _ led⟩
  exact (Node.appendConfig_fulfils others text configured).mono (fun _ _ next => next.appended)
    fun _ _ failed => failed

end Accumulation

/-! ### On a floor with notes -/

lemma Upkeep.run {P W : Type} {env : W → W → Prop} {host : Host P W} {s s₁ : Node P × W}
    {outcomes : List NodeOutcome} (quiet : Task.Quiet env) (call : NodeCall)
    (h : Upkeep env host s outcomes s₁) (other : call ≠ .cleanup)
    (ends : ((call.attempt host).run.run [] s₁).1.map Except.toBool = some true) :
    Upkeep env host s ((call, some (.ok ())) :: outcomes)
      ((call.attempt host).run.run [] s₁).2 :=
  h.called call (Task.leads_of_quiet_run quiet.beside (eq_some_ok ends)) fun same =>
    absurd same other

/-- A text without a line feed at its end and an empty one are appended, with a restart in
between. -/
theorem settings_outlast_restart : ∃ s p,
    Leads (Beside fun f f' => f' = f) (Node.init Floor.host).run (Node.beside "W1")
      (some (.ok ())) s ∧
    Upkeep (fun f f' => f' = f) Floor.host s
      [(.appendConfig "", some (.ok ())), (.start, some (.ok ())), (.stop, some (.ok ())),
        (.start, some (.ok ())), (.appendConfig "fsync = off", some (.ok ()))] p ∧
    p.2.files.contentOf (Node.settingsFile (Node.beside "W1").1.identity) =
      .ok (Utf8.encode (Node.settingsText ["fsync = off", ""])) := by
  have quiet : Task.Quiet (fun f f' : Floor => f' = f) := Task.quiet_eq
  have set_up : Leads (Beside fun f f' => f' = f) (Node.init Floor.host).run (Node.beside "W1")
      (some (.ok ())) _ :=
    Task.leads_of_quiet_run quiet.beside (eq_some_ok (by decide +kernel))
  have new : Upkeep (fun f f' => f' = f) Floor.host
      ((Node.init Floor.host).run.run [] (Node.beside "W1")).2 [] _ := .start
  have up := (new.run quiet (.appendConfig "fsync = off") (by decide) (by decide +kernel)).run quiet
    .start (by decide) (by decide +kernel)
  have up_again := (up.run quiet .stop (by decide) (by decide +kernel)).run quiet .start (by decide)
    (by decide +kernel)
  have h := up_again.run quiet (.appendConfig "") (by decide) (by decide +kernel)
  obtain ⟨⟨texts, -, same, content, -⟩, -⟩ := settings_accumulate
    (fun _ _ same => by rw [same]) set_up h
  obtain rfl := same fun text there => by simp at there
  exact ⟨_, _, set_up, h, content⟩

/-- **A clean-up that fails half way** takes the settings with it, and leaves the node initialized:
the directory is emptied before it turns out that it cannot be removed by a path that ends in a dot.
And an empty text has no lines, but its block has two. -/
theorem settings_lost_halfway : ∃ s₁ s₂ s₃ e,
    Leads (Beside fun f f' => f' = f) (Node.init Floor.host).run (Node.beside "W1/.")
      (some (.ok ())) s₁ ∧
    Leads (Beside fun f f' => f' = f) (Node.appendConfig Floor.host "fsync = off").run s₁
      (some (.ok ())) s₂ ∧
    s₂.2.files.contentOf (Node.settingsFile (Node.beside "W1/.").1.identity) =
      .ok (Utf8.encode (Node.settingsText ["fsync = off"])) ∧
    Leads (Beside fun f f' => f' = f) (Node.cleanup Floor.host).run s₂ (some (.error e)) s₃ ∧
    s₃.1.phase = .initialized ∧
    s₃.2.files.contentOf (Node.settingsFile (Node.beside "W1/.").1.identity) = .error .notFound ∧
    Text.lines (Node.configBlock "") = ["", ""] ∧ Text.lines "" = [] := by
  have quiet : Task.Quiet (fun f f' : Floor => f' = f) := Task.quiet_eq
  let s₁ := ((Node.init Floor.host).run.run [] (Node.beside "W1/.")).2
  let s₂ := ((Node.appendConfig Floor.host "fsync = off").run.run [] s₁).2
  obtain ⟨e, failed⟩ : ∃ e, ((Node.cleanup Floor.host).run.run [] s₂).1 = some (.error e) :=
    eq_some_error (by decide +kernel)
  exact ⟨s₁, s₂, _, e, Task.leads_of_quiet_run quiet.beside (eq_some_ok (by decide +kernel)),
    Task.leads_of_quiet_run quiet.beside (eq_some_ok (by decide +kernel)), by decide +kernel,
    Task.leads_of_quiet_run quiet.beside failed, by decide +kernel, by decide +kernel, by decide,
    by decide⟩

end ShardCluster
