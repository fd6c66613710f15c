import ShardCluster.Proofs.Courses
import ShardCluster.Proofs.SetUpRules

/-!
# Bringing nodes up

The calls that bring up a node take their courses as well: a set-up goes from one step to the next,
and where a step fails, the node is released and gets nothing but a stop from then on
(`SetsUp.dismisses`). `History.bring_up_order` draws the conclusion for every call after any
history, and for what the trace tells of the members of a cluster.
-/

namespace ShardCluster

open ShardCluster.Task (Ensures Assures Beside Leads)

variable {P W : Type}

namespace Cluster

/-! ### Set-ups -/

/-- A server is started only while its settings are at the end of its configuration file. -/
def Written (env : W → W → Prop) (host : Host P W) (c : Cluster P) (i : Identity)
    (settings : String) : HostCall P → W → Prop
  | .start _, w => ∀ part, host.OwnFiles env c.config.baseDirectory part →
      ∃ old, (part.get w).contentOf (host.engine.configFile i.engineDirectory) =
        .ok (old ++ Utf8.encode (Node.configBlock settings))
  | _, _ => True

/-- **A set-up**: once the cluster is `c₁`, a call brings a node of that identity up in a place of
the cluster, and has nothing but statements left to do then. -/
structure SetsUp (host : Host P W) (call : Call) (c c₁ : Cluster P)
    (place : Cluster P → Node P → Cluster P) (i : Identity) (settings : String)
    (rest : List (HostCall P)) (first : Trace P W) : Prop where
  cleared : c₁ = c ∨ (∃ name port, call = .addWorker name port) ∧ c.Cleared c₁
  stops : ∀ entry ∈ first, entry.call.isStop
  steps : c₁.steps host call = c₁.bringingUp host i settings ++ rest
  rest : ∀ step ∈ rest, ∃ port database statement, step = .execute port database statement
  spares : ∀ step ∈ c₁.steps host call, ∀ n ∈ c₁.outsiders, ¬ step.Concerns n.identity
  config : c₁.config = c.config
  membership : c₁.membership = c.membership
  placed : place = withLead ∧ (∀ name port, call ≠ .addWorker name port) ∨ place = withNewcomer ∧
    ∃ lead, c.coordinator = some lead ∧ c.membership.coordinator = some lead.identity ∧
      lead.phase = .running ∧ c₁.coordinator = some lead
  identity : ∃ name port, i = .under c.config.baseDirectory name port ∧
    ∀ name' port', call = .addWorker name' port' → name' = name ∧ port' = port

section SettingUp

variable {env : W → W → Prop} {host : Host P W} {call : Call} {c c₁ c' : Cluster P}
  {place : Cluster P → Node P → Cluster P} {i : Identity} {settings : String}
  {rest left : List (HostCall P)} {t first mid last : Trace P W} {n : Node P} {s : Trace P W × W}
  {e : ClusterError}

/-- There is a statement among some deeds. -/
def HasStatement (ds : Trace P W) : Prop :=
  ∃ port database statement w, .made (.execute port database statement) w ∈ ds

lemma SetsUp.course (h : SetsUp host call c c₁ place i settings rest first)
    (proceeds : Proceeds (c₁.steps host call) mid left)
    (sees : Sees (Written env host c₁ i settings) mid) (stops : ∀ entry ∈ last, entry.call.isStop)
    (config : c'.config = c₁.config)
    (members : c'.membership = c₁.membership ∨
      mid ≠ [] ∧ left = [] ∧ c'.membership = c₁.joined call)
    (coordinator : (∃ name port, call = .addWorker name port) → c'.coordinator = c₁.coordinator)
    (serving : (∃ name port, call = .addWorker name port) → last = [] → HasStatement mid →
      ∃ n, (c'.onboarding = some n ∨ n ∈ c'.workers) ∧ n.identity = i ∧ n.phase = .running) :
    c.Course env host call c₁ c' first mid last left where
  cleared := h.cleared
  stops := List.forall_mem_append.2 ⟨h.stops, stops⟩
  proceeds := proceeds
  spares entry he := h.spares _ (proceeds.mem_of_mem he)
  written part own path added launch w known started := by
    rw [h.steps] at known
    rcases List.mem_append.1 known with known | known
    · simp only [bringingUp, Node.preparing, List.cons_append, List.nil_append, List.mem_cons,
        reduceCtorEq, HostCall.append.injEq, List.not_mem_nil, or_false, false_or] at known
      obtain ⟨rfl, rfl⟩ := known
      exact sees _ _ started part (h.config.symm ▸ own)
    · obtain ⟨_, _, _, ⟨⟩⟩ := h.rest _ known
  config := config.trans h.config
  members := (members.imp_left (·.trans h.membership)).imp_right .inr
  led name port adds _ := by
    rcases h.placed with ⟨-, other⟩ | ⟨-, lead, there, recorded, running, there'⟩
    · exact absurd adds (other name port)
    · exact ⟨lead, there, recorded, running, (coordinator ⟨name, port, adds⟩).trans there'⟩
  serving name port adds none_after statement := by
    obtain ⟨n, there, identity, running⟩ := serving ⟨name, port, adds⟩ none_after statement
    obtain ⟨_, _, rfl, same⟩ := h.identity
    obtain ⟨rfl, rfl⟩ := same name port adds
    exact ⟨n, there, identity, running⟩

/-- **A node that is being set up**: since the deeds `d`, the steps have got so far that some are
left, and statements are only made while the node runs. -/
structure Underway (V : HostCall P → W → Prop) (d : Trace P W) (steps : List (HostCall P))
    (i : Identity) (n : Node P) (t : Trace P W) : Prop where
  identity : n.identity = i
  sound : n.Sound
  amid : ∃ mid left, t.deeds = d ++ mid ∧ Proceeds steps mid left ∧ left ≠ [] ∧ Sees V mid ∧
    (HasStatement mid → n.phase = .running)

lemma underway_of_amid {V : HostCall P → W → Prop} {d l : Trace P W} {steps : List (HostCall P)}
    (identity : n.identity = i) (sound : n.Sound) (running : n.phase = .running)
    (h : Trace.Amid V d steps l) : Underway V d steps i n l := by
  obtain ⟨mid, left, deeds, proceeds, ne, sees⟩ := h
  exact ⟨identity, sound, mid, left, deeds, proceeds, ne, sees, fun _ => running⟩

lemma SetsUp.goes_of_underway (h : SetsUp host call c c₁ place i settings rest first)
    (u : Underway (Written env host c₁ i settings) (t.deeds ++ first) (c₁.steps host call) i n
      s.1) :
    Goes env host call c t (place c₁ n, s) := by
  obtain ⟨mid, left, deeds, proceeds, ne, sees, running⟩ := u.amid
  refine ⟨c₁, first, mid, [], left, by simp [deeds], ?_⟩
  rcases h.placed with ⟨rfl, other⟩ | ⟨rfl, -⟩
  · exact h.course proceeds sees nofun rfl (.inl rfl)
      (fun ⟨name, port, adds⟩ => absurd adds (other name port))
      fun ⟨name, port, adds⟩ => absurd adds (other name port)
  · exact h.course proceeds sees nofun rfl (.inl rfl) (fun _ => rfl)
      fun _ _ statement => ⟨n, .inl rfl, u.identity, running statement⟩

/-- The node is released, because a step has failed. -/
lemma SetsUp.goes_of_stopping {s' : Trace P W × W}
    (h : SetsUp host call c c₁ place i settings rest first)
    (u : Underway (Written env host c₁ i settings) (t.deeds ++ first) (c₁.steps host call) i n s.1)
    (stopping : Node.Stopping s.1.deeds n s'.1) (config : c'.config = c₁.config)
    (membership : c'.membership = c₁.membership)
    (coordinator : (∃ name port, call = .addWorker name port) →
      c'.coordinator = c₁.coordinator) :
    Goes env host call c t (c', s') := by
  obtain ⟨mid, left, deeds, proceeds, ne, sees, running⟩ := u.amid
  obtain ⟨last, deeds', stops, some_stop⟩ := stopping
  refine ⟨c₁, first, mid, last, left, by simp [deeds', deeds], ?_⟩
  exact h.course proceeds sees stops config (.inl membership) coordinator
    fun _ none_after statement => absurd none_after (some_stop (running statement))

lemma SetsUp.dismisses (h : SetsUp host call c c₁ place i settings rest first)
    (u : Underway (Written env host c₁ i settings) (t.deeds ++ first) (c₁.steps host call) i n
      s.1) :
    Dismisses (Beside env) host.traced place (Goes env host call c t)
      (fun _ => Goes env host call c t) c₁ e (n, s) := by
  have lead (n' : Node P) : (∃ name port, call = .addWorker name port) →
      (place c₁ n').coordinator = c₁.coordinator := by
    rintro ⟨name, port, adds⟩
    rcases h.placed with ⟨-, other⟩ | ⟨rfl, -⟩
    · exact absurd adds (other name port)
    · rfl
  have same (n' : Node P) : (place c₁ n').config = c₁.config ∧
      (place c₁ n').membership = c₁.membership := by
    rcases h.placed with ⟨rfl, -⟩ | ⟨rfl, -⟩ <;> exact ⟨rfl, rfl⟩
  refine (Node.cleanup_deeds u.sound).mono (fun p stopping => ?_) (fun _ p stopping => ?_)
    fun _ p stopping => ?_
  · exact h.goes_of_stopping u stopping (same p.1).1 (same p.1).2 (lead p.1)
  · exact h.goes_of_stopping u stopping rfl rfl fun _ => rfl
  · exact h.goes_of_stopping u stopping rfl rfl fun _ => rfl

lemma SetsUp.goes_of_had (h : SetsUp host call c c₁ place i settings rest first)
    (had : Trace.Had (Written env host c₁ i settings) (t.deeds ++ first) (c₁.steps host call) s.1)
    (config : c'.config = c₁.config) (members : c'.membership = c₁.joined call)
    (coordinator : (∃ name port, call = .addWorker name port) →
      c'.coordinator = c₁.coordinator)
    (serving : (∃ name port, call = .addWorker name port) →
      ∃ n ∈ c'.workers, n.identity = i ∧ n.phase = .running) :
    Goes env host call c t (c', s) := by
  obtain ⟨mid, deeds, done, sees⟩ := had
  have some_step : mid ≠ [] := by
    rintro rfl
    have := done.eq_nil
    simp [h.steps, bringingUp] at this
  refine ⟨c₁, first, mid, [], [], by simp [deeds], ?_⟩
  refine h.course (.rests (List.append_nil _).symm done) sees nofun config
    (.inr ⟨some_step, rfl, members⟩) coordinator fun adds _ _ => ?_
  obtain ⟨n, there, running⟩ := serving adds
  exact ⟨n, .inr there, running⟩

/-- **Setting a node up**, as the first steps of a call. -/
theorem prepare_underway {name : String} {port : UInt16} {l : Trace P W} {w : W}
    {steps after : List (HostCall P)} {timeout : Duration}
    (below : i = .under c.config.baseDirectory name port)
    (parts : steps = Node.preparing host i timeout settings ++ after) :
    Assures (Beside (Beside env))
      (fun p => Underway (Written env host c i settings) l.deeds steps i p.1 p.2.1)
      (fun _ p => p.1.identity = i ∧ p.1.Sound ∧ p.1.phase = .running ∧
        Trace.Had (Written env host c i settings) l.deeds
          (Node.preparing host i timeout settings) p.2.1)
      (fun _ p => Underway (Written env host c i settings) l.deeds steps i p.1 p.2.1)
      (prepare host.traced settings) (.create i timeout, l, w) := by
  have calm (call : HostCall P) (w : W) (no_start : ∀ launch, call ≠ .start launch) :
      Written env host c i settings call w := by
    cases call <;> first | trivial | exact absurd rfl (no_start _)
  have added (w : W) : Ensures env (fun _ => True)
      (fun r w' => r.isOk → Written env host c i settings (.start (Node.launching i timeout)) w')
      (host.storage.append (host.engine.configFile i.engineDirectory)
        (Utf8.encode (Node.configBlock settings))) w := by
    refine Task.ensures_iff_leads.2 fun r w' led ok part own => ?_
    rw [own.storage] at led
    have others (w w' : W) (he : env w w') :
        (part.get w').find (host.engine.configFile i.engineDirectory) .followed =
          (part.get w).find (host.engine.configFile i.engineDirectory) .followed :=
      below ▸ own.others w w' he name port
    exact ensures_appendTo own.get_put others (some r) w' led ok
  have steady (n : Node P) (t : Trace P W)
      (held : n.InHand (fun (_ : Estate P) (_ : Trace P W × W) => True) i 0 (t, w))
      (h : Trace.Amid (Written env host c i settings) l.deeds
        (Node.preparing host i timeout settings) t) :
      Underway (Written env host c i settings) l.deeds steps i n t := by
    obtain ⟨mid, left, deeds, proceeds, ne, sees⟩ := h
    refine ⟨held.identity, held.sound, mid, left ++ after, deeds, parts ▸ proceeds.append,
      by simp [ne], sees, ?_⟩
    rintro ⟨port', database, statement, w', he⟩
    -- setting the node up takes no statement
    have := proceeds.mem_of_mem he
    simp [Node.preparing, TraceEntry.call] at this
  have fresh : Node.InHand (fun (_ : Estate P) (_ : Trace P W × W) => True) i 0
      (.create i timeout) (l, w) := .create trivial
  refine ((Node.prepare_deeds calm added).and (Node.prepare_spec
    (accounts_nothing (Beside env) host.traced) fresh rfl rfl)).mono ?_ ?_ ?_
  · exact fun p h => steady p.1 p.2.1 ⟨h.2.identity, h.2.sound, h.2.present, trivial⟩ h.1
  · exact fun _ p h => ⟨h.2.1.identity, h.2.1.sound, h.2.2, h.1⟩
  · exact fun _ p h => steady p.1 p.2.1 ⟨h.2.identity, h.2.sound, h.2.present, trivial⟩ h.1

/-- **A set-up goes its way**: wherever it waits and where it fails, the call takes its course, and
in the end the node runs and has the extension. -/
theorem SetsUp.brings_up {l : Trace P W} {w : W}
    (h : SetsUp host call c c₁ place i settings rest first) (deeds : l.deeds = t.deeds ++ first) :
    Assures (Beside (Beside env)) (fun p => Goes env host call c t (place c₁ p.1, p.2))
      (fun _ p => Assures (Beside env) (fun s => Goes env host call c t (place c₁ p.1, s))
        (fun _ s => p.1.identity = i ∧ p.1.Sound ∧ p.1.phase = .running ∧
          Trace.Had (Written env host c₁ i settings) (t.deeds ++ first)
            (c₁.bringingUp host i settings) s.1)
        (fun e s => Dismisses (Beside env) host.traced place (Goes env host call c t)
          (fun _ => Goes env host call c t) c₁ e (p.1, s))
        (installExtension host.traced p.1 c₁.config.dbname) p.2)
      (Dismisses (Beside env) host.traced place (Goes env host call c t)
        (fun _ => Goes env host call c t) c₁)
      (prepare host.traced settings) (.create i c₁.config.startTimeout, l, w) := by
  obtain ⟨name, port, below, -⟩ := h.identity
  rw [← h.config] at below
  have parts : c₁.steps host call = Node.preparing host i c₁.config.startTimeout settings ++
      .execute i.port c₁.config.dbname Sql.installSharding :: rest :=
    h.steps.trans (List.append_assoc _ _ _)
  refine (prepare_underway below parts).mono ?_ ?_ ?_
  · exact fun p u => h.goes_of_underway (deeds ▸ u)
  · rintro - ⟨n, s⟩ ⟨identity, sound, running, had⟩
    have here : n.port = i.port := congrArg Identity.port identity
    have underway (s : Trace P W × W) (amid : Trace.Amid (Written env host c₁ i settings) l.deeds
        (c₁.steps host call) s.1) :
        Underway (Written env host c₁ i settings) (t.deeds ++ first) (c₁.steps host call) i n s.1 :=
      deeds ▸ underway_of_amid identity sound running amid
    refine (Node.installExtension_deeds running had (here ▸ parts) trivial).mono ?_ ?_ ?_
    · exact fun s amid => h.goes_of_underway (underway s amid)
    · rintro - s had
      rw [here, deeds] at had
      exact ⟨identity, sound, running, had⟩
    · exact fun _ s amid => h.dismisses (underway s amid)
  · exact fun _ p u => h.dismisses (deeds ▸ u)

end SettingUp

section Calls

variable {env : W → W → Prop} {host : Host P W} {call : Call} {c : Cluster P} {i : Identity}
  {settings name : String} {port : UInt16} {t : Trace P W} {w : W} {extra : Estate P}

lemma bringingUp_spares (free : c.Free i) {step : HostCall P}
    (known : step ∈ c.bringingUp host i settings) {n : Node P} (outsider : n ∈ c.outsiders) :
    ¬ step.Concerns n.identity := by
  have apart := free n (mem_allocated_of_outsider outsider)
  have ports : i.port ≠ n.identity.port := by
    rw [Identity.conflictsWith] at apart
    simp only [Bool.or_eq_false_iff, beq_eq_false_iff_ne] at apart
    exact apart.1.2
  have directories : i.engineDirectory ≠ n.identity.engineDirectory :=
    engineDirectory_ne apart
  simp only [bringingUp, Node.preparing, Node.launching, List.cons_append, List.nil_append,
    List.mem_cons, List.not_mem_nil, or_false] at known
  rcases known with rfl | rfl | rfl | rfl
  · exact directories
  · exact id
  · exact not_or.2 ⟨directories, ports⟩
  · exact ports

/-- **Bootstrapping** takes its steps. -/
theorem bootstrap_goes (order : c.InOrder (fun _ _ => True) extra (t, w)) :
    Assures (Beside (Beside env)) (Goes env host (.bootstrap name port) c t)
      (fun _ => Goes env host (.bootstrap name port) c t)
      (fun _ => Goes env host (.bootstrap name port) c t)
      (bootstrap host.traced name port) (c, t, w) := by
  rcases vacant : c.coordinator with _ | lead
  swap
  · unfold bootstrap
    simp only [Task.assures_bind, assures_current, vacant, Option.isSome_some, if_true,
      Task.assures_throw]
    exact goes_rfl
  rcases checked : c.checkIdentity (.under c.config.baseDirectory name port) with e | _
  · exact assures_bootstrap_refused vacant checked goes_rfl
  set i := Identity.under c.config.baseDirectory name port with hi
  set settings := c.template.render .coordinator i (i.connectionString c.config.dbname)
  have free : c.Free i := (checkIdentity_eq_ok order.tidy).1 checked
  have setsUp : SetsUp host (.bootstrap name port) c c withLead i settings [] [] :=
    { cleared := .inl rfl
      stops := by simp
      steps := (List.append_nil _).symm
      rest := by simp
      spares := fun step known n outsider => bringingUp_spares free known outsider
      config := rfl
      membership := rfl
      placed := .inl ⟨rfl, by simp⟩
      identity := ⟨name, port, rfl, by simp⟩ }
  refine assures_bootstrap vacant checked ((setsUp.brings_up (List.append_nil _).symm).mono
    (fun _ h => h) (fun _ p h => h.mono (fun _ h => h) ?_ fun _ _ h => h) fun _ _ h => h)
  rintro - s ⟨identity, sound, running, had⟩
  refine setsUp.goes_of_had had rfl ?_ (by simp) (by simp)
  rw [identity]
  exact congrArg (Membership.mk (some i)) (order.agrees.workers_of_vacant vacant)

lemma releaseOnboarding_goes (sound : ∀ n ∈ c.onboarding.toList, n.Sound) :
    Assures (Beside (Beside env)) (Goes env host (.addWorker name port) c t)
      (fun _ p => (p.1 = c ∨ c.Cleared p.1) ∧
        ∃ first, p.2.1.deeds = t.deeds ++ first ∧ ∀ entry ∈ first, entry.call.isStop)
      (fun _ _ => False) (releaseOnboarding host.traced) (c, t, w) := by
  rcases there : c.onboarding with _ | n
  · exact (assures_releaseOnboarding_vacant there).2 ⟨.inl rfl, [], (List.append_nil _).symm, nofun⟩
  have known : n.Sound := sound n (by simp [there])
  refine assures_releaseOnboarding there
    (((Node.cleanup_deeds known).and (Node.steady_cleanup n (t, w))).mono ?_ ?_ ?_)
  · rintro p ⟨⟨ds, deeds, stops, -⟩, -⟩
    exact goes_of_stops (.inl rfl) deeds stops rfl (.inl rfl)
  · rintro - p ⟨⟨ds, deeds, stops, -⟩, -⟩
    exact ⟨.inr ⟨[], List.nil_prefix, by simp⟩, ds, deeds, stops⟩
  · rintro - p ⟨⟨ds, deeds, stops, -⟩, same⟩
    exact ⟨.inr ⟨[p.1], by simp [there, same], rfl⟩, ds, deeds, stops⟩

/-- **Adding a worker** takes its steps once the place is clear. -/
theorem addWorker_goes_cleared {c₁ : Cluster P} {first l : Trace P W} {recorded : Identity}
    (cleared : c₁ = c ∨ c.Cleared c₁) (same : c.SameMembers c₁) (vacant : c₁.onboarding = none)
    (admits : c₁.Admits recorded) (order : c₁.InOrder (fun _ _ => True) extra (l, w))
    (deeds : l.deeds = t.deeds ++ first) (stops : ∀ entry ∈ first, entry.call.isStop) :
    Assures (Beside (Beside env)) (Goes env host (.addWorker name port) c t)
      (fun _ => Goes env host (.addWorker name port) c t)
      (fun _ => Goes env host (.addWorker name port) c t)
      (addWorker host.traced name port) (c₁, l, w) := by
  have cleared : c₁ = c ∨ (∃ name' port', Call.addWorker name port = .addWorker name' port') ∧
      c.Cleared c₁ := cleared.imp_right fun h => ⟨⟨name, port, rfl⟩, h⟩
  rcases checked : c₁.checkIdentity (.under c₁.config.baseDirectory name port) with e | _
  · exact assures_addWorker_refused admits vacant checked
      (goes_of_stops cleared deeds stops same.config (.inl same.membership))
  obtain ⟨lead, there, rfl, leads⟩ := order.agrees.led recorded admits.led
  have member : lead ∈ c₁.members := by simp [members, admits.led, there]
  set i := Identity.under c₁.config.baseDirectory name port
  set settings := c₁.template.render .worker i (lead.identity.connectionString c₁.config.dbname)
  have free : c₁.Free i := (checkIdentity_eq_ok order.tidy).1 checked
  set register : HostCall P := .execute lead.port c₁.config.dbname
    (Sql.addNode (i.connectionString c₁.config.dbname))
  have parts : c₁.steps host (.addWorker name port) =
      c₁.bringingUp host i settings ++ [register] := by
    simp [steps, admits.led, i, settings, register, Node.port]
  have setsUp : SetsUp host (.addWorker name port) c c₁ withNewcomer i settings [register] first :=
    { cleared := cleared
      stops := stops
      steps := parts
      rest := fun step known => ⟨_, _, _, List.mem_singleton.1 known⟩
      spares := fun step known n outsider => by
        rw [parts] at known
        rcases List.mem_append.1 known with known | known
        · exact bringingUp_spares free known outsider
        · rw [List.mem_singleton.1 known]
          exact port_ne_of_outsider order.tidy member outsider
      config := same.config
      membership := same.membership
      placed := .inr ⟨rfl, lead, same.coordinator ▸ there, same.membership ▸ admits.led, leads,
        there⟩
      identity := by
        refine ⟨name, port, by rw [← same.config], fun _ _ adds => ?_⟩
        cases adds
        exact ⟨rfl, rfl⟩ }
  refine assures_addWorker admits there vacant checked ((setsUp.brings_up deeds).mono
    (fun _ h => h) (fun _ p h => h.mono (fun _ h => h) ?_ fun _ _ h => h) fun _ _ h => h)
  rintro - ⟨l', w'⟩ ⟨identity, sound, running, had⟩
  have underway (s : Trace P W × W)
      (amid : Trace.Amid (Written env host c₁ i settings) (t.deeds ++ first)
        (c₁.steps host (.addWorker name port)) s.1) :
      Underway (Written env host c₁ i settings) (t.deeds ++ first)
        (c₁.steps host (.addWorker name port)) i p.1 s.1 :=
    underway_of_amid identity sound running amid
  rw [identity]
  refine (Node.runSql_deeds leads had parts trivial).mono ?_ ?_ ?_
  · exact fun s amid => setsUp.goes_of_underway (underway s amid)
  · rintro - s had
    refine setsUp.goes_of_had (parts ▸ had) rfl rfl (fun _ => rfl) fun _ => ?_
    exact ⟨p.1, List.mem_append_right _ (List.mem_singleton.2 rfl), identity, running⟩
  · exact fun _ s amid => setsUp.dismisses (underway s amid)

/-- **Adding a worker** first clears the place for it, where that asks for stops only. -/
theorem addWorker_goes (order : c.InOrder (fun _ _ => True) extra (t, w)) :
    Assures (Beside (Beside env)) (Goes env host (.addWorker name port) c t)
      (fun _ => Goes env host (.addWorker name port) c t)
      (fun _ => Goes env host (.addWorker name port) c t)
      (addWorker host.traced name port) (c, t, w) := by
  rcases led : c.membership.coordinator with _ | recorded
  · unfold addWorker
    simp only [Task.assures_bind, assures_current, led, Task.assures_throw]
    exact goes_rfl
  by_cases full : c.membership.workers.length ≥ c.config.plannedWorkers
  · unfold addWorker
    simp only [Task.assures_bind, assures_current, led, if_pos full, Task.assures_throw]
    exact goes_rfl
  have admits : c.Admits recorded := ⟨led, not_le.1 full⟩
  have sound (n : Node P) (hn : n ∈ c.onboarding.toList) : n.Sound :=
    order.tidy.sound n (List.mem_append_left _ (List.mem_append_right _ hn))
  rw [assures_addWorker_cleared admits]
  refine ((releaseOnboarding_goes sound).and ((releaseOnboarding_spec
    (accounts_nothing (Beside env) host.traced) order (by simp [led])).and
    releaseOnboarding_keeps)).mono (fun _ h => h.1) ?_ fun _ _ h => h.1
  rintro - ⟨c₁, l, w'⟩ ⟨⟨cleared, first, deeds, stops⟩, ⟨order', -⟩, same, vacant⟩
  exact addWorker_goes_cleared cleared same vacant (admits.same same) order' deeds stops

lemma executeOnCoordinator_goes {statement : String}
    (order : c.InOrder (fun _ _ => True) extra (t, w))
    (step : c.steps host call =
      c.coordinator.toList.map fun n => .execute n.port c.config.dbname statement)
    (other : ∀ name port, call ≠ .addWorker name port) :
    Assures (Beside (Beside env)) (Goes env host call c t) (fun _ => Goes env host call c t)
      (fun _ => Goes env host call c t) (executeOnCoordinator host.traced statement) (c, t, w) := by
  unfold executeOnCoordinator
  simp only [Task.assures_bind, assures_current, Task.assures_ite]
  split
  · exact Task.assures_throw.2 goes_rfl
  rename_i workers
  rcases there : c.coordinator with _ | lead
  · simp [Membership.hasWorkers, order.agrees.workers_of_vacant there] at workers
  have recorded : c.membership.coordinator.isSome := by
    rw [Option.isSome_iff_ne_none]
    intro unrecorded
    have none_there : c.membership.workers = [] := by
      rw [order.agrees.enrolled, (order.agrees.alone unrecorded).1, List.map_nil]
    simp [Membership.hasWorkers, none_there] at workers
  simp only [assures_outside]
  exact statement_goes order (by simp [members, recorded, there]) (by simp [step, there]) other

/-- **What a call asks of engines**, and in which order. -/
theorem call_goes (order : c.InOrder (fun _ _ => True) extra (t, w)) (call : Call) :
    Ensures (Beside (Beside env)) (Goes env host call c t) (fun _ => Goes env host call c t)
      (call.task host.traced) (c, t, w) := by
  cases call with
  | bootstrap name port => exact ensures_discard (bootstrap_goes order) fun _ _ h => h
  | addWorker name port => exact ensures_discard (addWorker_goes order) fun _ _ h => h
  | partitionTable partitioning =>
    exact ensures_discard (executeOnCoordinator_goes order rfl (by simp)) fun _ _ h => h
  | execute statement =>
    exact ensures_discard (executeOnCoordinator_goes order rfl (by simp)) fun _ _ h => h
  | runOnNode name statement =>
    refine ensures_discard ?_ fun _ _ h => h
    unfold runOnNode
    simp only [Task.assures_bind, assures_current]
    split
    · rename_i n found
      simp only [assures_outside]
      exact statement_goes order (List.mem_of_find?_eq_some found) (by simp [steps, found])
        (by simp)
    · exact Task.assures_throw.2 goes_rfl
  | teardown => exact ensures_discard (teardown_goes order) fun _ _ h => h

section Leading

variable {r : Option Unit} {c' : Cluster P} {t' : Trace P W} {w' : W}
  (order : c.InOrder (fun _ _ => True) extra (t, w))
  (led : Leads (Beside (Beside env)) (call.task host.traced) (c, t, w) r (c', t', w'))
include order led

lemma goes_of_leads : Goes env host call c t (c', t', w') := by
  have := call_goes order call r _ led
  cases r <;> exact this

lemma trace_grows : t <+: t' := by
  have traced : c.InOrder (fun _ s => t <+: s.1) extra (t, w) :=
    ⟨order.tidy, order.agrees, List.prefix_rfl⟩
  have := call_spec (accounts_traced env host t) call traced r _ led
  cases r with
  | none =>
    obtain ⟨_, -, _, _, grown⟩ := this
    exact grown
  | some _ => exact this.estate

end Leading

end Calls

/-! ### What a trace tells of a cluster -/

/-- **What a trace tells of a cluster**: every statement went to its database, and the coordinator
has taken every registered worker in. -/
structure Registered (config : Config) (c : Cluster P) (t : Trace P W) : Prop where
  configured : c.config = config
  database : ∀ port database statement w, .made (.execute port database statement) w ∈ t →
    database = config.dbname
  workers : ∀ i ∈ c.membership.workers, ∃ lead, c.membership.coordinator = some lead ∧
    ∃ a, a ≠ .failed ∧ .answered (.execute lead.port config.dbname
      (Sql.addNode (i.connectionString config.dbname))) a ∈ t

section Telling

variable {env : W → W → Prop} {host : Host P W} {call : Call} {c c₁ c' : Cluster P}
  {first mid last : Trace P W} {left : List (HostCall P)} {t t' : Trace P W} {w' : W}
  {config : Config}

lemma database_of_step {port : UInt16} {database statement : String}
    (h : .execute port database statement ∈ c.steps host call) : database = c.config.dbname := by
  cases call <;>
    simp [steps, bringingUp, Node.preparing] at h <;>
    grind

lemma mem_joined {i : Identity} (h : i ∈ (c.joined call).workers) :
    (c.joined call).coordinator = c.membership.coordinator ∧ (i ∈ c.membership.workers ∨
      ∃ name port, call = .addWorker name port ∧ i = .under c.config.baseDirectory name port) := by
  cases call with
  | bootstrap => cases h
  | addWorker name port =>
    refine ⟨rfl, (List.mem_append.1 h).imp_right fun new => ?_⟩
    exact ⟨name, port, rfl, List.mem_singleton.1 new⟩
  | partitionTable | execute | runOnNode | teardown => exact ⟨rfl, .inl h⟩

lemma Course.same (h : c.Course env host call c₁ c' first mid last left) :
    c₁.config = c.config ∧ c₁.membership = c.membership := by
  rcases h.cleared with rfl | ⟨-, kept, -, rfl⟩ <;> exact ⟨rfl, rfl⟩

lemma Course.steps_addWorker {name : String} {port : UInt16}
    (h : c.Course env host (.addWorker name port) c₁ c' first mid last left)
    (some_step : mid ≠ []) :
    ∃ lead before, c.membership.coordinator = some lead ∧
      c₁.steps host (.addWorker name port) = before ++ [.execute lead.port c.config.dbname
        (Sql.addNode ((Identity.under c.config.baseDirectory name port).connectionString
          c.config.dbname))] := by
  obtain ⟨lead, -, recorded, -⟩ := h.led name port rfl some_step
  obtain ⟨config, membership⟩ := h.same
  unfold steps
  rw [membership, recorded, config]
  exact ⟨lead.identity, _, rfl, List.append_nil _⟩

/-- **A call is told of** by what it adds to the trace. -/
theorem Registered.goes (h : c.Registered config t)
    (goes : Goes env host call c t (c', t', w')) (grows : t <+: t') : c'.Registered config t' := by
  obtain ⟨c₁, first, mid, last, left, deeds, course⟩ := goes
  obtain ⟨config', membership'⟩ := course.same
  have told {entry : TraceEntry P W} (he : entry ∈ mid) : entry ∈ t' := by
    have : entry ∈ t'.deeds := deeds ▸ by simp [he]
    exact List.mem_of_mem_filter this
  refine ⟨course.config.trans h.configured, fun port database statement w made => ?_,
    fun i member => ?_⟩
  · have asked : .made (.execute port database statement) w ∈ t'.deeds :=
      List.mem_filter.2 ⟨made, rfl⟩
    rw [deeds] at asked
    simp only [List.mem_append] at asked
    rcases asked with before | (stop | step) | stop
    · exact h.database port database statement w (List.mem_of_mem_filter before)
    · cases course.stops _ (List.mem_append_left _ stop)
    · rw [database_of_step (course.proceeds.mem_of_mem step), config', h.configured]
    · cases course.stops _ (List.mem_append_right _ stop)
  · have stays (old : i ∈ c.membership.workers)
        (same : c'.membership.coordinator = c.membership.coordinator) :
        ∃ lead, c'.membership.coordinator = some lead ∧ ∃ a, a ≠ .failed ∧
          .answered (.execute lead.port config.dbname
            (Sql.addNode (i.connectionString config.dbname))) a ∈ t' := by
      obtain ⟨lead, recorded, a, fine, answered⟩ := h.workers i old
      exact ⟨lead, same.trans recorded, a, fine, grows.subset answered⟩
    rcases course.members with same | ⟨-, none_left⟩ | ⟨some_step, rfl, joined⟩
    · exact stays (same ▸ member) (by rw [same])
    · rw [none_left] at member
      cases member
    rw [joined] at member
    obtain ⟨same, old | ⟨name, port, rfl, rfl⟩⟩ := mem_joined member
    · exact stays (membership' ▸ old) (by rw [joined, same, membership'])
    · obtain ⟨lead, before, recorded, parts⟩ := course.steps_addWorker some_step
      obtain ⟨a, fine, answered⟩ := (parts ▸ course.proceeds).answered_of_done
      rw [joined, same, membership', config', ← h.configured]
      exact ⟨lead, recorded, a, fine, told answered⟩

end Telling

end Cluster

section Histories

variable {env : W → W → Prop} {host : Host P W} {config : Config} {c₀ c : Cluster P} {w₀ w : W}
  {t : Trace P W} {events : List Event}

lemma Cluster.registered_create (created : Cluster.create config = .ok c₀) :
    c₀.Registered config ([] : Trace P W) := by
  unfold create at created
  rcases ht : config.template with e | template <;> rw [ht] at created <;> cases created
  exact ⟨rfl, nofun, nofun⟩

lemma History.registered {p : Cluster P × Trace P W × W}
    (created : Cluster.create config = .ok c₀)
    (h : History (Beside env) host.traced (c₀, [], w₀) events p) :
    p.1.Registered config p.2.1 := by
  have kept {call : Call} {events : List Event} {p p' : Cluster P × Trace P W × W} {r : Option Unit}
      (before : History (Beside env) host.traced (c₀, [], w₀) events p)
      (told : p.1.Registered config p.2.1)
      (led : Leads (Beside (Beside env)) (call.task host.traced) p r p') :
      p'.1.Registered config p'.2.1 := by
    obtain ⟨extra, order⟩ := before.inOrder created
    exact told.goes (Cluster.goes_of_leads order led) (Cluster.trace_grows order led)
  induction h with
  | start => exact Cluster.registered_create created
  | ended call before led ih => exact kept before ih led
  | givenUp call before led ih => exact kept before ih led
  | meanwhile _ he ih =>
    rw [← he.1] at ih
    exact ih

/-- **The order in which nodes are brought up**, after any history of calls that ended or were given
up, and whatever the host does. Every statement went to the database of the cluster, and the
coordinator has taken every registered worker in. Whatever call comes next and wherever it leads,
what it asks of engines is its course: its steps in their order, with nothing but stops before and
after them. -/
theorem History.bring_up_order (created : Cluster.create config = .ok c₀)
    (h : History (Beside env) host.traced (c₀, [], w₀) events (c, t, w)) :
    (∀ port database statement w', .made (.execute port database statement) w' ∈ t →
      database = config.dbname) ∧
    (∀ i ∈ c.membership.workers, ∃ lead, c.membership.coordinator = some lead ∧
      ∃ a, a ≠ .failed ∧ .answered (.execute lead.port config.dbname
        (Sql.addNode (i.connectionString config.dbname))) a ∈ t) ∧
    ∀ (call : Call) r c' t' w', Leads (Beside (Beside env)) (call.task host.traced) (c, t, w) r
        (c', t', w') →
      ∃ new c₁ first mid last left, t' = t ++ new ∧ Trace.deeds new = first ++ mid ++ last ∧
        c.Course env host call c₁ c' first mid last left := by
  have told : c.Registered config t := h.registered created
  refine ⟨told.database, told.workers, fun call r c' t' w' led => ?_⟩
  obtain ⟨extra, order⟩ := h.inOrder created
  obtain ⟨new, rfl⟩ := Cluster.trace_grows order led
  obtain ⟨c₁, first, mid, last, left, deeds, course⟩ := Cluster.goes_of_leads order led
  rw [Trace.deeds_append] at deeds
  exact ⟨new, c₁, first, mid, last, left, rfl, List.append_cancel_left deeds, course⟩

end Histories

open Scenario (Floor)

lemma Scenario.Floor.ownFiles {base : Path} :
    Floor.host.OwnFiles Floor.Still base Floor.filesPart where
  storage := rfl
  get_put _ _ := rfl
  others := by
    rintro f _ rfl name port
    rfl

/-- A worker whose start was given up is left alone until a worker is added again. -/
theorem left_alone : ∃ c t f n,
    History (Beside Floor.Still) Floor.host.traced (.ofDefaults, [], .slow)
      [.givenUp (.addWorker "W1" 5433), .ended (.bootstrap "Lord" 5432)] (c, t, f) ∧
    c.onboarding = some n ∧ n.name = "W1" ∧ n.phase = .initialized ∧
    Floor.host.OwnFiles Floor.Still c.config.baseDirectory Floor.filesPart ∧
    ∀ (call : Call) r c' t' f', Leads (Beside (Beside Floor.Still)) (call.task Floor.host.traced)
        (c, t, f) r (c', t', f') → (∀ name port, call ≠ .addWorker name port) →
      ∃ new, t' = t ++ new ∧ ∀ entry ∈ new, ¬ entry.call.Concerns n.identity := by
  have quiet : Task.Quiet (Beside (X := Trace Simulated.Process Floor) Floor.Still) :=
    Task.quiet_eq.beside
  obtain ⟨⟨c, t, f⟩, h, waiting⟩ : ∃ s,
      History (Beside Floor.Still) Floor.host.traced (.ofDefaults, [], .slow)
        [.givenUp (.addWorker "W1" 5433), .ended (.bootstrap "Lord" 5432)] s ∧
      s.1.onboarding.map (fun n => (n.name, n.phase)) = some ("W1", Phase.initialized) := by
    have new : History (Beside Floor.Still) Floor.host.traced (.ofDefaults, [], .slow) []
      (.ofDefaults, [], .slow) := .start
    have h := (new.run quiet (.bootstrap "Lord" 5432) (by decide +kernel)).cut quiet
      (.addWorker "W1" 5433) 250000000 (by decide +kernel)
    exact ⟨_, h, by decide +kernel⟩
  obtain ⟨n, there, known⟩ := Option.map_eq_some_iff.1 waiting
  obtain ⟨name, phase⟩ := Prod.mk.inj known
  refine ⟨c, t, f, n, h, there, name, phase, Floor.ownFiles, fun call r c' t' f' led other => ?_⟩
  obtain ⟨-, -, course⟩ := h.bring_up_order Cluster.create_ofDefaults
  obtain ⟨new, c₁, first, mid, last, left, grown, deeds, course⟩ := course call r c' t' f' led
  obtain rfl : c₁ = c := course.cleared.resolve_right fun ⟨⟨name, port, adds⟩, _⟩ =>
    other name port adds
  refine ⟨new, grown, fun entry he concerns => ?_⟩
  have outsider : n ∈ c₁.outsiders := by
    simp [Cluster.outsiders, show c₁.onboarding = some n from there]
  have deed : entry ∈ new.deeds := by
    refine List.mem_filter.2 ⟨he, ?_⟩
    cases asked : entry.call <;> simp [asked, HostCall.Concerns] at concerns <;> rfl
  rw [deeds, List.append_assoc] at deed
  have harmless (stop : entry.call.isStop) : False := by
    cases asked : entry.call <;> simp [asked, HostCall.isStop, HostCall.Concerns] at stop concerns
  rcases List.mem_append.1 deed with before | later
  · exact harmless (course.stops entry (List.mem_append_left _ before))
  · rcases List.mem_append.1 later with step | after
    · exact course.spares entry step n outsider concerns
    · exact harmless (course.stops entry (List.mem_append_right _ after))

end ShardCluster
