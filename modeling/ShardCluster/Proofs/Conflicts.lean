import ShardCluster.Proofs.SetUpRules
import ShardCluster.Proofs.Traces

/-!
# Conflicts

No two nodes of a cluster share a name, a port or a data directory (`Identity.Shares`), wherever
they are kept and whatever became of the calls that brought them in. A call that sets a node up
screens its identity against all of them: it is refused exactly if one of the nodes shares something
with it, and then nothing at all has been asked of the host; otherwise the first thing the call does
is to look at the new directory (`Cluster.Screened`). `History.identities_unique` puts this together
for every cluster that can come about.
-/

namespace ShardCluster

open ShardCluster.Task (Ensures Assures Beside Leads)

/-- **Two identities share** a name, a port or a data directory, of which the components count. -/
def Identity.Shares (i j : Identity) : Prop :=
  i.name = j.name ∨ i.port = j.port ∨ i.dataDirectory.components = j.dataDirectory.components

lemma Identity.conflictsWith_iff {i j : Identity} : i.conflictsWith j = true ↔ i.Shares j := by
  simp [Identity.conflictsWith, Identity.Shares, Path.same, or_assoc]

lemma Identity.conflictsWith_eq_false {i j : Identity} :
    i.conflictsWith j = false ↔ ¬ i.Shares j := by
  rw [← conflictsWith_iff, Bool.not_eq_true]

/-- The operation is refused: it does not wait, it changes nothing, and this is its error. -/
def Refused {S ε α : Type} (env : S → S → Prop) (x : ExceptT ε (Task S) α) (s : S) (e : ε) : Prop :=
  ∀ r s', Leads env x.run s r s' ↔ r = some (.error e) ∧ s' = s

lemma refused_of_assures {S ε α : Type} {env : S → S → Prop} {x : ExceptT ε (Task S) α} {s : S}
    {e : ε} (h : Assures env (fun _ => False) (fun _ _ => False) (fun e' s' => e' = e ∧ s' = s)
      x s) : Refused env x s e := by
  have only {r : Option (Except ε α)} {s' : S} (led : Leads env x.run s r s') :
      r = some (.error e) ∧ s' = s := by
    have := h r s' led
    rcases r with _ | e' | a
    · exact this.elim
    · exact ⟨by rw [this.1], this.2⟩
    · exact this.elim
  refine fun r s' => ⟨only, ?_⟩
  rintro ⟨rfl, rfl⟩
  obtain ⟨r, s', led⟩ : ∃ r s₁, Leads env x.run s' r s₁ := Task.leads_exists _ _
  obtain ⟨rfl, rfl⟩ := only led
  exact led

variable {P W : Type} {env : W → W → Prop} {host : Host P W}

namespace Cluster

/-- the error that refuses an identity because of a node -/
def conflict (i : Identity) (n : Node P) : ClusterError :=
  .init i.name ("conflicts with node " ++ n.name ++ " (port " ++ toString n.port.toNat
    ++ ", directory " ++ n.identity.dataDirectory.display ++ ")")

section Checks

variable {c : Cluster P} {i : Identity}

/-- An identity that is refused shares something with the node that is to blame. -/
lemma checkIdentity_eq_error {e : ClusterError} (h : c.checkIdentity i = .error e) :
    ∃ n ∈ c.allocated, n.identity.Shares i ∧ e = conflict i n := by
  unfold checkIdentity at h
  split at h
  · rename_i n found
    have hit := List.find?_some found
    simp only [Bool.and_eq_true] at hit
    exact ⟨n, List.mem_of_find?_eq_some found, Identity.conflictsWith_iff.1 hit.2,
      (Except.error.inj h).symm⟩
  · cases h

lemma free_iff : c.Free i ↔ ∀ n ∈ c.allocated, ¬ n.identity.Shares i := by
  unfold Free
  simp only [← Identity.conflictsWith_eq_false, Identity.conflictsWith_comm i]

end Checks

/-- **An identity is screened**: the call is refused exactly if a node shares something with the
identity. Otherwise the first thing it does is to look at the new directory. -/
structure Screened (env : W → W → Prop) (x : ClusterAction P (Trace P W × W) Identity)
    (i : Identity) (meaning : ClusterError → ClusterError) (c : Cluster P) (t : Trace P W)
    (w : W) : Prop where
  refused_iff : (∃ n ∈ c.allocated,
      Refused (Beside (Beside env)) x (c, t, w) (meaning (conflict i n))) ↔
    ∃ n ∈ c.allocated, n.identity.Shares i
  proceeds : (∀ n ∈ c.allocated, ¬ n.identity.Shares i) → ∀ r c' t' w',
    Leads (Beside (Beside env)) x.run (c, t, w) r (c', t', w') →
      t ++ [.made (.pathExists i.dataDirectory) w] <+: t'

section Screening

variable {c : Cluster P} {i : Identity} {t l : Trace P W} {w : W} {name dbname settings : String}
  {port : UInt16}

/-- the trace begins like this -/
abbrev Begins (l : Trace P W) (s : Trace P W × W) : Prop := l <+: s.1

/-- A call is screened if it is refused where the check says so, and asks for the directory
first where it does not. -/
lemma screened_of_check {x : ClusterAction P (Trace P W × W) Identity}
    {meaning : ClusterError → ClusterError} (tidy : Tidy c.allocated)
    (refused : ∀ e, c.checkIdentity i = .error e →
      Refused (Beside (Beside env)) x (c, t, w) (meaning e))
    (asks : c.checkIdentity i = .ok () →
      Assures (Beside (Beside env))
        (fun p => Begins (t ++ [.made (.pathExists i.dataDirectory) w]) p.2)
        (fun _ p => Begins (t ++ [.made (.pathExists i.dataDirectory) w]) p.2)
        (fun _ p => Begins (t ++ [.made (.pathExists i.dataDirectory) w]) p.2) x (c, t, w)) :
    Screened env x i meaning c t w := by
  have proceeds (apart : ∀ n ∈ c.allocated, ¬ n.identity.Shares i) (r) (c' : Cluster P)
      (t' : Trace P W) (w' : W) (led : Leads (Beside (Beside env)) x.run (c, t, w) r (c', t', w')) :
      t ++ [.made (.pathExists i.dataDirectory) w] <+: t' :=
    (asks ((checkIdentity_eq_ok tidy).2 (free_iff.2 apart))).holds led
  refine ⟨⟨?_, ?_⟩, proceeds⟩
  · rintro ⟨n, -, hn⟩
    by_contra none_shares
    -- an outcome of a refused call would have to show what the call has asked for
    have led := (hn _ _).2 ⟨rfl, rfl⟩
    have longer := (proceeds (fun m hm shares => none_shares ⟨m, hm, shares⟩) _ _ _ _ led).length_le
    simp only [List.length_append, List.length_singleton] at longer
    omega
  · rintro ⟨n, hn, shares⟩
    rcases checked : c.checkIdentity i with e | _
    · obtain ⟨m, hm, -, rfl⟩ := checkIdentity_eq_error checked
      exact ⟨m, hm, refused _ checked⟩
    · exact absurd shares (free_iff.1 ((checkIdentity_eq_ok tidy).1 checked) n hn)

/-- A node that is being set up and its host, with a trace that begins like this. -/
abbrev Traced (l : Trace P W) (i : Identity) (n : Node P) (s : Trace P W × W) : Prop :=
  n.InHand (fun _ => Begins l) i 0 s

/-- **Setting a new node up** begins with a look at its directory. -/
lemma prepare_asks {timeout : Duration} :
    Assures (Beside (Beside env))
      (fun p => Traced (t ++ [.made (.pathExists i.dataDirectory) w]) i p.1 p.2)
      (fun _ p => Traced (t ++ [.made (.pathExists i.dataDirectory) w]) i p.1 p.2)
      (fun _ p => Traced (t ++ [.made (.pathExists i.dataDirectory) w]) i p.1 p.2)
      (prepare host.traced settings) (.create i timeout, t, w) := by
  set l := t ++ [.made (.pathExists i.dataDirectory) w]
  have acc := accounts_traced env host l
  have new {s : Trace P W × W} (h : Begins l s) : Traced l i (.create i timeout) s := .create h
  have looks : Assures (Beside (Beside env)) (fun p => Traced l i p.1 p.2)
      (fun _ p => p.1 = .create i timeout ∧ Begins l p.2) (fun _ p => Traced l i p.1 p.2)
      (Node.checkVacant host.traced (.create i timeout)) (.create i timeout, t, w) := by
    unfold Node.checkVacant
    simp only [Task.assures_bind, Node.assures_attempt]
    refine ensures_traced (fun _ => new List.prefix_rfl) ?_
    have asked (a : Answer P) (w' : W) : Begins l (t ++ [.made (.pathExists i.dataDirectory) w,
        .answered (.pathExists i.dataDirectory) a], w') := ⟨[_], List.append_assoc ..⟩
    rintro (_ | _ | _) w'
    · exact new (asked _ w')
    · simp only [Bool.false_eq_true, if_false, Task.assures_pure, true_and]
      exact asked _ w'
    · simp only [if_true, Task.assures_bind, Node.assures_attempt]
      refine (acc.namesIn _ 0 _ (asked _ w')).mono (fun _ => new) ?_
      rintro (_ | _ | _) s hs
      · exact new hs
      · simpa using hs
      · simpa using new hs
  unfold prepare
  have fresh := new (s := (l, w)) List.prefix_rfl
  refine Task.assures_bind.2 ((Node.init_spec_of_vacant acc rfl fresh.sound rfl rfl looks).mono
    (fun _ h => h) ?_ fun _ _ h => h)
  rintro - ⟨n, s⟩ ⟨hn, populated⟩
  refine Task.assures_bind.2 ((Node.appendConfig_spec acc hn populated).mono (fun _ h => h) ?_
    fun _ _ h => h)
  rintro - ⟨n, s⟩ ⟨hn, populated⟩
  exact (Node.start_spec acc hn populated).mono (fun _ h => h) (fun _ _ h => h.1) fun _ _ h => h

/-- Releasing a node that could not be set up keeps the beginning of the trace. -/
lemma Traced.dismisses {n : Node P} {s : Trace P W × W} {e : ClusterError}
    {place : Cluster P → Node P → Cluster P} (hn : Traced l i n s) :
    Dismisses (Beside env) host.traced place (fun p => Begins l p.2) (fun _ p => Begins l p.2) c e
      (n, s) :=
  (Node.cleanup_spec (accounts_traced env host l) hn).mono (fun _ h => by simpa using h.estate)
    (fun _ _ h => h.2.2) fun _ _ h => h.estate

/-- **Bootstrapping screens the identity** of the coordinator. -/
theorem screened_bootstrap (tidy : Tidy c.allocated) (vacant : c.coordinator = none) :
    Screened env (bootstrap host.traced name port) (.under c.config.baseDirectory name port) id
      c t w := by
  refine screened_of_check tidy (fun e refused => ?_) fun free => ?_
  · exact refused_of_assures (assures_bootstrap_refused vacant refused ⟨rfl, rfl⟩)
  · refine assures_bootstrap vacant free (prepare_asks.mono (fun _ h => h.estate) ?_
      fun _ _ h => h.dismisses)
    rintro - ⟨n, s⟩ hn
    exact Node.installExtension_keeps ((accounts_traced env host _).execute _ _ _ 0) hn.estate
      (fun _ h => h) (fun _ h => h) fun _ _ h => Traced.dismisses (hn.still h)

/-- **Adding a worker screens its identity** once the place for it is clear. -/
theorem screened_addWorker {recorded : Identity} {lead : Node P} (tidy : Tidy c.allocated)
    (admits : c.Admits recorded) (there : c.coordinator = some lead)
    (vacant : c.onboarding = none) :
    Screened env (addWorker host.traced name port) (.under c.config.baseDirectory name port)
      (.addWorker name) c t w := by
  refine screened_of_check tidy (fun e refused => ?_) fun free => ?_
  · exact refused_of_assures (assures_addWorker_refused admits vacant refused ⟨rfl, rfl⟩)
  · have acc := accounts_traced env host
      (t ++ [.made (.pathExists (Identity.under c.config.baseDirectory name port).dataDirectory) w])
    refine assures_addWorker admits there vacant free (prepare_asks.mono (fun _ h => h.estate) ?_
      fun _ _ h => h.dismisses)
    rintro - ⟨n, s⟩ hn
    refine Node.installExtension_keeps (acc.execute _ _ _ 0) hn.estate (fun _ h => h)
      (fun s h => ?_) fun _ _ h => Traced.dismisses (hn.still h)
    exact Node.runSql_keeps (acc.execute _ _ _ 0) h (fun _ h => h) (fun _ _ h => h)
      fun _ _ h => Traced.dismisses (hn.still h)

end Screening

end Cluster

/-- **Identities are unique**, after any history and whatever the host does: no two nodes share a
name, a port or a data directory, wherever they are kept. The identity of a new coordinator is
screened against all nodes. A call that adds a worker first clears the place for it, and goes on as
it would have begun there; what is left of the nodes then is what it screens the identity of the new
worker against. -/
theorem History.identities_unique {config : Config} {c₀ c : Cluster P} {w₀ w : W} {t : Trace P W}
    {events : List Event} (created : Cluster.create config = .ok c₀)
    (h : History (Beside env) host.traced (c₀, [], w₀) events (c, t, w)) :
    (c.allocated.Pairwise fun m n => m.name ≠ n.name ∧ m.port ≠ n.port ∧
      m.identity.dataDirectory.components ≠ n.identity.dataDirectory.components) ∧
    ∀ name port,
      (c.coordinator = none →
        Cluster.Screened env (Cluster.bootstrap host.traced name port)
          (.under c.config.baseDirectory name port) id c t w) ∧
      ∀ lead, c.Admits lead →
        (∀ r s', Leads (Beside (Beside env)) (Cluster.addWorker host.traced name port).run (c, t, w)
            r s' ↔
          r = none ∧ Leads (Beside (Beside env)) (Cluster.releaseOnboarding host.traced).run
            (c, t, w) none s' ∨
          ∃ s₁, Leads (Beside (Beside env)) (Cluster.releaseOnboarding host.traced).run (c, t, w)
              (some (.ok ())) s₁ ∧
            Leads (Beside (Beside env)) (Cluster.addWorker host.traced name port).run s₁ r s') ∧
        ∀ c₁ t₁ w₁, Leads (Beside (Beside env)) (Cluster.releaseOnboarding host.traced).run
            (c, t, w) (some (.ok ())) (c₁, t₁, w₁) →
          c₁.onboarding = none ∧ Cluster.Screened env (Cluster.addWorker host.traced name port)
            (.under c.config.baseDirectory name port) (.addWorker name) c₁ t₁ w₁ := by
  obtain ⟨lost, order⟩ := h.inOrder created
  refine ⟨order.tidy.apart.imp fun {m n} apart => ?_, fun name port => ⟨fun vacant => ?_,
    fun lead admits => ⟨fun r s' => Cluster.leads_addWorker admits, fun c₁ t₁ w₁ cleared => ?_⟩⟩⟩
  · rw [Identity.conflictsWith_eq_false, Identity.Shares, not_or, not_or] at apart
    exact apart
  · exact Cluster.screened_bootstrap order.tidy vacant
  · have recorded : c.membership.coordinator ≠ none := by simp [admits.led]
    have order₁ := Cluster.releaseOnboarding_spec (accounts_nothing _ _) order recorded _ _ cleared
    have same := Cluster.releaseOnboarding_keeps _ _ cleared
    obtain ⟨n, there, -⟩ := order.agrees.led lead admits.led
    have config : c₁.config = c.config := same.1.config
    rw [← config]
    exact ⟨same.2, Cluster.screened_addWorker order₁.1.tidy (admits.same same.1)
      (same.1.coordinator.trans there) same.2⟩

open Scenario (Floor)

/-- A worker that was left behind by a call stands in nobody's way: once its place is clear, its
name and port can be used again. The coordinator keeps its own. -/
theorem leftover_makes_way : ∃ s s₁,
    History (Beside Floor.Still) Floor.host.traced (.ofDefaults, [], .slow)
      [.givenUp (.addWorker "W1" 5433), .ended (.bootstrap "Lord" 5432)] s ∧
    s.1.allocated.map (·.name) = ["Lord", "W1"] ∧
    Leads (Beside (Beside Floor.Still)) (Cluster.releaseOnboarding Floor.host.traced).run s
      (some (.ok ())) s₁ ∧
    s₁.1.allocated.map (·.name) = ["Lord"] ∧
    (∃ n ∈ s₁.1.allocated, Refused (Beside (Beside Floor.Still))
      (Cluster.addWorker Floor.host.traced "Lord" 5433) s₁
      (.addWorker "Lord" (Cluster.conflict (.under s.1.config.baseDirectory "Lord" 5433) n))) ∧
    ∀ r s₂, Leads (Beside (Beside Floor.Still))
      (Cluster.addWorker Floor.host.traced "W1" 5433).run s₁ r s₂ → s₂.2.1 ≠ s₁.2.1 := by
  have quiet : Task.Quiet (Beside (X := Trace Simulated.Process Floor) Floor.Still) :=
    Task.quiet_eq.beside
  have new : History (Beside Floor.Still) Floor.host.traced (.ofDefaults, [], .slow) []
    (.ofDefaults, [], .slow) := .start
  have h := (new.run quiet (.bootstrap "Lord" 5432) (by decide +kernel)).cut quiet
    (.addWorker "W1" 5433) 250000000 (by decide +kernel)
  obtain ⟨c, t, w, c₁, t₁, w₁, h, names, led, room, cleared, left, taken, free⟩ :
      ∃ c t w c₁ t₁ w₁, History (Beside Floor.Still) Floor.host.traced (.ofDefaults, [], .slow)
        [.givenUp (.addWorker "W1" 5433), .ended (.bootstrap "Lord" 5432)] (c, t, w) ∧
      c.allocated.map (·.name) = ["Lord", "W1"] ∧
      c.membership.coordinator.isSome ∧ c.membership.workers.length < c.config.plannedWorkers ∧
      Leads (Beside (Beside Floor.Still)) (Cluster.releaseOnboarding Floor.host.traced).run
        (c, t, w) (some (.ok ())) (c₁, t₁, w₁) ∧
      c₁.allocated.map (·.name) = ["Lord"] ∧
      (∃ n ∈ c₁.allocated,
        n.identity.conflictsWith (.under c.config.baseDirectory "Lord" 5433) = true) ∧
      ∀ n ∈ c₁.allocated,
        n.identity.conflictsWith (.under c.config.baseDirectory "W1" 5433) = false :=
    ⟨_, _, _, _, _, _, h, by decide +kernel, by decide +kernel, by decide +kernel,
      Task.leads_of_quiet_run quiet.beside (eq_some_ok (by decide +kernel)), by decide +kernel,
      by decide +kernel, by decide +kernel⟩
  obtain ⟨lead, led⟩ := Option.isSome_iff_exists.1 led
  have screened (name : String) (port : UInt16) :=
    ((((h.identities_unique Cluster.create_ofDefaults).2 name port).2 lead ⟨led, room⟩).2 _ _ _
      cleared).2
  refine ⟨_, _, h, names, cleared, left, (screened "Lord" 5433).refused_iff.2 ?_, ?_⟩
  · obtain ⟨n, hn, shares⟩ := taken
    exact ⟨n, hn, Identity.conflictsWith_iff.1 shares⟩
  · rintro r ⟨c₂, t₂, w₂⟩ led (same : t₂ = t₁)
    have asked := (screened "W1" 5433).proceeds
      (fun n hn => Identity.conflictsWith_eq_false.1 (free n hn)) _ _ _ _ led
    have longer := asked.length_le
    simp only [same, List.length_append, List.length_singleton] at longer
    omega

end ShardCluster
