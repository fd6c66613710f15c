import ShardCluster.Proofs.LoggedHosts
import ShardCluster.Proofs.RunningPorts

/-!
# Ledgers

A ledger of the simulated engine says which ports have been taken since some time before, and that
no stop is going to fail. The floor accounts for the ports of the estate with it
(`accounts_ledger`), and a server that has been started can be stopped (`stop_ledger`).
-/

namespace ShardCluster

open ShardCluster.Task (Ensures Keeps Obeys Follows Leaves)

lemma Task.Leaves.keeps {W α : Type} {env : W → W → Prop} {J : Unit × W → Prop} {t : Task W α}
    (h : Leaves (fun p p' => env p.2 p'.2) J t) : Keeps env (fun w => J ((), w)) t :=
  fun w hw => (h ((), w) hw).ensures fun _ _ others => others

namespace Scenario.Floor

/-- **A ledger** since the floor was `f₀`: in ascending order, the ports with a server are those
from before and some more. Whatever else listened still does, and every stop will succeed. -/
structure Ledger (f₀ : Floor) (ports : Multiset UInt16) (f : Floor) : Prop where
  ascending : f.engine.running.Pairwise (· < ·)
  total : (f.engine.running : Multiset UInt16) = ports + f₀.engine.running
  occupied : f.engine.occupied = f₀.engine.occupied
  obliging : f.engine.refusingStop = []
  faultless : ∀ fault ∈ f.interference.faults, fault.call ≠ .stop

section Ledgers

variable {f₀ f f' : Floor} {ports : Multiset UInt16} {port : UInt16}

lemma Ledger.unmoved (h : Ledger f₀ ports f) (same : f.Unmoved f') : Ledger f₀ ports f' where
  ascending := same.running ▸ h.ascending
  total := same.running ▸ h.total
  occupied := same.occupied.trans h.occupied
  obliging := same.refusingStop.trans h.obliging
  faultless fault there := h.faultless fault (same.faults fault there)

lemma Ledger.launched (h : Ledger f₀ ports f) (free : f.engine.isFree port = true) :
    Ledger f₀ (port ::ₘ ports) { f with engine :=
      { f.engine with running := Simulated.insertPort port f.engine.running } } where
  ascending := Simulated.insertPort_ascending h.ascending (Simulated.notMem_of_isFree free)
  total := by
    rw [Simulated.coe_insertPort (Simulated.notMem_of_isFree free), h.total, Multiset.cons_add]
  occupied := h.occupied
  obliging := h.obliging
  faultless := h.faultless

lemma Ledger.shut (h : Ledger f₀ (port ::ₘ ports) f) :
    Ledger f₀ ports { f with engine :=
      { f.engine with running := f.engine.running.filter (· != port) } } where
  ascending := h.ascending.filter _
  total := by
    rw [Simulated.coe_filter_ne h.ascending, h.total, Multiset.cons_add, Multiset.erase_cons_head]
  occupied := h.occupied
  obliging := h.obliging
  faultless := h.faultless

end Ledgers

section Accounts

variable {env : Floor → Floor → Prop} (still : ∀ f f', env f f' → f.Unmoved f') {f₀ f : Floor}
  {ports : Multiset UInt16}
include still

lemma ledger_stable (p p' : Unit × Floor) (h : Ledger f₀ ports p.2) (others : env p.2 p'.2) :
    Ledger f₀ ports p'.2 :=
  h.unmoved (still _ _ others)

omit still in
lemma ledger_unmoved (_ : Unit) (f f' : Floor) (unmoved : f.Unmoved f') (h : Ledger f₀ ports f) :
    Ledger f₀ ports f' :=
  h.unmoved unmoved

lemma start_ledger {launch : Launch} (h : Ledger f₀ ports f) :
    Ensures env (Ledger f₀ ports)
      (fun r => r.casesOn (fun _ => Ledger f₀ ports) fun server =>
        Ledger f₀ (server.port ::ₘ ports)) (host.engine.start launch) f := by
  have obeys : Obeys (fun p p' : Unit × Floor => env p.2 p'.2) (fun _ _ => True)
      (fun p => Ledger f₀ ports p.2)
      (fun r => r.casesOn (fun _ p => Ledger f₀ ports p.2) fun server p =>
        Ledger f₀ (server.port ::ₘ ports) p.2) (host.engine.start launch) ((), f) :=
    obeys_start (ledger_stable still) ledger_unmoved (fun _ _ h free => h.launched free) h
  refine (obeys.ensures fun _ _ others => others).mono (fun _ h => h) ?_
  rintro (_ | _) f h <;> exact h

/-- **A stop succeeds.** -/
lemma stop_ledger {server : Simulated.Process} (h : Ledger f₀ (server.port ::ₘ ports) f) :
    Ensures env (Ledger f₀ (server.port ::ₘ ports)) (fun r f => r = .ok () ∧ Ledger f₀ ports f)
      (host.engine.stop server) f := by
  have obeys : Obeys (fun p p' : Unit × Floor => env p.2 p'.2) (fun _ _ => True)
      (fun p => Ledger f₀ (server.port ::ₘ ports) p.2)
      (fun r p => r = .ok () ∧ Ledger f₀ ports p.2) (host.engine.stop server) ((), f) := by
    refine obeys_guarded (ledger_stable still) ledger_unmoved h ?_ ?_
    · rintro e p - ⟨p', hp', fault, there, stops⟩
      exact absurd stops (hp'.faultless fault there)
    · rintro ⟨x, f⟩ hp
      have obliging : f.engine.refusingStop = [] := hp.obliging
      have shuts : Simulated.shutDown server.port f.engine = (.ok (),
          { f.engine with running := f.engine.running.filter (· != server.port) }) := by
        unfold Simulated.shutDown
        rw [if_neg (by simp [obliging])]
      show Obeys _ _ _ _ (Simulated.step enginePart (Simulated.shutDown server.port)) _
      refine obeys_step.2 ?_
      rw [shuts]
      exact ⟨rfl, hp.shut⟩
  exact obeys.ensures fun _ _ others => others

/-- **The floor accounts for the ports** of the servers that have been started on it. -/
theorem accounts_ledger :
    host.Accounts env fun e => Ledger f₀ (e.1.map Simulated.Process.port) := by
  have neutral {α : Type} {t : Task Floor α} (h : ∀ ports,
      Leaves (fun p p' : Unit × Floor => env p.2 p'.2) (fun p => Ledger f₀ ports p.2) t) :
      Neutral env (fun (e : Estate Simulated.Process) => Ledger f₀ (e.1.map (·.port))) t :=
    fun e w hw => (h _).keeps w hw
  have started (server : Simulated.Process) (e : Estate Simulated.Process) :
      (Estate.server server + e).1.map Simulated.Process.port =
        server.port ::ₘ e.1.map Simulated.Process.port := by
    simp [Estate.server]
  have made (logs : Path) (e : Estate Simulated.Process) :
      (Estate.directory logs + e).1 = e.1 := by
    simp [Estate.directory]
  refine
    { start := ?_, stop := ?_, createDirectories := ?_, removeTree := ?_,
      init := fun d => neutral fun _ => leaves_init (ledger_stable still) ledger_unmoved d,
      execute := fun port database statement => neutral fun _ =>
        leaves_execute (ledger_stable still) ledger_unmoved port database statement,
      portAvailable := fun port => neutral fun _ => Task.leaves_read,
      pathExists := fun path => neutral fun _ =>
        leaves_ask (ledger_stable still) (·.pathExists path),
      namesIn := fun path => neutral fun _ => leaves_ask (ledger_stable still) (·.namesIn path),
      append := fun path content => neutral fun _ =>
        leaves_append (ledger_stable still) ledger_unmoved path content,
      kept := fun e w w' hw others => hw.unmoved (still _ _ others) }
  · intro launch e w hw
    refine (start_ledger still hw).mono (fun _ h => h) ?_
    rintro (_ | server) w h
    · exact h
    · simp only [started]
      exact h
  · intro server e w hw
    simp only [started] at hw ⊢
    refine (stop_ledger still hw).mono (fun _ h => h) ?_
    rintro _ w ⟨rfl, h⟩
    exact h
  · intro logs e w hw
    simp only [made]
    exact neutral (fun _ => leaves_perform (ledger_stable still) ledger_unmoved
      (FileSystem.createDirectories logs)) e w hw
  · intro d e w hw
    simp only [made, ite_self] at hw ⊢
    exact neutral (fun _ => leaves_perform (ledger_stable still) ledger_unmoved
      (FileSystem.removeTree d)) e w hw

end Accounts

end Scenario.Floor

end ShardCluster
