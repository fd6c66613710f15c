import ShardCluster.Proofs.Accounts

/-!
# Traces

`Host.traced` is any host that writes down beside its world which calls are made of it, in which
world, and how they come back. It does nothing else (`ensures_tracing`), and what has been written
down stays (`accounts_traced`).
-/

namespace ShardCluster

open ShardCluster.Task (Ensures Beside)

/-- a call that can be made of a host -/
inductive HostCall (P : Type) where
  | init (directory : Path)
  | start (launch : Launch)
  | stop (process : P)
  | execute (port : UInt16) (database statement : String)
  | portAvailable (port : UInt16)
  | pathExists (path : Path)
  | namesIn (path : Path)
  | createDirectories (path : Path)
  | writeFile (path : Path) (content : Bytes)
  | append (path : Path) (content : Bytes)
  | ensureFile (path : Path)
  | contentOf (path : Path)
  | removeTree (path : Path)

/-- how a call has come back -/
inductive Answer (P : Type) where
  | done
  | server (process : P)
  | failed

namespace Answer

variable {P α ε : Type}

/-- the answer of a call that may fail -/
def ofExcept : Except ε α → Answer P
  | .ok _ => done
  | .error _ => failed

/-- the answer of a start -/
def ofStart : Except ε P → Answer P
  | .ok p => server p
  | .error _ => failed

end Answer

/-- an entry of a trace -/
inductive TraceEntry (P W : Type) where
  | made (call : HostCall P) (world : W)
  | answered (call : HostCall P) (answer : Answer P)

/-- what a host has been asked for and how that came back, the earliest entry first -/
abbrev Trace (P W : Type) : Type := List (TraceEntry P W)

section Traced

variable {P W α : Type}

/-- a task and the entries for the call and for its answer -/
def tracing (call : HostCall P) (answer : α → Answer P) (t : Task W α) :
    Task (Trace P W × W) α := do
  Task.update fun s => (s.1 ++ [.made call s.2], s.2)
  let a ← t.through (Part.second (Trace P W) W)
  Task.update fun s => (s.1 ++ [.answered call (answer a)], s.2)
  return a

/-- **A host with a trace** beside its world. -/
def Host.traced (host : Host P W) : Host P (Trace P W × W) where
  engine :=
    { init := fun d => tracing (.init d) .ofExcept (host.engine.init d)
      start := fun launch => tracing (.start launch) .ofStart (host.engine.start launch)
      stop := fun p => tracing (.stop p) .ofExcept (host.engine.stop p)
      execute := fun port database statement =>
        tracing (.execute port database statement) .ofExcept
          (host.engine.execute port database statement)
      portAvailable := fun port =>
        tracing (.portAvailable port) (fun _ => .done) (host.engine.portAvailable port)
      configFile := host.engine.configFile }
  storage :=
    { pathExists := fun path => tracing (.pathExists path) .ofExcept (host.storage.pathExists path)
      namesIn := fun path => tracing (.namesIn path) .ofExcept (host.storage.namesIn path)
      createDirectories := fun path =>
        tracing (.createDirectories path) .ofExcept (host.storage.createDirectories path)
      writeFile := fun path content =>
        tracing (.writeFile path content) .ofExcept (host.storage.writeFile path content)
      append := fun path content =>
        tracing (.append path content) .ofExcept (host.storage.append path content)
      ensureFile := fun path => tracing (.ensureFile path) .ofExcept (host.storage.ensureFile path)
      contentOf := fun path => tracing (.contentOf path) .ofExcept (host.storage.contentOf path)
      removeTree := fun path =>
        tracing (.removeTree path) .ofExcept (host.storage.removeTree path) }

variable {env : W → W → Prop} {host : Host P W} {I : Trace P W × W → Prop}
  {Q : α → Trace P W × W → Prop} {call : HostCall P} {answer : α → Answer P} {t : Task W α}
  {l : Trace P W} {w : W}

theorem ensures_tracing : Ensures (Beside env) I Q (tracing call answer t) (l, w) ↔
    Ensures env (fun w' => I (l ++ [.made call w], w'))
      (fun a w' => Q a (l ++ [.made call w, .answered call (answer a)], w')) t w := by
  simp [tracing, Task.ensures_bind, Task.ensures_through]

lemma ensures_traced (hI : ∀ w', I (l ++ [.made call w], w'))
    (hQ : ∀ a w', Q a (l ++ [.made call w, .answered call (answer a)], w')) :
    Ensures (Beside env) I Q (tracing call answer t) (l, w) :=
  ensures_tracing.2 (Task.ensures_of_forall hI hQ)

lemma keeps_tracing {J : Trace P W → Prop}
    (made : ∀ (l : Trace P W) w, J l → J (l ++ [.made call w]))
    (answered : ∀ (l : Trace P W) a, J l → J (l ++ [.answered call a])) :
    Task.Keeps (Beside env) (fun s => J s.1) (tracing call answer t) := by
  rintro ⟨l, w⟩ h
  refine ensures_traced (fun _ => made l w h) fun a _ => ?_
  have := answered _ (answer a) (made l w h)
  rwa [List.append_assoc] at this

/-- **What has been written down stays**, whatever is asked of the host. -/
theorem accounts_traced (env : W → W → Prop) (host : Host P W) (l : Trace P W) :
    host.traced.Accounts (Beside env) fun _ s => l <+: s.1 := by
  have grows {α : Type} (call : HostCall P) (answer : α → Answer P) (t : Task W α) :
      Task.Keeps (Beside env) (fun s => l <+: s.1) (tracing call answer t) :=
    keeps_tracing (J := (l <+: ·)) (fun _ _ h => h.trans (List.prefix_append _ _))
      fun _ _ h => h.trans (List.prefix_append _ _)
  refine
    { start := fun launch _ w h => ?_, stop := fun p _ w h => ?_,
      createDirectories := fun logs _ w h => grows (.createDirectories logs) _ _ w h,
      removeTree := fun d _ w h => ?_, init := fun d _ w h => grows (.init d) _ _ w h,
      execute := fun port database statement _ w h =>
        grows (.execute port database statement) _ _ w h,
      portAvailable := fun port _ w h => grows (.portAvailable port) _ _ w h,
      pathExists := fun path _ w h => grows (.pathExists path) _ _ w h,
      namesIn := fun path _ w h => grows (.namesIn path) _ _ w h,
      append := fun path content _ w h => grows (.append path content) _ _ w h,
      kept := ?_ }
  · refine (grows (.start launch) _ _ w h).mono (fun _ h => h) fun r _ h => ?_
    cases r <;> exact h
  · refine (grows (.stop p) _ _ w h).mono (fun _ h => h) fun r _ h => ?_
    cases r <;> exact h
  · refine (grows (.removeTree d) _ _ w h).mono (fun _ h => h) fun r _ h => ?_
    split <;> exact h
  · rintro - ⟨_, w⟩ ⟨_, w'⟩ h ⟨rfl, -⟩
    exact h

end Traced

end ShardCluster
