import ShardCluster.Proofs.Building

/-!
# Settlements

Somebody settles along a path that passes for vacant (`settled_of_checked`), and builds there. If
the path was proper (`FileSystem.Proper`), all that is made is where the path leads, but for
directories above (`Settled.confined`); others may remove all of it or leave it where it is
(`Confined.altered`), and once the tree of the path has been removed and the path leads to nothing,
nothing of it is left (`Confined.vacated`). A straight path cannot be led elsewhere by others
(`Straight.keepsWay`).
-/

namespace ShardCluster

open FileSystem (linkLimit nameLimit)
open ShardCluster.Path (IsPlain)

/-! ### Straight ways -/

def Shape.isLink : Shape → Bool
  | .link _ => true
  | _ => false

namespace Layout

variable {m : Layout} {home p q s : Place} {names : List Bytes} {n k : Nat}

/-- what is on the way down to a place, and there -/
def upTo (m : Layout) (home : Place) : Layout := fun p => if p <+: home then m p else none

lemma upTo_eq {shape : Shape} : m.upTo home p = some shape ↔ p <+: home ∧ m p = some shape := by
  unfold upTo
  split <;> simp [*]

lemma isLink_eq_false {found : Option Shape} :
    found.any Shape.isLink = false ↔ ∀ target, found ≠ some (.link target) := by
  rcases found with _ | _ | _ | _ <;> simp [Shape.isLink]

lemma unlinked_iff : m.Unlinked s names ↔
    ∀ p ∈ (s ++ downward names).inits, s <+: p → p ≠ s → (m p).any Shape.isLink = false := by
  simp only [List.mem_inits, isLink_eq_false]
  exact ⟨fun h p first below ne target => h p target below ne first,
    fun h p target below ne first => h p first below ne target⟩

instance : Decidable (m.Unlinked s names) := decidable_of_iff _ unlinked_iff.symm

lemma Route.upTo (route : m.Route n s names k q) (no_up : Path.up ∉ names)
    (unlinked : m.Unlinked s names) (onTheWay : q <+: home) :
    (m.upTo home).Route n s names k q := by
  induction route with
  | stay => exact .stay _ _
  | here _ ih =>
    exact .here (ih (fun h => no_up (List.mem_cons_of_mem _ h)) unlinked.here onTheWay)
  | up => exact absurd List.mem_cons_self no_up
  | @enter _ _ p q name rest plain short found tail ih =>
    have no_up' : Path.up ∉ rest := fun h => no_up (List.mem_cons_of_mem _ h)
    have further : p ++ [name] <+: q := by
      rw [tail.straight no_up' (unlinked.further plain)]
      exact List.prefix_append _ _
    exact .enter plain short (upTo_eq.2 ⟨further.trans onTheWay, found⟩)
      (ih no_up' (unlinked.further plain) onTheWay)
  | follow plain _ found => exact absurd found (unlinked.next plain _)

end Layout

namespace FileSystem

open FileAction (Leaves)
open ShardCluster.Layout (Aims downward)

variable {fs₀ fs fs' : FileSystem} {path above : Path} {home p q : Place} {content : Bytes}
  {made made' : Place → Prop}

/-- **A straight path** leads to a directory by way of the directories above it alone. -/
def Straight (fs : FileSystem) (path : Path) : Prop :=
  ∀ home, fs.Reaches path path.names home →
    ∃ k, (fs.layout.upTo home).Route linkLimit (fs.origin path) path.names k home

theorem straight_of_down (no_up : Path.up ∉ path.names)
    (unlinked : fs.layout.Unlinked (fs.origin path) path.names) : fs.Straight path :=
  fun _ ⟨k, route⟩ => ⟨k, route.upTo no_up unlinked (List.prefix_refl _)⟩

lemma above_of_down (no_up : Path.up ∉ path.names)
    (unlinked : fs.layout.Unlinked (fs.origin path) path.names) (h : fs.Above path p) :
    p <+: fs.origin path ++ downward path.names := by
  obtain ⟨ns, rest, parts, -, -, k, route⟩ := h
  rw [parts] at no_up unlinked ⊢
  rw [route.straight (fun h => no_up (List.mem_append_left _ h)) unlinked.first,
    Layout.downward_append, ← List.append_assoc]
  exact List.prefix_append _ _

/-- **A straight path** keeps its way whatever goes. -/
theorem Straight.keepsWay (straight : fs.Straight path) (alters : fs.Alters fs') :
    KeepsWay path fs fs' := by
  refine alters.keepsWay fun home reached => ?_
  by_cases gone : fs'.layout home = none
  · exact .inl gone
  obtain ⟨k, route⟩ := straight home reached
  refine .inr ⟨k, ?_⟩
  rw [origin_congr alters.workingDirectory]
  refine route.of_passable fun p s there passable => ?_
  obtain ⟨onTheWay, there⟩ := Layout.upTo_eq.1 there
  rcases alters.endures p s there passable with same | missing
  · exact same
  · exact absurd (layout_of_missing missing onTheWay) gone

/-! ### What somebody makes -/

/-- **A proper path** is direct and names no link. -/
structure Proper (fs : FileSystem) (path : Path) : Prop where
  direct : fs.Direct path
  no_link : ∀ place target, fs.find path .kept ≠ .ok (place, .link target)

/-- **A settlement** along a path and behind it, since the files were `fs₀`. -/
structure Settled (fs₀ : FileSystem) (path : Path) (fs : FileSystem) : Prop where
  ok : admissible path = .ok ()
  tenancy : fs₀.Tenancy path fs
  built : ∀ home goal, fs₀.layout.Aims linkLimit (fs₀.origin path) path.names home goal →
    Built fs₀ path home goal fs

theorem settled_of_checked (proper : fs.Proper path)
    (checked : fs.pathExists path = .ok false ∨ fs.namesIn path = .ok []) : fs.Settled path fs := by
  have tenancy : fs.Tenancy path fs :=
    checked.elim (tenancy_of_missing proper.direct) tenancy_of_empty
  refine ⟨?_, tenancy, fun home goal aims => .refl fun p below ne => ?_⟩
  · rcases checked with missing | empty
    · exact admissible_of_missing proper.direct.given missing
    · unfold namesIn at empty
      rcases found : fs.find path .followed with e | ⟨place, entry⟩
      · rw [found] at empty
        cases empty
      · exact admissible_of_find found
  · cases aims with
    | there whole =>
      cases tenancy with
      | held _ heads grown =>
        rw [heads.eq_of_route whole] at grown
        exact grown.bare p below ne
      | barred _ _ nowhere => exact absurd ⟨_, whole⟩ (nowhere home)
    | missing _ _ _ _ missing => exact layout_of_missing missing below

/-- **All that somebody has made** is where the path leads, as long as anything is left of it. -/
def Confined (fs : FileSystem) (path : Path) (made : Place → Prop) : Prop :=
  (∀ p, ¬ made p) ∨ ∃ home, fs.Anchored path home ∧ ∀ p, made p → home <+: p

/-- What is left of what somebody had made, and what is new, but for directories above. -/
def MadeSince (fs₀ : FileSystem) (path : Path) (made : Place → Prop) (fs : FileSystem)
    (p : Place) : Prop :=
  fs.layout p ≠ none ∧ (made p ∨ fs₀.layout p = none ∧ ¬ fs.Above path p)

/-- **What is made in a settlement** is where the path leads. -/
theorem Settled.confined (h : fs₀.Settled path fs) (proper : fs₀.Proper path)
    (confined : fs₀.Confined path made) : fs.Confined path (MadeSince fs₀ path made fs) := by
  have tenancy := h.tenancy
  cases tenancy with
  | barred same layout nowhere =>
    refine .inl fun p ⟨there, before⟩ => ?_
    rw [layout] at there
    rcases confined with none | ⟨home, anchored, -⟩
    · exact before.elim (none p) fun new => there new.1
    · exact nowhere home anchored.reaches
  | @held home same heads grown =>
    obtain ⟨goal, aims⟩ := heads.aims
    have built := h.built home goal aims
    rcases built.confined aims with all_above | ⟨directory, below⟩
    · have old {p : Place} (made' : MadeSince fs₀ path made fs p) : made p :=
        made'.2.resolve_right fun new => new.2 (all_above p new.1 made'.1)
      rcases confined with none | ⟨home', anchored, within⟩
      · exact .inl fun p made' => none p (old made')
      · exact .inr ⟨home', anchored.more same grown.fewer, fun p made' => within p (old made')⟩
    · refine .inr ⟨goal, built.anchored aims h.ok proper.no_link directory, fun p made' => ?_⟩
      rcases made'.2 with old | ⟨new, not_above⟩
      · rcases confined with none | ⟨home', anchored, within⟩
        · exact absurd old (none p)
        · obtain ⟨k, route⟩ := anchored.reaches
          rw [← aims.eq_goal grown (route.of_fewer grown.fewer)]
          exact within p old
      · exact below p new made'.1 not_above

/-! ### What becomes of it -/

/-- what is still there of what somebody had made -/
def LeftOf (made : Place → Prop) (fs : FileSystem) (p : Place) : Prop := made p ∧ fs.layout p ≠ none

lemma MadeSince.leftOf (nothing_new : ∀ p, fs.layout p = none → fs'.layout p = none)
    (h : MadeSince fs path made fs' p) : LeftOf made fs' p :=
  ⟨h.2.resolve_right fun new => h.1 (nothing_new p new.1), h.1⟩

lemma Confined.less (h : fs.Confined path made) (fewer : ∀ p, made' p → made p) :
    fs.Confined path made' := by
  rcases h with none | ⟨home, anchored, below⟩
  · exact .inl fun p made => none p (fewer p made)
  · exact .inr ⟨home, anchored, fun p made => below p (fewer p made)⟩

lemma confined_of_gone (gone : ∀ p, made p → fs.layout p = none) :
    fs.Confined path (LeftOf made fs) :=
  .inl fun p left => left.2 (gone p left.1)

/-- **Others leave it where it is**, or all of it is gone. -/
theorem Confined.altered (h : fs.Confined path made) (alters : fs.Alters fs')
    (way : KeepsWay path fs fs') : fs'.Confined path (LeftOf made fs') := by
  rcases h with none | ⟨home, anchored, below⟩
  · exact .inl fun p left => none p left.1
  rcases anchored.altered alters way with gone | anchored'
  · exact confined_of_gone fun p made => layout_of_missing gone (below p made)
  · exact .inr ⟨home, anchored', fun p left => below p left.1⟩

lemma Confined.appended (h : fs.Confined path made) (appended : Appended above content fs fs') :
    fs'.Confined path made := by
  rcases h with none | ⟨home, anchored, below⟩
  · exact .inl none
  · exact .inr ⟨home, anchored.appended appended, below⟩

lemma nothing_new_of_removed (removed : fs.Emptied path fs' ∨ fs.Cleared path fs')
    (missing : fs.layout p = none) : fs'.layout p = none := by
  have fewer : fs'.layout p = fs.layout p ∨ fs'.layout p = none :=
    removed.elim (fun emptied => emptied.fewer p) fun cleared => cleared.fewer p
  exact fewer.elim (fun alike => alike.trans missing) id

theorem Confined.removed (h : fs.Confined path made)
    (removed : fs.Emptied path fs' ∨ fs.Cleared path fs') :
    fs'.Confined path (LeftOf made fs') := by
  rcases h with none | ⟨home, anchored, below⟩
  · exact .inl fun p left => none p left.1
  rcases removed with emptied | cleared
  · exact .inr ⟨home, anchored.emptied emptied, fun p left => below p left.1⟩
  · exact confined_of_gone fun p made => layout_of_missing (anchored.cleared cleared) (below p made)

/-- **Once the path leads to nothing**, nothing of it is left. -/
theorem Confined.vacated (h : fs.Confined path made)
    (removed : fs.Emptied path fs' ∨ fs.Cleared path fs')
    (missing : fs'.pathExists path = .ok false) (there : made p) : fs'.layout p = none := by
  rcases h with none | ⟨home, anchored, below⟩
  · exact absurd there (none p)
  · exact layout_of_missing (anchored.vacated removed missing) (below p there)

end FileSystem

end ShardCluster
