import ShardCluster.Proofs.Children
import ShardCluster.Proofs.FileHosts

/-!
# Anchored paths

A path is anchored at a directory that it names if it leads there without what is in the directory
(`FileSystem.Anchored`). Removing the tree of an anchored path then removes the directory
(`Anchored.vacated`), and where that fails, the path is still anchored (`Anchored.emptied`). What
others do to the files may lead the path elsewhere; a path that keeps its way
(`FileSystem.KeepsWay`) stays anchored as long as the directory is there (`Anchored.altered`).
-/

namespace ShardCluster

open FileSystem (linkLimit nameLimit)
open ShardCluster.Path (IsPlain)

/-! ### Routes -/

/-- whether a walk can pass an entry -/
def Shape.IsPassable : Shape → Prop
  | .file _ => False
  | _ => True

namespace Layout

/-- Whatever can be passed stays what it is, or goes. -/
def Endures (m m' : Layout) : Prop :=
  ∀ p s, m p = some s → s.IsPassable → m' p = some s ∨ m' p = none

variable {m m' m'' : Layout} {n k k' : Nat} {p q q' : Place} {names : List Bytes}

lemma Route.of_passable (h : m.Route n p names k q)
    (kept : ∀ p s, m p = some s → s.IsPassable → m' p = some s) : m'.Route n p names k q := by
  induction h with
  | stay n p => exact .stay n p
  | here _ ih => exact .here ih
  | up _ ih => exact .up ih
  | enter plain short found _ ih => exact .enter plain short (kept _ _ found trivial) ih
  | follow plain short found _ ih => exact .follow plain short (kept _ _ found trivial) ih

/-- **Two routes along the same names** pass what is in both of their layouts. -/
theorem Route.meet (h : m.Route n p names k q) (h' : m'.Route n p names k' q')
    (endures : m.Endures m') (both : ∀ p s, m p = some s → m' p = some s → m'' p = some s) :
    m''.Route n p names k q := by
  induction h with
  | stay n p => exact .stay n p
  | here _ ih =>
    cases h' with
    | here tail => exact .here (ih tail)
    | enter plain => exact absurd rfl plain.1
    | follow plain => exact absurd rfl plain.1
  | up _ ih =>
    cases h' with
    | up tail => exact .up (ih tail)
    | enter plain => exact absurd rfl plain.2
    | follow plain => exact absurd rfl plain.2
  | enter plain short found _ ih =>
    cases h' with
    | here => exact absurd rfl plain.1
    | up => exact absurd rfl plain.2
    | enter _ _ found' tail => exact .enter plain short (both _ _ found found') (ih tail)
    | follow _ _ found' _ =>
      rcases endures _ _ found trivial with h | h <;> rw [h] at found' <;> cases found'
  | follow plain short found _ ih =>
    cases h' with
    | here => exact absurd rfl plain.1
    | up => exact absurd rfl plain.2
    | enter _ _ found' _ =>
      rcases endures _ _ found trivial with h | h <;> rw [h] at found' <;> cases found'
    | follow _ _ found' tail =>
      rcases endures _ _ found trivial with same | gone
      · rw [same] at found'
        cases found'
        exact .follow plain short (both _ _ found same) (ih tail)
      · rw [gone] at found'
        cases found'

lemma set_directory_eq {home : Place} {s : Shape} (directory : m home = some .directory)
    (there : m.set home (some .directory) p = some s) : m p = some s := by
  by_cases below : home <+: p
  · by_cases same : p = home
    · rw [same, set_self] at there
      rw [same, directory, there]
    · rw [set_below below same] at there
      cases there
  · rwa [set_elsewhere below] at there

lemma set_directory_of_outside {home : Place} {s : Shape} (outside : home <+: p → p = home)
    (directory : m home = some .directory) (there : m p = some s) :
    m.set home (some .directory) p = some s := by
  by_cases below : home <+: p
  · rw [outside below, set_self, ← there, outside below, directory]
  · rw [set_elsewhere below, there]

lemma outside_of_set {home : Place} {s : Shape} (there : m.set home (some .directory) p = some s)
    (below : home <+: p) : p = home := by
  by_contra other
  rw [set_below below other] at there
  cases there

end Layout

namespace FileSystem

open FileAction (Leaves)

variable {fs fs' : FileSystem} {path : Path} {home p q : Place} {ns : List Bytes} {name : Bytes}

/-! ### What a path names -/

lemma named_of_reaches (ok : admissible path = .ok ()) (reached : fs.Reaches path path.names q)
    (no_link : ∀ place target, fs.find path .kept ≠ .ok (place, .link target)) :
    ∃ inner, fs.find path .kept = .ok (q, .directory inner) := by
  obtain ⟨place, entry, found⟩ := find_of_reaches ok reached
  rcases entry with inner | content | target
  · obtain rfl := (reaches_of_find found).unique reached
    exact ⟨inner, found⟩
  · -- the last name leads into a directory or along a link, which is no file
    obtain ⟨ns, name, q', parts, plain, ⟨_, route⟩, rfl⟩ := find_other found (by simp)
    obtain ⟨_, whole⟩ := reached
    rw [parts] at whole
    obtain ⟨_, q'', before, there⟩ := whole.last_present plain
    obtain ⟨-, rfl⟩ := before.unique route
    obtain other | ⟨-, _, _, -, -, file⟩ := walkOn_arrived (resolve_eq (find_eq found))
    · cases other
    · rcases there with ⟨there, -⟩ | ⟨_, there⟩ <;> rw [there] at file <;> cases file
  · exact absurd found (no_link _ _)

lemma closed_of_link {target : Path} (found : fs.find path .kept = .ok (p, .link target)) :
    path.isOpen = false := by
  have walk := resolve_eq (find_eq found)
  unfold Path.steps at walk
  by_contra opened
  rw [if_pos (by simpa using opened)] at walk
  obtain ⟨_, _, -, rest⟩ := route_of_walkOn walk (.inl (List.cons_ne_nil _ _))
  rw [walkOn_dot, walkOn_nil] at rest
  cases rest

lemma named_of_closed {entry : Entry} (found : fs.find path .kept = .ok (p, entry))
    (closed : path.isOpen = false) (parts : path.names = ns ++ [name]) (plain : IsPlain name)
    (reached : fs.Reaches path ns q) : p = q ++ [name] ∧ fs.layout p = some entry.shape := by
  have walk := resolve_eq (find_eq found)
  unfold Path.steps at walk
  rw [if_neg (by simp [closed]), List.append_nil, parts] at walk
  obtain ⟨_, route⟩ := reached
  rw [walkOn_append route (.inl (List.cons_ne_nil _ _))] at walk
  obtain ⟨-, -, found | ⟨ne, -⟩⟩ := walkOn_single plain walk
  · exact found
  · exact absurd rfl ne

/-! ### Anchors -/

/-- **An anchored path**: it names a directory, and leads there without what is in it. -/
structure Anchored (fs : FileSystem) (path : Path) (home : Place) : Prop where
  directory : fs.layout home = some .directory
  route : ∃ k, (fs.layout.set home (some .directory)).Route linkLimit (fs.origin path) path.names k
    home
  named : ∃ inner, fs.find path .kept = .ok (home, .directory inner)

namespace Anchored

lemma reaches (h : fs.Anchored path home) : fs.Reaches path path.names home := by
  obtain ⟨k, route⟩ := h.route
  exact ⟨k, route.of_passable fun _ _ there _ => Layout.set_directory_eq h.directory there⟩

lemma admissible (h : fs.Anchored path home) : FileSystem.admissible path = .ok () := by
  obtain ⟨_, named⟩ := h.named
  exact admissible_of_find named

lemma pathExists (h : fs.Anchored path home) : fs.pathExists path = .ok true := by
  obtain ⟨_, found⟩ := find_followed_of_reaches h.admissible h.reaches
  unfold FileSystem.pathExists
  rw [found]

lemma eq_of_named {entry : Entry} (h : fs.Anchored path home)
    (named : fs.find path .kept = .ok (p, entry)) : p = home := by
  obtain ⟨_, named'⟩ := h.named
  rw [named] at named'
  exact (Prod.mk.inj (Except.ok.inj named')).1

lemma more (h : fs.Anchored path home) (same : fs'.workingDirectory = fs.workingDirectory)
    (fewer : ∀ p, fs.layout p = fs'.layout p ∨ fs.layout p = none) : fs'.Anchored path home := by
  have kept {p : Place} {s : Shape} (there : fs.layout p = some s) : fs'.layout p = some s := by
    rcases fewer p with alike | missing
    · rwa [← alike]
    · rw [missing] at there
      cases there
  obtain ⟨k, route⟩ := h.route
  obtain ⟨_, named⟩ := h.named
  obtain ⟨entry, named', alike⟩ := find_of_fewer same fewer named
  refine ⟨kept h.directory, ⟨k, ?_⟩, ?_⟩
  · rw [origin_congr same]
    refine route.of_passable fun p s there _ => ?_
    exact Layout.set_directory_of_outside (Layout.outside_of_set there) (kept h.directory)
      (kept (Layout.set_directory_eq h.directory there))
  · rcases entry with inner | _ | _ <;> simp [Entry.shape] at alike
    exact ⟨inner, named'⟩

lemma less (h : fs.Anchored path home) (same : fs'.workingDirectory = fs.workingDirectory)
    (fewer : ∀ p, fs'.layout p = fs.layout p ∨ fs'.layout p = none)
    (kept : ∀ p s, (home <+: p → p = home) → fs.layout p = some s → s.IsPassable →
      fs'.layout p = some s) : fs'.Anchored path home := by
  obtain ⟨k, route⟩ := h.route
  obtain ⟨_, named⟩ := h.named
  have directory : fs'.layout home = some .directory :=
    kept _ _ (fun _ => rfl) h.directory trivial
  have route' : (fs'.layout.set home (some .directory)).Route linkLimit (fs'.origin path)
      path.names k home := by
    rw [origin_congr same]
    refine route.of_passable fun p s there passable => ?_
    have outside := Layout.outside_of_set there
    exact Layout.set_directory_of_outside outside directory
      (kept p s outside (Layout.set_directory_eq h.directory there) passable)
  refine ⟨directory, ⟨k, route'⟩, ?_⟩
  rcases find_of_more same fewer named with ⟨entry, named', alike⟩ | missing
  · rcases entry with inner | _ | _ <;> simp [Entry.shape] at alike
    exact ⟨inner, named'⟩
  · -- all names still lead to the directory
    have reached : fs'.Reaches path path.names home :=
      ⟨k, route'.of_passable fun _ _ there _ => Layout.set_directory_eq directory there⟩
    obtain ⟨place, entry, found⟩ := find_of_reaches h.admissible reached
    rw [found] at missing
    cases missing

/-! ### Removals -/

theorem emptied (h : fs.Anchored path home) (emptied : fs.Emptied path fs') :
    fs'.Anchored path home := by
  refine h.less emptied.1 emptied.fewer fun p s outside there _ => ?_
  obtain ⟨-, unchanged | ⟨place, inner, named, -, less⟩⟩ := emptied
  · rw [unchanged, there]
  · obtain rfl := h.eq_of_named named
    rw [less]
    exact Layout.set_directory_of_outside outside h.directory there

lemma cleared (h : fs.Anchored path home) (cleared : fs.Cleared path fs') :
    fs'.layout home = none := by
  obtain ⟨-, place, entry, named, -, -, less⟩ := cleared
  obtain rfl := h.eq_of_named named
  rw [less, Layout.set_self]

/-- **Once the path leads to nothing**, the directory is gone. -/
theorem vacated (h : fs.Anchored path home) (removed : fs.Emptied path fs' ∨ fs.Cleared path fs')
    (missing : fs'.pathExists path = .ok false) : fs'.layout home = none := by
  rcases removed with emptied | cleared
  · have there := (h.emptied emptied).pathExists
    rw [missing] at there
    cases there
  · exact h.cleared cleared

end Anchored

/-! ### What others do -/

/-- **What a call of a node does to the files** at most: whatever can be passed stays what it is, or
goes. -/
structure Alters (fs fs' : FileSystem) : Prop where
  workingDirectory : fs'.workingDirectory = fs.workingDirectory
  endures : fs.layout.Endures fs'.layout

/-- **A path keeps its way**: a directory that it names is gone, or it still names it. -/
def KeepsWay (path : Path) (fs fs' : FileSystem) : Prop :=
  ∀ home inner, fs.find path .kept = .ok (home, .directory inner) →
    fs'.layout home = none ∨ ∃ inner', fs'.find path .kept = .ok (home, .directory inner')

lemma Alters.of_fewer (same : fs'.workingDirectory = fs.workingDirectory)
    (fewer : ∀ p, fs'.layout p = fs.layout p ∨ fs'.layout p = none) : fs.Alters fs' := by
  refine ⟨same, fun p s there _ => ?_⟩
  rcases fewer p with alike | missing
  · exact .inl (alike.trans there)
  · exact .inr missing

lemma Alters.refl : fs.Alters fs := .of_fewer rfl fun _ => .inl rfl

lemma Emptied.alters (h : fs.Emptied path fs') : fs.Alters fs' := .of_fewer h.1 h.fewer

lemma Cleared.fewer (h : fs.Cleared path fs') (p : Place) :
    fs'.layout p = fs.layout p ∨ fs'.layout p = none := by
  obtain ⟨-, place, entry, -, -, -, less⟩ := h
  rw [less]
  exact Layout.set_none_or p

lemma Cleared.alters (h : fs.Cleared path fs') : fs.Alters fs' := .of_fewer h.1 h.fewer

lemma Alters.named {inner : Folder} (h : fs.Alters fs')
    (named : fs.find path .kept = .ok (home, .directory inner))
    (reached : fs'.Reaches path path.names home) :
    ∃ inner', fs'.find path .kept = .ok (home, .directory inner') := by
  refine named_of_reaches (admissible_of_find named) reached fun place target found => ?_
  obtain ⟨ns, name, q, parts, plain, first, rfl⟩ := find_other found (by simp)
  -- both routes along the names before the last one lead to the same directory
  have before : fs.Reaches path ns q := by
    obtain ⟨_, route⟩ := reaches_of_find named
    obtain ⟨_, route'⟩ := reached
    rw [parts] at route route'
    obtain ⟨n, q₀, before, -⟩ := route.split
    obtain ⟨_, _, before', -⟩ := route'.split
    rw [origin_congr h.workingDirectory] at before'
    have both : fs'.Reaches path ns q₀ := by
      refine ⟨n, ?_⟩
      rw [origin_congr h.workingDirectory]
      exact before.meet before' h.endures fun _ _ _ there => there
    obtain rfl := first.unique both
    exact ⟨n, before⟩
  obtain ⟨rfl, directory⟩ := named_of_closed named (closed_of_link found) parts plain before
  obtain other | ⟨-, _, _, -, -, link⟩ := walkOn_arrived (resolve_eq (find_eq found))
  · cases other
  rcases h.endures _ _ directory trivial with there | there <;> rw [there] at link <;> cases link

lemma Alters.keepsWay (h : fs.Alters fs')
    (leads : ∀ home, fs.Reaches path path.names home →
      fs'.layout home = none ∨ fs'.Reaches path path.names home) : KeepsWay path fs fs' :=
  fun home _ named => (leads home (reaches_of_find named)).imp id (h.named named)

/-- **As long as it keeps its way**, a path stays anchored until the directory is gone. -/
theorem Anchored.altered (h : fs.Anchored path home) (alters : fs.Alters fs')
    (way : KeepsWay path fs fs') : fs'.layout home = none ∨ fs'.Anchored path home := by
  obtain ⟨k, route⟩ := h.route
  obtain ⟨_, named⟩ := h.named
  rcases alters.endures _ _ h.directory trivial with directory | gone
  swap
  · exact .inl gone
  rcases way _ _ named with gone | ⟨inner, named'⟩
  · exact .inl gone
  refine .inr ⟨directory, ⟨k, ?_⟩, inner, named'⟩
  obtain ⟨_, route'⟩ := reaches_of_find named'
  rw [origin_congr alters.workingDirectory] at route' ⊢
  refine route.meet route' (fun p s there passable => ?_) fun p s there there' => ?_
  · exact alters.endures p s (Layout.set_directory_eq h.directory there) passable
  · exact Layout.set_directory_of_outside (Layout.outside_of_set there) directory there'

/-! ### What is created -/

/-- Whatever can be passed stays. -/
structure Grows (fs fs' : FileSystem) : Prop where
  workingDirectory : fs'.workingDirectory = fs.workingDirectory
  kept : ∀ p s, fs.layout p = some s → s.IsPassable → fs'.layout p = some s

section Grows

variable {fs₀ : FileSystem} {q place : Place} {name : Bytes} {content : Bytes} {entry : Entry}

lemma Grows.refl : fs.Grows fs := ⟨rfl, fun _ _ there _ => there⟩

lemma Grows.trans (h : fs₀.Grows fs) (h' : fs.Grows fs') : fs₀.Grows fs' :=
  ⟨h'.workingDirectory.trans h.workingDirectory,
    fun p s there passable => h'.kept p s (h.kept p s there passable) passable⟩

lemma Grows.alters (h : fs.Grows fs') : fs.Alters fs' :=
  ⟨h.workingDirectory, fun p s there passable => .inl (h.kept p s there passable)⟩

/-- **Where nothing goes**, every path keeps its way. -/
theorem Grows.keepsWay (h : fs.Grows fs') : KeepsWay path fs fs' := by
  refine h.alters.keepsWay fun home ⟨k, route⟩ => .inr ⟨k, ?_⟩
  rw [origin_congr h.workingDirectory]
  exact route.of_passable h.kept

/-- What can be passed is not where nothing can, nor below, since all that is something in between
is a directory. -/
lemma not_below_of_closed {s : Shape} (closed : ∀ s, fs.layout place = some s → ¬ s.IsPassable)
    (there : fs.layout p = some s) (passable : s.IsPassable) : ¬ place <+: p := by
  rintro ⟨more, rfl⟩
  by_cases here : more = []
  · rw [here, List.append_nil] at there
    exact closed s there passable
  · have outer := directory_of_layout_append (by rw [there]; simp) here
    exact closed _ outer trivial

lemma grows_insert (directory : fs.layout q = some .directory) (bare : entry.isBare)
    (closed : ∀ s, fs.layout (q ++ [name]) = some s → ¬ s.IsPassable) :
    fs.Grows (fs.insert (q ++ [name]) entry) := by
  refine ⟨workingDirectory_insert, fun p s there passable => ?_⟩
  have elsewhere : ¬ q ++ [name] <+: p := not_below_of_closed closed there passable
  rw [layout_insert directory bare, Layout.set_elsewhere elsewhere, there]

lemma createDirectories_grows : Leaves (fun _ => fs.Grows) (fun _ => fs.Grows)
    (createDirectories path) fs := by
  refine createDirectories_keeps (fun above _ _ fs₁ h => ?_) .refl
  refine putNew_spec.mono ?_ fun _ _ same => same ▸ h
  rintro - _ ⟨_, name, q, -, -, -, directory, -, nothing, rfl⟩
  exact h.trans (grows_insert directory rfl fun s there => by rw [nothing] at there; cases there)

lemma openForWriting_closed :
    Leaves (fun r fs' => fs' = fs ∧ ∃ q name, r.1 = q ++ [name] ∧
      fs.layout q = some .directory ∧ ∀ s, fs.layout r.1 = some s → ¬ s.IsPassable)
      (fun _ fs' => fs' = fs) (openForWriting path) fs := by
  unfold openForWriting
  simp only [FileAction.leaves_bind, FileAction.leaves_get, FileAction.leaves_liftM]
  rcases fs.holder path with e | inside
  · trivial
  rcases lastName path with _ | _ | _ | name
  · exact rfl
  · rfl
  · exact rfl
  simp only [FileAction.leaves_ite]
  split
  · exact rfl
  simp only [FileAction.leaves_bind, FileAction.leaves_liftM]
  rcases hr : fs.resolve path .written with e | ⟨place, found⟩
  · trivial
  have arrived := walkOn_arrived (resolve_eq hr)
  rcases found with _ | (_ | content | _)
  · obtain none | ⟨-, q, name, rfl, directory, there⟩ := arrived
    · cases none
    · exact ⟨rfl, q, name, rfl, directory, fun s h => by rw [there] at h; cases h⟩
  · exact rfl
  · obtain other | ⟨-, q, name, rfl, directory, there⟩ := arrived
    · cases other
    · refine ⟨rfl, q, name, rfl, directory, fun s h => ?_⟩
      rw [there] at h
      cases h
      exact id
  · exact rfl

lemma writeFile_grows : Leaves (fun _ => fs.Grows) (fun _ => fs.Grows)
    (writeFile path content) fs := by
  unfold writeFile
  simp only [FileAction.leaves_bind]
  refine openForWriting_closed.mono ?_ fun _ _ same => same ▸ .refl
  rintro ⟨_, _⟩ _ ⟨rfl, q, name, rfl, directory, closed⟩
  exact grows_insert directory trivial closed

lemma appendAt_eq (place : Place) (content : Bytes) (fs : FileSystem) :
    appendAt place content fs = fs ∨ ∃ q name before after, place = q ++ [name] ∧
      fs.layout q = some .directory ∧ fs.layout place = some (.file before) ∧
      appendAt place content fs = fs.insert place (.file after) := by
  unfold appendAt
  split
  swap
  · exact .inl rfl
  rename_i before there
  have file : fs.layout place = some (.file before) := layout_of_lookup there
  rcases List.eq_nil_or_concat place with rfl | ⟨q, name, rfl⟩
  · rw [layout_root] at file
    cases file
  rw [List.concat_eq_append] at file ⊢
  have directory : fs.layout q = some .directory :=
    directory_of_layout_append (by rw [file]; simp) (List.cons_ne_nil _ _)
  exact .inr ⟨q, name, before, _, rfl, directory, file, rfl⟩

lemma Appended.grows (h : Appended path content fs fs') : fs.Grows fs' := by
  rcases h with rfl | ⟨place, -, rfl⟩
  · exact .refl
  rcases appendAt_eq place content fs with same | ⟨q, name, before, after, rfl, directory, file, eq⟩
  · rw [same]
    exact .refl
  · rw [eq]
    refine grows_insert directory trivial fun s there => ?_
    rw [file] at there
    cases there
    exact id

lemma Appended.nothing_new (h : Appended path content fs fs') (missing : fs.layout p = none) :
    fs'.layout p = none := by
  rcases h with rfl | ⟨place, -, rfl⟩
  · exact missing
  rcases appendAt_eq place content fs with same | ⟨q, name, before, after, rfl, directory, file, eq⟩
  · rwa [same]
  rw [eq, layout_insert directory (show (Entry.file after).isBare from trivial)]
  by_cases below : q ++ [name] <+: p
  · refine Layout.set_below below ?_
    rintro rfl
    rw [missing] at file
    cases file
  · rwa [Layout.set_elsewhere below]

theorem Anchored.appended {above : Path} (h : fs.Anchored path home)
    (appended : Appended above content fs fs') : fs'.Anchored path home := by
  rcases appended with rfl | ⟨place, -, rfl⟩
  · exact h
  rcases appendAt_eq place content fs with same | ⟨q, name, before, after, rfl, directory, file, eq⟩
  · rwa [same]
  rw [eq]
  -- as if the file had been taken away and put there again
  have erased : (fs.erase (q ++ [name])).layout = fs.layout.set (q ++ [name]) none :=
    layout_erase directory
  have without : (fs.erase (q ++ [name])).Anchored path home := by
    refine h.less workingDirectory_erase (fun p => ?_) fun p s _ there passable => ?_
    · rw [erased]
      exact Layout.set_none_or p
    · have closed : ∀ s, fs.layout (q ++ [name]) = some s → ¬ s.IsPassable := by
        intro s found
        rw [file] at found
        cases found
        exact id
      rw [erased, Layout.set_elsewhere (not_below_of_closed closed there passable), there]
  refine without.more (workingDirectory_insert.trans workingDirectory_erase.symm) fun p => ?_
  rw [erased, layout_insert directory (show (Entry.file after).isBare from trivial)]
  by_cases below : q ++ [name] <+: p
  · refine .inr ?_
    by_cases here : p = q ++ [name]
    · rw [here, Layout.set_self]
    · rw [Layout.set_below below here]
  · rw [Layout.set_elsewhere below, Layout.set_elsewhere below]
    exact .inl rfl

end Grows

end FileSystem

end ShardCluster
