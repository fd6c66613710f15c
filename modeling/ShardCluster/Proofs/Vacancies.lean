import ShardCluster.Proofs.Children
import ShardCluster.Proofs.Tenancy

/-!
# Vacancies

The data directory of a node is a child of a directory that is there (`FileSystem.Child`). If it
passes for vacant, it is vacant (`vacant_of_checked`); what is then done along its path stays at its
place (`Tenancy.grown`); and it can always be removed again, so that nothing is left there
(`Child.removeTree`).
-/

namespace ShardCluster

open FileSystem (linkLimit nameLimit)
open ShardCluster.Path (IsName IsPlain)

namespace Layout

variable {m m' : Layout} {home p q : Place} {names : List Bytes} {name : Bytes} {n k : Nat}

lemma set_none_below (below : home <+: p) : m.set home none p = none := by
  by_cases same : p = home
  · rw [same, set_self]
  · exact set_below below same

/-- **A vacant place**: nothing is there, or a directory with nothing in it. -/
structure Vacant (m : Layout) (home : Place) : Prop where
  top : m home = none ∨ m home = some .directory
  bare : ∀ p, home <+: p → p ≠ home → m p = none

lemma Vacant.congr (h : m.Vacant home) (same : ∀ p, home <+: p → m' p = m p) : m'.Vacant home where
  top := same home (List.prefix_refl _) ▸ h.top
  bare p below ne := (same p below).trans (h.bare p below ne)

lemma Vacant.of_fewer (h : m.Vacant home) (fewer : ∀ p, m' p = m p ∨ m' p = none) :
    m'.Vacant home where
  top := by
    rcases fewer home with same | missing
    · exact same ▸ h.top
    · exact .inl missing
  bare p below ne := by
    rcases fewer p with same | missing
    · exact same.trans (h.bare p below ne)
    · exact missing

lemma Vacant.no_link (h : m.Vacant home) (target : Path) : m home ≠ some (.link target) := by
  rcases h.top with there | there <;> simp [there]

lemma Heads.eq_child (heads : m.Heads n p (names ++ [name]) home) (route : m.Route n p names k q)
    (plain : IsPlain name) (no_link : ∀ target, m (q ++ [name]) ≠ some (.link target)) :
    home = q ++ [name] := by
  cases heads with
  | there whole =>
    obtain ⟨_, q', before, there⟩ := whole.last_present plain
    obtain ⟨rfl, rfl⟩ := route.unique before
    rcases there with ⟨-, same⟩ | ⟨target, link⟩
    · exact same
    · exact absurd link (no_link target)
  | @missing ns rest name' _ q' parts before plain' _ missing =>
    have first : ns ++ [name'] <+: names ++ [name] := ⟨rest, by simp [parts]⟩
    rcases List.prefix_concat_iff.1 first with same | early
    · obtain ⟨rfl, last⟩ := List.append_inj' same rfl
      obtain ⟨-, rfl⟩ := route.unique before
      rw [last]
    · exact absurd missing (route.present early plain' before)

end Layout

namespace FileSystem

open FileAction (Leaves)

variable {fs fs₀ fs' : FileSystem} {path : Path} {q : Place} {name : String}

lemma direct_child (reached : fs.Reaches path path.names q) (one : IsName name) :
    fs.Direct (path.child name) where
  given := Path.child_ne_nil one
  down before name' after place parts walk := by
    obtain ⟨_, route⟩ := reached
    rw [start_eq, origin_child one] at walk
    obtain ⟨_, q', before', plain, missing⟩ := missing_of_walkOn walk
    rw [one.names_child] at parts
    have first : before ++ [name'] <+: path.names ++ [Utf8.encode name] := ⟨after, by simp [parts]⟩
    rcases List.prefix_concat_iff.1 first with same | early
    · obtain rfl : after = [] := by simpa [← same] using parts
      exact List.not_mem_nil
    · exact absurd missing (route.present early plain before')

/-- **What passes for vacant is vacant**, unless it is a link. -/
theorem vacant_of_checked (reached : fs.Reaches path path.names q)
    (directory : fs.layout q = some .directory) (one : IsName name)
    (short : (Utf8.encode name).length ≤ nameLimit)
    (no_link : ∀ target, fs.layout (q ++ [Utf8.encode name]) ≠ some (.link target))
    (checked : fs.pathExists (path.child name) = .ok false ∨
      fs.namesIn (path.child name) = .ok []) :
    admissible (path.child name) = .ok () ∧ fs.layout.Vacant (q ++ [Utf8.encode name]) := by
  have ok : admissible (path.child name) = .ok () := by
    rcases checked with missing | empty
    · exact admissible_of_missing (Path.child_ne_nil one) missing
    · unfold namesIn at empty
      rcases found : fs.find (path.child name) .followed with e | ⟨place, entry⟩
      · rw [found] at empty
        cases empty
      · exact admissible_of_find found
  refine ⟨ok, ?_⟩
  have child : fs.Child path name q := ⟨reached, directory, one, short, ok⟩
  rcases there : fs.lookup (q ++ [Utf8.encode name]) with _ | entry
  · have missing : fs.layout (q ++ [Utf8.encode name]) = none := by rw [layout_eq, there]; rfl
    exact ⟨.inl missing, fun p below _ => layout_of_missing missing below⟩
  have own : ∀ target, entry ≠ .link target := by
    rintro target rfl
    exact no_link target (layout_of_lookup there)
  have found : fs.find (path.child name) .followed = .ok (q ++ [Utf8.encode name], entry) :=
    child.find_of_lookup there own
  rcases checked with missing | empty
  · unfold pathExists at missing
    rw [found] at missing
    cases missing
  unfold namesIn at empty
  rw [found] at empty
  rcases entry with inner | content | target
  · obtain rfl : inner = [] := List.map_eq_nil_iff.1 (Except.ok.inj empty)
    refine ⟨.inr (layout_of_lookup there), ?_⟩
    rintro _ ⟨more, rfl⟩ ne
    rw [layout_append_of_lookup there]
    exact Folder.layout_empty (by simpa using ne)
  · cases empty
  · exact absurd rfl (own target)

/-- **A tenancy at a vacant child** stays at its place. -/
theorem Tenancy.grown (h : Tenancy fs₀ (path.child name) fs)
    (reached : fs₀.Reaches path path.names q) (one : IsName name)
    (vacant : fs₀.layout.Vacant (q ++ [Utf8.encode name])) :
    fs.workingDirectory = fs₀.workingDirectory ∧
      fs₀.layout.Grown (q ++ [Utf8.encode name]) fs.layout := by
  obtain ⟨_, route⟩ := reached
  cases h with
  | held same heads grown =>
    rw [origin_child one, one.names_child] at heads
    obtain rfl := heads.eq_child route one.plain vacant.no_link
    exact ⟨same, grown⟩
  | barred same layout _ _ =>
    rw [layout]
    exact ⟨same, .refl vacant.bare⟩

/-! ### Without what is vacant -/

/-- the files without the directory at a place, if nothing is in it -/
def eraseVacant (fs : FileSystem) (home : Place) : FileSystem :=
  match fs.lookup home with
  | some (.directory []) => fs.erase home
  | _ => fs

/-- the files without the directories at some places that nothing is in -/
def withoutVacant (fs : FileSystem) (places : List Place) : FileSystem :=
  places.foldl eraseVacant fs

section Vacant

variable {home : Place} {places : List Place} {part : Bytes}

lemma workingDirectory_withoutVacant :
    (fs.withoutVacant places).workingDirectory = fs.workingDirectory := by
  induction places generalizing fs with
  | nil => rfl
  | cons home rest ih =>
    show ((fs.eraseVacant home).withoutVacant rest).workingDirectory = _
    rw [ih]
    unfold eraseVacant
    split
    · exact workingDirectory_erase
    · rfl

lemma layout_eraseVacant (part : Bytes) (directory : fs.layout q = some .directory) :
    (fs.eraseVacant (q ++ [part])).layout = fs.layout ∧ ¬ fs.lookup (q ++ [part]) =
        some (.directory []) ∨
      (fs.eraseVacant (q ++ [part])).layout = fs.layout.set (q ++ [part]) none := by
  unfold eraseVacant
  split
  · exact .inr (layout_erase directory)
  · rename_i other
    exact .inl ⟨rfl, other⟩

lemma fewer_eraseVacant (part : Bytes) (directory : fs.layout q = some .directory) (p : Place) :
    (fs.eraseVacant (q ++ [part])).layout p = fs.layout p ∨
      (fs.eraseVacant (q ++ [part])).layout p = none := by
  rcases layout_eraseVacant part directory with ⟨same, -⟩ | erased
  · exact .inl (congrFun same p)
  · rw [erased]
    by_cases below : q ++ [part] <+: p
    · exact .inr (Layout.set_none_below below)
    · exact .inl (Layout.set_elsewhere below)

lemma eraseVacant_vacant (directory : fs.layout q = some .directory)
    (vacant : fs.layout.Vacant (q ++ [part])) {p : Place} (below : q ++ [part] <+: p) :
    (fs.eraseVacant (q ++ [part])).layout p = none := by
  rcases layout_eraseVacant part directory with ⟨same, not_empty⟩ | erased
  · rw [same]
    rcases vacant.top with missing | there
    · exact layout_of_missing missing below
    · obtain ⟨inner, found⟩ := layout_eq_directory.1 there
      obtain rfl : inner = [] := eq_nil_of_bare found vacant.bare
      exact absurd found not_empty
  · rw [erased, Layout.set_none_below below]

/-- **Without what is vacant**, there is no more than before, and nothing where a place was
vacant. -/
theorem layout_withoutVacant {places : List Place} (directory : fs.layout q = some .directory)
    (children : ∀ home ∈ places, ∃ name, home = q ++ [name]) :
    (∀ p, (fs.withoutVacant places).layout p = fs.layout p ∨
      (fs.withoutVacant places).layout p = none) ∧
    ∀ home ∈ places, fs.layout.Vacant home → ∀ p, home <+: p →
      (fs.withoutVacant places).layout p = none := by
  induction places generalizing fs with
  | nil => exact ⟨fun _ => .inl rfl, nofun⟩
  | cons home rest ih =>
    rw [List.forall_mem_cons] at children
    obtain ⟨⟨name, rfl⟩, others⟩ := children
    have fewer := fewer_eraseVacant name directory
    have directory₁ : (fs.eraseVacant (q ++ [name])).layout q = some .directory := by
      rcases layout_eraseVacant name directory with ⟨same, -⟩ | erased
      · rw [same, directory]
      · rw [erased, Layout.set_elsewhere fun below => absurd below.length_le (by simp), directory]
    obtain ⟨fewer', hidden'⟩ := ih directory₁ others
    have step : fs.withoutVacant ((q ++ [name]) :: rest) =
        (fs.eraseVacant (q ++ [name])).withoutVacant rest := rfl
    rw [step]
    refine ⟨fun p => ?_, fun home' member vacant p below => ?_⟩
    · rcases fewer' p with same | missing
      · rw [same]
        exact fewer p
      · exact .inr missing
    · rcases List.mem_cons.1 member with rfl | later
      · rcases fewer' p with same | missing
        · rw [same, eraseVacant_vacant directory vacant below]
        · exact missing
      · exact hidden' home' later (vacant.of_fewer fewer) p below

end Vacant

/-- **Nothing is left** at a place, and everything else is as it was. -/
structure Razed (home : Place) (fs fs' : FileSystem) : Prop extends OnlyAt home fs fs' where
  gone : ∀ p, home <+: p → fs'.layout p = none

/-- **A child is removed** with all there is in it, or there was nothing to remove. -/
theorem Child.removeTree (h : fs.Child path name q)
    (top : fs.layout (q ++ [Utf8.encode name]) = none ∨
      fs.layout (q ++ [Utf8.encode name]) = some .directory)
    (still : (fs.eraseBelow (q ++ [Utf8.encode name])).Child path name q) :
    Leaves (fun _ fs' => Razed (q ++ [Utf8.encode name]) fs fs')
      (fun e fs' => e = .notFound ∧ Razed (q ++ [Utf8.encode name]) fs fs')
      (removeTree (path.child name)) fs := by
  unfold FileSystem.removeTree
  simp only [FileAction.leaves_bind, FileAction.leaves_get, FileAction.leaves_liftM]
  rcases top with missing | directory
  · rw [h.find_missing missing]
    exact ⟨rfl, .refl, fun p below => layout_of_missing missing below⟩
  obtain ⟨inner, there⟩ := layout_eq_directory.1 directory
  rw [h.find_of_lookup there (by simp)]
  have emptied := layout_eraseBelow directory
  -- the directory is empty by now
  obtain ⟨left, there'⟩ : ∃ left, (fs.eraseBelow (q ++ [Utf8.encode name])).lookup
      (q ++ [Utf8.encode name]) = some (.directory left) :=
    layout_eq_directory.1 (by rw [emptied, Layout.set_self])
  obtain rfl : left = [] := eq_nil_of_bare there' fun p below ne => by
    rw [emptied, Layout.set_below below ne]
  have removed : Leaves (fun _ fs' => Razed (q ++ [Utf8.encode name]) fs fs') (fun _ _ => False)
      (removeDirectory (path.child name)) (fs.eraseBelow (q ++ [Utf8.encode name])) := by
    unfold removeDirectory
    simp only [FileAction.leaves_bind, FileAction.leaves_get, FileAction.leaves_liftM, still.holder,
      still.lastName, entryIn_of_directory still.directory still.short, there',
      FileAction.leaves_set]
    have erased : ((fs.eraseBelow (q ++ [Utf8.encode name])).erase
        (q ++ [Utf8.encode name])).layout = fs.layout.set (q ++ [Utf8.encode name]) none := by
      rw [layout_erase still.directory, emptied, Layout.set_set]
    refine ⟨⟨workingDirectory_erase, fun p outside => ?_⟩, fun p below => ?_⟩
    · rw [erased, Layout.set_elsewhere outside]
    · rw [erased, Layout.set_none_below below]
  simp only [FileAction.leaves_bind, FileAction.leaves_set, FileAction.leaves_tryCatch]
  exact removed.mono (fun _ _ h => h) fun _ _ => False.elim

end FileSystem

end ShardCluster
