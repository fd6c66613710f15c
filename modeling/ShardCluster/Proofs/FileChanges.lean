import ShardCluster.Proofs.Walks

/-!
# What file operations change

`FileAction.Leaves` says what an action leaves behind, with a rule for each way of building one. The
operations are told by the layout and by routes: a new entry comes to the end of a route along all
names but the last (`putNew_spec`), a directory is created by creating directories along the first
names of its path (`createDirectories_keeps`), a file is written where its path leads
(`writeFile_spec`, `openForAppending_spec`), and a removal changes nothing but what is at the place
its path names and below it (`removeTree_spec`).
-/

namespace ShardCluster

namespace FileAction

variable {α β : Type} {Q R : α → FileSystem → Prop} {E F : IoError → FileSystem → Prop}
  {x : FileAction α} {fs : FileSystem}

/-- **What an action leaves**: `Q` of its result where it succeeds and `E` of its error where it
fails. -/
def Leaves (Q : α → FileSystem → Prop) (E : IoError → FileSystem → Prop) (x : FileAction α)
    (fs : FileSystem) : Prop :=
  (x.run fs).1.casesOn (E · (x.run fs).2) (Q · (x.run fs).2)

@[simp] lemma leaves_pure {a : α} : Leaves Q E (pure a) fs ↔ Q a fs := Iff.rfl

@[simp] lemma leaves_throw {e : IoError} : Leaves Q E (throw e) fs ↔ E e fs := Iff.rfl

@[simp] lemma leaves_bind {Q : β → FileSystem → Prop} {f : α → FileAction β} :
    Leaves Q E (x >>= f) fs ↔ Leaves (fun a => Leaves Q E (f a)) E x fs := by
  have parts : (x >>= f).run fs = ExceptT.bindCont f (x.run fs).1 (x.run fs).2 := rfl
  unfold Leaves
  rw [parts]
  generalize x.run fs = result
  obtain ⟨_ | _, _⟩ := result <;> rfl

@[simp] lemma leaves_tryCatch {f : IoError → FileAction α} :
    Leaves Q E (tryCatch x f) fs ↔ Leaves Q (fun e => Leaves Q E (f e)) x fs := by
  unfold Leaves
  rw [ExceptT.run_tryCatch, show ∀ y : Except IoError α → StateM FileSystem (Except IoError α),
    (x.run >>= y) fs = y (x.run fs).1 (x.run fs).2 from fun _ => rfl]
  generalize x.run fs = result
  obtain ⟨_ | _, _⟩ := result <;> rfl

@[simp] lemma leaves_get {Q : FileSystem → FileSystem → Prop} :
    Leaves Q E get fs ↔ Q fs fs := Iff.rfl

@[simp] lemma leaves_set {Q : PUnit → FileSystem → Prop} {fs' : FileSystem} :
    Leaves Q E (set fs') fs ↔ Q () fs' := Iff.rfl

@[simp] lemma leaves_modify {Q : PUnit → FileSystem → Prop} {f : FileSystem → FileSystem} :
    Leaves Q E (modify f) fs ↔ Q () (f fs) := Iff.rfl

@[simp] lemma leaves_liftM {a : Except IoError α} :
    Leaves Q E (liftM a) fs ↔ a.casesOn (E · fs) (Q · fs) := by
  cases a <;> exact Iff.rfl

lemma leaves_ite {c : Prop} [Decidable c] {x y : FileAction α} :
    Leaves Q E (if c then x else y) fs ↔ if c then Leaves Q E x fs else Leaves Q E y fs := by
  split <;> rfl

theorem Leaves.mono (h : Leaves Q E x fs) (hQ : ∀ a fs, Q a fs → R a fs)
    (hE : ∀ e fs, E e fs → F e fs) : Leaves R F x fs := by
  unfold Leaves at h ⊢
  generalize x.run fs = result at h ⊢
  obtain ⟨_ | _, _⟩ := result
  · exact hE _ _ h
  · exact hQ _ _ h

lemma leaves_const {J : FileSystem → Prop} :
    Leaves (fun _ => J) (fun _ => J) x fs ↔ J (x.run fs).2 := by
  unfold Leaves
  generalize x.run fs = result
  obtain ⟨_ | _, _⟩ := result <;> rfl

end FileAction

namespace FileSystem

open FileAction (Leaves)
open ShardCluster.Path (IsPlain)

variable {fs fs' : FileSystem} {path : Path} {place inside q : Place} {name : Bytes}
  {ns : List Bytes} {entry : Entry}

/-! ### New entries -/

lemma holder_spec (h : fs.holder path = .ok inside) :
    fs.Reaches path path.names.dropLast inside := by
  unfold holder at h
  rcases ha : admissible path with e | _ <;> rw [ha] at h
  · cases h
  simp only [start_eq] at h
  rcases hw : fs.walkOn .followed linkLimit (fs.trailTo (fs.origin path)) path.names.dropLast with
    e | ⟨place, _ | (inner | _ | _)⟩ <;>
    rw [show (Except.ok () >>= fun _ => _ : Except IoError _) = _ from rfl, hw] at h <;> cases h
  rw [← List.append_nil path.names.dropLast] at hw
  obtain ⟨n', q, route, rest⟩ := route_of_walkOn hw (.inr ⟨rfl, inner, rfl⟩)
  rw [walkOn_nil] at rest
  cases rest
  exact ⟨n', route⟩

lemma lastName_spec (h : lastName path = .plain name) :
    path.names = path.names.dropLast ++ [name] ∧ IsPlain name := by
  unfold lastName at h
  split at h
  · cases h
  · rename_i last hl
    split at h
    · cases h
    · split at h
      · cases h
      · rename_i one two
        cases h
        exact ⟨(List.dropLast_append_getLast? _ hl).symm, one, two⟩

/-- **A new entry** comes to the end of a route along all names but the last, where nothing was. -/
theorem putNew_spec : Leaves
    (fun _ fs' => ∃ ns name q, path.names = ns ++ [name] ∧ IsPlain name ∧ fs.Reaches path ns q ∧
      fs.layout q = some .directory ∧ name.length ≤ nameLimit ∧ fs.layout (q ++ [name]) = none ∧
      fs' = fs.insert (q ++ [name]) entry)
    (fun _ fs' => fs' = fs) (putNew path entry) fs := by
  unfold putNew
  simp only [FileAction.leaves_bind, FileAction.leaves_get, FileAction.leaves_liftM]
  rcases hh : fs.holder path with e | inside
  · trivial
  rcases hl : lastName path with _ | _ | _ | name
  · exact rfl
  · rfl
  · exact rfl
  obtain ⟨parts, plain⟩ := lastName_spec hl
  simp only [FileAction.leaves_bind, FileAction.leaves_liftM]
  rcases he : entryIn (fs.folder? inside) name with e | _ | there
  · trivial
  · obtain ⟨directory, short, missing⟩ := layout_of_entryIn he
    simp only [FileAction.leaves_ite]
    split
    · exact rfl
    · exact ⟨_, name, inside, parts, plain, holder_spec hh, directory, short, missing, rfl⟩
  · exact rfl

lemma ensureDirectory_keeps {J : FileSystem → Prop}
    (h : Leaves (fun _ => J) (fun _ => J) (createDirectory path) fs) :
    Leaves (fun _ => J) (fun _ => J) (ensureDirectory path) fs := by
  unfold ensureDirectory
  rw [FileAction.leaves_tryCatch]
  refine h.mono (fun _ _ h => h) fun e fs h => ?_
  simp only [FileAction.leaves_bind, FileAction.leaves_get, FileAction.leaves_ite]
  split
  · exact h
  · exact h

/-- **Creating directories** is creating one after another, along the first names of the path. -/
theorem createDirectories_keeps {J : FileSystem → Prop}
    (step : ∀ above, above.names <+: path.names → above.isAbsolute = path.isAbsolute →
      ∀ fs, J fs → Leaves (fun _ => J) (fun _ => J) (createDirectory above) fs) (h : J fs) :
    Leaves (fun _ => J) (fun _ => J) (createDirectories path) fs := by
  unfold createDirectories
  -- the fuel is used up along the paths above, which all have the first names of this one
  have within (fuel : Nat) (above : Path) (first : above.names <+: path.names)
      (same : above.isAbsolute = path.isAbsolute) (fs : FileSystem) (h : J fs) :
      Leaves (fun _ => J) (fun _ => J) (createDirectoriesWithin fuel above) fs := by
    induction fuel generalizing above fs with
    | zero => exact h
    | succ fuel ih =>
      unfold createDirectoriesWithin
      rw [FileAction.leaves_ite]
      split
      · exact h
      rw [FileAction.leaves_tryCatch]
      refine (ensureDirectory_keeps (step above first same fs h)).mono (fun _ _ h => h) ?_
      intro e fs h
      split
      · split
        · rename_i higher hp
          obtain ⟨fewer, same'⟩ := Path.parent_spec hp
          rw [FileAction.leaves_bind]
          refine (ih higher (fewer.trans first) (same'.trans same) fs h).mono ?_ fun _ _ h => h
          exact fun _ fs h => ensureDirectory_keeps (step above first same fs h)
        · exact h
      · exact h
  exact within _ path (List.prefix_refl _) rfl fs h

/-! ### Files -/

/-- A place that the last name of a path leads to, or a link of that name leads elsewhere. -/
def EndsAt (fs : FileSystem) (path : Path) (place : Place) : Prop :=
  ∃ ns name q, path.names = ns ++ [name] ∧ IsPlain name ∧ fs.Reaches path ns q ∧
    fs.layout q = some .directory ∧
    ((place = q ++ [name] ∧ fs.layout place ≠ some .directory) ∨
      ∃ target, fs.layout (q ++ [name]) = some (.link target))

lemma openForWriting_spec :
    Leaves (fun r fs' => fs' = fs ∧ fs.EndsAt path r.1) (fun _ fs' => fs' = fs)
      (openForWriting path) fs := by
  unfold openForWriting
  simp only [FileAction.leaves_bind, FileAction.leaves_get, FileAction.leaves_liftM]
  rcases hh : fs.holder path with e | inside
  · trivial
  rcases hl : lastName path with _ | _ | _ | name
  · exact rfl
  · rfl
  · exact rfl
  obtain ⟨parts, plain⟩ := lastName_spec hl
  simp only [FileAction.leaves_ite]
  split
  · exact rfl
  rename_i closed
  simp only [FileAction.leaves_bind, FileAction.leaves_liftM]
  rcases hr : fs.resolve path .written with e | ⟨place, found⟩
  · trivial
  obtain ⟨q, reached, directory, arrived⟩ :=
    resolve_spec (Bool.eq_false_iff.2 closed) parts plain hr
  rcases found with _ | (_ | content | _)
  · refine ⟨rfl, _, name, q, parts, plain, reached, directory, ?_⟩
    exact arrived.imp (fun h => ⟨h.1, by simp [h.2]⟩) fun h => h.2
  · exact rfl
  · refine ⟨rfl, _, name, q, parts, plain, reached, directory, ?_⟩
    exact arrived.imp (fun h => ⟨h.1, by simp [h.2, Entry.shape]⟩) fun h => h.2
  · exact rfl

/-- **Writing a file** puts it where the path ends. -/
theorem writeFile_spec {content : Bytes} :
    Leaves (fun _ fs' => ∃ place, fs.EndsAt path place ∧ fs' = fs.insert place (.file content))
      (fun _ fs' => fs' = fs) (writeFile path content) fs := by
  unfold writeFile
  simp only [FileAction.leaves_bind]
  refine openForWriting_spec.mono ?_ fun _ _ h => h
  rintro ⟨place, before⟩ _ ⟨rfl, ends⟩
  exact ⟨place, ends, rfl⟩

lemma openForAppending_same : ((openForAppending path).run fs).2 = fs := by
  rw [← FileAction.leaves_const (J := (· = fs))]
  unfold openForAppending
  simp only [FileAction.leaves_bind, FileAction.leaves_get, FileAction.leaves_liftM]
  rcases fs.find path .followed with e | ⟨place, _ | content | _⟩
  · trivial
  · exact rfl
  · exact rfl
  · exact rfl

theorem openForAppending_spec (closed : path.isOpen = false) (parts : path.names = ns ++ [name])
    (plain : IsPlain name) : Leaves (fun place fs' => fs' = fs ∧ fs.EndsAt path place)
      (fun _ fs' => fs' = fs) (openForAppending path) fs := by
  unfold openForAppending
  simp only [FileAction.leaves_bind, FileAction.leaves_get, FileAction.leaves_liftM]
  rcases hf : fs.find path .followed with e | ⟨place, _ | content | _⟩
  · trivial
  · rfl
  · obtain ⟨q, reached, directory, arrived⟩ := resolve_spec closed parts plain (find_eq hf)
    refine ⟨rfl, _, name, q, parts, plain, reached, directory, ?_⟩
    exact arrived.imp (fun h => ⟨h.1, by simp [h.2, Entry.shape]⟩) fun h => h.2
  · exact rfl

/-! ### Removals -/

/-- A removal that has not got further than the contents of the directory a path names, if it has
got that far. -/
def Emptied (fs : FileSystem) (path : Path) (fs' : FileSystem) : Prop :=
  fs'.workingDirectory = fs.workingDirectory ∧ (fs'.layout = fs.layout ∨
    ∃ place inner, fs.find path .kept = .ok (place, .directory inner) ∧
      fs.layout place = some .directory ∧ fs'.layout = fs.layout.set place (some .directory))

/-- A removal that has taken away the directory or link a path names. -/
def Cleared (fs : FileSystem) (path : Path) (fs' : FileSystem) : Prop :=
  fs'.workingDirectory = fs.workingDirectory ∧
    ∃ place entry, fs.find path .kept = .ok (place, entry) ∧ (∀ content, entry ≠ .file content) ∧
      fs.layout place = some entry.shape ∧ fs'.layout = fs.layout.set place none

lemma Emptied.fewer (h : fs.Emptied path fs') (p : Place) :
    fs'.layout p = fs.layout p ∨ fs'.layout p = none := by
  obtain ⟨-, same | ⟨place, inner, -, directory, less⟩⟩ := h
  · exact .inl (congrFun same p)
  · rw [less]
    by_cases below : place <+: p
    · by_cases at_place : p = place
      · rw [at_place, Layout.set_self, directory]
        exact .inl rfl
      · exact .inr (Layout.set_below below at_place)
    · exact .inl (Layout.set_elsewhere below)

lemma emptied_eraseBelow {inner : Folder} (h : fs.find path .kept = .ok (place, .directory inner)) :
    fs.Emptied path (fs.eraseBelow place) := by
  refine ⟨rfl, ?_⟩
  by_cases directory : fs.layout place = some .directory
  · exact .inr ⟨place, inner, h, directory, layout_eraseBelow directory⟩
  · exact .inl (layout_eraseBelow_of_missing directory)

/-- Where only contents have gone before, an empty directory that goes is the one the path names. -/
lemma Emptied.cleared {inner : Folder} (h : fs.Emptied path fs')
    (named : fs.find path .kept = .ok (place, .directory inner)) (plain : IsPlain name)
    (parts : path.names = path.names.dropLast ++ [name]) (held : fs'.holder path = .ok inside)
    (there : entryIn (fs'.folder? inside) name = .ok (some (.directory []))) :
    fs.Cleared path (fs'.erase (inside ++ [name])) := by
  obtain ⟨directory, short, present⟩ := layout_of_entryIn there
  obtain ⟨n, route⟩ := holder_spec held
  have whole : fs'.layout.Route linkLimit (fs.origin path) path.names n (inside ++ [name]) := by
    rw [parts]
    rw [show fs'.origin path = fs.origin path by unfold origin; rw [h.1]] at route
    exact route.append (.enter plain short present (.stay ..))
  obtain rfl : place = inside ++ [name] :=
    Reaches.unique ⟨n, whole.of_fewer h.fewer⟩ (reaches_of_find named)
  have kept : fs.layout (inside ++ [name]) = some .directory := by
    rcases h.fewer (inside ++ [name]) with same | gone
    · rw [← same]
      exact present
    · rw [gone] at present
      cases present
  refine ⟨by rw [workingDirectory_erase, h.1], _, _, named, by simp, kept, ?_⟩
  rw [layout_erase directory]
  rcases h.2 with same | ⟨place', inner', named', -, less⟩
  · rw [same]
  · rw [named] at named'
    cases named'
    rw [less, Layout.set_set]

/-- **Removing a tree** changes nothing but what is at the place its path names and below it. Where
it fails, a directory is still there. -/
theorem removeTree_spec (path : Path) (fs : FileSystem) :
    Leaves (fun _ fs' => fs.Emptied path fs' ∨ fs.Cleared path fs')
    (fun _ fs' => fs.Emptied path fs') (removeTree path) fs := by
  have untouched : fs.Emptied path fs := ⟨rfl, .inl rfl⟩
  unfold removeTree
  simp only [FileAction.leaves_bind, FileAction.leaves_get, FileAction.leaves_liftM]
  rcases hf : fs.find path .kept with e | ⟨place, inner | content | target⟩
  · exact untouched
  · have emptied := emptied_eraseBelow hf
    -- whatever becomes of the last step, the contents are gone
    have last : Leaves (fun _ fs' => fs.Cleared path fs') (fun _ fs' => fs' = fs.eraseBelow place)
        (removeDirectory path) (fs.eraseBelow place) := by
      unfold removeDirectory
      simp only [FileAction.leaves_bind, FileAction.leaves_get, FileAction.leaves_liftM]
      rcases hh : (fs.eraseBelow place).holder path with e | inside
      · trivial
      rcases hl : lastName path with _ | _ | _ | name
      · exact rfl
      · exact rfl
      · exact rfl
      obtain ⟨parts, plain⟩ := lastName_spec hl
      simp only [FileAction.leaves_bind, FileAction.leaves_liftM]
      rcases he : entryIn ((fs.eraseBelow place).folder? inside) name with
        e | _ | (_ | ⟨item, items⟩) | content | target
      · trivial
      · exact rfl
      · exact emptied.cleared hf plain parts hh he
      · exact rfl
      · exact rfl
      · exact rfl
    simp only [FileAction.leaves_bind, FileAction.leaves_set, FileAction.leaves_tryCatch]
    refine last.mono (fun _ _ => .inr) ?_
    rintro e _ rfl
    split
    · exact .inl emptied
    · exact emptied
  · exact untouched
  · obtain dir | ⟨-, q, name, rfl, directory, shape⟩ := walkOn_arrived (resolve_eq (find_eq hf))
    · cases dir
    · exact .inr ⟨workingDirectory_erase, _, _, hf, by simp, shape, layout_erase directory⟩

end FileSystem

end ShardCluster
