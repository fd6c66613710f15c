import ShardCluster.Proofs.FileHosts

/-!
# What is in files

Where nothing but a file changes, a walk that got to the place of the file gets there again
(`PutFile.walkOn`). So what is put where a path leads is what the path leads to, through whatever
links and whether a file was there before or not (`contentOf_insert`), and a file that is added to
ends with what was added (`contentOf_appendAt`). So it is for a storage that adds to a file which
others leave alone (`ensures_extended`), and where nothing can be added, nothing is done.
-/

namespace ShardCluster

open ShardCluster.Task (Ensures)

/-- an entry without the content of a file -/
def Shape.outline : Shape → Shape
  | file _ => .file []
  | s => s

namespace FileSystem

variable {fs fs' : FileSystem} {path : Path} {last : LastLink} {n : Nat} {p place : Place}
  {names : List Bytes} {content old : Bytes}

/-- A file is put where there was a file or nothing, and nothing else changes but in content. -/
structure PutFile (place : Place) (content : Bytes) (fs fs' : FileSystem) : Prop where
  there : fs'.layout place = some (.file content)
  before : (fs.layout place).map Shape.outline = none ∨
    (fs.layout place).map Shape.outline = some (.file [])
  alike : ∀ p, p ≠ place → (fs'.layout p).map Shape.outline = (fs.layout p).map Shape.outline

lemma PutFile.kept (put : PutFile place content fs fs') {s : Shape} (h : fs.layout p = some s)
    (other : ∀ old, s ≠ .file old) : fs'.layout p = some s := by
  have elsewhere : p ≠ place := by
    rintro rfl
    have before := put.before
    rw [h] at before
    cases s <;> simp [Shape.outline] at before other
  have outline := put.alike p elsewhere
  rw [h] at outline
  cases s with
  | file old => exact absurd rfl (other old)
  | _ => rcases hp : fs'.layout p with _ | (_ | _ | _) <;> rw [hp] at outline <;>
      simp_all [Shape.outline]

lemma PutFile.walk (put : PutFile place content fs fs') {s : Option Shape}
    (h : fs.layout.Walk last n p names place s) (file : s ≠ some .directory) :
    fs'.layout.Walk .followed n p names place (some (.file content)) := by
  induction h with
  | stay => exact absurd rfl file
  | here _ ih => exact .here (ih put file)
  | up _ ih => exact .up (ih put file)
  | enter plain short found _ ih =>
    exact .enter plain short (put.kept found nofun) (ih put file)
  | follow plain short found _ _ ih =>
    exact .follow plain short (put.kept found nofun) (fun _ => ⟨nofun, nofun⟩) (ih put file)
  | arrive plain short directory =>
    exact .arrive plain short (put.kept directory nofun) put.there trivial

/-- **A walk to where a file is put** gets to the file. -/
theorem PutFile.walkOn (put : PutFile place content fs fs') {found : Option Entry}
    (file : found.map Entry.shape ≠ some .directory)
    (h : fs.walkOn last n (fs.trailTo p) names = .ok (place, found)) :
    fs'.walkOn .followed n (fs'.trailTo p) names = .ok (place, some (.file content)) := by
  obtain ⟨entry, arrived, shape⟩ := walkOn_of_walk (put.walk (walk_of_walkOn h).1 file)
  rcases entry with _ | (_ | _ | _) <;> simp [Entry.shape] at shape
  rw [arrived, shape]

lemma putFile_insert {d : Place} {name : Bytes} (directory : fs.layout d = some .directory)
    (before : (fs.layout (d ++ [name])).map Shape.outline = none ∨
      (fs.layout (d ++ [name])).map Shape.outline = some (.file [])) :
    PutFile (d ++ [name]) content fs (fs.insert (d ++ [name]) (.file content)) := by
  have layout : (fs.insert (d ++ [name]) (.file content)).layout =
      fs.layout.set (d ++ [name]) (some (.file content)) := layout_insert directory trivial
  refine ⟨by rw [layout, Layout.set_self], before, fun p elsewhere => ?_⟩
  rw [layout]
  by_cases below : d ++ [name] <+: p
  · -- there is nothing below a file, nor below nothing
    obtain ⟨q, rfl⟩ := below
    have ne : q ≠ [] := by
      rintro rfl
      simp at elsewhere
    have nothing : fs.layout (d ++ [name] ++ q) = none := by
      by_contra some_
      rw [directory_of_layout_append some_ ne] at before
      simp [Shape.outline] at before
    rw [Layout.set_below (List.prefix_append _ _) elsewhere, nothing]
  · rw [Layout.set_elsewhere below]

lemma contentOf_insert {found : Option Entry}
    (resolved : fs.resolve path last = .ok (place, found))
    (file : found = none ∨ ∃ old, found = some (.file old)) :
    (fs.insert place (.file content)).contentOf path = .ok content := by
  obtain rfl | ⟨other, d, name, rfl, directory, shape⟩ := walkOn_arrived (resolve_eq resolved)
  · obtain none | ⟨old, file⟩ := file
    · cases none
    · cases file
  have before : (fs.layout (d ++ [name])).map Shape.outline = none ∨
      (fs.layout (d ++ [name])).map Shape.outline = some (.file []) := by
    rw [shape]
    obtain rfl | ⟨old, rfl⟩ := file
    · exact .inl rfl
    · exact .inr rfl
  have put : PutFile (d ++ [name]) content fs _ := putFile_insert directory before
  have walk := put.walkOn other (resolve_eq resolved)
  unfold contentOf find resolve
  rw [admissible_of_resolve resolved, start_eq, origin_congr workingDirectory_insert]
  simp only [bind, Except.bind, walk]

lemma contentOf_of_unopened {e : IoError} (h : ((openForAppending path).run fs).1 = .error e) :
    ∀ old, fs.contentOf path ≠ .ok old := by
  intro old found
  have spec : FileAction.Leaves (fun _ _ => True) (fun _ _ => ∀ old, fs.contentOf path ≠ .ok old)
      (openForAppending path) fs := by
    unfold openForAppending contentOf
    simp only [FileAction.leaves_bind, FileAction.leaves_get, FileAction.leaves_liftM]
    rcases fs.find path .followed with e | ⟨place, _ | content | _⟩
    · rintro _ ⟨⟩
    · rintro _ ⟨⟩
    · trivial
    · rintro _ ⟨⟩
  unfold FileAction.Leaves at spec
  rw [h] at spec
  exact spec old found

lemma find_of_opened (h : ((openForAppending path).run fs).1 = .ok place) :
    ∃ old, fs.find path .followed = .ok (place, .file old) := by
  have spec : FileAction.Leaves
      (fun place _ => ∃ old, fs.find path .followed = .ok (place, .file old)) (fun _ _ => True)
      (openForAppending path) fs := by
    unfold openForAppending
    simp only [FileAction.leaves_bind, FileAction.leaves_get, FileAction.leaves_liftM]
    rcases fs.find path .followed with e | ⟨place, _ | content | _⟩
    · trivial
    · trivial
    · exact ⟨content, rfl⟩
    · trivial
  unfold FileAction.Leaves at spec
  rwa [h] at spec

lemma opened_files {r : Except IoError Place} (h : (openForAppending path).run fs = (r, fs')) :
    fs' = fs := by
  have same : ((openForAppending path).run fs).2 = fs := openForAppending_same
  rwa [h] at same

lemma place_of_find (h : fs.find path .followed = .ok (place, .file old)) :
    ∃ d name, place = d ++ [name] ∧ fs.layout d = some .directory ∧
      fs.layout place = some (.file old) := by
  rcases walkOn_arrived (resolve_eq (find_eq h)) with same | ⟨-, d, name, parts, directory, shape⟩
  · cases same
  · exact ⟨d, name, parts, directory, shape⟩

/-- **What is added to a file is at its end.** -/
theorem contentOf_appendAt (h : fs.find path .followed = .ok (place, .file old)) :
    (appendAt place content fs).contentOf path = .ok (old ++ content) := by
  obtain ⟨d, name, rfl, directory, shape⟩ := place_of_find h
  have there : fs.lookup (d ++ [name]) = some (.file old) := by
    rw [layout_eq] at shape
    rcases found : fs.lookup (d ++ [name]) with _ | (_ | _ | _) <;> rw [found] at shape <;>
      simp [Entry.shape] at shape
    rw [shape]
  have added : appendAt (d ++ [name]) content fs =
      fs.insert (d ++ [name]) (.file (old ++ content)) := by
    unfold appendAt
    rw [there]
  rw [added]
  exact contentOf_insert (find_eq h) (.inr ⟨old, rfl⟩)

end FileSystem

/-- **The file has been added to**: there is more in it, after all that was there. -/
def FileSystem.Extended (path : Path) (content : Bytes) (fs fs' : FileSystem) : Prop :=
  ∃ old, fs.contentOf path = .ok old ∧ fs'.contentOf path = .ok (old ++ content)

lemma FileSystem.contentOf_congr {fs fs' : FileSystem} {path : Path}
    (same : fs'.find path .followed = fs.find path .followed) :
    fs'.contentOf path = fs.contentOf path := by
  unfold contentOf
  rw [same]

/-! ### Storage -/

section Storage

variable {W : Type} {env : W → W → Prop} {part : Part W FileSystem} {path : Path} {content : Bytes}
  {w : W}

/-- **A file that is added to** ends with what was added, unless others touch it; nothing is added
only where there is no such file. -/
theorem ensures_extended (get_put : ∀ fs w, part.get (part.put fs w) = fs)
    (others : ∀ w w', env w w' →
      (part.get w').find path .followed = (part.get w).find path .followed) :
    Ensures env
      (fun w' => (part.get w').contentOf path = (part.get w).contentOf path ∨
        FileSystem.Extended path content (part.get w) (part.get w'))
      (fun r w' => if r.isOk then FileSystem.Extended path content (part.get w) (part.get w')
        else ∀ old, (part.get w).contentOf path ≠ .ok old)
      (Storage.appendTo part path content) w := by
  have kept (w₁ w₂ : W) (he : env w₁ w₂) := FileSystem.contentOf_congr (others w₁ w₂ he)
  unfold Storage.appendTo Storage.perform
  simp only [Task.ensures_bind, Task.ensures_atomic, Task.ensures_yield, Task.ensures_pure]
  rcases opened : (FileSystem.openForAppending path).run (part.get w) with ⟨r, fs⟩
  obtain rfl : fs = part.get w := FileSystem.opened_files opened
  simp only [get_put]
  refine ⟨.inl trivial, fun w₁ he => ?_⟩
  have same : (part.get w₁).find path .followed = (part.get w).find path .followed := by
    rw [others _ _ he, get_put]
  rcases r with e | place
  · exact Task.ensures_pure.2 (FileSystem.contentOf_of_unopened (congrArg Prod.fst opened))
  obtain ⟨old, found⟩ := FileSystem.find_of_opened (congrArg Prod.fst opened)
  have before : (part.get w).contentOf path = .ok old := by
    unfold FileSystem.contentOf
    rw [found]
    rfl
  simp only [Task.ensures_bind, Task.ensures_update, Task.ensures_yield, Task.ensures_pure, get_put]
  have added : (FileSystem.appendAt place content (part.get w₁)).contentOf path =
      .ok (old ++ content) := FileSystem.contentOf_appendAt (same.trans found)
  refine ⟨.inr ⟨old, before, added⟩, fun w₂ he' => ⟨old, before, ?_⟩⟩
  rw [kept _ _ he', get_put]
  exact added

/-- A file that has been added to ends with what was added, unless others touch it. -/
theorem ensures_appendTo (get_put : ∀ fs w, part.get (part.put fs w) = fs)
    (others : ∀ w w', env w w' →
      (part.get w').find path .followed = (part.get w).find path .followed) :
    Ensures env (fun _ => True)
      (fun r w' => r.isOk → ∃ old, (part.get w').contentOf path = .ok (old ++ content))
      (Storage.appendTo part path content) w := by
  refine (ensures_extended get_put others).mono (fun _ _ => trivial) fun r w' left added => ?_
  rw [if_pos added] at left
  obtain ⟨old, -, now⟩ := left
  exact ⟨old, now⟩

lemma ensures_appendTo_failed (put_get : ∀ w, part.put (part.get w) w = w) :
    Ensures env (fun _ => True) (fun r w' => r.isOk ∨ env w w')
      (Storage.appendTo part path content) w := by
  unfold Storage.appendTo Storage.perform
  simp only [Task.ensures_bind, Task.ensures_atomic, Task.ensures_yield, Task.ensures_pure,
    true_and]
  rcases opened : (FileSystem.openForAppending path).run (part.get w) with ⟨r, fs⟩
  obtain rfl : fs = part.get w := FileSystem.opened_files opened
  simp only [put_get]
  intro w₁ he
  rcases r with e | place
  · exact Task.ensures_pure.2 (.inr he)
  · simp [Task.ensures_bind, Except.isOk, Except.toBool]

end Storage

end ShardCluster
