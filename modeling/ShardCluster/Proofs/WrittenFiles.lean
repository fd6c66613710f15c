import ShardCluster.Proofs.Contents

/-!
# What is written to a file

A path that a file has been written by leads to that file (`contentOf_writeFile`), and a storage
that writes to a file which others leave alone has written it (`ensures_writeFile`).
-/

namespace ShardCluster

namespace FileSystem

open FileAction (Leaves)

variable {fs : FileSystem} {path : Path} {content : Bytes}

/-- **What has been written to a file** is what its path leads to. -/
theorem contentOf_writeFile : Leaves (fun _ fs' => fs'.contentOf path = .ok content)
    (fun _ _ => True) (writeFile path content) fs := by
  unfold writeFile openForWriting
  simp only [FileAction.leaves_bind, FileAction.leaves_get, FileAction.leaves_liftM]
  rcases fs.holder path with e | inside
  · trivial
  rcases lastName path with _ | _ | _ | name
  · trivial
  · trivial
  · trivial
  simp only [FileAction.leaves_ite]
  split
  · trivial
  simp only [FileAction.leaves_bind, FileAction.leaves_liftM]
  rcases resolved : fs.resolve path .written with e | ⟨place, found⟩
  · trivial
  rcases found with _ | (_ | old | _)
  · exact contentOf_insert resolved (.inl rfl)
  · trivial
  · exact contentOf_insert resolved (.inr ⟨old, rfl⟩)
  · trivial

end FileSystem

/-! ### Storage -/

section Storage

variable {W : Type} {env : W → W → Prop} {part : Part W FileSystem} {path : Path} {content : Bytes}
  {w : W}

/-- A file that has been written holds what was written, unless others touch it. -/
theorem ensures_writeFile (get_put : ∀ fs w, part.get (part.put fs w) = fs)
    (others : ∀ w w', env w w' →
      (part.get w').find path .followed = (part.get w).find path .followed) :
    Task.Ensures env (fun _ => True)
      (fun r w' => r.isOk → (part.get w').contentOf path = .ok content)
      (Storage.perform part (FileSystem.writeFile path content)) w := by
  have written : FileAction.Leaves (fun _ fs' => fs'.contentOf path = .ok content)
      (fun _ _ => True) (FileSystem.writeFile path content) (part.get w) :=
    FileSystem.contentOf_writeFile
  unfold FileAction.Leaves at written
  unfold Storage.perform
  simp only [Task.ensures_bind, Task.ensures_atomic, Task.ensures_yield, Task.ensures_pure,
    true_and]
  rcases ran : (FileSystem.writeFile path content).run (part.get w) with ⟨_ | _, fs⟩
  · exact fun _ _ failed => by cases failed
  · rw [ran] at written
    intro w' he _
    rw [FileSystem.contentOf_congr (others _ _ he), get_put]
    exact written

end Storage

end ShardCluster
