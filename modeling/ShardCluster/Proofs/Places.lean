import Mathlib.Data.List.Infix
import ShardCluster.Files.Operations

/-!
# What is where in a file system

The layout of a file system tells what is at each place, without what is in it. The three ways to
change a file system are one change of its layout: at a place and everything below it
(`layout_insert`, `layout_erase`, `layout_eraseBelow`).
-/

namespace ShardCluster

/-- an entry by itself, without what is in it -/
inductive Shape where
  | directory
  | file (content : Bytes)
  | link (target : Path)
  deriving DecidableEq

namespace Entry

def shape : Entry → Shape
  | directory _ => .directory
  | file content => .file content
  | link target => .link target

/-- whether nothing is in an entry -/
def isBare : Entry → Prop
  | directory contents => contents = []
  | _ => True

/-- an empty directory or a link -/
def isVacant : Entry → Prop
  | directory contents => contents = []
  | file _ => False
  | link _ => True

end Entry

/-- what is at each place -/
abbrev Layout : Type := Place → Option Shape

/-- Something at a place, or nothing, and nothing below it. -/
def Layout.set (m : Layout) (root : Place) (s : Option Shape) : Layout := fun p =>
  if p = root then s else if root <+: p then none else m p

section Set

variable {m : Layout} {root p : Place} {s : Option Shape}

@[simp] lemma Layout.set_self : m.set root s root = s := if_pos rfl

lemma Layout.set_below (h : root <+: p) (ne : p ≠ root) : m.set root s p = none := by
  unfold set
  rw [if_neg ne, if_pos h]

lemma Layout.set_set {s' : Option Shape} : (m.set root s).set root s' = m.set root s' := by
  funext p
  unfold set
  split
  · rfl
  · split <;> rfl

lemma Layout.set_elsewhere (h : ¬ root <+: p) : m.set root s p = m p := by
  have ne : p ≠ root := by
    rintro rfl
    exact h (List.prefix_refl p)
  unfold set
  rw [if_neg ne, if_neg h]

lemma Layout.set_none_or (p : Place) : m.set root none p = m p ∨ m.set root none p = none := by
  by_cases below : root <+: p
  · by_cases same : p = root
    · exact .inr (by rw [same, Layout.set_self])
    · exact .inr (Layout.set_below below same)
  · exact .inl (Layout.set_elsewhere below)

end Set

/-! ### Folders -/

namespace Folder

variable {f : Folder → Folder} {folder inner : Folder} {p q : Place} {name : Bytes} {entry : Entry}

/-- what is at a place below a directory, without what is in it -/
def layout (folder : Folder) : Layout := fun p => (folder.entryAt p).map Entry.shape

@[simp] lemma layout_nil : folder.layout [] = some .directory := rfl

lemma entryAt_append : folder.entryAt (p ++ q) =
    match folder.entryAt p with
    | some (.directory inner) => entryAt inner q
    | some entry => if q.isEmpty then some entry else none
    | none => none := by
  induction p generalizing folder with
  | nil => rfl
  | cons name rest ih =>
    rw [List.cons_append, entryAt, entryAt]
    rcases folder.lookup name with _ | (inner | content | target)
    · rfl
    · exact ih
    all_goals
      cases rest with
      | nil => rfl
      | cons => rfl

lemma layout_cons {below : Place} : folder.layout (name :: below) =
    match folder.lookup name with
    | some (.directory inner) => layout inner below
    | some entry => if below.isEmpty then some entry.shape else none
    | none => none := by
  unfold layout
  rw [entryAt]
  rcases folder.lookup name with _ | (inner | content | target)
  · rfl
  · rfl
  all_goals cases below <;> rfl

lemma lookup_alter_cons {rest : Place} {n : Bytes} :
    (alter f folder (name :: rest)).lookup n =
      (folder.lookup n).map fun
        | .directory inner => .directory (if n = name then alter f inner rest else inner)
        | entry => entry := by
  induction folder with
  | nil => rfl
  | cons item items ih =>
    obtain ⟨m, entry⟩ := item
    simp only [alter, List.map_cons] at ih ⊢
    by_cases h : n = m
    · subst h
      cases entry <;> simp
    · have hb : (n == m) = false := beq_false_of_ne h
      cases entry <;> simp [List.lookup_cons, hb, ih]

theorem layout_alter (h : folder.entryAt q = some (.directory inner)) :
    (alter f folder q).layout p =
      if q <+: p ∧ p ≠ q then (f inner).layout (p.drop q.length) else folder.layout p := by
  induction q generalizing folder p with
  | nil =>
    obtain rfl : folder = inner := Entry.directory.inj (Option.some.inj h)
    cases p with
    | nil => rfl
    | cons => simp [alter]
  | cons name rest ih =>
    have ⟨outer, found, further⟩ : ∃ outer, folder.lookup name = some (.directory outer) ∧
        entryAt outer rest = some (.directory inner) := by
      rw [entryAt] at h
      rcases hn : folder.lookup name with _ | (outer | _ | _) <;> rw [hn] at h
      · cases h
      · exact ⟨outer, rfl, h⟩
      all_goals
        simp only at h
        split at h <;> cases h
    cases p with
    | nil => simp
    | cons n below =>
      rw [layout_cons, lookup_alter_cons, layout_cons]
      by_cases same : n = name
      · subst same
        simpa [found, List.cons_prefix_cons] using ih further
      · have apart : ¬ (name :: rest <+: n :: below) := by
          rw [List.cons_prefix_cons]
          exact fun h => same h.1.symm
        rw [if_neg fun h => apart h.1]
        rcases folder.lookup n with _ | (other | _ | _) <;> simp [same]

lemma layout_alter_of_missing (h : folder.layout q ≠ some .directory) :
    (alter f folder q).layout = folder.layout := by
  induction q generalizing folder with
  | nil => exact absurd rfl h
  | cons name rest ih =>
    funext p
    cases p with
    | nil => rfl
    | cons n below =>
      rw [layout_cons, lookup_alter_cons, layout_cons]
      rcases hn : folder.lookup n with _ | (inner | _ | _) <;> simp only [Option.map_none,
        Option.map_some]
      by_cases same : n = name
      · subst same
        rw [layout_cons, hn] at h
        rw [if_pos rfl, ih h]
      · rw [if_neg same]

lemma lookup_erase {n : Bytes} :
    (folder.erase name).lookup n = if n = name then none else folder.lookup n := by
  induction folder with
  | nil => simp [erase]
  | cons item items ih =>
    obtain ⟨m, entry⟩ := item
    unfold erase at ih ⊢
    by_cases gone : m = name
    · subst gone
      simp only [List.filter_cons, bne_self_eq_false, Bool.false_eq_true, if_false, ih]
      by_cases h : n = m
      · simp [h]
      · simp [h, List.lookup_cons, beq_false_of_ne h]
    · simp only [List.filter_cons, bne_iff_ne.2 gone, if_true]
      by_cases h : n = m
      · subst h
        simp [gone]
      · simp [List.lookup_cons, beq_false_of_ne h, ih]

lemma layout_erase : (folder.erase name).layout = folder.layout.set [name] none := by
  funext p
  cases p with
  | nil => simp [Layout.set]
  | cons n below =>
    rw [layout_cons, lookup_erase]
    by_cases h : n = name
    · subst h
      simp [Layout.set, List.cons_prefix_cons]
    · have apart : ¬ ([name] <+: n :: below) := by
        rw [List.cons_prefix_cons]
        exact fun hp => h hp.1.symm
      rw [Layout.set_elsewhere apart, if_neg h, layout_cons]

lemma layout_empty (h : p ≠ []) : layout [] p = none := by
  cases p with
  | nil => exact absurd rfl h
  | cons => rfl

lemma layout_insert (bare : entry.isBare) :
    (folder.insert name entry).layout = folder.layout.set [name] (some entry.shape) := by
  funext p
  cases p with
  | nil => simp [Layout.set]
  | cons n below =>
    by_cases h : n = name
    · subst h
      have found : (folder.insert n entry).lookup n = some entry := by simp [insert]
      rw [layout_cons, found]
      cases below with
      | nil => cases entry <;> simp [Entry.shape]
      | cons m rest =>
        rw [Layout.set_below (by simp [List.cons_prefix_cons]) (by simp)]
        cases entry with
        | directory inner =>
          obtain rfl : inner = [] := bare
          rfl
        | file | link => rfl
    · have apart : ¬ ([name] <+: n :: below) := by
        rw [List.cons_prefix_cons]
        exact fun hp => h hp.1.symm
      have other : (folder.insert name entry).lookup n = folder.lookup n := by
        simp [insert, List.lookup_cons, beq_false_of_ne h, lookup_erase, h]
      rw [Layout.set_elsewhere apart, layout_cons, layout_cons, other]

end Folder

/-! ### File systems -/

namespace FileSystem

variable {fs : FileSystem} {p q d : Place} {name : Bytes} {entry : Entry}

/-- **The layout of a file system**: what is at each place. -/
def layout (fs : FileSystem) : Layout := Folder.layout fs.root

@[simp] lemma layout_root : fs.layout [] = some .directory := rfl

lemma layout_eq : fs.layout p = (fs.lookup p).map Entry.shape := rfl

lemma layout_of_lookup (h : fs.lookup p = some entry) : fs.layout p = some entry.shape := by
  rw [layout_eq, h]
  rfl

lemma layout_eq_directory :
    fs.layout p = some .directory ↔ ∃ inner, fs.lookup p = some (.directory inner) := by
  rw [layout_eq]
  rcases fs.lookup p with _ | (inner | content | target) <;> simp [Entry.shape]

lemma lookup_append : fs.lookup (p ++ [name]) = (fs.folder? p).bind (·.lookup name) := by
  unfold lookup folder? lookup
  rw [Folder.entryAt_append]
  rcases Folder.entryAt fs.root p with _ | (inner | content | target)
  · rfl
  · show Folder.entryAt inner [name] = inner.lookup name
    rw [Folder.entryAt]
    rcases inner.lookup name with _ | (_ | _ | _) <;> rfl
  · rfl
  · rfl

lemma layout_append : fs.layout (p ++ [name]) =
    ((fs.folder? p).bind (·.lookup name)).map Entry.shape := by
  rw [layout_eq, lookup_append]

lemma directory_of_layout_append (h : fs.layout (p ++ q) ≠ none) (ne : q ≠ []) :
    fs.layout p = some .directory := by
  simp only [layout_eq, lookup, Folder.entryAt_append] at h ⊢
  rcases hp : Folder.entryAt fs.root p with _ | (inner | content | target)
  · simp [hp] at h
  · rfl
  all_goals simp [hp, ne] at h

lemma layout_append_of_lookup {inner : Folder} (h : fs.lookup d = some (.directory inner)) :
    fs.layout (d ++ p) = Folder.layout inner p := by
  unfold lookup at h
  simp only [layout_eq, lookup, Folder.entryAt_append, h, Folder.layout]

lemma eq_nil_of_bare {inner : Folder} (h : fs.lookup d = some (.directory inner))
    (bare : ∀ p, d <+: p → p ≠ d → fs.layout p = none) : inner = [] := by
  rcases inner with _ | ⟨⟨name, entry⟩, items⟩
  · rfl
  have := bare (d ++ [name]) (List.prefix_append _ _) (by simp)
  rw [layout_append_of_lookup h, Folder.layout_cons, List.lookup_cons_self] at this
  rcases entry with _ | _ | _ <;> cases this

lemma layout_alter_append (f : Folder → Folder) (s : Option Shape)
    (hd : fs.layout d = some .directory)
    (hf : ∀ inner, (f inner).layout = Layout.set (Folder.layout inner) [name] s) :
    (fs.alter d f).layout = fs.layout.set (d ++ [name]) s := by
  obtain ⟨inner, he⟩ := layout_eq_directory.1 hd
  funext p
  show (Folder.alter f fs.root d).layout p = _
  rw [Folder.layout_alter he, hf inner]
  by_cases below : d <+: p ∧ p ≠ d
  · obtain ⟨⟨r, rfl⟩, ne⟩ := below
    have hr : r ≠ [] := by
      rintro rfl
      simp at ne
    have inside : fs.layout (d ++ r) = Folder.layout inner r := layout_append_of_lookup he
    rw [if_pos ⟨List.prefix_append d r, ne⟩, List.drop_left]
    unfold Layout.set
    rw [inside]
    simp only [List.append_cancel_left_eq, List.prefix_append_right_inj]
  · rw [if_neg below, Layout.set_elsewhere]
    · rfl
    · rintro ⟨r, rfl⟩
      exact below ⟨⟨name :: r, by simp⟩, by simp⟩

theorem layout_insert (hd : fs.layout d = some .directory) (bare : entry.isBare) :
    (fs.insert (d ++ [name]) entry).layout = fs.layout.set (d ++ [name]) (some entry.shape) := by
  unfold insert
  rw [List.getLast?_concat, List.dropLast_concat]
  exact layout_alter_append _ _ hd fun _ => Folder.layout_insert bare

theorem layout_erase (hd : fs.layout d = some .directory) :
    (fs.erase (d ++ [name])).layout = fs.layout.set (d ++ [name]) none := by
  unfold erase
  rw [List.getLast?_concat, List.dropLast_concat]
  exact layout_alter_append _ _ hd fun _ => Folder.layout_erase

theorem layout_eraseBelow (hd : fs.layout d = some .directory) :
    (fs.eraseBelow d).layout = fs.layout.set d (some .directory) := by
  funext p
  show (Folder.alter (fun _ => []) fs.root d).layout p = _
  obtain ⟨inner, he⟩ := layout_eq_directory.1 hd
  rw [Folder.layout_alter he]
  by_cases below : d <+: p
  · obtain ⟨r, rfl⟩ := below
    by_cases hr : r = []
    · rw [hr, List.append_nil, Layout.set_self, if_neg fun h => h.2 rfl]
      exact hd
    · have ne : d ++ r ≠ d := by simpa using hr
      rw [Layout.set_below (List.prefix_append d r) ne]
      simp only [List.prefix_append, ne, ne_eq, not_false_eq_true, and_self, if_true,
        List.drop_left]
      exact Folder.layout_empty hr
  · rw [Layout.set_elsewhere below, if_neg fun h => below h.1]
    rfl

lemma layout_eraseBelow_of_missing (h : fs.layout d ≠ some .directory) :
    (fs.eraseBelow d).layout = fs.layout :=
  Folder.layout_alter_of_missing h

@[simp] lemma workingDirectory_insert : (fs.insert p entry).workingDirectory =
    fs.workingDirectory := by
  unfold insert
  split <;> rfl

@[simp] lemma workingDirectory_erase : (fs.erase p).workingDirectory = fs.workingDirectory := by
  unfold erase
  split <;> rfl

@[simp] lemma workingDirectory_eraseBelow :
    (fs.eraseBelow p).workingDirectory = fs.workingDirectory := rfl

end FileSystem

end ShardCluster
