import ShardCluster.Proofs.Children
import ShardCluster.Proofs.Guarantees
import ShardCluster.Proofs.TimedTasks

/-!
# Fresh nodes

Setting up a node where there is room for it, on a simulated engine without faults: the directory of
the node is created and populated, nothing else changes in the files (`FileSystem.Furnished`), and a
server runs on its port (`prepare_succeeds`). A statement then reaches the server and succeeds
(`runSql_succeeds`).
-/

namespace ShardCluster

open ShardCluster.Task (Ensures Assures Beside)
open FileAction (Leaves)

/-! ### Subtrees -/

lemma Layout.set_above {m : Layout} {s : Option Shape} {q : Place} {below : Bytes} :
    m.set (q ++ [below]) s q = m q :=
  Layout.set_elsewhere fun h => absurd h.length_le (by simp)

namespace Layout

/-- **A subtree in its place**: what the subtree shows is there, and nothing else is below. -/
def graft (m : Layout) (home : Place) (t : Layout) : Layout := fun p =>
  if home <+: p then t (p.drop home.length) else m p

/-- an entry with nothing in it, as a subtree -/
def single (shape : Shape) : Layout := set (fun _ => none) [] (some shape)

section Graft

variable {m t t' : Layout} {home home' p : Place}

@[simp] lemma graft_append : m.graft home t (home ++ p) = t p := by
  unfold graft
  rw [if_pos (List.prefix_append _ _), List.drop_left]

@[simp] lemma graft_self : m.graft home t home = t [] := by
  unfold graft
  rw [if_pos (List.prefix_refl _), List.drop_length]

lemma graft_elsewhere (outside : ¬ home <+: p) : m.graft home t p = m p := if_neg outside

lemma set_eq_graft {shape : Shape} : m.set home (some shape) = m.graft home (single shape) := by
  funext p
  by_cases below : home <+: p
  · obtain ⟨more, rfl⟩ := below
    rw [graft_append]
    by_cases here : more = []
    · rw [here, List.append_nil, set_self, single, set_self]
    · rw [set_below (List.prefix_append _ _) (by simpa using here), single,
        set_below (List.nil_prefix) here]
  · rw [graft_elsewhere below, set_elsewhere below]

lemma graft_set {s : Option Shape} :
    (m.graft home t).set (home ++ p) s = m.graft home (t.set p s) := by
  funext q
  by_cases below : home <+: q
  · obtain ⟨more, rfl⟩ := below
    rw [graft_append]
    unfold set
    simp only [List.append_cancel_left_eq, List.prefix_append_right_inj, graft_append]
  · have outside : ¬ home ++ p <+: q := fun h => below ((List.prefix_append _ _).trans h)
    rw [graft_elsewhere below, set_elsewhere outside, graft_elsewhere below]

theorem graft_comm (apart : ¬ home <+: home') (apart' : ¬ home' <+: home) :
    (m.graft home t).graft home' t' = (m.graft home' t').graft home t := by
  funext p
  by_cases below : home <+: p
  · have outside : ¬ home' <+: p := fun below' =>
      (List.prefix_or_prefix_of_prefix below below').elim apart apart'
    rw [graft_elsewhere outside]
    simp only [graft, if_pos below]
  · rw [graft_elsewhere below]
    by_cases below' : home' <+: p
    · simp only [graft, if_pos below']
    · rw [graft_elsewhere below', graft_elsewhere below', graft_elsewhere below]

end Graft

end Layout

namespace FileSystem

/-- **A subtree is put in a place**, and nothing changes elsewhere. -/
structure Grafted (fs : FileSystem) (home : Place) (t : Layout) (fs' : FileSystem) : Prop where
  workingDirectory : fs'.workingDirectory = fs.workingDirectory
  layout : fs'.layout = fs.layout.graft home t

section Grafted

variable {fs fs' : FileSystem} {home q : Place} {t : Layout}

lemma Grafted.only (h : fs.Grafted home t fs') : OnlyAt home fs fs' := by
  refine ⟨h.workingDirectory, fun p outside => ?_⟩
  rw [h.layout, Layout.graft_elsewhere outside]

lemma Grafted.root (h : fs.Grafted home t fs') : fs'.layout home = t [] := by
  rw [h.layout, Layout.graft_self]

lemma Grafted.at (h : fs.Grafted home t fs') (p : Place) : fs'.layout (home ++ p) = t p := by
  rw [h.layout, Layout.graft_append]

lemma grafted_insert (name : Bytes) (directory : fs.layout q = some .directory) (entry : Entry)
    (bare : entry.isBare) :
    fs.Grafted (q ++ [name]) (.single entry.shape) (fs.insert (q ++ [name]) entry) :=
  ⟨workingDirectory_insert, by rw [layout_insert directory bare, Layout.set_eq_graft]⟩

lemma Grafted.insert (h : fs.Grafted home t fs') {p : Place} (name : Bytes)
    (directory : t p = some .directory) (entry : Entry) (bare : entry.isBare) :
    fs.Grafted home (t.set (p ++ [name]) (some entry.shape))
      (fs'.insert (home ++ p ++ [name]) entry) := by
  have there : fs'.layout (home ++ p) = some .directory := by
    rw [h.at, directory]
  refine ⟨workingDirectory_insert.trans h.workingDirectory, ?_⟩
  rw [layout_insert there bare, h.layout, List.append_assoc, Layout.graft_set]

end Grafted

end FileSystem

/-! ### The directory of a node -/

namespace FileSystem

open ShardCluster.Path (IsName)

/-- **Room for a node** of that name in the directory a path leads to: nothing is at the name, and
the paths of its files are no longer than paths may be. -/
structure Room (fs : FileSystem) (base : Path) (q : Place) (name : String) : Prop where
  child : fs.Child base name q
  vacant : fs.layout (q ++ [Utf8.encode name]) = none
  deep : admissible (((base.child name).child "data").child "postgresql.conf") = .ok ()

/-- where the data of a node is that has its directory at a place -/
def dataPlace (home : Place) : Place := home ++ [Utf8.encode "data"]

end FileSystem

/-! What a node has in its directory. -/

namespace Layout

open FileSystem (dataPlace)

/-- the directory of a node with one for its logs -/
def ofLogs : Layout := (single .directory).set [Utf8.encode "logs"] (some .directory)

/-- **The directory of a node**, with one for its logs, and one for its data with these files. -/
def ofNode : List (String × Bytes) → Layout
  | [] => ofLogs.set (dataPlace []) (some .directory)
  | (file, content) :: files =>
    (ofNode files).set (dataPlace [] ++ [Utf8.encode file]) (some (.file content))

variable {files : List (String × Bytes)} {file : String} {content : Bytes}

lemma ofLogs_top : ofLogs [] = some .directory := by
  rw [ofLogs, set_elsewhere (by simp), single, set_self]

lemma ofLogs_data : ofLogs (dataPlace []) = none := by
  have apart : ¬ [Utf8.encode "logs"] <+: dataPlace [] := by decide +kernel
  rw [ofLogs, set_elsewhere apart, single, set_below List.nil_prefix (by simp [dataPlace])]

lemma ofNode_top : ofNode files [] = some .directory := by
  induction files with
  | nil =>
    rw [ofNode, ofLogs, set_elsewhere (by simp [dataPlace]), set_elsewhere (by simp), single,
      set_self]
  | cons f files ih =>
    rw [ofNode, set_elsewhere (by simp [dataPlace]), ih]

lemma ofNode_data : ofNode files (dataPlace []) = some .directory := by
  induction files with
  | nil => rw [ofNode, set_self]
  | cons f files ih => rw [ofNode, set_above, ih]

lemma ofNode_cons_of_ne {other : String} (ne : other ≠ file) :
    ofNode ((file, content) :: files) (dataPlace [] ++ [Utf8.encode other]) =
      ofNode files (dataPlace [] ++ [Utf8.encode other]) := by
  rw [ofNode]
  refine set_elsewhere fun below => ne ?_
  have same : Utf8.encode file = Utf8.encode other := by simpa using below
  exact (Utf8.encode_injective same).symm

lemma ofNode_missing (unlisted : file ∉ files.map Prod.fst) :
    ofNode files (dataPlace [] ++ [Utf8.encode file]) = none := by
  induction files with
  | nil => rw [ofNode, set_below (List.prefix_append _ _) (by simp)]
  | cons f files ih =>
    rw [List.map_cons, List.mem_cons, not_or] at unlisted
    rw [ofNode_cons_of_ne unlisted.1, ih unlisted.2]

lemma ofNode_there (listed : file ∈ files.map Prod.fst) :
    ∃ content, ofNode files (dataPlace [] ++ [Utf8.encode file]) = some (.file content) := by
  induction files with
  | nil => cases listed
  | cons f files ih =>
    by_cases same : file = f.1
    · exact ⟨f.2, by rw [same, ofNode, set_self]⟩
    · rw [ofNode_cons_of_ne same]
      exact ih ((List.mem_cons.1 listed).resolve_left same)

end Layout

namespace FileSystem

open ShardCluster.Path (IsName)

/-- **The furnished directory of a node**: its directories are there, and just these files with its
data, and nothing has changed elsewhere. -/
abbrev Furnished (fs : FileSystem) (home : Place) (files : List (String × Bytes))
    (fs' : FileSystem) : Prop :=
  fs.Grafted home (.ofNode files) fs'

section Furnished

variable {fs fs' : FileSystem} {home : Place} {files : List (String × Bytes)} {file : String}
  {content : Bytes} {directory : Path}

lemma Furnished.top (h : fs.Furnished home files fs') : fs'.layout home = some .directory := by
  rw [h.root, Layout.ofNode_top]

lemma Furnished.data (h : fs.Furnished home files fs') :
    fs'.layout (dataPlace home) = some .directory :=
  (h.at _).trans Layout.ofNode_data

lemma Furnished.at_file (h : fs.Furnished home files fs') :
    fs'.layout (dataPlace home ++ [Utf8.encode file]) =
      Layout.ofNode files (dataPlace [] ++ [Utf8.encode file]) := by
  rw [dataPlace, List.append_assoc]
  exact h.at _

lemma Furnished.missing (h : fs.Furnished home files fs') (unlisted : file ∉ files.map Prod.fst) :
    fs'.layout (dataPlace home ++ [Utf8.encode file]) = none := by
  rw [h.at_file, Layout.ofNode_missing unlisted]

lemma Furnished.there (h : fs.Furnished home files fs') (listed : file ∈ files.map Prod.fst) :
    ∃ content, fs'.layout (dataPlace home ++ [Utf8.encode file]) = some (.file content) := by
  rw [h.at_file]
  exact Layout.ofNode_there listed

lemma Furnished.insert (h : fs.Furnished home files fs') :
    fs.Furnished home ((file, content) :: files)
      (fs'.insert (dataPlace home ++ [Utf8.encode file]) (.file content)) :=
  Grafted.insert h (Utf8.encode file) Layout.ofNode_data (.file content) trivial

lemma Furnished.writeFile (h : fs.Furnished home files fs')
    (child : fs'.Child directory file (dataPlace home)) (new : file ∉ files.map Prod.fst) :
    Leaves (fun _ => fs.Furnished home ((file, content) :: files)) (fun _ _ => False)
      (FileSystem.writeFile (directory.child file) content) fs' := by
  refine (child.writeFile (h.missing new)).mono ?_ fun _ _ => False.elim
  rintro - _ rfl
  exact h.insert

lemma Furnished.append {before : Bytes} (h : fs.Furnished home ((file, before) :: files) fs') :
    fs.Furnished home ((file, before ++ content) :: files)
      (appendAt (dataPlace home ++ [Utf8.encode file]) content fs') := by
  have there : fs'.lookup (dataPlace home ++ [Utf8.encode file]) = some (.file before) := by
    refine lookup_of_file ?_
    rw [h.at_file, Layout.ofNode, Layout.set_self]
  have more : fs.Furnished home ((file, before ++ content) :: (file, before) :: files)
      (fs'.insert (dataPlace home ++ [Utf8.encode file]) (.file (before ++ content))) := h.insert
  unfold appendAt
  rw [there]
  refine ⟨more.workingDirectory, ?_⟩
  rw [more.layout, Layout.ofNode, Layout.ofNode, Layout.set_set]
  rfl

end Furnished

section Room

variable {fs fs' : FileSystem} {base : Path} {q place : Place} {name : String}
  {files : List (String × Bytes)} (room : fs.Room base q name)
include room

lemma Room.ok_data : admissible ((base.child name).child "data") = .ok () :=
  admissible_of_child (by decide +kernel) (Path.child_ne_nil (by decide +kernel))
    (Path.IsName.isOpen_child (by decide +kernel)) room.deep

lemma Room.ok_logs : admissible ((base.child name).child "logs") = .ok () :=
  admissible_sibling (by decide +kernel) (by decide +kernel) (by decide +kernel) (by decide +kernel)
    (Path.child_ne_nil room.child.one) room.child.one.isOpen_child room.ok_data

lemma Room.ok_version :
    admissible (((base.child name).child "data").child "PG_VERSION") = .ok () :=
  admissible_sibling (by decide +kernel) (by decide +kernel) (by decide +kernel) (by decide +kernel)
    (Path.child_ne_nil (by decide +kernel)) (Path.IsName.isOpen_child (by decide +kernel)) room.deep

lemma Room.data (only : OnlyAt (q ++ [Utf8.encode name]) fs fs')
    (top : fs'.layout (q ++ [Utf8.encode name]) = some .directory) :
    fs'.Child (base.child name) "data" (q ++ [Utf8.encode name]) :=
  (room.child.onlyAt only room.vacant).child top (by decide +kernel) (by decide +kernel)
    room.ok_data

lemma Room.file {file : String} (h : fs.Furnished (q ++ [Utf8.encode name]) files fs')
    (one : IsName file) (short : (Utf8.encode file).length ≤ nameLimit)
    (ok : admissible (((base.child name).child "data").child file) = .ok ()) :
    fs'.Child ((base.child name).child "data") file (dataPlace (q ++ [Utf8.encode name])) :=
  (room.data h.only h.top).child h.data one short ok

lemma Room.version (h : fs.Furnished (q ++ [Utf8.encode name]) files fs') :
    fs'.Child ((base.child name).child "data") "PG_VERSION"
      (dataPlace (q ++ [Utf8.encode name])) :=
  room.file h (by decide +kernel) (by decide +kernel) room.ok_version

lemma Room.settings (h : fs.Furnished (q ++ [Utf8.encode name]) files fs') :
    fs'.Child ((base.child name).child "data") "postgresql.conf"
      (dataPlace (q ++ [Utf8.encode name])) :=
  room.file h (by decide +kernel) (by decide +kernel) room.deep

lemma Room.createLogs :
    Leaves (fun _ => fs.Grafted (q ++ [Utf8.encode name]) .ofLogs) (fun _ _ => False)
      (createDirectories ((base.child name).child "logs")) fs := by
  refine (room.child.createDirectories_within room.vacant (by decide +kernel) (by decide +kernel)
    room.ok_logs).mono ?_ fun _ _ => False.elim
  rintro - _ rfl
  have home := grafted_insert (Utf8.encode name) room.child.directory (.directory []) rfl
  have logs := home.insert (p := []) (Utf8.encode "logs") Layout.set_self (.directory []) rfl
  rw [List.append_nil] at logs
  exact logs

lemma Room.createData {fs₁ : FileSystem}
    (made : fs.Grafted (q ++ [Utf8.encode name]) .ofLogs fs₁) :
    Leaves (fun _ => fs.Furnished (q ++ [Utf8.encode name]) []) (fun _ _ => False)
      (createDirectories ((base.child name).child "data")) fs₁ := by
  have missing : fs₁.layout (q ++ [Utf8.encode name] ++ [Utf8.encode "data"]) = none :=
    (made.at _).trans Layout.ofLogs_data
  have child := room.data made.only (made.root.trans Layout.ofLogs_top)
  refine (child.createDirectories missing).mono ?_ fun _ _ => False.elim
  rintro - _ rfl
  have data := made.insert (p := []) (Utf8.encode "data") Layout.ofLogs_top (.directory []) rfl
  rw [List.append_nil] at data
  exact data

end Room

/-- There is room for a node whose name is free in a directory that a path leads to. -/
lemma room_of_vacant {fs : FileSystem} {base : Path} {q : Place} {folder : Folder} {name : String}
    (found : fs.find base .followed = .ok (q, .directory folder))
    (there : fs.lookup q = some (.directory folder)) (one : IsName name)
    (short : (Utf8.encode name).length ≤ nameLimit)
    (vacant : folder.lookup (Utf8.encode name) = none)
    (deep : admissible (((base.child name).child "data").child "postgresql.conf") = .ok ()) :
    fs.Room base q name := by
  have data : IsName "data" := by decide +kernel
  have settings : IsName "postgresql.conf" := by decide +kernel
  have ok : admissible (base.child name) = .ok () := by
    have ok_data := admissible_of_child settings (Path.child_ne_nil data) data.isOpen_child deep
    exact admissible_of_child data (Path.child_ne_nil one) one.isOpen_child ok_data
  have missing : fs.layout (q ++ [Utf8.encode name]) = none := by
    have entries : fs.folder? q = some folder := by
      unfold folder?
      rw [there]
    rw [layout_append, entries, Option.bind_some, vacant, Option.map_none]
  exact ⟨⟨reaches_of_find_followed found, layout_of_lookup there, one, short, ok⟩, missing, deep⟩

end FileSystem

/-! ### The engine and the files of a world -/

namespace Simulated

variable {W α : Type} {state : Part W Simulated} {files : Part W FileSystem}

/-- The engine and the files are parts of the world that can be told apart. -/
structure Apart (state : Part W Simulated) (files : Part W FileSystem) : Prop where
  get_state : ∀ s w, state.get (state.put s w) = s
  get_files : ∀ fs w, files.get (files.put fs w) = fs
  state_of_files : ∀ fs w, state.get (files.put fs w) = state.get w
  files_of_state : ∀ s w, files.get (state.put s w) = files.get w

/-- what a world shows of the engine and the files -/
def view (state : Part W Simulated) (files : Part W FileSystem) (w : W) : Simulated × FileSystem :=
  (state.get w, files.get w)

/-- Others leave the engine and the files alone. -/
def Aside (state : Part W Simulated) (files : Part W FileSystem) (w w' : W) : Prop :=
  view state files w' = view state files w

/-- **An engine without faults**: it runs all statements, and no server fails to start. -/
structure Faultless (s : Simulated) : Prop where
  failing : s.failing = []
  crashing : s.crashing = []
  stalling : s.stalling = []

section Steps

variable {s : Simulated} {fs : FileSystem} {w : W} {I : W → Prop}

lemma Aside.view {w w' : W} (h : Aside state files w w')
    (shown : Simulated.view state files w = (s, fs)) : Simulated.view state files w' = (s, fs) :=
  Eq.trans h shown

lemma ensures_perform (apart : Apart state files) {action : FileAction α}
    {J : α → FileSystem → Prop} {Q : Except IoError α → W → Prop}
    (shown : view state files w = (s, fs)) (left : Leaves J (fun _ _ => False) action fs)
    (h : ∀ a fs' w', J a fs' → view state files w' = (s, fs') → Q (.ok a) w') :
    Ensures (Aside state files) (fun _ => True) Q (Storage.perform files action) w := by
  obtain ⟨rfl, rfl⟩ := Prod.mk.inj shown
  unfold Storage.perform
  simp only [Task.ensures_bind, Task.ensures_atomic, Task.ensures_yield, Task.ensures_pure,
    true_and]
  intro w' aside
  have after : view state files w' = (state.get w, (action.run (files.get w)).2) :=
    aside.view (Prod.ext (apart.state_of_files _ _) (apart.get_files _ _))
  unfold Leaves at left
  generalize action.run (files.get w) = result at left after ⊢
  obtain ⟨e | a, fs'⟩ := result
  · cases left
  · exact h a fs' w' left after

lemma ensures_createDirectories (apart : Apart state files) {path : Path}
    {J : Unit → FileSystem → Prop} {Q : Except IoError Unit → W → Prop}
    (shown : view state files w = (s, fs))
    (left : Leaves J (fun _ _ => False) (FileSystem.createDirectories path) fs)
    (h : ∀ fs' w', J () fs' → view state files w' = (s, fs') → Q (.ok ()) w') :
    Ensures (Aside state files) (fun _ => True) Q ((Storage.ofFiles files).createDirectories path)
      w :=
  ensures_perform apart shown left fun _ => h

lemma ensures_writeFile (apart : Apart state files) {home : Place}
    {contents : List (String × Bytes)} {directory : Path} {file : String} {content : Bytes}
    {fs' : FileSystem} {Q : Except IoError Unit → W → Prop}
    (made : fs.Furnished home contents fs')
    (child : fs'.Child directory file (FileSystem.dataPlace home))
    (new : file ∉ contents.map Prod.fst) (shown : view state files w = (s, fs'))
    (h : ∀ fs'' w', fs.Furnished home ((file, content) :: contents) fs'' →
      view state files w' = (s, fs'') → Q (.ok ()) w') :
    Ensures (Aside state files) (fun _ => True) Q
      ((Storage.ofFiles files).writeFile (directory.child file) content) w :=
  ensures_perform apart shown (made.writeFile child new) fun _ => h

lemma ensures_append (apart : Apart state files) {home : Place}
    {contents : List (String × Bytes)} {directory : Path} {file : String} {before content : Bytes}
    {fs' : FileSystem} {Q : Except AppendError Unit → W → Prop}
    (made : fs.Furnished home ((file, before) :: contents) fs')
    (child : fs'.Child directory file (FileSystem.dataPlace home))
    (shown : view state files w = (s, fs'))
    (h : ∀ fs'' w', fs.Furnished home ((file, before ++ content) :: contents) fs'' →
      view state files w' = (s, fs'') → Q (.ok ()) w') :
    Ensures (Aside state files) (fun _ => True) Q
      ((Storage.ofFiles files).append (directory.child file) content) w := by
  have listed : file ∈ ((file, before) :: contents).map Prod.fst := List.mem_cons_self
  obtain ⟨found, there⟩ := made.there listed
  show Ensures _ _ _ (Storage.appendTo files (directory.child file) content) w
  unfold Storage.appendTo
  simp only [Task.ensures_bind]
  refine ensures_perform apart shown (child.append there) ?_
  rintro _ _ w₁ ⟨rfl, rfl⟩ shown
  obtain ⟨rfl, rfl⟩ := Prod.mk.inj shown
  simp only [Task.ensures_bind, Task.ensures_update, Task.ensures_yield, Task.ensures_pure,
    true_and]
  intro w₂ aside
  exact h _ w₂ made.append
    (aside.view (Prod.ext (apart.state_of_files _ _) (apart.get_files _ _)))

lemma ensures_pathExists {path : Path} {found : Bool} {Q : Except IoError Bool → W → Prop}
    (shown : view state files w = (s, fs)) (known : fs.pathExists path = .ok found)
    (h : ∀ w', view state files w' = (s, fs) → Q (.ok found) w') :
    Ensures (Aside state files) (fun _ => True) Q ((Storage.ofFiles files).pathExists path) w := by
  obtain ⟨rfl, rfl⟩ := Prod.mk.inj shown
  show Ensures _ _ _ (Storage.ask files (·.pathExists path)) w
  unfold Storage.ask
  simp only [Task.ensures_bind, Task.ensures_read, Task.ensures_yield, Task.ensures_pure, true_and,
    known]
  exact fun w' aside => h w' (aside.view rfl)

lemma ensures_step (apart : Apart state files) {f : Simulated → α × Simulated} {Q : α → W → Prop}
    {env : W → W → Prop} (shown : view state files w = (s, fs))
    (h : ∀ w', view state files w' = ((f s).2, fs) → Q (f s).1 w') :
    Ensures env I Q (step state f) w := by
  obtain ⟨rfl, rfl⟩ := Prod.mk.inj shown
  exact Task.ensures_atomic.2 (h _ (Prod.ext (apart.get_state _ _) (apart.files_of_state _ _)))

lemma assures_stored {env : W → W → Prop} {Q : α → W → Prop} {E : EngineError → W → Prop}
    {t : Task W (Except IoError α)} :
    Assures env I Q E (stored t) w ↔
      Ensures env I (fun r w => r.casesOn (fun cause => E (.io cause) w) (fun a => Q a w)) t w := by
  unfold stored
  simp only [Task.assures_bind, Task.assures_liftM]
  refine iff_of_eq (congrArg (Ensures env I · t w) ?_)
  funext r w
  cases r <;> simp

end Steps

/-! ### Setting a node up -/

/-- a node with a server on its port -/
def server (identity : Identity) (timeout : Duration) : Node Process where
  identity := identity
  phase := .running
  process := some ⟨identity.port⟩
  startTimeout := timeout
  claimed := true

/-- the engine once a server has been put on a port -/
def launched (port : UInt16) (s : Simulated) : Simulated :=
  { s with running := insertPort port s.running }

lemma Faultless.launched {s : Simulated} {port : UInt16} (calm : s.Faultless) :
    (s.launched port).Faultless :=
  ⟨calm.failing, calm.crashing, calm.stalling⟩

lemma launch_of_free {s : Simulated} {port : UInt16} (calm : s.Faultless)
    (free : s.isFree port = true) : s.launch port = (.started, s.launched port) := by
  unfold launch
  simp [calm.crashing, calm.stalling, free, launched]

/-- the files of a data directory that has been populated -/
def populatedFiles : List (String × Bytes) :=
  [("postgresql.conf", Utf8.encode "# simulated engine defaults\n"),
    ("PG_VERSION", Utf8.encode "simulated\n")]

/-- the files once settings have been added -/
def configuredFiles (settings : String) : List (String × Bytes) :=
  [("postgresql.conf", Utf8.encode "# simulated engine defaults\n" ++
      Utf8.encode (Node.configBlock settings)),
    ("PG_VERSION", Utf8.encode "simulated\n")]

section SettingUp

variable {s : Simulated} {fs : FileSystem} {w : W} {base : Path} {q : Place} {name : String}
  {port : UInt16} {timeout : Duration}

open FileSystem (Room Furnished OnlyAt)

lemma populate_succeeds (apart : Apart state files) (room : fs.Room base q name)
    {fs₁ : FileSystem} (made : fs.Grafted (q ++ [Utf8.encode name]) .ofLogs fs₁)
    (shown : view state files w = (s, fs₁)) :
    Assures (Aside state files) (fun _ => True)
      (fun _ w' => ∃ fs', fs.Furnished (q ++ [Utf8.encode name]) populatedFiles fs' ∧
        view state files w' = (s, fs'))
      (fun _ _ => False) (populate (.ofFiles files) ((base.child name).child "data")) w := by
  have top : fs₁.layout (q ++ [Utf8.encode name]) = some .directory :=
    made.root.trans Layout.ofLogs_top
  have new : fs₁.pathExists (versionFile ((base.child name).child "data")) = .ok false :=
    (room.data made.only top).pathExists_within ((made.at _).trans Layout.ofLogs_data)
      (by decide +kernel) room.ok_version
  unfold populate
  simp only [Task.assures_bind, assures_stored]
  refine ensures_pathExists shown new fun w₁ shown => ?_
  simp only [Bool.false_eq_true, if_false, Task.assures_bind, assures_stored]
  refine ensures_createDirectories apart shown (room.createData made) ?_
  intro fs₂ w₂ made shown
  refine ensures_writeFile apart made (room.version made) (by simp) shown ?_
  intro fs₃ w₃ versioned shown
  have unwritten : "postgresql.conf" ∉ ["PG_VERSION"] := by decide +kernel
  refine ensures_writeFile apart versioned (room.settings versioned) unwritten shown ?_
  intro fs₄ w₄ populated shown
  exact ⟨fs₄, populated, shown⟩

section Prepared

variable {settings : String} (apart : Apart state files) (room : fs.Room base q name)
include apart room

lemma init_succeeds (free : s.isFree port = true) (shown : view state files w = (s, fs)) :
    Assures (Beside (Aside state files)) (fun _ => True)
      (fun _ p => p.1 = { Node.create (.under base name port) timeout with
          claimed := true, phase := .initialized } ∧
        ∃ fs', fs.Furnished (q ++ [Utf8.encode name]) populatedFiles fs' ∧
          view state files p.2 = (s, fs'))
      (fun _ _ => False) (Node.init (host state files))
      (.create (.under base name port) timeout, w) := by
  have new : fs.pathExists (base.child name) = .ok false :=
    room.child.pathExists_missing room.vacant
  unfold Node.init Node.checkVacant
  simp only [Task.assures_bind, Node.assures_current, Node.create, ne_eq, not_true_eq_false,
    if_false, Node.assures_attempt, Node.port, Identity.under]
  refine ensures_pathExists shown new fun w₁ shown => ?_
  have unbound : (state.get w₁).isFree port = true := by
    rw [(Prod.mk.inj shown).1]
    exact free
  simp only [Bool.false_eq_true, if_false, Task.assures_pure, Node.assures_outside, host, engine,
    Task.ensures_read, unbound, Bool.not_true, Task.assures_bind, Node.assures_change,
    Node.assures_attempt]
  refine ensures_createDirectories apart shown room.createLogs ?_
  intro fs₂ w₂ made shown
  refine (populate_succeeds apart room made shown).of_infallible ?_
  rintro - w₃ ⟨fs₃, made, shown⟩
  exact ⟨trivial, fs₃, made, shown⟩

lemma appendConfig_succeeds {n : Node Process} {fs₁ : FileSystem}
    (made : fs.Furnished (q ++ [Utf8.encode name]) populatedFiles fs₁)
    (identity : n.identity = .under base name port) (phase : n.phase = .initialized)
    (shown : view state files w = (s, fs₁)) :
    Assures (Beside (Aside state files)) (fun _ => True)
      (fun _ p => p.1 = n ∧ ∃ fs', fs.Furnished (q ++ [Utf8.encode name])
        (configuredFiles settings) fs' ∧ view state files p.2 = (s, fs'))
      (fun _ _ => False) (Node.appendConfig (host state files) settings) (n, w) := by
  unfold Node.appendConfig
  simp only [Task.assures_bind, Node.assures_current, phase, reduceCtorEq, or_self, if_false,
    Node.assures_attempt, identity]
  refine ensures_append apart made (room.settings made) shown ?_
  intro fs₂ w₂ made₂ shown₂
  exact ⟨trivial, fs₂, made₂, shown₂⟩

variable {fs₁ : FileSystem}
  (made : fs.Furnished (q ++ [Utf8.encode name]) (configuredFiles settings) fs₁)
include made

lemma start_succeeds {n : Node Process} (identity : n.identity = .under base name port)
    (phase : n.phase = .initialized) (calm : s.Faultless) (free : s.isFree port = true)
    (shown : view state files w = (s, fs₁)) :
    Assures (Beside (Aside state files)) (fun _ => True)
      (fun _ p => p.1 = { n with process := some ⟨port⟩, phase := .running } ∧
        view state files p.2 = (s.launched port, fs₁))
      (fun _ _ => False) (Node.start (host state files)) (n, w) := by
  have listed : "PG_VERSION" ∈ (configuredFiles settings).map Prod.fst := by
    simp [configuredFiles]
  obtain ⟨version, there⟩ := made.there listed
  have populated : fs₁.pathExists (versionFile ((base.child name).child "data")) = .ok true :=
    (room.version made).pathExists_file there
  unfold Node.start
  simp only [Task.assures_bind, Node.assures_current, phase, ne_eq, not_true_eq_false, false_and,
    if_false, Node.assures_attempt, identity, host, engine, Node.port]
  show Assures _ _ _ _ (startServer _ _ _) w
  unfold startServer
  simp only [Task.assures_bind, assures_stored]
  refine ensures_pathExists shown populated fun w₁ shown => ?_
  simp only [Bool.not_true, Bool.false_eq_true, if_false, Task.assures_bind, Task.assures_liftM]
  refine ensures_step apart shown fun w₂ shown => ?_
  have started : s.launch port = (.started, s.launched port) := launch_of_free calm free
  simp only [Identity.under, started, Task.assures_pure, Node.assures_change] at shown ⊢
  refine ⟨?_, shown⟩
  rw [identity]
  rfl

omit made

/-- **A node is set up** and its server runs, where there is room for the node and nothing listens
on its port. All changes in the files are in the directory of the node. -/
theorem prepare_succeeds (calm : s.Faultless) (free : s.isFree port = true)
    (shown : view state files w = (s, fs)) :
    Assures (Beside (Aside state files)) (fun _ => True)
      (fun _ p => p.1 = server (.under base name port) timeout ∧
        ∃ fs', fs.Furnished (q ++ [Utf8.encode name]) (configuredFiles settings) fs' ∧
          view state files p.2 = (s.launched port, fs'))
      (fun _ _ => False) (Cluster.prepare (host state files) settings)
      (.create (.under base name port) timeout, w) := by
  unfold Cluster.prepare
  simp only [Task.assures_bind]
  refine (init_succeeds apart room free shown).of_infallible ?_
  rintro - ⟨_, w₁⟩ ⟨rfl, fs₁, made₁, shown₁⟩
  refine (appendConfig_succeeds apart room made₁ rfl rfl shown₁).of_infallible ?_
  rintro - ⟨_, w₂⟩ ⟨rfl, fs₂, made₂, shown₂⟩
  refine (start_succeeds apart room made₂ rfl rfl calm free shown₂).of_infallible ?_
  rintro - ⟨_, w₃⟩ ⟨rfl, shown₃⟩
  exact ⟨rfl, fs₂, made₂, shown₃⟩

end Prepared

/-- the engine once a server has run a statement -/
def executed (port : UInt16) (database statement : String) (s : Simulated) : Simulated :=
  { s with statements := s.statements ++ [⟨port, database, statement⟩] }

lemma Faultless.executed {database statement : String} (calm : s.Faultless) :
    (s.executed port database statement).Faultless :=
  ⟨calm.failing, calm.crashing, calm.stalling⟩

/-- **A statement** reaches a running server and succeeds. -/
theorem runSql_succeeds {n : Node Process} {database statement : String} {env : W → W → Prop}
    {I : W → Prop} (apart : Apart state files) (phase : n.phase = .running)
    (listening : n.port ∈ s.running) (calm : s.Faultless) (shown : view state files w = (s, fs)) :
    Assures env I
      (fun _ w' => view state files w' = (s.executed n.port database statement, fs))
      (fun _ _ => False) (n.runSql (host state files) database statement) w := by
  have answered : s.runStatement n.port database statement =
      (.ok "", s.executed n.port database statement) := by
    unfold runStatement
    simp [listening, calm.failing, executed]
  unfold Node.runSql
  simp only [phase, ne_eq, not_true_eq_false, if_false, Task.assures_bind, Task.assures_liftM]
  show Ensures env I _ (step state (runStatement n.port database statement)) w
  refine ensures_step apart shown fun w₁ shown => ?_
  simp only [answered, Task.assures_pure] at shown ⊢
  exact shown

lemma installExtension_succeeds {n : Node Process} {database : String} {env : W → W → Prop}
    {I : W → Prop} (apart : Apart state files) (phase : n.phase = .running)
    (listening : n.port ∈ s.running) (calm : s.Faultless) (shown : view state files w = (s, fs)) :
    Assures env I
      (fun _ w' => view state files w' = (s.executed n.port database Sql.installSharding, fs))
      (fun _ _ => False) (Cluster.installExtension (host state files) n database) w := by
  unfold Cluster.installExtension
  simp only [Task.assures_bind, Task.assures_tryCatch, Task.assures_pure]
  exact (runSql_succeeds apart phase listening calm shown).mono (fun _ h => h) (fun _ _ h => h)
    fun _ _ => False.elim

end SettingUp

end Simulated

end ShardCluster
