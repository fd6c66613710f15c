import ShardCluster.CommandLine.Plan
import ShardCluster.Proofs.Children
import ShardCluster.Proofs.Conflicts

/-!
# The nodes of a plan

A plan is made whenever there is a port for every worker (`Plan.ofArguments_ok_iff`). Its nodes are
numbered from the coordinator on (`Plan.nodes_of_ofArguments`). Their names can be names of
directories (`Plan.isName_of_mem`), and no two of them have a name, a port or a directory in common
(`Plan.pairwise_apart`).
-/

namespace ShardCluster

/-- Nodes in one base directory share nothing if their names are single and different, and so are
their ports. -/
lemma Identity.not_shares_under {base : Path} {a b : String} {port port' : UInt16}
    (one : Path.IsName a) (two : Path.IsName b) (names : a ≠ b) (ports : port ≠ port') :
    ¬ (Identity.under base a port).Shares (.under base b port') := by
  rintro (same | same | same)
  · exact names same
  · exact ports same
  · simp only [Identity.under, one.components_child, two.components_child,
      List.append_cancel_left_eq, List.cons.injEq, Path.Component.name.injEq, and_true] at same
    exact names (Utf8.encode_injective same)

end ShardCluster

namespace ShardCluster.CommandLine.Plan

open ShardCluster.Path (IsName slash dot)

/-! ### Numbered names -/

lemma encode_of_digit {c : Char} (digit : c.isDigit = true) :
    String.utf8EncodeChar c = [c.val.toUInt8] ∧ c.val.toUInt8 ≠ slash := by
  obtain ⟨low, high⟩ : 48 ≤ c.val ∧ c.val ≤ 57 := by
    simpa [Char.isDigit] using digit
  have single : c.utf8Size = 1 :=
    Char.utf8Size_eq_one_iff.2 (UInt32.le_trans high (show (57 : UInt32) ≤ 127 by decide))
  refine ⟨String.utf8EncodeChar_eq_singleton single, fun same => ?_⟩
  have value := congrArg UInt8.toNat same
  have low' := UInt32.le_iff_toNat_le.1 low
  have high' := UInt32.le_iff_toNat_le.1 high
  rw [UInt32.toNat_toUInt8] at value
  simp [slash] at value low' high'
  omega

lemma encode_number (number : Nat) : Utf8.encode (toString number) =
    (Nat.toDigits 10 number).flatMap String.utf8EncodeChar := by
  rw [Nat.toString_eq_ofList_toDigits, Utf8.encode, String.toList_ofList]

lemma isName_worker (basePort : UInt16) (number : Nat) : IsName (worker basePort number).1 := by
  have start : Utf8.encode (worker basePort number).1 =
      [0x77, 0x6F, 0x72, 0x6B, 0x65, 0x72] ++ Utf8.encode (toString number) :=
    Utf8.encode_append _ _
  refine ⟨?_, ?_, ?_, ?_⟩
  · simp [start]
  · rw [start, List.mem_append, not_or]
    refine ⟨by decide, fun found => ?_⟩
    rw [encode_number, List.mem_flatMap] at found
    obtain ⟨c, there, found⟩ := found
    obtain ⟨single, other⟩ := encode_of_digit
      (Nat.isDigit_of_mem_toDigits (by decide) (by decide) there)
    rw [single, List.mem_singleton] at found
    exact other found.symm
  · simp [start]
  · simp [start, Path.up]

lemma length_worker_le (basePort : UInt16) {number : Nat} (few : number < UInt16.size) :
    (Utf8.encode (worker basePort number).1).length ≤ FileSystem.nameLimit := by
  have digits : (Nat.toDigits 10 number).length ≤ 5 :=
    (Nat.length_toDigits_le_iff (by decide) (by decide)).2 (few.trans (by decide))
  have single : ∀ c ∈ Nat.toDigits 10 number, (String.utf8EncodeChar c).length = 1 := by
    intro c there
    rw [(encode_of_digit (Nat.isDigit_of_mem_toDigits (by decide) (by decide) there)).1]
    rfl
  have length : (Utf8.encode (toString number)).length = (Nat.toDigits 10 number).length := by
    rw [encode_number, List.length_flatMap, List.map_congr_left single, List.map_const',
      List.sum_replicate_nat, Nat.mul_one]
  have start : Utf8.encode (worker basePort number).1 =
      [0x77, 0x6F, 0x72, 0x6B, 0x65, 0x72] ++ Utf8.encode (toString number) :=
    Utf8.encode_append _ _
  rw [start, List.length_append, length]
  exact (Nat.add_le_add_left digits 6).trans (by decide)

/-! ### Numbered nodes -/

/-- the node of that number, where the coordinator comes first -/
def node (basePort : UInt16) : Nat → String × UInt16
  | 0 => (coordinatorName, basePort)
  | number + 1 => worker basePort (number + 1)

/-- the nodes of a plan in the order they are brought up -/
def nodes (plan : Plan) : List (String × UInt16) := (coordinatorName, plan.basePort) :: plan.workers

lemma node_port (basePort : UInt16) (number : Nat) :
    (node basePort number).2 = UInt16.ofNat (basePort.toNat + number) := by
  cases number with
  | zero => simp [node]
  | succ number => rfl

lemma node_name_injective {basePort : UInt16} {i j : Nat}
    (same : (node basePort i).1 = (node basePort j).1) : i = j := by
  have apart (number : Nat) : (worker basePort number).1 ≠ coordinatorName := by
    intro same
    have first := congrArg String.toList same
    simp [worker, coordinatorName] at first
  cases i with
  | zero =>
    cases j with
    | zero => rfl
    | succ j => exact absurd same.symm (apart _)
  | succ i =>
    cases j with
    | zero => exact absurd same (apart _)
    | succ j =>
      have digits : (toString (i + 1)).toList = (toString (j + 1)).toList := by
        have whole := congrArg String.toList same
        simp only [node, worker, String.toList_append] at whole
        exact List.append_cancel_left whole
      have numbers := congrArg (fun digits => Nat.ofDigitChars 10 digits 0) digits
      simpa [Nat.toString_eq_ofList_toDigits] using numbers

/-! ### The plan for the arguments -/

section

variable {a : Arguments} {plan : Plan}

/-- **A plan is made** whenever there is a port for every worker. -/
lemma ofArguments_ok_iff :
    (∃ plan, ofArguments a = .ok plan) ↔ a.basePort.toNat + a.workers < UInt16.size := by
  unfold ofArguments
  split
  · rename_i enough
    exact iff_of_true ⟨_, rfl⟩ enough
  · rename_i more
    exact iff_of_false (by simp) more

variable (made : ofArguments a = .ok plan)
include made

lemma ports_of_ofArguments : a.basePort.toNat + a.workers < UInt16.size :=
  ofArguments_ok_iff.1 ⟨plan, made⟩

lemma workers_of_ofArguments : plan.basePort = a.basePort ∧
    plan.workers = (List.range a.workers).map fun i => node a.basePort (i + 1) := by
  have enough := ports_of_ofArguments made
  unfold ofArguments at made
  rw [if_pos enough] at made
  cases made
  exact ⟨rfl, rfl⟩

lemma nodes_of_ofArguments :
    plan.nodes = (List.range (a.workers + 1)).map (node a.basePort) := by
  obtain ⟨port, workers⟩ := workers_of_ofArguments made
  rw [nodes, workers, port, List.range_succ_eq_map, List.map_cons, List.map_map]
  rfl

/-- **Nodes can have directories** of their names. -/
lemma isName_of_mem {name : String} {port : UInt16} (member : (name, port) ∈ plan.nodes) :
    IsName name ∧ (Utf8.encode name).length ≤ FileSystem.nameLimit := by
  have enough := ports_of_ofArguments made
  rw [nodes_of_ofArguments made, List.mem_map] at member
  obtain ⟨number, few, same⟩ := member
  rw [List.mem_range] at few
  cases number with
  | zero =>
    obtain ⟨rfl, -⟩ := Prod.mk.inj same
    exact ⟨by decide +kernel, by decide +kernel⟩
  | succ number =>
    obtain rfl : (worker a.basePort (number + 1)).1 = name := congrArg Prod.fst same
    exact ⟨isName_worker _ _, length_worker_le _ (by omega)⟩

/-- **Nodes are told apart** by their names and by their ports. -/
lemma pairwise_nodes : plan.nodes.Pairwise fun m n => m.1 ≠ n.1 ∧ m.2 ≠ n.2 := by
  have enough := ports_of_ofArguments made
  rw [nodes_of_ofArguments made, List.pairwise_map]
  refine List.Pairwise.imp_of_mem ?_ List.pairwise_lt_range
  intro i j hi hj less
  refine ⟨fun same => less.ne (node_name_injective same), fun same => ?_⟩
  rw [List.mem_range] at hi hj
  have ports := congrArg UInt16.toNat same
  rw [node_port, node_port, UInt16.toNat_ofNat', UInt16.toNat_ofNat',
    Nat.mod_eq_of_lt (Nat.lt_of_le_of_lt (by omega) enough),
    Nat.mod_eq_of_lt (Nat.lt_of_le_of_lt (by omega) enough)] at ports
  omega

theorem pairwise_apart (base : Path) : plan.nodes.Pairwise fun m n =>
    ¬ (Identity.under base m.1 m.2).Shares (.under base n.1 n.2) := by
  refine List.Pairwise.imp_of_mem ?_ (pairwise_nodes made)
  intro m n hm hn apart
  exact Identity.not_shares_under (isName_of_mem made hm).1 (isName_of_mem made hn).1 apart.1
    apart.2

end

end ShardCluster.CommandLine.Plan
