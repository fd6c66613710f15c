import ShardCluster.Proofs.ConnectionStrings

/-!
# Connection strings passed on

A connection string goes through two other texts before anyone connects with it: the statement that
registers a worker, where it is a literal, and the block of the coordinator, where quotes are put
around it as it is. What such a value carries is the text with its quotes doubled
(`Setting.carries_inQuotes`), so it carries the connection string exactly if there is no quote in it
(`connection_carried_iff`). `leads_to_node_iff` puts this together with what connection strings mean
to those who read them.
-/

namespace ShardCluster

/-! ### Texts in quotes -/

/-- The value is one complete text between quotes, and its line ends where the quotes do. -/
def Setting.Carries (s : Setting) (text : String) : Prop :=
  s.OnOneLine ∧ Sql.scanLiteral s.value.toList = some (text, [])

instance (s : Setting) (text : String) : Decidable (s.Carries text) :=
  inferInstanceAs (Decidable (_ ∧ _))

/-- Quotes put around a value carry the text that the value spells with its quotes doubled. -/
lemma Setting.carries_inQuotes {key value text : String} :
    (⟨key, Template.inQuotes value⟩ : Setting).Carries text
      ↔ '\n' ∉ value.toList ∧ value.toList = Sql.doubled text.toList := by
  rw [Carries, Template.oneLine_inQuotes, Template.toList_inQuotes, List.cons_append,
    Sql.scanLiteral, Option.map_eq_some_iff]
  refine and_congr_right fun _ => ⟨?_, fun doubled => ?_⟩
  · rintro ⟨⟨inside, rest⟩, scanned, same⟩
    obtain ⟨rfl, rfl⟩ := Prod.mk.inj same
    rw [String.toList_ofList]
    exact List.append_cancel_right (Sql.eq_doubled_of_scanInside scanned)
  · refine ⟨(text.toList, []), ?_, by rw [String.ofList_toList]⟩
    rw [doubled]
    exact Sql.scanInside_doubled _ (by decide)

/-- Only the name of the database can keep quotes from carrying a connection string. -/
lemma Setting.carries_reaching {key dbname : String} {port : UInt16} :
    (⟨key, Template.inQuotes (ConnectionString.reaching dbname port).text⟩ : Setting).Carries
        (ConnectionString.reaching dbname port).text
      ↔ '\x27' ∉ dbname.toList ∧ '\n' ∉ dbname.toList := by
  rw [carries_inQuotes, @eq_comm (List Char), Sql.doubled_eq_self_iff, and_comm,
    ConnectionString.mem_reaching dbname port rfl (by decide) (by decide),
    ConnectionString.mem_reaching dbname port rfl (by decide) (by decide)]

/-- Quotes put around a text make the literal of the text if it has no quote in it. -/
lemma Template.inQuotes_eq_literal {value : String} :
    inQuotes value = Sql.literal value ↔ '\x27' ∉ value.toList := by
  rw [← String.toList_inj, toList_inQuotes, Sql.literal, String.toList_ofList,
    List.append_left_inj, List.cons_inj_right, eq_comm, Sql.doubled_eq_self_iff]

namespace Template

/-- the key under which the coordinator's block says how it is reached -/
def connectionKey : String := "shardman.shardlord_connstring"

section Coordinator

variable (t : Template) (node : Identity)

lemma filter_connectionKey (coordinator : ConnectionString) :
    (t.settings .coordinator node coordinator).filter (·.key = connectionKey)
      = [⟨connectionKey, inQuotes coordinator.text⟩] := by
  simp [settings, roleSettings, sharedSettings, connectionKey]

lemma mem_connectionKey {coordinator : ConnectionString} {s : Setting} :
    s ∈ t.settings .coordinator node coordinator ∧ s.key = connectionKey
      ↔ s = ⟨connectionKey, inQuotes coordinator.text⟩ := by
  have found : s ∈ (t.settings .coordinator node coordinator).filter (·.key = connectionKey)
      ↔ _ ∧ _ := List.mem_filter
  rw [filter_connectionKey, List.mem_singleton, decide_eq_true_iff] at found
  exact found.symm

/-- **What the block of a coordinator says about its connection**: there is one such setting, and
its value is the connection string in quotes, complete and to the end of the line, if and only if
the name of the database has neither a quote nor a line feed in it. Without a quote the value is the
literal that a statement would carry, and every such literal reads back. -/
theorem connection_carried_iff (dbname : String) (port : UInt16) :
    ∃ s, (t.settings .coordinator node (.reaching dbname port)).filter (·.key = connectionKey) = [s]
      ∧ (s.Carries (ConnectionString.reaching dbname port).text
        ↔ '\x27' ∉ dbname.toList ∧ '\n' ∉ dbname.toList)
      ∧ (s.value = Sql.literal (ConnectionString.reaching dbname port).text
        ↔ '\x27' ∉ dbname.toList)
      ∧ Sql.scanLiteral (Sql.literal (ConnectionString.reaching dbname port).text).toList
        = some ((ConnectionString.reaching dbname port).text, []) := by
  refine ⟨_, filter_connectionKey t node _, Setting.carries_reaching, ?_, ?_⟩
  · rw [inQuotes_eq_literal,
      ConnectionString.mem_reaching dbname port rfl (by decide) (by decide)]
  · have lone : ([] : List Char).head? ≠ some '\x27' := by decide
    have read := Sql.scanLiteral_literal (ConnectionString.reaching dbname port).text lone
    rwa [List.append_nil] at read

end Coordinator

/-- A quote in the name closes the value, and two of them are read as one. -/
example :
    ¬ (⟨connectionKey, inQuotes "dbname=o'neil port=5432"⟩ : Setting).Carries
      "dbname=o'neil port=5432"
    ∧ (⟨connectionKey, inQuotes "dbname=o''neil port=5432"⟩ : Setting).Carries
      "dbname=o'neil port=5432" := by
  decide

end Template

namespace ConnectionString

/-- A text in quotes that leads to the database is the connection string itself, since every pair of
quotes that is read as one makes it too short. -/
lemma eq_of_carries {key text dbname : String} {port : UInt16}
    (carried : (⟨key, Template.inQuotes (reaching dbname port).text⟩ : Setting).Carries text)
    (leads : LeadsTo ⟨text⟩ dbname port) : text = (reaching dbname port).text := by
  have doubled := (Setting.carries_inQuotes.1 carried).2
  have longer := length_of_leadsTo dbname port leads
  have cut := (List.takeWhile_prefix (l := text.toList) (· ≠ '\x00')).length_le
  have single : '\x27' ∉ text.toList := by
    rw [← List.count_eq_zero]
    have length := congrArg List.length doubled
    rw [Sql.length_doubled] at length
    simp only at longer
    omega
  rw [Sql.doubled_eq_self_iff.2 single] at doubled
  exact String.toList_inj.1 doubled.symm

/-- **Where connections lead**: the connection string of a node has its database and its port as
its only parameters if and only if the name of the database is plain. The same holds of the text
that is registered for a worker. What the block of the coordinator carries leads to the coordinator
if and only if, beside that, the name has no quote in it. -/
theorem leads_to_node_iff (t : Template) (node : Identity) (dbname : String) :
    ((node.connectionString dbname).LeadsTo dbname node.port ↔ PlainName dbname)
    ∧ ((∃ text, Sql.Call.read? (Sql.addNode (node.connectionString dbname))
          = some ⟨"shardman.add_node", [.text text]⟩ ∧ LeadsTo ⟨text⟩ dbname node.port)
        ↔ PlainName dbname)
    ∧ ((∃ s ∈ t.settings .coordinator node (node.connectionString dbname),
          s.key = Template.connectionKey
          ∧ ∃ text, s.Carries text ∧ LeadsTo ⟨text⟩ dbname node.port)
        ↔ PlainName dbname ∧ '\x27' ∉ dbname.toList) := by
  have leads := leadsTo_reaching_iff dbname node.port
  refine ⟨leads, ?_, ?_⟩
  · rw [Sql.read?_addNode]
    simp only [Option.some.injEq, Sql.Call.mk.injEq, List.cons.injEq, Sql.Argument.text.injEq,
      true_and, and_true, exists_eq_left']
    exact leads
  · simp only [← and_assoc, Template.mem_connectionKey, exists_eq_left]
    constructor
    · rintro ⟨text, carried, leadsText⟩
      obtain rfl := eq_of_carries carried leadsText
      exact ⟨leads.1 leadsText, (Setting.carries_reaching.1 carried).1⟩
    · rintro ⟨plain, unquoted⟩
      have unbroken : '\n' ∉ dbname.toList := by
        intro there
        exact absurd (plain.1.2.2 _ there).1 (by decide)
      exact ⟨_, Setting.carries_reaching.2 ⟨unquoted, unbroken⟩, leads.2 plain⟩

end ConnectionString

end ShardCluster
