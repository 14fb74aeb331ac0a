import Mathlib
import AppServer.Proofs.Text.ByteOrder
import AppServer.Toml.Document

/-!
# Names in order

The tables of a document hold each name once and in the order of the names'
bytes: statements never add a name that is there, and a finished table is sorted.
-/

namespace AppServer.Toml

/-- In a value's tables, at any depth outside of lists, the names ascend in the order of their bytes. -/
inductive Value.Ordered : Value → Prop where
  | leaf {value : Value} {s : String} (text : value.leafText? = some s) : Ordered value
  | array (items : List Value) : Ordered (.array items)
  | table {entries : List (String × Value)}
      (ascending : entries.Pairwise fun a b => Bytes.ofText a.1 < Bytes.ofText b.1)
      (inner : ∀ entry ∈ entries, entry.2.Ordered) : Ordered (.table entries)

theorem ascending_sortEntries {entries : List (String × Value)} (h : (entries.map Prod.fst).Nodup) :
    (sortEntries entries).Pairwise fun a b => Bytes.ofText a.1 < Bytes.ofText b.1 := by
  have hsorted : (sortEntries entries).Pairwise fun a b => decide (a.1 ≤ b.1) = true := by
    refine List.pairwise_mergeSort (fun a b c hab hbc => ?_) (fun a b => ?_) entries
    · exact decide_eq_true (String.le_trans (of_decide_eq_true hab) (of_decide_eq_true hbc))
    · simpa using String.le_total a.1 b.1
  have hperm : (sortEntries entries).Perm entries := List.mergeSort_perm entries _
  have hdistinct : (sortEntries entries).Pairwise fun a b => a.1 ≠ b.1 :=
    List.pairwise_map.mp ((hperm.map Prod.fst).nodup_iff.mpr h)
  refine (hsorted.and hdistinct).imp fun ⟨hle, hne⟩ => Bytes.ofText_lt ?_
  exact lt_of_le_of_ne (of_decide_eq_true hle) hne

/-! ### Tables under construction -/

/-- A node's tables, outside of lists, hold each name once, and its values are ordered. -/
inductive Node.Sound : Node → Prop where
  | value {value : Value} (ordered : value.Ordered) : Sound (.value value)
  | table {origin : Origin} {nodes : Nodes} (distinct : (nodes.map Prod.fst).Nodup)
      (inner : ∀ entry ∈ nodes, entry.2.Sound) : Sound (.table origin nodes)
  | tables (earlier : List Nodes) (last : Nodes) : Sound (.tables earlier last)

structure Nodes.Sound (nodes : Nodes) : Prop where
  distinct : (nodes.map Prod.fst).Nodup
  inner : ∀ entry ∈ nodes, entry.2.Sound

theorem Node.Sound.nodes {origin : Origin} {nodes : Nodes} (h : (Node.table origin nodes).Sound) :
    Nodes.Sound nodes := by
  cases h with
  | table distinct inner => exact ⟨distinct, inner⟩

namespace Nodes

variable {nodes after : Nodes} {name : String} {node : Node}

theorem Sound.table (h : Sound nodes) (origin : Origin) : (Node.table origin nodes).Sound :=
  .table h.distinct h.inner

theorem sound_nil : Sound [] where
  distinct := List.nodup_nil
  inner _ hentry := absurd hentry List.not_mem_nil

theorem Sound.cons (h : Sound nodes) (habsent : nodes.lookup name = none) (hnode : node.Sound) :
    Sound ((name, node) :: nodes) where
  distinct := by
    refine List.nodup_cons.mpr ⟨fun hmem => ?_, h.distinct⟩
    obtain ⟨entry, hentry, rfl⟩ := List.mem_map.mp hmem
    have hne := List.lookup_eq_none_iff.mp habsent entry hentry
    simp at hne
  inner := List.forall_mem_cons.mpr ⟨hnode, h.inner⟩

theorem Sound.lookup (h : Sound nodes) (hfound : nodes.lookup name = some node) : node.Sound := by
  obtain ⟨before, behind, hsplit, -⟩ := List.lookup_eq_some_iff.mp hfound
  refine h.inner (name, node) ?_
  rw [hsplit]
  exact List.mem_append_right _ List.mem_cons_self

theorem map_fst_replace (name : String) (node : Node) (nodes : Nodes) :
    (replace name node nodes).map Prod.fst = nodes.map Prod.fst := by
  induction nodes with
  | nil => rfl
  | cons entry rest ih =>
    rw [replace]
    split
    · next hname => rw [List.map_cons, List.map_cons, hname]
    · rw [List.map_cons, List.map_cons, ih]

theorem eq_or_mem_of_mem_replace {entry : String × Node} (h : entry ∈ replace name node nodes) :
    entry = (name, node) ∨ entry ∈ nodes := by
  induction nodes with
  | nil => exact absurd h List.not_mem_nil
  | cons first rest ih =>
    rw [replace] at h
    split at h
    · rcases List.mem_cons.mp h with heq | hmem
      · exact .inl heq
      · exact .inr (List.mem_cons_of_mem _ hmem)
    · rcases List.mem_cons.mp h with rfl | hmem
      · exact .inr List.mem_cons_self
      · exact (ih hmem).imp_right (List.mem_cons_of_mem _)

theorem Sound.replace (h : Sound nodes) (hnode : node.Sound) : Sound (nodes.replace name node) where
  distinct := by
    rw [map_fst_replace]
    exact h.distinct
  inner entry hentry := by
    rcases eq_or_mem_of_mem_replace hentry with rfl | hmem
    · exact hnode
    · exact h.inner entry hmem

theorem Sound.addEntry {value : Value} {key : Key} (h : Sound nodes) (hvalue : value.Ordered)
    (hadd : nodes.addEntry value key = some after) : Sound after := by
  -- along the names of the key: what is under the first one is new, a table that grows, or a list
  fun_induction Nodes.addEntry value key nodes generalizing after with
  | case1 => cases hadd
  | case2 name nodes habsent =>
    cases hadd
    exact h.cons habsent (.value hvalue)
  | case3 => cases hadd
  | case4 name rest nodes _ habsent ih =>
    obtain ⟨inner, hinner, rfl⟩ := Option.map_eq_some_iff.mp hadd
    exact h.cons habsent ((ih sound_nil hinner).table .dotted)
  | case5 name rest nodes _ held hfound ih =>
    obtain ⟨inner, hinner, rfl⟩ := Option.map_eq_some_iff.mp hadd
    exact h.replace ((ih (h.lookup hfound).nodes hinner).table .dotted)
  | case6 => cases hadd
  | case7 name rest nodes _ held hfound _ ih =>
    obtain ⟨inner, hinner, rfl⟩ := Option.map_eq_some_iff.mp hadd
    exact h.replace ((ih (h.lookup hfound).nodes hinner).table .implied)
  | case8 => cases hadd
  | case9 name rest nodes _ earlier last =>
    obtain ⟨inner, -, rfl⟩ := Option.map_eq_some_iff.mp hadd
    exact h.replace (.tables earlier inner)
  | case10 => cases hadd

theorem Sound.within {change : Nodes → Option Nodes} {path : Key} (h : Sound nodes)
    (hchange : ∀ {before behind : Nodes}, Sound before → change before = some behind → Sound behind)
    (hwithin : nodes.within change path = some after) : Sound after := by
  fun_induction Nodes.within change path nodes generalizing after with
  | case1 nodes => exact hchange h hwithin
  | case2 name rest nodes habsent ih =>
    obtain ⟨inner, hinner, rfl⟩ := Option.map_eq_some_iff.mp hwithin
    exact h.cons habsent ((ih sound_nil hinner).table .implied)
  | case3 name rest nodes origin held hfound ih =>
    obtain ⟨inner, hinner, rfl⟩ := Option.map_eq_some_iff.mp hwithin
    exact h.replace ((ih (h.lookup hfound).nodes hinner).table origin)
  | case4 name rest nodes earlier last =>
    obtain ⟨inner, -, rfl⟩ := Option.map_eq_some_iff.mp hwithin
    exact h.replace (.tables earlier inner)
  | case5 => cases hwithin

theorem Sound.openTable (h : Sound nodes) (hopen : nodes.openTable name = some after) : Sound after := by
  rw [Nodes.openTable] at hopen
  split at hopen
  · next habsent =>
    cases hopen
    exact h.cons habsent (sound_nil.table .header)
  · next inner hfound =>
    cases hopen
    exact h.replace ((h.lookup hfound).nodes.table .header)
  · cases hopen

theorem Sound.openItem (h : Sound nodes) (hopen : nodes.openItem name = some after) : Sound after := by
  rw [Nodes.openItem] at hopen
  split at hopen
  · next habsent =>
    cases hopen
    exact h.cons habsent (.tables [] [])
  · next earlier last hfound =>
    cases hopen
    exact h.replace (.tables (last :: earlier) [])
  · cases hopen

end Nodes

/-! ### Finished tables -/

theorem entryValues_eq_map (nodes : Nodes) :
    entryValues nodes = nodes.map fun entry => (entry.1, entry.2.toValue) := by
  induction nodes with
  | nil => rw [entryValues, List.map_nil]
  | cons entry rest ih => rw [entryValues, ih, List.map_cons]

theorem ordered_table {nodes : Nodes} (hdistinct : (nodes.map Prod.fst).Nodup)
    (hinner : ∀ entry ∈ nodes, entry.2.toValue.Ordered) : (Value.table nodes.toTable).Ordered := by
  have hnames : ((entryValues nodes).map Prod.fst).Nodup := by
    rw [entryValues_eq_map, List.map_map]
    exact hdistinct
  refine .table (ascending_sortEntries hnames) fun entry hentry => ?_
  have hperm : nodes.toTable.Perm (entryValues nodes) := List.mergeSort_perm _ _
  rw [hperm.mem_iff, entryValues_eq_map] at hentry
  obtain ⟨held, hheld, rfl⟩ := List.mem_map.mp hentry
  exact hinner held hheld

theorem Node.Sound.toValue {node : Node} (h : node.Sound) : node.toValue.Ordered := by
  induction h with
  | value ordered =>
    rw [Node.toValue]
    exact ordered
  | table distinct inner ih =>
    rw [Node.toValue]
    exact ordered_table distinct ih
  | tables earlier last =>
    rw [Node.toValue]
    exact .array _

theorem Nodes.Sound.toTable {nodes : Nodes} (h : Nodes.Sound nodes) : (Value.table nodes.toTable).Ordered :=
  ordered_table h.distinct fun entry hentry => (h.inner entry hentry).toValue

/-! ### Expressions -/

/-- The scalars of an expression are leaves, except within lists. -/
inductive Expr.Plain : Expr → Prop where
  | scalar {value : Value} {s : String} (text : value.leafText? = some s) : Plain (.scalar value)
  | array (items : List Expr) : Plain (.array items)
  | inline {entries : List (Key × Expr)} (inner : ∀ entry ∈ entries, entry.2.Plain) : Plain (.inline entries)

theorem sound_evalInline {entries : List (Key × Expr)} {nodes after : Nodes} (h : Nodes.Sound nodes)
    (hentries : ∀ entry ∈ entries, ∀ value, entry.2.eval = some value → value.Ordered)
    (heval : evalInline entries nodes = some after) : Nodes.Sound after := by
  induction entries generalizing nodes with
  | nil =>
    rw [evalInline] at heval
    cases heval
    exact h
  | cons entry rest ih =>
    rw [List.forall_mem_cons] at hentries
    rw [evalInline] at heval
    obtain ⟨value, hvalue, heval⟩ := Option.bind_eq_some_iff.mp heval
    obtain ⟨grown, hgrown, heval⟩ := Option.bind_eq_some_iff.mp heval
    exact ih (h.addEntry (hentries.1 value hvalue) hgrown) hentries.2 heval

theorem Expr.Plain.ordered {expr : Expr} (h : expr.Plain) {value : Value} (heval : expr.eval = some value) :
    value.Ordered := by
  induction h generalizing value with
  | scalar text =>
    rw [Expr.eval] at heval
    cases heval
    exact .leaf text
  | array items =>
    rw [Expr.eval] at heval
    obtain ⟨values, -, rfl⟩ := Option.map_eq_some_iff.mp heval
    exact .array values
  | inline inner ih =>
    rw [Expr.eval] at heval
    obtain ⟨nodes, hnodes, rfl⟩ := Option.map_eq_some_iff.mp heval
    exact (sound_evalInline Nodes.sound_nil (fun entry hentry _ => ih entry hentry) hnodes).toTable

/-! ### Reading -/

theorem leaf_of_readBare {cs rest : List Char} {value : Value} (h : readBare cs = some (value, rest)) :
    ∃ s, value.leafText? = some s := by
  simp only [readBare, Option.bind_eq_bind] at h
  split at h
  · cases h
    exact ⟨_, rfl⟩
  split at h
  · cases h
    exact ⟨_, rfl⟩
  split at h
  · cases h
    exact ⟨_, rfl⟩
  split at h
  · cases h
    exact ⟨_, rfl⟩
  · obtain ⟨found, hfound, h⟩ := Option.bind_eq_some_iff.mp h
    obtain ⟨stamp, -, rfl⟩ := Option.map_eq_some_iff.mp hfound
    cases h
    exact ⟨_, rfl⟩

theorem plain_readItems {fuel depth : Nat} {done : List Expr} {cs rest : List Char} {expr : Expr}
    (h : readItems fuel depth done cs = some (expr, rest)) : expr.Plain := by
  induction fuel generalizing done cs with
  | zero =>
    rw [readItems] at h
    cases h
  | succ fuel ih =>
    rw [readItems.eq_def] at h
    obtain ⟨inside, -, h⟩ := Option.bind_eq_some_iff.mp h
    split at h
    · cases h
      exact .array _
    · obtain ⟨item, -, h⟩ := Option.bind_eq_some_iff.mp h
      obtain ⟨behind, -, h⟩ := Option.bind_eq_some_iff.mp h
      split at h
      · exact ih h
      · cases h
        exact .array _
      · cases h

/-- What is read has leaves for scalars; the entries of a table written in place are plain as they are read. -/
theorem plain_read (fuel : Nat) :
    (∀ {depth : Nat} {cs rest : List Char} {expr : Expr},
      readExpr fuel depth cs = some (expr, rest) → expr.Plain) ∧
    (∀ {depth : Nat} {done : List (Key × Expr)} {cs rest : List Char} {expr : Expr},
      (∀ entry ∈ done, entry.2.Plain) → readInline fuel depth done cs = some (expr, rest) → expr.Plain) := by
  induction fuel with
  | zero =>
    refine ⟨fun h => ?_, fun _ h => ?_⟩
    · rw [readExpr] at h
      cases h
    · rw [readInline] at h
      cases h
  | succ fuel ih =>
    obtain ⟨hexpr, hinline⟩ := ih
    constructor
    · intro depth cs rest expr h
      rw [readExpr.eq_def] at h
      dsimp only at h
      split at h
      · cases h
      · cases h
      · exact plain_readItems h
      · exact hinline (fun entry hentry => absurd hentry List.not_mem_nil) h
      · obtain ⟨read, -, h⟩ := Option.map_eq_some_iff.mp h
        cases h
        exact .scalar rfl
      · obtain ⟨read, -, h⟩ := Option.map_eq_some_iff.mp h
        cases h
        exact .scalar rfl
      · obtain ⟨⟨value, behind⟩, hread, h⟩ := Option.map_eq_some_iff.mp h
        cases h
        obtain ⟨s, text⟩ := leaf_of_readBare hread
        exact .scalar text
    · intro depth done cs rest expr hdone h
      rw [readInline.eq_def] at h
      obtain ⟨inside, -, h⟩ := Option.bind_eq_some_iff.mp h
      split at h
      · cases h
        exact .inline fun entry hentry => hdone entry (List.mem_reverse.mp hentry)
      · obtain ⟨key, -, h⟩ := Option.bind_eq_some_iff.mp h
        obtain ⟨_, -, h⟩ := Option.bind_eq_some_iff.mp h
        obtain ⟨_, -, h⟩ := Option.bind_eq_some_iff.mp h
        obtain ⟨_, -, h⟩ := Option.bind_eq_some_iff.mp h
        obtain ⟨value, hvalue, h⟩ := Option.bind_eq_some_iff.mp h
        obtain ⟨_, -, h⟩ := Option.bind_eq_some_iff.mp h
        have hmore : ∀ entry ∈ (key.1, value.1) :: done, entry.2.Plain :=
          List.forall_mem_cons.mpr ⟨hexpr hvalue, hdone⟩
        split at h
        · exact hinline hmore h
        · cases h
          exact .inline fun entry hentry => hmore entry (List.mem_reverse.mp hentry)
        · cases h

/-! ### Statements -/

def Statement.Plain : Statement → Prop
  | .entry _ value => value.Plain
  | _ => True

theorem plain_readStatement {cs rest : List Char} {statement : Statement}
    (h : readStatement cs = some (statement, rest)) : statement.Plain := by
  rw [readStatement.eq_def] at h
  split at h
  · obtain ⟨_, -, h⟩ := Option.bind_eq_some_iff.mp h
    obtain ⟨_, -, h⟩ := Option.bind_eq_some_iff.mp h
    obtain ⟨_, -, h⟩ := Option.bind_eq_some_iff.mp h
    cases h
    trivial
  · obtain ⟨_, -, h⟩ := Option.bind_eq_some_iff.mp h
    obtain ⟨_, -, h⟩ := Option.bind_eq_some_iff.mp h
    cases h
    trivial
  · obtain ⟨_, -, h⟩ := Option.bind_eq_some_iff.mp h
    obtain ⟨_, -, h⟩ := Option.bind_eq_some_iff.mp h
    obtain ⟨⟨value, behind⟩, hvalue, h⟩ := Option.bind_eq_some_iff.mp h
    cases h
    exact (plain_read _).1 hvalue

theorem plain_readStatements {fuel : Nat} {done statements : List Statement} {cs : List Char}
    (hdone : ∀ statement ∈ done, statement.Plain) (h : readStatements fuel done cs = some statements) :
    ∀ statement ∈ statements, statement.Plain := by
  induction fuel generalizing done cs with
  | zero =>
    rw [readStatements] at h
    cases h
  | succ fuel ih =>
    rw [readStatements.eq_def] at h
    obtain ⟨inside, -, h⟩ := Option.bind_eq_some_iff.mp h
    split at h
    · cases h
      exact fun statement hstatement => hdone statement (List.mem_reverse.mp hstatement)
    · obtain ⟨read, hread, h⟩ := Option.bind_eq_some_iff.mp h
      have hmore : ∀ statement ∈ read.1 :: done, statement.Plain :=
        List.forall_mem_cons.mpr ⟨plain_readStatement hread, hdone⟩
      obtain ⟨behind, -, h⟩ := Option.bind_eq_some_iff.mp h
      split at h
      · cases h
        exact fun statement hstatement => hmore statement (List.mem_reverse.mp hstatement)
      · obtain ⟨next, -, h⟩ := Option.bind_eq_some_iff.mp h
        exact ih hmore h

/-! ### Documents -/

theorem Draft.sound_add {draft next : Draft} {statement : Statement} (h : Nodes.Sound draft.root)
    (hstatement : statement.Plain) (hadd : draft.add statement = some next) : Nodes.Sound next.root := by
  cases statement with
  | table key =>
    obtain ⟨_, -, hadd⟩ := Option.bind_eq_some_iff.mp hadd
    obtain ⟨root, hroot, hadd⟩ := Option.bind_eq_some_iff.mp hadd
    cases hadd
    exact h.within (fun hbefore => hbefore.openTable) hroot
  | tableItem key =>
    obtain ⟨_, -, hadd⟩ := Option.bind_eq_some_iff.mp hadd
    obtain ⟨root, hroot, hadd⟩ := Option.bind_eq_some_iff.mp hadd
    cases hadd
    exact h.within (fun hbefore => hbefore.openItem) hroot
  | entry key expr =>
    obtain ⟨value, hvalue, hadd⟩ := Option.bind_eq_some_iff.mp hadd
    obtain ⟨root, hroot, hadd⟩ := Option.bind_eq_some_iff.mp hadd
    cases hadd
    exact h.within (fun hbefore => hbefore.addEntry (hstatement.ordered hvalue)) hroot

theorem Draft.sound_run {statements : List Statement} {draft last : Draft} (h : Nodes.Sound draft.root)
    (hstatements : ∀ statement ∈ statements, statement.Plain)
    (hrun : statements.foldlM Draft.add draft = some last) : Nodes.Sound last.root := by
  induction statements generalizing draft with
  | nil =>
    cases hrun
    exact h
  | cons statement rest ih =>
    rw [List.forall_mem_cons] at hstatements
    obtain ⟨next, hnext, hrun⟩ := Option.bind_eq_some_iff.mp hrun
    exact ih (sound_add h hstatements.1 hnext) hstatements.2 hrun

theorem Table.ordered_of_parse? {s : String} {table : Table} (h : Table.parse? s = some table) :
    (Value.table table).Ordered := by
  obtain ⟨statements, hread, h⟩ := Option.bind_eq_some_iff.mp h
  obtain ⟨draft, hdraft, rfl⟩ := Option.map_eq_some_iff.mp h
  have hplain := plain_readStatements (fun _ hstatement => absurd hstatement List.not_mem_nil) hread
  exact (Draft.sound_run Nodes.sound_nil hplain hdraft).toTable

end AppServer.Toml
