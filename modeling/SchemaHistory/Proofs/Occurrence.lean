import Mathlib.Data.List.Perm.Subperm
import SchemaHistory.Proofs.Accounting
import SchemaHistory.Proofs.Extraction

/-!
What is counted once, and what is counted every time.

Two numbers of a run are taken from lists without their repetitions. A reason is listed once, at its first
occurrence, with the number of the statements that are filtered for it. The statements of a new migration are
counted by their normal forms, so that of equivalent ones only the first counts.
-/

namespace SchemaHistory

/-! ### First occurrences -/

section Lists

variable {α β : Type} [DecidableEq α] {l : List β} {f : β → α} {a : α}

theorem length_eraseDups_eq_iff (l : List α) : l.eraseDups.length = l.length ↔ l.Nodup := by
  have sub : l.eraseDups.Subperm l := (nodup_eraseDups l).subperm fun a => List.mem_eraseDups.1
  constructor
  · intro same
    exact (sub.perm_of_length_le same.ge).nodup_iff.1 (nodup_eraseDups l)
  · intro nodup
    exact ((List.perm_ext_iff_of_nodup (nodup_eraseDups l) nodup).2 fun a => List.mem_eraseDups).length_eq

omit [DecidableEq α] in
theorem findIdx_congr {p q : β → Bool} (same : ∀ b ∈ l, p b = q b) : l.findIdx p = l.findIdx q := by
  induction l with
  | nil => rfl
  | cons b rest ih =>
    rw [List.forall_mem_cons] at same
    rw [List.findIdx_cons, List.findIdx_cons, same.1, ih same.2]

theorem findIdx_lt_of_mem (known : a ∈ l.map f) : l.findIdx (f · == a) < l.length := by
  obtain ⟨b, member, same⟩ := List.mem_map.1 known
  exact List.findIdx_lt_length_of_exists ⟨b, member, by simpa using same⟩

theorem findIdx_concat_of_mem (known : a ∈ l.map f) (b : β) :
    (l ++ [b]).findIdx (f · == a) = l.findIdx (f · == a) := by
  rw [List.findIdx_append, if_pos (findIdx_lt_of_mem known)]

theorem findIdx_concat_of_notMem {b : β} (new : f b ∉ l.map f) :
    (l ++ [b]).findIdx (f · == f b) = l.length := by
  have none : l.findIdx (f · == f b) = l.length := by
    rw [List.findIdx_eq_length]
    intro c member
    exact beq_eq_false_iff_ne.2 fun same => new (same ▸ List.mem_map_of_mem member)
  rw [List.findIdx_append, if_neg (by omega)]
  simp

/-- The values of a list, each listed once, come in the order of their first occurrences. -/
theorem pairwise_eraseDups_map (l : List β) (f : β → α) :
    (l.map f).eraseDups.Pairwise fun a b => l.findIdx (f · == a) < l.findIdx (f · == b) := by
  induction l using List.reverseRecOn with
  | nil => exact List.Pairwise.nil
  | append_singleton l last ih =>
    have before : ∀ a ∈ (l.map f).eraseDups, (l ++ [last]).findIdx (f · == a) = l.findIdx (f · == a) :=
      fun a member => findIdx_concat_of_mem (List.mem_eraseDups.1 member) last
    have kept : (l.map f).eraseDups.Pairwise fun a b =>
        (l ++ [last]).findIdx (f · == a) < (l ++ [last]).findIdx (f · == b) :=
      ih.imp_of_mem fun here there less => by rwa [before _ here, before _ there]
    rw [List.map_append, List.map_singleton, eraseDups_concat]
    split
    · exact kept
    · rename_i new
      refine List.pairwise_append.2 ⟨kept, List.pairwise_singleton _ _, fun a member b single => ?_⟩
      obtain rfl := List.mem_singleton.1 single
      rw [before a member, findIdx_concat_of_notMem new]
      exact findIdx_lt_of_mem (List.mem_eraseDups.1 member)

/-- There are as many values as elements that share theirs with none before them. -/
theorem length_eraseDups_map (l : List β) (f : β → α) (place : β → Nat)
    (ascending : l.Pairwise (place · < place ·)) :
    (l.map f).eraseDups.length = (l.filter fun s => ∀ t ∈ l, f t = f s → place s ≤ place t).length := by
  induction l using List.reverseRecOn with
  | nil => rfl
  | append_singleton l last ih =>
    obtain ⟨before, -, less⟩ := List.pairwise_append.1 ascending
    have later : ∀ s ∈ l, place s < place last := fun s member =>
      less s member last (List.mem_singleton_self _)
    -- the last element decides about itself only
    have same : ∀ s ∈ l, (∀ t ∈ l ++ [last], f t = f s → place s ≤ place t) ↔
        ∀ t ∈ l, f t = f s → place s ≤ place t := fun s member => by
      rw [List.forall_mem_append, List.forall_mem_singleton]
      exact and_iff_left fun _ => (later s member).le
    have first : (∀ t ∈ l ++ [last], f t = f last → place last ≤ place t) ↔ f last ∉ l.map f := by
      rw [List.forall_mem_append, List.forall_mem_singleton, List.mem_map]
      constructor
      · rintro ⟨none, -⟩ ⟨t, member, equal⟩
        exact absurd (none t member equal) (Nat.not_le.2 (later t member))
      · exact fun new => ⟨fun t member equal => absurd ⟨t, member, equal⟩ new, fun _ => le_rfl⟩
    rw [List.filter_append, List.length_append, List.map_append, List.map_singleton, eraseDups_concat,
      List.filter_congr fun s member => decide_eq_decide.2 (same s member), ← ih before]
    by_cases known : f last ∈ l.map f
    · rw [if_pos known, List.filter_singleton, decide_eq_false (first.not.2 (not_not.2 known))]
      rfl
    · rw [if_neg known, List.filter_singleton, decide_eq_true (first.2 known), List.length_append]
      rfl

end Lists

/-! ### Reasons -/

/-- Two reasons are alike if they differ at most in the name of the rule, or in which statement drops what
the filtered one makes. -/
inductive FilterReason.Alike : FilterReason → FilterReason → Prop where
  | policy (rule rule' reason : String) : Alike (.policy rule reason) (.policy rule' reason)
  | createDropped (kind : ObjectKind) (name : String) (d d' : Nat) :
    Alike (.createDropped kind name d) (.createDropped kind name d')
  | constraintDropped (table constraint : String) (d d' : Nat) :
    Alike (.constraintDropped table constraint d) (.constraintDropped table constraint d')

theorem FilterReason.Alike.text_eq {r r' : FilterReason} (alike : r.Alike r') : r.text = r'.text := by
  cases alike <;> rfl

namespace Statement

/-- The reason for which a statement is filtered, in words. -/
def label (s : Statement) : String := (s.filter.map (·.text)).getD ""

/-- Whether a statement is filtered for a reason that reads so. -/
def isFilteredAs (label : String) (s : Statement) : Bool := s.filter.any (·.text == label)

theorem isFilteredAs_eq {s : Statement} (filtered : s.isFiltered = true) (label : String) :
    s.isFilteredAs label = (s.label == label) := by
  obtain ⟨reason, there⟩ := Option.isSome_iff_exists.1 filtered
  rw [isFilteredAs, Statement.label, there]
  rfl

/-- Alike reasons are counted together. -/
theorem isFilteredAs_congr {s t : Statement} {r r' : FilterReason} (reason : s.filter = some r)
    (reason' : t.filter = some r') (alike : r.Alike r') (label : String) :
    s.isFilteredAs label = t.isFilteredAs label := by
  rw [isFilteredAs, isFilteredAs, reason, reason', Option.any_some, Option.any_some, alike.text_eq]

end Statement

namespace History

theorem isFilteredAs_of_mem_filtered {h : History} {s : Statement} (member : s ∈ h.filtered)
    (label : String) : s.isFilteredAs label = (s.label == label) :=
  Statement.isFilteredAs_eq (List.mem_filter.1 member).2 label

theorem reasonTexts_eq (h : History) : h.reasonTexts = h.filtered.map Statement.label := by
  rw [reasonTexts, filtered]
  induction h.statements with
  | nil => rfl
  | cons s rest ih =>
    cases reason : s.filter with
    | none => simp [reason, Statement.isFiltered, ih]
    | some r => simp [reason, Statement.isFiltered, Statement.label, ih]

theorem count_reasonTexts (h : History) (label : String) :
    h.reasonTexts.count label = h.filtered.countP (·.isFilteredAs label) := by
  rw [reasonTexts_eq, List.count_eq_countP, List.countP_map]
  refine List.countP_congr fun s member => ?_
  rw [isFilteredAs_of_mem_filtered member]
  rfl

theorem mem_reasonTexts_iff (h : History) (label : String) :
    label ∈ h.reasonTexts ↔ ∃ s ∈ h.filtered, s.isFilteredAs label = true := by
  rw [← List.count_pos_iff, count_reasonTexts, List.countP_pos_iff]

theorem labels_reasonCounts (h : History) : h.reasonCounts.map (·.1) = h.reasonTexts.eraseDups := by
  rw [reasonCounts_eq, tally_eq, List.map_map]
  exact List.map_id _

theorem pairwise_reasonCounts (h : History) : h.reasonCounts.Pairwise fun a b =>
    h.filtered.findIdx (·.isFilteredAs a.1) < h.filtered.findIdx (·.isFilteredAs b.1) := by
  have same : ∀ label, h.filtered.findIdx (·.label == label) = h.filtered.findIdx (·.isFilteredAs label) :=
    fun label => findIdx_congr fun s member => (isFilteredAs_of_mem_filtered member label).symm
  rw [reasonCounts_eq, tally_eq, reasonTexts_eq, List.pairwise_map]
  exact (pairwise_eraseDups_map h.filtered Statement.label).imp fun less => by rwa [same, same] at less

/-- The counts by reason have each label once, in the order in which the labels first occur among the
filtered statements. They have the labels of these statements and no other, each with the number of the
statements that are filtered so, where alike reasons count as one. The counts sum to the number of filtered
statements, and with the others these are all statements. -/
theorem reasonCounts_exact (h : History) :
    (h.reasonCounts.map (·.1)).Nodup ∧
    (h.reasonCounts.Pairwise fun a b =>
      h.filtered.findIdx (·.isFilteredAs a.1) < h.filtered.findIdx (·.isFilteredAs b.1)) ∧
    (∀ label, label ∈ h.reasonCounts.map (·.1) ↔ ∃ s ∈ h.filtered, s.isFilteredAs label = true) ∧
    (∀ label n, (label, n) ∈ h.reasonCounts → n = h.filtered.countP (·.isFilteredAs label)) ∧
    (∀ s t : Statement, ∀ r r', s.filter = some r → t.filter = some r' → r.Alike r' →
      ∀ label, s.isFilteredAs label = t.isFilteredAs label) ∧
    (h.reasonCounts.map (·.2)).sum = h.filteredCount ∧ h.filteredCount + h.keptCount = h.size := by
  refine ⟨?distinct, h.pairwise_reasonCounts, fun label => ?listed, fun label n entry => ?counted,
    fun s t r r' => Statement.isFilteredAs_congr, h.sum_reasonCounts, ?total⟩
  case distinct =>
    rw [labels_reasonCounts]
    exact nodup_eraseDups _
  case listed => rw [labels_reasonCounts, List.mem_eraseDups, mem_reasonTexts_iff]
  case counted =>
    rw [← count_reasonTexts]
    exact (mem_tally_iff.1 entry).2
  case total =>
    have fewer : h.filteredCount ≤ h.size := List.length_filter_le _ _
    exact Nat.add_sub_cancel' fewer

/-! ### Statements of a new migration -/

/-- The statements of one migration. -/
def ofSql (name sql : String) : History := ofSources [⟨name, sql⟩]

theorem map_text_ofSql (name sql : String) :
    (ofSql name sql).statements.map (·.text) = Sql.statements sql := by
  rw [ofSql, ofSources, List.map_map, List.flatMap_singleton, List.zipIdx_map, List.map_map]
  exact List.zipIdx_map_fst 0 (Sql.statements sql)

theorem newStatements_eq (h : History) (name sql : String) : (h.reconcile sql).newStatements =
    ((ofSql name sql).statements.map fun s => Sql.normal s.text).eraseDups.length := by
  rw [reconcile, Sql.normalForms, ← map_text_ofSql name sql, List.map_map]
  rfl

/-- The number of statements that is reported for a new migration is that of the statements to which none
before them is equivalent. It is never too large, and it is the number of all statements if and only if no
two of them are equivalent. -/
theorem newStatements_exact (h : History) (name sql : String) :
    (h.reconcile sql).newStatements = ((ofSql name sql).statements.filter fun s =>
        ∀ t ∈ (ofSql name sql).statements, Sql.equivalent t.text s.text = true →
          s.position ≤ t.position).length ∧
      (h.reconcile sql).newStatements ≤ (ofSql name sql).size ∧
      ((h.reconcile sql).newStatements = (ofSql name sql).size ↔
        (ofSql name sql).statements.Pairwise fun s t => Sql.equivalent s.text t.text = false) := by
  have counted : (h.reconcile sql).newStatements = ((ofSql name sql).statements.filter fun s =>
      ∀ t ∈ (ofSql name sql).statements, Sql.equivalent t.text s.text = true →
        s.position ≤ t.position).length := by
    have ascending : (ofSql name sql).statements.Pairwise (·.position < ·.position) :=
      positions_ofSources [⟨name, sql⟩]
    rw [h.newStatements_eq name sql, length_eraseDups_map _ _ _ ascending]
    simp only [Sql.equivalent, beq_iff_eq]
  refine ⟨counted, counted ▸ List.length_filter_le _ _, ?_⟩
  have size : (ofSql name sql).size = ((ofSql name sql).statements.map fun s => Sql.normal s.text).length :=
    (List.length_map _).symm
  rw [h.newStatements_eq name sql, size, length_eraseDups_eq_iff, List.Nodup, List.pairwise_map]
  simp only [Sql.equivalent, beq_eq_false_iff_ne]

/-- A statement that is there twice, but for case and spacing, counts once. -/
theorem not_forall_newStatements_eq_size :
    ¬ ∀ (h : History) (name sql : String), (h.reconcile sql).newStatements = (ofSql name sql).size := by
  intro all
  exact absurd (all ⟨[]⟩ "m" "SELECT 1; select  1;") (by decide +kernel)

end History

end SchemaHistory
