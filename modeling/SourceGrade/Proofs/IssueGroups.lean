import Mathlib.Data.List.Basic
import Mathlib.Data.Multiset.Basic
import SourceGrade.Proofs.NormalizationMemory
import SourceGrade.Scoring.Aggregation

/-!
# The groups of an aggregation

An aggregation puts each issue of its family into one group, by its category, its normalized
description and its criticality, and keeps the order of the issues in a group. What the memory of
normal forms held before does not matter, and neither does the order of all issues.
-/

namespace SourceGrade

/-- By what an issue is grouped. -/
def Issue.groupKey (i : Issue) : GroupKey :=
  ⟨i.category, normalizeDescription i.description, i.severity.isCritical⟩

/-- The issues of a bucket. -/
def GroupKey.issuesOf (bucket : GroupKey × Issue × List Issue) : List Issue :=
  bucket.2.1 :: bucket.2.2

namespace IssueGroup

variable {α : Type}

/-- By what the issues of a group were grouped. -/
def key (g : IssueGroup α) : GroupKey := ⟨g.category, g.normalized, g.isCritical⟩

/-- What a group is about, and its issues in any order. -/
def content (g : IssueGroup α) : Category × Text × Bool × Multiset Issue :=
  (g.category, g.normalized, g.isCritical, (g.issues : Multiset Issue))

end IssueGroup

namespace Proofs

open GroupKey (issuesOf)

/-! ### Buckets -/

/-- Buckets that hold some issues: one for each key, with the issues of that key in order. -/
structure Bucketed (seen : List Issue) (buckets : List (GroupKey × Issue × List Issue)) : Prop where
  keys_nodup : (buckets.map (·.1)).Nodup
  issuesOf_eq : ∀ b ∈ buckets, issuesOf b = seen.filter (·.groupKey = b.1)
  mem_keys : ∀ i ∈ seen, i.groupKey ∈ buckets.map (·.1)

lemma keys_addToBucket (key : GroupKey) (i : Issue)
    (buckets : List (GroupKey × Issue × List Issue)) :
    (addToBucket key i buckets).map (·.1) =
      if key ∈ buckets.map (·.1) then buckets.map (·.1) else buckets.map (·.1) ++ [key] := by
  induction buckets with
  | nil => simp [addToBucket]
  | cons b buckets ih =>
    obtain ⟨k, first, others⟩ := b
    by_cases hk : k = key
    · simp [addToBucket, hk]
    · have hne : ¬key = k := fun h => hk h.symm
      simp only [addToBucket, if_neg hk, List.map_cons, List.mem_cons, hne, false_or, ih]
      split <;> rfl

lemma mem_addToBucket {key : GroupKey} {i : Issue}
    {buckets : List (GroupKey × Issue × List Issue)} (hnodup : (buckets.map (·.1)).Nodup)
    {b : GroupKey × Issue × List Issue} (hb : b ∈ addToBucket key i buckets) :
    (b.1 ≠ key ∧ b ∈ buckets) ∨
      (b.1 = key ∧ ∃ b' ∈ buckets, b'.1 = key ∧ issuesOf b = issuesOf b' ++ [i]) ∨
      (b = (key, i, []) ∧ key ∉ buckets.map (·.1)) := by
  induction buckets with
  | nil =>
    obtain rfl := List.mem_singleton.mp hb
    exact .inr (.inr ⟨rfl, by simp⟩)
  | cons c buckets ih =>
    obtain ⟨k, first, others⟩ := c
    have hnotin : k ∉ buckets.map (·.1) := (List.nodup_cons.mp hnodup).1
    rw [addToBucket] at hb
    by_cases hk : k = key
    · subst hk
      rw [if_pos rfl] at hb
      obtain rfl | hb := List.mem_cons.mp hb
      · exact .inr (.inl ⟨rfl, _, List.mem_cons_self, rfl, rfl⟩)
      · have hne : b.1 ≠ k := fun h => hnotin (h ▸ List.mem_map_of_mem hb)
        exact .inl ⟨hne, List.mem_cons_of_mem _ hb⟩
    · rw [if_neg hk] at hb
      obtain rfl | hb := List.mem_cons.mp hb
      · exact .inl ⟨hk, List.mem_cons_self⟩
      · obtain ⟨hne, hb⟩ | ⟨hkey, b', hb', hissues⟩ | ⟨rfl, hnew⟩ :=
          ih (List.nodup_cons.mp hnodup).2 hb
        · exact .inl ⟨hne, List.mem_cons_of_mem _ hb⟩
        · exact .inr (.inl ⟨hkey, b', List.mem_cons_of_mem _ hb', hissues⟩)
        · refine .inr (.inr ⟨rfl, ?_⟩)
          intro hmem
          obtain hkey | hmem := List.mem_cons.mp hmem
          · exact hk hkey.symm
          · exact hnew hmem

lemma Bucketed.add {seen : List Issue} {buckets : List (GroupKey × Issue × List Issue)}
    (h : Bucketed seen buckets) (i : Issue) :
    Bucketed (seen ++ [i]) (addToBucket i.groupKey i buckets) where
  keys_nodup := by
    rw [keys_addToBucket]
    split
    · exact h.keys_nodup
    · next hnew =>
      refine List.Nodup.append h.keys_nodup (List.nodup_singleton _) ?_
      intro k hk hk'
      obtain rfl := List.mem_singleton.mp hk'
      exact hnew hk
  issuesOf_eq b hb := by
    rw [List.filter_append]
    obtain ⟨hne, hb⟩ | ⟨hkey, b', hb', hkey', hissues⟩ | ⟨rfl, hnew⟩ :=
      mem_addToBucket h.keys_nodup hb
    · have hne' : ¬i.groupKey = b.1 := fun heq => hne heq.symm
      rw [h.issuesOf_eq b hb]
      simp [hne']
    · rw [hissues, h.issuesOf_eq b' hb', hkey', hkey]
      simp
    · have hempty : seen.filter (·.groupKey = i.groupKey) = [] := by
        rw [List.filter_eq_nil_iff]
        intro j hj hjk
        have hkey : j.groupKey = i.groupKey := by simpa using hjk
        exact hnew (hkey ▸ h.mem_keys j hj)
      rw [hempty]
      simp [issuesOf]
  mem_keys j hj := by
    rw [keys_addToBucket]
    obtain hj | hj := List.mem_append.mp hj
    · have := h.mem_keys j hj
      split
      · exact this
      · exact List.mem_append_left _ this
    · obtain rfl := List.mem_singleton.mp hj
      split
      · assumption
      · exact List.mem_append_right _ (List.mem_singleton.mpr rfl)

/-- The issues of a family, in order. -/
def inFamily (family : List Category) (issues : List Issue) : List Issue :=
  issues.filter fun i => family.contains i.category

lemma bucketsFrom_bucketed (family : List Category) {cache : NormalizationCache}
    (hcache : cache.Faithful) {seen : List Issue}
    {buckets : List (GroupKey × Issue × List Issue)} (h : Bucketed seen buckets)
    (issues : List Issue) :
    Bucketed (seen ++ inFamily family issues) (bucketsFrom family cache buckets issues).1 := by
  induction issues generalizing cache seen buckets with
  | nil => simpa [bucketsFrom, inFamily] using h
  | cons i issues ih =>
    obtain ⟨hvalue, hcache'⟩ := hcache.getOrCompute i.description
    by_cases hi : family.contains i.category = true
    · have hsplit : seen ++ inFamily family (i :: issues) =
          (seen ++ [i]) ++ inFamily family issues := by
        simp only [inFamily, List.filter_cons, hi, if_true, List.append_assoc,
          List.singleton_append]
      rw [hsplit, bucketsFrom, if_pos hi]
      dsimp only
      rw [hvalue]
      exact ih hcache' (h.add i)
    · have hsplit : inFamily family (i :: issues) = inFamily family issues := by
        simp only [inFamily, List.filter_cons, hi, if_false, Bool.false_eq_true]
      rw [hsplit, bucketsFrom, if_neg hi]
      exact ih hcache h

lemma bucketed_nil : Bucketed [] [] := ⟨List.nodup_nil, by simp, by simp⟩

lemma flatMap_filter_perm {β κ : Type} [DecidableEq κ] (key : β → κ) {keys : List κ}
    (hnodup : keys.Nodup) {xs : List β} (hkeys : ∀ x ∈ xs, key x ∈ keys) :
    (keys.flatMap fun k => xs.filter (key · = k)).Perm xs := by
  induction keys generalizing xs with
  | nil =>
    have : xs = [] := List.eq_nil_iff_forall_not_mem.mpr fun x hx => by simpa using hkeys x hx
    simp [this]
  | cons k keys ih =>
    obtain ⟨hk, hnodup⟩ := List.nodup_cons.mp hnodup
    have hrest : ∀ x ∈ xs.filter (¬key · = k), key x ∈ keys := by
      intro x hx
      obtain ⟨hx, hne⟩ := List.mem_filter.mp hx
      have hne : ¬key x = k := by simpa using hne
      exact (List.mem_cons.mp (hkeys x hx)).resolve_left hne
    have hsame : (keys.flatMap fun k' => (xs.filter (¬key · = k)).filter (key · = k')) =
        keys.flatMap fun k' => xs.filter (key · = k') := by
      refine List.flatMap_congr fun k' hk' => ?_
      rw [List.filter_filter]
      refine List.filter_congr fun x _ => ?_
      have hne : k' ≠ k := fun h => hk (h ▸ hk')
      by_cases hx : key x = k'
      · simp [hx, hne]
      · simp [hx]
    rw [List.flatMap_cons, ← hsame]
    refine ((ih hnodup hrest).append_left _).trans ?_
    have hperm := List.filter_append_perm (fun x => decide (key x = k)) xs
    simpa using hperm

/-! ### Severities -/

lemma highest_spec (s : Severity) (rest : List Severity) :
    s.highest rest ∈ s :: rest ∧ ∀ x ∈ s :: rest, x.rank ≤ (s.highest rest).rank := by
  unfold Severity.highest
  induction rest generalizing s with
  | nil => simp
  | cons x rest ih =>
    rw [List.foldl_cons]
    obtain ⟨hmem, hle⟩ := ih (if s.rank < x.rank then x else s)
    generalize hbest : (if s.rank < x.rank then x else s) = best at hmem hle ⊢
    generalize rest.foldl (fun best t => if best.rank < t.rank then t else best) best = top
      at hmem hle ⊢
    have hge := hle best List.mem_cons_self
    have hbest' : (best = x ∨ best = s) ∧ s.rank ≤ best.rank ∧ x.rank ≤ best.rank := by
      subst hbest
      split
      · exact ⟨.inl rfl, by omega, le_rfl⟩
      · exact ⟨.inr rfl, le_rfl, by omega⟩
    constructor
    · obtain rfl | hmem := List.mem_cons.mp hmem
      · obtain ⟨rfl | rfl, -⟩ := hbest'
        · simp
        · simp
      · simp [hmem]
    · intro y hy
      obtain rfl | hy := List.mem_cons.mp hy
      · omega
      · obtain rfl | hy := List.mem_cons.mp hy
        · omega
        · exact hle y (List.mem_cons_of_mem _ hy)

/-! ### Groups -/

section

variable {ι α : Type} [Scalar α] (t : Thresholds ι α) (family : List Category)
  {cache : NormalizationCache} (hcache : cache.Faithful) (issues : List Issue)

lemma aggregate_groups_perm : (aggregate t family cache issues).1.groups.Perm
    ((bucketsFrom family cache [] issues).1.map (groupOf t)) :=
  Listing.sorted_perm _ _

lemma exists_bucket {g : IssueGroup α} (hg : g ∈ (aggregate t family cache issues).1.groups) :
    ∃ b ∈ (bucketsFrom family cache [] issues).1, groupOf t b = g :=
  List.mem_map.mp ((aggregate_groups_perm t family issues).mem_iff.mp hg)

lemma aggregate_keys_perm :
    ((aggregate t family cache issues).1.groups.map (·.key)).Perm
      ((bucketsFrom family cache [] issues).1.map (·.1)) := by
  have hperm : (aggregate t family cache issues).1.groups.Perm _ :=
    aggregate_groups_perm t family issues
  have hmap := hperm.map IssueGroup.key
  rw [List.map_map] at hmap
  exact hmap

lemma group_severity {g : IssueGroup α} (hg : g ∈ (aggregate t family cache issues).1.groups) :
    (∃ i ∈ g.issues, i.severity = g.severity) ∧
      ∀ i ∈ g.issues, i.severity.rank ≤ g.severity.rank := by
  obtain ⟨⟨key, first, others⟩, -, rfl⟩ := exists_bucket t family issues hg
  obtain ⟨hmem, hle⟩ := highest_spec first.severity (others.map (·.severity))
  rw [← List.map_cons] at hmem hle
  constructor
  · exact List.mem_map.mp hmem
  · intro i hi
    exact hle _ (List.mem_map_of_mem hi)

include hcache

lemma bucketsFrom_inFamily :
    Bucketed (inFamily family issues) (bucketsFrom family cache [] issues).1 := by
  simpa using bucketsFrom_bucketed family hcache bucketed_nil issues

lemma group_issues {g : IssueGroup α} (hg : g ∈ (aggregate t family cache issues).1.groups) :
    g.issues = (inFamily family issues).filter (·.groupKey = g.key) := by
  obtain ⟨b, hb, rfl⟩ := exists_bucket t family issues hg
  exact (bucketsFrom_inFamily family hcache issues).issuesOf_eq b hb

lemma group_keys_nodup : ((aggregate t family cache issues).1.groups.map (·.key)).Nodup :=
  (aggregate_keys_perm t family issues).nodup_iff.mpr
    (bucketsFrom_inFamily family hcache issues).keys_nodup

lemma mem_group_keys {i : Issue} (hi : i ∈ inFamily family issues) :
    ∃ g ∈ (aggregate t family cache issues).1.groups, g.key = i.groupKey :=
  List.mem_map.mp ((aggregate_keys_perm t family issues).mem_iff.mpr
    ((bucketsFrom_inFamily family hcache issues).mem_keys i hi))

lemma groups_flatMap_perm :
    ((aggregate t family cache issues).1.groups.flatMap (·.issues)).Perm
      (inFamily family issues) := by
  have hcut : (aggregate t family cache issues).1.groups.flatMap (·.issues) =
      ((aggregate t family cache issues).1.groups.map (·.key)).flatMap fun k =>
        (inFamily family issues).filter (·.groupKey = k) := by
    rw [List.flatMap_map]
    exact List.flatMap_congr fun g hg => group_issues t family hcache issues hg
  rw [hcut]
  refine flatMap_filter_perm Issue.groupKey (group_keys_nodup t family hcache issues) ?_
  intro i hi
  exact List.mem_map.mpr (mem_group_keys t family hcache issues hi)

lemma mem_content {c : Category × Text × Bool × Multiset Issue} :
    c ∈ (aggregate t family cache issues).1.groups.map (·.content) ↔
      ∃ i ∈ inFamily family issues, c = (i.groupKey.category, i.groupKey.normalized,
        i.groupKey.isCritical,
        ((inFamily family issues).filter (·.groupKey = i.groupKey) : Multiset Issue)) := by
  constructor
  · intro hc
    obtain ⟨g, hg, rfl⟩ := List.mem_map.mp hc
    have hissues := group_issues t family hcache issues hg
    have hfirst : g.first ∈ (inFamily family issues).filter (·.groupKey = g.key) :=
      hissues ▸ List.mem_cons_self
    obtain ⟨hmem, hkey⟩ := List.mem_filter.mp hfirst
    have hkey : g.first.groupKey = g.key := by simpa using hkey
    exact ⟨g.first, hmem, by rw [hkey, ← hissues]; rfl⟩
  · rintro ⟨i, hi, rfl⟩
    obtain ⟨g, hg, hkey⟩ := mem_group_keys t family hcache issues hi
    refine List.mem_map.mpr ⟨g, hg, ?_⟩
    rw [← hkey, ← group_issues t family hcache issues hg]
    rfl

lemma same_group_iff {i j : Issue} (hi : i ∈ inFamily family issues)
    (hj : j ∈ inFamily family issues) :
    (∃ g ∈ (aggregate t family cache issues).1.groups, i ∈ g.issues ∧ j ∈ g.issues) ↔
      i.groupKey = j.groupKey := by
  constructor
  · rintro ⟨g, hg, hig, hjg⟩
    rw [group_issues t family hcache issues hg] at hig hjg
    have hik : i.groupKey = g.key := by simpa using (List.mem_filter.mp hig).2
    have hjk : j.groupKey = g.key := by simpa using (List.mem_filter.mp hjg).2
    exact hik.trans hjk.symm
  · intro hkey
    obtain ⟨g, hg, hgi⟩ := mem_group_keys t family hcache issues hi
    refine ⟨g, hg, ?_, ?_⟩
    · rw [group_issues t family hcache issues hg]
      exact List.mem_filter.mpr ⟨hi, by simp [hgi]⟩
    · rw [group_issues t family hcache issues hg]
      exact List.mem_filter.mpr ⟨hj, by simp [hgi, hkey]⟩

lemma contents_nodup : ((aggregate t family cache issues).1.groups.map (·.content)).Nodup := by
  have hkeys := group_keys_nodup t family hcache issues
  refine List.Nodup.of_map (fun x => (⟨x.1, x.2.1, x.2.2.1⟩ : GroupKey)) ?_
  rw [List.map_map]
  exact hkeys

lemma contents_perm {cache' : NormalizationCache} (hcache' : cache'.Faithful)
    {issues' : List Issue} (hperm : issues'.Perm issues) :
    ((aggregate t family cache' issues').1.groups.map (·.content)).Perm
      ((aggregate t family cache issues).1.groups.map (·.content)) := by
  have hfamily : (inFamily family issues').Perm (inFamily family issues) := hperm.filter _
  have hmembers : ∀ k : GroupKey, ((inFamily family issues').filter (·.groupKey = k) :
      Multiset Issue) = (inFamily family issues).filter (·.groupKey = k) := fun k =>
    Multiset.coe_eq_coe.mpr (hfamily.filter _)
  refine (List.perm_ext_iff_of_nodup (contents_nodup t family hcache' issues')
    (contents_nodup t family hcache issues)).mpr ?_
  intro c
  rw [mem_content t family hcache', mem_content t family hcache]
  simp only [hmembers, hfamily.mem_iff]

end

/-- The groups of an aggregation partition the issues of its family. Each issue of the family is in
one group, two of them in the same one if they agree in category, normal form and criticality, and a
group has the highest severity of its issues. Neither the order of the issues nor what the memory
holds changes what the groups are. -/
theorem aggregate_groups_partition {ι α : Type} [Scalar α] (t : Thresholds ι α)
    (family : List Category) {cache : NormalizationCache} (hcache : cache.Faithful)
    (issues : List Issue) :
    let groups := (aggregate t family cache issues).1.groups
    let ofFamily := issues.filter fun i => family.contains i.category
    (∀ g ∈ groups, g.issues ≠ []) ∧
      (groups.flatMap (·.issues)).Perm ofFamily ∧
      (groups.map (·.key)).Nodup ∧
      (∀ g ∈ groups, g.issues = ofFamily.filter (·.groupKey = g.key)) ∧
      (∀ i ∈ ofFamily, ∀ j ∈ ofFamily,
        (∃ g ∈ groups, i ∈ g.issues ∧ j ∈ g.issues) ↔
          i.category = j.category ∧
            normalizeDescription i.description = normalizeDescription j.description ∧
            i.severity.isCritical = j.severity.isCritical) ∧
      (∀ g ∈ groups, (∃ i ∈ g.issues, i.severity = g.severity) ∧
        ∀ i ∈ g.issues, i.severity.rank ≤ g.severity.rank) ∧
      ∀ cache' : NormalizationCache, cache'.Faithful → ∀ issues' : List Issue,
        issues'.Perm issues →
          ((aggregate t family cache' issues').1.groups.map (·.content)).Perm
            (groups.map (·.content)) := by
  intro groups ofFamily
  refine ⟨fun g _ => List.cons_ne_nil _ _, groups_flatMap_perm t family hcache issues,
    group_keys_nodup t family hcache issues, fun g hg => group_issues t family hcache issues hg,
    fun i hi j hj => ?_, fun g hg => group_severity t family issues hg,
    fun cache' hcache' issues' hperm => contents_perm t family hcache issues hcache' hperm⟩
  rw [same_group_iff t family hcache issues hi hj]
  simp only [Issue.groupKey, GroupKey.mk.injEq]

/-- An issue of a division by a name. -/
def divisionBy (name : Text) (severity : Severity) : Issue :=
  { category := .runtime, severity := severity
    description := "Unchecked division by '" ++ name ++ "' fails when it is zero" }

/-- A memory that knows the division by one name. -/
def divisionMemory : NormalizationCache :=
  ⟨[("Unchecked division by 'count' fails when it is zero",
    "unchecked division by * fails when it is zero")]⟩

theorem aggregate_groups_partition_divisions :
    divisionMemory.Faithful ∧
      let groups := (aggregate (Thresholds.defaults : Thresholds Int Float) Category.reliability
        divisionMemory [divisionBy "count" .critical, divisionBy "size" .major,
          divisionBy "size" .critical]).1.groups
      (∃ g ∈ groups, divisionBy "count" .critical ∈ g.issues ∧
        divisionBy "size" .critical ∈ g.issues) ∧
      ¬∃ g ∈ groups, divisionBy "size" .critical ∈ g.issues ∧
        divisionBy "size" .major ∈ g.issues := by
  have hfaithful : divisionMemory.Faithful := by
    unfold NormalizationCache.Faithful
    decide
  have hsame := (aggregate_groups_partition (Thresholds.defaults : Thresholds Int Float)
    Category.reliability hfaithful [divisionBy "count" .critical, divisionBy "size" .major,
      divisionBy "size" .critical]).2.2.2.2.1
  refine ⟨hfaithful, ?_, ?_⟩
  · exact (hsame _ (by decide) _ (by decide)).mpr (by decide)
  · intro hgroup
    exact absurd ((hsame _ (by decide) _ (by decide)).mp hgroup) (by decide)

end Proofs

end SourceGrade
