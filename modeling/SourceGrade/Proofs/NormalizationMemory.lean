import Mathlib.Data.Finset.Card
import Mathlib.Data.Finset.Dedup
import Mathlib.Tactic.Common
import SourceGrade.Cache.Normalization
import SourceGrade.Issue.Normalize

/-!
# The memory of normal forms

A memory that maps descriptions to their normal forms keeps doing so, answers like the normalization
itself, and has one entry for each description that it was asked about.
-/

namespace SourceGrade

namespace NormalizationCache

/-- Every entry maps a text to what is computed for it. -/
def MapsBy (compute : Text → Text) (c : NormalizationCache) : Prop :=
  ∀ entry ∈ c.entries, entry.2 = compute entry.1

/-- Every entry maps a description to its normal form. -/
def Faithful (c : NormalizationCache) : Prop :=
  ∀ entry ∈ c.entries, entry.2 = normalizeDescription entry.1

/-- The descriptions that have an entry. -/
def known (c : NormalizationCache) : List Text := c.entries.map (·.1)

lemma mapsBy_empty (compute : Text → Text) : empty.MapsBy compute := by
  intro entry hentry
  cases hentry

lemma faithful_empty : empty.Faithful := mapsBy_empty normalizeDescription

lemma length_known (c : NormalizationCache) : c.known.length = c.size := by
  simp [known, size]

lemma size_eq_card {c : NormalizationCache} {asked : List Text} (hnodup : c.known.Nodup)
    (hmem : ∀ d, d ∈ c.known ↔ d ∈ asked) : c.size = asked.toFinset.card := by
  rw [← length_known, ← List.toFinset_card_of_nodup hnodup]
  congr 1
  ext d
  rw [List.mem_toFinset, List.mem_toFinset]
  exact hmem d

lemma find?_eq_none {c : NormalizationCache} {key : Text} :
    c.find? key = none ↔ key ∉ c.known := by
  simp only [find?, known, List.lookup_eq_none_iff, List.mem_map, bne_iff_ne]
  constructor
  · rintro h ⟨entry, hentry, rfl⟩
    exact h entry hentry rfl
  · intro h entry hentry hkey
    exact h ⟨entry, hentry, hkey.symm⟩

lemma mem_of_find? {c : NormalizationCache} {key value : Text} (h : c.find? key = some value) :
    (key, value) ∈ c.entries := by
  obtain ⟨before, after, hentries, -⟩ := List.lookup_eq_some_iff.mp h
  rw [hentries]
  exact List.mem_append_right before List.mem_cons_self

lemma mem_known_of_find? {c : NormalizationCache} {key value : Text}
    (h : c.find? key = some value) : key ∈ c.known :=
  List.mem_map_of_mem (mem_of_find? h)

lemma known_insertNew (c : NormalizationCache) (key value : Text) :
    (c.insertNew key value).known = if key ∈ c.known then c.known else key :: c.known := by
  unfold insertNew
  cases hfind : c.find? key with
  | some old =>
    rw [if_pos (mem_known_of_find? hfind)]
    rfl
  | none =>
    rw [if_neg (find?_eq_none.mp hfind)]
    rfl

lemma known_getOrCompute (c : NormalizationCache) (compute : Text → Text) (key : Text) :
    (c.getOrCompute compute key).2.known = if key ∈ c.known then c.known else key :: c.known := by
  unfold getOrCompute
  cases hfind : c.find? key with
  | some value => rw [if_pos (mem_known_of_find? hfind)]
  | none => exact known_insertNew c key (compute key)

section

variable {compute : Text → Text} {c : NormalizationCache}

lemma MapsBy.eq_of_find? (h : c.MapsBy compute) {key value : Text}
    (hfind : c.find? key = some value) : value = compute key :=
  h _ (mem_of_find? hfind)

lemma MapsBy.insertNew (h : c.MapsBy compute) (key : Text) :
    (c.insertNew key (compute key)).MapsBy compute := by
  unfold NormalizationCache.insertNew
  split
  · exact h
  · exact List.forall_mem_cons.mpr ⟨rfl, h⟩

lemma MapsBy.getOrCompute (h : c.MapsBy compute) (key : Text) :
    (c.getOrCompute compute key).1 = compute key ∧ (c.getOrCompute compute key).2.MapsBy compute := by
  unfold NormalizationCache.getOrCompute
  cases hfind : c.find? key with
  | some value => exact ⟨h.eq_of_find? hfind, h⟩
  | none => exact ⟨rfl, h.insertNew key⟩

end

lemma Faithful.getOrCompute {c : NormalizationCache} (h : c.Faithful) (key : Text) :
    (c.getOrCompute normalizeDescription key).1 = normalizeDescription key ∧
      (c.getOrCompute normalizeDescription key).2.Faithful :=
  MapsBy.getOrCompute h key

end NormalizationCache

end SourceGrade
