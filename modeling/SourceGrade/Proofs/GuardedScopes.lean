import Mathlib.Data.List.Nodup
import Mathlib.Tactic.Common
import SourceGrade.Hazard.Evidence

/-!
# Guards in scopes

The scope of a line is the innermost function around it. A guard that is found in a scope up to a
line is found up to every later line, and of the items of one key the first is kept.
-/

namespace SourceGrade

/-- Whether one of some patterns occurs in the code of a line. -/
def SourceLine.shows (l : SourceLine) (patterns : List Pattern) : Bool :=
  patterns.any (·.occursIn (compact l.code))

/-- Whether a line stands outside all functions. -/
def Inspection.isOutside (i : Inspection) (line : Nat) : Bool := (i.functionAt? line).isNone

namespace Proofs

/-! ### The first items of keys -/

section

variable {κ β γ : Type} [BEq κ] {key : β → κ}

lemma firstOfKey_map (f : γ → β) (seen : List κ) (xs : List γ) :
    firstOfKey key seen (xs.map f) = (firstOfKey (key ∘ f) seen xs).map f := by
  induction xs generalizing seen with
  | nil => rfl
  | cons x xs ih =>
    rw [List.map_cons, firstOfKey, firstOfKey, Function.comp_apply]
    split
    · exact ih seen
    · rw [List.map_cons, ih]

variable [LawfulBEq κ]

lemma firstOfKey_congr {seen seen' : List κ} {xs : List β}
    (h : ∀ x ∈ xs, (key x ∈ seen ↔ key x ∈ seen')) :
    firstOfKey key seen xs = firstOfKey key seen' xs := by
  induction xs generalizing seen seen' with
  | nil => rfl
  | cons x xs ih =>
    obtain ⟨hx, hxs⟩ := List.forall_mem_cons.mp h
    have hcontains : seen.contains (key x) = seen'.contains (key x) := by
      rw [Bool.eq_iff_iff, List.contains_iff_mem, List.contains_iff_mem]
      exact hx
    have hcons : ∀ y ∈ xs, (key y ∈ key x :: seen ↔ key y ∈ key x :: seen') :=
      fun y hy => by rw [List.mem_cons, List.mem_cons, hxs y hy]
    rw [firstOfKey, firstOfKey, hcontains, ih hxs, ih hcons]

lemma filter_firstOfKey {p : β → Bool} {xs : List β}
    (hp : ∀ x ∈ xs, ∀ y ∈ xs, key x = key y → p x = p y) (seen : List κ) :
    (firstOfKey key seen xs).filter p = firstOfKey key seen (xs.filter p) := by
  induction xs generalizing seen with
  | nil => rfl
  | cons x xs ih =>
    have hrest : ∀ y ∈ xs, ∀ z ∈ xs, key y = key z → p y = p z :=
      fun y hy z hz => hp y (List.mem_cons_of_mem x hy) z (List.mem_cons_of_mem x hz)
    rw [firstOfKey]
    by_cases hx : p x = true
    · rw [List.filter_cons_of_pos hx, firstOfKey]
      split
      · exact ih hrest seen
      · rw [List.filter_cons_of_pos hx, ih hrest]
    · rw [List.filter_cons_of_neg hx]
      split
      · exact ih hrest seen
      · rw [List.filter_cons_of_neg hx, ih hrest]
        -- nothing that is chosen has the key of the item left out
        apply firstOfKey_congr
        intro y hy
        obtain ⟨hy, hpy⟩ := List.mem_filter.mp hy
        have hne : key y ≠ key x := fun heq => hx
          (hp x List.mem_cons_self y (List.mem_cons_of_mem x hy) heq.symm ▸ hpy)
        simp [hne]

lemma firstOfKey_of_seen {k : κ} {xs : List β} (h : ∀ x ∈ xs, key x = k) :
    firstOfKey key [k] xs = [] := by
  induction xs with
  | nil => rfl
  | cons x xs ih =>
    obtain ⟨hx, hxs⟩ := List.forall_mem_cons.mp h
    rw [firstOfKey, if_pos (by simp [hx]), ih hxs]

lemma filter_firstOfKey_eq {p : β → Bool} {xs : List β}
    (hp : ∀ x ∈ xs, p x = true → ∀ y ∈ xs, (p y = true ↔ key x = key y)) :
    (firstOfKey key [] xs).filter p = (xs.find? p).toList := by
  have hkey : ∀ x ∈ xs, ∀ y ∈ xs, key x = key y → p x = p y := by
    intro x hx y hy heq
    rw [Bool.eq_iff_iff]
    exact ⟨fun h => (hp x hx h y hy).mpr heq, fun h => (hp y hy h x hx).mpr heq.symm⟩
  rw [filter_firstOfKey hkey, ← List.head?_filter]
  cases hchosen : xs.filter p with
  | nil => rfl
  | cons x rest =>
    have hmem : ∀ y ∈ x :: rest, y ∈ xs ∧ p y = true :=
      fun y hy => List.mem_filter.mp (hchosen ▸ hy)
    obtain ⟨hx, hpx⟩ := hmem x List.mem_cons_self
    rw [firstOfKey, if_neg (by simp), List.head?_cons, Option.toList_some]
    apply congrArg (x :: ·)
    apply firstOfKey_of_seen
    intro y hy
    obtain ⟨hy, hpy⟩ := hmem y (List.mem_cons_of_mem x hy)
    exact ((hp x hx hpx y hy).mp hpy).symm

lemma mem_firstOfKey_iff {xs : List β} {x : β} :
    x ∈ firstOfKey key [] xs ↔ xs.find? (key · == key x) = some x := by
  have hfilter : (firstOfKey key [] xs).filter (key · == key x) =
      (xs.find? (key · == key x)).toList := by
    apply filter_firstOfKey_eq
    intro y _ hy z _
    rw [beq_iff_eq.mp hy, beq_iff_eq, eq_comm]
  calc x ∈ firstOfKey key [] xs
      ↔ x ∈ (firstOfKey key [] xs).filter (key · == key x) := by simp
    _ ↔ xs.find? (key · == key x) = some x := by rw [hfilter, Option.mem_toList]

lemma firstOfKey_nodup (seen : List κ) (xs : List β) :
    ((firstOfKey key seen xs).map key).Nodup ∧ ∀ x ∈ firstOfKey key seen xs, key x ∉ seen := by
  induction xs generalizing seen with
  | nil => exact ⟨.nil, List.forall_mem_nil _⟩
  | cons x xs ih =>
    rw [firstOfKey]
    split
    · exact ih seen
    · next hx =>
      rw [List.contains_iff_mem] at hx
      obtain ⟨hnodup, hseen⟩ := ih (key x :: seen)
      constructor
      · refine List.nodup_cons.mpr ⟨fun hmem => ?_, hnodup⟩
        obtain ⟨y, hy, heq⟩ := List.mem_map.mp hmem
        exact hseen y hy (heq ▸ List.mem_cons_self)
      · refine List.forall_mem_cons.mpr ⟨hx, fun y hy hmem => ?_⟩
        exact hseen y hy (List.mem_cons_of_mem _ hmem)

end

/-- Among items that stay chosen once they are, the first that is not chosen is the first item. -/
lemma find?_filter_not {β : Type} {p g : β → Bool} {xs : List β}
    (h : xs.Pairwise fun x y => p x = true → p y = true → g x = true → g y = true) :
    (xs.filter (!g ·)).find? p = (xs.find? p).filter (!g ·) := by
  induction xs with
  | nil => rfl
  | cons x xs ih =>
    obtain ⟨hx, hxs⟩ := List.pairwise_cons.mp h
    by_cases hp : p x = true
    · rw [List.find?_cons_of_pos hp]
      by_cases hg : g x = true
      · have hnone : (xs.filter (!g ·)).find? p = none := by
          rw [List.find?_eq_none]
          intro y hy hpy
          obtain ⟨hy, hgy⟩ := List.mem_filter.mp hy
          simp [hx y hy hp hpy hg] at hgy
        simp [hg, hnone, Option.filter]
      · simp [hg, hp, Option.filter]
    · rw [List.find?_cons_of_neg hp, ← ih hxs]
      by_cases hg : g x = true
      · simp [hg]
      · simp [hg, hp]

lemma eq_of_pairwise_lt {β : Type} {number : β → Nat} {xs : List β}
    (hxs : xs.Pairwise (number · < number ·)) {x y : β} (hx : x ∈ xs) (hy : y ∈ xs)
    (h : number x = number y) : x = y :=
  List.inj_on_of_nodup_map (List.pairwise_map.mpr (hxs.imp Nat.ne_of_lt)) hx hy h

/-! ### Guards -/

variable {patterns : List Pattern} {scope : List SourceLine} {upto : Nat}

lemma guarded_iff (hscope : scope.Pairwise (·.number < ·.number)) :
    guarded patterns scope upto = true ↔
      ∃ l ∈ scope, l.number ≤ upto ∧ l.shows patterns = true := by
  induction scope with
  | nil => simp [guarded]
  | cons l ls ih =>
    obtain ⟨hl, hls⟩ := List.pairwise_cons.mp hscope
    by_cases hle : l.number ≤ upto
    · have hcons : guarded patterns (l :: ls) upto =
          (l.shows patterns || guarded patterns ls upto) := by
        simp [guarded, hle, SourceLine.shows]
      rw [hcons, Bool.or_eq_true, ih hls]
      simp [hle]
    · have hbeyond : ∀ l' ∈ ls, ¬l'.number ≤ upto := fun l' hl' => by have := hl l' hl'; omega
      constructor
      · simp [guarded, hle]
      · rintro ⟨l', hl', hupto, -⟩
        rcases List.mem_cons.mp hl' with rfl | hl'
        · exact absurd hupto hle
        · exact absurd hupto (hbeyond l' hl')

lemma guarded_mono (hscope : scope.Pairwise (·.number < ·.number)) {upto' : Nat}
    (hle : upto ≤ upto') (h : guarded patterns scope upto = true) :
    guarded patterns scope upto' = true := by
  obtain ⟨l, hl, hupto, hshows⟩ := (guarded_iff hscope).mp h
  exact (guarded_iff hscope).mpr ⟨l, hl, Nat.le_trans hupto hle, hshows⟩

/-! ### Scopes -/

lemma innermost?_mem {fs : List FunctionSpan} {line : Nat} {f : FunctionSpan}
    (h : FunctionSpan.innermost? fs line = some f) : f ∈ fs ∧ f.contains line = true := by
  suffices hfold : ∀ best : Option FunctionSpan, fs.foldl (fun best f =>
      if f.contains line && best.all (f.length < ·.length) then some f else best) best = some f →
        best = some f ∨ f ∈ fs ∧ f.contains line = true by
    rcases hfold none h with hnone | hmem
    · cases hnone
    · exact hmem
  clear h
  induction fs with
  | nil => exact fun best h => .inl h
  | cons g fs ih =>
    intro best h
    rw [List.foldl_cons] at h
    rcases ih _ h with hbest | ⟨hmem, hcontains⟩
    · split at hbest
      · next hg =>
        obtain rfl := Option.some.inj hbest
        exact .inr ⟨List.mem_cons_self, (Bool.and_eq_true_iff.mp hg).1⟩
      · exact .inl hbest
    · exact .inr ⟨List.mem_cons_of_mem g hmem, hcontains⟩

lemma innermost?_eq_none {fs : List FunctionSpan} {line : Nat} :
    FunctionSpan.innermost? fs line = none ↔ ∀ f ∈ fs, f.contains line = false := by
  constructor
  · have hsome : ∀ (fs : List FunctionSpan) (g : FunctionSpan), (fs.foldl (fun best f =>
        if f.contains line && best.all (f.length < ·.length) then some f else best)
          (some g)).isSome := by
      intro fs
      induction fs with
      | nil => exact fun _ => rfl
      | cons f fs ih =>
        intro g
        rw [List.foldl_cons]
        split
        · exact ih f
        · exact ih g
    unfold FunctionSpan.innermost?
    induction fs with
    | nil => exact fun _ => List.forall_mem_nil _
    | cons f fs ih =>
      intro h
      by_cases hf : f.contains line = true
      · rw [List.foldl_cons, if_pos (by simp [hf])] at h
        exact absurd (h ▸ hsome fs f) (by simp)
      · rw [List.foldl_cons, if_neg (by simp [hf])] at h
        exact List.forall_mem_cons.mpr ⟨by simpa using hf, ih h⟩
  · intro h
    cases hinner : FunctionSpan.innermost? fs line with
    | none => rfl
    | some f =>
      obtain ⟨hf, hcontains⟩ := innermost?_mem hinner
      simp [h f hf] at hcontains

variable {i : Inspection}

lemma isOutside_iff {line : Nat} :
    i.isOutside line = true ↔ ∀ f ∈ i.functions, f.contains line = false := by
  rw [Inspection.isOutside, Option.isNone_iff_eq_none, Inspection.functionAt?, innermost?_eq_none]

lemma scope_congr {m n : Nat} (h : i.functionAt? m = i.functionAt? n) : i.scope m = i.scope n := by
  unfold Inspection.scope
  rw [h]

lemma scopeKey_eq_iff (hi : i.functions.Pairwise (·.startLine < ·.startLine)) {m n : Nat} :
    i.scopeKey m = i.scopeKey n ↔ i.functionAt? m = i.functionAt? n := by
  constructor
  · intro h
    unfold Inspection.scopeKey at h
    cases hm : i.functionAt? m with
    | none =>
      rw [hm] at h
      exact (Option.map_eq_none_iff.mp h.symm).symm
    | some f =>
      rw [hm] at h
      obtain ⟨g, hn, hstart⟩ := Option.map_eq_some_iff.mp h.symm
      rw [hn, eq_of_pairwise_lt hi (innermost?_mem hn).1 (innermost?_mem hm).1 hstart]
  · intro h
    unfold Inspection.scopeKey
    rw [h]

end Proofs

end SourceGrade
