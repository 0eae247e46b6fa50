import Mathlib.Order.Bounds.Basic
import SourceGrade.Proofs.FunctionLines
import SourceGrade.Proofs.GuardedScopes
import SourceGrade.Proofs.HazardLines

/-!
# Repeated dereferences

Each function is searched for dereferences by itself, and it reports a name once. The lines of a
function are also lines of the functions around it, so an issue comes twice exactly if two functions
report one name on one line.
-/

namespace SourceGrade

namespace Dereference

/-- A name is reported for a scope: a line is the first on which a member of it is used after it may
be null, and nothing in the scope up to this line shows that it is not. -/
structure Reports (i : Inspection) (s : Scope) (name : Text) (l : SourceLine) : Prop where
  not_safe : name ∉ i.source.language.safeGlobals
  first : ∃ since, IsLeast {n | ⟨name, n⟩ ∈ s.candidates} since ∧
    s.statements.find? (fun l => since ≤ l.number &&
      (memberAccess i.source.language name).occursIn l.code) = some l
  unguarded : guarded (guards name) s.statements l.number = false

/-- Two functions report one name on one line. -/
def ShareReport (i : Inspection) (f g : FunctionSpan) : Prop :=
  ∃ name l, Reports i (scopeOf i f) name l ∧ Reports i (scopeOf i g) name l

/-- The lines of a scope are in order, and no candidate comes before one of its name that may be
null earlier. -/
structure Scope.Regular (s : Scope) : Prop where
  statements : s.statements.Pairwise (·.number < ·.number)
  candidates : s.candidates.Pairwise fun c c' => c.name = c'.name → c.since ≤ c'.since

/-- The names that are reported for a scope, with the lines of their uses. -/
def reported (i : Inspection) (s : Scope) : List (Text × SourceLine) :=
  firstOfKey (·.1) [] (s.candidates.filterMap (use? i s))

end Dereference

namespace Proofs

open Dereference (Scope Candidate)

variable {i : Inspection} {s : Scope}

/-! ### Candidates -/

lemma localsFrom_names (seen : List Text) (ls : List SourceLine) :
    (Dereference.localsFrom seen ls).Pairwise (·.name ≠ ·.name) ∧
      ∀ c ∈ Dereference.localsFrom seen ls, c.name ∉ seen ∧ ∃ l ∈ ls, c.since = l.number + 1 := by
  induction ls generalizing seen with
  | nil => exact ⟨.nil, List.forall_mem_nil _⟩
  | cons l ls ih =>
    have hskip : ∀ c ∈ Dereference.localsFrom seen ls,
        c.name ∉ seen ∧ ∃ l' ∈ l :: ls, c.since = l'.number + 1 := by
      intro c hc
      obtain ⟨hseen, l', hl', hsince⟩ := (ih seen).2 c hc
      exact ⟨hseen, l', List.mem_cons_of_mem l hl', hsince⟩
    rw [Dereference.localsFrom]
    split
    · exact ⟨(ih seen).1, hskip⟩
    · next m _ =>
      dsimp only
      split
      · exact ⟨(ih seen).1, hskip⟩
      · next hseen =>
        rw [List.contains_iff_mem] at hseen
        split
        · obtain ⟨hpairwise, hrest⟩ := ih (m.textOf .name :: seen)
          constructor
          · refine List.pairwise_cons.mpr ⟨fun c hc heq => ?_, hpairwise⟩
            exact (hrest c hc).1 (heq ▸ List.mem_cons_self)
          · refine List.forall_mem_cons.mpr ⟨⟨hseen, l, List.mem_cons_self, rfl⟩, fun c hc => ?_⟩
            obtain ⟨hname, l', hl', hsince⟩ := hrest c hc
            exact ⟨fun h => hname (List.mem_cons_of_mem _ h), l', List.mem_cons_of_mem l hl',
              hsince⟩
        · exact ⟨(ih seen).1, hskip⟩

lemma scopes_regular (hi : i.statements.Pairwise (·.number < ·.number))
    (hs : s ∈ Dereference.scopes i) : s.Regular := by
  have hlocals : ∀ ls, (Dereference.localsFrom [] ls).Pairwise fun c c' =>
      c.name = c'.name → c.since ≤ c'.since :=
    fun ls => (localsFrom_names [] ls).1.imp fun hne heq => absurd heq hne
  unfold Dereference.scopes at hs
  split at hs
  · obtain rfl := List.mem_singleton.mp hs
    exact ⟨hi, hlocals _⟩
  · obtain ⟨f, -, rfl⟩ := List.mem_map.mp hs
    refine ⟨hi.filter _, List.pairwise_append.mpr ⟨?_, hlocals _, ?_⟩⟩
    · exact List.pairwise_map.mpr (List.pairwise_of_forall fun _ _ _ => le_rfl)
    · intro c hc c' hc' _
      obtain ⟨name, -, rfl⟩ := List.mem_map.mp hc
      obtain ⟨-, l, hl, hsince⟩ := (localsFrom_names [] _).2 c' hc'
      have hcontains : f.contains l.number = true := (List.mem_filter.mp hl).2
      unfold FunctionSpan.contains at hcontains
      rw [Bool.and_eq_true, decide_eq_true_iff] at hcontains
      change f.startLine + 1 ≤ c'.since
      omega

/-! ### Uses -/

lemma use?_eq_some {c : Candidate} {name : Text} {l : SourceLine} :
    Dereference.use? i s c = some (name, l) ↔
      c.name = name ∧ c.name ∉ i.source.language.safeGlobals ∧
        s.statements.find? (fun l => c.since ≤ l.number &&
          (Dereference.memberAccess i.source.language c.name).occursIn l.code) = some l ∧
        guarded (Dereference.guards c.name) s.statements l.number = false := by
  unfold Dereference.use?
  by_cases hsafe : c.name ∈ i.source.language.safeGlobals
  · simp [hsafe]
  · rw [if_neg (by simpa using hsafe), Option.bind_eq_bind, Option.bind_eq_some_iff]
    constructor
    · rintro ⟨l', hl', h⟩
      split at h
      · cases h
      · next hguarded =>
        obtain ⟨rfl, rfl⟩ := Prod.mk.inj (Option.some.inj h)
        exact ⟨rfl, hsafe, hl', by simpa using hguarded⟩
    · rintro ⟨rfl, -, hl, hguarded⟩
      exact ⟨l, hl, by simp [hguarded]⟩

/-- What is found first from one line on is not after what is found first from a later line on. -/
lemma find?_since_le {ls : List SourceLine} (hls : ls.Pairwise (·.number < ·.number))
    {p : SourceLine → Bool} {since since' : Nat} (hle : since ≤ since') {l' : SourceLine}
    (h : ls.find? (fun l => since' ≤ l.number && p l) = some l') :
    ∃ l, ls.find? (fun l => since ≤ l.number && p l) = some l ∧ l.number ≤ l'.number := by
  have hmem := List.mem_of_find?_eq_some h
  have hfound := List.find?_some h
  rw [Bool.and_eq_true, decide_eq_true_iff] at hfound
  have hsome : (ls.find? fun l => since ≤ l.number && p l).isSome := by
    refine List.find?_isSome.mpr ⟨l', hmem, ?_⟩
    rw [hfound.2, Bool.and_true, decide_eq_true_iff]
    exact hle.trans hfound.1
  obtain ⟨l, hl⟩ := Option.isSome_iff_exists.mp hsome
  refine ⟨l, hl, ?_⟩
  obtain ⟨-, before, after, rfl, hbefore⟩ := List.find?_eq_some_iff_append.mp hl
  rcases List.mem_append.mp hmem with hmem | hmem
  · have hnot := hbefore l' hmem
    rw [hfound.2, Bool.and_true, Bool.not_eq_true', decide_eq_false_iff_not] at hnot
    exact absurd (hle.trans hfound.1) hnot
  · rcases List.mem_cons.mp hmem with rfl | hmem
    · exact le_rfl
    · have hafter := (List.pairwise_append.mp hls).2.1
      exact Nat.le_of_lt ((List.pairwise_cons.mp hafter).1 l' hmem)

lemma use?_eq_none_of_le (hs : s.statements.Pairwise (·.number < ·.number)) {c c' : Candidate}
    (hname : c.name = c'.name) (hsince : c.since ≤ c'.since)
    (h : Dereference.use? i s c = none) : Dereference.use? i s c' = none := by
  rw [Option.eq_none_iff_forall_ne_some] at h ⊢
  rintro ⟨name, l'⟩ huse
  obtain ⟨-, hsafe, hfirst, hunguarded⟩ := use?_eq_some.mp huse
  rw [← hname] at hsafe hfirst hunguarded
  obtain ⟨l, hl, hle⟩ := find?_since_le hs hsince hfirst
  have hguarded : guarded (Dereference.guards c.name) s.statements l.number = false := by
    rw [← Bool.not_eq_true] at hunguarded ⊢
    exact fun hg => hunguarded (guarded_mono hs hle hg)
  exact h (c.name, l) (use?_eq_some.mpr ⟨rfl, hsafe, hl, hguarded⟩)

lemma find?_uses (hs : s.statements.Pairwise (·.number < ·.number)) {cs : List Candidate}
    (hcs : cs.Pairwise fun c c' => c.name = c'.name → c.since ≤ c'.since) (name : Text) :
    (cs.filterMap (Dereference.use? i s)).find? (·.1 == name) =
      (cs.find? (·.name == name)).bind (Dereference.use? i s) := by
  induction cs with
  | nil => rfl
  | cons c cs ih =>
    obtain ⟨hc, hrest⟩ := List.pairwise_cons.mp hcs
    by_cases hname : c.name = name
    · have hhead : (c :: cs).find? (·.name == name) = some c :=
        List.find?_cons_of_pos (beq_iff_eq.mpr hname)
      rw [hhead, Option.bind_some]
      cases huse : Dereference.use? i s c with
      | some x =>
        obtain ⟨name', l⟩ := x
        have hx : name' = name := (use?_eq_some.mp huse).1.symm.trans hname
        rw [List.filterMap_cons_some huse]
        exact List.find?_cons_of_pos (beq_iff_eq.mpr hx)
      | none =>
        rw [List.filterMap_cons_none huse, List.find?_eq_none]
        rintro ⟨name', l⟩ hmem heq
        obtain ⟨c', hc', huse'⟩ := List.mem_filterMap.mp hmem
        have hname' : c.name = c'.name := by
          rw [hname, (use?_eq_some.mp huse').1]
          exact (beq_iff_eq.mp heq).symm
        rw [use?_eq_none_of_le hs hname' (hc c' hc' hname') huse] at huse'
        cases huse'
    · have htail : (c :: cs).find? (·.name == name) = cs.find? (·.name == name) :=
        List.find?_cons_of_neg (by simpa using hname)
      rw [htail, ← ih hrest]
      cases huse : Dereference.use? i s c with
      | none => rw [List.filterMap_cons_none huse]
      | some x =>
        obtain ⟨name', l⟩ := x
        have hx : name' ≠ name := fun h => hname ((use?_eq_some.mp huse).1.trans h)
        rw [List.filterMap_cons_some huse, List.find?_cons_of_neg (by simpa using hx)]

lemma isLeast_since {cs : List Candidate}
    (hcs : cs.Pairwise fun c c' => c.name = c'.name → c.since ≤ c'.since) {name : Text}
    {c : Candidate} (h : cs.find? (·.name == name) = some c) :
    c.name = name ∧ IsLeast {n | ⟨name, n⟩ ∈ cs} c.since := by
  obtain ⟨hname, before, after, rfl, hbefore⟩ := List.find?_eq_some_iff_append.mp h
  obtain rfl := beq_iff_eq.mp hname
  refine ⟨rfl, List.mem_append_right _ List.mem_cons_self, fun n hn => ?_⟩
  rcases List.mem_append.mp hn with hn | hn
  · exact absurd (hbefore _ hn) (by simp)
  · rcases List.mem_cons.mp hn with heq | hn
    · exact (congrArg Candidate.since heq).ge
    · have hafter := (List.pairwise_append.mp hcs).2.1
      exact (List.pairwise_cons.mp hafter).1 _ hn rfl

/-- Exactly the first uses of names are reported that may be null and are not guarded. -/
lemma mem_reported_iff (hs : s.Regular) {name : Text} {l : SourceLine} :
    (name, l) ∈ Dereference.reported i s ↔ Dereference.Reports i s name l := by
  rw [Dereference.reported, mem_firstOfKey_iff, find?_uses hs.statements hs.candidates,
    Option.bind_eq_some_iff]
  constructor
  · rintro ⟨c, hc, huse⟩
    obtain ⟨rfl, hsafe, hfirst, hguarded⟩ := use?_eq_some.mp huse
    exact ⟨hsafe, ⟨c.since, (isLeast_since hs.candidates hc).2, hfirst⟩, hguarded⟩
  · rintro ⟨hsafe, ⟨since, hsince, hfirst⟩, hguarded⟩
    have hsome : (s.candidates.find? (·.name == name)).isSome :=
      List.find?_isSome.mpr ⟨_, hsince.1, beq_self_eq_true name⟩
    obtain ⟨c, hc⟩ := Option.isSome_iff_exists.mp hsome
    obtain ⟨rfl, hleast⟩ := isLeast_since hs.candidates hc
    obtain rfl := IsLeast.unique hsince hleast
    exact ⟨c, hc, use?_eq_some.mpr ⟨rfl, hsafe, hfirst, hguarded⟩⟩

lemma reported_nodup (i : Inspection) (s : Scope) : (Dereference.reported i s).Nodup :=
  (firstOfKey_nodup [] _).1.of_map

/-! ### Issues -/

lemma report_inj {ls : List SourceLine} (hls : ls.Pairwise (·.number < ·.number))
    {name name' : Text} {l l' : SourceLine} (hl : l ∈ ls) (hl' : l' ∈ ls)
    (h : (Dereference.issueOf i name l).report = (Dereference.issueOf i name' l').report) :
    (name, l) = (name', l') := by
  obtain ⟨hline, hdescription⟩ := Prod.mk.inj h
  obtain rfl : l = l' :=
    eq_of_pairwise_lt hls hl hl' (Int.ofNat.inj (Option.some.inj hline))
  have hname := List.append_cancel_right (List.append_cancel_right hdescription)
  rw [List.append_cancel_left hname]

lemma reported_mem {x : Text × SourceLine} (h : x ∈ Dereference.reported i s) :
    x.2 ∈ s.statements := by
  obtain ⟨c, -, huse⟩ := List.mem_filterMap.mp ((firstOfKey_sublist _ _ _).subset h)
  exact use?_mem huse

lemma scopes_statements (hs : s ∈ Dereference.scopes i) : s.statements ⊆ i.statements := by
  unfold Dereference.scopes at hs
  split at hs
  · obtain rfl := List.mem_singleton.mp hs
    exact List.Subset.refl _
  · obtain ⟨f, -, rfl⟩ := List.mem_map.mp hs
    exact List.filter_subset_self _

lemma issues_nodup_iff (hi : i.statements.Pairwise (·.number < ·.number))
    (hnull : i.source.language.nullLiterals.isEmpty = false) :
    ((Dereference.issues i).map (·.report)).Nodup ↔ (Dereference.scopes i).Pairwise fun s s' =>
      ∀ name l, ¬(Dereference.Reports i s name l ∧ Dereference.Reports i s' name l) := by
  have hissues : (Dereference.issues i).map (·.report) = (Dereference.scopes i).flatMap fun s =>
      (Dereference.reported i s).map fun x => (Dereference.issueOf i x.1 x.2).report := by
    unfold Dereference.issues
    rw [hnull, if_neg (by simp), List.map_flatMap]
    simp only [List.map_map]
    rfl
  have hinj : ∀ s ∈ Dereference.scopes i, ∀ s' ∈ Dereference.scopes i,
      ∀ x ∈ Dereference.reported i s, ∀ y ∈ Dereference.reported i s',
        (Dereference.issueOf i x.1 x.2).report = (Dereference.issueOf i y.1 y.2).report →
          x = y := fun s hs s' hs' x hx y hy h =>
    report_inj hi (scopes_statements hs (reported_mem hx))
      (scopes_statements hs' (reported_mem hy)) h
  rw [hissues, List.nodup_flatMap]
  constructor
  · rintro ⟨-, hdisjoint⟩
    refine hdisjoint.imp_of_mem fun {s s'} hs hs' hdisj name l ⟨h, h'⟩ => ?_
    have hmem := (mem_reported_iff (scopes_regular hi hs)).mpr h
    have hmem' := (mem_reported_iff (scopes_regular hi hs')).mpr h'
    exact hdisj (List.mem_map_of_mem hmem) (List.mem_map_of_mem hmem')
  · intro hpairwise
    refine ⟨fun s hs => ?_, hpairwise.imp_of_mem fun {s s'} hs hs' hnot => ?_⟩
    · exact (reported_nodup i s).map_on fun x hx y hy => hinj s hs s hs x hx y hy
    · intro report hreport hreport'
      obtain ⟨⟨name, l⟩, hx, rfl⟩ := List.mem_map.mp hreport
      obtain ⟨y, hy, heq⟩ := List.mem_map.mp hreport'
      obtain rfl := hinj s' hs' s hs y hy _ hx heq
      exact hnot name l ⟨(mem_reported_iff (scopes_regular hi hs)).mp hx,
        (mem_reported_iff (scopes_regular hi hs')).mp hy⟩

lemma mem_issues_iff (hi : i.statements.Pairwise (·.number < ·.number)) {x : Issue} :
    x ∈ Dereference.issues i ↔ i.source.language.nullLiterals.isEmpty = false ∧
      ∃ s ∈ Dereference.scopes i, ∃ name l, Dereference.Reports i s name l ∧
        x = Dereference.issueOf i name l := by
  unfold Dereference.issues
  by_cases hnull : i.source.language.nullLiterals.isEmpty = true
  · simp [hnull]
  · rw [if_neg hnull, List.mem_flatMap]
    refine Iff.trans ?_ (and_iff_right (Bool.eq_false_of_not_eq_true hnull)).symm
    refine exists_congr fun s => and_congr_right fun hs => ?_
    constructor
    · intro h
      obtain ⟨⟨name, l⟩, hmem, rfl⟩ := List.mem_map.mp h
      exact ⟨name, l, (mem_reported_iff (scopes_regular hi hs)).mp hmem, rfl⟩
    · rintro ⟨name, l, hreports, rfl⟩
      exact List.mem_map.mpr
        ⟨(name, l), (mem_reported_iff (scopes_regular hi hs)).mpr hreports, rfl⟩

/-- The issues of dereferences in a text are those of the uses that its scopes report. Two of them
have one line and one description exactly if two functions report one name on one line. So none do
if no line lies in two functions. -/
theorem ofText_dereference_nodup_iff (l : Language) (t : Text) (blocks : BlockMap) :
    let s := Source.ofText l t
    let i : Inspection := ⟨s, blocks, s.functions⟩
    (∀ x, x ∈ Dereference.issues i ↔ s.language.nullLiterals.isEmpty = false ∧
        ∃ scope ∈ Dereference.scopes i, ∃ name l, Dereference.Reports i scope name l ∧
          x = Dereference.issueOf i name l) ∧
      (((Dereference.issues i).map (·.report)).Nodup ↔ s.language.nullLiterals.isEmpty = true ∨
        s.functions.Pairwise fun f g => ¬Dereference.ShareReport i f g) ∧
      ((s.functions.Pairwise fun f g => ∀ n, ¬(f.contains n = true ∧ g.contains n = true)) →
        ((Dereference.issues i).map (·.report)).Nodup) := by
  intro s i
  have hi : i.statements.Pairwise (·.number < ·.number) :=
    (ofText_pairwise l t).sublist (statements_sublist i)
  have hnodup : ((Dereference.issues i).map (·.report)).Nodup ↔
      s.language.nullLiterals.isEmpty = true ∨
        s.functions.Pairwise fun f g => ¬Dereference.ShareReport i f g := by
    by_cases hnull : s.language.nullLiterals.isEmpty = true
    · have hnone : Dereference.issues i = [] := if_pos hnull
      simp [hnone, hnull]
    · rw [issues_nodup_iff hi (Bool.eq_false_of_not_eq_true hnull), or_iff_right hnull]
      unfold Dereference.scopes
      have hfunctions : i.functions = s.functions := rfl
      cases hfs : s.functions with
      | nil => simp [hfunctions, hfs]
      | cons f fs =>
        rw [hfunctions, hfs]
        simp only [List.pairwise_map, Dereference.ShareReport, not_exists]
  refine ⟨fun x => mem_issues_iff hi, hnodup, fun hdisjoint => hnodup.mpr (.inr ?_)⟩
  refine hdisjoint.imp fun {f g} hno ⟨name, l, hf, hg⟩ => hno l.number ?_
  have hcontains : ∀ {f : FunctionSpan}, Dereference.Reports i (Dereference.scopeOf i f) name l →
      f.contains l.number = true := by
    intro f h
    obtain ⟨since, -, hfirst⟩ := h.first
    exact (List.mem_filter.mp (List.mem_of_find?_eq_some hfirst)).2
  exact ⟨hcontains hf, hcontains hg⟩

/-- Two functions, one after the other, that use their parameters. -/
def siblings : Text := "def f(x=None):\n    return x.name\ndef g(x=None):\n    return x.name"

theorem ofText_dereference_nodup_siblings :
    let s := Source.ofText (Language.resolve "python") siblings
    let i : Inspection := ⟨s, ⟨List.replicate 4 [.other]⟩, s.functions⟩
    (Dereference.issues i).map (·.line?) = [some 2, some 4] ∧
      ((Dereference.issues i).map (·.report)).Nodup := by
  intro s i
  obtain ⟨hfunctions, hlines⟩ :
      s.functions.map (fun f => (f.startLine, f.endLine)) = [(1, 2), (3, 4)] ∧
        (Dereference.issues i).map (·.line?) = [some 2, some 4] := by decide +kernel
  have hsplit : (s.functions.map fun f => (f.startLine, f.endLine)).Pairwise
      fun a b => a.2 < b.1 := by
    rw [hfunctions]
    simp
  refine ⟨hlines, (ofText_dereference_nodup_iff _ siblings _).2.2 ?_⟩
  refine (List.pairwise_map.mp hsplit).imp fun {f g} hlt n ⟨hf, hg⟩ => ?_
  simp only [FunctionSpan.contains, Bool.and_eq_true, decide_eq_true_iff] at hf hg
  omega

/-- A function in another one, with a parameter of the same name. -/
def closure : Text :=
  "def outer(x=None):\n    def inner(x=None):\n        return x.name\n    return inner"

/-- The use of the inner parameter is reported for both functions. -/
theorem dereference_closure_twice :
    let s := Source.ofText (Language.resolve "python") closure
    let blocks : BlockMap := ⟨[[.other], [.other, .other], [.other, .other], [.other]]⟩
    let i : Inspection := ⟨s, blocks, s.functions⟩
    let report : Option Int × Text := (some 3, "'x' is dereferenced without a null check")
    BlockMap.ofSource s = .ok i.blocks ∧ (Dereference.issues i).map (·.report) = [report, report] ∧
      ¬((Dereference.issues i).map (·.report)).Nodup := by
  intro s blocks i report
  obtain ⟨hblocks, hissues⟩ : BlockMap.ofSource s = .ok i.blocks ∧
      (Dereference.issues i).map (·.report) = [report, report] := by decide +kernel
  refine ⟨hblocks, hissues, ?_⟩
  rw [hissues]
  exact List.not_nodup_pair report

end Proofs

end SourceGrade
