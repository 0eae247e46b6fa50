import SourceGrade.Proofs.FunctionLines
import SourceGrade.Proofs.GuardedScopes
import SourceGrade.Proofs.HazardLines
import SourceGrade.Proofs.ReportKeys
import SourceGrade.Proofs.SlotTexts

/-!
# First occurrences

Divisors and indices are reported once in a scope. What counts is the first occurrence in the scope:
guards are looked for up to the line of an occurrence, so a guard of the first one is found for all
that come after it, and a first one without a guard is reported.
-/

namespace SourceGrade

/-- A construct that is reported unless its scope has a guard of it up to its line. -/
structure Occurrence where
  line : SourceLine
  /-- What a scope is reported for once: the divisor, or the receiver and the index. -/
  subject : List Text
  description : Text
  guards : List Pattern

namespace Occurrence

variable (i : Inspection)

def isGuarded (o : Occurrence) : Bool := guarded o.guards (i.scope o.line.number) o.line.number

/-- Whether two occurrences have one subject and one innermost function, or none. -/
def sameKey (o o' : Occurrence) : Bool :=
  decide (i.functionAt? o.line.number = i.functionAt? o'.line.number) && o.subject == o'.subject

/-- Whether an issue says what an occurrence says, on a line with the same innermost function. -/
def isAbout (o : Occurrence) (x : Issue) : Bool :=
  x.description == o.description &&
    x.line?.any fun n => decide (i.functionAt? n.toNat = i.functionAt? o.line.number)

end Occurrence

/-- Some occurrences are reported once in their scopes, at the first of each key. -/
structure Inspection.ReportsFirst (i : Inspection) (os : List Occurrence) (issues : List Issue) :
    Prop where
  about : ∀ x ∈ issues, ∃ o ∈ os, o.isAbout i x = true
  /-- There is one issue for a key, on the line of its first occurrence, unless that is guarded. -/
  reported : ∀ o ∈ os, ∃ first, os.find? (o.sameKey i) = some first ∧
    (issues.filter (o.isAbout i)).map (·.line?) =
      if first.isGuarded i then [] else [some (first.line.number : Int)]
  guarded_later : os.Pairwise fun o o' =>
    o.sameKey i o' = true → o.isGuarded i = true → o'.isGuarded i = true

/-- Items with the occurrences, the keys and the issues that they stand for. Items of one key have
one subject, and their issues say what their occurrences say. -/
structure Inspection.Keyed {β κ : Type} (i : Inspection) (xs : List β)
    (occurrence : β → Occurrence) (key : β → κ) (issue : β → Issue) : Prop where
  lines : xs.Pairwise fun x y => (occurrence x).line.number ≤ (occurrence y).line.number
  sameKey_iff : ∀ x ∈ xs, ∀ y ∈ xs,
    ((occurrence x).sameKey i (occurrence y) = true ↔ key x = key y)
  description_iff : ∀ x ∈ xs, ∀ y ∈ xs,
    ((occurrence x).description = (occurrence y).description ↔
      (occurrence x).subject = (occurrence y).subject)
  guards_eq : ∀ x ∈ xs, ∀ y ∈ xs, (occurrence x).subject = (occurrence y).subject →
    (occurrence x).guards = (occurrence y).guards
  issue_eq : ∀ x, (issue x).description = (occurrence x).description ∧
    (issue x).line? = some ((occurrence x).line.number : Int)

namespace Division

def zeroDescription : Text := "Division by literal zero always fails at runtime"

def uncheckedDescription (divisor : Text) : Text :=
  "Unchecked division by '" ++ divisor ++ "' fails when it is zero"

/-- A division by a divisor on a line. -/
def occurrenceOf (l : SourceLine) (divisor : Text) : Occurrence :=
  ⟨l, [divisor], uncheckedDescription divisor, (terms divisor).flatMap guards⟩

/-- The division of a match, when its divisor is no number and has names that guards can name. -/
def occurrence? (l : SourceLine) (m : Match) : Option Occurrence :=
  if regexContext.occursIn (l.code.take (((m.capture? .operator).map (·.start)).getD 0)) then none
  else
    (divisor? l.code m).bind fun divisor =>
      if LiteralValue.ofText divisor = .unknown ∧ (terms divisor).isEmpty = false then
        some (occurrenceOf l divisor)
      else none

/-- The divisions of a unit that are reported unless they are guarded, in order. -/
def occurrences (i : Inspection) : List Occurrence :=
  (operations i).filterMap fun (l, m) => occurrence? l m

/-- What is found at an occurrence. -/
def findingOf (o : Occurrence) : Finding := ⟨o.line, o.subject.headD [], o.description⟩

end Division

namespace Indexing

/-- An access that is reported unless it is guarded. -/
def Access.occurrence (a : Access) : Occurrence :=
  ⟨a.line, [a.receiver, a.index ++ a.offset], describe a, guards a⟩

/-- The texts of an access are a name with points, a name, and a signed number or nothing. -/
structure Access.Shaped (a : Access) : Prop where
  receiver : ∀ c ∈ a.receiver, Pattern.isIdentifierChar c = true ∨ c = '.'
  index : ∀ c ∈ a.index, Pattern.isIdentifierChar c = true
  sign : ∀ c ∈ a.offset.head?, c = '-' ∨ c = '+'
  offset : '\'' ∉ a.offset

/-- Whether an access is to something that is neither known to be safe nor a mapping. -/
def isIndexing (i : Inspection) (a : Access) : Bool :=
  isCandidate i.source.language a && !isMapping i a.receiver (i.scope a.line.number)

/-- The accesses of a unit that are reported unless they are guarded, in order. -/
def occurrences (i : Inspection) : List Occurrence :=
  ((i.statements.flatMap accessesOn).filter (isIndexing i)).map (·.occurrence)

end Indexing

namespace Proofs

open Indexing (Access)

variable {i : Inspection}

/-! ### Occurrences under keys -/

lemma sameKey_iff {o o' : Occurrence} : o.sameKey i o' = true ↔
    i.functionAt? o.line.number = i.functionAt? o'.line.number ∧ o.subject = o'.subject := by
  unfold Occurrence.sameKey
  rw [Bool.and_eq_true, decide_eq_true_iff, beq_iff_eq]

lemma sameKey_self (o : Occurrence) : o.sameKey i o = true := sameKey_iff.mpr ⟨rfl, rfl⟩

lemma guarded_sameKey (hi : i.statements.Pairwise (·.number < ·.number)) {o o' : Occurrence}
    (hguards : o.subject = o'.subject → o.guards = o'.guards)
    (hle : o.line.number ≤ o'.line.number) (hkey : o.sameKey i o' = true)
    (h : o.isGuarded i = true) : o'.isGuarded i = true := by
  obtain ⟨hscope, hsubject⟩ := sameKey_iff.mp hkey
  have hscope := scope_congr hscope
  have hsorted : (i.scope o.line.number).Pairwise (·.number < ·.number) := by
    unfold Inspection.scope
    split
    · exact hi
    · exact hi.filter _
  unfold Occurrence.isGuarded at h ⊢
  rw [← hguards hsubject, ← hscope]
  exact guarded_mono hsorted hle h

section

variable {β κ : Type} {xs : List β} {occurrence : β → Occurrence} {key : β → κ}
  {issue : β → Issue}

lemma isAbout_issue (h : i.Keyed xs occurrence key issue) {x y : β} (hx : x ∈ xs) (hy : y ∈ xs) :
    (occurrence x).isAbout i (issue y) = (occurrence x).sameKey i (occurrence y) := by
  obtain ⟨hdescription, hline⟩ := h.issue_eq y
  unfold Occurrence.isAbout
  rw [hdescription, hline, Bool.eq_iff_iff, sameKey_iff, Bool.and_eq_true, beq_iff_eq, eq_comm,
    h.description_iff x hx y hy, Option.any_some, Int.toNat_natCast, decide_eq_true_iff, and_comm,
    eq_comm (a := i.functionAt? (occurrence y).line.number)]

lemma keyed_guarded_later (h : i.Keyed xs occurrence key issue)
    (hi : i.statements.Pairwise (·.number < ·.number)) :
    xs.Pairwise fun x y => (occurrence x).sameKey i (occurrence y) = true →
      (occurrence x).isGuarded i = true → (occurrence y).isGuarded i = true := by
  refine h.lines.imp_of_mem fun {x y} hx hy hle => ?_
  exact guarded_sameKey hi (h.guards_eq x hx y hy) hle

variable [BEq κ] [LawfulBEq κ]

/-- The first item without a guard is kept of a key, and it is the first item of the key or there is
none: after a guard all items are guarded. -/
lemma filter_firstOfKey_sameKey (h : i.Keyed xs occurrence key issue)
    (hi : i.statements.Pairwise (·.number < ·.number)) {x : β} (hx : x ∈ xs) :
    (firstOfKey key [] (xs.filter fun y => !(occurrence y).isGuarded i)).filter
        (fun y => (occurrence x).sameKey i (occurrence y)) =
      ((xs.find? fun y => (occurrence x).sameKey i (occurrence y)).filter
        fun y => !(occurrence y).isGuarded i).toList := by
  have hstays : xs.Pairwise fun y z => (occurrence x).sameKey i (occurrence y) = true →
      (occurrence x).sameKey i (occurrence z) = true →
        (occurrence y).isGuarded i = true → (occurrence z).isGuarded i = true := by
    refine (keyed_guarded_later h hi).imp_of_mem fun {y z} hy hz hlater hxy hxz => hlater ?_
    rw [h.sameKey_iff y hy z hz, ← (h.sameKey_iff x hx y hy).mp hxy,
      (h.sameKey_iff x hx z hz).mp hxz]
  rw [← find?_filter_not hstays]
  apply filter_firstOfKey_eq
  intro y hy hxy z hz
  rw [h.sameKey_iff x hx z (List.mem_of_mem_filter hz),
    (h.sameKey_iff x hx y (List.mem_of_mem_filter hy)).mp hxy]

theorem reportsFirst_of_firstOfKey (h : i.Keyed xs occurrence key issue)
    (hi : i.statements.Pairwise (·.number < ·.number)) :
    i.ReportsFirst (xs.map occurrence)
      ((firstOfKey key [] (xs.filter fun x => !(occurrence x).isGuarded i)).map issue) := by
  have hkept : ∀ {y}, y ∈ firstOfKey key [] (xs.filter fun x => !(occurrence x).isGuarded i) →
      y ∈ xs := fun hy => List.mem_of_mem_filter ((firstOfKey_sublist key [] _).subset hy)
  refine ⟨?_, ?_, List.pairwise_map.mpr (keyed_guarded_later h hi)⟩
  · intro issue' hmem
    obtain ⟨y, hy, rfl⟩ := List.mem_map.mp hmem
    refine ⟨occurrence y, List.mem_map_of_mem (hkept hy), ?_⟩
    rw [isAbout_issue h (hkept hy) (hkept hy)]
    exact sameKey_self _
  · refine List.forall_mem_map.mpr fun x hx => ?_
    obtain ⟨first, hfirst⟩ :
        ∃ first, xs.find? (fun y => (occurrence x).sameKey i (occurrence y)) = some first :=
      Option.isSome_iff_exists.mp (List.find?_isSome.mpr ⟨x, hx, sameKey_self _⟩)
    refine ⟨occurrence first, ?_, ?_⟩
    · rw [List.find?_map]
      exact congrArg (Option.map occurrence) hfirst
    have habout : (firstOfKey key [] (xs.filter fun y => !(occurrence y).isGuarded i)).filter
        ((occurrence x).isAbout i ∘ issue) =
          ((some first).filter fun y => !(occurrence y).isGuarded i).toList := by
      rw [← hfirst, ← filter_firstOfKey_sameKey h hi hx]
      exact List.filter_congr fun y hy => isAbout_issue h hx (hkept hy)
    rw [List.filter_map, habout]
    by_cases hguarded : (occurrence first).isGuarded i = true
    · simp [hguarded, Option.filter]
    · simp [hguarded, Option.filter, (h.issue_eq first).2]

end

/-! ### Divisions -/

lemma uncheckedDescription_ne_zero (divisor : Text) :
    Division.uncheckedDescription divisor ≠ Division.zeroDescription := by
  intro h
  have hhead : some 'U' = some 'D' := congrArg List.head? h
  exact absurd hhead (by decide)

lemma uncheckedDescription_inj {d d' : Text} :
    Division.uncheckedDescription d = Division.uncheckedDescription d' ↔ d = d' := by
  unfold Division.uncheckedDescription
  rw [List.append_cancel_right_eq, List.append_cancel_left_eq]

lemma judge_eq_ok {l : SourceLine} {m : Match} {finding : Option Division.Finding}
    (h : Division.judge i l m = .ok finding) :
    finding.filter (·.description != Division.zeroDescription) =
        ((Division.occurrence? l m).filter fun o => !o.isGuarded i).map Division.findingOf ∧
      ∀ f ∈ finding, (f.description = Division.zeroDescription ↔
        LiteralValue.ofText f.divisor = .zero) := by
  unfold Division.judge at h
  unfold Division.occurrence?
  dsimp only at h
  split at h
  · next hregex =>
    obtain rfl := Except.ok.inj h
    simp [hregex]
  · next hregex =>
    rw [if_neg hregex]
    split at h
    · next hnone =>
      obtain rfl := Except.ok.inj h
      simp [hnone]
    · next divisor hdivisor =>
      rw [hdivisor, Option.bind_some]
      split at h
      · cases h
      · next hvalue =>
        obtain rfl := Except.ok.inj h
        simp [hvalue]
      · next hvalue =>
        obtain rfl := Except.ok.inj h
        change Option.filter _ (some (Division.Finding.mk l divisor Division.zeroDescription)) = _ ∧
          ∀ f ∈ some (Division.Finding.mk l divisor Division.zeroDescription), _
        simp [hvalue, Option.filter]
      · next hvalue =>
        have hne := uncheckedDescription_ne_zero divisor
        split at h
        · next hunreported =>
          obtain rfl := Except.ok.inj h
          simp only [Bool.or_eq_true] at hunreported
          rcases hunreported with hempty | hguarded
          · simp [hempty]
          · simp [hvalue, hguarded, Occurrence.isGuarded, Division.occurrenceOf]
        · next hreported =>
          obtain rfl := Except.ok.inj h
          simp only [Bool.or_eq_true, not_or, Bool.not_eq_true] at hreported
          change Option.filter _ (some (Division.Finding.mk l divisor
              (Division.uncheckedDescription divisor))) = _ ∧
            ∀ f ∈ some (Division.Finding.mk l divisor (Division.uncheckedDescription divisor)), _
          simp [hvalue, hreported, hne, Option.filter, Occurrence.isGuarded, Division.findingOf,
            Division.occurrenceOf]

lemma occurrence?_eq_some {l : SourceLine} {m : Match} {o : Occurrence}
    (h : Division.occurrence? l m = some o) :
    ∃ divisor, LiteralValue.ofText divisor = .unknown ∧ o = Division.occurrenceOf l divisor := by
  unfold Division.occurrence? at h
  split at h
  · cases h
  · obtain ⟨divisor, -, h⟩ := Option.bind_eq_some_iff.mp h
    split at h
    · next hunknown => exact ⟨divisor, hunknown.1, (Option.some.inj h).symm⟩
    · cases h

lemma judgeAll_unguarded {ops : List (SourceLine × Match)} {findings : List Division.Finding}
    (h : Division.judgeAll i ops = .ok findings) :
    findings.filter (·.description != Division.zeroDescription) =
        ((ops.filterMap fun op => Division.occurrence? op.1 op.2).filter
          fun o => !o.isGuarded i).map Division.findingOf ∧
      ∀ f ∈ findings, (f.description = Division.zeroDescription ↔
        LiteralValue.ofText f.divisor = .zero) := by
  induction ops generalizing findings with
  | nil =>
    obtain rfl := Except.ok.inj h
    exact ⟨rfl, List.forall_mem_nil _⟩
  | cons op ops ih =>
    obtain ⟨l, m⟩ := op
    rw [Division.judgeAll] at h
    split at h
    · cases h
    · next finding hfinding =>
      obtain ⟨rest, hrest, rfl⟩ := except_map_eq_ok h
      obtain ⟨hunguarded, hzero⟩ := judge_eq_ok hfinding
      obtain ⟨hunguardedRest, hzeroRest⟩ := ih hrest
      refine ⟨?_, List.forall_mem_append.mpr ⟨fun f hf => hzero f (Option.mem_toList.mp hf),
        hzeroRest⟩⟩
      rw [List.filter_append, hunguardedRest, List.filterMap_cons, ← Option.toList_filter,
        hunguarded]
      cases ho : Division.occurrence? l m with
      | none => simp
      | some o => by_cases hguarded : o.isGuarded i = true <;> simp [hguarded, Option.filter]

lemma flatMap_lines_pairwise {β : Type} {ls : List SourceLine} {f : SourceLine → List β}
    {line : β → SourceLine} (hls : ls.Pairwise (·.number < ·.number))
    (hf : ∀ l, ∀ x ∈ f l, line x = l) :
    (ls.flatMap f).Pairwise fun x y => (line x).number ≤ (line y).number := by
  rw [List.pairwise_flatMap]
  constructor
  · intro l _
    rw [List.pairwise_iff_forall_sublist]
    intro x y hxy
    rw [hf l x (hxy.subset (by simp)), hf l y (hxy.subset (by simp))]
  · refine hls.imp fun {l l'} hlt x hx y hy => ?_
    rw [hf l x hx, hf l' y hy]
    exact Nat.le_of_lt hlt

lemma occurrences_pairwise (hi : i.statements.Pairwise (·.number < ·.number)) :
    (Division.occurrences i).Pairwise fun o o' => o.line.number ≤ o'.line.number := by
  have hops : (Division.operations i).Pairwise fun x y => x.1.number ≤ y.1.number := by
    refine flatMap_lines_pairwise hi fun l x hx => ?_
    obtain ⟨m, -, rfl⟩ := List.mem_map.mp hx
    rfl
  refine hops.filterMap _ fun x y hle o ho o' ho' => ?_
  obtain ⟨d, -, rfl⟩ := occurrence?_eq_some ho
  obtain ⟨d', -, rfl⟩ := occurrence?_eq_some ho'
  exact hle

lemma mem_occurrences {o : Occurrence} (h : o ∈ Division.occurrences i) :
    ∃ l divisor, LiteralValue.ofText divisor = .unknown ∧ o = Division.occurrenceOf l divisor := by
  obtain ⟨op, -, ho⟩ := List.mem_filterMap.mp h
  exact ⟨op.1, occurrence?_eq_some ho⟩

/-- Divisions by what is no number are reported at the first occurrence of a divisor in a scope. -/
theorem division_reportsFirst (hi : i.statements.Pairwise (·.number < ·.number))
    (hfunctions : i.functions.Pairwise (·.startLine < ·.startLine)) {issues : List Issue}
    (h : Division.issues i = .ok issues) :
    i.ReportsFirst (Division.occurrences i)
      (issues.filter (·.description != Division.zeroDescription)) := by
  obtain ⟨findings, hjudge, rfl⟩ := except_map_eq_ok h
  obtain ⟨hunguarded, hzero⟩ := judgeAll_unguarded hjudge
  have hissues : ((firstOfKey (fun f : Division.Finding => (i.scopeKey f.line.number, f.divisor)) []
      findings).map fun f => i.issueAt .runtime .critical f.description f.line
        Rule.division).filter (·.description != Division.zeroDescription) =
      (firstOfKey (fun o : Occurrence => (i.scopeKey o.line.number, o.subject.headD [])) []
        ((Division.occurrences i).filter fun o => !o.isGuarded i)).map fun o =>
          i.issueAt .runtime .critical o.description o.line Rule.division := by
    have hkey : ∀ f ∈ findings, ∀ g ∈ findings,
        (i.scopeKey f.line.number, f.divisor) = (i.scopeKey g.line.number, g.divisor) →
          (f.description != Division.zeroDescription) =
            (g.description != Division.zeroDescription) := by
      intro f hf g hg heq
      have hdivisor : f.divisor = g.divisor := (Prod.mk.inj heq).2
      rw [Bool.eq_iff_iff, bne_iff_ne, bne_iff_ne, Ne, Ne, hzero f hf, hzero g hg, hdivisor]
    have hchosen : ∀ f : Division.Finding,
        (i.issueAt .runtime .critical f.description f.line Rule.division).description =
          f.description := fun _ => rfl
    simp only [List.filter_map, Function.comp_def, hchosen]
    rw [filter_firstOfKey hkey, hunguarded, firstOfKey_map, List.map_map]
    rfl
  have hkeyed : i.Keyed (Division.occurrences i) id
      (fun o => (i.scopeKey o.line.number, o.subject.headD []))
      fun o => i.issueAt .runtime .critical o.description o.line Rule.division := by
    refine ⟨occurrences_pairwise hi, ?_, ?_, ?_, fun o => ⟨rfl, rfl⟩⟩
    · intro o ho o' ho'
      obtain ⟨l, d, -, rfl⟩ := mem_occurrences ho
      obtain ⟨l', d', -, rfl⟩ := mem_occurrences ho'
      simp [sameKey_iff, Division.occurrenceOf, scopeKey_eq_iff hfunctions]
    · intro o ho o' ho'
      obtain ⟨l, d, -, rfl⟩ := mem_occurrences ho
      obtain ⟨l', d', -, rfl⟩ := mem_occurrences ho'
      simp [Division.occurrenceOf, uncheckedDescription_inj]
    · intro o ho o' ho'
      obtain ⟨l, d, -, rfl⟩ := mem_occurrences ho
      obtain ⟨l', d', -, rfl⟩ := mem_occurrences ho'
      simp +contextual [Division.occurrenceOf]
  have hreports := reportsFirst_of_firstOfKey hkeyed hi
  rw [List.map_id] at hreports
  rw [hissues]
  exact hreports

/-! ### Indices -/

lemma isIdentifierChar_of_start {c : Char} (h : Pattern.isIdentifierStart c = true) :
    Pattern.isIdentifierChar c = true := by
  rcases Bool.or_eq_true_iff.mp h with h | h
  · exact Bool.or_eq_true_iff.mpr (.inl (isWordChar_of_isNameStart h))
  · exact Bool.or_eq_true_iff.mpr (.inr h)

lemma identifier_passes {u : Text} (h : Pattern.identifier.Passes u) :
    ∀ c ∈ u, Pattern.isIdentifierChar c = true := by
  intro c hc
  have hreads : (Pattern.isIdentifierStart c || Pattern.isIdentifierChar c) = true :=
    passes_reads h c hc
  exact (Bool.or_eq_true_iff.mp hreads).elim isIdentifierChar_of_start id

open Pattern in
lemma access_fillsWith {u : Text} :
    (Indexing.access.FillsWith .receiver u → (identifier ++ many ("." ++ identifier)).Passes u) ∧
      (Indexing.access.FillsWith .index u → identifier.Passes u) ∧
      (Indexing.access.FillsWith .offset u → (anyOf "-+" ++ blanks ++ digits1).Passes u) := by
  refine ⟨fun h => ?_, fun h => ?_, fun h => ?_⟩
  · iterate 8 replace h := fillsWith_left (by rfl) h
    exact fillsWith_capture rfl h
  · iterate 4 replace h := fillsWith_left (by rfl) h
    exact fillsWith_capture rfl (fillsWith_right (by rfl) h)
  · iterate 2 replace h := fillsWith_left (by rfl) h
    rcases fillsWith_right (by rfl) h with h | h
    · exact fillsWith_capture rfl h
    · cases h

lemma access_shaped {l : SourceLine} {a : Access} (h : a ∈ Indexing.accessesOn l) :
    a.line = l ∧ a.Shaped := by
  unfold Indexing.accessesOn at h
  split at h
  · cases h
  · obtain ⟨m, hm, rfl⟩ := List.mem_map.mp h
    refine ⟨rfl, ?_, ?_, ?_, ?_⟩
    · rcases textOf_fillsWith hm .receiver with hnil | hfills
      · simp [hnil]
      · intro c hc
        have hreads : (Pattern.isIdentifierStart c || Pattern.isIdentifierChar c || (c == '.' ||
            (Pattern.isIdentifierStart c || Pattern.isIdentifierChar c))) = true :=
          passes_reads (access_fillsWith.1 hfills) c hc
        have hstart := @isIdentifierChar_of_start c
        simp only [Bool.or_eq_true, beq_iff_eq] at hreads
        tauto
    · rcases textOf_fillsWith hm .index with hnil | hfills
      · simp [hnil]
      · exact identifier_passes (access_fillsWith.2.1 hfills)
    · rcases textOf_fillsWith hm .offset with hnil | hfills
      · simp [hnil]
      · obtain ⟨-, w, ⟨-, v, ⟨c, hc, rfl⟩, -, rfl⟩, -, heq⟩ := access_fillsWith.2.2 hfills
        have hsign : c = '-' ∨ c = '+' := by simpa using hc
        have hblank : Text.isBlank c = false := by rcases hsign with rfl | rfl <;> decide
        simp [heq, hblank, hsign]
    · rcases textOf_fillsWith hm .offset with hnil | hfills
      · simp [hnil]
      · intro hquote
        have hreads := passes_reads (access_fillsWith.2.2 hfills) _ (List.mem_of_mem_filter hquote)
        exact absurd hreads (by decide)

lemma takeWhile_index {a : Access} (ha : a.Shaped) :
    (a.index ++ a.offset).takeWhile Pattern.isIdentifierChar = a.index := by
  rw [List.takeWhile_append_of_pos ha.index]
  cases hoffset : a.offset with
  | nil => simp
  | cons c r =>
    have hsign : c = '-' ∨ c = '+' := ha.sign c (by simp [hoffset])
    have hc : Pattern.isIdentifierChar c = false := by rcases hsign with rfl | rfl <;> decide
    simp [hc]

lemma index_offset_inj {a b : Access} (ha : a.Shaped) (hb : b.Shaped)
    (h : a.index ++ a.offset = b.index ++ b.offset) : a.index = b.index ∧ a.offset = b.offset := by
  have hindex : a.index = b.index := by rw [← takeWhile_index ha, h, takeWhile_index hb]
  rw [hindex] at h
  exact ⟨hindex, List.append_cancel_left h⟩

lemma quote_not_mem {a : Access} (ha : a.Shaped) : '\'' ∉ a.index ++ a.offset := by
  rw [List.mem_append, not_or]
  exact ⟨fun h => absurd (ha.index _ h) (by decide), ha.offset⟩

/-- What is said of an access after its index. -/
def afterIndex (a : Access) : Text :=
  if a.offset.isEmpty then " used on '" ++ (a.receiver ++ "' without a bounds check")
  else " on '" ++ (a.receiver ++ "' may fall outside its bounds")

lemma describe_eq (a : Access) :
    Indexing.describe a = "Index '" ++ ((a.index ++ a.offset) ++ '\'' :: afterIndex a) := by
  unfold Indexing.describe afterIndex
  cases a.offset with
  | nil => simp
  | cons c r => simp

lemma afterIndex_inj {a b : Access} (h : afterIndex a = afterIndex b) :
    a.receiver = b.receiver := by
  unfold afterIndex at h
  split at h <;> split at h
  · exact List.append_cancel_right (List.append_cancel_left h)
  · have hsecond : some 'u' = some 'o' := congrArg (·[1]?) h
    exact absurd hsecond (by decide)
  · have hsecond : some 'o' = some 'u' := congrArg (·[1]?) h
    exact absurd hsecond (by decide)
  · exact List.append_cancel_right (List.append_cancel_left h)

lemma describe_inj {a b : Access} (ha : a.Shaped) (hb : b.Shaped) :
    Indexing.describe a = Indexing.describe b ↔
      a.receiver = b.receiver ∧ a.index ++ a.offset = b.index ++ b.offset := by
  constructor
  · intro h
    rw [describe_eq, describe_eq, List.append_cancel_left_eq] at h
    obtain ⟨hindex, hafter⟩ := append_cons_inj (quote_not_mem ha) (quote_not_mem hb) h
    exact ⟨afterIndex_inj hafter, hindex⟩
  · rintro ⟨hreceiver, hindex⟩
    obtain ⟨-, hoffset⟩ := index_offset_inj ha hb hindex
    rw [describe_eq, describe_eq, hindex, afterIndex, afterIndex, hreceiver, hoffset]

/-- Indices are reported at the first occurrence of a receiver with an index in a scope. -/
theorem indexing_reportsFirst (hi : i.statements.Pairwise (·.number < ·.number))
    (hfunctions : i.functions.Pairwise (·.startLine < ·.startLine)) :
    i.ReportsFirst (Indexing.occurrences i) (Indexing.issues i) := by
  have hshaped : ∀ a ∈ (i.statements.flatMap Indexing.accessesOn).filter (Indexing.isIndexing i),
      a.Shaped := by
    intro a ha
    obtain ⟨l, -, ha⟩ := List.mem_flatMap.mp (List.mem_of_mem_filter ha)
    exact (access_shaped ha).2
  have hunchecked : (i.statements.flatMap Indexing.accessesOn).filter (Indexing.isUnchecked i) =
      ((i.statements.flatMap Indexing.accessesOn).filter (Indexing.isIndexing i)).filter
        fun a => !(Access.occurrence a).isGuarded i := by
    rw [List.filter_filter]
    apply List.filter_congr
    intro a _
    simp only [Indexing.isUnchecked, Indexing.isIndexing, Occurrence.isGuarded, Access.occurrence]
    rw [← Bool.and_assoc, Bool.and_comm]
  unfold Indexing.issues
  dsimp only
  rw [hunchecked]
  refine reportsFirst_of_firstOfKey ⟨?_, ?_, ?_, ?_, fun a => ⟨rfl, rfl⟩⟩ hi
  · exact (flatMap_lines_pairwise hi fun l a ha => (access_shaped ha).1).filter _
  · intro a _ b _
    simp [sameKey_iff, Access.occurrence, scopeKey_eq_iff hfunctions]
  · intro a ha b hb
    simpa [Access.occurrence] using describe_inj (hshaped a ha) (hshaped b hb)
  · intro a ha b hb hsubject
    have hkey : a.receiver = b.receiver ∧ a.index ++ a.offset = b.index ++ b.offset := by
      simpa [Access.occurrence] using hsubject
    obtain ⟨hindex, hoffset⟩ := index_offset_inj (hshaped a ha) (hshaped b hb) hkey.2
    simp only [Access.occurrence, Indexing.guards, hkey.1, hindex, hoffset]

/-! ### Texts -/

lemma ofText_statements_pairwise (l : Language) (t : Text) (blocks : BlockMap)
    (functions : List FunctionSpan) :
    (Inspection.statements ⟨Source.ofText l t, blocks, functions⟩).Pairwise
      (·.number < ·.number) :=
  (ofText_pairwise l t).sublist (statements_sublist _)

/-- In every text the divisions by what is no number, and the indices, are reported once for each
scope and subject: on the line of the first occurrence, and only if that one is not guarded. Guards
of an occurrence are guards of all later ones in its scope. -/
theorem ofText_reportsFirst (l : Language) (t : Text) (blocks : BlockMap) :
    let s := Source.ofText l t
    let i : Inspection := ⟨s, blocks, s.functions⟩
    (∀ issues, Division.issues i = .ok issues →
        i.ReportsFirst (Division.occurrences i)
          (issues.filter (·.description != Division.zeroDescription))) ∧
      i.ReportsFirst (Indexing.occurrences i) (Indexing.issues i) := by
  intro s i
  have hstatements : i.statements.Pairwise (·.number < ·.number) :=
    ofText_statements_pairwise l t blocks s.functions
  have hfunctions : i.functions.Pairwise (·.startLine < ·.startLine) :=
    functionsFrom_pairwise s.language (ofText_pairwise l t)
  exact ⟨fun issues h => division_reportsFirst hstatements hfunctions h,
    indexing_reportsFirst hstatements hfunctions⟩

/-- A function that tests its divisor after the first division by it. -/
def testedLate : Text := "def f(n):\n    a = 1 / n\n    if n > 0:\n        b = 2 / n"

/-- The division before the test is reported, and the one after it is not. -/
theorem ofText_reportsFirst_testedLate :
    let s := Source.ofText (Language.resolve "python") testedLate
    let blocks : BlockMap := ⟨[[.other], [.other], [.other, .conditional], [.other, .conditional]]⟩
    let i : Inspection := ⟨s, blocks, s.functions⟩
    ∃ issues, Division.issues i = .ok issues ∧ issues.map (·.line?) = [some 2] ∧
      (Division.occurrences i).map (fun o => (o.line.number, o.isGuarded i)) =
        [(2, false), (4, true)] ∧
      i.ReportsFirst (Division.occurrences i)
        (issues.filter (·.description != Division.zeroDescription)) := by
  intro s blocks i
  obtain ⟨hlines, hoccurrences⟩ :
      (Division.issues i).toOption.map (·.map (·.line?)) = some [some 2] ∧
        (Division.occurrences i).map (fun o => (o.line.number, o.isGuarded i)) =
          [(2, false), (4, true)] := by decide +kernel
  cases hissues : Division.issues i with
  | error e =>
    rw [hissues] at hlines
    cases hlines
  | ok issues =>
    rw [hissues] at hlines
    exact ⟨issues, rfl, Option.some.inj hlines, hoccurrences,
      (ofText_reportsFirst _ testedLate _).1 issues hissues⟩

end Proofs

end SourceGrade
