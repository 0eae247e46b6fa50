import SourceGrade.Analysis.Basic
import SourceGrade.Cache.Report
import SourceGrade.Proofs.AcceptedThresholds
import SourceGrade.Proofs.JsonLine

/-!
# Thresholds in writing

The text of a table of thresholds tells all of its numbers. Only the two counts that lead to warnings
can be something else, and then no report depends on what they are.
-/

namespace SourceGrade

/-- A table with other counts of issues that lead to warnings. -/
def Thresholds.withWarningCounts {ι ρ : Type} (t : Thresholds ι ρ) (critical major : ι) :
    Thresholds ι ρ :=
  { t with criticalWarningCount := critical, majorWarningCount := major }

namespace Proofs

/-! ### Numbers among values -/

/-- A flag or a number. -/
inductive IsNumeral : Json → Prop where
  | bool (b : Bool) : IsNumeral (.bool b)
  | int (n : Int) : IsNumeral (.int n)
  | real (x : Float) : IsNumeral (.real x)

/-- The first characters of values that are neither flags nor numbers. -/
def otherStarts : Text := ['n', '"', '[', '{']

lemma numeral_head {v : Json} (h : IsNumeral v) :
    ∃ c ∈ (memberText v).head?, c = 't' ∨ c = 'f' ∨ isNumberStart c = true := by
  cases h with
  | bool b =>
    cases b with
    | true => exact ⟨'t', rfl, .inl rfl⟩
    | false => exact ⟨'f', rfl, .inr (.inl rfl)⟩
  | int n =>
    obtain ⟨c, hc, hstart⟩ := ofInt_head n
    exact ⟨c, hc, .inr (.inr hstart)⟩
  | real x =>
    obtain ⟨c, hc, hstart⟩ := writeReal_head x
    exact ⟨c, hc, .inr (.inr hstart)⟩

lemma other_head {v : Json} (h : ¬IsNumeral v) : ∃ c ∈ (memberText v).head?, c ∈ otherStarts := by
  have hlist : ∀ items, ∃ c ∈ (Json.write .line 1 (.list items)).head?, c ∈ otherStarts := by
    intro items
    cases items with
    | nil => exact ⟨'[', rfl, by decide⟩
    | cons item items => exact ⟨'[', rfl, by decide⟩
  have hobject : ∀ members, ∃ c ∈ (Json.write .line 1 (.object members)).head?,
      c ∈ otherStarts := by
    intro members
    cases members with
    | nil => exact ⟨'{', rfl, by decide⟩
    | cons member members => exact ⟨'{', rfl, by decide⟩
  have hwide : ∀ members, ∃ c ∈ (Json.write .line 1 (.wideObject members)).head?,
      c ∈ otherStarts := by
    intro members
    cases members with
    | nil => exact ⟨'{', rfl, by decide⟩
    | cons member members => exact ⟨'{', rfl, by decide⟩
  cases v with
  | null => exact ⟨'n', rfl, by decide⟩
  | bool b => exact absurd (.bool b) h
  | int n => exact absurd (.int n) h
  | real x => exact absurd (.real x) h
  | text t => exact ⟨'"', rfl, by decide⟩
  | codePoints t => exact ⟨'"', rfl, by decide⟩
  | list items => exact hlist _
  | object members => exact hobject _
  | wideObject members => exact hwide members

lemma memberText_injective {v w : Json} (hv : IsNumeral v) (h : memberText v = memberText w) :
    v = w := by
  have hw : IsNumeral w := by
    by_contra hother
    have hapart : ∀ c ∈ otherStarts, ¬(c = 't' ∨ c = 'f' ∨ isNumberStart c = true) := by
      intro c hc
      simp only [otherStarts, List.mem_cons, List.not_mem_nil, or_false] at hc
      obtain rfl | rfl | rfl | rfl := hc <;> decide
    obtain ⟨c, hc, hstart⟩ := numeral_head hv
    obtain ⟨d, hd, hother⟩ := other_head hother
    obtain rfl := Option.some.inj (hc.symm.trans (h ▸ hd))
    exact hapart c hother hstart
  have hflag : ∀ {b : Bool} {t : Text}, memberText (.bool b) = t →
      (∃ c ∈ t.head?, isNumberStart c = true) → False := by
    rintro b t rfl ⟨c, hc, hstart⟩
    cases b <;> obtain rfl := Option.some.inj hc <;> exact absurd hstart (by decide)
  cases hv with
  | bool b =>
    cases hw with
    | bool b' => cases b <;> cases b' <;> first | rfl | exact absurd h (by decide)
    | int n => exact (hflag h (ofInt_head n)).elim
    | real x => exact (hflag h (writeReal_head x)).elim
  | int n =>
    cases hw with
    | bool b => exact (hflag h.symm (ofInt_head n)).elim
    | int n' => exact congrArg _ (ofInt_injective h)
    | real x => exact absurd h (ofInt_ne_writeReal n x)
  | real x =>
    cases hw with
    | bool b => exact (hflag h.symm (writeReal_head x)).elim
    | int n => exact absurd h.symm (ofInt_ne_writeReal n x)
    | real x' => exact congrArg _ (writeReal_injective h)

/-! ### Settings and amounts -/

/-- The amount that a value writes. -/
def amountOf? : Json → Option Amount
  | .bool b => some (.flag b)
  | .int n => some (.whole n)
  | .real x => some (.real x)
  | _ => none

lemma isNumeral_of_amountOf? {v : Json} (h : (amountOf? v).isSome = true) : IsNumeral v := by
  cases v with
  | bool b => exact .bool b
  | int n => exact .int n
  | real x => exact .real x
  | _ => cases h

lemma amountOf?_setting (s : Setting) : amountOf? s.toJson = s.amount? := by
  cases s <;> simp only [Setting.toJson] <;> rfl

lemma amountOf?_toAmount (s : Setting) : amountOf? s.toAmount.toJson = some s.toAmount := by
  cases s <;> rfl

lemma setting_eq_of_memberText {s s' : Setting} (hs : IsNumber s)
    (h : memberText s.toJson = memberText s'.toJson) : s = s' := by
  have hnumeral : IsNumeral s.toJson :=
    isNumeral_of_amountOf? ((amountOf?_setting s).symm ▸ hs)
  have hamount : s.amount? = s'.amount? := by
    rw [← amountOf?_setting, ← amountOf?_setting, memberText_injective hnumeral h]
  cases s <;> cases s' <;> cases hs <;> cases hamount <;> rfl

lemma toAmount_eq_of_memberText {s s' : Setting}
    (h : memberText s.toAmount.toJson = memberText s'.toAmount.toJson) :
    s.toAmount = s'.toAmount := by
  have hnumeral : IsNumeral s.toAmount.toJson :=
    isNumeral_of_amountOf? (by rw [amountOf?_toAmount]; rfl)
  have hamount := congrArg amountOf? (memberText_injective hnumeral h)
  rw [amountOf?_toAmount, amountOf?_toAmount] at hamount
  exact Option.some.inj hamount

/-! ### Tables -/

/-- How a field of a table is written. -/
def fieldText (t : ActiveThresholds) (f : ThresholdField Setting Amount) : Text :=
  memberText (f.read Setting.toJson Amount.toJson t)

lemma fieldNames_nodup :
    ((ThresholdField.all : List (ThresholdField Setting Amount)).map (·.name)).Nodup := by
  decide +kernel

lemma lookup_map_of_nodup {β γ : Type} {key : β → Text} (value : β → γ) {bs : List β}
    (hnodup : (bs.map key).Nodup) {b : β} (hb : b ∈ bs) :
    (bs.map fun b => (key b, value b)).lookup (key b) = some (value b) := by
  induction bs with
  | nil => cases hb
  | cons c bs ih =>
    obtain ⟨hc, hnodup⟩ := List.nodup_cons.mp hnodup
    rw [List.map_cons, List.lookup_cons]
    cases hb with
    | head => rw [beq_self_eq_true]
    | tail _ hb =>
      have hne : key b ≠ key c := fun heq => hc (heq ▸ List.mem_map_of_mem hb)
      rw [beq_eq_false_iff_ne.mpr hne]
      exact ih hnodup hb

lemma fieldText_eq_of_line_eq {t t' : ActiveThresholds}
    (h : Json.line (Json.sortNames t.toJson) = Json.line (Json.sortNames t'.toJson))
    {f : ThresholdField Setting Amount} (hf : f ∈ ThresholdField.all) :
    fieldText t f = fieldText t' f := by
  have hlookup : ∀ t : ActiveThresholds,
      (t.toMembers Setting.toJson Amount.toJson).lookup f.name =
        some (f.read Setting.toJson Amount.toJson t) := fun t =>
    lookup_map_of_nodup _ fieldNames_nodup hf
  have hnames : (t.toMembers Setting.toJson Amount.toJson).map (·.1) =
      (t'.toMembers Setting.toJson Amount.toJson).map (·.1) := by
    unfold Thresholds.toMembers
    rw [List.map_map, List.map_map]
    rfl
  have htexts := memberText_eq_of_line_eq hnames h f.name
  rw [hlookup, hlookup] at htexts
  exact Option.some.inj htexts

/-- Tables that are written the same differ in nothing but their counts for warnings, when the
limits of one of them are numbers. -/
lemma eq_withWarningCounts_of_line_eq {s s' : Thresholds Setting Setting}
    (h : Json.line (Json.sortNames s.active.toJson) = Json.line (Json.sortNames s'.active.toJson))
    (hchecked : ∀ l ∈ checkedLimits s, IsNumber l) (hpenalty : IsNumber s.nestingPenaltyDepth)
    (hsevere : IsNumber s.nestingSevereDepth) :
    s'.active = s.active.withWarningCounts s'.criticalWarningCount s'.majorWarningCount := by
  have hfields : ∀ f ∈ ThresholdField.all, fieldText s.active f = fieldText s'.active f :=
    fun f hf => fieldText_eq_of_line_eq h hf
  simp only [ThresholdField.all, ThresholdField.gradeBounds, ThresholdField.costs,
    ThresholdField.findingLimits, List.forall_mem_append, List.forall_mem_cons, fieldText,
    ThresholdField.read] at hfields
  simp only [checkedLimits, List.forall_mem_cons] at hchecked
  obtain ⟨⟨⟨aMax, bMax, cMax, maintA, maintB, maintC, relA, relB, relC, debtA, debtB, debtC, -⟩,
    minor, major, critical, blocker, test, handling, utility, repeats, path, floor, knee, scale, -⟩,
    -, -, window, chars, lookback, neutral, warn, deep, penalty, penaltyBy, severe, severeBy, long,
    longer, parameters, complex, complexer, minutes, -⟩ := hfields
  obtain ⟨aMax', bMax', cMax', window', chars', lookback', warn', deep', long', longer',
    parameters', complex', complexer', minutes', -⟩ := hchecked
  have hwhole : ∀ {l l' : Setting}, IsNumber l → memberText l.toJson = memberText l'.toJson →
      l' = l := fun hl h => (setting_eq_of_memberText hl h).symm
  have hreal : ∀ {l l' : Setting}, memberText l.toAmount.toJson = memberText l'.toAmount.toJson →
      l'.toAmount = l.toAmount := fun h => (toAmount_eq_of_memberText h).symm
  simp only [Thresholds.active, Thresholds.map, Thresholds.withWarningCounts,
    Thresholds.mk.injEq, id]
  exact ⟨hwhole aMax' aMax, hwhole bMax' bMax, hwhole cMax' cMax, hreal maintA, hreal maintB,
    hreal maintC, hreal relA, hreal relB, hreal relC, hreal debtA, hreal debtB, hreal debtC,
    hreal minor, hreal major, hreal critical, hreal blocker, hreal test, hreal handling,
    hreal utility, hreal repeats, hreal path, hreal floor, hreal knee, hreal scale, trivial,
    trivial, hwhole window' window, hwhole chars' chars, hwhole lookback' lookback, hreal neutral,
    hwhole warn' warn, hwhole deep' deep, hwhole hpenalty penalty, hreal penaltyBy,
    hwhole hsevere severe, hreal severeBy, hwhole long' long, hwhole longer' longer,
    hwhole parameters' parameters, hwhole complex' complex, hwhole complexer' complexer,
    hwhole minutes' minutes⟩

/-! ### Reports -/

section

variable {t : ActiveThresholds} {critical major : Setting}

lemma isNumber_of_compared {n : Int} {l : Setting} {b : Bool}
    (h : compared .ge (Comparable.whole n) l = .ok b) : IsNumber l :=
  (compareWith_kinds (mapError_eq_ok h)).mp rfl

variable (hcritical : IsNumber t.criticalWarningCount → critical = t.criticalWarningCount)
  (hmajor : IsNumber t.majorWarningCount → major = t.majorWarningCount)
include hcritical hmajor

lemma reliabilityWarning_withWarningCounts {a : Aggregation Amount} {grade : Grade}
    {warning : Bool} (h : reliabilityWarning t a grade = .ok warning) :
    reliabilityWarning (t.withWarningCounts critical major) a grade = .ok warning := by
  -- what is left once it is known whether critical issues are hidden
  have hrest : ∀ hides : Bool,
      (if hides = true then pure true
        else if grade = .b then
          compared .ge (Comparable.whole a.majorCount) t.majorWarningCount
        else pure false : Except RatingError Bool) = .ok warning →
      (if hides = true then pure true
        else if grade = .b then compared .ge (Comparable.whole a.majorCount) major
        else pure false : Except RatingError Bool) = .ok warning := by
    intro hides hrest
    split at hrest
    · next htrue =>
      rw [if_pos htrue]
      exact hrest
    · next hfalse =>
      rw [if_neg hfalse]
      split at hrest
      · next hgrade =>
        rw [if_pos hgrade, hmajor (isNumber_of_compared hrest)]
        exact hrest
      · next hgrade =>
        rw [if_neg hgrade]
        exact hrest
  unfold reliabilityWarning at h ⊢
  dsimp only at h ⊢
  split at h
  · next hgrade =>
    obtain ⟨hides, hhides, h⟩ := bind_eq_ok h
    have hhides' : compared .ge (Comparable.whole a.criticalCount)
        (t.withWarningCounts critical major).criticalWarningCount = .ok hides := by
      change compared .ge _ critical = _
      rw [hcritical (isNumber_of_compared hhides)]
      exact hhides
    rw [if_pos hgrade]
    exact (bind_of_ok hhides').trans (hrest hides h)
  · next hgrade =>
    rw [if_neg hgrade]
    exact hrest false h

lemma rateReliability_withWarningCounts {a : Aggregation Amount} {confirmed : Nat}
    {rating : Rating Amount} (h : rateReliability t a confirmed = .ok rating) :
    rateReliability (t.withWarningCounts critical major) a confirmed = .ok rating := by
  obtain ⟨_, hrange, h⟩ := bind_eq_ok h
  refine (bind_of_ok hrange).trans ?_
  split at h
  · next hfinite =>
    obtain ⟨warning, hwarning, h⟩ := bind_eq_ok h
    rw [if_pos hfinite]
    exact (bind_of_ok (reliabilityWarning_withWarningCounts hcritical hmajor hwarning)).trans h
  · next hinfinite =>
    rw [if_neg hinfinite]
    exact h

lemma analyzeWith_withWarningCounts {cache : NormalizationCache} {language : Language}
    {text : Text} {result : Report Amount × NormalizationCache}
    (h : analyzeWith t cache language text = .ok result) :
    analyzeWith (t.withWarningCounts critical major) cache language text = .ok result := by
  obtain ⟨blocks, hblocks, h⟩ := bind_eq_ok h
  refine (bind_of_ok hblocks).trans (mapError_of_ok ?_)
  obtain ⟨adjusted, hadjusted, h⟩ := bind_eq_ok (mapError_eq_ok h)
  obtain ⟨_, hreliable, h⟩ := bind_eq_ok h
  obtain ⟨_, hmaintainable, h⟩ := bind_eq_ok h
  obtain ⟨complexity, hcomplexity, h⟩ := bind_eq_ok h
  obtain ⟨maintainability, hmaintainability, h⟩ := bind_eq_ok h
  obtain ⟨reliability, hreliability, h⟩ := bind_eq_ok h
  obtain ⟨debt, hdebt, h⟩ := bind_eq_ok h
  refine (bind_of_ok hadjusted).trans ((bind_of_ok hreliable).trans
    ((bind_of_ok hmaintainable).trans ((bind_of_ok hcomplexity).trans
      ((bind_of_ok hmaintainability).trans ?_))))
  exact (bind_of_ok (rateReliability_withWarningCounts hcritical hmajor hreliability)).trans
    ((bind_of_ok hdebt).trans h)

end

lemma analyzeWith_of_line_eq {s s' : Thresholds Setting Setting} (hs : s.validate = .ok ())
    (h : Json.line (Json.sortNames s.active.toJson) = Json.line (Json.sortNames s'.active.toJson))
    {cache : NormalizationCache} {language : Language} {text : Text}
    {result : Report Amount × NormalizationCache}
    (hresult : analyzeWith s.active cache language text = .ok result) :
    analyzeWith s'.active cache language text = .ok result := by
  have haccepted := accepted_of_validate hs
  have hsevere : IsNumber s.nestingSevereDepth := by
    obtain ⟨blocks, -, hrate⟩ := bind_eq_ok hresult
    obtain ⟨adjusted, hadjusted, -⟩ := bind_eq_ok (mapError_eq_ok hrate)
    obtain ⟨penalty, hpenalty, -⟩ := except_map_eq_ok (mapError_eq_ok hadjusted)
    obtain ⟨holds, hcompare, -⟩ := bind_eq_ok hpenalty
    exact (compareWith_kinds hcompare).mp rfl
  have hpenalty := (compareWith_kinds haccepted.penaltyDepth_order).mpr hsevere
  rw [eq_withWarningCounts_of_line_eq h (checkedLimits_isNumber haccepted) hpenalty hsevere]
  have hcount : ∀ f ∈ ThresholdField.findingLimits, fieldText s.active f = fieldText s'.active f :=
    fun f hf => fieldText_eq_of_line_eq h (List.mem_append_right _ hf)
  exact analyzeWith_withWarningCounts
    (fun hnumber => (setting_eq_of_memberText hnumber (hcount _ (.head _))).symm)
    (fun hnumber => (setting_eq_of_memberText hnumber (hcount _ (.tail _ (.head _)))).symm)
    hresult

end Proofs

end SourceGrade
