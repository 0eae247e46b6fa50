import SourceGrade.Proofs.CriticalOverride
import SourceGrade.Proofs.FirstOccurrences
import SourceGrade.Proofs.IssueGroups
import SourceGrade.Proofs.NormalDescriptions

/-!
# Patterns of descriptions

The descriptions of unnamed numbers differ in the number only, and those of unchecked divisions in
the divisor only. Normalizing masks the digits and the fraction of a number but not its sign, and
what is between two apostrophes. So numbers of one sign share a group, and so do divisors without
an apostrophe; a sign or an apostrophe leads to another group.
-/

namespace SourceGrade

namespace MagicNumber

/-- What is said of a number that needs a name. -/
def describe (number : Text) : Text := "Magic number " ++ number ++ " should be a named constant"

/-- Whether an issue names a number with a sign. -/
def isSigned (x : Issue) : Bool := Text.startsWith "Magic number -" x.description

/-- What is said of all numbers with a sign, or of all without one. -/
def pattern (signed : Bool) : Text :=
  if signed then "magic number -# should be a named constant"
  else "magic number # should be a named constant"

end MagicNumber

namespace Division

/-- What is said of all divisors without an apostrophe. -/
def pattern : Text := "unchecked division by * fails when it is zero"

/-- The issue names a divisor without an apostrophe. -/
def IsPlain (x : Issue) : Prop :=
  ∃ divisor : Text, '\'' ∉ divisor ∧ x.description = uncheckedDescription divisor

end Division

namespace Proofs

open Normalize

/-! ### Quotes -/

lemma isQuote_eq_false_of_isDigit {c : Char} (h : Text.isDigit c = true) : isQuote c = false := by
  refine Bool.eq_false_iff.mpr fun hquote => ?_
  obtain ⟨-, hdigit, -⟩ := isQuoteMark_eq (c := c) (by rw [isQuoteMark, hquote, Bool.true_or])
  rw [h] at hdigit
  cases hdigit

lemma maskQuoted_append {s : Text} (h : ∀ c ∈ s, isQuote c = false) (t : Text) :
    maskQuoted none (s ++ t) = s ++ maskQuoted none t := by
  induction s with
  | nil => rfl
  | cons c s ih =>
    rw [List.cons_append, maskQuoted, h c List.mem_cons_self, Bool.false_and, if_neg (by simp),
      ih fun d hd => h d (List.mem_cons_of_mem c hd)]
    rfl

lemma maskQuoted_pair {q : Char} (hq : isQuote q = true) {s : Text} (h : q ∉ s) (t : Text) :
    maskQuoted none (q :: (s ++ q :: t)) = '*' :: maskQuoted none t := by
  have hinside : maskQuoted (some q) (s ++ q :: t) = maskQuoted none t := by
    induction s with
    | nil => rw [List.nil_append, maskQuoted, if_pos rfl]
    | cons c s ih =>
      obtain ⟨hc, hs⟩ := not_or.mp (List.mem_cons.not.mp h)
      rw [List.cons_append, maskQuoted, if_neg (Ne.symm hc), ih hs]
  have hcontains : (s ++ q :: t).contains q = true := by simp
  rw [maskQuoted, hq, hcontains, Bool.true_and, if_pos rfl, hinside]

/-- A quote leaves a mark: itself, or the star for what it ends or begins. -/
lemma quoteMarks_maskQuoted_ne_nil {q : Char} (hq : isQuote q = true) {t : Text} (h : q ∈ t) :
    quoteMarks (maskQuoted none t) ≠ [] := by
  induction t with
  | nil => cases h
  | cons c r ih =>
    rw [maskQuoted]
    split
    · exact List.cons_ne_nil _ _
    · by_cases hc : isQuote c = true
      · have hmark : isQuoteMark c = true := by rw [isQuoteMark, hc, Bool.true_or]
        rw [quoteMarks, List.filter_cons_of_pos hmark]
        exact List.cons_ne_nil _ _
      · have hr : q ∈ r := (List.mem_cons.mp h).resolve_left fun heq => hc (heq ▸ hq)
        rw [← List.singleton_append, quoteMarks_append]
        exact List.append_ne_nil_of_right_ne_nil _ (ih hr)

/-! ### Unchecked divisions -/

lemma lower_quoted (before after first rest : Text) (q : Char)
    (hbefore : ∀ c ∈ before, c.val ≠ 0x3A3)
    (hfirst : before.flatMap Text.lowerChar = first ++ [q])
    (hafter : ∀ c ∈ after, Text.IsLowered c) (hrest : after = q :: rest) (t : Text) :
    ∃ lowered : Text, lowered.filter isQuote = t.filter isQuote ∧
      Text.lower (before ++ t ++ after) = first ++ q :: (lowered ++ q :: rest) := by
  obtain ⟨lowered, hlowered⟩ := lowerAfter_append (before.reverse ++ []) t after
  have hquotes := filter_isQuote_lowerAfter (before.reverse ++ []) (t ++ after)
  rw [lowerAfter_eq_self hafter] at hlowered
  rw [hlowered, List.filter_append, List.filter_append, List.append_cancel_right_eq] at hquotes
  refine ⟨lowered, hquotes, ?_⟩
  rw [Text.lower, List.append_assoc, lowerAfter_append_of_ne hbefore, hfirst, hlowered, hrest,
    List.append_assoc, List.singleton_append]

/-- The description of an unchecked division has the common form if no apostrophe in the divisor
ends the quoted text before the divisor does. -/
lemma normalize_uncheckedDescription (divisor : Text) :
    normalizeDescription (Division.uncheckedDescription divisor) = Division.pattern ↔
      '\'' ∉ divisor := by
  have hplain : ∀ c ∈ ("Unchecked division by '" : Text), c.val ≠ 0x3A3 :=
    List.all_iff_forall_prop.mp (by decide)
  have hlow : ∀ c ∈ ("' fails when it is zero" : Text), Text.lowerChar c = [c] :=
    List.all_iff_forall_prop.mp (by decide)
  obtain ⟨lowered, hquotes, hlower⟩ := lower_quoted "Unchecked division by '"
    "' fails when it is zero" "unchecked division by " " fails when it is zero" '\'' hplain
    (by decide) hlow (by decide) divisor
  have hlower : Text.lower (Division.uncheckedDescription divisor) = _ := hlower
  have hmem : '\'' ∈ lowered ↔ '\'' ∈ divisor := by
    have hfilter : ∀ t : Text, '\'' ∈ t ↔ '\'' ∈ t.filter isQuote := by simp [isQuote]
    rw [hfilter lowered, hfilter divisor, hquotes]
  have hfirst : ∀ c ∈ ("unchecked division by " : Text), isQuote c = false :=
    List.all_iff_forall_prop.mp (by decide)
  rw [← hmem]
  constructor
  · intro hpattern hquote
    -- the first apostrophe of the divisor ends the quoted text, and the last one leaves a mark
    obtain ⟨inside, rest, rfl, hinside⟩ := List.eq_append_cons_of_mem hquote
    have hmarks := quoteMarks_normalizeDescription (Division.uncheckedDescription divisor)
    rw [hpattern, hlower, maskQuoted_append hfirst, List.append_assoc, List.cons_append,
      maskQuoted_pair (by decide) hinside, quoteMarks_append] at hmarks
    have hone : quoteMarks Division.pattern = ['*'] := by decide
    have hnone : quoteMarks "unchecked division by " = [] := by decide
    rw [hone, hnone] at hmarks
    have hlast : '\'' ∈ rest ++ '\'' :: (" fails when it is zero" : Text) := by simp
    exact quoteMarks_maskQuoted_ne_nil (by decide) hlast (List.cons.inj hmarks).2.symm
  · intro hquote
    rw [normalizeDescription, hlower, maskQuoted_append hfirst, maskQuoted_pair (by decide) hquote]
    decide +kernel

/-! ### Numbers that need a name -/

lemma matchAt_passes {p : Pattern} {s : Place} {m : Match} (h : p.matchAt s = some m) :
    p.Passes m.text := by
  obtain ⟨e, he, rfl⟩ := Option.map_eq_some_iff.mp h
  obtain ⟨u, s', hreaches, hnext⟩ := run_reaches he
  obtain rfl := Option.some.inj hnext
  have htext : (s'.before.take (s'.index - s.index)).reverse = u := by
    simp [hreaches.before_eq, hreaches.index_eq]
  rw [htext]
  exact hreaches.passes

open Pattern in
lemma digits1_passes {u : Text} (h : digits1.Passes u) :
    u ≠ [] ∧ ∀ c ∈ u, Text.isDigit c = true := by
  refine ⟨?_, fun c hc => ?_⟩
  · obtain ⟨v, w, ⟨c, -, rfl⟩, -, rfl⟩ := h
    simp
  · have hreads : (Text.isDigit c || Text.isDigit c) = true := passes_reads h c hc
    rwa [Bool.or_self] at hreads

open Pattern in
lemma number_passes {n : Text} (h : MagicNumber.number.Passes n) :
    ∃ sign digits fraction : Text, n = sign ++ (digits ++ fraction) ∧
      (sign = ['-'] ∨ sign = []) ∧ digits1.Passes digits ∧
      (fraction = [] ∨ ∃ decimals, digits1.Passes decimals ∧ fraction = '.' :: decimals) := by
  obtain ⟨_, _, ⟨_, fraction, ⟨_, digits, ⟨before, sign, hbefore, hsign, rfl⟩, hdigits, rfl⟩,
    hfraction, rfl⟩, rfl, rfl⟩ := h
  have hbefore : before = [] := hbefore
  refine ⟨sign, digits, fraction, by simp [hbefore], ?_, hdigits, ?_⟩
  · rcases hsign with ⟨c, hc, rfl⟩ | rfl
    · exact .inl (congrArg (fun c => [c]) (beq_iff_eq.mp hc))
    · exact .inr rfl
  · rcases hfraction with ⟨_, decimals, ⟨c, hc, rfl⟩, hdecimals, rfl⟩ | rfl
    · obtain rfl : c = '.' := beq_iff_eq.mp hc
      exact .inr ⟨decimals, hdecimals, rfl⟩
    · exact .inl rfl

lemma dropReferences_append {s : Text} (h : ∀ c ∈ s, c ∉ ['l', 'a', 'o']) (inWord : Bool)
    (t : Text) : ∃ inWord', dropReferences inWord 0 (s ++ t) = s ++ dropReferences inWord' 0 t := by
  induction s generalizing inWord with
  | nil => exact ⟨inWord, rfl⟩
  | cons c s ih =>
    have hnone : referenceLength? (c :: (s ++ t)) = none := by
      refine Option.eq_none_iff_forall_ne_some.mpr fun n hn => ?_
      obtain ⟨word, hword, blanks, digits, rest, ht, -⟩ := referenceLength?_eq_some hn
      have hheads : ∀ word ∈ referenceWords, word.head?.any ['l', 'a', 'o'].contains = true := by
        decide
      obtain ⟨d, hhead, hd⟩ := (Option.any_eq_true _ _).mp (hheads word hword)
      obtain ⟨r, rfl⟩ := List.head?_eq_some_iff.mp hhead
      rw [(List.cons.inj ht).1] at h
      exact h d List.mem_cons_self (List.contains_iff_mem.mp hd)
    obtain ⟨inWord', hrest⟩ := ih (fun d hd => h d (List.mem_cons_of_mem c hd)) (Text.isWordChar c)
    refine ⟨inWord', ?_⟩
    rw [List.cons_append, dropReferences, hnone, ite_self, hrest]
    rfl

lemma maskNumbers_digits {part : NumberPart} (hpart : part ≠ .outside) {ds : Text}
    (h : ∀ d ∈ ds, Text.isDigit d = true) (t : Text) :
    maskNumbers part (ds ++ t) = maskNumbers part t := by
  induction ds with
  | nil => rfl
  | cons d ds ih =>
    have hrest := ih fun c hc => h c (List.mem_cons_of_mem d hc)
    rw [List.cons_append, maskNumbers, if_pos (h d List.mem_cons_self), hrest]
    exact hpart

lemma maskNumbers_digits1 {ds : Text} (h : Pattern.digits1.Passes ds) (t : Text) :
    maskNumbers .outside (ds ++ t) = '#' :: maskNumbers .whole t := by
  obtain ⟨hne, hdigits⟩ := digits1_passes h
  obtain ⟨d, ds, rfl⟩ := List.exists_cons_of_ne_nil hne
  rw [List.cons_append, maskNumbers, if_pos (hdigits d List.mem_cons_self)]
  exact congrArg _ (maskNumbers_digits (by decide)
    (fun c hc => hdigits c (List.mem_cons_of_mem d hc)) t)

lemma maskNumbers_number {digits fraction t : Text} (hdigits : Pattern.digits1.Passes digits)
    (hfraction : fraction = [] ∨
      ∃ decimals, Pattern.digits1.Passes decimals ∧ fraction = '.' :: decimals) :
    maskNumbers .outside (digits ++ (fraction ++ ' ' :: t)) =
      '#' :: ' ' :: maskNumbers .outside t := by
  rw [maskNumbers_digits1 hdigits]
  rcases hfraction with rfl | ⟨decimals, hdecimals, rfl⟩
  · rfl
  · obtain ⟨hne, hall⟩ := digits1_passes hdecimals
    obtain ⟨d, ds, rfl⟩ := List.exists_cons_of_ne_nil hne
    have hpoint : (d :: ds ++ ' ' :: t).head?.any Text.isDigit = true :=
      hall d List.mem_cons_self
    rw [List.cons_append, maskNumbers, if_neg (by decide), if_pos ⟨rfl, rfl, hpoint⟩,
      maskNumbers_digits (by decide) hall]
    · rfl
    · decide

lemma number_chars {n : Text} (h : MagicNumber.number.Passes n) :
    ∀ c ∈ n, Text.isDigit c = true ∨ c ∈ ['-', '.'] := by
  obtain ⟨sign, digits, fraction, rfl, hsign, hdigits, hfraction⟩ := number_passes h
  refine List.forall_mem_append.mpr ⟨?_, List.forall_mem_append.mpr
    ⟨fun c hc => .inl ((digits1_passes hdigits).2 c hc), ?_⟩⟩
  · rcases hsign with rfl | rfl <;> simp
  · rcases hfraction with rfl | ⟨decimals, hdecimals, rfl⟩
    · exact List.forall_mem_nil _
    · exact List.forall_mem_cons.mpr
        ⟨.inr (by decide), fun c hc => .inl ((digits1_passes hdecimals).2 c hc)⟩

lemma describe_eq_append (n : Text) : MagicNumber.describe n =
    "Magic number " ++ (n ++ " should be a named constant") := List.append_assoc _ _ _

lemma dropReferences_describe {n : Text} (h : MagicNumber.number.Passes n) :
    dropReferences false 0 (maskQuoted none (Text.lower (MagicNumber.describe n))) =
      "magic number " ++ (n ++ ' ' :: "should be a named constant") := by
  have hchars := number_chars h
  have hplain : ∀ c ∈ ("Magic number " : Text), c.val ≠ 0x3A3 :=
    List.all_iff_forall_prop.mp (by decide)
  have hfirst : ("Magic number " : Text).flatMap Text.lowerChar = "magic number " := by decide
  have hlow : ∀ c ∈ n ++ (" should be a named constant" : Text), Text.IsLowered c := by
    have hends : ∀ c ∈ (" should be a named constant" : Text), Text.lowerChar c = [c] :=
      List.all_iff_forall_prop.mp (by decide)
    have hsigns : ∀ c ∈ ['-', '.'], Text.lowerChar c = [c] :=
      List.all_iff_forall_prop.mp (by decide)
    exact List.forall_mem_append.mpr
      ⟨fun c hc => (hchars c hc).elim isLowered_of_isDigit (hsigns c), hends⟩
  have hquotes : ∀ c ∈ n, isQuote c = false := by
    have hsigns : ∀ c ∈ ['-', '.'], isQuote c = false := List.all_iff_forall_prop.mp (by decide)
    exact fun c hc => (hchars c hc).elim isQuote_eq_false_of_isDigit (hsigns c)
  have hheads : ∀ c ∈ n, c ∉ ['l', 'a', 'o'] := by
    have hletters : ∀ c ∈ ['l', 'a', 'o'], ¬(Text.isDigit c = true ∨ c ∈ ['-', '.']) :=
      List.all_iff_forall_prop.mp (by decide)
    exact fun c hc hletter => hletters c hletter (hchars c hc)
  have hbegins : ∀ t : Text, dropReferences false 0 ("magic number " ++ t) =
      "magic number " ++ dropReferences false 0 t := fun _ => rfl
  have hends : ∀ inWord, dropReferences inWord 0
      (maskQuoted none " should be a named constant") = ' ' :: "should be a named constant" := by
    decide
  obtain ⟨inWord, hdrop⟩ := dropReferences_append hheads false
    (maskQuoted none " should be a named constant")
  have hnumber : ∀ c ∈ ("magic number " : Text), isQuote c = false :=
    List.all_iff_forall_prop.mp (by decide)
  rw [describe_eq_append, Text.lower, lowerAfter_append_of_ne hplain, hfirst,
    lowerAfter_eq_self hlow, maskQuoted_append hnumber, maskQuoted_append hquotes, hbegins, hdrop,
    hends]

lemma normalize_describe {n : Text} (h : MagicNumber.number.Passes n) :
    normalizeDescription (MagicNumber.describe n) =
      MagicNumber.pattern (Text.startsWith "Magic number -" (MagicNumber.describe n)) := by
  have hdrop := dropReferences_describe h
  obtain ⟨sign, digits, fraction, rfl, hsign, hdigits, hfraction⟩ := number_passes h
  have hfirst : ∀ c ∈ ("magic number " : Text), Text.isDigit c = false :=
    List.all_iff_forall_prop.mp (by decide)
  have hminus : ∀ c ∈ sign, Text.isDigit c = false := by
    rcases hsign with rfl | rfl <;> exact List.all_iff_forall_prop.mp (by decide)
  have hrest : ∀ c ∈ ("should be a named constant" : Text), Text.isDigit c = false :=
    List.all_iff_forall_prop.mp (by decide)
  have hsigned : Text.startsWith "Magic number -"
      (MagicNumber.describe (sign ++ (digits ++ fraction))) = decide (sign = ['-']) := by
    have hmark : ("Magic number -" : Text) = "Magic number " ++ ['-'] := by decide
    rw [Bool.eq_iff_iff, startsWith_iff, describe_eq_append, hmark, List.prefix_append_right_inj,
      decide_eq_true_iff]
    obtain ⟨hne, hall⟩ := digits1_passes hdigits
    obtain ⟨d, ds, rfl⟩ := List.exists_cons_of_ne_nil hne
    have hd : '-' ≠ d := by
      rintro rfl
      exact absurd (hall _ List.mem_cons_self) (by decide)
    rcases hsign with rfl | rfl <;> simp [hd]
  rw [normalizeDescription, hdrop, hsigned, maskNumbers_append hfirst, List.append_assoc,
    List.append_assoc, maskNumbers_append hminus, maskNumbers_number hdigits hfraction,
    maskNumbers_eq_self hrest]
  rcases hsign with rfl | rfl <;> decide +kernel

lemma magicNumber_issue {i : Inspection} {x : Issue} (hx : x ∈ MagicNumber.issues i) :
    (x.category = .readability ∧ x.severity.isCritical = false) ∧
      normalizeDescription x.description = MagicNumber.pattern (MagicNumber.isSigned x) := by
  obtain ⟨l, -, hx⟩ := List.mem_filterMap.mp hx
  obtain ⟨n, hn, rfl⟩ := Option.map_eq_some_iff.mp hx
  refine ⟨⟨rfl, rfl⟩, normalize_describe ?_⟩
  unfold MagicNumber.find? at hn
  dsimp only at hn
  split at hn
  · cases hn
  · obtain ⟨m, hm, rfl⟩ := List.mem_map.mp (List.mem_of_find?_eq_some hn)
    obtain ⟨s, -, hmatch⟩ := exists_matchAt_of_mem_all hm
    exact matchAt_passes hmatch

/-! ### Issues of divisions -/

lemma division_issue {i : Inspection} {found : List Issue} (h : Division.issues i = .ok found)
    {x : Issue} (hx : x ∈ found) :
    (x.category = .runtime ∧ x.severity.isCritical = true) ∧
      (x.description = Division.zeroDescription ∨
        ∃ divisor, x.description = Division.uncheckedDescription divisor) := by
  obtain ⟨findings, hfindings, rfl⟩ := except_map_eq_ok h
  obtain ⟨f, hf, rfl⟩ := List.mem_map.mp hx
  refine ⟨⟨rfl, rfl⟩, ?_⟩
  change f.description = Division.zeroDescription ∨
    ∃ divisor, f.description = Division.uncheckedDescription divisor
  by_cases hzero : f.description = Division.zeroDescription
  · exact .inl hzero
  · have hmem : f ∈ findings.filter (·.description != Division.zeroDescription) :=
      List.mem_filter.mpr ⟨(firstOfKey_sublist _ [] _).subset hf, bne_iff_ne.mpr hzero⟩
    rw [(judgeAll_unguarded hfindings).1] at hmem
    obtain ⟨o, ho, rfl⟩ := List.mem_map.mp hmem
    obtain ⟨op, -, ho⟩ := List.mem_filterMap.mp (List.mem_of_mem_filter ho)
    obtain ⟨divisor, -, rfl⟩ := occurrence?_eq_some ho
    exact .inr ⟨divisor, rfl⟩

lemma normalize_division {i : Inspection} {found : List Issue} (h : Division.issues i = .ok found)
    {x : Issue} (hx : x ∈ found) :
    normalizeDescription x.description = Division.pattern ↔ Division.IsPlain x := by
  rcases (division_issue h hx).2 with hzero | ⟨divisor, hdivisor⟩
  · have hpattern : normalizeDescription Division.zeroDescription ≠ Division.pattern := by
      decide +kernel
    rw [hzero]
    refine ⟨fun hnormal => absurd hnormal hpattern, ?_⟩
    rintro ⟨divisor, -, hdivisor⟩
    exact absurd (hdivisor.symm.trans hzero) (uncheckedDescription_ne_zero divisor)
  · rw [hdivisor, normalize_uncheckedDescription]
    constructor
    · exact fun hquote => ⟨divisor, hquote, hdivisor⟩
    · rintro ⟨d, hquote, hd⟩
      rwa [← uncheckedDescription_inj.mp (hd.symm.trans hdivisor)]

/-! ### Groups -/

section

variable {ι α : Type} [Scalar α] (t : Thresholds ι α) {family : List Category}
  {cache : NormalizationCache} (hcache : cache.Faithful) {issues found : List Issue}
  {category : Category} {critical : Bool}

include hcache

lemma exists_group (hcategory : category ∈ family) (hsubset : found ⊆ issues)
    (hfound : ∀ x ∈ found, x.category = category ∧ x.severity.isCritical = critical)
    {x : Issue} (hx : x ∈ found) :
    ∃ g ∈ (aggregate t family cache issues).1.groups, ∀ y ∈ found, y ∈ g.issues ↔
      normalizeDescription y.description = normalizeDescription x.description := by
  have hfamily : ∀ y ∈ found, y ∈ inFamily family issues := fun y hy =>
    List.mem_filter.mpr ⟨hsubset hy, by simpa [(hfound y hy).1] using hcategory⟩
  obtain ⟨g, hg, hkey⟩ := mem_group_keys t family hcache issues (hfamily x hx)
  refine ⟨g, hg, fun y hy => ?_⟩
  rw [group_issues t family hcache issues hg, List.mem_filter, hkey, decide_eq_true_iff,
    and_iff_right (hfamily y hy), Issue.groupKey, Issue.groupKey, (hfound x hx).1,
    (hfound x hx).2, (hfound y hy).1, (hfound y hy).2, GroupKey.mk.injEq]
  exact ⟨fun h => h.2.1, fun h => ⟨rfl, h, rfl⟩⟩

end

/-- All numbers of one sign that need a name have one normalized description, and so have all
unchecked divisions by divisors without an apostrophe. An aggregation of the issues of a unit, with
any others, has one group for each of these and puts no other of them into it. -/
theorem issues_share_patterns {ι α : Type} [Scalar α] (i : Inspection) (t : Thresholds ι α)
    (family : List Category) {cache : NormalizationCache} (hcache : cache.Faithful)
    (issues : List Issue) :
    let groups := (aggregate t family cache issues).1.groups
    (∀ x ∈ MagicNumber.issues i,
        normalizeDescription x.description = MagicNumber.pattern (MagicNumber.isSigned x)) ∧
      (∀ found, Division.issues i = .ok found → ∀ x ∈ found,
        normalizeDescription x.description = Division.pattern ↔ Division.IsPlain x) ∧
      (.readability ∈ family → MagicNumber.issues i ⊆ issues → ∀ x ∈ MagicNumber.issues i,
        ∃ g ∈ groups, ∀ y ∈ MagicNumber.issues i,
          y ∈ g.issues ↔ MagicNumber.isSigned y = MagicNumber.isSigned x) ∧
      (.runtime ∈ family → ∀ found, Division.issues i = .ok found → found ⊆ issues →
        ∀ x ∈ found, Division.IsPlain x →
          ∃ g ∈ groups, ∀ y ∈ found, y ∈ g.issues ↔ Division.IsPlain y) := by
  intro groups
  refine ⟨fun x hx => (magicNumber_issue hx).2, fun found h x hx => normalize_division h hx,
    fun hc hissues x hx => ?_, fun hc found h hissues x hx hplain => ?_⟩
  · obtain ⟨g, hg, hmem⟩ :=
      exists_group t hcache hc hissues (fun y hy => (magicNumber_issue hy).1) hx
    refine ⟨g, hg, fun y hy => ?_⟩
    have hinj : ∀ a b, MagicNumber.pattern a = MagicNumber.pattern b ↔ a = b := by decide
    rw [hmem y hy, (magicNumber_issue hx).2, (magicNumber_issue hy).2, hinj]
  · obtain ⟨g, hg, hmem⟩ :=
      exists_group t hcache hc hissues (fun y hy => (division_issue h hy).1) hx
    refine ⟨g, hg, fun y hy => ?_⟩
    rw [hmem y hy, (normalize_division h hx).mpr hplain, normalize_division h hy]

/-- Numbers with and without a sign, and divisors with and without an apostrophe. -/
def mixedPatterns : Inspection :=
  let s := Source.ofText (Language.resolve "python")
    "a = 5\nb = 7.25\nc = -3\nd = x / n\ne = x / m\nf = x / size('k', n)"
  ⟨s, ⟨s.lines.map fun _ => []⟩, s.functions⟩

lemma mixedPatterns_descriptions :
    (MagicNumber.issues mixedPatterns).map (·.description) = [MagicNumber.describe "5",
        MagicNumber.describe "7.25", MagicNumber.describe "-3"] ∧
      ∃ found, Division.issues mixedPatterns = .ok found ∧
        found.map (·.description) = [Division.uncheckedDescription "n",
          Division.uncheckedDescription "m", Division.uncheckedDescription "size('',n)"] := by
  obtain ⟨hnumbers, hdivisions⟩ :
      (MagicNumber.issues mixedPatterns).map (·.description) = [MagicNumber.describe "5",
          MagicNumber.describe "7.25", MagicNumber.describe "-3"] ∧
        (Division.issues mixedPatterns).toOption.map (·.map (·.description)) =
          some [Division.uncheckedDescription "n", Division.uncheckedDescription "m",
            Division.uncheckedDescription "size('',n)"] := by decide +kernel
  refine ⟨hnumbers, ?_⟩
  cases hfound : Division.issues mixedPatterns with
  | error e =>
    rw [hfound] at hdivisions
    cases hdivisions
  | ok found =>
    rw [hfound] at hdivisions
    exact ⟨found, rfl, Option.some.inj hdivisions⟩

/-- The first two numbers share a group without the third, and so do the divisions. -/
theorem issues_share_patterns_mixed :
    (MagicNumber.issues mixedPatterns).map (·.description) = [MagicNumber.describe "5",
        MagicNumber.describe "7.25", MagicNumber.describe "-3"] ∧
      ∃ found, Division.issues mixedPatterns = .ok found ∧
        found.map (·.description) = [Division.uncheckedDescription "n",
          Division.uncheckedDescription "m", Division.uncheckedDescription "size('',n)"] ∧
        let groups := (aggregate (Thresholds.defaults : Thresholds Int Float)
          [.readability, .runtime] .empty (MagicNumber.issues mixedPatterns ++ found)).1.groups
        (∃ g ∈ groups, ∀ y ∈ MagicNumber.issues mixedPatterns,
            y ∈ g.issues ↔ MagicNumber.isSigned y = false) ∧
          ∃ g ∈ groups, ∀ y ∈ found, y ∈ g.issues ↔ Division.IsPlain y := by
  obtain ⟨hdescribed, found, hfound, hnamed⟩ := mixedPatterns_descriptions
  obtain ⟨-, -, hnumbers, hdivisions⟩ := issues_share_patterns mixedPatterns
    (Thresholds.defaults : Thresholds Int Float) [.readability, .runtime]
    NormalizationCache.faithful_empty (MagicNumber.issues mixedPatterns ++ found)
  obtain ⟨x, hx, hfive⟩ : ∃ x ∈ MagicNumber.issues mixedPatterns,
      x.description = MagicNumber.describe "5" :=
    List.mem_map.mp (hdescribed ▸ List.mem_cons_self)
  obtain ⟨z, hz, hn⟩ : ∃ z ∈ found, z.description = Division.uncheckedDescription "n" :=
    List.mem_map.mp (hnamed ▸ List.mem_cons_self)
  have hunsigned : MagicNumber.isSigned x = false := by
    rw [MagicNumber.isSigned, hfive]
    decide
  refine ⟨hdescribed, found, hfound, hnamed, ?_, ?_⟩
  · rw [← hunsigned]
    exact hnumbers (by decide) (List.subset_append_left _ _) x hx
  · exact hdivisions (by decide) found hfound (List.subset_append_right _ _) z hz
      ⟨"n", by decide, hn⟩

/-- Not all numbers have one normalized description, and neither have all divisions that are about
no literal zero: a sign stays, and an apostrophe ends the quoted text. -/
theorem issues_split_patterns :
    (∃ x ∈ MagicNumber.issues mixedPatterns, ∃ y ∈ MagicNumber.issues mixedPatterns,
        normalizeDescription x.description ≠ normalizeDescription y.description) ∧
      ∃ found, Division.issues mixedPatterns = .ok found ∧ ∃ x ∈ found, ∃ y ∈ found,
        x.description ≠ Division.zeroDescription ∧ y.description ≠ Division.zeroDescription ∧
          normalizeDescription x.description ≠ normalizeDescription y.description := by
  obtain ⟨hdescribed, found, hfound, hnamed⟩ := mixedPatterns_descriptions
  have hnumbers : ∃ x ∈ (MagicNumber.issues mixedPatterns).map (·.description),
      ∃ y ∈ (MagicNumber.issues mixedPatterns).map (·.description),
        normalizeDescription x ≠ normalizeDescription y := by
    rw [hdescribed]
    decide +kernel
  have hdivisions : ∃ x ∈ found.map (·.description), ∃ y ∈ found.map (·.description),
      x ≠ Division.zeroDescription ∧ y ≠ Division.zeroDescription ∧
        normalizeDescription x ≠ normalizeDescription y := by
    rw [hnamed]
    decide +kernel
  simp only [List.mem_map, exists_exists_and_eq_and] at hnumbers hdivisions
  exact ⟨hnumbers, found, hfound, hdivisions⟩

end Proofs

end SourceGrade
