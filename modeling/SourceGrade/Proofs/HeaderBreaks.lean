import SourceGrade.Proofs.BraceTokens

/-!
# Line breaks in headers

A brace opens a block of the kind of the mark before it: of a keyword that no semicolon and no other
brace has made forgotten. A semicolon inside parentheses makes nothing forgotten, but parentheses
are counted anew on each line. So a line break inside parentheses bares the semicolons up to where
these are closed, and a keyword before such a semicolon is lost to the brace after it.
-/

namespace SourceGrade

namespace Braces

/-- What the kinds of blocks depend on: keywords, semicolons outside parentheses, and the braces
that open blocks. -/
inductive Mark where
  | keyword (kind : BlockKind)
  | stop
  | brace
  deriving DecidableEq, Repr

/-- The kind that a mark leaves to a brace right after it. -/
def Mark.kind? : Mark → Option BlockKind
  | keyword kind => some kind
  | stop => none
  | brace => none

def marksOf (keywords : List (Text × BlockKind)) (parens : Nat) : Token → List Mark
  | .word w afterDot => if afterDot then [] else ((keywords.lookup w).map .keyword).toList
  | .semicolon => if parens = 0 then [.stop] else []
  | .openBrace => [.brace]
  | .openParen | .closeParen | .closeBrace => []

def marksOn (keywords : List (Text × BlockKind)) : (parens : Nat) → List Token → List Mark
  | _, [] => []
  | parens, t :: ts => marksOf keywords parens t ++ marksOn keywords (parensAfter parens t) ts

/-- The marks of a part of a line, before which some parentheses are open. -/
def marks (keywords : List (Text × BlockKind)) (parens : Nat) (code : Text) : List Mark :=
  match tokens code with
  | .ok ts => marksOn keywords parens ts
  | .error _ => []

/-- A keyword is the last mark before a place and a brace the first one after it. -/
def Awaited (before after : List Mark) : Prop :=
  ((before.getLast?.bind Mark.kind?).getD .other ≠ .other) ∧ after.head? = some .brace

/-- The kinds of the blocks that marks open, when some kind is left to them. -/
def kindsAfter (pending : Option BlockKind) : List Mark → List BlockKind
  | [] => []
  | m :: ms => (if m = .brace then [pending.getD .other] else []) ++ kindsAfter m.kind? ms

def pendingAfter (pending : Option BlockKind) (ms : List Mark) : Option BlockKind :=
  ms.foldl (fun _ m => m.kind?) pending

end Braces

namespace Proofs

open Braces

variable {keywords : List (Text × BlockKind)}

/-! ### Kinds from marks -/

lemma kindsAfter_append (pending : Option BlockKind) (ms ms' : List Mark) :
    kindsAfter pending (ms ++ ms') =
      kindsAfter pending ms ++ kindsAfter (pendingAfter pending ms) ms' := by
  induction ms generalizing pending with
  | nil => rfl
  | cons m ms ih =>
    rw [List.cons_append, kindsAfter, kindsAfter, ih, List.append_assoc]
    rfl

lemma pendingAfter_append (pending : Option BlockKind) (ms ms' : List Mark) :
    pendingAfter pending (ms ++ ms') = pendingAfter (pendingAfter pending ms) ms' :=
  List.foldl_append

lemma pendingAfter_eq_getLast? (ms : List Mark) :
    pendingAfter none ms = ms.getLast?.bind Mark.kind? := by
  obtain rfl | ⟨init, m, rfl⟩ := List.eq_nil_or_concat ms
  · rfl
  · rw [List.concat_eq_append, pendingAfter_append, List.getLast?_concat]
    rfl

lemma kindsAfter_eq_iff (p p' : Option BlockKind) (ms : List Mark) :
    kindsAfter p ms = kindsAfter p' ms ↔
      p.getD .other = p'.getD .other ∨ ms.head? ≠ some .brace := by
  cases ms with
  | nil => simp [kindsAfter]
  | cons m ms =>
    rw [kindsAfter, kindsAfter, List.append_cancel_right_eq, List.head?_cons]
    by_cases hm : m = .brace
    · simp [hm]
    · simp [hm]

lemma step_pending (s : Braces.State) (parens : Nat) (t : Token) :
    (step keywords s parens t).1.pending = pendingAfter s.pending (marksOf keywords parens t) := by
  cases t with
  | word w afterDot =>
    rw [step, marksOf]
    cases keywords.lookup w with
    | none => cases afterDot <;> rfl
    | some kind => cases afterDot <;> rfl
  | semicolon =>
    rw [step, marksOf]
    split <;> rfl
  | _ => rfl

lemma openedBy_eq (s : Braces.State) (parens : Nat) (t : Token) :
    openedBy keywords s parens t = kindsAfter s.pending (marksOf keywords parens t) := by
  cases t with
  | word w afterDot =>
    rw [openedBy, if_neg (by simp), marksOf]
    cases keywords.lookup w with
    | none => cases afterDot <;> rfl
    | some kind => cases afterDot <;> rfl
  | semicolon =>
    rw [openedBy, if_neg (by simp), marksOf]
    split <;> rfl
  | _ => rfl

lemma openedOn_eq (s : Braces.State) (parens : Nat) (ts : List Token) :
    openedOn keywords s parens ts = kindsAfter s.pending (marksOn keywords parens ts) := by
  induction ts generalizing s parens with
  | nil => rfl
  | cons t ts ih =>
    rw [openedOn, marksOn, kindsAfter_append]
    dsimp only
    rw [ih, step_pending, step_parens, openedBy_eq]

lemma runLine_pending (stack : List BlockKind) (s : Braces.State) (parens : Nat)
    (ts : List Token) :
    (runLine keywords stack s parens ts).2.pending =
      pendingAfter s.pending (marksOn keywords parens ts) := by
  induction ts generalizing stack s parens with
  | nil => rfl
  | cons t ts ih => rw [runLine_cons, ih, marksOn, pendingAfter_append, step_pending, step_parens]

lemma marks_eq {code : Text} {ts : List Token} (h : tokens code = .ok ts) (parens : Nat) :
    marks keywords parens code = marksOn keywords parens ts := by
  rw [marks, h]

lemma openedFrom_eq (s : Braces.State) {codes : List Text}
    (h : ∀ code ∈ codes, ∃ ts, tokens code = .ok ts) :
    openedFrom keywords s codes =
      .ok (kindsAfter s.pending (codes.flatMap (marks keywords 0))) := by
  induction codes generalizing s with
  | nil => rfl
  | cons code codes ih =>
    obtain ⟨⟨ts, hts⟩, hcodes⟩ := List.forall_mem_cons.mp h
    rw [openedFrom, hts]
    dsimp only
    rw [ih _ hcodes, List.flatMap_cons, marks_eq hts, kindsAfter_append, runLine_pending,
      openedOn_eq]
    rfl

lemma stacksFrom_isOk_iff (keywords : List (Text × BlockKind)) (s : Braces.State)
    (codes : List Text) :
    (∃ found, stacksFrom keywords s codes = .ok found) ↔
      ∀ code ∈ codes, ∃ ts, tokens code = .ok ts := by
  induction codes generalizing s with
  | nil => simp [stacksFrom]
  | cons code codes ih =>
    rw [List.forall_mem_cons, stacksFrom]
    cases hts : tokens code with
    | error e => simp
    | ok ts =>
      dsimp only
      rw [← ih (runLine keywords s.stack s 0 ts).2]
      cases stacksFrom keywords (runLine keywords s.stack s 0 ts).2 codes with
      | error e => simp [Except.map]
      | ok found => simp [Except.map]

lemma blockMap_isOk_iff {s : Source} (hs : s.language.blockStyle = .braces) :
    (∃ m, BlockMap.ofSource s = .ok m) ↔
      ∀ code ∈ s.lines.map (·.code), ∃ ts, tokens code = .ok ts := by
  rw [← stacksFrom_isOk_iff s.language.blockKeywords ⟨[], none⟩]
  unfold BlockMap.ofSource
  rw [hs]
  constructor
  · rintro ⟨m, hm⟩
    obtain ⟨found, hfound, -⟩ := except_map_eq_ok hm
    exact ⟨found, hfound⟩
  · rintro ⟨found, hfound⟩
    exact ⟨⟨found⟩, congrArg (Except.map BlockMap.mk) hfound⟩

lemma openedKinds_eq {s : Source} (h : ∀ code ∈ s.lines.map (·.code), ∃ ts, tokens code = .ok ts) :
    openedKinds s = .ok (kindsAfter none
      ((s.lines.map (·.code)).flatMap (marks s.language.blockKeywords 0))) :=
  openedFrom_eq ⟨[], none⟩ h

/-! ### Two counts of parentheses -/

lemma marksOf_eq_nil_or_singleton (keywords : List (Text × BlockKind)) (parens : Nat) (t : Token) :
    marksOf keywords parens t = [] ∨ ∃ m, marksOf keywords parens t = [m] := by
  cases t with
  | word w afterDot =>
    rw [marksOf]
    split
    · exact .inl rfl
    · cases keywords.lookup w with
      | none => exact .inl rfl
      | some kind => exact .inr ⟨_, rfl⟩
  | semicolon =>
    rw [marksOf]
    split
    · exact .inr ⟨_, rfl⟩
    · exact .inl rfl
  | openBrace => exact .inr ⟨_, rfl⟩
  | openParen | closeParen | closeBrace => exact .inl rfl

lemma marksOf_eq_or_bared (keywords : List (Text × BlockKind)) {fewer parens : Nat}
    (hle : fewer ≤ parens) (t : Token) :
    marksOf keywords fewer t = marksOf keywords parens t ∧
        (t = .semicolon → fewer = 0 → ¬0 < parens) ∨
      t = .semicolon ∧ fewer = 0 ∧ 0 < parens := by
  by_cases ht : t = .semicolon
  · subst ht
    rcases Nat.eq_zero_or_pos fewer with hfewer | hfewer
    · rcases Nat.eq_zero_or_pos parens with hparens | hparens
      · exact .inl ⟨by rw [hfewer, hparens], fun _ _ => by omega⟩
      · exact .inr ⟨rfl, hfewer, hparens⟩
    · refine .inl ⟨?_, fun _ h => absurd h (by omega)⟩
      rw [marksOf, marksOf, if_neg (by omega), if_neg (by omega)]
  · refine .inl ⟨?_, fun h => absurd h ht⟩
    cases t with
    | semicolon => exact absurd rfl ht
    | _ => rfl

lemma parensAfter_mono {fewer parens : Nat} (hle : fewer ≤ parens) (t : Token) :
    parensAfter fewer t ≤ parensAfter parens t := by
  cases t with
  | openParen => exact Nat.succ_le_succ hle
  | closeParen => exact Nat.sub_le_sub_right hle 1
  | _ => exact hle

lemma forall_semicolon_cons {P : List Token → List Token → Prop} (t : Token) (ts : List Token) :
    (∀ a b, t :: ts = a ++ .semicolon :: b → P a b) ↔
      (t = .semicolon → P [] ts) ∧ ∀ a b, ts = a ++ .semicolon :: b → P (t :: a) b := by
  constructor
  · intro h
    refine ⟨fun ht => h [] ts (by rw [ht]; rfl), fun a b hts => h (t :: a) b ?_⟩
    rw [hts]
    rfl
  · rintro ⟨hfirst, hrest⟩ a b heq
    cases a with
    | nil =>
      obtain ⟨rfl, rfl⟩ := List.cons.inj heq
      exact hfirst rfl
    | cons d a =>
      obtain ⟨rfl, hts⟩ := List.cons.inj heq
      exact hrest a b hts

/-- What is read with fewer open parentheses opens blocks of the same kinds, except that some may be
`other`. -/
lemma kindsAfter_weaker (rest : List Mark) (ts : List Token) {fewer parens : Nat}
    (hle : fewer ≤ parens) {p p' : Option BlockKind} (hp : p' = p ∨ p' = none) :
    List.Forall₂ (fun kind' kind => kind' = kind ∨ kind' = .other)
      (kindsAfter p' (marksOn keywords fewer ts ++ rest))
      (kindsAfter p (marksOn keywords parens ts ++ rest)) := by
  have hcons : ∀ (m : Mark) {p p' : Option BlockKind} {ms ms' : List Mark}, p' = p ∨ p' = none →
      List.Forall₂ (fun kind' kind => kind' = kind ∨ kind' = .other) (kindsAfter m.kind? ms')
        (kindsAfter m.kind? ms) →
      List.Forall₂ (fun kind' kind => kind' = kind ∨ kind' = .other) (kindsAfter p' (m :: ms'))
        (kindsAfter p (m :: ms)) := by
    intro m p p' ms ms' hp h
    rw [kindsAfter, kindsAfter]
    split
    · refine .cons ?_ h
      rcases hp with rfl | rfl
      · exact .inl rfl
      · exact .inr rfl
    · exact h
  induction ts generalizing fewer parens p p' with
  | nil =>
    cases rest with
    | nil => exact .nil
    | cons m ms => exact hcons m hp (List.forall₂_same.mpr fun _ _ => .inl rfl)
  | cons t ts ih =>
    have hnext := parensAfter_mono hle t
    rw [marksOn, marksOn, List.append_assoc, List.append_assoc]
    obtain ⟨hmarks, -⟩ | ⟨rfl, rfl, hparens⟩ := marksOf_eq_or_bared keywords hle t
    · rw [hmarks]
      obtain hnil | ⟨m, hm⟩ := marksOf_eq_nil_or_singleton keywords parens t
      · rw [hnil]
        exact ih hnext hp
      · rw [hm]
        exact hcons m hp (ih hnext (.inl rfl))
    · rw [show marksOf keywords parens .semicolon = [] from if_neg (by omega)]
      exact ih hle (.inr rfl)

/-- The kinds are the same exactly if no bared semicolon stands between a keyword and its brace. -/
lemma kindsAfter_bared (rest : List Mark) (ts : List Token) {fewer parens : Nat}
    (hle : fewer ≤ parens) {p p' : Option BlockKind} (hp : p' = p ∨ p' = none) :
    kindsAfter p' (marksOn keywords fewer ts ++ rest) =
        kindsAfter p (marksOn keywords parens ts ++ rest) ↔
      (p'.getD .other = p.getD .other ∨
          (marksOn keywords parens ts ++ rest).head? ≠ some .brace) ∧
        ∀ a b, ts = a ++ .semicolon :: b → a.foldl parensAfter fewer = 0 →
          0 < a.foldl parensAfter parens →
          (pendingAfter p (marksOn keywords parens a)).getD .other = .other ∨
            (marksOn keywords (a.foldl parensAfter parens) b ++ rest).head? ≠ some .brace := by
  induction ts generalizing fewer parens p p' with
  | nil =>
    rw [marksOn, marksOn, List.nil_append, kindsAfter_eq_iff]
    simp
  | cons t ts ih =>
    have hnext := parensAfter_mono hle t
    rw [forall_semicolon_cons]
    simp only [marksOn, List.foldl_cons, pendingAfter_append, List.foldl_nil, List.append_assoc]
    obtain ⟨hmarks, hnot⟩ | ⟨rfl, rfl, hparens⟩ := marksOf_eq_or_bared keywords hle t
    · rw [hmarks]
      have hfirst : (t = .semicolon → fewer = 0 → 0 < parens →
          (pendingAfter p []).getD .other = .other ∨
            (marksOn keywords parens ts ++ rest).head? ≠ some .brace) ↔ True :=
        iff_true_intro fun ht h0 hpos => absurd hpos (hnot ht h0)
      rw [hfirst, true_and]
      obtain hnil | ⟨m, hm⟩ := marksOf_eq_nil_or_singleton keywords parens t
      · rw [hnil]
        exact ih hnext hp
      · rw [hm]
        have hrest := @ih _ _ hnext m.kind? m.kind? (.inl rfl)
        simp only [true_or, true_and] at hrest
        have hkind : pendingAfter p [m] = m.kind? := rfl
        rw [hkind, ← hrest, List.singleton_append, List.singleton_append, kindsAfter, kindsAfter,
          List.head?_cons]
        by_cases hbrace : m = .brace
        · simp [hbrace]
        · simp [hbrace]
    · have hstop : marksOf keywords 0 .semicolon = [.stop] := rfl
      have hnone : marksOf keywords parens .semicolon = [] := if_neg (by omega)
      rw [hstop, hnone]
      have hrest := @ih _ _ hle p none (.inr rfl)
      have hother : p.getD .other = .other → p'.getD .other = p.getD .other := by
        rintro h
        rcases hp with rfl | rfl
        · rfl
        · exact h.symm
      change kindsAfter none (marksOn keywords 0 ts ++ rest) =
        kindsAfter p (marksOn keywords parens ts ++ rest) ↔ _
      rw [hrest]
      constructor
      · rintro ⟨hfirst, hothers⟩
        exact ⟨hfirst.imp_left fun h => hother h.symm, fun _ _ _ => hfirst.imp_left Eq.symm,
          hothers⟩
      · rintro ⟨-, hbared, hothers⟩
        exact ⟨(hbared rfl rfl hparens).imp_left Eq.symm, hothers⟩

/-! ### A line in two parts -/

variable {x : Text}

lemma marksOn_append (parens : Nat) (a b : List Token) :
    marksOn keywords parens (a ++ b) =
      marksOn keywords parens a ++ marksOn keywords (a.foldl parensAfter parens) b := by
  induction a generalizing parens with
  | nil => rfl
  | cons t a ih =>
    rw [List.cons_append, marksOn, ih, marksOn, List.append_assoc]
    rfl

lemma openParens_tokens {code : Text} {ts : List Token} (h : tokens code = .ok ts) :
    openParens code = ts.foldl parensAfter 0 :=
  (foldl_parensAfter h (by simp) 0).symm

lemma tokens_cut {c : Char} (hc : Text.isWordChar c = false) (hdot : c ≠ '.') {u v : Text}
    {ts : List Token} (h : tokens (u ++ c :: v) = .ok ts) :
    ∃ a b, tokens u = .ok a ∧ tokens v = .ok b ∧ ts = a ++ ((tokenOf? c).toList ++ b) := by
  rw [tokens_append hc hdot] at h
  cases hu : tokens u with
  | error e =>
    rw [hu] at h
    cases h
  | ok a =>
    cases hv : tokens v with
    | error e =>
      rw [hu, hv] at h
      cases h
    | ok b =>
      rw [hu, hv] at h
      obtain rfl := Except.ok.inj h
      exact ⟨a, b, rfl, rfl, rfl⟩

lemma tokens_space {u v : Text} {a b : List Token} (hu : tokens u = .ok a) (hv : tokens v = .ok b) :
    tokens (u ++ ' ' :: v) = .ok (a ++ b) := by
  rw [tokens_append (by decide) (by decide), hu, hv]
  rfl

/-- A semicolon after a space is bared by a line break there, and comes between a keyword and its
brace, if it does so as a token. -/
lemma awaited_tokens {a b c : List Token} {u v : Text} (hx : tokens x = .ok a)
    (hu : tokens u = .ok b) (hv : tokens v = .ok c) (earlier later : List Mark) :
    (openParens u = 0 → 0 < openParens (x ++ ' ' :: u) →
      ¬Awaited (earlier ++ marks keywords 0 (x ++ ' ' :: u))
        (marks keywords (openParens (x ++ ' ' :: u)) v ++ later)) ↔
    (b.foldl parensAfter 0 = 0 → 0 < b.foldl parensAfter (a.foldl parensAfter 0) →
      (pendingAfter (pendingAfter none (earlier ++ marksOn keywords 0 a))
          (marksOn keywords (a.foldl parensAfter 0) b)).getD .other = .other ∨
        (marksOn keywords (b.foldl parensAfter (a.foldl parensAfter 0)) c ++ later).head? ≠
          some .brace) := by
  have hxu := tokens_space hx hu
  rw [openParens_tokens hu, openParens_tokens hxu, marks_eq hxu, marks_eq hv, marksOn_append,
    Awaited, ← pendingAfter_eq_getLast?, ← List.append_assoc, pendingAfter_append,
    List.foldl_append, not_and_or, not_ne_iff]

/-- A line of code that is broken at a space. The blocks of both sources have the same kinds exactly
if no keyword is cut off from its brace by a semicolon that stands in parentheses opened before the
break and in none opened after it. In any case blocks whose kinds change become `other`. -/
theorem openedKinds_lineBreak (s t : Source) (hs : s.language.blockStyle = .braces)
    (hlanguage : t.language = s.language) (before after : List Text) (x x' y : Text)
    (hx' : Text.stripRight x' = Text.stripRight x)
    (hlines : s.lines.map (·.code) = before ++ (x ++ ' ' :: y) :: after)
    (hbroken : t.lines.map (·.code) = before ++ x' :: y :: after) {m : BlockMap}
    (hm : BlockMap.ofSource s = .ok m) :
    ∃ m' kinds kinds', BlockMap.ofSource t = .ok m' ∧ openedKinds s = .ok kinds ∧
      openedKinds t = .ok kinds' ∧
      List.Forall₂ (fun kind' kind => kind' = kind ∨ kind' = .other) kinds' kinds ∧
      (kinds' = kinds ↔ ∀ u v, y = u ++ ';' :: v → openParens u = 0 →
        0 < openParens (x ++ ' ' :: u) →
        ¬Awaited
          (before.flatMap (marks s.language.blockKeywords 0) ++
            marks s.language.blockKeywords 0 (x ++ ' ' :: u))
          (marks s.language.blockKeywords (openParens (x ++ ' ' :: u)) v ++
            after.flatMap (marks s.language.blockKeywords 0))) := by
  have hsame : tokens x' = tokens x := by
    rw [← tokens_stripRight x', hx', tokens_stripRight]
  have hreads := (blockMap_isOk_iff hs).mp ⟨m, hm⟩
  obtain ⟨ts, hts⟩ := hreads (x ++ ' ' :: y) (by simp [hlines])
  obtain ⟨a, b, hx, hy, rfl⟩ := tokens_cut (by decide) (by decide) hts
  have hreads' : ∀ code ∈ t.lines.map (·.code), ∃ ts, tokens code = .ok ts := by
    rw [hbroken]
    rw [hlines] at hreads
    intro code hcode
    simp only [List.mem_append, List.mem_cons] at hcode hreads
    rcases hcode with hcode | rfl | rfl | hcode
    · exact hreads code (.inl hcode)
    · exact ⟨a, hsame.trans hx⟩
    · exact ⟨b, hy⟩
    · exact hreads code (.inr (.inr hcode))
  obtain ⟨m', hm'⟩ := (blockMap_isOk_iff (hlanguage ▸ hs)).mpr hreads'
  refine ⟨m', _, _, hm', openedKinds_eq hreads, openedKinds_eq hreads', ?_⟩
  rw [hlanguage, hlines, hbroken]
  generalize s.language.blockKeywords = keywords
  -- Up to the break the marks are the same.
  have hmarks : (before ++ (x ++ ' ' :: y) :: after).flatMap (marks keywords 0) =
      (before.flatMap (marks keywords 0) ++ marksOn keywords 0 a) ++
        (marksOn keywords (a.foldl parensAfter 0) b ++ after.flatMap (marks keywords 0)) := by
    have hspace : (tokenOf? ' ').toList ++ b = b := rfl
    rw [List.flatMap_append, List.flatMap_cons, marks_eq hts, hspace, marksOn_append]
    simp only [List.append_assoc]
  have hmarks' : (before ++ x' :: y :: after).flatMap (marks keywords 0) =
      (before.flatMap (marks keywords 0) ++ marksOn keywords 0 a) ++
        (marksOn keywords 0 b ++ after.flatMap (marks keywords 0)) := by
    rw [List.flatMap_append, List.flatMap_cons, List.flatMap_cons, marks_eq (hsame.trans hx),
      marks_eq hy]
    simp only [List.append_assoc]
  have hfront := kindsAfter_append none (before.flatMap (marks keywords 0) ++ marksOn keywords 0 a)
  rw [hmarks, hmarks', hfront, hfront, List.append_cancel_left_eq,
    kindsAfter_bared _ b (Nat.zero_le _) (.inl rfl)]
  refine ⟨List.rel_append (List.forall₂_same.mpr fun _ _ => .inl rfl)
    (kindsAfter_weaker _ b (Nat.zero_le _) (.inl rfl)), ?_⟩
  constructor
  · rintro ⟨-, h⟩ u v rfl
    obtain ⟨c, d, hu, hv, rfl⟩ := tokens_cut (by decide) (by decide) hy
    exact (awaited_tokens hx hu hv _ _).mpr (h c d rfl)
  · refine fun h => ⟨.inl rfl, fun c d hb => ?_⟩
    subst hb
    obtain ⟨u, v, rfl, -, hu, hv⟩ := tokensFrom_semicolon hy
    exact (awaited_tokens hx hu hv _ _).mp (h u v rfl)

theorem openedKinds_lineBreak_step :
    let s := Source.ofText Language.javascript "for (i = 0; i < n; i++) \x7b"
    let t := Source.ofText Language.javascript "for (i = 0; i < n;\ni++) \x7b"
    s.language.blockStyle = .braces ∧ t.language = s.language ∧
      s.lines.map (·.code) = [("for (i = 0; i < n;" : Text) ++ ' ' :: ("i++) \x7b" : Text)] ∧
      t.lines.map (·.code) = [("for (i = 0; i < n;" : Text), ("i++) \x7b" : Text)] ∧
      (∃ m, BlockMap.ofSource s = .ok m) ∧ openedKinds t = openedKinds s := by
  intro s t
  have hs : s.language.blockStyle = .braces := rfl
  have hlanguage : t.language = s.language :=
    (ofText_language _ _).trans (ofText_language _ _).symm
  have hlines : s.lines.map (·.code) =
      [("for (i = 0; i < n;" : Text) ++ ' ' :: ("i++) \x7b" : Text)] := by decide +kernel
  have hbroken : t.lines.map (·.code) = [("for (i = 0; i < n;" : Text), ("i++) \x7b" : Text)] := by
    decide +kernel
  have hm : BlockMap.ofSource s = .ok ⟨[[.loop]]⟩ := by decide +kernel
  obtain ⟨m', kinds, kinds', -, hkinds, hkinds', -, hsame⟩ :=
    openedKinds_lineBreak s t hs hlanguage [] [] "for (i = 0; i < n;" "for (i = 0; i < n;"
      "i++) \x7b" rfl hlines hbroken hm
  have heq : kinds' = kinds := by
    refine hsame.mpr fun u v huv => ?_
    have hmem : ';' ∈ ("i++) \x7b" : Text) := huv ▸ List.mem_append_right u List.mem_cons_self
    exact absurd hmem (by decide)
  exact ⟨hs, hlanguage, hlines, hbroken, ⟨_, hm⟩, by rw [hkinds, hkinds', heq]⟩

/-- A header that is broken after its first semicolon opens no loop: the second one is then outside
all parentheses of its line. -/
theorem openedKinds_brokenHeader :
    let s := Source.ofText Language.javascript "for (i = 0; i < n; i++) \x7b"
    let t := Source.ofText Language.javascript "for (i = 0;\ni < n; i++) \x7b"
    s.lines.map (·.code) = [("for (i = 0;" : Text) ++ ' ' :: ("i < n; i++) \x7b" : Text)] ∧
      t.lines.map (·.code) = [("for (i = 0;" : Text), ("i < n; i++) \x7b" : Text)] ∧
      openParens "for (i = 0;" = 1 ∧ openedKinds s = .ok [.loop] ∧
      openedKinds t = .ok [.other] := by
  decide +kernel

end Proofs

end SourceGrade
