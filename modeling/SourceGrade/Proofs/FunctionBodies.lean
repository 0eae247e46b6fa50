import SourceGrade.Proofs.BalancedTexts
import SourceGrade.Proofs.BraceTokens
import SourceGrade.Proofs.FunctionLines

/-!
# The bodies of functions in braces

From its header on a function is read character by character. It ends with the block that the first
opening brace opens. This brace opens its body unless it stands inside parentheses.
-/

namespace SourceGrade

namespace Extent

/-- The characters of numbered lines, each with the number of its line. -/
def spread (ls : List (Nat × Text)) : List (Nat × Char) := ls.flatMap fun l => l.2.map (l.1, ·)

/-- The characters of a function from its header on, which starts at `offset` in its first line. -/
def fromHeader (offset : Nat) (d : SourceLine) (following : List SourceLine) :
    List (Nat × Char) :=
  spread ((d.number, d.code.drop offset) :: following.map fun l => (l.number, l.code))

/-- A brace on this line closes the block that was opened before these characters. -/
def Closes (inside : List (Nat × Char)) (line : Nat) : Prop :=
  ∃ u v, inside = u ++ (line, '}') :: v ∧ Balanced '{' '}' (u.map (·.2))

/-- The line on which a block ends: the last one if no brace closes it. -/
def BlockEnds (inside : List (Nat × Char)) (last line : Nat) : Prop :=
  Closes inside line ∨ line = last ∧ ∀ n, ¬Closes inside n

/-- An opening brace after this header is the first one outside its parentheses. -/
structure OpensBody (header : Text) : Prop where
  outside : Braces.openParens header = 0
  earlier : ∀ u, u ++ ['{'] <+: header → Braces.openParens u ≠ 0

instance (header : Text) : Decidable (OpensBody header) :=
  decidable_of_iff (Braces.openParens header = 0 ∧
      ∀ u ∈ header.inits, u ++ ['{'] <+: header → Braces.openParens u ≠ 0)
    ⟨fun h => ⟨h.1, fun u hu => h.2 u
        ((List.mem_inits _ _).mpr ((List.prefix_append _ _).trans hu)) hu⟩,
      fun h => ⟨h.outside, fun u _ => h.earlier u⟩⟩

/-- The line on which the body of a function ends, its characters being read from its header on. -/
def BodyEnds (chars : List (Nat × Char)) (last line : Nat) : Prop :=
  ∃ header n inside, chars = header ++ (n, '{') :: inside ∧ OpensBody (header.map (·.2)) ∧
    BlockEnds inside last line

/-- What a body has counted after the brace that opened it and these characters, if that brace is
still open. -/
structure Body.Reads (b : Body) (t : Text) : Prop where
  opened : b.opened = true
  depth_add : b.depth + t.count '}' = t.count '{' + 1
  neverBelow : NeverBelow '{' '}' t

end Extent

namespace Proofs

open Extent

/-! ### Where bodies and blocks end is certain -/

lemma closes_unique {inside : List (Nat × Char)} {line line' : Nat} (h : Closes inside line)
    (h' : Closes inside line') : line = line' := by
  obtain ⟨u, v, rfl, hu⟩ := h
  obtain ⟨u', v', heq, hu'⟩ := h'
  have htexts := congrArg (List.map (·.2)) heq
  rw [List.map_append, List.map_append, List.map_cons, List.map_cons] at htexts
  have hlength : u.length = u'.length := by
    simpa using congrArg List.length (balanced_unique (by decide) hu hu' htexts)
  obtain ⟨-, hrest⟩ := List.append_inj heq hlength
  exact congrArg Prod.fst (List.cons.inj hrest).1

lemma blockEnds_unique {inside : List (Nat × Char)} {last line line' : Nat}
    (h : BlockEnds inside last line) (h' : BlockEnds inside last line') : line = line' := by
  rcases h with h | ⟨rfl, h⟩
  · rcases h' with h' | ⟨-, h'⟩
    · exact closes_unique h h'
    · exact absurd h (h' line)
  · rcases h' with h' | ⟨rfl, -⟩
    · exact absurd h' (h line')
    · rfl

lemma bodyEnds_unique {chars : List (Nat × Char)} {last line line' : Nat}
    (h : BodyEnds chars last line) (h' : BodyEnds chars last line') : line = line' := by
  obtain ⟨header, n, inside, rfl, hopens, hends⟩ := h
  obtain ⟨header', n', inside', heq, hopens', hends'⟩ := h'
  have htexts := congrArg (List.map (·.2)) heq
  rw [List.map_append, List.map_append, List.map_cons, List.map_cons] at htexts
  have hheader := append_cons_unique htexts
    (fun hprefix => hopens'.earlier _ hprefix hopens.outside)
    (fun hprefix => hopens.earlier _ hprefix hopens'.outside)
  have hlength : header.length = header'.length := by
    simpa using congrArg List.length hheader
  obtain ⟨-, hrest⟩ := List.append_inj heq hlength
  obtain ⟨-, rfl⟩ := List.cons.inj hrest
  exact blockEnds_unique hends hends'

/-! ### Reading a header -/

lemma read_header (parens : Nat) {c : Char} (hc : c ≠ '{') :
    Body.read ⟨0, parens, false⟩ c = .refused ∨
      ∃ parens', Body.read ⟨0, parens, false⟩ c = .going ⟨0, parens', false⟩ := by
  unfold Body.read
  split
  · exact .inr ⟨_, rfl⟩
  · exact .inr ⟨_, rfl⟩
  · split
    · exact .inl rfl
    · exact .inr ⟨_, rfl⟩
  · exact absurd rfl hc
  · exact .inr ⟨_, rfl⟩
  · exact .inr ⟨_, rfl⟩

lemma readAll_header (parens : Nat) (t : Text) :
    Body.readAll ⟨0, parens, false⟩ t = .refused ∨
      (∃ parens', '{' ∉ t ∧ Body.readAll ⟨0, parens, false⟩ t = .going ⟨0, parens', false⟩) ∨
      ∃ u v parens', t = u ++ '{' :: v ∧ '{' ∉ u ∧
        Body.readAll ⟨0, parens, false⟩ t = Body.readAll ⟨1, parens', true⟩ v := by
  induction t generalizing parens with
  | nil => exact .inr (.inl ⟨parens, List.not_mem_nil, rfl⟩)
  | cons c t ih =>
    by_cases hc : c = '{'
    · subst hc
      exact .inr (.inr ⟨[], t, parens, rfl, List.not_mem_nil, rfl⟩)
    · rw [Body.readAll]
      rcases read_header parens hc with hread | ⟨parens', hread⟩
      · rw [hread]
        exact .inl rfl
      · rw [hread]
        dsimp only
        rcases ih parens' with h | ⟨p, ht, h⟩ | ⟨u, v, p, rfl, hu, h⟩
        · exact .inl h
        · refine .inr (.inl ⟨p, ?_, h⟩)
          simp [ht, Ne.symm hc]
        · refine .inr (.inr ⟨c :: u, v, p, rfl, ?_, h⟩)
          simp [hu, Ne.symm hc]

/-! ### Reading a body -/

lemma read_body {b : Body} {t : Text} (hb : b.Reads t) (c : Char) :
    (c = '}' ∧ b.read c = .closed ∧ Balanced '{' '}' t) ∨
      ∃ b', b.read c = .going b' ∧ b'.Reads (t ++ [c]) := by
  obtain ⟨hopened, hdepth, hbelow⟩ := hb
  have hkeep : ∀ {b' : Body}, b'.opened = true →
      b'.depth + (t ++ [c]).count '}' = (t ++ [c]).count '{' + 1 → 0 < b'.depth →
      b'.Reads (t ++ [c]) := fun hopened hdepth hpos =>
    ⟨hopened, hdepth, neverBelow_append_singleton hbelow (by omega)⟩
  have hpos : 0 < b.depth := by
    have := hbelow t (List.prefix_refl t)
    omega
  rw [List.count_append, List.count_append] at hkeep
  unfold Body.read
  split
  · exact .inr ⟨_, rfl, hkeep hopened (by simpa using hdepth) hpos⟩
  · exact .inr ⟨_, rfl, hkeep hopened (by simpa using hdepth) hpos⟩
  · rw [hopened]
    exact .inr ⟨_, rfl, hkeep hopened (by simpa using hdepth) hpos⟩
  · refine .inr ⟨_, rfl, hkeep rfl ?_ (Nat.succ_pos _)⟩
    simp
    omega
  · rw [if_pos hopened]
    by_cases hone : b.depth = 1
    · rw [if_pos hone]
      exact .inl ⟨rfl, rfl, hbelow, by omega⟩
    · rw [if_neg hone]
      refine .inr ⟨_, rfl, hkeep hopened ?_ (Nat.sub_pos_of_lt (by omega))⟩
      simp
      omega
  · next hopen hclose =>
    refine .inr ⟨_, rfl, hkeep hopened ?_ hpos⟩
    have hopen : c ≠ '{' := hopen
    have hclose : c ≠ '}' := hclose
    simpa [List.count_singleton, hopen, hclose] using hdepth

lemma readAll_body {b : Body} {before : Text} (hb : b.Reads before) (t : Text) :
    (∃ u v, t = u ++ '}' :: v ∧ b.readAll t = .closed ∧ Balanced '{' '}' (before ++ u)) ∨
      ∃ b', b.readAll t = .going b' ∧ b'.Reads (before ++ t) := by
  induction t generalizing b before with
  | nil => exact .inr ⟨b, rfl, by rwa [List.append_nil]⟩
  | cons c t ih =>
    rw [Body.readAll]
    rcases read_body hb c with ⟨rfl, hread, hbalanced⟩ | ⟨b', hread, hb'⟩
    · rw [hread]
      exact .inl ⟨[], t, rfl, rfl, by rwa [List.append_nil]⟩
    · rw [hread]
      dsimp only
      rcases ih hb' with ⟨u, v, rfl, hclosed, hbalanced⟩ | ⟨b'', hgoing, hb''⟩
      · exact .inl ⟨c :: u, v, rfl, hclosed, by simpa using hbalanced⟩
      · exact .inr ⟨b'', hgoing, by simpa using hb''⟩

/-! ### Reading lines -/

lemma spread_cons (n : Nat) (t : Text) (ls : List (Nat × Text)) :
    spread ((n, t) :: ls) = t.map (n, ·) ++ spread ls := by
  simp [spread]

lemma map_snd_mk (n : Nat) (t : Text) : (t.map (n, ·)).map (·.2) = t := by
  simp [Function.comp_def]

lemma bracedFrom_body {b : Body} {before : Text} (hb : b.Reads before) {index last e : Nat}
    {ls : List (Nat × Text)} (h : bracedFrom b index last ls = some e) :
    (∃ u v, spread ls = u ++ (e, '}') :: v ∧ Balanced '{' '}' (before ++ u.map (·.2))) ∨
      e = (ls.map (·.1)).getLastD last ∧
        NeverBelow '{' '}' (before ++ (spread ls).map (·.2)) := by
  induction ls generalizing b before index last with
  | nil =>
    rw [bracedFrom, if_pos hb.opened] at h
    right
    exact ⟨(Option.some.inj h).symm, by simpa [spread] using hb.neverBelow⟩
  | cons l ls ih =>
    obtain ⟨n, t⟩ := l
    rw [bracedFrom] at h
    rw [spread_cons]
    rcases readAll_body hb t with ⟨u, v, rfl, hclosed, hbalanced⟩ | ⟨b', hgoing, hb'⟩
    · rw [hclosed] at h
      obtain rfl := Option.some.inj h
      exact .inl ⟨u.map (n, ·), v.map (n, ·) ++ spread ls, by simp, by rwa [map_snd_mk]⟩
    · rw [hgoing] at h
      have hgo : bracedFrom b' (index + 1) n ls = some e := by simpa [hb'.opened] using h
      rcases ih hb' hgo with ⟨u, v, hls, hbalanced⟩ | ⟨hlast, hbelow⟩
      · refine .inl ⟨t.map (n, ·) ++ u, v, by rw [hls, List.append_assoc], ?_⟩
        rwa [List.map_append, map_snd_mk, ← List.append_assoc]
      · refine .inr ⟨by rwa [List.map_cons, List.getLastD_cons], ?_⟩
        rwa [List.map_append, map_snd_mk, ← List.append_assoc]

/-- Lines that are read from a header on end with the block of the first opening brace. -/
lemma bracedFrom_header {parens index last e : Nat} {ls : List (Nat × Text)}
    (h : bracedFrom ⟨0, parens, false⟩ index last ls = some e) :
    ∃ header n inside, spread ls = header ++ (n, '{') :: inside ∧ '{' ∉ header.map (·.2) ∧
      BlockEnds inside ((ls.map (·.1)).getLastD last) e := by
  induction ls generalizing parens index last with
  | nil => cases h
  | cons l ls ih =>
    obtain ⟨n, t⟩ := l
    rw [spread_cons]
    rcases readAll_header parens t with hread | ⟨p, ht, hread⟩ | ⟨u, v, p, rfl, hu, hread⟩
    · rw [bracedFrom, hread] at h
      cases h
    · rw [bracedFrom, hread] at h
      dsimp only at h
      split at h
      · cases h
      · obtain ⟨header, n', inside, hls, hheader, hends⟩ := ih h
        refine ⟨t.map (n, ·) ++ header, n', inside, by rw [hls, List.append_assoc], ?_, ?_⟩
        · rw [List.map_append, map_snd_mk, List.mem_append, not_or]
          exact ⟨ht, hheader⟩
        · rwa [List.map_cons, List.getLastD_cons]
    · -- the rest of the line after the brace is read like a first line of the body
      refine ⟨u.map (n, ·), n, v.map (n, ·) ++ spread ls, by simp, by rwa [map_snd_mk], ?_⟩
      have hopen : (⟨1, p, true⟩ : Body).Reads [] := ⟨rfl, rfl, neverBelow_nil⟩
      have hbody : bracedFrom ⟨1, p, true⟩ index last ((n, v) :: ls) = some e := by
        rw [bracedFrom, ← hread]
        rwa [bracedFrom] at h
      have hcases := bracedFrom_body hopen hbody
      rw [spread_cons] at hcases
      rcases hcases with hclosed | ⟨hlast, hbelow⟩
      · exact .inl hclosed
      · refine .inr ⟨hlast, ?_⟩
        rintro line ⟨u', v', hinside, hu'⟩
        rw [hinside, List.nil_append] at hbelow
        apply not_prefix_of_balanced (by decide) hu' hbelow
        simp

/-! ### Functions -/

lemma ofText_last_number (l : Language) (t : Text) {before following : List SourceLine}
    {d : SourceLine} (h : (Source.ofText l t).lines = before ++ d :: following) :
    (following.map (·.number)).getLastD d.number = (Source.ofText l t).lineCount := by
  have hlast : (Source.ofText l t).lines[before.length + following.length]? =
      some ((d :: following).getLast (List.cons_ne_nil _ _)) := by
    rw [h, List.getElem?_append_right (Nat.le_add_right _ _), Nat.add_sub_cancel_left,
      ← List.getLast?_eq_some_getLast, List.getLast?_eq_getElem?]
    rfl
  have hcons : ((d :: following).map (·.number)).getLastD d.number =
      (following.map (·.number)).getLastD d.number := List.getLastD_cons
  rw [← hcons, List.getLastD_eq_getLast?, List.getLast?_map,
    List.getLast?_eq_some_getLast (List.cons_ne_nil _ _), Option.map_some, Option.getD_some,
    ofText_number l t hlast, Source.lineCount, h, List.length_append, List.length_cons,
    Nat.add_assoc]

lemma opensBody_iff {header : Text} (h : '{' ∉ header) :
    OpensBody header ↔ Braces.openParens header = 0 := by
  refine ⟨OpensBody.outside, fun hparens => ⟨hparens, fun u hu => ?_⟩⟩
  exact absurd (hu.subset (by simp)) h

/-- A function in braces ends with the block that the first opening brace from its header on opens.
This brace opens its body exactly if it stands outside parentheses. -/
theorem endLine_ends_firstBlock {l : Language} (hstyle : l.blockStyle = .braces) (text : Text) :
    let s := Source.ofText l text
    ∀ f ∈ s.functions, (∃ d following m, s.Declares f d following m) ∧
      ∀ d following m, s.Declares f d following m → ∃ header n inside,
        fromHeader m.start d following = header ++ (n, '{') :: inside ∧
          '{' ∉ header.map (·.2) ∧ BlockEnds inside s.lineCount f.endLine ∧
          (OpensBody (header.map (·.2)) ↔ Braces.openParens (header.map (·.2)) = 0) := by
  intro s f hf
  refine ⟨exists_declares hf, fun d following m h => ?_⟩
  obtain ⟨last, hend, rfl⟩ := declares_eq h
  have hbraces : s.language.blockStyle = .braces := by rw [ofText_language, hstyle]
  rw [hbraces] at hend
  obtain ⟨header, n, inside, hchars, hheader, hends⟩ := bracedFrom_header hend
  obtain ⟨before, hlines⟩ := h.lines
  refine ⟨header, n, inside, hchars, hheader, ?_, opensBody_iff hheader⟩
  rw [List.map_cons, List.getLastD_cons, List.map_map] at hends
  rw [← ofText_last_number l text hlines]
  exact hends

/-- A function with a block in its body. -/
def bodyText : Text :=
  "function f(a, b) \x7b\n  if (a) \x7b\n    g(b);\n  \x7d\n  return b;\n\x7d\nh();"

theorem endLine_ends_firstBlock_nested :
    let s := Source.ofText Language.javascript bodyText
    Language.javascript.blockStyle = .braces ∧ ∃ f ∈ s.functions, f.endLine = 6 ∧
      (∃ d following m, s.Declares f d following m) ∧
        ∀ d following m, s.Declares f d following m → ∃ header n inside,
          fromHeader m.start d following = header ++ (n, '{') :: inside ∧
            '{' ∉ header.map (·.2) ∧ BlockEnds inside s.lineCount f.endLine ∧
            (OpensBody (header.map (·.2)) ↔ Braces.openParens (header.map (·.2)) = 0) := by
  intro s
  have hf : (⟨"f", 1, 6, ["a", "b"], ["a", "b"]⟩ : FunctionSpan) ∈ s.functions := by
    decide +kernel
  exact ⟨rfl, _, hf, rfl, endLine_ends_firstBlock rfl bodyText _ hf⟩

/-- A function with a default value in braces. -/
def defaultText : Text := "function f(o = \x7b\x7d) \x7b\n  return o;\n\x7d"

/-- A default value in braces ends a function before its body. -/
theorem endLine_defaultValue :
    let s := Source.ofText Language.javascript defaultText
    ¬∀ f ∈ s.functions, ∀ d following m, s.Declares f d following m →
      BodyEnds (fromHeader m.start d following) s.lineCount f.endLine := by
  intro s hbody
  have hclosed : ∃ d ∈ s.lines.head?, d.hasCode = true ∧
      ∃ shape ∈ Language.javascript.functions.head?, ∃ m ∈ shape.search d.code,
        Source.functionOf? Language.javascript d s.lines.tail shape =
            some ⟨"f", 1, 1, ["o"], ["o"]⟩ ∧
          fromHeader m.start d s.lines.tail =
            ("function f(o = \x7b\x7d) " : Text).map (1, ·) ++ (1, '{') ::
              (("  return o;" : Text).map (2, ·) ++ [(3, '}')]) := by
    decide +kernel
  obtain ⟨d, hd, hcode, shape, hshape, m, hm, hfunction, hchars⟩ := hclosed
  have hdeclares := declares_first hd hcode hshape hm hfunction
  have hends := hbody _ (by decide +kernel) d _ m hdeclares
  have hclaim : BodyEnds (fromHeader m.start d s.lines.tail) s.lineCount 3 :=
    ⟨_, _, _, hchars, by decide +kernel, .inl ⟨_, _, rfl, by decide +kernel⟩⟩
  exact absurd (bodyEnds_unique hends hclaim) (by decide)

end Proofs

end SourceGrade
