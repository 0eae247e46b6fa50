import SourceGrade.Proofs.BalancedTexts
import SourceGrade.Proofs.FunctionLines

/-!
# Parameter lists

The parameters of a function are read up to the first closing parenthesis after the one that opens
their list, on the line of its header or on the lines after it. This is the parenthesis that closes
the list exactly if the list holds no parentheses of its own.
-/

namespace SourceGrade

namespace Pattern

/-- What a parameter list holds up to its closing parenthesis. -/
def listItems : Pattern := capture .parameters (many (noneOf ")"))

/-- A shape of declarations whose parameters are a list that a parenthesis closes, or a single word
after an equals sign. -/
inductive ListShape : Pattern → Prop where
  | list (p : Pattern) : p.fills .parameters = false → ListShape (p ++ listItems ++ ")")
  | word (p : Pattern) : p.fills .parameters = false → ListShape
      (p ++ "=" ++ blanks ++ Pattern.optional ("async" ++ blanks1) ++
        capture .parameters identifier)
  | before (p q : Pattern) : p.fills .parameters = false → ListShape q → ListShape (p ++ q)
  | after (p q : Pattern) : ListShape p → q.fills .parameters = false → ListShape (p ++ q)
  | optional (p : Pattern) : ListShape p → ListShape (Pattern.optional p)

end Pattern

/-- A slot for parameters after an opening parenthesis holds what stands up to the next closing
one. -/
def Capture.UpToParen (t : Text) (c : Capture) : Prop :=
  c.slot = .parameters → (t.take c.start).getLast? = some '(' →
    c.text = (t.drop c.start).takeWhile (· != ')')

namespace Proofs

open Pattern

variable {t : Text} {s e : Place} {next : Place → Option Place}

/-! ### Slots for parameters -/

lemma capture_text_pass (slot : Slot) (s : Place) (u r : Text) :
    (Capture.mk slot s.index (s.pass u r).index (s.pass u r).before).text = u := by
  simp [Capture.text, Place.pass]

lemma noneOf_close : noneOf ")" = .one (· != ')') := by
  rw [noneOf]
  congr 1
  funext c
  by_cases hc : c = ')' <;> simp [hc]

lemma takeWhile_of_close {u r : Text} (hu : ∀ c ∈ u, (c != ')') = true) :
    (u ++ ')' :: r).takeWhile (· != ')') = u := by
  rw [takeWhile_append_cons (by decide), List.takeWhile_eq_self_iff.mpr hu]

lemma head?_pass_ne {u r : Text} (hu : '(' ∉ u) (hs : s.before.head? ≠ some '(') :
    (s.pass u r).before.head? ≠ some '(' := by
  cases hlast : u.reverse with
  | nil => simpa [Place.pass, hlast] using hs
  | cons c w =>
    have hc : c ∈ u := List.mem_reverse.mp (hlast ▸ List.mem_cons_self)
    have hne : c ≠ '(' := fun heq => hu (heq ▸ hc)
    simpa [Place.pass, hlast] using hne

lemma not_mem_of_isBlank {u : Text} (h : ∀ c ∈ u, Text.isBlank c = true) : '(' ∉ u :=
  fun hmem => absurd (h _ hmem) (by decide)

lemma getLast?_take_index (hs : s.Of t) : (t.take s.index).getLast? = s.before.head? := by
  rw [hs.before_eq, List.head?_reverse]

lemma run_wordShape {p : Pattern} (hp : p.fills .parameters = false) (hs : s.Of t)
    (hlists : ∀ c ∈ s.captures, c.UpToParen t)
    (h : (p ++ "=" ++ blanks ++ Pattern.optional ("async" ++ blanks1) ++
      capture .parameters identifier).run s next = some e) :
    ∃ s', s'.Of t ∧ (∀ c ∈ s'.captures, c.UpToParen t) ∧ next s' = some e := by
  simp only [run_append] at h
  obtain ⟨s₁, hs₁, -, hkept, h⟩ := run_unfilled hp hs h
  have hlists₁ : ∀ c ∈ s₁.captures, c.UpToParen t :=
    fun c hc hslot => hlists c (hkept c hc hslot) hslot
  obtain ⟨r₁, hr₁, h⟩ := run_literal h
  obtain ⟨u, r₂, hr₂, hu, h⟩ := run_many_one h
  have hs₃ := (hs₁.pass hr₁).pass hr₂
  have hhead : ((s₁.pass ("=" : Text) r₁).pass u r₂).before.head? ≠ some '(' :=
    head?_pass_ne (not_mem_of_isBlank hu) (by simp [Place.pass])
  have hword : ∀ {s₄ : Place}, s₄.Of t → s₄.before.head? ≠ some '(' → s₄.captures = s₁.captures →
      (capture .parameters identifier).run s₄ next = some e →
        ∃ s', s'.Of t ∧ (∀ c ∈ s'.captures, c.UpToParen t) ∧ next s' = some e := by
    intro s₄ hs₄ hhead hcaptures h
    have hrun : identifier.run s₄ (fun s' => next { s' with
        captures := ⟨.parameters, s₄.index, s'.index, s'.before⟩ :: s'.captures }) = some e := h
    have hfree : identifier.fills .parameters = false := rfl
    obtain ⟨s₅, hs₅, hle, hkept, hnext⟩ := run_unfilled hfree hs₄ hrun
    refine ⟨_, hs₅.fill hle .parameters, List.forall_mem_cons.mpr ⟨fun _ hopen => ?_, ?_⟩, hnext⟩
    · exact absurd (getLast?_take_index hs₄ ▸ hopen) hhead
    · exact fun c hc hslot => hlists₁ c (hcaptures ▸ hkept c hc hslot) hslot
  rcases run_alt h with h | h
  · simp only [run_append, blanks1, many1] at h
    obtain ⟨r₃, hr₃, h⟩ := run_literal h
    obtain ⟨c, r₄, hr₄, hc, h⟩ := run_one h
    obtain ⟨v, r₅, hr₅, hv, h⟩ := run_many_one h
    refine hword (((hs₃.pass hr₃).pass hr₄).pass hr₅) ?_ rfl h
    apply head?_pass_ne (not_mem_of_isBlank hv)
    apply head?_pass_ne (not_mem_of_isBlank (List.forall_mem_singleton.mpr hc))
    exact head?_pass_ne (by decide) hhead
  · exact hword hs₃ hhead rfl h

lemma run_listShape {p : Pattern} (hp : p.ListShape) (hs : s.Of t)
    (hlists : ∀ c ∈ s.captures, c.UpToParen t) (h : p.run s next = some e) :
    ∃ s', s'.Of t ∧ (∀ c ∈ s'.captures, c.UpToParen t) ∧ next s' = some e := by
  induction hp generalizing s next with
  | list p hp =>
    rw [run_append, run_append] at h
    obtain ⟨s₁, hs₁, -, hkept, h⟩ := run_unfilled hp hs h
    have hrun : (Pattern.many (noneOf ")")).run s₁ (fun s' => (literal [')']).run
        { s' with captures := ⟨.parameters, s₁.index, s'.index, s'.before⟩ :: s'.captures } next) =
          some e := h
    rw [noneOf_close] at hrun
    obtain ⟨u, r, hafter, hu, hrun⟩ := run_many_one hrun
    obtain ⟨r', hr, hnext⟩ := run_literal hrun
    obtain rfl : r = ')' :: r' := hr
    have hfilled := (hs₁.pass hafter).fill (Nat.le_add_right s₁.index u.length) .parameters
    refine ⟨_, hfilled.pass rfl, List.forall_mem_cons.mpr ⟨fun _ _ => ?_,
      fun c hc hslot => hlists c (hkept c hc hslot) hslot⟩, hnext⟩
    rw [capture_text_pass, ← hs₁.after_eq, hafter]
    exact (takeWhile_of_close hu).symm
  | word p hp => exact run_wordShape hp hs hlists h
  | before p q hp hq ih =>
    obtain ⟨s₁, hs₁, -, hkept, h⟩ := run_unfilled hp hs h
    exact ih hs₁ (fun c hc hslot => hlists c (hkept c hc hslot) hslot) h
  | after p q hp hq ih =>
    obtain ⟨s₁, hs₁, hlists₁, h⟩ := ih hs hlists h
    obtain ⟨s₂, hs₂, -, hkept, h⟩ := run_unfilled hq hs₁ h
    exact ⟨s₂, hs₂, fun c hc hslot => hlists₁ c (hkept c hc hslot) hslot, h⟩
  | optional p hp ih =>
    rcases run_alt h with h | h
    · exact ih hs hlists h
    · exact ⟨s, hs, hlists, h⟩

lemma run_listItems {p : Pattern} (hp : p.fills .parameters = false) (hs : s.Of t)
    (hlists : ∀ c ∈ s.captures, c.UpToParen t) (h : (p ++ listItems).run s some = some e) :
    ∀ c ∈ e.captures, c.UpToParen t := by
  obtain ⟨s₁, hs₁, -, hkept, h⟩ := run_unfilled hp hs h
  have hrun : (Pattern.many (noneOf ")")).run s₁ (fun s' => some
      { s' with captures := ⟨.parameters, s₁.index, s'.index, s'.before⟩ :: s'.captures }) =
        some e := h
  rw [noneOf_close, run_many_one_greedy rfl] at hrun
  obtain rfl := Option.some.inj hrun
  refine List.forall_mem_cons.mpr ⟨fun _ _ => ?_,
    fun c hc hslot => hlists c (hkept c hc hslot) hslot⟩
  rw [capture_text_pass, ← hs₁.after_eq]

/-! ### The shapes of declarations -/

lemma parameterList_shape : Language.parameterList.ListShape := .list _ rfl

lemma javascript_listShape : ∀ shape ∈ Language.javascript.functions, shape.ListShape := by
  refine List.forall_mem_cons.mpr ⟨.before _ _ rfl parameterList_shape, ?_⟩
  refine List.forall_mem_cons.mpr ⟨?_, ?_⟩
  · exact .after _ _ (.after _ _ (.after _ _ (.list _ rfl) rfl) rfl) rfl
  refine List.forall_mem_cons.mpr ⟨.after _ _ (.after _ _ (.word _ rfl) rfl) rfl, ?_⟩
  refine List.forall_mem_singleton.mpr ?_
  exact .after _ _ (.after _ _ (.after _ _ (.after _ _ (.after _ _
    (.before _ _ rfl parameterList_shape) rfl) rfl) rfl) rfl) rfl

lemma generic_listShape : ∀ shape ∈ Language.generic.functions,
    shape.ListShape ∨ shape = Language.defDeclaration := by
  refine List.forall_mem_cons.mpr ⟨.inl (.before _ _ rfl parameterList_shape), ?_⟩
  refine List.forall_mem_cons.mpr ⟨.inr rfl, ?_⟩
  refine List.forall_mem_cons.mpr ⟨.inl (.before _ _ rfl parameterList_shape), ?_⟩
  refine List.forall_mem_singleton.mpr (.inl ?_)
  exact .after _ _ (.after _ _ (.after _ _ (.after _ _
    (.before _ _ rfl parameterList_shape) rfl) rfl) rfl) rfl

/-- In all languages a list is closed in the header, or the header ends with it. -/
lemma functions_listShape {l : Language} (hl : l ∈ Language.table) {shape : Pattern}
    (hshape : shape ∈ l.functions) : shape.ListShape ∨ shape = Language.defDeclaration := by
  simp only [Language.table, List.mem_cons, List.not_mem_nil, or_false] at hl
  rcases hl with rfl | rfl | rfl | rfl | rfl | rfl | rfl | rfl
  · exact .inr (List.mem_singleton.mp hshape)
  · exact .inl (javascript_listShape shape hshape)
  · obtain rfl := List.mem_singleton.mp hshape
    exact .inl (.after _ _ (.after _ _ (.after _ _ (.after _ _ (.after _ _ (.after _ _
      (.before _ _ rfl parameterList_shape) rfl) rfl) rfl) rfl) rfl) rfl)
  · obtain rfl := List.mem_singleton.mp hshape
    exact .inl (.after _ _ (.after _ _ (.after _ _ (.after _ _ (.after _ _ (.after _ _
      (.before _ _ rfl parameterList_shape) rfl) rfl) rfl) rfl) rfl) rfl)
  · obtain rfl := List.mem_singleton.mp hshape
    exact .inl (.before _ _ rfl parameterList_shape)
  · obtain rfl := List.mem_singleton.mp hshape
    exact .inl (.before _ _ rfl parameterList_shape)
  · obtain rfl := List.mem_singleton.mp hshape
    exact .inl (.before _ _ rfl (.optional _ (.list _ rfl)))
  · exact generic_listShape shape hshape

lemma search_upToParen {l : Language} (hl : l ∈ Language.table) {shape : Pattern}
    (hshape : shape ∈ l.functions) {m : Match} (hm : shape.search t = some m) :
    ∀ c ∈ m.captures, c.UpToParen t := by
  obtain ⟨s, hs, hcaptures, hmatch⟩ := exists_matchAt_of_search shape hm
  obtain ⟨e, he, rfl⟩ := Option.map_eq_some_iff.mp hmatch
  have hlists : ∀ c ∈ s.captures, c.UpToParen t := by simp [hcaptures]
  rcases functions_listShape hl hshape with hlist | rfl
  · obtain ⟨s', -, hs', hnext⟩ := run_listShape hlist hs hlists he
    obtain rfl := Option.some.inj hnext
    exact hs'
  · exact run_listItems rfl hs hlists he

/-! ### The text of a list -/

lemma forall_ne_close {u : Text} : (∀ c ∈ u, (c != ')') = true) ↔ ')' ∉ u := by
  simp only [bne_iff_ne]
  constructor
  · intro h hmem
    exact h _ hmem rfl
  · intro h c hc heq
    exact h (heq ▸ hc)

lemma takeWhile_append_of_mem {u : Text} (hu : ')' ∈ u) (v : Text) :
    (u ++ v).takeWhile (· != ')') = u.takeWhile (· != ')') := by
  obtain ⟨a, b, rfl⟩ := List.append_of_mem hu
  rw [List.append_assoc, List.cons_append, takeWhile_append_cons (by decide),
    takeWhile_append_cons (by decide)]

lemma takeWhile_join_of_mem {u : Text} (hu : ')' ∈ u) (ts : List Text) :
    (Text.join "," (u :: ts)).takeWhile (· != ')') = u.takeWhile (· != ')') := by
  cases ts with
  | nil => rfl
  | cons t ts =>
    rw [Text.join, List.append_assoc]
    exact takeWhile_append_of_mem hu _

lemma takeWhile_join {u : Text} (hu : ')' ∉ u) (ls : List SourceLine) :
    (Text.join "," (u :: ls.map (·.code))).takeWhile (· != ')') =
      Text.join "," (u :: parameterTail ls) := by
  induction ls generalizing u with
  | nil => exact List.takeWhile_eq_self_iff.mpr (forall_ne_close.mpr hu)
  | cons l ls ih =>
    have hcomma : ')' ∉ u ++ ("," : Text) := by
      rw [List.mem_append, not_or]
      exact ⟨hu, by decide⟩
    rw [List.map_cons, Text.join, List.takeWhile_append_of_pos (forall_ne_close.mpr hcomma),
      parameterTail]
    by_cases hl : ')' ∈ l.code
    · rw [if_pos (List.contains_iff_mem.mpr hl), takeWhile_join_of_mem hl]
      rfl
    · rw [if_neg (fun h => hl (List.contains_iff_mem.mp h)), ih hl]
      rfl

lemma parameterText_eq {code : Text} {m : Match} {c : Capture}
    (hc : m.capture? .parameters = some c) (hlist : c.UpToParen code)
    (hopen : (code.take c.start).getLast? = some '(') (following : List SourceLine) :
    parameterText code m following =
      (Text.join "," (code.drop c.start ::
        (following.take maxParameterLines).map (·.code))).takeWhile (· != ')') := by
  have hslot : c.slot = .parameters := by simpa using List.find?_some hc
  have hmem : '(' ∈ code.take (c.start + 1) :=
    (List.take_subset_take_left code (Nat.le_succ c.start)) (List.mem_of_getLast? hopen)
  rw [parameterText, hc]
  dsimp only
  -- a list that is not closed in its first line runs on over the following lines
  by_cases hclose : ')' ∈ code.drop c.start
  · rw [takeWhile_join_of_mem hclose, if_pos (by simp [hclose])]
    exact hlist hslot hopen
  · rw [takeWhile_join hclose, if_neg (by simp [hclose, hmem])]

/-- A text up to its first closing parenthesis belongs to what a balanced one closes. It is all of
that if no parenthesis is opened in it. -/
lemma takeWhile_balanced {inside rest : Text} (h : Balanced '(' ')' inside) :
    (inside ++ ')' :: rest).takeWhile (· != ')') <+: inside ∧
      ((inside ++ ')' :: rest).takeWhile (· != ')') = inside ↔ '(' ∉ inside) := by
  rw [takeWhile_append_cons (by decide), List.takeWhile_eq_self_iff, forall_ne_close,
    ← List.count_eq_zero, ← h.count_eq, List.count_eq_zero]
  exact ⟨List.takeWhile_prefix _, Iff.rfl⟩

/-- The parameters of a function are those of its list up to the first closing parenthesis. That is
the whole list exactly if no parenthesis is opened in it. -/
theorem parameters_upToParen {l : Language} (hl : l ∈ Language.table) (text : Text) :
    let s := Source.ofText l text
    ∀ f ∈ s.functions, (∃ d following m, s.Declares f d following m) ∧
      ∀ d following m, s.Declares f d following m → ∀ c, m.capture? .parameters = some c →
        (d.code.take c.start).getLast? = some '(' →
          let list := Text.join "," (d.code.drop c.start ::
            (following.take maxParameterLines).map (·.code))
          let read := list.takeWhile (· != ')')
          f.parameters = Parameters.names l read ∧
            f.nullableParameters = Parameters.nullable l read ∧
            ∀ inside rest, list = inside ++ ')' :: rest → Balanced '(' ')' inside →
              read <+: inside ∧ (read = inside ↔ '(' ∉ inside) := by
  intro s f hf
  refine ⟨exists_declares hf, fun d following m h c hc hopen => ?_⟩
  obtain ⟨earlier, shape, later, hshapes, -, -, hm⟩ := h.header
  obtain ⟨last, -, rfl⟩ := declares_eq h
  have hshape : shape ∈ l.functions := by
    rw [← ofText_language l text, hshapes]
    exact List.mem_append_right earlier List.mem_cons_self
  have hlist := search_upToParen hl hshape hm c (List.mem_of_find?_eq_some hc)
  dsimp only
  rw [parameterText_eq hc hlist hopen, ofText_language]
  refine ⟨rfl, rfl, fun inside rest hinside hbalanced => ?_⟩
  rw [hinside]
  exact takeWhile_balanced hbalanced

/-- A function with a parameter list over two lines. -/
def listText : Text := "def f(a, b=None,\n      c=1):\n    return b"

theorem parameters_upToParen_lines :
    let s := Source.ofText Language.python listText
    Language.python ∈ Language.table ∧ ∃ f ∈ s.functions, ∃ d following m,
      s.Declares f d following m ∧ ∃ c, m.capture? .parameters = some c ∧
        (d.code.take c.start).getLast? = some '(' ∧ ∃ inside rest,
          Text.join "," (d.code.drop c.start ::
            (following.take maxParameterLines).map (·.code)) = inside ++ ')' :: rest ∧
          Balanced '(' ')' inside ∧ f.parameters = Parameters.names Language.python inside ∧
          f.parameters = ["a", "b", "c"] ∧
          f.nullableParameters = Parameters.nullable Language.python inside ∧
          f.nullableParameters = ["b"] := by
  intro s
  have htable : Language.python ∈ Language.table := List.mem_cons_self
  have hclosed : ∃ d ∈ s.lines.head?, d.hasCode = true ∧
      ∃ m ∈ Language.defDeclaration.search d.code,
        Source.functionOf? Language.python d s.lines.tail Language.defDeclaration =
            some ⟨"f", 1, 3, ["a", "b", "c"], ["b"]⟩ ∧
          ∃ c ∈ m.capture? .parameters, (d.code.take c.start).getLast? = some '(' ∧
            Text.join "," (d.code.drop c.start ::
              (s.lines.tail.take maxParameterLines).map (·.code)) =
                "a, b=None,,      c=1" ++ ')' :: ":,    return b" := by
    decide +kernel
  obtain ⟨d, hd, hcode, m, hm, hfunction, c, hc, hopen, hlist⟩ := hclosed
  have hdeclares := declares_first hd hcode rfl hm hfunction
  have hf : (⟨"f", 1, 3, ["a", "b", "c"], ["b"]⟩ : FunctionSpan) ∈ s.functions := by
    decide +kernel
  have hbalanced : Balanced '(' ')' ("a, b=None,,      c=1" : Text) := by decide +kernel
  obtain ⟨hnames, hnullable, hinside⟩ :=
    (parameters_upToParen htable listText _ hf).2 d _ m hdeclares c hc hopen
  have hread := (hinside _ _ hlist hbalanced).2.mpr (by decide +kernel)
  rw [hread] at hnames hnullable
  exact ⟨htable, _, hf, d, _, m, hdeclares, c, hc, hopen, _, _, hlist, hbalanced, hnames, rfl,
    hnullable, rfl⟩

/-- A function with a call in a default value. -/
def callText : Text := "def f(a=g(1), b=None):\n    return b"

/-- A call in a default value ends a parameter list. -/
theorem parameters_lost :
    let s := Source.ofText Language.python callText
    ¬∀ f ∈ s.functions, ∀ d following m, s.Declares f d following m →
      ∀ c, m.capture? .parameters = some c → (d.code.take c.start).getLast? = some '(' →
        ∀ inside rest, Text.join "," (d.code.drop c.start ::
            (following.take maxParameterLines).map (·.code)) = inside ++ ')' :: rest →
          Balanced '(' ')' inside → f.parameters = Parameters.names Language.python inside ∧
            f.nullableParameters = Parameters.nullable Language.python inside := by
  intro s hall
  have hclosed : ∃ d ∈ s.lines.head?, d.hasCode = true ∧
      ∃ m ∈ Language.defDeclaration.search d.code,
        Source.functionOf? Language.python d s.lines.tail Language.defDeclaration =
            some ⟨"f", 1, 2, ["a"], []⟩ ∧
          ∃ c ∈ m.capture? .parameters, (d.code.take c.start).getLast? = some '(' ∧
            Text.join "," (d.code.drop c.start ::
              (s.lines.tail.take maxParameterLines).map (·.code)) =
                "a=g(1), b=None" ++ ')' :: ":,    return b" := by
    decide +kernel
  obtain ⟨d, hd, hcode, m, hm, hfunction, c, hc, hopen, hlist⟩ := hclosed
  have hdeclares := declares_first hd hcode rfl hm hfunction
  have hnames := hall _ (by decide +kernel) d _ m hdeclares c hc hopen _ _ hlist
    (by decide +kernel)
  exact absurd hnames.1 (by decide +kernel)

end Proofs

end SourceGrade
