import SourceGrade.Proofs.TextOrder
import SourceGrade.Proofs.WrittenNumbers

/-!
# Values on one line

A value that is written on one line ends at the first comma or closing bracket outside its own
brackets and strings. So the texts of the members can be read off the text of an object.
-/

namespace SourceGrade.Proofs

/-! ### Hexadecimal digits -/

lemma hexDigit_of_mem_toDigits (n : Nat) :
    ∀ c ∈ Nat.toDigits 16 n, c ∈ ("0123456789abcdef" : Text) := by
  have hdigit : ∀ d < 16, Nat.digitChar d ∈ ("0123456789abcdef" : Text) := by decide
  induction n using Nat.strongRecOn with
  | ind n ih =>
    rcases Nat.lt_or_ge n 16 with hlt | hge
    · rw [Nat.toDigits_of_lt_base hlt]
      exact List.forall_mem_singleton.mpr (hdigit n hlt)
    · rw [Nat.toDigits_of_base_le (by decide) hge]
      refine List.forall_mem_append.mpr ⟨ih (n / 16) (by omega), ?_⟩
      exact List.forall_mem_singleton.mpr (hdigit _ (Nat.mod_lt n (by decide)))

/-! ### The end of a value -/

/-- Where a reader of JSON stands. -/
inductive ReaderPlace where
  | outside | quoted | escaped

/-- The rest of a text from the end of a value on, inside so many brackets. -/
def restAfter (depth : Nat) : ReaderPlace → Text → Text
  | _, [] => []
  | .escaped, _ :: r => restAfter depth .quoted r
  | .quoted, c :: r =>
    if c = '\\' then restAfter depth .escaped r
    else if c = '"' then restAfter depth .outside r
    else restAfter depth .quoted r
  | .outside, c :: r =>
    if c = '"' then restAfter depth .quoted r
    else if c = '[' ∨ c = '{' then restAfter (depth + 1) .outside r
    else if c = ']' ∨ c = '}' then
      match depth with
      | 0 => c :: r
      | depth + 1 => restAfter depth .outside r
    else if c = ',' ∧ depth = 0 then c :: r
    else restAfter depth .outside r

/-- A text inside so many brackets at which no value ends. -/
def PassedOver (depth : Nat) (t : Text) : Prop :=
  ∀ r, restAfter depth .outside (t ++ r) = restAfter depth .outside r

lemma passedOver_nil (depth : Nat) : PassedOver depth [] := fun _ => rfl

lemma PassedOver.append {depth : Nat} {s t : Text} (hs : PassedOver depth s)
    (ht : PassedOver depth t) : PassedOver depth (s ++ t) := by
  intro r
  rw [List.append_assoc, hs, ht]

/-- Characters that tell a reader where it stands. -/
def isMark (c : Char) : Bool := (['"', '[', '{', ']', '}', ','] : Text).contains c

lemma passedOver_of_plain (depth : Nat) {t : Text} (h : ∀ c ∈ t, isMark c = false) :
    PassedOver depth t := by
  intro r
  induction t with
  | nil => rfl
  | cons c t ih =>
    obtain ⟨hc, ht⟩ := List.forall_mem_cons.mp h
    simp only [isMark, List.contains_eq_mem, List.mem_cons, List.not_mem_nil, or_false,
      decide_eq_false_iff_not, not_or] at hc
    rw [List.cons_append, restAfter.eq_def]
    simp only [hc, or_self, false_and, if_false]
    exact ih ht

lemma passedOver_separator (depth : Nat) : PassedOver (depth + 1) ", " := fun _ => rfl

lemma PassedOver.list {depth : Nat} {t : Text} (h : PassedOver (depth + 1) t) :
    PassedOver depth ('[' :: (t ++ [']'])) := by
  intro r
  rw [List.cons_append, List.append_assoc]
  change restAfter (depth + 1) .outside (t ++ ([']'] ++ r)) = _
  rw [h]
  rfl

lemma PassedOver.object {depth : Nat} {t : Text} (h : PassedOver (depth + 1) t) :
    PassedOver depth ('{' :: (t ++ ['}'])) := by
  intro r
  rw [List.cons_append, List.append_assoc]
  change restAfter (depth + 1) .outside (t ++ (['}'] ++ r)) = _
  rw [h]
  rfl

/-- A text inside a string at which the string does not end. -/
def PassedInString (depth : Nat) (t : Text) : Prop :=
  ∀ r, restAfter depth .quoted (t ++ r) = restAfter depth .quoted r

lemma PassedInString.append {depth : Nat} {s t : Text} (hs : PassedInString depth s)
    (ht : PassedInString depth t) : PassedInString depth (s ++ t) := by
  intro r
  rw [List.append_assoc, hs, ht]

lemma PassedInString.flatMap {depth : Nat} {β : Type} {f : β → Text}
    (h : ∀ b, PassedInString depth (f b)) (bs : List β) :
    PassedInString depth (bs.flatMap f) := by
  induction bs with
  | nil => exact fun _ => rfl
  | cons b bs ih =>
    rw [List.flatMap_cons]
    exact (h b).append ih

lemma passedInString_of_plain (depth : Nat) {t : Text} (h : ∀ c ∈ t, c ≠ '\\' ∧ c ≠ '"') :
    PassedInString depth t := by
  intro r
  induction t with
  | nil => rfl
  | cons c t ih =>
    obtain ⟨⟨hbackslash, hquote⟩, ht⟩ := List.forall_mem_cons.mp h
    rw [List.cons_append, restAfter, if_neg hbackslash, if_neg hquote]
    exact ih ht

lemma passedInString_unitEscape (depth n : Nat) : PassedInString depth (Json.unitEscape n) := by
  have hdigits : PassedInString depth (Json.hexDigits n) := by
    apply passedInString_of_plain
    intro c hc
    have hplain : ("0123456789abcdef" : Text).all (fun c => c != '\\' && c != '"') = true := by
      decide
    suffices hdigit : c ∈ ("0123456789abcdef" : Text) by
      simpa using List.all_eq_true.mp hplain c hdigit
    obtain hc | hc := List.mem_append.mp hc
    · rw [(List.mem_replicate.mp hc).2]
      decide
    · exact hexDigit_of_mem_toDigits n c hc
  exact fun r => hdigits r

lemma passedInString_writeChar (depth : Nat) (c : Char) :
    PassedInString depth (Json.writeChar c) := by
  unfold Json.writeChar
  split
  · exact fun _ => rfl
  · next hquote =>
    split
    · exact fun _ => rfl
    · next hbackslash =>
      iterate 5 split; exact fun _ => rfl
      dsimp only
      split
      · exact passedInString_of_plain depth (List.forall_mem_singleton.mpr ⟨hbackslash, hquote⟩)
      · split
        · exact passedInString_unitEscape depth _
        · exact (passedInString_unitEscape depth _).append (passedInString_unitEscape depth _)

lemma PassedInString.quoted {depth : Nat} {t : Text} (h : PassedInString depth t) :
    PassedOver depth ('"' :: (t ++ ['"'])) := by
  intro r
  rw [List.cons_append, List.append_assoc]
  change restAfter depth .quoted (t ++ (['"'] ++ r)) = _
  rw [h]
  rfl

lemma passedOver_writeString (depth : Nat) (t : Text) :
    PassedOver depth (Json.writeString t) :=
  (PassedInString.flatMap (passedInString_writeChar depth) t).quoted

lemma passedOver_writePoints (depth : Nat) (t : CodePoints) :
    PassedOver depth (Json.writePoints t) := by
  refine (PassedInString.flatMap (fun p => ?_) t).quoted
  cases p with
  | char c => exact passedInString_writeChar depth c
  | surrogate unit => exact passedInString_unitEscape depth _

/-! ### Values -/

lemma isMark_of_digit {c : Char} (h : Text.isAsciiDigit c = true) : isMark c = false := by
  cases hmark : isMark c with
  | false => rfl
  | true =>
    have hmarks : (['"', '[', '{', ']', '}', ','] : Text).all (!Text.isAsciiDigit ·) = true := by
      decide
    have hother := List.all_eq_true.mp hmarks c (List.contains_iff_mem.mp hmark)
    rw [h] at hother
    cases hother

lemma isMark_ofInt (n : Int) : ∀ c ∈ Text.ofInt n, isMark c = false := by
  cases n with
  | ofNat n => exact fun c hc => isMark_of_digit (isAsciiDigit_ofNat n c hc)
  | negSucc n =>
    exact List.forall_mem_cons.mpr
      ⟨by decide, fun c hc => isMark_of_digit (isAsciiDigit_ofNat _ c hc)⟩

/-- No text with a mark. -/
abbrev NoMarks (t : Text) : Prop := ∀ c ∈ t, isMark c = false

lemma noMarks_of_digits {t : Text} (h : AllDigits t) : NoMarks t :=
  fun c hc => isMark_of_digit (h c hc)

lemma noMarks_of_all {t : Text} (h : t.all (!isMark ·) = true) : NoMarks t := by
  intro c hc
  simpa using List.all_eq_true.mp h c hc

lemma NoMarks.append {s t : Text} (hs : NoMarks s) (ht : NoMarks t) : NoMarks (s ++ t) :=
  List.forall_mem_append.mpr ⟨hs, ht⟩

lemma noMarks_positional {digits : Text} (h : AllDigits digits) (point : Int) :
    NoMarks (Decimal.positional digits point) := by
  have hpoint : NoMarks ['.'] := noMarks_of_all (by decide)
  have hzeros : ∀ n, NoMarks (List.replicate n '0') := fun n =>
    noMarks_of_digits (allDigits_zeros n)
  have hrest : NoMarks (if (digits.drop point.toNat).isEmpty then ("0" : Text)
      else digits.drop point.toNat) := by
    split
    · exact noMarks_of_all (by decide)
    · exact noMarks_of_digits (h.sublist (List.drop_sublist _ _))
  have hwhole : NoMarks (digits.take point.toNat) :=
    noMarks_of_digits (h.sublist (List.take_sublist _ _))
  unfold Decimal.positional
  split
  · have hstart : NoMarks "0." := noMarks_of_all (by decide)
    exact hstart.append ((hzeros _).append (noMarks_of_digits h))
  · exact ((hwhole.append (hzeros _)).append hpoint).append hrest

lemma noMarks_scientific {digits : Text} (h : AllDigits digits) (point : Int) :
    NoMarks (Decimal.scientific digits point) := by
  have hplaces : NoMarks (if digits.length ≤ 1 then [] else '.' :: digits.drop 1) := by
    split
    · exact List.forall_mem_nil _
    · exact List.forall_mem_cons.mpr
        ⟨by decide, noMarks_of_digits (h.sublist (List.drop_sublist _ _))⟩
  have hexponent : NoMarks (if point - 1 < 0 then ("e-" : Text) else "e+") := by
    split <;> exact noMarks_of_all (by decide)
  have hfirst : NoMarks (digits.take 1) := noMarks_of_digits (h.sublist (List.take_sublist _ _))
  unfold Decimal.scientific
  exact ((hfirst.append hplaces).append hexponent).append
    (noMarks_of_digits ((allDigits_zeros _).append (isAsciiDigit_ofNat _)))

lemma noMarks_writeReal (x : Float) : NoMarks (Json.writeReal x) := by
  cases hx : Binary.ofFloat? x with
  | none =>
    have hnames : nonFiniteNames.all (·.all (!isMark ·)) = true := by decide
    exact noMarks_of_all (List.all_eq_true.mp hnames _ (writeReal_mem_nonFiniteNames hx))
  | some b =>
    rw [writeReal_eq_shortest hx]
    have hsign : NoMarks (if b.negative then ("-" : Text) else "") := by
      split <;> exact noMarks_of_all (by decide)
    have hdigits := fun n => allDigits_dropFinalZeros (isAsciiDigit_ofNat n)
    unfold Decimal.shortest
    rw [hx]
    dsimp only
    split
    · exact hsign.append (noMarks_of_all (by decide))
    · apply hsign.append
      split
      · exact noMarks_positional (hdigits _) _
      · exact noMarks_scientific (hdigits _) _

/-! ### All values -/

section

variable (level : Nat) (value : Json)

lemma write_list_cons (items : List Json) :
    Json.write .line level (.list (value :: items)) =
      '[' :: (Json.write .line (level + 1) value ++ Json.writeItems .line level items ++
        [']']) := by
  simp [Json.write, Json.Layout.line]

lemma write_object_cons (name : Text) (members : List (Text × Json)) :
    Json.write .line level (.object ((name, value) :: members)) =
      '{' :: (Json.writeString name ++ ": " ++ Json.write .line (level + 1) value ++
        Json.writeMembers .line level members ++ ['}']) := by
  simp [Json.write, Json.Layout.line]

lemma write_wideObject_cons (name : CodePoints) (members : List (CodePoints × Json)) :
    Json.write .line level (.wideObject ((name, value) :: members)) =
      '{' :: (Json.writePoints name ++ ": " ++ Json.write .line (level + 1) value ++
        Json.writeWideMembers .line level members ++ ['}']) := by
  simp [Json.write, Json.Layout.line]

end

lemma passedOver_colon (depth : Nat) : PassedOver depth ": " :=
  passedOver_of_plain depth (noMarks_of_all (by decide))

mutual

lemma passedOver_write (depth level : Nat) :
    ∀ v : Json, PassedOver depth (Json.write .line level v)
  | .null => fun _ => rfl
  | .bool true => fun _ => rfl
  | .bool false => fun _ => rfl
  | .int n => passedOver_of_plain depth (isMark_ofInt n)
  | .real x => passedOver_of_plain depth (noMarks_writeReal x)
  | .text t => passedOver_writeString depth t
  | .codePoints t => passedOver_writePoints depth t
  | .list [] => (passedOver_nil _).list
  | .list (item :: items) => by
    rw [write_list_cons]
    exact ((passedOver_write (depth + 1) (level + 1) item).append
      (passedOver_writeItems depth level items)).list
  | .object [] => (passedOver_nil _).object
  | .object ((name, value) :: members) => by
    rw [write_object_cons]
    exact ((((passedOver_writeString _ name).append (passedOver_colon _)).append
      (passedOver_write (depth + 1) (level + 1) value)).append
        (passedOver_writeMembers depth level members)).object
  | .wideObject [] => (passedOver_nil _).object
  | .wideObject ((name, value) :: members) => by
    rw [write_wideObject_cons]
    exact ((((passedOver_writePoints _ name).append (passedOver_colon _)).append
      (passedOver_write (depth + 1) (level + 1) value)).append
        (passedOver_writeWideMembers depth level members)).object

lemma passedOver_writeItems (depth level : Nat) :
    ∀ items : List Json, PassedOver (depth + 1) (Json.writeItems .line level items)
  | [] => passedOver_nil _
  | item :: items =>
    ((passedOver_separator depth).append (passedOver_write (depth + 1) (level + 1) item)).append
      (passedOver_writeItems depth level items)

lemma passedOver_writeMembers (depth level : Nat) :
    ∀ members : List (Text × Json), PassedOver (depth + 1) (Json.writeMembers .line level members)
  | [] => passedOver_nil _
  | (name, value) :: members =>
    ((((passedOver_separator depth).append (passedOver_writeString _ name)).append
      (passedOver_colon _)).append (passedOver_write (depth + 1) (level + 1) value)).append
        (passedOver_writeMembers depth level members)

lemma passedOver_writeWideMembers (depth level : Nat) :
    ∀ members : List (CodePoints × Json),
      PassedOver (depth + 1) (Json.writeWideMembers .line level members)
  | [] => passedOver_nil _
  | (name, value) :: members =>
    ((((passedOver_separator depth).append (passedOver_writePoints _ name)).append
      (passedOver_colon _)).append (passedOver_write (depth + 1) (level + 1) value)).append
        (passedOver_writeWideMembers depth level members)

end

/-- Where a value ends: a text that begins with a comma or a closing brace. -/
def EndsValue (r : Text) : Prop := ∃ c, r.head? = some c ∧ (c = ',' ∨ c = '}')

lemma restAfter_end {r : Text} (h : EndsValue r) : restAfter 0 .outside r = r := by
  obtain ⟨c, hhead, rfl | rfl⟩ := h <;> obtain ⟨r, rfl⟩ := List.head?_eq_some_iff.mp hhead <;> rfl

/-- Two values before ends are told apart by their texts. -/
lemma write_append_inj {level : Nat} {v w : Json} {r s : Text} (hr : EndsValue r)
    (hs : EndsValue s) (h : Json.write .line level v ++ r = Json.write .line level w ++ s) :
    Json.write .line level v = Json.write .line level w ∧ r = s := by
  have hrest := congrArg (restAfter 0 .outside) h
  rw [passedOver_write, passedOver_write, restAfter_end hr, restAfter_end hs] at hrest
  rw [hrest] at h
  exact ⟨List.append_cancel_right h, hrest⟩

/-! ### Members of objects -/

lemma endsValue_writeMembers (level : Nat) (members : List (Text × Json)) :
    EndsValue (Json.writeMembers .line level members ++ ['}']) := by
  cases members with
  | nil => exact ⟨'}', rfl, .inr rfl⟩
  | cons member members => exact ⟨',', rfl, .inl rfl⟩

/-- Members with their values in writing. -/
def written (level : Nat) (members : List (Text × Json)) : List (Text × Text) :=
  members.map fun (name, value) => (name, Json.write .line level value)

lemma member_inj {level : Nat} {name : Text} {v w : Json} {r s : Text} (hr : EndsValue r)
    (hs : EndsValue s)
    (h : Json.writeString name ++ ": " ++ Json.write .line level v ++ r =
      Json.writeString name ++ ": " ++ Json.write .line level w ++ s) :
    Json.write .line level v = Json.write .line level w ∧ r = s := by
  rw [List.append_assoc, List.append_assoc (_ ++ _)] at h
  exact write_append_inj hr hs (List.append_cancel_left h)

lemma writeMembers_inj {level : Nat} {ms ns : List (Text × Json)}
    (hnames : ms.map (·.1) = ns.map (·.1))
    (h : Json.writeMembers .line level ms ++ ['}'] = Json.writeMembers .line level ns ++ ['}']) :
    written (level + 1) ms = written (level + 1) ns := by
  induction ms generalizing ns with
  | nil =>
    obtain rfl : ns = [] := List.map_eq_nil_iff.mp hnames.symm
    rfl
  | cons m ms ih =>
    obtain ⟨name, v⟩ := m
    cases ns with
    | nil => cases hnames
    | cons n ns =>
      obtain ⟨name', w⟩ := n
      obtain ⟨rfl, htail⟩ : name = name' ∧ ms.map (·.1) = ns.map (·.1) := List.cons.inj hnames
      have h : Json.writeString name ++ ": " ++ Json.write .line (level + 1) v ++
          (Json.writeMembers .line level ms ++ ['}']) =
            Json.writeString name ++ ": " ++ Json.write .line (level + 1) w ++
              (Json.writeMembers .line level ns ++ ['}']) := by
        simp only [Json.writeMembers, Json.Layout.line, List.append_assoc] at h ⊢
        exact List.append_cancel_left h
      obtain ⟨hvalue, hrest⟩ := member_inj (endsValue_writeMembers level ms)
        (endsValue_writeMembers level ns) h
      simp only [written, List.map_cons, hvalue]
      exact congrArg _ (ih htail hrest)

lemma writeObject_inj {level : Nat} {ms ns : List (Text × Json)}
    (hnames : ms.map (·.1) = ns.map (·.1))
    (h : Json.write .line level (.object ms) = Json.write .line level (.object ns)) :
    written (level + 1) ms = written (level + 1) ns := by
  cases ms with
  | nil =>
    obtain rfl : ns = [] := List.map_eq_nil_iff.mp hnames.symm
    rfl
  | cons m ms =>
    obtain ⟨name, v⟩ := m
    cases ns with
    | nil => cases hnames
    | cons n ns =>
      obtain ⟨name', w⟩ := n
      obtain ⟨rfl, htail⟩ : name = name' ∧ ms.map (·.1) = ns.map (·.1) := List.cons.inj hnames
      rw [write_object_cons, write_object_cons, List.append_assoc _ _ ['}'],
        List.append_assoc _ _ ['}']] at h
      obtain ⟨hvalue, hrest⟩ := member_inj (endsValue_writeMembers level ms)
        (endsValue_writeMembers level ns) (List.cons.inj h).2
      simp only [written, List.map_cons, hvalue]
      exact congrArg _ (writeMembers_inj htail hrest)

/-! ### Sorted members -/

lemma names_insertSorted (name : Text) {v w : Json} {ms ns : List (Text × Json)}
    (h : ms.map (·.1) = ns.map (·.1)) :
    (Json.insertSorted name v ms).map (·.1) = (Json.insertSorted name w ns).map (·.1) := by
  induction ms generalizing ns with
  | nil =>
    obtain rfl : ns = [] := List.map_eq_nil_iff.mp h.symm
    rfl
  | cons m ms ih =>
    cases ns with
    | nil => cases h
    | cons n ns =>
      obtain ⟨hname, hrest⟩ : m.1 = n.1 ∧ ms.map (·.1) = ns.map (·.1) := List.cons.inj h
      rw [Json.insertSorted, Json.insertSorted, hname]
      split
      · simp only [List.map_cons, hrest]
      · simp only [List.map_cons, ih hrest]

lemma names_sortMembers {ms ns : List (Text × Json)} (h : ms.map (·.1) = ns.map (·.1)) :
    (Json.sortMembers ms).map (·.1) = (Json.sortMembers ns).map (·.1) := by
  induction ms generalizing ns with
  | nil =>
    obtain rfl : ns = [] := List.map_eq_nil_iff.mp h.symm
    rfl
  | cons m ms ih =>
    cases ns with
    | nil => cases h
    | cons n ns =>
      obtain ⟨hname, hrest⟩ : m.1 = n.1 ∧ ms.map (·.1) = ns.map (·.1) := List.cons.inj h
      rw [Json.sortMembers, Json.sortMembers, hname]
      exact names_insertSorted n.1 (ih hrest)

lemma lookup_insertSorted (name key : Text) (v : Json) (ms : List (Text × Json)) :
    (Json.insertSorted name v ms).lookup key = if key = name then some v else ms.lookup key := by
  induction ms with
  | nil =>
    rw [Json.insertSorted, List.lookup_cons]
    split <;> simp_all
  | cons m ms ih =>
    obtain ⟨n, w⟩ := m
    rw [Json.insertSorted]
    split
    · rw [List.lookup_cons]
      split <;> simp_all
    · next hle =>
      have hne : name ≠ n := fun heq => hle (heq ▸ textLe_refl name)
      rw [List.lookup_cons, List.lookup_cons, ih]
      split
      · next hkey =>
        rw [if_neg]
        rintro rfl
        exact hne (beq_iff_eq.mp hkey)
      · rfl

lemma lookup_sortMembers (key : Text) (ms : List (Text × Json)) :
    (Json.sortMembers ms).lookup key = (ms.lookup key).map Json.sortNames := by
  induction ms with
  | nil => rfl
  | cons m ms ih =>
    obtain ⟨name, v⟩ := m
    rw [Json.sortMembers, lookup_insertSorted, List.lookup_cons, ih]
    by_cases hkey : key = name
    · rw [if_pos hkey, beq_iff_eq.mpr hkey]
      rfl
    · rw [if_neg hkey, beq_eq_false_iff_ne.mpr hkey]

lemma lookup_written (level : Nat) (key : Text) (ms : List (Text × Json)) :
    (written level ms).lookup key = (ms.lookup key).map (Json.write .line level) := by
  induction ms with
  | nil => rfl
  | cons m ms ih =>
    change ((m.1, Json.write .line level m.2) :: written level ms).lookup key =
      (((m.1, m.2) :: ms).lookup key).map _
    rw [List.lookup_cons, List.lookup_cons, ih]
    split <;> rfl

/-- How a member of an object is written. -/
def memberText (v : Json) : Text := Json.write .line 1 (Json.sortNames v)

lemma memberText_eq_of_line_eq {ms ns : List (Text × Json)} (hnames : ms.map (·.1) = ns.map (·.1))
    (h : Json.line (Json.sortNames (.object ms)) = Json.line (Json.sortNames (.object ns)))
    (key : Text) : (ms.lookup key).map memberText = (ns.lookup key).map memberText := by
  have hwritten := writeObject_inj (names_sortMembers hnames) h
  have hlookup := congrArg (List.lookup key) hwritten
  rw [lookup_written, lookup_written, lookup_sortMembers, lookup_sortMembers, Option.map_map,
    Option.map_map] at hlookup
  exact hlookup

end SourceGrade.Proofs
