import Mathlib.Data.List.Forall2
import SourceGrade.Proofs.AnsweredObjects
import SourceGrade.Proofs.ComparedOutputs

/-!
# Evaluated test cases

A client answers its calls one after the other, and each dry run is judged by its own outcome. An
evaluation takes the first outcome for the cases and one outcome for each of them, so that a dry run
that fails does no harm to the others.
-/

namespace SourceGrade

/-! ### Entries of an answer -/

/-- An object with a value that is not null for a name. -/
def Json.Gives (entry : Json) (name : Text) (value : Json) : Prop :=
  ∃ members, entry.textMembers? = some members ∧ Json.member? name members = some value ∧
    value ≠ .null

/-- An entry that describes a test case: an object with an input and an expected output. -/
def Json.WellFormed (entry : Json) : Prop :=
  (∃ v, entry.Gives "input" v) ∧ ∃ v, entry.Gives "expected_output" v

/-- A test case that an entry describes. -/
structure TestCase.OfEntry (entry : Json) (t : TestCase) : Prop where
  input : ∃ v, entry.Gives "input" v ∧ t.input = v.shown
  expected : ∃ v, entry.Gives "expected_output" v ∧ t.expected = v.shown
  description : (∃ v, entry.Gives "description" v ∧ v.isNothing = false ∧ t.description = v.shown) ∨
    (∀ v, entry.Gives "description" v → v.isNothing = true) ∧ t.description = []

namespace Proofs

lemma present?_eq_some {o : Option Json} {v : Json} :
    TestCase.present? o = some v ↔ o = some v ∧ v ≠ .null := by
  unfold TestCase.present?
  split
  · simp only [reduceCtorEq, Option.some.injEq, ne_eq, false_iff, not_and, not_not]
    exact Eq.symm
  · next h =>
    refine ⟨fun ho => ⟨ho, ?_⟩, And.left⟩
    rintro rfl
    exact h ho

section

variable {entry : Json} {members : List (Text × Json)}

lemma gives_iff (hmembers : entry.textMembers? = some members) {name : Text} {v : Json} :
    entry.Gives name v ↔ TestCase.present? (Json.member? name members) = some v := by
  rw [present?_eq_some]
  constructor
  · rintro ⟨members', hmembers', hv⟩
    obtain rfl := Option.some.inj (hmembers.symm.trans hmembers')
    exact hv
  · intro hv
    exact ⟨members, hmembers, hv⟩

lemma ofEntry?_eq_some {t : TestCase} (h : TestCase.ofEntry? entry = some t) :
    t.OfEntry entry := by
  obtain ⟨members, hmembers, h⟩ := Option.bind_eq_some_iff.mp h
  obtain ⟨input, hinput, h⟩ := Option.bind_eq_some_iff.mp h
  obtain ⟨expected, hexpected, h⟩ := Option.bind_eq_some_iff.mp h
  obtain rfl := Option.some.inj h
  refine ⟨⟨input, (gives_iff hmembers).mpr hinput, rfl⟩,
    ⟨expected, (gives_iff hmembers).mpr hexpected, rfl⟩, ?_⟩
  simp only [gives_iff hmembers, present?_eq_some]
  cases hdescription : Json.member? "description" members with
  | none =>
    refine .inr ⟨?_, rfl⟩
    rintro v ⟨hv, -⟩
    cases hv
  | some d =>
    cases hnothing : d.isNothing with
    | true =>
      refine .inr ⟨?_, by simp [hnothing]⟩
      rintro v ⟨hv, -⟩
      obtain rfl := Option.some.inj hv
      exact hnothing
    | false =>
      refine .inl ⟨d, ⟨rfl, ?_⟩, hnothing, by simp [hnothing]⟩
      rintro rfl
      cases hnothing

lemma isSome_ofEntry? : (TestCase.ofEntry? entry).isSome ↔ entry.WellFormed := by
  constructor
  · intro h
    obtain ⟨t, ht⟩ := Option.isSome_iff_exists.mp h
    obtain ⟨⟨input, hinput, -⟩, ⟨expected, hexpected, -⟩, -⟩ := ofEntry?_eq_some ht
    exact ⟨⟨input, hinput⟩, expected, hexpected⟩
  · rintro ⟨⟨input, hinput⟩, expected, hexpected⟩
    obtain ⟨members, hmembers, -⟩ := id hinput
    rw [gives_iff hmembers] at hinput hexpected
    simp only [TestCase.ofEntry?, hmembers, hinput, hexpected, Option.bind_eq_bind,
      Option.bind_some, Option.isSome_some]

end

end Proofs

instance : DecidablePred Json.WellFormed := fun _ => decidable_of_iff _ Proofs.isSome_ofEntry?

/-! ### Outcomes of calls -/

namespace ChatReply

/-- A reply whose text has an object with a list of test cases. -/
def Lists (r : ChatReply) (entries : List Json) : Prop :=
  ∃ t members, r = .content (some t) ∧ HoldsObject t members ∧
    Json.member? "test_cases" members = some (.list entries)

/-- The object in the text of a reply, if any, can be read, or it is malformed. -/
def Readable (r : ChatReply) : Prop := ∀ t, r = .content (some t) → ReadsOrMalformed t

/-- What a dry run with this outcome gives: the text without the blanks around it, and a failure when
there is none or nothing but blanks. -/
def output : ChatReply → Text
  | content (some t) => if Text.allBlank t then TestCase.executionFailed else Text.strip t
  | _ => TestCase.executionFailed

/-- The cases that an evaluation takes from a reply. -/
def cases (r : ChatReply) : Except AnswerError (List TestCase) :=
  match r.answer with
  | .ok t => (TestCase.ofAnswer t).map (Listing.upTo TestCase.defaultCount)
  | .error _ => .ok []

end ChatReply

namespace ChatClient

/-- The outcome of the call after some others. When all replies are used up, calls fail. -/
def outcome (c : ChatClient) (k : Nat) : ChatReply := c.replies.getD k (nextReply []).1

/-- The client after a call. -/
def after (c : ChatClient) (call : ChatCall) : ChatClient :=
  { c with replies := c.replies.tail, calls := c.calls ++ [call] }

/-- The call that asks for test cases. -/
def generationCall (model code language : Text) : ChatCall :=
  ⟨model, writingTemperature,
    task (TestCase.generationInstructions language TestCase.defaultCount) code⟩

/-- The call that asks for the output on the input of a test case. -/
def runCall (model code language : Text) (t : TestCase) : ChatCall :=
  ⟨model, exactTemperature, task (TestCase.runInstructions language)
    (CodePoints.ofText ("Code:\n" ++ code ++ "\n\nInput:\n") ++ t.input)⟩

lemma outcome_after (c : ChatClient) (call : ChatCall) (k : Nat) :
    (c.after call).outcome k = c.outcome (k + 1) := by
  simp [outcome, after, List.getD_eq_getElem?_getD]

lemma chat_eq {c : ChatClient} (haccess : c.hasAccess = true) (temperature : Float)
    (messages : List ChatMessage) :
    c.chat temperature messages =
      ((c.outcome 0).answer, c.after ⟨c.model, temperature, messages⟩) := by
  rw [chat, if_pos haccess]
  unfold outcome after
  cases c.replies <;> rfl

end ChatClient

namespace Proofs

open ChatClient (generationCall runCall outcome_after chat_eq)

/-! ### Cases of a reply -/

lemma forall₂_ofEntry (entries : List Json) :
    List.Forall₂ TestCase.OfEntry (entries.filter Json.WellFormed)
      (entries.filterMap TestCase.ofEntry?) := by
  induction entries with
  | nil => exact .nil
  | cons entry entries ih =>
    cases hentry : TestCase.ofEntry? entry with
    | none =>
      have hnot : ¬ entry.WellFormed := by
        rw [← isSome_ofEntry?, hentry]
        exact Bool.false_ne_true
      rw [List.filterMap_cons_none hentry, List.filter_cons_of_neg (by simpa using hnot)]
      exact ih
    | some t =>
      have hwell : entry.WellFormed := isSome_ofEntry?.mp (by rw [hentry]; rfl)
      rw [List.filterMap_cons_some hentry, List.filter_cons_of_pos (by simpa using hwell)]
      exact .cons (ofEntry?_eq_some hentry) ih

lemma ofAnswer_eq {t : Text} {members? : Option (List (Text × Json))}
    (h : answeredObject? t = .ok members?) :
    TestCase.ofAnswer t = .ok
      (match members?.bind (Json.member? "test_cases") with
        | some (.list entries) => entries.filterMap TestCase.ofEntry?
        | _ => []) := by
  rw [TestCase.ofAnswer, h]
  change (match members?.bind (Json.member? "test_cases") with
    | some (.list entries) => pure (entries.filterMap TestCase.ofEntry?)
    | _ => pure []) = _
  split <;> rfl

lemma cases_of_answer {r : ChatReply} {t : Text} (hanswer : r.answer = .ok t)
    {ts : List TestCase} (h : TestCase.ofAnswer t = .ok ts) : r.cases = .ok (ts.take 3) := by
  rw [ChatReply.cases, hanswer]
  change (TestCase.ofAnswer t).map (Listing.upTo TestCase.defaultCount) = _
  rw [h]
  rfl

lemma answer_eq_ok {r : ChatReply} {u : Text} (h : r.answer = .ok u) :
    ∃ t, r = .content (some t) ∧ u = Text.strip t := by
  cases r with
  | content text? =>
    cases text? with
    | none => cases h
    | some t =>
      rw [ChatReply.answer] at h
      split at h
      · cases h
      · exact ⟨t, rfl, (Except.ok.inj h).symm⟩
  | failure reason => cases h
  | noChoices => cases h

lemma answer_of_holdsObject {t : Text} {members : List (Text × Json)} (h : HoldsObject t members) :
    (ChatReply.content (some t)).answer = .ok (Text.strip t) := by
  obtain ⟨_, _, ⟨before, inner, after, rfl, -⟩, -⟩ := h
  exact if_neg (by simp [Text.allBlank, show Text.isBlank '{' = false by decide])

lemma cases_of_lists {r : ChatReply} {entries : List Json} (h : r.Lists entries) :
    r.cases = .ok ((entries.filterMap TestCase.ofEntry?).take 3) := by
  obtain ⟨t, members, rfl, hobject, hentries⟩ := h
  have hstripped := answeredObject?_of_holdsObject (holdsObject_strip.mpr hobject)
  refine cases_of_answer (answer_of_holdsObject hobject) ?_
  rw [ofAnswer_eq hstripped, Option.bind_some, hentries]

lemma cases_of_not_lists {r : ChatReply} (hread : r.Readable)
    (h : ∀ entries, ¬ r.Lists entries) : r.cases = .ok [] := by
  cases hanswer : r.answer with
  | error e => rw [ChatReply.cases, hanswer]
  | ok u =>
    obtain ⟨t, rfl, rfl⟩ := answer_eq_ok hanswer
    have hread' := readsOrMalformed_strip.mpr (hread t rfl)
    have hempty : TestCase.ofAnswer (Text.strip t) = .ok [] := by
      by_cases hobject : ∃ members, HoldsObject (Text.strip t) members
      · obtain ⟨members, hmembers⟩ := hobject
        rw [ofAnswer_eq (answeredObject?_of_holdsObject hmembers), Option.bind_some]
        split
        · next entries hentries =>
          exact absurd ⟨t, members, rfl, holdsObject_strip.mp hmembers, hentries⟩ (h entries)
        · rfl
      · rw [ofAnswer_eq (answeredObject?_of_not_holdsObject hread' (not_exists.mp hobject))]
        rfl
    exact cases_of_answer hanswer hempty

lemma cases_ok {r : ChatReply} (hread : r.Readable) :
    ∃ ts, r.cases = .ok ts ∧
      (∀ entries, r.Lists entries →
        List.Forall₂ TestCase.OfEntry ((entries.filter Json.WellFormed).take 3) ts) ∧
      ((∀ entries, ¬ r.Lists entries) → ts = []) := by
  by_cases hlists : ∃ entries, r.Lists entries
  · obtain ⟨entries, hentries⟩ := hlists
    refine ⟨_, cases_of_lists hentries, fun entries' hentries' => ?_, fun hnone => ?_⟩
    · have hsame := Except.ok.inj ((cases_of_lists hentries).symm.trans (cases_of_lists hentries'))
      rw [hsame]
      exact List.forall₂_take 3 (forall₂_ofEntry entries')
    · exact absurd hentries (hnone entries)
  · have hnone := not_exists.mp hlists
    exact ⟨[], cases_of_not_lists hread hnone, fun entries hentries => absurd hentries (hnone entries),
      fun _ => rfl⟩

/-! ### Dry runs -/

lemma generate_eq {c : ChatClient} (haccess : c.hasAccess = true) (code language : Text) :
    TestCase.generate c code language TestCase.defaultCount =
      ((c.outcome 0).cases, c.after (generationCall c.model code language)) := by
  rw [TestCase.generate, chat_eq haccess, ChatReply.cases]
  cases (c.outcome 0).answer <;> rfl

lemma execute_eq {c : ChatClient} (haccess : c.hasAccess = true) (code language : Text)
    (t : TestCase) :
    TestCase.execute c code t.input language =
      ((c.outcome 0).output, c.after (runCall c.model code language t)) := by
  rw [TestCase.execute, chat_eq haccess]
  cases c.outcome 0 with
  | content text? =>
    cases text? with
    | none => rfl
    | some text =>
      by_cases hblank : Text.allBlank text = true <;>
        simp [ChatReply.answer, ChatReply.output, hblank, runCall]
  | failure reason => rfl
  | noChoices => rfl

lemma runAll_eq {c : ChatClient} (haccess : c.hasAccess = true) (code language : Text)
    (ts : List TestCase) :
    (TestCase.runAll c code language ts).1 =
        ts.mapIdx (fun k t => t.judged (c.outcome k).output) ∧
      (TestCase.runAll c code language ts).2.calls =
        c.calls ++ ts.map (runCall c.model code language) := by
  induction ts generalizing c with
  | nil => exact ⟨rfl, (List.append_nil _).symm⟩
  | cons t ts ih =>
    obtain ⟨hcases, hcalls⟩ := ih (c := c.after (runCall c.model code language t)) haccess
    rw [TestCase.runAll, execute_eq haccess]
    constructor
    · dsimp only
      rw [hcases, List.mapIdx_cons]
      simp only [outcome_after]
    · dsimp only
      rw [hcalls]
      simp [ChatClient.after]

lemma evaluate_eq {c : ChatClient} (haccess : c.hasAccess = true) {ts : List TestCase}
    (hcases : (c.outcome 0).cases = .ok ts) (code language : Text) :
    ∃ after, TestCase.evaluate c code language =
        (.ok (ts.mapIdx fun k t => t.judged (c.outcome (k + 1)).output), after) ∧
      after.calls = c.calls ++
        generationCall c.model code language :: ts.map (runCall c.model code language) := by
  obtain ⟨hjudged, hcalls⟩ :=
    runAll_eq (c := c.after (generationCall c.model code language)) haccess code language ts
  refine ⟨_, ?_, hcalls.trans (by simp [ChatClient.after])⟩
  rw [TestCase.evaluate, generate_eq haccess, hcases]
  dsimp only
  rw [hjudged]
  simp only [outcome_after]

lemma forall₂_mapIdx {entries : List Json} {ts : List TestCase}
    (h : List.Forall₂ TestCase.OfEntry entries ts) (actual : Nat → Text) :
    List.Forall₂ TestCase.OfEntry entries (ts.mapIdx fun k t => t.judged (actual k)) := by
  induction h generalizing actual with
  | nil => exact .nil
  | cons hentry _ ih =>
    rw [List.mapIdx_cons]
    exact .cons ⟨hentry.input, hentry.expected, hentry.description⟩ (ih _)

/-- With a client that has access, an evaluation takes its cases from the first outcome: the first
three entries at most that are well-formed, and none without a list of entries. It makes one call
for them and one for the input of each. The output of a case is that of its own outcome, and the case
passes when this is no failure and, up to blanks and case, what was expected. Another outcome of one
dry run changes no other case. -/
theorem evaluate_cases {c : ChatClient} (haccess : c.hasAccess = true)
    (hread : (c.outcome 0).Readable) (code language : Text) :
    ∃ cases after, TestCase.evaluate c code language = (.ok cases, after) ∧
      (∀ entries, (c.outcome 0).Lists entries →
        List.Forall₂ TestCase.OfEntry ((entries.filter Json.WellFormed).take 3) cases) ∧
      ((∀ entries, ¬ (c.outcome 0).Lists entries) → cases = []) ∧
      after.calls.length = c.calls.length + (cases.length + 1) ∧
      (∀ k t, cases[k]? = some t →
        after.calls[c.calls.length + (k + 1)]? = some (runCall c.model code language t) ∧
        t.actual? = some (c.outcome (k + 1)).output ∧
        ∃ passed, t.passed? = some passed ∧ (passed = true ↔
          (c.outcome (k + 1)).output ≠ TestCase.executionFailed ∧
            CodePoints.compared (c.outcome (k + 1)).output = CodePoints.compared t.expected)) ∧
      ∀ (d : ChatClient) (k : Nat), d.hasAccess = true →
        (∀ j, j ≠ k + 1 → d.outcome j = c.outcome j) →
        ∃ cases' after', TestCase.evaluate d code language = (.ok cases', after') ∧
          cases'.length = cases.length ∧ ∀ j, j ≠ k → cases'[j]? = cases[j]? := by
  obtain ⟨ts, hts, hlisted, hunlisted⟩ := cases_ok hread
  obtain ⟨after, hevaluate, hcalls⟩ := evaluate_eq haccess hts code language
  refine ⟨_, after, hevaluate, fun entries hentries => forall₂_mapIdx (hlisted entries hentries) _,
    fun hnone => ?_, ?_, fun k t ht => ?_, fun d k hd hsame => ?_⟩
  · rw [hunlisted hnone, List.mapIdx_nil]
  · rw [hcalls, List.length_append, List.length_cons, List.length_map, List.length_mapIdx]
  · rw [List.getElem?_mapIdx, Option.map_eq_some_iff] at ht
    obtain ⟨u, hu, rfl⟩ := ht
    refine ⟨?_, rfl, passed_judged u _⟩
    rw [hcalls, List.getElem?_append_right (Nat.le_add_right _ _), Nat.add_sub_cancel_left,
      List.getElem?_cons_succ, List.getElem?_map, hu]
    rfl
  · have hfirst : d.outcome 0 = c.outcome 0 := hsame 0 (Nat.succ_ne_zero k).symm
    obtain ⟨after', hevaluate', -⟩ := evaluate_eq hd (hfirst ▸ hts) code language
    refine ⟨_, after', hevaluate', by simp, fun j hj => ?_⟩
    rw [List.getElem?_mapIdx, List.getElem?_mapIdx, hsame (j + 1) (by omega)]

/-- A text with two entries that are no test cases between two that are. -/
def doublingReply : Text :=
  "Test cases: \x7b\"test_cases\": [" ++
    "\x7b\"input\": 2, \"expected_output\": \"Four  (4)\"\x7d, \"4\", " ++
    "\x7b\"input\": null, \"expected_output\": \"0\"\x7d, " ++
    "\x7b\"input\": \"x\", \"expected_output\": \"Execution Failed\"\x7d]\x7d"

/-- A client whose second dry run fails, although its case expects the text of a failure. -/
def doublingClient : ChatClient where
  hasAccess := true
  model := "dry-runner"
  replies := [.content (some doublingReply), .content (some "four (4)\n"), .failure "timeout"]

theorem evaluate_cases_doubling :
    doublingClient.hasAccess = true ∧ (doublingClient.outcome 0).Readable ∧
      ∃ cases after,
        TestCase.evaluate doublingClient "print(2 * x)" "python" = (.ok cases, after) ∧
        cases.map (·.actual?) = [some ("four (4)" : Text), some ("Execution Failed" : Text)] ∧
        cases.map (·.passed?) = [some true, some false] ∧ after.calls.length = 3 := by
  have hread : (doublingClient.outcome 0).Readable := by
    intro t ht part e hpart he
    obtain rfl := Option.some.inj (ChatReply.content.inj ht)
    have hok : ((bracedPart? doublingReply).map Json.read).any Except.isOk = true := by
      decide +kernel
    rw [bracedPart?_of_braced hpart, Option.map_some, he] at hok
    cases hok
  obtain ⟨cases, after, hevaluate, -, -, hcalls, -⟩ :=
    evaluate_cases (c := doublingClient) rfl hread "print(2 * x)" "python"
  have hcases : (TestCase.evaluate doublingClient "print(2 * x)" "python").1 = .ok
      [⟨("2" : Text), ("Four  (4)" : Text), [], some "four (4)", some true⟩,
        ⟨("x" : Text), ("Execution Failed" : Text), [], some "Execution Failed", some false⟩] := by
    decide +kernel
  rw [hevaluate] at hcases
  obtain rfl := Except.ok.inj hcases
  exact ⟨rfl, hread, _, after, hevaluate, rfl, rfl, hcalls⟩

end Proofs

end SourceGrade
