import Mathlib.Data.List.Nodup
import SourceGrade.Analysis.Session
import SourceGrade.Proofs.ThresholdText

/-!
# Keys of reports

Reports are stored by digests of the language, the thresholds and the text as it is encoded. Unless
two different texts have the same digest, two subjects have one key exactly if they are encoded alike,
and one subject has one report.
-/

namespace SourceGrade

namespace Subject

/-- A subject with question marks in the place of surrogates, which is all that its key tells. -/
def encoded (s : Subject) : Subject := { s with text := s.text.encodable }

lemma encoded_of_text {s : Subject} {t : Text} (h : s.text = CodePoints.ofText t) : s.encoded = s := by
  obtain ⟨text, language, thresholds⟩ := s
  obtain rfl : text = CodePoints.ofText t := h
  rw [encoded, CodePoints.encodable_ofText]

end Subject

/-- Among some subjects, no two different texts have the same digest. -/
structure CollisionFree (subjects : List Subject) : Prop where
  thresholds_eq : ∀ p ∈ subjects, ∀ q ∈ subjects,
    shortDigest p.thresholds = shortDigest q.thresholds → p.thresholds = q.thresholds
  joined_eq : ∀ p ∈ subjects, ∀ q ∈ subjects,
    Sha256.hexDigest p.key.joined.encodable = Sha256.hexDigest q.key.joined.encodable →
      p.key.joined.encodable = q.key.joined.encodable

/-- Thresholds of a table that passed its checks. -/
def Thresholds.IsChecked (t : ActiveThresholds) : Prop :=
  ∃ s : Thresholds Setting Setting, s.validate = .ok () ∧ s.active = t

namespace Proofs

/-! ### Subjects -/

lemma null_not_mem_hexDigest (t : Text) : '\x00' ∉ Sha256.hexDigest t := by
  intro hmem
  obtain ⟨word, -, hmem⟩ := List.mem_flatMap.mp hmem
  obtain hzero | hdigit := List.mem_append.mp hmem
  · exact absurd (List.mem_replicate.mp hzero).2 (by decide)
  · exact absurd (hexDigit_of_mem_toDigits _ _ hdigit) (by decide)

lemma null_not_mem_shortDigest (t : Text) : '\x00' ∉ shortDigest t :=
  fun hmem => null_not_mem_hexDigest t (List.mem_of_mem_take hmem)

lemma null_not_mem_language (tag : Text) (text : CodePoints) (t : ActiveThresholds) :
    '\x00' ∉ (Subject.ofRequest tag text t).language := by
  have hnames : ∀ l ∈ Language.table, '\x00' ∉ l.name := by decide
  exact hnames _ (resolve_mem tag)

lemma append_cons_inj {separator : Char} {a a' b b' : Text} (ha : separator ∉ a)
    (ha' : separator ∉ a') (h : a ++ separator :: b = a' ++ separator :: b') : a = a' ∧ b = b' := by
  induction a generalizing a' with
  | nil =>
    cases a' with
    | nil => exact ⟨rfl, (List.cons.inj h).2⟩
    | cons c a' => exact absurd (List.cons.inj h).1 (List.ne_of_not_mem_cons ha')
  | cons c a ih =>
    cases a' with
    | nil => exact absurd (List.cons.inj h).1.symm (List.ne_of_not_mem_cons ha)
    | cons c' a' =>
      obtain ⟨rfl, hrest⟩ := List.cons.inj h
      obtain ⟨rfl, rfl⟩ :=
        ih (List.not_mem_of_not_mem_cons ha) (List.not_mem_of_not_mem_cons ha') hrest
      exact ⟨rfl, rfl⟩

lemma encodable_joined (k : ReportKey) : k.joined.encodable =
    k.language ++ '\x00' :: (k.configuration ++ '\x00' :: k.text.encodable) := by
  simp [ReportKey.joined]

lemma joined_eq_of_encoded_eq {p q : Subject} (h : p.encoded = q.encoded) :
    p.key.joined.encodable = q.key.joined.encodable := by
  obtain ⟨htext, hlanguage, hthresholds⟩ := Subject.ext_iff.mp h
  have htext : p.text.encodable = q.text.encodable := by
    simpa [Subject.encoded] using congrArg CodePoints.encodable htext
  rw [encodable_joined, encodable_joined, Subject.key, Subject.key, htext,
    show p.language = q.language from hlanguage, show p.thresholds = q.thresholds from hthresholds]

lemma digest_eq_of_encoded_eq {p q : Subject} (h : p.encoded = q.encoded) :
    p.key.digest = q.key.digest :=
  congrArg Sha256.hexDigest (joined_eq_of_encoded_eq h)

lemma encoded_eq_of_digest_eq {subjects : List Subject} (hfree : CollisionFree subjects)
    (hlanguage : ∀ q ∈ subjects, '\x00' ∉ q.language) {p q : Subject} (hp : p ∈ subjects)
    (hq : q ∈ subjects) (h : p.key.digest = q.key.digest) : p.encoded = q.encoded := by
  have hjoined := hfree.joined_eq p hp q hq h
  rw [encodable_joined, encodable_joined] at hjoined
  obtain ⟨hname, hrest⟩ := append_cons_inj (hlanguage p hp) (hlanguage q hq) hjoined
  obtain ⟨hshort, htext⟩ := append_cons_inj (null_not_mem_shortDigest _)
    (null_not_mem_shortDigest _) hrest
  exact Subject.ext (congrArg CodePoints.ofText htext) hname
    (hfree.thresholds_eq p hp q hq hshort)

lemma resolve_eq_of_name_eq {tag tag' : Text}
    (h : (Language.resolve tag).name = (Language.resolve tag').name) :
    Language.resolve tag = Language.resolve tag' := by
  have hnodup : (Language.table.map (·.name)).Nodup := by decide
  exact List.inj_on_of_nodup_map hnodup (resolve_mem tag) (resolve_mem tag') h

lemma analyze_of_subject_eq {tag tag' : Text} {text text' : CodePoints} {t t' : ActiveThresholds}
    (ht : t.IsChecked) (ht' : t'.IsChecked)
    (h : Subject.ofRequest tag text t = Subject.ofRequest tag' text' t') {report : Report Amount}
    (hreport : analyze t tag text.legible = .ok report) :
    analyze t' tag' text'.legible = .ok report := by
  obtain ⟨s, hs, rfl⟩ := ht
  obtain ⟨s', -, rfl⟩ := ht'
  simp only [Subject.ofRequest, Subject.mk.injEq] at h
  obtain ⟨rfl, hname, hline⟩ := h
  obtain ⟨result, hwith, rfl⟩ := except_map_eq_ok hreport
  have hwith := analyzeWith_of_line_eq hs hline hwith
  unfold analyze
  rw [← resolve_eq_of_name_eq hname, hwith]
  rfl

end Proofs

/-! ### Stored values -/

namespace ExpiringCache

variable {κ β : Type} {c : ExpiringCache κ β}

/-- Values can be stored, and last. -/
structure Keeps (c : ExpiringCache κ β) : Prop where
  enabled_eq : c.enabled = true
  lifetime_eq : c.lifetime = .lasting

lemma clear_of_disabled (h : c.enabled = false) : c.clear = c := by
  rw [clear, h]
  rfl

lemma clear_of_enabled (h : c.enabled = true) : c.clear = { c with entries := [] } := by
  rw [clear, h]
  rfl

lemma Keeps.size?_eq (h : c.Keeps) : c.size? = some c.entries.length := by
  rw [size?, h.enabled_eq]
  rfl

variable [BEq κ]

lemma find?_of_disabled (h : c.enabled = false) (key : κ) : c.find? key = none := by
  rw [find?, h]
  rfl

lemma insert_of_disabled (h : c.enabled = false) (key : κ) (value : β) : c.insert key value = c := by
  rw [insert, h]
  rfl

lemma find?_clear (key : κ) : c.clear.find? key = none := by
  cases h : c.enabled with
  | false => rw [clear_of_disabled h, find?_of_disabled h]
  | true =>
    rw [clear_of_enabled h, find?]
    split <;> rfl

lemma Keeps.find?_eq (h : c.Keeps) (key : κ) : c.find? key = c.entries.lookup key := by
  rw [find?, h.enabled_eq, h.lifetime_eq]
  rfl

lemma Keeps.insert_eq (h : c.Keeps) (key : κ) (value : β) :
    c.insert key value = { c with entries := replace key value c.entries } := by
  rw [insert, h.enabled_eq, h.lifetime_eq]
  rfl

lemma Keeps.insert (h : c.Keeps) (key : κ) (value : β) : (c.insert key value).Keeps := by
  rw [h.insert_eq]
  exact ⟨h.enabled_eq, h.lifetime_eq⟩

variable [LawfulBEq κ]

lemma lookup_replace (key key' : κ) (value : β) (entries : List (κ × β)) :
    (replace key value entries).lookup key' =
      if key' == key then some value else entries.lookup key' := by
  induction entries with
  | nil =>
    rw [replace, List.lookup_cons]
    cases key' == key <;> rfl
  | cons entry entries ih =>
    obtain ⟨k, v⟩ := entry
    rw [replace]
    cases hk : k == key with
    | true =>
      obtain rfl := eq_of_beq hk
      rw [if_pos rfl, List.lookup_cons, List.lookup_cons]
      cases key' == k <;> rfl
    | false =>
      rw [if_neg Bool.false_ne_true, List.lookup_cons, List.lookup_cons, ih]
      cases hk' : key' == k with
      | true =>
        obtain rfl := eq_of_beq hk'
        rw [hk]
        rfl
      | false => rfl

lemma length_replace {key : κ} (value : β) {entries : List (κ × β)}
    (h : entries.lookup key = none) : (replace key value entries).length = entries.length + 1 := by
  induction entries with
  | nil => rfl
  | cons entry entries ih =>
    obtain ⟨k, v⟩ := entry
    rw [List.lookup_cons] at h
    have hk : (key == k) = false := by
      cases hk : key == k with
      | true => simp [hk] at h
      | false => rfl
    rw [hk] at h
    rw [replace, if_neg (by rw [BEq.comm, hk]; exact Bool.false_ne_true), List.length_cons, ih h]
    rfl

namespace Keeps

variable (h : c.Keeps)
include h

lemma find?_insert (key key' : κ) (value : β) :
    (c.insert key value).find? key' = if key' == key then some value else c.find? key' := by
  rw [(h.insert key value).find?_eq, h.insert_eq, lookup_replace, h.find?_eq]

lemma size?_insert {key : κ} (hnew : c.find? key = none) (value : β) :
    (c.insert key value).size? = c.size?.map (· + 1) := by
  rw [h.find?_eq] at hnew
  rw [(h.insert key value).size?_eq, h.insert_eq, h.size?_eq, length_replace value hnew]
  rfl

end Keeps

end ExpiringCache

end SourceGrade
