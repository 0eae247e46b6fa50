import Mathlib.Tactic.FinCases
import SourceGrade.Configuration.Load
import SourceGrade.Proofs.ThresholdText

/-!
# Which source a setting comes from

A field of a configuration that was loaded has the value of the most preferred source that names it:
the caller, then the environment, then the file that was named, the file of the project and the file
for all projects. The thresholds come whole from one of these; the environment is not one of them.
-/

namespace SourceGrade

namespace SettingSources

/-- What a layer of settings sets a name to. The last setting of a name is the one that counts. -/
def named? (name : Text) (layer : List (Text × Setting)) : Option Setting :=
  layer.reverse.lookup name

/-- Whether the caller has set a flag. -/
def flagged (s : SettingSources) (name : Text) : Bool :=
  (s.overrides.lookup name).any (!·.isNothing)

/-- What the caller sets a field to. A flag that is set stands for the verbosity, whatever the
caller gives for it; the flag for quiet goes before the other. -/
def caller? (s : SettingSources) (name : Text) : Option Setting :=
  if name = "verbosity" ∧ s.flagged "quiet" then some (.text "quiet")
  else if name = "verbosity" ∧ s.flagged "verbose" then some (.text "verbose")
  else s.overrides.lookup name

/-- What the environment sets a field to, if it holds the variable of the field. -/
def readVariable (environment : List (Text × Text)) (f : ConfigurationField) :
    Except VariableFault (Option Setting) :=
  match environment.lookup f.variableName with
  | none => .ok none
  | some value => (f.form.read value).map some

end SettingSources

/-- The members of a table. What is no table has none. -/
def Setting.tableMembers : Setting → List (Text × Setting)
  | .table members => members
  | _ => []

/-- Sets a field to a value, whatever its kind. -/
def ThresholdField.write {ρ : Type} : ThresholdField ρ ρ → ρ → Thresholds ρ ρ → Thresholds ρ ρ
  | .whole _ _ set => set
  | .real _ _ set => set

namespace Proofs

open SettingSources

/-! ### Layers of settings -/

lemma lookup_cons_eq_ite (key name : Text) (v : Setting) (layer : List (Text × Setting)) :
    List.lookup key ((name, v) :: layer) = if key = name then some v else layer.lookup key := by
  rw [List.lookup_cons]
  by_cases h : key = name
  · rw [if_pos h, beq_iff_eq.mpr h]
  · rw [if_neg h, beq_eq_false_iff_ne.mpr h]

lemma lookup_setMember (key name : Text) (v : Setting) (members : List (Text × Setting)) :
    (Toml.setMember name v members).lookup key =
      if key = name then some v else members.lookup key := by
  induction members with
  | nil => exact lookup_cons_eq_ite key name v []
  | cons member members ih =>
    obtain ⟨n, w⟩ := member
    rw [Toml.setMember]
    by_cases hn : n = name
    · rw [if_pos hn, lookup_cons_eq_ite, lookup_cons_eq_ite, hn]
      split <;> rfl
    · rw [if_neg hn, lookup_cons_eq_ite, lookup_cons_eq_ite, ih]
      by_cases h : key = n
      · rw [if_pos h, if_pos h, if_neg (h ▸ hn)]
      · rw [if_neg h, if_neg h]

lemma named?_cons (key name : Text) (v : Setting) (layer : List (Text × Setting)) :
    named? key ((name, v) :: layer) =
      (named? key layer).or (if key = name then some v else none) := by
  rw [named?, List.reverse_cons, List.lookup_append, lookup_cons_eq_ite, named?, List.lookup_nil]

lemma lookup_mergeLayer (key : Text) (layer merged : List (Text × Setting)) :
    (layer.foldl (fun m (name, v) => Toml.setMember name v m) merged).lookup key =
      (named? key layer).or (merged.lookup key) := by
  induction layer generalizing merged with
  | nil => rfl
  | cons setting layer ih =>
    obtain ⟨name, v⟩ := setting
    rw [List.foldl_cons, ih, lookup_setMember, named?_cons, Option.or_assoc]
    congr 1
    split <;> rfl

lemma named?_eq_none {key : Text} {layer : List (Text × Setting)} (h : key ∉ layer.map (·.1)) :
    named? key layer = none := by
  rw [named?, List.lookup_eq_none_iff]
  intro setting hsetting
  exact bne_iff_ne.mpr fun heq =>
    h (heq ▸ List.mem_map_of_mem (List.mem_reverse.mp hsetting))

lemma named?_eq_lookup {layer : List (Text × Setting)} (h : (layer.map (·.1)).Nodup) (key : Text) :
    named? key layer = layer.lookup key := by
  induction layer with
  | nil => rfl
  | cons setting layer ih =>
    obtain ⟨name, v⟩ := setting
    obtain ⟨hname, hlayer⟩ := List.nodup_cons.mp h
    rw [named?_cons, lookup_cons_eq_ite]
    by_cases hkey : key = name
    · rw [named?_eq_none (hkey ▸ hname), if_pos hkey, if_pos hkey, Option.none_or]
    · rw [ih hlayer, if_neg hkey, if_neg hkey, Option.or_none]

/-! ### The caller -/

lemma names_setMember (name : Text) (v : Setting) (members : List (Text × Setting)) :
    (Toml.setMember name v members).map (·.1) =
      if name ∈ members.map (·.1) then members.map (·.1) else members.map (·.1) ++ [name] := by
  induction members with
  | nil => rfl
  | cons member members ih =>
    obtain ⟨n, w⟩ := member
    rw [Toml.setMember]
    by_cases hn : n = name
    · simp [hn]
    · rw [if_neg hn, List.map_cons, ih]
      by_cases h : name ∈ members.map (·.1) <;> simp [h, Ne.symm hn]

lemma names_setMember_nodup {name : Text} {v : Setting} {members : List (Text × Setting)}
    (h : (members.map (·.1)).Nodup) : ((Toml.setMember name v members).map (·.1)).Nodup := by
  rw [names_setMember]
  split
  · exact h
  · next hname => exact h.append (List.nodup_singleton name) (by simpa using hname)

lemma lookup_filter_ne (key name : Text) (layer : List (Text × Setting)) :
    (layer.filter fun (n, _) => n ≠ name).lookup key =
      if key = name then none else layer.lookup key := by
  induction layer with
  | nil => exact (ite_self none).symm
  | cons setting layer ih =>
    obtain ⟨n, v⟩ := setting
    by_cases hn : n = name
    · rw [List.filter_cons_of_neg (by simpa using hn), ih, lookup_cons_eq_ite, hn]
      split <;> rfl
    · rw [List.filter_cons_of_pos (by simpa using hn), lookup_cons_eq_ite, lookup_cons_eq_ite, ih]
      by_cases h : key = n
      · rw [if_pos h, if_pos h, if_neg (h ▸ hn)]
      · rw [if_neg h, if_neg h]

lemma expandFlag_nodup {name verbosity : Text} {overrides : List (Text × Setting)}
    (h : (overrides.map (·.1)).Nodup) :
    ((expandFlag name verbosity overrides).map (·.1)).Nodup := by
  have hfilter : ∀ {layer : List (Text × Setting)} {p : Text × Setting → Bool},
      (layer.map (·.1)).Nodup → ((layer.filter p).map (·.1)).Nodup := fun hlayer =>
    hlayer.sublist (List.filter_sublist.map _)
  rw [expandFlag]
  split
  · exact h
  · split
    · exact hfilter h
    · exact hfilter (names_setMember_nodup h)

lemma lookup_expandFlag {key name : Text} (hkey : key ≠ name) (verbosity : Text)
    (overrides : List (Text × Setting)) :
    (expandFlag name verbosity overrides).lookup key =
      if key = "verbosity" ∧ (overrides.lookup name).any (!·.isNothing) then
        some (.text verbosity)
      else overrides.lookup key := by
  rw [expandFlag]
  cases hflag : overrides.lookup name with
  | none => rw [Option.any_none, if_neg fun h => Bool.noConfusion h.2]
  | some v =>
    simp only [Option.any_some]
    rw [lookup_filter_ne, if_neg hkey]
    by_cases hv : v.isNothing = true
    · rw [if_pos hv, if_neg (by simp [hv])]
    · rw [if_neg hv, lookup_setMember]
      by_cases h : key = "verbosity"
      · rw [if_pos h, if_pos ⟨h, by simpa using hv⟩]
      · rw [if_neg h, if_neg fun hboth => h hboth.1]

lemma named?_callerSettings {s : SettingSources} (hnames : (s.overrides.map (·.1)).Nodup)
    {name : Text} (hquiet : name ≠ "quiet") (hverbose : name ≠ "verbose") :
    named? name (callerSettings s.overrides) = s.caller? name := by
  have hflag : (expandFlag "verbose" "verbose" s.overrides).lookup ("quiet" : Text) =
      s.overrides.lookup ("quiet" : Text) := by
    rw [lookup_expandFlag (by decide), if_neg fun h => absurd h.1 (by decide)]
  rw [callerSettings, named?_eq_lookup (expandFlag_nodup (expandFlag_nodup hnames)),
    lookup_expandFlag hquiet, hflag, lookup_expandFlag hverbose, caller?, flagged, flagged]

/-! ### The environment -/

/-- What the environment sets a field to; nothing where its variable does not have the form. -/
def fromVariable? (environment : List (Text × Text)) (f : ConfigurationField) : Option Setting :=
  (readVariable environment f).toOption.join

/-- The settings of some fields that have one. -/
def foundSettings (found : ConfigurationField → Option Setting) (fields : List ConfigurationField) :
    List (Text × Setting) :=
  fields.filterMap fun f => (found f).map (f.name, ·)

lemma foundSettings_cons (found : ConfigurationField → Option Setting) (f : ConfigurationField)
    (fields : List ConfigurationField) :
    foundSettings found (f :: fields) =
      ((found f).map (f.name, ·)).toList ++ foundSettings found fields := by
  rw [foundSettings, List.filterMap_cons]
  cases found f <;> rfl

lemma environmentSettings_cons_ok {environment : List (Text × Text)} {f : ConfigurationField}
    {fields : List ConfigurationField} {layer : List (Text × Setting)}
    (h : environmentSettings environment (f :: fields) = .ok layer) :
    ∃ v rest, readVariable environment f = .ok v ∧
      environmentSettings environment fields = .ok rest ∧
      layer = (v.map (f.name, ·)).toList ++ rest := by
  rw [environmentSettings] at h
  rw [readVariable]
  cases hlookup : environment.lookup f.variableName with
  | none =>
    simp only [hlookup] at h
    exact ⟨none, layer, rfl, h, rfl⟩
  | some value =>
    simp only [hlookup] at h
    cases hvalue : f.form.read value with
    | error fault =>
      simp only [hvalue] at h
      cases h
    | ok v =>
      simp only [hvalue] at h
      obtain ⟨rest, hrest, rfl⟩ := except_map_eq_ok h
      exact ⟨some v, rest, congrArg (Except.map some) hvalue, hrest, rfl⟩

lemma environmentSettings_ok {environment : List (Text × Text)} {fields : List ConfigurationField}
    {layer : List (Text × Setting)} (h : environmentSettings environment fields = .ok layer) :
    (∀ f ∈ fields, readVariable environment f = .ok (fromVariable? environment f)) ∧
      layer = foundSettings (fromVariable? environment) fields := by
  induction fields generalizing layer with
  | nil => exact ⟨List.forall_mem_nil _, (Except.ok.inj h).symm⟩
  | cons f fields ih =>
    obtain ⟨v, rest, hread, hrest, rfl⟩ := environmentSettings_cons_ok h
    have hfound : fromVariable? environment f = v := by
      rw [fromVariable?, hread]
      rfl
    obtain ⟨hfields, rfl⟩ := ih hrest
    exact ⟨List.forall_mem_cons.mpr ⟨by rw [hread, hfound], hfields⟩,
      by rw [foundSettings_cons, hfound]⟩

lemma named?_foundSettings_none (found : ConfigurationField → Option Setting)
    {fields : List ConfigurationField} {name : Text} (h : name ∉ fields.map (·.name)) :
    named? name (foundSettings found fields) = none := by
  refine named?_eq_none fun hname => h ?_
  simp only [foundSettings, List.mem_map, List.mem_filterMap, Option.map_eq_some_iff] at hname
  obtain ⟨-, ⟨f, hf, v, -, rfl⟩, rfl⟩ := hname
  exact List.mem_map_of_mem hf

lemma named?_foundSettings (found : ConfigurationField → Option Setting)
    {fields : List ConfigurationField} (hnames : (fields.map (·.name)).Nodup)
    {f : ConfigurationField} (hf : f ∈ fields) :
    named? f.name (foundSettings found fields) = found f := by
  induction fields with
  | nil => cases hf
  | cons g fields ih =>
    obtain ⟨hg, hfields⟩ := List.nodup_cons.mp hnames
    have hcons : named? f.name (foundSettings found (g :: fields)) =
        (named? f.name (foundSettings found fields)).or
          (if f.name = g.name then found g else none) := by
      rw [foundSettings_cons]
      cases found g with
      | none => rw [ite_self, Option.or_none]; rfl
      | some v => exact named?_cons f.name g.name v _
    rw [hcons]
    cases hf with
    | head => rw [named?_foundSettings_none found hg, if_pos rfl, Option.none_or]
    | tail _ hf =>
      have hne : f.name ≠ g.name := fun heq => hg (List.mem_map.mpr ⟨f, hf, heq⟩)
      rw [ih hfields hf, if_neg hne, Option.or_none]

/-! ### Fields -/

/-- Fields that are kept apart: what is written to one is what it holds, and the others hold what
they did. -/
def KeptApart {φ σ : Type} (fields : List φ) (name : φ → Text) (read : φ → σ → Setting)
    (write : φ → Setting → σ → σ) : Prop :=
  ∀ f ∈ fields, ∀ g ∈ fields, ∀ v s,
    read f (write g v s) = if name f = name g then v else read f s

/-- Fields with names of their own are kept apart when writing to one of them changes one value in
the list of all. -/
lemma keptApart_of_set {φ σ : Type} {fields : List φ} {name : φ → Text} {read : φ → σ → Setting}
    {write : φ → Setting → σ → σ} (hnames : (fields.map name).Nodup)
    (h : ∀ (i : Fin fields.length) v s,
      fields.map (read · (write fields[i] v s)) = (fields.map (read · s)).set i v) :
    KeptApart fields name read write := by
  intro f hf g hg v s
  obtain ⟨j, hj, rfl⟩ := List.getElem_of_mem hf
  obtain ⟨i, hi, rfl⟩ := List.getElem_of_mem hg
  have hi' : i < (fields.map name).length := by rwa [List.length_map]
  have hj' : j < (fields.map name).length := by rwa [List.length_map]
  have hsame : (fields.map name)[j] = (fields.map name)[i] ↔ j = i := hnames.getElem_inj_iff
  rw [List.getElem_map, List.getElem_map] at hsame
  have hread := congrArg (·[j]?) (h ⟨i, hi⟩ v s)
  simp only [List.getElem?_map, List.getElem?_set, List.getElem?_eq_getElem hj, List.length_map,
    Option.map_some, Fin.getElem_fin, hi, if_true] at hread
  simp only [hsame]
  split at hread
  · next heq => rw [if_pos heq.symm, Option.some.inj hread]
  · next hne => rw [if_neg (Ne.symm hne), Option.some.inj hread]

lemma configurationFields_nodup : (ConfigurationField.all.map (·.name)).Nodup := by decide +kernel

lemma configurationFields_keptApart :
    KeptApart ConfigurationField.all (·.name) (·.get) (·.set) := by
  refine keptApart_of_set configurationFields_nodup fun i v c => ?_
  fin_cases i <;> rfl

lemma thresholdFields_nodup :
    ((ThresholdField.all : List (ThresholdField Setting Setting)).map (·.name)).Nodup :=
  fieldNames_nodup

lemma thresholdFields_keptApart :
    KeptApart ThresholdField.all (·.name) (fun f t => f.read id id t) ThresholdField.write := by
  refine keptApart_of_set thresholdFields_nodup fun i v c => ?_
  fin_cases i <;> rfl

/-- Sets a field to what some settings have for it. -/
def setNamed (merged : List (Text × Setting)) (c : Configuration) (f : ConfigurationField) :
    Configuration :=
  match merged.lookup f.name with
  | some v => f.set v c
  | none => c

lemma get_setNamed (merged : List (Text × Setting)) (c : Configuration)
    {f g : ConfigurationField} (hf : f ∈ ConfigurationField.all) (hg : g ∈ ConfigurationField.all) :
    f.get (setNamed merged c g) =
      (if f.name = g.name then merged.lookup f.name else none).getD (f.get c) := by
  rw [setNamed]
  by_cases hname : f.name = g.name
  · rw [if_pos hname, hname]
    cases merged.lookup g.name with
    | none => rfl
    | some v => exact (configurationFields_keptApart f hf g hg v c).trans (if_pos hname)
  · rw [if_neg hname, Option.getD_none]
    split
    · next v _ => exact (configurationFields_keptApart f hf g hg v c).trans (if_neg hname)
    · rfl

lemma get_foldl_setNamed (merged : List (Text × Setting)) {f : ConfigurationField}
    (hf : f ∈ ConfigurationField.all) {fields : List ConfigurationField}
    (hfields : fields ⊆ ConfigurationField.all) (c : Configuration) :
    f.get (fields.foldl (setNamed merged) c) =
      (if f.name ∈ fields.map (·.name) then merged.lookup f.name else none).getD (f.get c) := by
  induction fields generalizing c with
  | nil => rfl
  | cons g fields ih =>
    obtain ⟨hg, hfields⟩ := List.cons_subset.mp hfields
    rw [List.foldl_cons, ih hfields, get_setNamed merged c hf hg]
    by_cases hname : f.name = g.name
    · have hmem : f.name ∈ (g :: fields).map (·.name) := List.mem_cons.mpr (.inl hname)
      rw [if_pos hname, if_pos hmem]
      split
      · cases merged.lookup f.name <;> rfl
      · rfl
    · simp [hname]

lemma thresholds_foldl_setNamed (merged : List (Text × Setting)) {fields : List ConfigurationField}
    (hfields : fields ⊆ ConfigurationField.all) (c : Configuration) :
    (fields.foldl (setNamed merged) c).thresholds = c.thresholds := by
  have hset : ∀ g ∈ ConfigurationField.all, ∀ v c, (g.set v c).thresholds = c.thresholds := by
    intro g hg v c
    obtain ⟨i, rfl⟩ := List.mem_iff_get.mp hg
    fin_cases i <;> rfl
  induction fields generalizing c with
  | nil => rfl
  | cons g fields ih =>
    obtain ⟨hg, hfields⟩ := List.cons_subset.mp hfields
    rw [List.foldl_cons, ih hfields, setNamed]
    split
    · exact hset g hg _ c
    · rfl

lemma get_ofSettings (merged : List (Text × Setting)) (thresholds : Thresholds Setting Setting)
    {f : ConfigurationField} (hf : f ∈ ConfigurationField.all) :
    f.get (Configuration.ofSettings merged thresholds) =
      (merged.lookup f.name).getD (f.get .default) := by
  have hdefault : ∀ g ∈ ConfigurationField.all,
      g.get { Configuration.default with thresholds := thresholds } = g.get .default := by
    intro g hg
    obtain ⟨i, rfl⟩ := List.mem_iff_get.mp hg
    fin_cases i <;> rfl
  refine (get_foldl_setNamed merged hf (List.Subset.refl _) _).trans ?_
  rw [if_pos (List.mem_map_of_mem hf), hdefault f hf]

lemma thresholds_ofSettings (merged : List (Text × Setting))
    (thresholds : Thresholds Setting Setting) :
    (Configuration.ofSettings merged thresholds).thresholds = thresholds :=
  thresholds_foldl_setNamed merged (List.Subset.refl _) _

lemma read_setFields {members : List (Text × Setting)} {t t' : Thresholds Setting Setting}
    (h : t.setFields members = .ok t') {f : ThresholdField Setting Setting}
    (hf : f ∈ ThresholdField.all) :
    f.read id id t' = (named? f.name members).getD (f.read id id t) := by
  -- a later member of the same name goes before the one that is set here
  induction members generalizing t with
  | nil => rw [Except.ok.inj h]; rfl
  | cons member members ih =>
    obtain ⟨name, v⟩ := member
    rw [Thresholds.setFields] at h
    cases hfind : (ThresholdField.find? name : Option (ThresholdField Setting Setting)) with
    | none =>
      rw [hfind] at h
      cases h
    | some g =>
      have hg : g ∈ ThresholdField.all := List.mem_of_find?_eq_some hfind
      have hname : g.name = name := by simpa using List.find?_some hfind
      have hrest : (g.write v t).setFields members = .ok t' := by
        rw [hfind] at h
        cases g <;> exact h
      have hwrite : f.read id id (g.write v t) = if f.name = name then v else f.read id id t :=
        hname ▸ thresholdFields_keptApart f hf g hg v t
      rw [ih hrest, named?_cons, hwrite]
      cases named? f.name members with
      | some w => rfl
      | none => by_cases hsame : f.name = name <;> simp [hsame]

lemma defaultSettings_accepted : Thresholds.defaultSettings.validate = .ok () := by decide +kernel

lemma ofTable_ok {members : List (Text × Setting)} {t : Thresholds Setting Setting}
    (h : Thresholds.ofTable members = .ok t) :
    Thresholds.defaultSettings.setFields members = .ok t ∧ t.validate = .ok () := by
  rw [Thresholds.ofTable] at h
  obtain ⟨t', hset, h⟩ := bind_eq_ok h
  cases hvalidate : t'.validate with
  | error e =>
    simp only [hvalidate] at h
    cases h
  | ok u =>
    simp only [hvalidate] at h
    obtain rfl := Except.ok.inj h
    exact ⟨hset, hvalidate⟩

lemma thresholdsOf_ok {merged : List (Text × Setting)} {t : Thresholds Setting Setting}
    (h : Configuration.thresholdsOf merged = .ok t) :
    t.validate = .ok () ∧ ∀ f ∈ ThresholdField.all, f.read id id t =
      (named? f.name ((merged.lookup thresholdsName).elim [] Setting.tableMembers)).getD
        (f.read id id .defaultSettings) := by
  rw [Configuration.thresholdsOf] at h
  split at h
  · next members hlookup =>
    obtain ⟨hset, hvalidate⟩ := ofTable_ok (mapError_eq_ok h)
    refine ⟨hvalidate, fun f hf => ?_⟩
    rw [hlookup]
    exact read_setFields hset hf
  · next hother =>
    obtain rfl := Except.ok.inj h
    refine ⟨defaultSettings_accepted, fun f hf => ?_⟩
    have hnone : (merged.lookup thresholdsName).elim [] Setting.tableMembers = [] := by
      cases hlookup : merged.lookup thresholdsName with
      | none => rfl
      | some v =>
        cases v with
        | table members => exact absurd hlookup (hother members)
        | _ => rfl
    rw [hnone]
    rfl

lemma chosenThresholds_ok {s : SettingSources} {merged : List (Text × Setting)}
    {t : Thresholds Setting Setting} (h : Configuration.chosenThresholds s merged = .ok t) :
    t.validate = .ok () ∧
      match s.thresholds? with
      | some made => t = made
      | none => ∀ f ∈ ThresholdField.all, f.read id id t =
          (named? f.name ((merged.lookup thresholdsName).elim [] Setting.tableMembers)).getD
            (f.read id id .defaultSettings) := by
  rw [Configuration.chosenThresholds] at h
  cases hmade : s.thresholds? with
  | some made =>
    simp only [hmade] at h
    obtain rfl := Except.ok.inj h
    exact ⟨made.property, rfl⟩
  | none =>
    simp only [hmade] at h
    exact thresholdsOf_ok h

/-! ### Loading -/

lemma lookup_mergeLayers (key : Text)
    (global project explicit environment caller : List (Text × Setting)) :
    (mergeLayers [global, project, explicit, environment, caller]).lookup key =
      (named? key caller <|> named? key environment <|> named? key explicit <|>
        named? key project <|> named? key global) := by
  simp only [mergeLayers, List.foldl_cons, List.foldl_nil, lookup_mergeLayer, List.lookup_nil,
    Option.or_none, Option.orElse_eq_orElse, Option.orElse_eq_or]

lemma layers_ok {s : SettingSources} {layers : List (List (Text × Setting))}
    (h : s.layers = .ok layers) :
    ∃ global project explicit environment,
      readOptional globalPath s.global = .ok global ∧
      readOptional projectPath s.project = .ok project ∧
      readExplicit s.explicit? = .ok explicit ∧
      environmentSettings s.environment ConfigurationField.all = .ok environment ∧
      layers = [global, project, explicit, environment, callerSettings s.overrides] := by
  obtain ⟨global, hglobal, h⟩ := bind_eq_ok h
  obtain ⟨project, hproject, h⟩ := bind_eq_ok h
  obtain ⟨explicit, hexplicit, h⟩ := bind_eq_ok h
  obtain ⟨environment, henvironment, h⟩ := bind_eq_ok h
  exact ⟨global, project, explicit, environment, hglobal, hproject, hexplicit, henvironment,
    (Except.ok.inj h).symm⟩

lemma load_ok {s : SettingSources} {c : Configuration} (h : Configuration.load s = .ok c) :
    ∃ layers thresholds, s.layers = .ok layers ∧
      Configuration.chosenThresholds s (mergeLayers layers) = .ok thresholds ∧
      c = Configuration.ofSettings (mergeLayers layers) thresholds := by
  obtain ⟨layers, hlayers, h⟩ := bind_eq_ok h
  obtain ⟨thresholds, hthresholds, h⟩ := bind_eq_ok h
  refine ⟨layers, thresholds, hlayers, hthresholds, ?_⟩
  dsimp only at h
  split at h
  · cases h
  · obtain ⟨_, -, h⟩ := bind_eq_ok h
    exact (Except.ok.inj h).symm

lemma thresholdsName_apart : thresholdsName ∉ ConfigurationField.all.map (·.name) := by decide

lemma flags_apart : ("quiet" : Text) ∉ ConfigurationField.all.map (·.name) ∧
    ("verbose" : Text) ∉ ConfigurationField.all.map (·.name) := by decide

/-- A configuration that is loaded has in each field what the most preferred source that names the
field has for it: the caller, the environment, the named file, the file of the project or the file
for all projects, or else the default. The thresholds are those that the caller has made, or those
of the one table that the most preferred of these sources but the environment has, whose other
fields have their defaults. -/
theorem load_precedence {s : SettingSources} (hnames : (s.overrides.map (·.1)).Nodup)
    {c : Configuration} (h : Configuration.load s = .ok c) :
    ∃ (global project explicit : List (Text × Setting))
      (environment : ConfigurationField → Option Setting),
      readOptional globalPath s.global = .ok global ∧
      readOptional projectPath s.project = .ok project ∧
      readExplicit s.explicit? = .ok explicit ∧
      (∀ f ∈ ConfigurationField.all, readVariable s.environment f = .ok (environment f)) ∧
      (∀ f ∈ ConfigurationField.all, f.get c =
        (s.caller? f.name <|> environment f <|> named? f.name explicit <|> named? f.name project <|>
          named? f.name global).getD (f.get .default)) ∧
      c.thresholds.validate = .ok () ∧
      match s.thresholds? with
      | some made => c.thresholds = made
      | none =>
        let source := s.caller? thresholdsName <|> named? thresholdsName explicit <|>
          named? thresholdsName project <|> named? thresholdsName global
        ∀ f ∈ ThresholdField.all, f.read id id c.thresholds =
          (named? f.name (source.elim [] Setting.tableMembers)).getD
            (f.read id id .defaultSettings) := by
  obtain ⟨layers, thresholds, hlayers, hthresholds, rfl⟩ := load_ok h
  obtain ⟨global, project, explicit, environment, hglobal, hproject, hexplicit, henvironment,
    rfl⟩ := layers_ok hlayers
  obtain ⟨hread, rfl⟩ := environmentSettings_ok henvironment
  obtain ⟨haccepted, hchosen⟩ := chosenThresholds_ok hthresholds
  rw [lookup_mergeLayers, named?_callerSettings hnames (by decide) (by decide),
    named?_foundSettings_none _ thresholdsName_apart] at hchosen
  refine ⟨global, project, explicit, fromVariable? s.environment, hglobal, hproject, hexplicit,
    hread, fun f hf => ?_, ?_, ?_⟩
  · have hname := List.mem_map_of_mem (f := ConfigurationField.name) hf
    rw [get_ofSettings _ _ hf, lookup_mergeLayers,
      named?_callerSettings hnames (fun heq => flags_apart.1 (heq ▸ hname))
        (fun heq => flags_apart.2 (heq ▸ hname)),
      named?_foundSettings _ configurationFields_nodup hf]
  · rw [thresholds_ofSettings]
    exact haccepted
  · rw [thresholds_ofSettings]
    exact hchosen

/-- A project with a setting, an environment that has another value for it, and a caller who has one
of the thresholds and is quiet while asking for more to be told. -/
def mixedSources : SettingSources where
  global := .missing
  project := .content "workers = 4\n".toUTF8.toList
  explicit? := none
  environment := [("QUALITY_INSIGHT_WORKERS", "2")]
  overrides := [("quiet", .flag true), ("verbosity", .text "verbose"),
    ("thresholds", .table [("max_parameters", .whole 9)])]

theorem load_precedence_mixed :
    (mixedSources.overrides.map (·.1)).Nodup ∧
      ∃ c, Configuration.load mixedSources = .ok c ∧ c.verbosity = .text "quiet" ∧
        c.workers = .whole 2 ∧ c.thresholds.maxParameters = .whole 9 := by
  have hnames : (mixedSources.overrides.map (·.1)).Nodup := by decide
  have hloaded : (Configuration.load mixedSources).isOk = true := by decide +kernel
  refine ⟨hnames, ?_⟩
  cases hload : Configuration.load mixedSources with
  | error e =>
    rw [hload] at hloaded
    cases hloaded
  | ok c =>
    obtain ⟨_, _, _, environment, -, -, -, hread, hfields, -, hthresholds⟩ :=
      load_precedence hnames hload
    have hall : ∀ (i : Nat) (hi : i < ConfigurationField.all.length),
        ConfigurationField.all[i] ∈ ConfigurationField.all := fun i hi => List.getElem_mem hi
    have hvariable : environment ConfigurationField.all[1] = some (.whole 2) :=
      (Except.ok.inj (hread _ (hall 1 (by decide)))).symm
    have hworkers := hfields _ (hall 1 (by decide))
    rw [hvariable] at hworkers
    have hparameters := hthresholds
      (.whole "max_parameters" (·.maxParameters) fun v t => { t with maxParameters := v })
      (by simp [ThresholdField.all, ThresholdField.findingLimits])
    exact ⟨c, rfl, hfields _ (hall 5 (by decide)), hworkers, hparameters⟩

end Proofs

end SourceGrade
