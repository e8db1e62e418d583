/-
# What registration settles

A registered catalog is well formed: its fields have distinct names, all of them were settled by
the one rule, the freshness field is among them, and no shadow has the name of a field
(`wellFormed_of_register`). The name of the id is that of a field only if the freshness field has
it. Everything that sorts, filters and writes rely on follows from these facts.

Registration is a chain of checks, and each of them is described by what it lets pass: the names
(`checkNames_eq_ok_iff`), the freshness field (`declareFreshness_ok`) and the shadows
(`checkShadows_eq_ok_iff`). As no two fields have one name, what a catalog finds under a name and
what its list of fields has are the same (`mem_of_field?`, `field?_of_mem`). A name that storage is
asked for either stands for itself or belongs to a field with a shadow (`shadow_cases`).
-/
import Mathlib.Data.List.Nodup
import Paging.Catalog
import Paging.Proofs.Outcome

namespace Paging
namespace Catalog

/-- What holds of a catalog that registration gives. -/
structure WellFormed (c : Catalog) : Prop where
  names_nodup : (c.fields.map (·.name)).Nodup
  settled : ∀ f ∈ c.fields, ∃ d : FieldDeclaration, f = settle c.config d
  freshness : ∃ f ∈ c.fields, f.name = c.freshnessField ∧ f.type = .timestamp ∧ f.sortable
  idField : ∀ f ∈ c.fields, f.name = c.idField → f.name = c.freshnessField
  shadow_fresh : ∀ f ∈ c.fields, ∀ shadow, f.shadow = some shadow →
    ∀ g ∈ c.fields, g.name ≠ shadow

/-- The names pass their check if none is there twice, none was seen before and none is that of the
id. The induction is on the declarations, with any names seen before them. -/
theorem checkNames_eq_ok_iff {config : Config} {seen : List String}
    {declared : List FieldDeclaration} :
    checkNames config seen declared = .ok () ↔ (declared.map (·.name)).Nodup ∧
      (∀ d ∈ declared, d.name ∉ seen) ∧ ∀ d ∈ declared, d.name ≠ config.idField := by
  induction declared generalizing seen with
  | nil => exact ⟨fun _ => ⟨List.nodup_nil, fun _ hd => absurd hd List.not_mem_nil,
      fun _ hd => absurd hd List.not_mem_nil⟩, fun _ => rfl⟩
  | cons d rest ih =>
    rw [checkNames, List.map_cons, List.nodup_cons, List.forall_mem_cons, List.forall_mem_cons]
    split_ifs with hid hseen
    · exact ⟨nofun, fun h => absurd hid h.2.2.1⟩
    · exact ⟨nofun, fun h => absurd hseen h.2.1.1⟩
    · rw [ih]
      constructor
      · rintro ⟨hnodup, hnotSeen, hnotId⟩
        refine ⟨⟨fun hmem => ?_, hnodup⟩, ⟨hseen, fun e he hmem => ?_⟩, hid, hnotId⟩
        · obtain ⟨e, he, hname⟩ := List.mem_map.1 hmem
          exact hnotSeen e he (hname ▸ List.mem_cons_self)
        · exact hnotSeen e he (List.mem_cons_of_mem _ hmem)
      · rintro ⟨⟨hfresh, hnodup⟩, ⟨-, hnotSeen⟩, -, hnotId⟩
        refine ⟨hnodup, fun e he hmem => ?_, hnotId⟩
        rcases List.mem_cons.1 hmem with hname | hmem
        · exact hfresh (hname ▸ List.mem_map_of_mem he)
        · exact hnotSeen e he hmem

/-- The declarations with the freshness field among them: their names, and what they declare of
the freshness field. -/
theorem declareFreshness_ok {config : Config} {fields declared : List FieldDeclaration}
    (h : declareFreshness config fields = .ok declared) (hnodup : (fields.map (·.name)).Nodup) :
    (declared.map (·.name)).Nodup ∧
      (∀ d ∈ declared, d.name = config.updatedField ∨ ∃ e ∈ fields, e.name = d.name) ∧
      ∃ d ∈ declared, d.name = config.updatedField ∧ d.type = .timestamp ∧ d.sortable := by
  unfold declareFreshness at h
  cases hfind : fields.find? (·.name = config.updatedField) with
  | none =>
    simp only [hfind, Except.ok.injEq] at h
    obtain rfl := h
    -- the freshness field was not declared, so it is added behind the others
    have hnone : ∀ d ∈ fields, d.name ≠ config.updatedField := by simpa using hfind
    refine ⟨?_, fun d hd => ?_, _, List.mem_append_right _ List.mem_cons_self, rfl, rfl, rfl⟩
    · rw [List.map_append, List.nodup_append]
      refine ⟨hnodup, List.nodup_singleton _, fun name hname other hother => ?_⟩
      obtain ⟨d, hd, rfl⟩ := List.mem_map.1 hname
      obtain rfl := List.mem_singleton.1 hother
      exact hnone d hd
    · rcases List.mem_append.1 hd with hd | hd
      · exact .inr ⟨d, hd, rfl⟩
      · obtain rfl := List.mem_singleton.1 hd
        exact .inl rfl
  | some found =>
    simp only [hfind] at h
    split_ifs at h with htype
    obtain rfl := Except.ok.inj h
    -- it was declared, so it is made sortable in its place and no name changes
    have hname : ∀ d : FieldDeclaration,
        (if d.name = config.updatedField then { d with sortable := true } else d).name =
          d.name := by
      intro d
      split_ifs <;> rfl
    have hfound : found.name = config.updatedField := by simpa using List.find?_some hfind
    refine ⟨?_, fun d hd => ?_, { found with sortable := true }, ?_, hfound, htype, rfl⟩
    · rw [List.map_map]
      exact (congrArg List.Nodup (List.map_congr_left fun d _ => hname d)).mpr hnodup
    · obtain ⟨e, he, rfl⟩ := List.mem_map.1 hd
      exact .inr ⟨e, he, (hname e).symm⟩
    · refine List.mem_map.2 ⟨found, List.mem_of_find?_eq_some hfind, ?_⟩
      rw [if_pos hfound]

/-- The shadows pass their check if none has a declared name. -/
theorem checkShadows_eq_ok_iff {declared : List String} {fields : List Field} :
    checkShadows declared fields = .ok () ↔
      ∀ f ∈ fields, ∀ shadow, f.shadow = some shadow → shadow ∉ declared := by
  induction fields with
  | nil => exact ⟨fun _ _ hf => absurd hf List.not_mem_nil, fun _ => rfl⟩
  | cons f rest ih =>
    rw [checkShadows, List.forall_mem_cons]
    cases hshadow : f.shadow with
    | none => exact ⟨fun h => ⟨nofun, ih.1 h⟩, fun h => ih.2 h.2⟩
    | some shadow =>
      simp only [Option.some.injEq, forall_eq']
      split_ifs with hmem
      · exact ⟨nofun, fun h => absurd hmem h.1⟩
      · exact ⟨fun h => ⟨hmem, ih.1 h⟩, fun h => ih.2 h.2⟩

/-- **Registration gives well-formed catalogs.** It checks the names, declares the freshness field,
checks the shadows and settles every declaration, and each step gives its part. -/
theorem wellFormed_of_register {schema : Schema} {config : Config} {c : Catalog}
    (h : register schema config = .ok c) : c.WellFormed := by
  unfold register at h
  obtain ⟨_, hnames, h⟩ := bind_eq_ok.1 h
  obtain ⟨declared, hdeclared, h⟩ := bind_eq_ok.1 h
  obtain ⟨_, hshadows, h⟩ := bind_eq_ok.1 h
  obtain rfl := Except.ok.inj h
  obtain ⟨hnodup, -, hid⟩ := checkNames_eq_ok_iff.1 hnames
  obtain ⟨hnodup', horigin, d, hd, hname, htype, hsortable⟩ :=
    declareFreshness_ok hdeclared hnodup
  have hmap : (declared.map (settle config)).map (·.name) = declared.map (·.name) := by
    rw [List.map_map]
    rfl
  refine ⟨hmap ▸ hnodup', fun f hf => ?_, ⟨settle config d, List.mem_map_of_mem hd, hname, htype,
    hsortable⟩, fun f hf hfid => ?_, fun f hf shadow hshadow g hg hgname => ?_⟩
  · obtain ⟨e, -, rfl⟩ := List.mem_map.1 hf
    exact ⟨e, rfl⟩
  · obtain ⟨e, he, rfl⟩ := List.mem_map.1 hf
    rcases horigin e he with hfresh | ⟨e', he', hsame⟩
    · exact hfresh
    · exact absurd (hsame.trans hfid) (hid e' he')
  · refine checkShadows_eq_ok_iff.1 hshadows f hf shadow hshadow ?_
    obtain ⟨e, he, rfl⟩ := List.mem_map.1 hg
    exact hgname ▸ List.mem_map_of_mem he

/-- What is found under a name among items with distinct names. -/
theorem find?_eq_some_iff_of_nodup {α : Type} {name : α → String} {l : List α}
    (hnodup : (l.map name).Nodup) {key : String} {a : α} :
    l.find? (name · = key) = some a ↔ a ∈ l ∧ name a = key := by
  constructor
  · intro h
    exact ⟨List.mem_of_find?_eq_some h, by simpa using List.find?_some h⟩
  · rintro ⟨ha, rfl⟩
    cases hfind : l.find? (name · = name a) with
    | none => exact absurd (List.find?_eq_none.1 hfind a ha) (by simp)
    | some b =>
      have hname : name b = name a := by simpa using List.find?_some hfind
      have hb := List.mem_of_find?_eq_some hfind
      exact congrArg some (List.inj_on_of_nodup_map hnodup hb ha hname)

/-- A field that is found is in the table, under its own name. -/
theorem mem_of_field? {c : Catalog} {name : String} {f : Field} (h : c.field? name = some f) :
    f ∈ c.fields ∧ f.name = name :=
  ⟨List.mem_of_find?_eq_some h, by simpa using List.find?_some h⟩

/-- A pair of names is listed if a field of the first name has the second one as its shadow. -/
theorem mem_shadows {c : Catalog} {source shadow : String} :
    (source, shadow) ∈ c.shadows ↔ ∃ f ∈ c.fields, f.name = source ∧ f.shadow = some shadow := by
  unfold shadows
  rw [List.mem_filterMap]
  constructor
  · rintro ⟨f, hf, h⟩
    obtain ⟨_, hshadow, heq⟩ := Option.map_eq_some_iff.1 h
    obtain ⟨rfl, rfl⟩ := Prod.mk.inj heq
    exact ⟨f, hf, rfl, hshadow⟩
  · rintro ⟨f, hf, rfl, hshadow⟩
    exact ⟨f, hf, by rw [hshadow]; rfl⟩

/-- Neither the freshness field nor a shadow has the name of the id. -/
def IdApart (c : Catalog) : Prop :=
  c.freshnessField ≠ c.idField ∧ ∀ f ∈ c.fields, f.shadow ≠ some c.idField

instance (c : Catalog) : Decidable c.IdApart :=
  inferInstanceAs (Decidable (_ ∧ _))

namespace WellFormed

variable {c : Catalog}

/-- A field is found under its name. -/
theorem field?_of_mem (hc : c.WellFormed) {f : Field} (hf : f ∈ c.fields) :
    c.field? f.name = some f :=
  (find?_eq_some_iff_of_nodup hc.names_nodup).2 ⟨hf, rfl⟩

/-- What a shadow tells of its field: it is a sortable text field other than the freshness field,
it is compared on its shadow, and the shadow has the name that the settings give it. -/
theorem of_shadow (hc : c.WellFormed) {f : Field} (hf : f ∈ c.fields) {shadow : String}
    (h : f.shadow = some shadow) :
    f.type = .string ∧ f.sortable ∧ f.name ≠ c.freshnessField ∧ f.caseInsensitive ∧
      f.physical = shadow ∧ shadow = c.config.shadowName f.name := by
  obtain ⟨d, rfl⟩ := hc.settled f hf
  simp only [settle] at h ⊢
  split_ifs at h with hignores
  obtain rfl := Option.some.inj h
  simp only [hignores, if_true, Option.getD_some, and_true]
  simp only [ignoresCase, Bool.and_eq_true, bne_iff_ne, beq_iff_eq] at hignores
  exact ⟨hignores.1.2, hignores.1.1.1, hignores.1.1.2⟩

/-- What the lack of a shadow tells of a field. -/
theorem of_no_shadow (hc : c.WellFormed) {f : Field} (hf : f ∈ c.fields) (h : f.shadow = none) :
    f.caseInsensitive = false ∧ f.physical = f.name := by
  obtain ⟨d, rfl⟩ := hc.settled f hf
  simp only [settle] at h ⊢
  split_ifs at h with hignores
  simp [hignores]

/-- No two fields have the same shadow. -/
theorem shadows_nodup (hc : c.WellFormed) : (c.shadows.map (·.2)).Nodup := by
  have hfields : c.fields.Pairwise fun f g => f.name ≠ g.name := List.pairwise_map.1 hc.names_nodup
  unfold shadows
  rw [List.Nodup, List.pairwise_map, List.pairwise_filterMap]
  refine hfields.imp_of_mem fun {f g} hf hg hne => ?_
  intro p hp q hq heq
  obtain ⟨shadow, hshadow, rfl⟩ := Option.map_eq_some_iff.1 hp
  obtain ⟨shadow', hshadow', rfl⟩ := Option.map_eq_some_iff.1 hq
  have hname := (hc.of_shadow hf hshadow).2.2.2.2.2
  have hname' := (hc.of_shadow hg hshadow').2.2.2.2.2
  obtain rfl : shadow = shadow' := heq
  exact hne ((String.append_right_inj _).1 (hname.symm.trans hname'))

/-- No field that has a shadow is itself a shadow. -/
theorem shadows_apart (hc : c.WellFormed) : ∀ p ∈ c.shadows, ∀ q ∈ c.shadows, p.1 ≠ q.2 := by
  rintro ⟨_, _⟩ hp ⟨_, _⟩ hq heq
  obtain ⟨f, hf, rfl, -⟩ := mem_shadows.1 hp
  obtain ⟨g, hg, -, hshadow⟩ := mem_shadows.1 hq
  exact hc.shadow_fresh g hg _ hshadow f hf heq

/-- With the id apart, no field has the name of the id or is compared under it. -/
theorem name_ne_idField (hc : c.WellFormed) (hid : c.IdApart) {f : Field} (hf : f ∈ c.fields) :
    f.name ≠ c.idField :=
  fun hname => hid.1 ((hc.idField f hf hname).symm.trans hname)

/-- Where names are apart, no field is compared under the name of the id. -/
theorem physical_ne_idField (hc : c.WellFormed) (hid : c.IdApart) {f : Field} (hf : f ∈ c.fields) :
    f.physical ≠ c.idField := by
  cases hshadow : f.shadow with
  | none =>
    rw [(hc.of_no_shadow hf hshadow).2]
    exact hc.name_ne_idField hid hf
  | some shadow =>
    rw [(hc.of_shadow hf hshadow).2.2.2.2.1]
    exact fun heq => hid.2 f hf (hshadow.trans (congrArg some heq))

/-- The freshness field has no shadow. -/
theorem shadow_freshness (hc : c.WellFormed) {f : Field} (hf : f ∈ c.fields)
    (hname : f.name = c.freshnessField) : f.shadow = none := by
  cases h : f.shadow with
  | none => rfl
  | some shadow => exact absurd hname (hc.of_shadow hf h).2.2.1

/-- **The id is compared under its own name.** -/
theorem physicalName_idField (hc : c.WellFormed) : c.physicalName c.idField = c.idField := by
  unfold physicalName
  cases h : c.field? c.idField with
  | none => rfl
  | some f =>
    obtain ⟨hf, hname⟩ := mem_of_field? h
    have hshadow := hc.shadow_freshness hf (hc.idField f hf hname)
    exact (hc.of_no_shadow hf hshadow).2.trans hname

/-- A name is that of a field with a shadow, or it is compared as it is. -/
theorem shadow_cases (hc : c.WellFormed) (name : String) :
    (c.isCaseInsensitive name = false ∧ (c.field? name).bind (·.shadow) = none ∧
      c.physicalName name = name) ∨
    ∃ f ∈ c.fields, ∃ shadow, f.name = name ∧ f.shadow = some shadow ∧
      c.isCaseInsensitive name = true ∧ (c.field? name).bind (·.shadow) = some shadow ∧
      c.physicalName name = shadow := by
  unfold isCaseInsensitive physicalName
  cases hfield : c.field? name with
  | none => exact .inl ⟨rfl, rfl, rfl⟩
  | some f =>
    obtain ⟨hf, rfl⟩ := mem_of_field? hfield
    cases hshadow : f.shadow with
    | none =>
      obtain ⟨hcase, hphysical⟩ := hc.of_no_shadow hf hshadow
      exact .inl ⟨hcase, hshadow, hphysical⟩
    | some shadow =>
      obtain ⟨-, -, -, hcase, hphysical, -⟩ := hc.of_shadow hf hshadow
      exact .inr ⟨f, hf, shadow, rfl, hshadow, hcase, hshadow, hphysical⟩

end WellFormed

/-- A small schema to try theorems on: a name without letter case and an age. -/
def people : Schema :=
  ⟨"people", [⟨"name", .string, true, .inherit⟩, ⟨"age", .int, true, .inherit⟩]⟩

/-- The catalog of the small schema. -/
def peopleCatalog : Catalog :=
  ⟨"people", .standard,
    [⟨"name", .string, true, true, "_name", some "_name"⟩,
      ⟨"age", .int, true, false, "age", none⟩,
      ⟨"updated", .timestamp, true, false, "updated", none⟩],
    ["_name", "age", "updated"]⟩

/-- The small schema can be registered. -/
theorem register_people : register people .standard = .ok peopleCatalog := by rfl

end Catalog
end Paging
