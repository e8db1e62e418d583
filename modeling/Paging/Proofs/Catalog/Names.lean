/-
# Names under which rows are read

A row answers to the name of the id, to the names of its fields and to those of their shadows.
Registration keeps shadows apart from fields and from each other, and declared fields apart from
the id (`unambiguous_iff_apart`). It does not look at two more pairs: the freshness field, when it
is not declared, may have the name of the id, and so may a shadow. In both cases the id is read in
place of the field (`names_ambiguous`). In all others the names are unambiguous, and what is
compared for a field is its own value.
-/
import Paging.Proofs.Collection.Prepared

namespace Paging
namespace Catalog

/-- No name under which a row is read stands for two things. -/
structure Unambiguous (c : Catalog) : Prop where
  names_nodup : (c.fields.map (·.name)).Nodup
  name_ne_id : ∀ f ∈ c.fields, f.name ≠ c.idField
  shadow_ne_id : ∀ p ∈ c.shadows, p.2 ≠ c.idField
  shadow_ne_name : ∀ p ∈ c.shadows, ∀ f ∈ c.fields, p.2 ≠ f.name
  shadows_nodup : (c.shadows.map (·.2)).Nodup

/-- The names are unambiguous when the id has its own. -/
theorem WellFormed.unambiguous_iff {c : Catalog} (hc : c.WellFormed) :
    c.Unambiguous ↔ c.freshnessField ≠ c.idField ∧ ∀ p ∈ c.shadows, p.2 ≠ c.idField := by
  constructor
  · intro h
    obtain ⟨f, hf, hname, -⟩ := hc.freshness
    exact ⟨hname ▸ h.name_ne_id f hf, h.shadow_ne_id⟩
  · rintro ⟨hfresh, hshadows⟩
    refine ⟨hc.names_nodup, fun f hf hname => ?_, hshadows, ?_, hc.shadows_nodup⟩
    · exact hfresh ((hc.idField f hf hname).symm.trans hname)
    · rintro ⟨source, shadow⟩ hp g hg heq
      obtain ⟨f, hf, -, hshadow⟩ := mem_shadows.1 hp
      exact hc.shadow_fresh f hf shadow hshadow g hg heq.symm

/-- With unambiguous names the id is apart. -/
theorem Unambiguous.idApart {c : Catalog} (h : c.Unambiguous) (hc : c.WellFormed) : c.IdApart := by
  refine ⟨(hc.unambiguous_iff.1 h).1, fun f hf hshadow => ?_⟩
  exact h.shadow_ne_id (f.name, c.idField) (mem_shadows.2 ⟨f, hf, rfl, hshadow⟩) rfl

/-- The freshness field never ignores letter case, so adding it, or making it sortable, leaves the
fields that do as they are. -/
theorem exists_ignoresCase_iff {config : Config} {fields declared : List FieldDeclaration}
    (h : declareFreshness config fields = .ok declared) (name : String) :
    (∃ d ∈ declared, ignoresCase config d ∧ d.name = name) ↔
      ∃ d ∈ fields, ignoresCase config d ∧ d.name = name := by
  have hfresh : ∀ d : FieldDeclaration, d.name = config.updatedField → ¬ignoresCase config d := by
    intro d hd
    simp [ignoresCase, hd]
  unfold declareFreshness at h
  cases hfind : fields.find? (·.name = config.updatedField) with
  | none =>
    simp only [hfind, Except.ok.injEq] at h
    obtain rfl := h
    constructor
    · rintro ⟨d, hd, hignores, hname⟩
      rcases List.mem_append.1 hd with hd | hd
      · exact ⟨d, hd, hignores, hname⟩
      · obtain rfl := List.mem_singleton.1 hd
        exact absurd hignores (hfresh _ rfl)
    · rintro ⟨d, hd, h⟩
      exact ⟨d, List.mem_append_left _ hd, h⟩
  | some found =>
    simp only [hfind] at h
    split_ifs at h
    obtain rfl := Except.ok.inj h
    constructor
    · rintro ⟨d, hd, hignores, hname⟩
      obtain ⟨e, he, rfl⟩ := List.mem_map.1 hd
      split_ifs at hignores hname with hstamp
      · exact absurd hignores (hfresh _ hstamp)
      · exact ⟨e, he, hignores, hname⟩
    · rintro ⟨d, hd, hignores, hname⟩
      refine ⟨d, List.mem_map.2 ⟨d, hd, ?_⟩, hignores, hname⟩
      exact if_neg fun hstamp => hfresh d hstamp hignores

/-- What registration takes from a schema and its settings. -/
theorem shadows_of_register {schema : Schema} {config : Config} {c : Catalog}
    (h : register schema config = .ok c) :
    c.config = config ∧ (∀ d ∈ schema.fields, d.name ≠ config.idField) ∧
      ∀ shadow, (∃ p ∈ c.shadows, p.2 = shadow) ↔
        ∃ d ∈ schema.fields, ignoresCase config d ∧ config.shadowName d.name = shadow := by
  unfold register at h
  obtain ⟨_, hnames, h⟩ := bind_eq_ok.1 h
  obtain ⟨declared, hdeclared, h⟩ := bind_eq_ok.1 h
  obtain ⟨_, -, h⟩ := bind_eq_ok.1 h
  obtain rfl := Except.ok.inj h
  -- a shadow belongs to a declaration that ignores letter case, before and after the stamp is
  -- declared
  refine ⟨rfl, (checkNames_eq_ok_iff.1 hnames).2.2, fun shadow => ?_⟩
  constructor
  · rintro ⟨⟨source, _⟩, hp, rfl⟩
    obtain ⟨f, hf, -, hshadow⟩ := mem_shadows.1 hp
    obtain ⟨d, hd, rfl⟩ := List.mem_map.1 hf
    simp only [settle] at hshadow
    split_ifs at hshadow with hignores
    obtain ⟨e, he, hignores', hname⟩ :=
      (exists_ignoresCase_iff hdeclared d.name).1 ⟨d, hd, hignores, rfl⟩
    exact ⟨e, he, hignores', (congrArg config.shadowName hname).trans (Option.some.inj hshadow)⟩
  · rintro ⟨d, hd, hignores, rfl⟩
    obtain ⟨e, he, hignores', hname⟩ :=
      (exists_ignoresCase_iff hdeclared d.name).2 ⟨d, hd, hignores, rfl⟩
    refine ⟨(e.name, config.shadowName e.name),
      mem_shadows.2 ⟨settle config e, List.mem_map_of_mem he, rfl, ?_⟩,
      congrArg config.shadowName hname⟩
    simp [settle, hignores']

/-- **When registration leaves no ambiguous name.** Take a registered catalog. Its declared fields
have other names than the id, its shadows have other names than its fields, and no two shadows have
one name. All names are unambiguous exactly if the freshness field has another name than the id and
so has every shadow. Then a sort or a filter on a field of a written document reads the value of
that field, in small letters where letter case is ignored. -/
theorem unambiguous_iff_apart {schema : Schema} {config : Config} {c : Catalog}
    (h : register schema config = .ok c) :
    ((∀ d ∈ schema.fields, d.name ≠ c.idField) ∧
      (∀ p ∈ c.shadows, ∀ f ∈ c.fields, p.2 ≠ f.name) ∧ (c.shadows.map (·.2)).Nodup) ∧
    (c.Unambiguous ↔ config.updatedField ≠ config.idField ∧
      ∀ d ∈ schema.fields, ignoresCase config d → config.shadowName d.name ≠ config.idField) ∧
    (c.Unambiguous → ∀ d, Prepared c d → ∀ f ∈ c.fields,
      d.row c.idField f.physical =
        if f.caseInsensitive then (d.value f.name).map Value.lowered else d.value f.name) := by
  have hc := wellFormed_of_register h
  obtain ⟨rfl, hdeclared, hshadows⟩ := shadows_of_register h
  refine ⟨⟨hdeclared, ?_, hc.shadows_nodup⟩, ?_, fun hnames d hd f hf => ?_⟩
  · rintro ⟨source, shadow⟩ hp g hg heq
    obtain ⟨f, hf, -, hshadow⟩ := mem_shadows.1 hp
    exact hc.shadow_fresh f hf shadow hshadow g hg heq.symm
  · refine hc.unambiguous_iff.trans (and_congr_right fun _ => ?_)
    -- a shadow comes from a declaration that ignores letter case, and the stamp adds none
    constructor
    · intro hp d hd hignores heq
      obtain ⟨p, hmem, hname⟩ := (hshadows _).2 ⟨d, hd, hignores, rfl⟩
      exact hp p hmem (hname.trans heq)
    · intro hd p hp heq
      obtain ⟨d, hmem, hignores, hname⟩ := (hshadows _).1 ⟨p, hp, rfl⟩
      exact hd d hmem hignores (hname.trans heq)
  · rw [Document.row, if_neg (hc.physical_ne_idField (hnames.idApart hc) hf),
      hd.value_physical hc hf]

/-- The people have unambiguous names. -/
theorem unambiguous_iff_apart_people :
    ((∀ d ∈ people.fields, d.name ≠ peopleCatalog.idField) ∧
      (∀ p ∈ peopleCatalog.shadows, ∀ f ∈ peopleCatalog.fields, p.2 ≠ f.name) ∧
      (peopleCatalog.shadows.map (·.2)).Nodup) ∧
    (peopleCatalog.Unambiguous ↔ Config.standard.updatedField ≠ Config.standard.idField ∧
      ∀ d ∈ people.fields, ignoresCase .standard d →
        Config.standard.shadowName d.name ≠ Config.standard.idField) ∧
    (peopleCatalog.Unambiguous → ∀ d, Prepared peopleCatalog d → ∀ f ∈ peopleCatalog.fields,
      d.row peopleCatalog.idField f.physical =
        if f.caseInsensitive then (d.value f.name).map Value.lowered else d.value f.name) :=
  unambiguous_iff_apart register_people

/-- **Registration leaves ambiguous names**: a freshness field that has the name of the id, and a
shadow that has it, so that whoever sorts by the text field reads the id. -/
theorem names_ambiguous :
    (∃ c, register ⟨"events", []⟩ { Config.standard with updatedField := "id" } = .ok c ∧
      (∃ f ∈ c.fields, f.name = c.idField) ∧ ¬c.Unambiguous) ∧
    ∃ c, register ⟨"words", [⟨"d", .string, true, .inherit⟩]⟩
        { Config.standard with shadowStart := "i" } = .ok c ∧ ¬c.Unambiguous ∧
      ∀ d : Document, d.row c.idField (c.physicalName "d") = some (.entityId d.id) := by
  refine ⟨⟨_, rfl, ⟨_, List.mem_cons_self, rfl⟩, fun h => ?_⟩, _, rfl, fun h => ?_, fun d => ?_⟩
  · exact h.name_ne_id _ List.mem_cons_self rfl
  · exact h.shadow_ne_id ("d", "id") (by decide +kernel) rfl
  · exact d.row_idField "id"

end Catalog
end Paging
