/-
# Declarations in another order

What registration asks of a schema does not depend on the order of the declarations: names are
compared with all other names, and the freshness field is found wherever it stands. Which error is
reported may depend on the order; whether there is one does not. The fields of the catalogs that
come of two orders are the same in two orders, and since no two fields have one name, every name
finds the same field (`register_reordered`). The physical names are distinct as well, because a
shadow has a name that no field has and no other shadow has.
-/
import Paging.Proofs.Catalog

namespace Paging
namespace Catalog

variable {config : Config} {fields fields' declared : List FieldDeclaration}

/-- The check of names does not depend on the order of the declarations. -/
theorem checkNames_reordered (h : fields.Perm fields') (hok : checkNames config [] fields = .ok ()) :
    checkNames config [] fields' = .ok () := by
  obtain ⟨hnodup, hnotSeen, hnotId⟩ := checkNames_eq_ok_iff.1 hok
  exact checkNames_eq_ok_iff.2 ⟨(h.map _).nodup_iff.1 hnodup,
    fun d hd => hnotSeen d (h.symm.subset hd), fun d hd => hnotId d (h.symm.subset hd)⟩

/-- What is found under a name does not depend on the order of items with distinct names. -/
theorem find?_reordered {α : Type} {name : α → String} {l l' : List α} (h : l.Perm l')
    (hnodup : (l.map name).Nodup) (key : String) :
    l.find? (name · = key) = l'.find? (name · = key) := by
  have hnodup' : (l'.map name).Nodup := (h.map name).nodup_iff.1 hnodup
  ext a
  rw [find?_eq_some_iff_of_nodup hnodup, find?_eq_some_iff_of_nodup hnodup', h.mem_iff]

/-- The freshness field is found wherever it is declared. -/
theorem declareFreshness_reordered (h : fields.Perm fields') (hnodup : (fields.map (·.name)).Nodup)
    (hok : declareFreshness config fields = .ok declared) :
    ∃ declared', declareFreshness config fields' = .ok declared' ∧ declared.Perm declared' := by
  have hfind := find?_reordered h hnodup config.updatedField
  unfold declareFreshness at hok ⊢
  rw [← hfind]
  cases hfound : fields.find? (·.name = config.updatedField) with
  | none =>
    simp only [hfound, Except.ok.injEq] at hok
    obtain rfl := hok
    exact ⟨_, rfl, h.append_right _⟩
  | some d =>
    simp only [hfound] at hok ⊢
    split_ifs at hok ⊢ with htype
    obtain rfl := Except.ok.inj hok
    exact ⟨_, rfl, h.map _⟩

/-- What registration makes of a schema that it accepts. -/
theorem exists_declared {schema : Schema} {c : Catalog} (h : register schema config = .ok c) :
    checkNames config [] schema.fields = .ok () ∧
      ∃ declared, declareFreshness config schema.fields = .ok declared ∧
        checkShadows (declared.map (·.name)) (declared.map (settle config)) = .ok () ∧
        c.fields = declared.map (settle config) ∧ c.config = config ∧
        c.indexed = c.sortableFields.map (·.physical) := by
  unfold register at h
  obtain ⟨_, hnames, h⟩ := bind_eq_ok.1 h
  obtain ⟨declared, hdeclared, h⟩ := bind_eq_ok.1 h
  obtain ⟨_, hshadows, h⟩ := bind_eq_ok.1 h
  obtain rfl := Except.ok.inj h
  exact ⟨hnames, declared, hdeclared, hshadows, rfl, rfl, rfl⟩

/-- **Registration accepts every order of the declarations** if it accepts one, and it gives the
same fields in another order. -/
theorem exists_register_reordered {schema : Schema} {c : Catalog} (h : schema.fields.Perm fields)
    (hok : register schema config = .ok c) :
    ∃ c', register { schema with fields } config = .ok c' ∧ c.fields.Perm c'.fields := by
  obtain ⟨hnames, declared, hdeclared, hshadows, hfields, -⟩ := exists_declared hok
  have hnodup := (checkNames_eq_ok_iff.1 hnames).1
  obtain ⟨declared', hdeclared', hperm⟩ := declareFreshness_reordered h hnodup hdeclared
  have hsettled := hperm.map (settle config)
  have hshadows' : checkShadows (declared'.map (·.name)) (declared'.map (settle config)) =
      .ok () := by
    rw [checkShadows_eq_ok_iff] at hshadows ⊢
    intro f hf shadow hshadow hmem
    exact hshadows f (hsettled.symm.subset hf) shadow hshadow ((hperm.map _).symm.subset hmem)
  refine ⟨_, bind_eq_ok.2 ⟨_, checkNames_reordered h hnames, bind_eq_ok.2 ⟨_, hdeclared',
    bind_eq_ok.2 ⟨_, hshadows', rfl⟩⟩⟩, ?_⟩
  rw [hfields]
  exact hsettled

namespace WellFormed

variable {c : Catalog}

/-- No two fields are compared under one name. -/
theorem physical_ne (hc : c.WellFormed) {f g : Field} (hf : f ∈ c.fields) (hg : g ∈ c.fields)
    (hne : f.name ≠ g.name) : f.physical ≠ g.physical := by
  cases hshadow : f.shadow with
  | none =>
    rw [(hc.of_no_shadow hf hshadow).2]
    cases hshadow' : g.shadow with
    | none => rwa [(hc.of_no_shadow hg hshadow').2]
    | some shadow' =>
      rw [(hc.of_shadow hg hshadow').2.2.2.2.1]
      exact hc.shadow_fresh g hg shadow' hshadow' f hf
  | some shadow =>
    obtain ⟨-, -, -, -, hphysical, hname⟩ := hc.of_shadow hf hshadow
    rw [hphysical]
    cases hshadow' : g.shadow with
    | none =>
      rw [(hc.of_no_shadow hg hshadow').2]
      exact (hc.shadow_fresh f hf shadow hshadow g hg).symm
    | some shadow' =>
      obtain ⟨-, -, -, -, hphysical', hname'⟩ := hc.of_shadow hg hshadow'
      rw [hphysical', hname, hname']
      exact fun heq => hne ((String.append_right_inj _).1 heq)

/-- No two fields are compared under one name. -/
theorem physicals_nodup (hc : c.WellFormed) : (c.fields.map (·.physical)).Nodup := by
  have hnames : c.fields.Pairwise fun f g => f.name ≠ g.name := List.pairwise_map.1 hc.names_nodup
  exact List.pairwise_map.2 (hnames.imp_of_mem fun hf hg hne => hc.physical_ne hf hg hne)

/-- The freshness field is found, sortable and compared with letter case. -/
theorem exists_freshness (hc : c.WellFormed) : ∃ f, c.field? c.freshnessField = some f ∧
    f.type = .timestamp ∧ f.sortable = true ∧ f.caseInsensitive = false := by
  obtain ⟨f, hf, hname, htype, hsortable⟩ := hc.freshness
  refine ⟨f, hname ▸ hc.field?_of_mem hf, htype, hsortable, ?_⟩
  exact (hc.of_no_shadow hf (hc.shadow_freshness hf hname)).1

end WellFormed

/-- **Registration does not depend on the order of the declarations.** Take a schema and the same
declarations in another order. Registration accepts both or neither. If it accepts them, every name
stands for the same field in both catalogs, or for none in both. In either catalog the freshness
field is there, holds timestamps, is sortable and is compared with letter case, and the index
consists of the physical names of the sortable fields, in the order of the fields and without
repetition. -/
theorem register_reordered {schema : Schema} (h : schema.fields.Perm fields) (config : Config) :
    ((∃ c, register schema config = .ok c) ↔
      ∃ c, register { schema with fields } config = .ok c) ∧
    ∀ c c', register schema config = .ok c → register { schema with fields } config = .ok c' →
      (∀ name, c.field? name = c'.field? name) ∧
      ∀ registered ∈ [c, c'],
        (∃ f, registered.field? config.updatedField = some f ∧ f.type = .timestamp ∧
          f.sortable = true ∧ f.caseInsensitive = false) ∧
        registered.indexed = registered.sortableFields.map (·.physical) ∧
        registered.indexed.Nodup := by
  have hindex : ∀ (schema : Schema) (c : Catalog), register schema config = .ok c →
      (∃ f, c.field? config.updatedField = some f ∧ f.type = .timestamp ∧ f.sortable = true ∧
        f.caseInsensitive = false) ∧
      c.indexed = c.sortableFields.map (·.physical) ∧ c.indexed.Nodup := by
    intro schema c hok
    have hc := wellFormed_of_register hok
    obtain ⟨-, declared, -, -, -, rfl, hindexed⟩ := exists_declared hok
    refine ⟨hc.exists_freshness, hindexed, ?_⟩
    rw [hindexed]
    exact hc.physicals_nodup.sublist (List.filter_sublist.map _)
  -- permutations go both ways, so one direction of the equivalence gives the other
  refine ⟨⟨fun ⟨c, hok⟩ => ?_, fun ⟨c, hok⟩ => ?_⟩, fun c c' hok hok' => ⟨fun name => ?_, ?_⟩⟩
  · obtain ⟨c', hok', -⟩ := exists_register_reordered h hok
    exact ⟨c', hok'⟩
  · obtain ⟨c', hok', -⟩ := exists_register_reordered h.symm hok
    exact ⟨c', hok'⟩
  · obtain ⟨c'', hok'', hperm⟩ := exists_register_reordered h hok
    obtain rfl := Except.ok.inj (hok''.symm.trans hok')
    exact find?_reordered hperm (wellFormed_of_register hok).names_nodup name
  · rw [List.forall_mem_cons, List.forall_mem_singleton]
    exact ⟨hindex _ c hok, hindex _ c' hok'⟩

/-- The people with the age declared before the name. -/
theorem register_reordered_people :
    let fields := people.fields.reverse
    let c : Catalog := ⟨"people", .standard,
      [⟨"age", .int, true, false, "age", none⟩, ⟨"name", .string, true, true, "_name", some "_name"⟩,
        ⟨"updated", .timestamp, true, false, "updated", none⟩],
      ["age", "_name", "updated"]⟩
    people.fields.Perm fields ∧ register people .standard = .ok peopleCatalog ∧
      register { people with fields } .standard = .ok c ∧
      (∀ name, peopleCatalog.field? name = c.field? name) ∧ c.indexed.Nodup := by
  intro fields c
  have hperm : people.fields.Perm fields := (List.reverse_perm _).symm
  have hok : register { people with fields } .standard = .ok c := by rfl
  obtain ⟨-, hsame⟩ := register_reordered hperm .standard
  obtain ⟨hfields, hboth⟩ := hsame _ _ register_people hok
  exact ⟨hperm, register_people, hok, hfields, (hboth c (by simp)).2.2⟩

end Catalog
end Paging
