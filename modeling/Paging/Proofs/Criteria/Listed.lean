/-
# Which listed fields count

Each listed field puts a condition on a row, and a row that meets every one of them alone meets all
of them together. The converse needs more. A field that ignores letter case is pointed at its
shadow, and if the shadow is listed as well, both are pointed at one name, under which there is room
for one wanted value only: the other is forgotten (`listed_field_forgotten`). This is the one way to
lose a field. All listed fields count exactly if no shadow is listed with another value than the
small letters of what is listed for its source (`resolve_keeps_iff`).
-/
import Paging.Proofs.Criteria.Meaning

namespace Paging

namespace Value

/-- Every value meets itself, the missing one included. -/
theorem meets_self (v : Option Value) : Meets v v := by
  cases v with
  | none => trivial
  | some v => exact ⟨(accepts_iff_rank v v).2 rfl, Std.ReflCmp.compare_self⟩

/-- A value that meets a text meets nothing else, and one that is missing meets nothing else. -/
theorem eq_of_meets {v a b : Option Value} (ha : ∀ w, a = some w → w.type = .string)
    (hva : Meets v a) (hvb : Meets v b) : b = a := by
  cases a with
  | none =>
    cases v with
    | none =>
      cases b with
      | none => rfl
      | some w => exact hvb.elim
    | some w => exact hva.elim
  | some w =>
    obtain ⟨text, rfl⟩ := exists_string (ha w rfl)
    -- texts meet only if they are equal, so three values are one text
    have htext : ∀ u : Value, u.type.accepts .string → u.collate (.string text) = .eq →
        u = .string text := by
      intro u htype heq
      cases u with
      | string t => exact congrArg string (Std.LawfulEqOrd.eq_of_compare heq)
      | _ => cases htype
    cases v with
    | none => exact hva.elim
    | some v =>
      obtain rfl := htext v hva.1 hva.2
      cases b with
      | none => exact hvb.elim
      | some u =>
        have hrank := (accepts_iff_rank _ u).1 hvb.1
        refine congrArg some (htext u ((accepts_iff_rank u (.string text)).2 hrank.symm) ?_)
        exact Std.OrientedCmp.eq_symm hvb.2

end Value

namespace Criteria

variable {c : Catalog} {fields : Fields} {row : Row} {idField : String}

/-- A row satisfies what one listed field asks for, when nothing else is listed. -/
def HoldsAlone (c : Catalog) (idField : String) (row : Row) (field : String)
    (value : Option Value) : Prop :=
  ∃ alone, (matching (.ofList [(field, value)])).resolve c = .ok alone ∧
    (alone.toPredicate idField).eval row

/-- Alone, a listed field asks that what is compared for it is met. -/
theorem holdsAlone_iff {field name : String} {value wanted : Option Value}
    (h : resolveEntry c field value = .ok (name, wanted)) :
    HoldsAlone c idField row field value ↔ Value.Meets (row name) wanted := by
  have halone : (matching (.ofList [(field, value)])).resolve c =
      .ok (matching (.ofList [(name, wanted)])) := by
    show (resolveEntries c [(field, value)]).map _ = _
    rw [resolveEntries, h]
    rfl
  have heval : ((matching (.ofList [(name, wanted)])).toPredicate idField).eval row ↔
      Value.Meets (row name) wanted := by
    rw [eval_matching]
    constructor
    · exact fun hall => hall name wanted (SortedMap.get?_insert_self _ _ _)
    · intro hmeets other value hother
      obtain ⟨rfl, rfl⟩ := Prod.mk.inj (List.mem_singleton.1 (SortedMap.mem_of_get?_ofList hother))
      exact hmeets
  constructor
  · rintro ⟨alone, hresolve, hholds⟩
    obtain rfl := Except.ok.inj (halone.symm.trans hresolve)
    exact heval.1 hholds
  · exact fun hmeets => ⟨_, halone, heval.2 hmeets⟩

/-- The fields that are compared for the listed ones: each listed field is compared under its name,
and nothing else is. -/
structure Resolves (c : Catalog) (fields compared : Fields) : Prop where
  entry : ∀ {field value}, fields.get? field = some value →
    resolveEntry c field value = .ok (c.physicalName field, c.compared field value)
  named : ∀ {field value}, fields.get? field = some value →
    ∃ wanted, compared.get? (c.physicalName field) = some wanted
  listed : ∀ {name wanted}, compared.get? name = some wanted → ∃ field value,
    fields.get? field = some value ∧ c.physicalName field = name ∧ c.compared field value = wanted

/-- Criteria that are resolved are so entry by entry. -/
theorem exists_resolves (hc : c.WellFormed) {resolved : Criteria}
    (h : (matching fields).resolve c = .ok resolved) :
    ∃ compared, resolved = matching compared ∧ Resolves c fields compared := by
  obtain ⟨entries, hentries, rfl⟩ := map_eq_ok.1 h
  obtain ⟨rfl, hresolved⟩ := resolveEntries_ok hc hentries
  refine ⟨_, rfl, fun hfield => hresolved _ (SortedMap.mem_entries.2 hfield), fun hfield => ?_,
    fun hname => ?_⟩
  · refine SortedMap.exists_get?_ofList ?_
    rw [List.map_map]
    exact List.mem_map_of_mem (f := fun e => c.physicalName e.1) (SortedMap.mem_entries.2 hfield)
  · obtain ⟨⟨field, value⟩, hmem, heq⟩ := List.mem_map.1 (SortedMap.mem_of_get?_ofList hname)
    obtain ⟨hname, hwanted⟩ := Prod.mk.inj heq
    exact ⟨field, value, SortedMap.mem_entries.1 hmem, hname, hwanted⟩

/-- The listed values agree with each other: what is listed for a shadow is what is compared for
its source. -/
def Agree (c : Catalog) (fields : Fields) : Prop :=
  ∀ p ∈ c.shadows, ∀ value wanted, fields.get? p.1 = some value → fields.get? p.2 = some wanted →
    wanted = value.map Value.lowered

/-- Fields that are compared under one name are compared with one value, if the listed values
agree. -/
theorem Agree.compared_eq (h : Agree c fields) (hc : c.WellFormed) {a b : String}
    {value wanted : Option Value} (ha : fields.get? a = some value)
    (hb : fields.get? b = some wanted) (hname : c.physicalName a = c.physicalName b) :
    c.compared a value = c.compared b wanted := by
  rcases hc.eq_or_shadow_of_physicalName hname with rfl | hp | hp
  · exact congrArg _ (Option.some.inj (ha.symm.trans hb))
  · rw [hc.compared_source hp, hc.compared_of_shadow hp]
    exact (h _ hp value wanted ha hb).symm
  · rw [hc.compared_source hp, hc.compared_of_shadow hp]
    exact h _ hp wanted value hb ha

namespace Resolves

variable {compared : Fields}

/-- A row that meets each listed field alone meets all together. -/
theorem eval_of_holdsAlone (h : Resolves c fields compared)
    (hrow : ∀ field value, fields.get? field = some value →
      HoldsAlone c idField row field value) :
    ((matching compared).toPredicate idField).eval row := by
  rw [eval_matching]
  intro name wanted hname
  obtain ⟨field, value, hfield, rfl, rfl⟩ := h.listed hname
  exact (holdsAlone_iff (h.entry hfield)).1 (hrow field value hfield)

/-- One that meets all together meets each alone, if the listed values agree. -/
theorem holdsAlone_of_eval (h : Resolves c fields compared) (hc : c.WellFormed)
    (hagree : Agree c fields) (hrow : ((matching compared).toPredicate idField).eval row)
    {field : String} {value : Option Value} (hfield : fields.get? field = some value) :
    HoldsAlone c idField row field value := by
  rw [eval_matching] at hrow
  obtain ⟨wanted, hwanted⟩ := h.named hfield
  obtain ⟨other, value', hother, hname, rfl⟩ := h.listed hwanted
  rw [holdsAlone_iff (h.entry hfield), ← hagree.compared_eq hc hother hfield hname]
  exact hrow _ _ hwanted

/-- There is a row that meets all together: it has what is wanted under each name. -/
theorem exists_row (compared : Fields) (idField : String) :
    ∃ row : Row, ((matching compared).toPredicate idField).eval row := by
  refine ⟨compared.value, (eval_matching _ _ _).2 fun name wanted hname => ?_⟩
  rw [Fields.value, hname]
  exact Value.meets_self wanted

/-- If every row that meets all together meets each alone, then the listed values agree. -/
theorem agree (h : Resolves c fields compared) (hc : c.WellFormed)
    (hall : ∀ row, ((matching compared).toPredicate idField).eval row →
      ∀ field value, fields.get? field = some value → HoldsAlone c idField row field value) :
    Agree c fields := by
  rintro ⟨source, shadow⟩ hp value wanted hsource hshadow
  obtain ⟨row, hrow⟩ := exists_row compared idField
  have hmeets := (holdsAlone_iff (h.entry hsource)).1 (hall row hrow _ _ hsource)
  have hmeets' := (holdsAlone_iff (h.entry hshadow)).1 (hall row hrow _ _ hshadow)
  obtain ⟨⟨hname, hcase⟩, hname', -⟩ := hc.compared_shadow hp
  rw [hname, hc.compared_source hp] at hmeets
  rw [hname', hc.compared_of_shadow hp] at hmeets'
  refine Value.eq_of_meets (fun w hw => ?_) hmeets hmeets'
  -- what is listed for the source is a text, or it would have been refused
  obtain ⟨v, rfl, rfl⟩ := Option.map_eq_some_iff.1 hw
  rw [Value.type_lowered]
  by_contra hne
  have hentry := h.entry hsource
  rw [resolveEntry_error hc hcase hne] at hentry
  cases hentry

end Resolves

/-- **When every listed field counts.** Take a registered catalog and listed fields that are not
refused. A row that meets each of them alone meets all together. The converse holds of every row
exactly if the listed values agree with each other. -/
theorem resolve_keeps_iff {schema : Schema} {config : Config} {resolved : Criteria}
    (hc : Catalog.register schema config = .ok c)
    (h : (matching fields).resolve c = .ok resolved) (idField : String) :
    (∀ row, (∀ field value, fields.get? field = some value →
        HoldsAlone c idField row field value) → (resolved.toPredicate idField).eval row) ∧
    ((∀ row, (resolved.toPredicate idField).eval row ↔
        ∀ field value, fields.get? field = some value → HoldsAlone c idField row field value) ↔
      Agree c fields) := by
  have hwell := Catalog.wellFormed_of_register hc
  obtain ⟨compared, rfl, hresolves⟩ := exists_resolves hwell h
  refine ⟨fun row => hresolves.eval_of_holdsAlone, fun hiff => ?_, fun hagree row => ?_⟩
  · exact hresolves.agree hwell fun row => (hiff row).1
  · exact ⟨fun hrow _ _ => hresolves.holdsAlone_of_eval hwell hagree hrow,
      hresolves.eval_of_holdsAlone⟩

/-- Ann is asked for by her name and, with the small letters of it, by the shadow. -/
theorem resolve_keeps_iff_people :
    let c := Catalog.peopleCatalog
    let fields : Fields := .ofList [("_name", some (.string "ann")), ("name", some (.string "ANN"))]
    let resolved := matching (.ofList [("_name", some (.string "ann"))])
    (matching fields).resolve c = .ok resolved ∧ Agree c fields ∧
      ∀ row, (resolved.toPredicate "id").eval row ↔
        ∀ field value, fields.get? field = some value → HoldsAlone c "id" row field value := by
  intro c fields resolved
  have hresolve : (matching fields).resolve c = .ok resolved := by decide +kernel
  have hagree : Agree c fields := by
    intro p hp value wanted hvalue hwanted
    obtain rfl : p = ("name", "_name") := List.mem_singleton.1 hp
    obtain rfl : some (.string "ANN") = value := Option.some.inj hvalue
    obtain rfl : some (.string "ann") = wanted := Option.some.inj hwanted
    decide +kernel
  exact ⟨hresolve, hagree,
    (resolve_keeps_iff Catalog.register_people hresolve "id").2.2 hagree⟩

/-- **A listed field can be forgotten.** The shadow of the name is listed with one value and the
name with another. Together the two are met by a person whose name is the one and whose shadow is
not the other, so that the shadow alone is not met. -/
theorem listed_field_forgotten :
    let c := Catalog.peopleCatalog
    let fields : Fields := .ofList [("_name", some (.string "bob")), ("name", some (.string "Ann"))]
    let row := Collection.annStored.row "id"
    ∃ resolved, (matching fields).resolve c = .ok resolved ∧
      (resolved.toPredicate "id").eval row ∧ fields.get? "_name" = some (some (.string "bob")) ∧
      ¬HoldsAlone c "id" row "_name" (some (.string "bob")) := by
  intro c fields row
  refine ⟨matching (.ofList [("_name", some (.string "ann"))]), by decide +kernel,
    by decide +kernel, by decide +kernel, ?_⟩
  rintro ⟨alone, hresolve, hrow⟩
  have halone : (matching (.ofList [("_name", some (.string "bob"))])).resolve c =
      .ok (matching (.ofList [("_name", some (.string "bob"))])) := by decide +kernel
  obtain rfl := Except.ok.inj (halone.symm.trans hresolve)
  exact absurd hrow (by decide +kernel)

end Criteria
end Paging
