/-
# Rows that lose fields keep their cursors

A query that asks for some fields gets rows with those fields and the sortable ones, and takes the
others off after the cursors of the page were captured. As long as the sortable fields are there,
a row that lost fields has the cursor and the stamp that it had before (`ofRows_project`), and
losing fields twice is the same as losing them at once (`project_project`).
-/
import Paging.Proofs.Catalog
import Paging.Proofs.Store
import Paging.Query

namespace Paging

namespace Document

/-- A projected document has the fields that are named and that it had, with their values. -/
theorem get?_project (d : Document) (names : List String) (name : String) :
    (d.project names).fields.get? name = if name ∈ names then d.fields.get? name else none := by
  refine (SortedMap.get?_filter d.fields names.contains name).trans ?_
  simp only [List.contains_iff_mem]

/-- A named field reads the same in the projected document, the identifier included. -/
theorem value_project (d : Document) {names : List String} {name : String} (h : name ∈ names) :
    (d.project names).value name = d.value name := by
  unfold value Fields.value
  rw [get?_project, if_pos h]

/-- Fields that stay at last may as well stay at first. -/
theorem project_project (d : Document) {names stored : List String}
    (h : ∀ name ∈ names, name ∈ stored) : (d.project stored).project names = d.project names := by
  have hfields : ((d.project stored).project names).fields = (d.project names).fields := by
    refine SortedMap.ext_get? fun name => ?_
    rw [get?_project, get?_project, get?_project]
    by_cases hname : name ∈ names
    · rw [if_pos hname, if_pos hname, if_pos (h name hname)]
    · rw [if_neg hname, if_neg hname]
  exact congrArg (Document.mk d.id) hfields

end Document

variable {c : Catalog} {names : List String}

/-- A document with its sortable fields has its cursor. -/
theorem Cursor.capture_project (hc : c.WellFormed)
    (h : ∀ f ∈ c.sortableFields, f.name ∈ names) (d : Document) :
    capture (d.project names) c = capture d c := by
  obtain ⟨f, hf, hname, -, hsortable⟩ := hc.freshness
  have hfresh : c.freshnessField ∈ names := hname ▸ h f (List.mem_filter.2 ⟨hf, hsortable⟩)
  unfold capture
  rw [d.value_project hfresh]
  have hfields : (c.sortableFields.map fun f => (f.name, (d.project names).value f.name)) =
      c.sortableFields.map fun f => (f.name, d.value f.name) :=
    List.map_congr_left fun f hf => congrArg (Prod.mk f.name) (d.value_project (h f hf))
  rw [hfields]
  rfl

/-- **Rows with their sortable fields make the same page**, apart from the rows themselves. -/
theorem Page.ofRows_project (hc : c.WellFormed) (h : ∀ f ∈ c.sortableFields, f.name ∈ names)
    (rows : List Document) :
    ofRows (rows.map (·.project names)) c =
      { ofRows rows c with data := rows.map (·.project names) } := by
  obtain ⟨f, hf, hname, -, hsortable⟩ := hc.freshness
  have hfresh : c.freshnessField ∈ names := hname ▸ h f (List.mem_filter.2 ⟨hf, hsortable⟩)
  have hcapture : (fun d : Document => Cursor.capture (d.project names) c) =
      fun d => Cursor.capture d c := funext fun d => Cursor.capture_project hc h d
  have hstamp : (fun d : Document => (d.project names).value c.freshnessField) =
      fun d => d.value c.freshnessField := funext fun d => d.value_project hfresh
  unfold ofRows
  rw [List.head?_map, List.getLast?_map, Option.map_map, Option.map_map, List.filterMap_map]
  simp only [Function.comp_def, hcapture, hstamp]

namespace Query

/-- The names gathered one by one, each unless it is there already, are the names of both lists. -/
theorem mem_union {name : String} (more : List String) (all : List String) :
    name ∈ more.foldl (fun all name => if name ∈ all then all else all ++ [name]) all ↔
      name ∈ all ∨ name ∈ more := by
  induction more generalizing all with
  | nil => simp
  | cons first rest ih =>
    rw [List.foldl_cons, ih, List.mem_cons]
    by_cases hfirst : first ∈ all
    · rw [if_pos hfirst]
      constructor
      · rintro (h | h)
        · exact .inl h
        · exact .inr (.inr h)
      · rintro (h | rfl | h)
        · exact .inl h
        · exact .inl hfirst
        · exact .inr h
    · rw [if_neg hfirst, List.mem_append, List.mem_singleton, or_assoc]

/-- What the store is asked for has the wanted fields and the sortable ones. -/
theorem mem_storedFields {q : Query} {wanted stored : List String}
    (hwanted : q.fields = some wanted) (hstored : q.storedFields = some stored) :
    (∀ name ∈ wanted, name ∈ stored) ∧ ∀ f ∈ q.catalog.sortableFields, f.name ∈ stored := by
  unfold storedFields at hstored
  rw [hwanted] at hstored
  obtain rfl := Option.some.inj hstored
  exact ⟨fun name h => (mem_union _ _).2 (.inl h),
    fun f hf => (mem_union _ _).2 (.inr (List.mem_map_of_mem hf))⟩

/-- A row keeps its id. -/
theorem projected_id (q : Query) (d : Document) : (q.projected d).id = d.id := by
  unfold projected
  cases q.fields <;> rfl

/-- The page of some rows of the store, without the fields that were not asked for. -/
def pageOf (q : Query) (rows : List Document) : Page :=
  { Page.ofRows rows q.catalog with data := rows.map q.projected }

/-- **The fields that the store leaves out make no difference to the page.** -/
theorem pageOf_stored {q : Query} (hc : q.catalog.WellFormed) (rows : List Document) :
    q.pageOf (projectRows q.storedFields rows) = q.pageOf rows := by
  unfold projectRows
  cases hstored : q.storedFields with
  | none => rfl
  | some names =>
    cases hwanted : q.fields with
    | none =>
      unfold storedFields at hstored
      rw [hwanted] at hstored
      cases hstored
    | some wanted =>
      obtain ⟨hmem, hsortable⟩ := mem_storedFields hwanted hstored
      have hdata : (rows.map (·.project names)).map q.projected = rows.map q.projected := by
        rw [List.map_map]
        refine List.map_congr_left fun d _ => ?_
        simp only [Function.comp_apply, projected, hwanted]
        exact d.project_project hmem
      simp only [pageOf, hdata, Page.ofRows_project hc hsortable]

end Query
end Paging
