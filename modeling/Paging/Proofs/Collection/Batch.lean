/-
# Batches are written as a whole or not at all

A batch is prepared before any of it is written. If all of its documents fit, they are set in the
order of the batch, so of several documents with one id the last one stays (`Batched`). If one does
not fit, the batch is refused for the first misfit of the first such document, and the store stays
as it is. There is no other way for a batch to end (`create_all_or_none`): what could go wrong after
the check of the types is a value without a small-letter form in a field with a shadow, and the
check lets only texts into such a field.
-/
import Paging.Proofs.Collection.Fitting

namespace Paging
namespace Collection

/-- The documents of a list fit up to one, and that one has a first misfit. -/
structure StopsAt (c : Catalog) (ds before : List Document) (d : Document) (f : Field)
    (v : Value) : Prop where
  split : ∃ after, ds = before ++ d :: after
  fit : ∀ e ∈ before, Fits c e
  misfit : FirstMisfit c d f v

/-- What a batch returns and leaves behind: its documents in their order, each prepared at a reading
of the clock of its own, and a store with nothing changed but that an id finds the last of the
documents that has it. -/
structure Batched (c : Catalog) (clock : Nat → Timestamp) (ds : List Document) (s : Store)
    (written : List Document) (after : Store) : Prop where
  length : written.length = ds.length
  prepared : ∀ i d, ds[i]? = some d → ∃ d', written[i]? = some d' ∧ PreparedAt c (clock i) d d'
  found : ∀ id, after.get? id = (written.reverse.find? (·.id = id)).or (s.get? id)
  kept : after = { s with documents := after.documents }

variable {c : Catalog} {ds : List Document}

/-- All documents of a list fit, or there is a first one that does not. -/
theorem fits_or_stopsAt (hc : c.WellFormed) (ds : List Document) :
    (∀ d ∈ ds, Fits c d) ∨ ∃ before d f v, StopsAt c ds before d f v := by
  induction ds with
  | nil => exact .inl fun _ hd => absurd hd List.not_mem_nil
  | cons d rest ih =>
    obtain ⟨-, hfits⟩ | ⟨f, v, hfirst, -⟩ := checkTypes_cases hc d
    · obtain hrest | ⟨before, e, f, v, ⟨after, rfl⟩, hbefore, hfirst⟩ := ih
      · exact .inl (List.forall_mem_cons.2 ⟨hfits, hrest⟩)
      · exact .inr ⟨d :: before, e, f, v, ⟨after, rfl⟩, List.forall_mem_cons.2 ⟨hfits, hbefore⟩,
          hfirst⟩
    · exact .inr ⟨[], d, f, v, ⟨rest, rfl⟩, fun _ he => absurd he List.not_mem_nil, hfirst⟩

/-- Documents that fit are prepared one after the other. -/
theorem exists_prepareAll (hc : c.WellFormed) (clock : Nat → Timestamp) (used : Nat)
    (h : ∀ d ∈ ds, Fits c d) :
    ∃ written, prepareAll c clock used ds = .ok written ∧ written.length = ds.length ∧
      ∀ i d, ds[i]? = some d →
        ∃ d', written[i]? = some d' ∧ PreparedAt c (clock (used + i)) d d' := by
  induction ds generalizing used with
  | nil => exact ⟨[], rfl, rfl, fun i d hd => by cases hd⟩
  | cons d rest ih =>
    rw [List.forall_mem_cons] at h
    obtain ⟨d', hd'⟩ := h.1.exists_prepare hc (clock used)
    obtain ⟨more, hmore, hlength, hprepared⟩ := ih (used + 1) h.2
    refine ⟨d' :: more, bind_eq_ok.2 ⟨d', hd', bind_eq_ok.2 ⟨more, hmore, rfl⟩⟩,
      congrArg (· + 1) hlength, fun i e he => ?_⟩
    cases i with
    | zero =>
      obtain rfl := Option.some.inj he
      exact ⟨d', rfl, preparedAt_of_prepare hc hd'⟩
    | succ i =>
      obtain ⟨e', he', hpreparedAt⟩ := hprepared i e he
      rw [Nat.add_right_comm] at hpreparedAt
      exact ⟨e', he', hpreparedAt⟩

/-- Preparation stops at the first document that does not fit. -/
theorem StopsAt.prepareAll_eq (hc : c.WellFormed) {before : List Document} {d : Document}
    {f : Field} {v : Value} (h : StopsAt c ds before d f v) (clock : Nat → Timestamp) (used : Nat) :
    prepareAll c clock used ds = .error (.fieldType f.name f.type v.type) := by
  obtain ⟨⟨after, rfl⟩, hbefore, hfirst⟩ := h
  induction before generalizing used with
  | nil => exact bind_eq_error.2 (.inl (hfirst.prepare_eq hc _))
  | cons e rest ih =>
    rw [List.forall_mem_cons] at hbefore
    obtain ⟨e', he'⟩ := hbefore.1.exists_prepare hc (clock used)
    exact bind_eq_error.2 (.inr ⟨e', he', bind_eq_error.2 (.inl (ih (used + 1) hbefore.2))⟩)

/-- **A batch is written as a whole or not at all.** Take a registered catalog, any store and any
documents, and among their ids the same one as often as may be. If a field of the catalog, the
freshness field among them, holds a value in one of the documents that its type does not accept, the
batch is refused, the first such field in the order of names of the first such document is reported,
and the store stays as it is. Otherwise the batch is written: its documents are returned in order as
they were prepared, and set one after the other.
Neither a batch nor a save is ever refused because a text was missing under a shadow, since in a
document that fits a field with a shadow holds a text or nothing. -/
theorem create_all_or_none {c : Collection} {schema : Schema} {config : Config}
    (hc : Catalog.register schema config = .ok c.catalog) (clock : Nat → Timestamp)
    (ds : List Document) (s : Store) :
    ((∃ d ∈ ds, ∃ f v, Misfit c.catalog d f v) →
      ∃ before d f v, StopsAt c.catalog ds before d f v ∧
        c.create clock ds s = .error (.fieldType f.name f.type v.type) ∧
        (Write.create clock ds).apply c s = s) ∧
    ((∀ d ∈ ds, ∀ f v, ¬Misfit c.catalog d f v) →
      ∃ written, c.create clock ds s = .ok (written, s.setAll written) ∧
        Batched c.catalog clock ds s written (s.setAll written)) ∧
    (∀ field found, c.create clock ds s ≠ .error (.typeCoercion field found)) ∧
    (∀ now d field found, c.save now d s ≠ .error (.typeCoercion field found)) ∧
    ∀ d, (∀ f v, ¬Misfit c.catalog d f v) → ∀ p ∈ c.catalog.shadows, ∀ v,
      d.fields.get? p.1 = some (some v) → ∃ text, v = .string text := by
  have hwell := Catalog.wellFormed_of_register hc
  -- the two ends of a batch, between which the documents decide
  have hstop {before d f v} (h : StopsAt c.catalog ds before d f v) :
      c.create clock ds s = .error (.fieldType f.name f.type v.type) := by
    rw [create, h.prepareAll_eq hwell]
    rfl
  have hfit (h : ∀ d ∈ ds, Fits c.catalog d) :
      ∃ written, c.create clock ds s = .ok (written, s.setAll written) ∧
        Batched c.catalog clock ds s written (s.setAll written) := by
    obtain ⟨written, hwritten, hlength, hprepared⟩ := exists_prepareAll hwell clock 0 h
    simp only [Nat.zero_add] at hprepared
    exact ⟨written, map_eq_ok.2 ⟨written, hwritten, rfl⟩, hlength, hprepared,
      s.get?_setAll_eq_or written, s.setAll_eq written⟩
  refine ⟨fun ⟨d, hd, f, v, hmisfit⟩ => ?_, hfit, fun field found h => ?_,
    fun now d field found h => ?_, fun d hfits p hp v => Fits.exists_text hwell hfits hp⟩
  · obtain hall | ⟨before, e, g, w, hstops⟩ := fits_or_stopsAt hwell ds
    · exact absurd hmisfit (hall d hd f v)
    · refine ⟨before, e, g, w, hstops, hstop hstops, ?_⟩
      rw [Write.apply, hstop hstops]
  · obtain hall | ⟨before, e, g, w, hstops⟩ := fits_or_stopsAt hwell ds
    · obtain ⟨written, hok, -⟩ := hfit hall
      cases hok.symm.trans h
    · cases (hstop hstops).symm.trans h
  · unfold save at h
    obtain ⟨-, d', hok⟩ | ⟨f, v, -, herror⟩ := prepare_cases hwell now d
    · rw [hok] at h
      cases h
    · rw [herror] at h
      cases h

/-- A batch with a stray age is refused although its first document fits, and Ann is written over by
Eve, who has her id and comes later in the batch. -/
theorem create_all_or_none_people :
    let c := people
    let s := Store.empty "people" "id"
    let clock (i : Nat) : Timestamp := (Timestamp.ofUnix? i 0).getD .epoch
    let named (name : String) : Document := ⟨.ofNat 1, .ofList [("name", some (.string name))]⟩
    let stray : Document :=
      ⟨.ofNat 2, .ofList [("age", some (.bool true)), ("updated", some (.int 0))]⟩
    (∃ before d f v, StopsAt c.catalog [named "Ann", stray] before d f v ∧
      c.create clock [named "Ann", stray] s = .error (.fieldType f.name f.type v.type) ∧
      (Write.create clock [named "Ann", stray]).apply c s = s) ∧
    ∃ written, c.create clock [named "Ann", named "Eve"] s = .ok (written, s.setAll written) ∧
      Batched c.catalog clock [named "Ann", named "Eve"] s written (s.setAll written) := by
  intro c s clock named stray
  have hwell := Catalog.wellFormed_of_register Catalog.register_people
  have hmisfit : ∃ d ∈ [named "Ann", stray], ∃ f v, Misfit c.catalog d f v := by
    refine ⟨stray, by simp, ⟨"age", .int, true, false, "age", none⟩, .bool true, ?_, ?_, ?_⟩
    · decide +kernel
    · decide +kernel
    · decide
  have hfits : ∀ d ∈ [named "Ann", named "Eve"], Fits c.catalog d := fun d hd =>
    (fits_iff_checkTypes hwell).2 (by revert d; decide +kernel)
  obtain ⟨hrefused, -⟩ := create_all_or_none (c := c) Catalog.register_people clock
    [named "Ann", stray] s
  obtain ⟨-, hwritten, -⟩ := create_all_or_none (c := c) Catalog.register_people clock
    [named "Ann", named "Eve"] s
  exact ⟨hrefused hmisfit, hwritten hfits⟩

end Collection
end Paging
