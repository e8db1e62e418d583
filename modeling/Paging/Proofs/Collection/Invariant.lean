/-
# What every stored document satisfies

Whatever is written through a collection, and whatever of it is refused, a stored document lies
under its own id, its declared fields hold values of their types, each shadow follows its source
through all of its states, and the freshness field bears a stamp (`Stored`). What callers put into
shadows and into the freshness field leaves no trace, and it is all that a save changes of a
document.
-/
import Paging.Proofs.Collection.Reachable

namespace Paging

/-- A shadow follows its source: it is undefined, null or a text where the source is, and then the
small-letter form of that text. No other source has a shadow. -/
def Follows (source shadow : Option (Option Value)) : Prop :=
  match source with
  | none => shadow = none
  | some none => shadow = some none
  | some (some (.string text)) => shadow = some (some (.string (LetterCase.lowercase text)))
  | some (some _) => False

/-- What is known of a document that a store of a collection holds under an id. -/
structure Stored (c : Catalog) (id : EntityId) (d : Document) : Prop where
  filed : d.id = id
  typed : ∀ f ∈ c.fields, ∀ v, d.fields.get? f.name = some (some v) → f.type.accepts v.type
  follows : ∀ p ∈ c.shadows, Follows (d.fields.get? p.1) (d.fields.get? p.2)
  stamped : ∃ now, d.fields.get? c.freshnessField = some (some (.timestamp now))

namespace Prepared

variable {c : Catalog} {d : Document}

/-- Types as the entries of a prepared document show them. -/
theorem accepts_entry (hd : Prepared c d) {f : Field} (hf : f ∈ c.fields) {v : Value}
    (hv : d.fields.get? f.name = some (some v)) : f.type.accepts v.type :=
  hd.typed f hf v (Option.join_eq_some_iff.2 hv)

/-- The shadows of a prepared document follow their sources. -/
theorem follows (hd : Prepared c d) (hc : c.WellFormed) {p : String × String}
    (hp : p ∈ c.shadows) : Follows (d.fields.get? p.1) (d.fields.get? p.2) := by
  obtain ⟨source, shadow⟩ := p
  obtain ⟨f, hf, rfl, hshadow⟩ := Catalog.mem_shadows.1 hp
  have hstep := hd.inStep f hf shadow hshadow
  unfold Follows
  cases hsource : d.fields.get? f.name with
  | none => rw [hstep, hsource]; rfl
  | some value =>
    cases value with
    | none => rw [hstep, hsource]; rfl
    | some v =>
      -- a field with a shadow is a text field, so preparation lets only texts through
      have haccepts := hd.accepts_entry hf hsource
      rw [(hc.of_shadow hf hshadow).1] at haccepts
      cases v with
      | string text => rw [hstep, hsource]; rfl
      | _ => cases haccepts

/-- So a prepared document satisfies what is known of stored ones. -/
theorem stored (hd : Prepared c d) (hc : c.WellFormed) : Stored c d.id d := by
  refine ⟨rfl, fun f hf v hv => hd.accepts_entry hf hv, fun p hp => hd.follows hc hp, ?_⟩
  obtain ⟨now, hnow⟩ := hd.stamped
  exact ⟨now, Option.join_eq_some_iff.1 hnow⟩

end Prepared

namespace Collection

variable {c : Collection} {s : Store}

/-- **Stored documents keep their shape.** Take a registered catalog and a store that was reached
through the collection, by any writes, refused ones among them. Every document in it is filed,
typed, stamped, and has its shadows in step. And a save that succeeds, into any store, stores and
returns the document that it was given, with nothing changed but shadows and the stamp, and it
touches no other document. -/
theorem stored_of_reachable {schema : Schema} {config : Config}
    (hc : Catalog.register schema config = .ok c.catalog) (hs : c.Reachable s) :
    (∀ id d, s.get? id = some d → Stored c.catalog id d) ∧
      ∀ (now : Timestamp) (d d' : Document) (t t' : Store), c.save now d t = .ok (d', t') →
        d'.id = d.id ∧ t'.get? d.id = some d' ∧
        (∀ name, name ≠ c.catalog.freshnessField → name ∉ c.catalog.shadows.map (·.2) →
          d'.fields.get? name = d.fields.get? name) ∧
        ∀ id, id ≠ d.id → t'.get? id = t.get? id := by
  have hwell := Catalog.wellFormed_of_register hc
  refine ⟨fun id d hd => ?_, fun now d d' t t' hsave => ?_⟩
  · obtain ⟨rfl, hprepared⟩ := (hs.consistent hwell).filed id d hd
    exact hprepared.stored hwell
  · obtain ⟨e, hprepare, heq⟩ := map_eq_ok.1 hsave
    obtain ⟨rfl, rfl⟩ := Prod.mk.inj heq
    obtain ⟨hid, -⟩ := prepared_of_prepare hwell hprepare
    refine ⟨hid, hid ▸ t.get?_set_self e, fun name hstamp hshadow => ?_, fun id hne => ?_⟩
    · exact prepare_frame hwell hprepare hstamp hshadow
    · exact t.get?_set_of_ne (hid.symm ▸ hne)

/-- A person is saved and then patched: her shadow and her stamp are set to what the caller
likes, and her name becomes null. -/
theorem stored_of_reachable_people :
    let c := people
    let patch : Fields := .ofList [("_name", some (.int 7)), ("name", none), ("updated", none)]
    let s := (Write.update (fun _ => .epoch) .all patch).apply c
      ((Write.save .epoch ann).apply c ((Engine.empty.openStore c.catalog).store c.catalog))
    (∃ d, s.get? ann.id = some d ∧ d.fields.get? "_name" = some none ∧
      Stored c.catalog ann.id d) ∧
      ∀ (now : Timestamp) (d d' : Document) (t t' : Store), c.save now d t = .ok (d', t') →
        d'.id = d.id ∧ t'.get? d.id = some d' ∧
        (∀ name, name ≠ c.catalog.freshnessField → name ∉ c.catalog.shadows.map (·.2) →
          d'.fields.get? name = d.fields.get? name) ∧
        ∀ id, id ≠ d.id → t'.get? id = t.get? id := by
  intro c patch s
  obtain ⟨hstored, hsave⟩ := stored_of_reachable (c := c) (s := s) Catalog.register_people
    (.written (.written .opened _) _)
  have hann : s.get? ann.id = some ⟨.ofNat 1, .ofList [("_name", none), ("name", none),
      ("updated", some (.timestamp .epoch))]⟩ := by decide +kernel
  exact ⟨⟨_, hann, by decide +kernel, hstored _ _ hann⟩, hsave⟩

end Collection
end Paging
