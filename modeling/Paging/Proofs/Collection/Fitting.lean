/-
# Which documents can be written

A document fits a catalog when each of its declared fields holds a value of its type or none. These
are the documents that can be written (`prepare_cases`): a document that does not fit is refused
for its first misfit in the order of names, and for nothing else, because a field with a shadow is a
text field and a text has a small-letter form. What is written is settled by the document and the
time (`PreparedAt`).
-/
import Paging.Proofs.Collection.Invariant

namespace Paging
namespace Collection

/-- A declared field of a document holds a value that its declaration does not accept. -/
structure Misfit (c : Catalog) (d : Document) (f : Field) (v : Value) : Prop where
  declared : f ∈ c.fields
  held : d.fields.get? f.name = some (some v)
  refused : ¬f.type.accepts v.type

/-- A misfit of a document, and no other comes before it in the order of names. -/
structure FirstMisfit (c : Catalog) (d : Document) (f : Field) (v : Value) : Prop
    extends Misfit c d f v where
  first : ∀ g w, Misfit c d g w → (compare f.name g.name).isLE

/-- A document without misfits. -/
def Fits (c : Catalog) (d : Document) : Prop := ∀ f v, ¬Misfit c d f v

/-- How preparation at a time leaves a document: it keeps its id, bears the time as its stamp, has
shadows that follow their sources, and holds under every other name what it held before. -/
structure PreparedAt (c : Catalog) (now : Timestamp) (d d' : Document) : Prop where
  id : d'.id = d.id
  stamped : d'.fields.get? c.freshnessField = some (some (.timestamp now))
  follows : ∀ p ∈ c.shadows, Follows (d.fields.get? p.1) (d'.fields.get? p.2)
  kept : ∀ name, name ≠ c.freshnessField → name ∉ c.shadows.map (·.2) →
    d'.fields.get? name = d.fields.get? name

variable {c : Catalog} {now : Timestamp} {d d' : Document}

/-- Preparation leaves the time as the stamp. -/
theorem stamp_of_prepare (h : prepare c now d = .ok d') :
    d'.fields.get? c.freshnessField = some (some (.timestamp now)) := by
  unfold prepare at h
  obtain ⟨_, -, h⟩ := bind_eq_ok.1 h
  obtain ⟨d₁, -, h⟩ := bind_eq_ok.1 h
  obtain rfl := Except.ok.inj h
  exact SortedMap.get?_insert_self _ _ _

/-- What is written at a time is prepared and bears that time. -/
theorem preparedAt_of_prepare (hc : c.WellFormed) (h : prepare c now d = .ok d') :
    PreparedAt c now d d' := by
  obtain ⟨hid, hprepared⟩ := prepared_of_prepare hc h
  refine ⟨hid, stamp_of_prepare h, fun p hp => ?_, fun name => prepare_frame hc h⟩
  -- a source is neither the stamp nor a shadow, so preparation leaves it as it was
  obtain ⟨f, hf, hname, hshadow⟩ := Catalog.mem_shadows.1 hp
  have hstamp : p.1 ≠ c.freshnessField := hname ▸ (hc.of_shadow hf hshadow).2.2.1
  have hsource : p.1 ∉ c.shadows.map (·.2) := fun hmem => by
    obtain ⟨q, hq, heq⟩ := List.mem_map.1 hmem
    exact hc.shadows_apart p hp q hq heq.symm
  rw [← prepare_frame hc h hstamp hsource]
  exact hprepared.follows hc hp

/-- An entry names no declared field, is null or holds a value that the declaration accepts. -/
def Accepted (c : Catalog) (entry : String × Option Value) : Prop :=
  ∀ f v, c.field? entry.1 = some f → entry.2 = some v → f.type.accepts v.type

/-- An accepted entry does not change what the check says of the others. -/
theorem checkTypes_cons {entry : String × Option Value} (h : Accepted c entry)
    (rest : List (String × Option Value)) :
    checkTypes c (entry :: rest) = checkTypes c rest := by
  obtain ⟨name, value⟩ := entry
  conv_lhs => unfold checkTypes
  split
  · next f v hf => exact if_pos (h f v hf rfl)
  · rfl

/-- The check of types stops at the first entry that is not accepted. -/
theorem checkTypes_error {entries : List (String × Option Value)} {fault : MutationError}
    (h : checkTypes c entries = .error fault) : ∃ before name v after f,
      entries = before ++ (name, some v) :: after ∧ (∀ entry ∈ before, Accepted c entry) ∧
        c.field? name = some f ∧ ¬f.type.accepts v.type ∧
        fault = .fieldType name f.type v.type := by
  induction entries with
  | nil => cases h
  | cons entry rest ih =>
    by_cases haccepted : Accepted c entry
    · rw [checkTypes_cons haccepted] at h
      obtain ⟨before, name, v, after, f, rfl, hbefore, hrefused⟩ := ih h
      exact ⟨entry :: before, name, v, after, f, rfl, List.forall_mem_cons.2 ⟨haccepted, hbefore⟩,
        hrefused⟩
    · obtain ⟨name, value⟩ := entry
      simp only [Accepted, not_forall] at haccepted
      obtain ⟨f, v, hf, rfl, hrefused⟩ := haccepted
      simp only [checkTypes, hf, if_neg hrefused, Except.error.injEq] at h
      exact ⟨[], name, v, rest, f, rfl, fun _ hmem => absurd hmem List.not_mem_nil, hf, hrefused,
        h.symm⟩

/-- The check of types passes a document that fits and reports the first misfit of any other. -/
theorem checkTypes_cases (hc : c.WellFormed) (d : Document) :
    checkTypes c d.fields.entries = .ok () ∧ Fits c d ∨
      ∃ f v, FirstMisfit c d f v ∧
        checkTypes c d.fields.entries = .error (.fieldType f.name f.type v.type) := by
  cases h : checkTypes c d.fields.entries with
  | ok _ =>
    refine .inl ⟨rfl, fun f v hmisfit => hmisfit.refused ?_⟩
    exact checkTypes_ok h (SortedMap.mem_entries.2 hmisfit.held) (hc.field?_of_mem hmisfit.declared)
  | error fault =>
    obtain ⟨before, name, v, after, f, hentries, hbefore, hf, hrefused, rfl⟩ := checkTypes_error h
    obtain ⟨hmem, rfl⟩ := Catalog.mem_of_field? hf
    have hheld : d.fields.get? f.name = some (some v) :=
      SortedMap.mem_entries.1 (hentries ▸ List.mem_append_right _ List.mem_cons_self)
    refine .inr ⟨f, v, ⟨⟨hmem, hheld, hrefused⟩, fun g w hmisfit => ?_⟩, rfl⟩
    have hascending := d.fields.ascending
    have hentry := SortedMap.mem_entries.2 hmisfit.held
    rw [hentries] at hascending hentry
    -- another misfit is the reported one or comes later in the order of names
    rcases List.mem_append.1 hentry with hentry | hentry
    · -- what comes before was accepted
      exact absurd (hbefore _ hentry g w (hc.field?_of_mem hmisfit.declared) rfl) hmisfit.refused
    · rcases List.mem_cons.1 hentry with heq | hentry
      · rw [(Prod.mk.inj heq).1, Std.ReflOrd.compare_self]
        rfl
      · have hlater := List.rel_of_pairwise_cons (List.pairwise_append.1 hascending).2.1 hentry
        rw [hlater]
        rfl

/-- So a document fits exactly if the check of types passes it. -/
theorem fits_iff_checkTypes (hc : c.WellFormed) :
    Fits c d ↔ checkTypes c d.fields.entries = .ok () := by
  obtain ⟨hok, hfits⟩ | ⟨f, v, hfirst, herror⟩ := checkTypes_cases hc d
  · exact iff_of_true hfits hok
  · refine iff_of_false (fun hfits => hfits f v hfirst.toMisfit) fun hok => ?_
    cases herror.symm.trans hok

/-- A field with a shadow holds a text or nothing in a document that fits. -/
theorem Fits.exists_text (hc : c.WellFormed) (h : Fits c d) {p : String × String}
    (hp : p ∈ c.shadows) {v : Value} (hv : d.fields.get? p.1 = some (some v)) :
    ∃ text, v = .string text := by
  obtain ⟨f, hf, hname, hshadow⟩ := Catalog.mem_shadows.1 hp
  have haccepts : f.type.accepts v.type := by
    by_contra hrefused
    exact h f v ⟨hf, hname ▸ hv, hrefused⟩
  rw [(hc.of_shadow hf hshadow).1] at haccepts
  refine Value.exists_string ?_
  generalize v.type = type at haccepts
  cases type <;> first | rfl | cases haccepts

/-- Texts have shadows. -/
theorem exists_syncShadow {source : String} (shadow : String)
    (h : ∀ v, d.fields.get? source = some (some v) → ∃ text, v = .string text) :
    ∃ d', syncShadow d source shadow = .ok d' := by
  unfold syncShadow
  rcases hsource : d.fields.get? source with _ | _ | v
  · exact ⟨_, rfl⟩
  · exact ⟨_, rfl⟩
  · obtain ⟨text, rfl⟩ := h v hsource
    exact ⟨_, rfl⟩

/-- Shadows of texts can be put in step one after the other, when none of them is a source. -/
theorem exists_syncShadows {pairs : List (String × String)}
    (hapart : ∀ p ∈ pairs, ∀ q ∈ pairs, p.1 ≠ q.2)
    (h : ∀ p ∈ pairs, ∀ v, d.fields.get? p.1 = some (some v) → ∃ text, v = .string text) :
    ∃ d', syncShadows d pairs = .ok d' := by
  induction pairs generalizing d with
  | nil => exact ⟨d, rfl⟩
  | cons pair rest ih =>
    obtain ⟨source, shadow⟩ := pair
    obtain ⟨d₁, hone⟩ := exists_syncShadow shadow (h (source, shadow) List.mem_cons_self)
    obtain ⟨-, -, hframe⟩ := syncShadow_ok hone
    obtain ⟨d', hrest⟩ := ih (d := d₁)
      (fun p hp q hq => hapart p (List.mem_cons_of_mem _ hp) q (List.mem_cons_of_mem _ hq))
      fun p hp v hv => by
        rw [hframe p.1 (hapart p (List.mem_cons_of_mem _ hp) _ List.mem_cons_self)] at hv
        exact h p (List.mem_cons_of_mem _ hp) v hv
    exact ⟨d', bind_eq_ok.2 ⟨d₁, hone, hrest⟩⟩

/-- **What becomes of a document that is to be written.** It fits and is prepared, or it is refused
for its first misfit. -/
theorem prepare_cases (hc : c.WellFormed) (now : Timestamp) (d : Document) :
    (Fits c d ∧ ∃ d', prepare c now d = .ok d') ∨
      ∃ f v, FirstMisfit c d f v ∧
        prepare c now d = .error (.fieldType f.name f.type v.type) := by
  unfold prepare
  obtain ⟨hok, hfits⟩ | ⟨f, v, hfirst, herror⟩ := checkTypes_cases hc d
  · obtain ⟨d₁, hsync⟩ := exists_syncShadows hc.shadows_apart
      fun p hp v hv => hfits.exists_text hc hp hv
    exact .inl ⟨hfits, _, bind_eq_ok.2 ⟨(), hok, bind_eq_ok.2 ⟨d₁, hsync, rfl⟩⟩⟩
  · rw [herror]
    exact .inr ⟨f, v, hfirst, rfl⟩

/-- A document that fits is prepared. -/
theorem Fits.exists_prepare (hc : c.WellFormed) (h : Fits c d) (now : Timestamp) :
    ∃ d', prepare c now d = .ok d' := by
  obtain ⟨-, hok⟩ | ⟨f, v, hfirst, -⟩ := prepare_cases hc now d
  · exact hok
  · exact absurd hfirst.toMisfit (h f v)

variable {f : Field} {v : Value}

/-- A document with a first misfit is refused for it. -/
theorem FirstMisfit.prepare_eq (hc : c.WellFormed) (h : FirstMisfit c d f v) (now : Timestamp) :
    prepare c now d = .error (.fieldType f.name f.type v.type) := by
  obtain ⟨hfits, -⟩ | ⟨g, w, hfirst, herror⟩ := prepare_cases hc now d
  · exact absurd h.toMisfit (hfits f v)
  · -- of two first misfits each comes before the other, so they are one
    have hname : f.name = g.name := Std.LawfulEqOrd.eq_of_compare
      (Std.OrientedCmp.isLE_antisymm (h.first g w hfirst.toMisfit) (hfirst.first f v h.toMisfit))
    obtain rfl : f = g := Option.some.inj <|
      (hc.field?_of_mem h.declared).symm.trans (hname ▸ hc.field?_of_mem hfirst.declared)
    obtain rfl : v = w := Option.some.inj (Option.some.inj (h.held.symm.trans hfirst.held))
    exact herror

end Collection
end Paging
