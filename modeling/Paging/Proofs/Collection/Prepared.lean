/-
# Documents as they are written

What is written has been prepared: its declared fields hold values of their types, its shadows are
in step with their sources, and it bears a stamp (`prepared_of_prepare`). So all values that a sort
compares at one key are of one family of types, and the cursor of a written document carries, key
by key, just what storage compares of the document (`cursorTuple_capture`): a cursor stays exact
for every other written document and under every other sort (`fits_capture`).

The steps of preparation are taken one by one: the check of the types (`checkTypes_ok`), one shadow
(`syncShadow_ok`), all of them (`syncShadows_catalog`), and the stamp. Each lemma says what its step
writes and that it leaves all else alone. The next step needs the second part: no shadow is the
source of another one, and the stamp is neither.
-/
import Paging.Collection.Write
import Paging.Proofs.Keyset
import Paging.Proofs.SortedMap

namespace Paging

/-- Values that one field may hold are of one family of types. -/
theorem ValueType.accepts_of_accepts {declared a b : ValueType} (ha : declared.accepts a)
    (hb : declared.accepts b) : a.accepts b := by
  cases declared <;> cases a <;> cases ha <;> cases b <;> cases hb <;> rfl

/-- The values of the text type are texts. -/
theorem Value.exists_string {v : Value} (h : v.type = .string) : ∃ text, v = .string text := by
  cases v with
  | string text => exact ⟨text, rfl⟩
  | _ => cases h

/-- What is known of a document that was written under a catalog. -/
structure Prepared (c : Catalog) (d : Document) : Prop where
  typed : ∀ f ∈ c.fields, ∀ v, d.value f.name = some v → f.type.accepts v.type
  inStep : ∀ f ∈ c.fields, ∀ shadow, f.shadow = some shadow →
    d.fields.get? shadow = (d.fields.get? f.name).map (·.map Value.lowered)
  stamped : ∃ now, d.value c.freshnessField = some (.timestamp now)

/-- Setting a field touches no other. -/
theorem Document.get?_set_of_ne (d : Document) (v : Value) {field name : String}
    (h : name ≠ field) : (d.set field v).fields.get? name = d.fields.get? name :=
  SortedMap.get?_insert_of_ne _ h _

namespace Collection

/-- After the check every declared field holds a value that its type accepts, or none. -/
theorem checkTypes_ok {c : Catalog} {entries : List (String × Option Value)}
    (h : checkTypes c entries = .ok ()) {name : String} {v : Value}
    (hentry : (name, some v) ∈ entries) {f : Field} (hf : c.field? name = some f) :
    f.type.accepts v.type := by
  induction entries with
  | nil => exact absurd hentry List.not_mem_nil
  | cons entry rest ih =>
    obtain ⟨name', value⟩ := entry
    rcases List.mem_cons.1 hentry with heq | hrest
    · obtain ⟨rfl, rfl⟩ := Prod.mk.inj heq
      simp only [checkTypes, hf] at h
      split_ifs at h with haccepts
      exact haccepts
    · unfold checkTypes at h
      split at h
      · split_ifs at h
        exact ih h hrest
      · exact ih h hrest

/-- Putting a shadow in step touches nothing else. The source is undefined, null or a value, and the
shadow follows it. -/
theorem syncShadow_ok {d d' : Document} {source shadow : String}
    (h : syncShadow d source shadow = .ok d') :
    d'.id = d.id ∧
      d'.fields.get? shadow = (d.fields.get? source).map (·.map Value.lowered) ∧
      ∀ name, name ≠ shadow → d'.fields.get? name = d.fields.get? name := by
  unfold syncShadow at h
  cases hsource : d.fields.get? source with
  | none =>
    simp only [hsource, Except.ok.injEq] at h
    obtain rfl := h
    exact ⟨rfl, SortedMap.get?_erase_self _ _, fun _ hne => SortedMap.get?_erase_of_ne _ hne⟩
  | some value =>
    cases value with
    | none =>
      simp only [hsource, Except.ok.injEq] at h
      obtain rfl := h
      exact ⟨rfl, SortedMap.get?_insert_self _ _ _,
        fun _ hne => SortedMap.get?_insert_of_ne _ hne _⟩
    | some v =>
      simp only [hsource] at h
      cases hlower : v.lowercase? with
      | none => simp only [hlower, reduceCtorEq] at h
      | some lower =>
        simp only [hlower, Except.ok.injEq] at h
        obtain rfl := h
        refine ⟨rfl, ?_, fun _ hne => SortedMap.get?_insert_of_ne _ hne _⟩
        rw [Option.map_some, Option.map_some, Value.lowered, hlower]
        exact SortedMap.get?_insert_self _ _ _

/-- Putting shadows in step, none of which is a source or listed twice, touches nothing else. -/
theorem syncShadows_ok {d d' : Document} {pairs : List (String × String)}
    (hnodup : (pairs.map (·.2)).Nodup) (hapart : ∀ p ∈ pairs, ∀ q ∈ pairs, p.1 ≠ q.2)
    (h : syncShadows d pairs = .ok d') :
    d'.id = d.id ∧
      (∀ p ∈ pairs, d'.fields.get? p.2 = (d.fields.get? p.1).map (·.map Value.lowered)) ∧
      ∀ name, name ∉ pairs.map (·.2) → d'.fields.get? name = d.fields.get? name := by
  induction pairs generalizing d with
  | nil =>
    obtain rfl := Except.ok.inj h
    exact ⟨rfl, fun _ hp => absurd hp List.not_mem_nil, fun _ _ => rfl⟩
  | cons pair rest ih =>
    obtain ⟨source, shadow⟩ := pair
    obtain ⟨d₁, hone, hrest⟩ := bind_eq_ok.1 h
    obtain ⟨hid, hshadow, hframe⟩ := syncShadow_ok hone
    rw [List.map_cons, List.nodup_cons] at hnodup
    obtain ⟨hid', hshadows, hframe'⟩ := ih hnodup.2
      (fun p hp q hq => hapart p (List.mem_cons_of_mem _ hp) q (List.mem_cons_of_mem _ hq)) hrest
    refine ⟨hid'.trans hid, ?_, fun name hname => ?_⟩
    · rw [List.forall_mem_cons]
      refine ⟨(hframe' shadow hnodup.1).trans hshadow, fun p hp => ?_⟩
      -- a later source is no earlier shadow, so it still holds what it held at first
      have hne := hapart p (List.mem_cons_of_mem _ hp) (source, shadow) List.mem_cons_self
      rw [hshadows p hp, hframe p.1 hne]
    · rw [List.map_cons, List.mem_cons, not_or] at hname
      exact (hframe' name hname.2).trans (hframe name hname.1)

/-- Putting the shadows of a catalog in step leaves the declared fields alone. -/
theorem syncShadows_catalog {c : Catalog} (hc : c.WellFormed) {d d' : Document}
    (h : syncShadows d c.shadows = .ok d') :
    d'.id = d.id ∧ (∀ f ∈ c.fields, d'.fields.get? f.name = d.fields.get? f.name) ∧
      ∀ f ∈ c.fields, ∀ shadow, f.shadow = some shadow →
        d'.fields.get? shadow = (d.fields.get? f.name).map (·.map Value.lowered) := by
  obtain ⟨hid, hshadows, hframe⟩ := syncShadows_ok hc.shadows_nodup hc.shadows_apart h
  refine ⟨hid, fun f hf => hframe f.name fun hmem => ?_, fun f hf shadow hshadow => ?_⟩
  · obtain ⟨⟨source, shadow⟩, hpair, heq⟩ := List.mem_map.1 hmem
    obtain ⟨g, hg, -, hshadow⟩ := Catalog.mem_shadows.1 hpair
    exact hc.shadow_fresh g hg shadow hshadow f hf heq.symm
  · exact hshadows (f.name, shadow) (Catalog.mem_shadows.2 ⟨f, hf, rfl, hshadow⟩)

/-- **What is written has been prepared**, under the id that it came with. -/
theorem prepared_of_prepare {c : Catalog} (hc : c.WellFormed) {now : Timestamp}
    {d d' : Document} (h : prepare c now d = .ok d') : d'.id = d.id ∧ Prepared c d' := by
  unfold prepare at h
  obtain ⟨_, htypes, h⟩ := bind_eq_ok.1 h
  obtain ⟨d₁, hsync, h⟩ := bind_eq_ok.1 h
  obtain rfl := Except.ok.inj h
  obtain ⟨hid, hdeclared, hshadows⟩ := syncShadows_catalog hc hsync
  obtain ⟨fresh, hfresh, hname, htype, -⟩ := hc.freshness
  -- the stamp is written last, over whatever was there; all else is as it was synchronised
  have hstamp : (d₁.set c.freshnessField (.timestamp now)).value c.freshnessField =
      some (.timestamp now) :=
    congrArg Option.join (SortedMap.get?_insert_self _ _ _)
  refine ⟨hid, fun f hf v hv => ?_, fun f hf shadow hshadow => ?_, now, hstamp⟩
  · -- the freshness field holds the stamp, and other fields were checked
    by_cases hstamped : f.name = c.freshnessField
    · obtain rfl : f = fresh :=
        List.inj_on_of_nodup_map hc.names_nodup hf hfresh (hstamped.trans hname.symm)
      rw [hstamped, hstamp] at hv
      obtain rfl := Option.some.inj hv
      rw [htype]
      rfl
    · rw [Document.value, Fields.value, d₁.get?_set_of_ne _ hstamped, hdeclared f hf,
        Option.join_eq_some_iff] at hv
      exact checkTypes_ok htypes (SortedMap.mem_entries.2 hv) (hc.field?_of_mem hf)
  · -- neither a shadow nor its source is the stamp
    have hne : shadow ≠ c.freshnessField :=
      fun heq => hc.shadow_fresh f hf shadow hshadow fresh hfresh (hname.trans heq.symm)
    have hsource := (hc.of_shadow hf hshadow).2.2.1
    rw [d₁.get?_set_of_ne _ hne, d₁.get?_set_of_ne _ hsource, hdeclared f hf]
    exact hshadows f hf shadow hshadow

/-- Preparation changes nothing but shadows and the stamp. -/
theorem prepare_frame {c : Catalog} (hc : c.WellFormed) {now : Timestamp} {d d' : Document}
    (h : prepare c now d = .ok d') {name : String} (hstamp : name ≠ c.freshnessField)
    (hshadow : name ∉ c.shadows.map (·.2)) : d'.fields.get? name = d.fields.get? name := by
  unfold prepare at h
  obtain ⟨_, -, h⟩ := bind_eq_ok.1 h
  obtain ⟨d₁, hsync, h⟩ := bind_eq_ok.1 h
  obtain rfl := Except.ok.inj h
  obtain ⟨-, -, hframe⟩ := syncShadows_ok hc.shadows_nodup hc.shadows_apart hsync
  exact (d₁.get?_set_of_ne _ hstamp).trans (hframe name hshadow)

end Collection

/-- The cursor of a document carries the values of the sortable fields and no others. -/
theorem Cursor.get?_capture_eq_ite (d : Document) (c : Catalog) (name : String) :
    (capture d c).get? name =
      if name ∈ c.sortableFields.map (·.name) then some (d.value name) else none := by
  have hlist : (c.sortableFields.map fun f => (f.name, d.value f.name)) =
      (c.sortableFields.map (·.name)).map fun name => (name, d.value name) := by
    rw [List.map_map]
    rfl
  unfold get? capture
  rw [hlist, SortedMap.get?_ofList_map]

/-- A cursor holds the value of every sortable field of its document. -/
theorem Cursor.get?_capture {c : Catalog} (d : Document) {f : Field} (hf : f ∈ c.fields)
    (hsortable : f.sortable) : (capture d c).get? f.name = some (d.value f.name) := by
  have hmem : f.name ∈ c.sortableFields.map (·.name) :=
    List.mem_map_of_mem (List.mem_filter.2 ⟨hf, hsortable⟩)
  rw [get?_capture_eq_ite, if_pos hmem]

namespace Prepared

variable {c : Catalog} {d : Document}

/-- The value that storage compares is that of the field, in small letters where there is a
shadow. -/
theorem value_physical (hd : Prepared c d) (hc : c.WellFormed) {f : Field} (hf : f ∈ c.fields) :
    d.value f.physical =
      if f.caseInsensitive then (d.value f.name).map Value.lowered else d.value f.name := by
  cases hshadow : f.shadow with
  | none =>
    obtain ⟨hcase, hphysical⟩ := hc.of_no_shadow hf hshadow
    rw [hcase, hphysical]
    rfl
  | some shadow =>
    obtain ⟨-, -, -, hcase, hphysical, -⟩ := hc.of_shadow hf hshadow
    rw [if_pos hcase, hphysical]
    unfold Document.value Fields.value
    rw [hd.inStep f hf shadow hshadow]
    rcases d.fields.get? f.name with _ | _ | v <;> rfl

/-- So it is of the type of the field, too. -/
theorem accepts_physical (hd : Prepared c d) (hc : c.WellFormed) {f : Field} (hf : f ∈ c.fields)
    {v : Value} (hv : d.value f.physical = some v) : f.type.accepts v.type := by
  rw [hd.value_physical hc hf] at hv
  split_ifs at hv
  · obtain ⟨w, hw, rfl⟩ := Option.map_eq_some_iff.1 hv
    rw [Value.type_lowered]
    exact hd.typed f hf w hw
  · exact hd.typed f hf v hv

variable {s : SortSpec} {k : SortKey}

/-- **The cursor of a document carries what storage compares of it**, key by key. -/
theorem sortValue_capture (hd : Prepared c d) (hc : c.WellFormed) (hid : c.IdApart)
    (hs : s.Checked c) (hk : k ∈ s.withTieBreak c.idField) :
    (Cursor.capture d c).sortValue c.idField k = d.row c.idField k.physical := by
  unfold Cursor.sortValue
  by_cases hfield : k.field = c.idField
  · rw [if_pos hfield, hs.physical_idField hc hk hfield, Document.row_idField]
    rfl
  · obtain ⟨f, hf, hsortable, hname, hphysical, hcase⟩ :=
      hs.exists_field (SortSpec.mem_keys hk hfield) hfield
    rw [if_neg hfield, hname, hphysical, hcase, Cursor.get?_capture d hf hsortable,
      Document.row, if_neg (hc.physical_ne_idField hid hf), hd.value_physical hc hf]
    rfl

/-- **So the two tuples are the same.** -/
theorem cursorTuple_capture (hd : Prepared c d) (hc : c.WellFormed) (hid : c.IdApart)
    (hs : s.Checked c) :
    s.cursorTuple c.idField (Cursor.capture d c) = s.rowTuple c.idField (d.row c.idField) :=
  List.map_congr_left fun _ hk => hd.sortValue_capture hc hid hs hk

/-- Two written documents have comparable values where storage compares a field. -/
theorem comparable_physical {e : Document} (hd : Prepared c d) (he : Prepared c e)
    (hc : c.WellFormed) {f : Field} (hf : f ∈ c.fields) :
    Value.Comparable (d.value f.physical) (e.value f.physical) := by
  cases hv : d.value f.physical with
  | none => trivial
  | some v =>
    cases hw : e.value f.physical with
    | none => trivial
    | some w =>
      exact ValueType.accepts_of_accepts (hd.accepts_physical hc hf hv)
        (he.accepts_physical hc hf hw)

/-- **Cursors of written documents are exact for all written documents**, under every sort. -/
theorem fits_capture {e : Document} (hd : Prepared c d) (he : Prepared c e) (hc : c.WellFormed)
    (hid : c.IdApart) (hs : s.Checked c) :
    ∀ k ∈ s.withTieBreak c.idField,
      Keyset.Fits (Cursor.capture d c) c.idField (e.row c.idField) k := by
  refine Keyset.fits_of_checked hc hs (fun k hk hfield => ?_) fun k hk hfield => ?_
  · obtain ⟨f, hf, hsortable, hname, -⟩ := hs.exists_field hk hfield
    rw [hname, Cursor.get?_capture d hf hsortable]
    rfl
  · obtain ⟨f, hf, -, -, hphysical, -⟩ := hs.exists_field hk hfield
    have hne := hc.physical_ne_idField hid hf
    rw [hd.sortValue_capture hc hid hs (SortSpec.mem_withTieBreak_of_mem hk), hphysical,
      Document.row, Document.row, if_neg hne, if_neg hne]
    exact hd.comparable_physical he hc hf

end Prepared
end Paging
