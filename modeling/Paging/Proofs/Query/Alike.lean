/-
# What differs in letter case only

Two entries of one name are alike when they are compared as the same value, so they differ at most
in letter case, and only under a name that ignores it. Documents, cursors, criteria, stores and
pages are alike when what is in them is. All that storage compares is compared under physical
names, and under these alike documents show the same (`plain_physicalName`, `Alike.agreeOn`): a
shadow does not ignore letter case once more, and it follows its source (`Prepared.alike`). Alike
criteria are resolved to the same ones (`resolve_alike`), alike cursors compile to the same
predicate (`compile_alike`), and alike rows make alike pages (`alike_ofRows`).
-/
import Paging.Proofs.Criteria.Meaning
import Paging.Proofs.Query.Reads

namespace Paging

namespace Catalog

/-- Entries of one name are alike: both are absent, or they are compared as the same value. -/
def AlikeUnder (c : Catalog) (name : String) (a b : Option (Option Value)) : Prop :=
  Option.Rel (fun v w => c.compared name v = c.compared name w) a b

/-- What stands under a name is compared as it is. -/
def Plain (c : Catalog) (name : String) : Prop :=
  c.isCaseInsensitive name = false

variable {c : Catalog}

/-- Under a plain name nothing is lowered. -/
theorem Plain.compared {name : String} (h : c.Plain name) (value : Option Value) :
    c.compared name value = value := by
  unfold Catalog.compared
  rw [h]
  rfl

namespace WellFormed

/-- **Storage compares plain names**: a shadow does not ignore letter case once more. -/
theorem plain_physicalName (hc : c.WellFormed) (name : String) : c.Plain (c.physicalName name) := by
  rcases hc.shadow_cases name with ⟨hplain, -, hphysical⟩ | ⟨f, hf, shadow, -, hfs, -, -, hphysical⟩
  · rwa [hphysical]
  · rw [hphysical]
    rcases hc.shadow_cases shadow with ⟨hplain, -⟩ | ⟨g, hg, -, hname, -⟩
    · exact hplain
    · exact absurd hname (hc.shadow_fresh f hf shadow hfs g hg)

/-- The identifier is compared as it is, as it is no declared field. -/
theorem plain_idField (hc : c.WellFormed) : c.Plain c.idField :=
  hc.physicalName_idField ▸ hc.plain_physicalName c.idField

/-- So is the stamp of the last update, which is a timestamp. -/
theorem plain_freshnessField (hc : c.WellFormed) : c.Plain c.freshnessField := by
  rcases hc.shadow_cases c.freshnessField with ⟨hplain, -⟩ | ⟨f, hf, shadow, hname, hfs, -⟩
  · exact hplain
  · exact absurd hname (hc.of_shadow hf hfs).2.2.1

end WellFormed
end Catalog

/-- Fields are alike: the same names are there, with values that are compared as the same. -/
def Fields.Alike (c : Catalog) (a b : Fields) : Prop :=
  ∀ name, c.AlikeUnder name (a.get? name) (b.get? name)

/-- Documents of one id with alike fields. -/
structure Document.Alike (c : Catalog) (d e : Document) : Prop where
  id : d.id = e.id
  fields : d.fields.Alike c e.fields

/-- Cursors at one id and one stamp with alike fields. -/
structure Cursor.Alike (c : Catalog) (a b : Cursor) : Prop where
  id : a.id = b.id
  freshness : a.freshness = b.freshness
  fields : a.fields.Alike c b.fields

/-- Criteria with alike fields. -/
inductive Criteria.Alike (c : Catalog) : Criteria → Criteria → Prop
  | all : Alike c .all .all
  | id (i : EntityId) : Alike c (.id i) (.id i)
  | matching {a b : Fields} (h : a.Alike c b) : Alike c (.matching a) (.matching b)

/-- Stores with documents of the same ids. The documents of one id are alike under all names but
those of shadows, which are not for callers to write. -/
def Store.Alike (c : Catalog) (s t : Store) : Prop :=
  ∀ id, Option.Rel (fun d e => ∀ name, name ∉ c.shadows.map (·.2) →
    c.AlikeUnder name (d.fields.get? name) (e.fields.get? name)) (s.get? id) (t.get? id)

/-- Pages of alike rows in the same order, with alike cursors and the same marks. -/
structure Page.Alike (c : Catalog) (p q : Page) : Prop where
  data : List.Forall₂ (Document.Alike c) p.data q.data
  firstCursor : Option.Rel (Cursor.Alike c) p.firstCursor q.firstCursor
  lastCursor : Option.Rel (Cursor.Alike c) p.lastCursor q.lastCursor
  freshest : p.freshest = q.freshest
  stalest : p.stalest = q.stalest

namespace Criteria

variable {c : Catalog}

/-- One entry of the criteria: a listed value that differs in letter case alone, under a name that
ignores it, resolves to the same condition on the shadow. -/
theorem resolveEntry_alike (hc : c.WellFormed) {field : String} {a b : Option Value}
    (h : c.compared field a = c.compared field b) :
    resolveEntry c field a = resolveEntry c field b := by
  by_cases hcase : c.isCaseInsensitive field
  · have hlowered : a.map Value.lowered = b.map Value.lowered := by
      unfold Catalog.compared at h
      rwa [if_pos hcase, if_pos hcase] at h
    cases a with
    | none =>
      obtain rfl : b = none := Option.map_eq_none_iff.1 hlowered.symm
      rfl
    | some v =>
      obtain ⟨w, rfl, hvw⟩ := Option.map_eq_some_iff.1 hlowered.symm
      have htype : v.type = w.type := by rw [← v.type_lowered, ← hvw, w.type_lowered]
      -- they are both texts, or both are refused
      by_cases hv : v.type = .string
      · rw [resolveEntry_eq hc fun _ he _ => Option.some.inj he ▸ hv,
          resolveEntry_eq hc fun _ he _ => Option.some.inj he ▸ htype ▸ hv, h]
      · rw [resolveEntry_error hc hcase hv, resolveEntry_error hc hcase (htype ▸ hv), htype]
  · have hplain : c.Plain field := eq_false_of_ne_true hcase
    rw [hplain.compared, hplain.compared] at h
    rw [h]

/-- All entries of the criteria, by induction on the list. -/
theorem resolveEntries_alike (hc : c.WellFormed) {entries others : List (String × Option Value)}
    (h : List.Forall₂ (fun a b => a.1 = b.1 ∧ c.compared a.1 a.2 = c.compared a.1 b.2)
      entries others) : resolveEntries c entries = resolveEntries c others := by
  induction h with
  | nil => rfl
  | cons hentry _ ih =>
    rw [resolveEntries, resolveEntries, ih, ← hentry.1, resolveEntry_alike hc hentry.2]

/-- **Alike criteria are resolved to the same ones**, or refused for the same reason. -/
theorem resolve_alike (hc : c.WellFormed) {a b : Criteria} (h : a.Alike c b) :
    a.resolve c = b.resolve c := by
  cases h with
  | all => rfl
  | id i => rfl
  | matching h =>
    exact congrArg (Except.map _) (resolveEntries_alike hc (SortedMap.forall₂_entries h))

/-- Resolved criteria name shadows in the place of the fields that ignore letter case, so all of
their names are plain. -/
theorem plain_resolveEntries (hc : c.WellFormed) {entries resolved : List (String × Option Value)}
    (h : resolveEntries c entries = .ok resolved) : ∀ e ∈ resolved, c.Plain e.1 := by
  obtain ⟨rfl, -⟩ := resolveEntries_ok hc h
  exact List.forall_mem_map.2 fun e _ => hc.plain_physicalName e.1

/-- Resolved criteria read plain names. -/
theorem readsOnly_resolved (hc : c.WellFormed) {criteria resolved : Criteria}
    (h : criteria.resolve c = .ok resolved) :
    (resolved.toPredicate c.idField).ReadsOnly c.Plain := by
  refine Predicate.closed_readsOnly.toPredicate hc.plain_idField ?_
  rintro fields rfl e he
  cases criteria with
  | all => cases h
  | id i => cases h
  | matching listed =>
    obtain ⟨entries, hentries, hfields⟩ := map_eq_ok.1 h
    obtain rfl := Criteria.matching.inj hfields
    exact plain_resolveEntries hc hentries e
      (SortedMap.mem_of_get?_ofList (SortedMap.mem_entries.1 he))

end Criteria

namespace SortSpec

variable {c : Catalog} {s : SortSpec} {k : SortKey}

/-- Every key compares as the catalog says, the id's included. -/
theorem Checked.key_eq (hs : s.Checked c) (hc : c.WellFormed) (hk : k ∈ s.withTieBreak c.idField) :
    k.physical = c.physicalName k.field ∧ k.caseInsensitive = c.isCaseInsensitive k.field := by
  rcases mem_withTieBreak hk with hk | rfl
  · rw [(hs k hk).1]
    exact ⟨rfl, rfl⟩
  · exact ⟨hc.physicalName_idField.symm, hc.plain_idField.symm⟩

end SortSpec

namespace Fields

variable {c : Catalog} {a b : Fields}

/-- Alikeness shows in the entries. -/
theorem alike_of_entries (h : List.Forall₂
    (fun e f => e.1 = f.1 ∧ c.compared e.1 e.2 = c.compared e.1 f.2) a.entries b.entries) :
    a.Alike c b :=
  SortedMap.rel_get? h

/-- Alike documents have values that are compared alike under each name. -/
theorem Alike.compared_value (h : a.Alike c b) (name : String) :
    c.compared name (a.value name) = c.compared name (b.value name) := by
  unfold value
  have hname := h name
  generalize a.get? name = x, b.get? name = y at hname
  cases hname with
  | some hname => exact hname
  | none => rfl

/-- Under a plain name, alike fields show the same. -/
theorem Alike.value_eq (h : a.Alike c b) {name : String} (hplain : c.Plain name) :
    a.value name = b.value name := by
  rw [← hplain.compared (a.value name), h.compared_value, hplain.compared]

end Fields

namespace Keyset

variable {c : Catalog} {a b : Cursor}

/-- Cursors are captured from lowered values where a key ignores letter case, so those of alike
documents agree. -/
theorem cursorValue_alike (h : a.Alike c b) {k : SortKey}
    (hk : k.caseInsensitive = c.isCaseInsensitive k.field) :
    cursorValue a c.idField k = cursorValue b c.idField k := by
  unfold cursorValue Cursor.get?
  by_cases hid : k.field = c.idField
  · rw [if_pos hid, if_pos hid, h.id]
  · have hfield := h.fields k.field
    rw [if_neg hid, if_neg hid, hk]
    generalize a.fields.get? k.field = x, b.fields.get? k.field = y at hfield
    cases hfield with
    | some hvalue => exact congrArg Except.ok hvalue
    | none => rfl

/-- The alternatives of a bound depend on the values of the cursor under the keys alone. -/
theorem alternatives_congr {idField : String} {keys : List SortKey}
    (h : ∀ k ∈ keys, cursorValue a idField k = cursorValue b idField k) (side : Side)
    (before : Predicate) :
    alternatives a side idField before keys = alternatives b side idField before keys := by
  induction keys generalizing before with
  | nil => rfl
  | cons k rest ih =>
    rw [List.forall_mem_cons] at h
    rw [alternatives, alternatives, h.1]
    refine congrArg (Except.bind _) (funext fun value => ?_)
    rw [ih h.2]

/-- **Alike cursors compile to the same predicate**, or are refused for the same reason. -/
theorem compile_alike (hc : c.WellFormed) {s : SortSpec} (hs : s.Checked c) (h : a.Alike c b)
    (side : Side) : compile s a side c.idField = compile s b side c.idField :=
  congrArg (Except.map _)
    (alternatives_congr (fun _ hk => cursorValue_alike h (hs.key_eq hc hk).2) side .always)

end Keyset

namespace Document

variable {c : Catalog} {d e : Document}

/-- Alike documents show the same under plain names. -/
theorem Alike.agreeOn (h : d.Alike c e) :
    Row.AgreeOn c.Plain (d.row c.idField) (e.row c.idField) := by
  intro name hplain
  unfold row value
  rw [h.id, h.fields.value_eq hplain]

/-- Documents stay alike when both lose the same fields. -/
theorem Alike.project (h : d.Alike c e) (names : List String) :
    (d.project names).Alike c (e.project names) := by
  refine ⟨h.id, fun name => ?_⟩
  rw [get?_project, get?_project]
  split_ifs
  · exact h.fields name
  · exact .none

/-- So do lists of them. -/
theorem alike_projectRows {rows others : List Document} (h : List.Forall₂ (Alike c) rows others)
    (fields : Option (List String)) :
    List.Forall₂ (Alike c) (projectRows fields rows) (projectRows fields others) :=
  forall₂_projectRows (fun _ _ hde names => hde.project names) h fields

/-- The cursors of alike documents are alike. -/
theorem Alike.capture (h : d.Alike c e) (hc : c.WellFormed) :
    (Cursor.capture d c).Alike c (Cursor.capture e c) := by
  refine ⟨h.id, h.fields.value_eq hc.plain_freshnessField, fun name => ?_⟩
  show c.AlikeUnder name ((Cursor.capture d c).get? name) ((Cursor.capture e c).get? name)
  rw [Cursor.get?_capture_eq_ite, Cursor.get?_capture_eq_ite]
  split_ifs
  · exact .some (h.fields.compared_value name)
  · exact .none

end Document

/-- **Shadows follow their sources**, so written documents are alike under the names of shadows if
they are alike under all others. -/
theorem Prepared.alike {c : Catalog} {d e : Document} (hc : c.WellFormed) (hd : Prepared c d)
    (he : Prepared c e) (hid : d.id = e.id) (h : ∀ name, name ∉ c.shadows.map (·.2) →
      c.AlikeUnder name (d.fields.get? name) (e.fields.get? name)) : d.Alike c e := by
  refine ⟨hid, fun name => ?_⟩
  by_cases hname : name ∈ c.shadows.map (·.2)
  · obtain ⟨⟨source, shadow⟩, hpair, rfl⟩ := List.mem_map.1 hname
    obtain ⟨f, hf, rfl, hshadow⟩ := Catalog.mem_shadows.1 hpair
    -- no source is a shadow, so the sources are among what is known to be alike
    have hsource := h f.name fun hmem => by
      obtain ⟨other, hother, heq⟩ := List.mem_map.1 hmem
      exact hc.shadows_apart _ hpair _ hother heq.symm
    have hcase : c.isCaseInsensitive f.name := by
      unfold Catalog.isCaseInsensitive
      rw [hc.field?_of_mem hf]
      exact (hc.of_shadow hf hshadow).2.2.2.1
    rw [hd.inStep f hf shadow hshadow, he.inStep f hf shadow hshadow]
    generalize d.fields.get? f.name = x, e.fields.get? f.name = y at hsource
    cases hsource with
    | some hvalue =>
      unfold Catalog.compared at hvalue
      rw [if_pos hcase, if_pos hcase] at hvalue
      exact .some (congrArg (c.compared shadow) hvalue)
    | none => exact .none
  · exact h name hname

/-- Alike stores have documents under the same ids, which are alike in pairs. -/
theorem Store.Alike.documents {c : Catalog} {s t : Store} (hc : c.WellFormed)
    (hs : s.Consistent c) (ht : t.Consistent c) (h : s.Alike c t) (id : EntityId) :
    Option.Rel (Document.Alike c) (s.get? id) (t.get? id) := by
  have hfields := h id
  generalize hd : s.get? id = x, he : t.get? id = y at hfields
  cases hfields with
  | some hfields =>
    obtain ⟨hid, hprepared⟩ := hs.filed id _ hd
    obtain ⟨hid', hprepared'⟩ := ht.filed id _ he
    exact .some (hprepared.alike hc hprepared' (hid.trans hid'.symm) hfields)
  | none => exact .none

namespace Page

variable {c : Catalog} {rows others : List Document}

/-- The cursor at the first of alike rows is alike, and it is missing when there are none. -/
theorem cursor_head? (hc : c.WellFormed) (h : List.Forall₂ (Document.Alike c) rows others) :
    Option.Rel (Cursor.Alike c) (rows.head?.map (Cursor.capture · c))
      (others.head?.map (Cursor.capture · c)) := by
  cases h with
  | nil => exact .none
  | cons h _ => exact .some (h.capture hc)

/-- **Alike rows make alike pages.** -/
theorem alike_ofRows (hc : c.WellFormed) (h : List.Forall₂ (Document.Alike c) rows others) :
    (ofRows rows c).Alike c (ofRows others c) := by
  have hstamps : rows.filterMap (·.value c.freshnessField) =
      others.filterMap (·.value c.freshnessField) := by
    induction h with
    | nil => rfl
    | cons hd _ ih =>
      have hstamp := hd.fields.value_eq hc.plain_freshnessField
      rw [List.filterMap_cons, List.filterMap_cons, Document.value, Document.value, hstamp, ih]
  have hlast := cursor_head? hc (List.forall₂_reverse_iff.2 h)
  rw [List.head?_reverse, List.head?_reverse] at hlast
  exact ⟨h, cursor_head? hc h, hlast, congrArg (List.foldl laterMark none) hstamps,
    congrArg (List.foldl earlierMark none) hstamps⟩

end Page
end Paging
