/-
# Filters mean what was asked

A caller lists fields by their own names and in any letter case. The filter that meets the store
never looks at a field that ignores letter case: it compares the shadow, which earlier writes have
kept in step, with the small letters of what was listed. As long as no shadow is listed itself,
no two listed fields are pointed at one name (`physicalName_inj`), and on a written document each
comparison of a shadow says what was asked of its source (`meets_compared_iff`). So a filter is
refused exactly for a value that is no text where a text is compared, and else it finds exactly
the documents that were asked for (`find_means_asked`).

Resolution is followed entry by entry (`resolveEntry_eq`, `resolveEntry_error`). It stops at the
first entry that it refuses, in the order of names, and the entries that it has made are put into
one map only at the end.
-/
import Paging.Proofs.Query

namespace Paging

namespace Catalog

/-- The value that is compared for a listed one: in small letters where letter case is ignored. -/
def compared (c : Catalog) (field : String) (value : Option Value) : Option Value :=
  if c.isCaseInsensitive field then value.map Value.lowered else value

/-- A source is compared on its shadow and without letter case, the shadow as it is. -/
theorem WellFormed.compared_shadow {c : Catalog} (hc : c.WellFormed) {source shadow : String}
    (h : (source, shadow) ∈ c.shadows) :
    (c.physicalName source = shadow ∧ c.isCaseInsensitive source = true) ∧
      c.physicalName shadow = shadow ∧ c.isCaseInsensitive shadow = false := by
  obtain ⟨f, hf, rfl, hshadow⟩ := mem_shadows.1 h
  constructor
  · rcases hc.shadow_cases f.name with ⟨-, hnone, -⟩ | ⟨g, -, shadow', -, -, hcase, hsome, hp⟩
    · rw [hc.field?_of_mem hf] at hnone
      exact absurd (hshadow.symm.trans hnone) (Option.some_ne_none shadow)
    · rw [hc.field?_of_mem hf] at hsome
      exact ⟨hp.trans (Option.some.inj (hsome.symm.trans hshadow)), hcase⟩
  · rcases hc.shadow_cases shadow with ⟨hcase, -, hp⟩ | ⟨g, hg, _, hname, -⟩
    · exact ⟨hp, hcase⟩
    · exact absurd hname (hc.shadow_fresh f hf shadow hshadow g hg)

/-- What is compared for a source are the small letters of the listed value. -/
theorem WellFormed.compared_source {c : Catalog} (hc : c.WellFormed) {source shadow : String}
    (h : (source, shadow) ∈ c.shadows) (value : Option Value) :
    c.compared source value = value.map Value.lowered :=
  if_pos (hc.compared_shadow h).1.2

/-- A shadow is compared with the listed value itself. -/
theorem WellFormed.compared_of_shadow {c : Catalog} (hc : c.WellFormed) {source shadow : String}
    (h : (source, shadow) ∈ c.shadows) (value : Option Value) : c.compared shadow value = value :=
  if_neg (by simp [(hc.compared_shadow h).2.2])

/-- Two names are compared under one name only if one is the shadow of the other. -/
theorem WellFormed.eq_or_shadow_of_physicalName {c : Catalog} (hc : c.WellFormed) {a b : String}
    (h : c.physicalName a = c.physicalName b) :
    a = b ∨ (a, b) ∈ c.shadows ∨ (b, a) ∈ c.shadows := by
  rcases hc.shadow_cases a with ⟨-, -, hpa⟩ | ⟨f, hf, shadow, rfl, hfs, -, -, hpa⟩
  · rcases hc.shadow_cases b with ⟨-, -, hpb⟩ | ⟨g, hg, shadow, rfl, hgs, -, -, hpb⟩
    · exact .inl (hpa.symm.trans (h.trans hpb))
    · have ha : a = shadow := hpa.symm.trans (h.trans hpb)
      exact .inr (.inr (mem_shadows.2 ⟨g, hg, rfl, ha ▸ hgs⟩))
  · rcases hc.shadow_cases b with ⟨-, -, hpb⟩ | ⟨g, hg, shadow', rfl, hgs, -, -, hpb⟩
    · have hb : b = shadow := hpb.symm.trans (h.symm.trans hpa)
      exact .inr (.inl (mem_shadows.2 ⟨f, hf, rfl, hb ▸ hfs⟩))
    · -- both have shadows, and no two fields have the same one
      obtain rfl : shadow = shadow' := hpa.symm.trans (h.trans hpb)
      have hname := (hc.of_shadow hf hfs).2.2.2.2.2
      have hname' := (hc.of_shadow hg hgs).2.2.2.2.2
      exact .inl ((String.append_right_inj _).1 (hname.symm.trans hname'))

/-- Names that are no shadows are compared under names of their own. -/
theorem WellFormed.physicalName_inj {c : Catalog} (hc : c.WellFormed) {a b : String}
    (ha : a ∉ c.shadows.map (·.2)) (hb : b ∉ c.shadows.map (·.2))
    (h : c.physicalName a = c.physicalName b) : a = b := by
  rcases hc.eq_or_shadow_of_physicalName h with heq | hab | hba
  · exact heq
  · exact absurd (List.mem_map_of_mem hab) hb
  · exact absurd (List.mem_map_of_mem hba) ha

end Catalog

/-- A value meets a listed one when letter case is ignored: both are missing, or they are texts
with the same small letters. -/
def Value.MeetsText : Option Value → Option Value → Prop
  | some (.string text), some (.string wanted) =>
    LetterCase.lowercase text = LetterCase.lowercase wanted
  | none, none => True
  | _, _ => False

/-- What a caller asks of a document with one listed field. Where letter case is ignored, the field
of the document itself is meant and not its shadow. -/
def Criteria.Asks (c : Catalog) (d : Document) (field : String) (value : Option Value) : Prop :=
  if c.isCaseInsensitive field then Value.MeetsText (d.value field) value
  else Value.Meets (d.row c.idField field) value

/-- A value that is no text is listed for a field that ignores letter case. -/
def Criteria.Uncomparable (c : Catalog) (fields : Fields) : Prop :=
  ∃ field v, fields.get? field = some (some v) ∧ c.isCaseInsensitive field ∧ v.type ≠ .string

/-- Texts in small letters meet when the texts meet and letter case is ignored. -/
theorem Value.meets_lowered {a b : Option Value} (ha : ∀ v, a = some v → v.type = .string)
    (hb : ∀ v, b = some v → v.type = .string) :
    Meets (a.map lowered) (b.map lowered) ↔ MeetsText a b := by
  cases a with
  | none => cases b <;> exact Iff.rfl
  | some v =>
    obtain ⟨text, rfl⟩ := exists_string (ha v rfl)
    cases b with
    | none => exact Iff.rfl
    | some w =>
      obtain ⟨wanted, rfl⟩ := exists_string (hb w rfl)
      constructor
      · exact fun h => Std.LawfulEqOrd.eq_of_compare h.2
      · intro (h : LetterCase.lowercase text = LetterCase.lowercase wanted)
        refine ⟨rfl, ?_⟩
        show compare (LetterCase.lowercase text) (LetterCase.lowercase wanted) = .eq
        rw [h, Std.ReflOrd.compare_self]

namespace Criteria

variable {c : Catalog}

/-- **The comparison of a shadow says what was asked of its source.** -/
theorem meets_compared_iff (hc : c.WellFormed) (hid : c.IdApart) {d : Document}
    (hd : Prepared c d) {field : String} {value : Option Value}
    (htext : ∀ v, value = some v → c.isCaseInsensitive field → v.type = .string) :
    Value.Meets (d.row c.idField (c.physicalName field)) (c.compared field value) ↔
      Asks c d field value := by
  unfold Catalog.compared Asks
  rcases hc.shadow_cases field with ⟨hcase, -, hphysical⟩ | ⟨f, hf, shadow, rfl, hfs, hcase, -, hp⟩
  · rw [hphysical, hcase]
    exact Iff.rfl
  · obtain ⟨htype, -, -, hci, hphysical, -⟩ := hc.of_shadow hf hfs
    have hrow : d.row c.idField (c.physicalName f.name) = (d.value f.name).map Value.lowered := by
      rw [hp, ← hphysical, Document.row, if_neg (hc.physical_ne_idField hid hf),
        hd.value_physical hc hf, if_pos hci]
    rw [hrow, if_pos hcase, if_pos hcase]
    refine Value.meets_lowered (fun w hw => ?_) fun v hv => htext v hv hcase
    have haccepts := hd.typed f hf w hw
    rw [htype] at haccepts
    cases w with
    | string text => rfl
    | _ => cases haccepts

/-- An entry is resolved to the field that storage compares, with the value in the form that is
compared, unless a field without letter case is given a value that is no text. -/
theorem resolveEntry_eq (hc : c.WellFormed) {field : String} {value : Option Value}
    (htext : ∀ v, value = some v → c.isCaseInsensitive field → v.type = .string) :
    resolveEntry c field value = .ok (c.physicalName field, c.compared field value) := by
  unfold resolveEntry Catalog.compared
  rcases hc.shadow_cases field with ⟨hcase, hnone, hphysical⟩ | ⟨_, _, _, -, -, hcase, hsome, hp⟩
  · rw [hnone, hphysical, hcase]
    rfl
  · rw [hsome, hp, if_pos hcase]
    cases value with
    | none => rfl
    | some v =>
      obtain ⟨text, rfl⟩ := Value.exists_string (htext v rfl hcase)
      rfl

/-- An entry is refused for a value that is no text where a text is compared. -/
theorem resolveEntry_error (hc : c.WellFormed) {field : String} {v : Value}
    (hcase : c.isCaseInsensitive field) (hv : v.type ≠ .string) :
    resolveEntry c field (some v) = .error (.typeCoercion field v.type) := by
  unfold resolveEntry
  rcases hc.shadow_cases field with ⟨hnot, -⟩ | ⟨_, _, _, -, -, -, hsome, -⟩
  · rw [hnot] at hcase
    cases hcase
  · rw [hsome]
    cases v with
    | string text => exact absurd rfl hv
    | _ => rfl

/-- An entry that is not refused is resolved to what is compared for it. -/
theorem resolveEntry_ok (hc : c.WellFormed) {field : String} {value : Option Value}
    {e : String × Option Value} (h : resolveEntry c field value = .ok e) :
    e = (c.physicalName field, c.compared field value) := by
  by_cases hfault : ∃ v, value = some v ∧ c.isCaseInsensitive field ∧ v.type ≠ .string
  · obtain ⟨v, rfl, hcase, hv⟩ := hfault
    rw [resolveEntry_error hc hcase hv] at h
    cases h
  · rw [resolveEntry_eq hc fun v hv hcase => by_contra fun hne => hfault ⟨v, hv, hcase, hne⟩] at h
    exact (Except.ok.inj h).symm

/-- Entries of which none is refused are resolved one by one. -/
theorem resolveEntries_ok (hc : c.WellFormed) {entries resolved : List (String × Option Value)}
    (h : resolveEntries c entries = .ok resolved) :
    resolved = entries.map (fun e => (c.physicalName e.1, c.compared e.1 e.2)) ∧
      ∀ e ∈ entries, resolveEntry c e.1 e.2 = .ok (c.physicalName e.1, c.compared e.1 e.2) := by
  induction entries generalizing resolved with
  | nil =>
    obtain rfl := Except.ok.inj h
    exact ⟨rfl, fun _ he => absurd he List.not_mem_nil⟩
  | cons e rest ih =>
    obtain ⟨first, hfirst, h⟩ := bind_eq_ok.1 h
    obtain ⟨more, hmore, h⟩ := bind_eq_ok.1 h
    obtain rfl := Except.ok.inj h
    obtain rfl := resolveEntry_ok hc hfirst
    obtain ⟨rfl, hrest⟩ := ih hmore
    exact ⟨rfl, List.forall_mem_cons.2 ⟨hfirst, hrest⟩⟩

/-- Entries are resolved one by one, unless one of them is refused. -/
theorem resolveEntries_eq (hc : c.WellFormed) {entries : List (String × Option Value)}
    (htext : ∀ e ∈ entries, ∀ v, e.2 = some v → c.isCaseInsensitive e.1 → v.type = .string) :
    resolveEntries c entries =
      .ok (entries.map fun e => (c.physicalName e.1, c.compared e.1 e.2)) := by
  induction entries with
  | nil => rfl
  | cons e rest ih =>
    rw [List.forall_mem_cons] at htext
    refine bind_eq_ok.2 ⟨_, resolveEntry_eq hc htext.1, ?_⟩
    exact bind_eq_ok.2 ⟨_, ih htext.2, rfl⟩

/-- One entry with such a value is enough for the criteria to be refused. -/
theorem resolveEntries_error (hc : c.WellFormed) {entries : List (String × Option Value)}
    {field : String} {v : Value} (hentry : (field, some v) ∈ entries)
    (hcase : c.isCaseInsensitive field) (hv : v.type ≠ .string) :
    ∃ field found, resolveEntries c entries = .error (.typeCoercion field found) := by
  induction entries with
  | nil => exact absurd hentry List.not_mem_nil
  | cons e rest ih =>
    obtain ⟨name, value⟩ := e
    by_cases hfault : ∃ w, value = some w ∧ c.isCaseInsensitive name ∧ w.type ≠ .string
    · obtain ⟨w, rfl, hname, hw⟩ := hfault
      exact ⟨name, w.type, by rw [resolveEntries, resolveEntry_error hc hname hw]; rfl⟩
    · have htext : ∀ w, value = some w → c.isCaseInsensitive name → w.type = .string :=
        fun w hw hname => by_contra fun hne => hfault ⟨w, hw, hname, hne⟩
      have hhead := resolveEntry_eq hc htext
      rcases List.mem_cons.1 hentry with heq | hrest
      · obtain ⟨rfl, rfl⟩ := Prod.mk.inj heq
        exact absurd ⟨v, rfl, hcase, hv⟩ hfault
      · obtain ⟨field', found, herror⟩ := ih hrest
        exact ⟨field', found, by rw [resolveEntries, hhead, herror]; rfl⟩

/-- A filter is refused exactly for a value that is no text where a text is compared. -/
theorem resolve_error_iff (hc : c.WellFormed) (fields : Fields) :
    (∃ field found, (matching fields).resolve c = .error (.typeCoercion field found)) ↔
      Uncomparable c fields := by
  constructor
  · rintro ⟨field, found, herror⟩
    by_contra hnot
    have htext : ∀ e ∈ fields.entries, ∀ v, e.2 = some v → c.isCaseInsensitive e.1 →
        v.type = .string := fun e he v hv hcase => by_contra fun hne =>
      hnot ⟨e.1, v, SortedMap.mem_entries.1 (hv ▸ he), hcase, hne⟩
    rw [resolve, resolveEntries_eq hc htext] at herror
    cases herror
  · rintro ⟨field, v, hentry, hcase, hv⟩
    obtain ⟨field', found, herror⟩ :=
      resolveEntries_error hc (SortedMap.mem_entries.2 hentry) hcase hv
    exact ⟨field', found, by rw [resolve, herror]; rfl⟩

/-- **A filter that is not refused matches the written documents that were asked for.** -/
theorem matches_resolved (hc : c.WellFormed) (hid : c.IdApart) {fields : Fields}
    (hkeys : ∀ field value, fields.get? field = some value → field ∉ c.shadows.map (·.2))
    (htext : ¬Uncomparable c fields) :
    ∃ resolved, (matching fields).resolve c = .ok resolved ∧ ∀ d, Prepared c d →
      (resolved.Matches c.idField d ↔
        ∀ field value, fields.get? field = some value → Asks c d field value) := by
  have htext' : ∀ field value, fields.get? field = some value →
      ∀ v, value = some v → c.isCaseInsensitive field → v.type = .string := by
    rintro field _ hfield v rfl hcase
    exact by_contra fun hne => htext ⟨field, v, hfield, hcase, hne⟩
  have hresolve : resolveEntries c fields.entries = _ := resolveEntries_eq hc fun e he =>
    htext' e.1 e.2 (SortedMap.mem_entries.1 he)
  -- listed fields have different physical names, so that resolving them loses no entry
  have hnodup : ((fields.entries.map fun e =>
      (c.physicalName e.1, c.compared e.1 e.2)).map (·.1)).Nodup := by
    rw [List.map_map, List.Nodup, List.pairwise_map]
    refine fields.ascending.imp_of_mem fun {a b} ha hb hlt heq => ?_
    have hname := hc.physicalName_inj (hkeys _ _ (SortedMap.mem_entries.1 ha))
      (hkeys _ _ (SortedMap.mem_entries.1 hb)) heq
    rw [hname, Std.ReflOrd.compare_self] at hlt
    cases hlt
  refine ⟨_, by rw [resolve, hresolve]; rfl, fun d hd => ?_⟩
  constructor
  · intro h field value hfield
    refine (meets_compared_iff hc hid hd (htext' field value hfield)).1 (h _ _ ?_)
    refine (SortedMap.get?_ofList_of_nodup hnodup).2 (List.mem_map.2 ⟨(field, value), ?_, rfl⟩)
    exact SortedMap.mem_entries.2 hfield
  · intro h name value hname
    obtain ⟨⟨field, asked⟩, hentry, heq⟩ :=
      List.mem_map.1 ((SortedMap.get?_ofList_of_nodup hnodup).1 hname)
    obtain ⟨rfl, rfl⟩ := Prod.mk.inj heq
    have hfield := SortedMap.mem_entries.1 hentry
    exact (meets_compared_iff hc hid hd (htext' field asked hfield)).2 (h field asked hfield)

end Criteria

namespace Collection

variable {c : Collection} {s : Store}

/-- **A filter finds what was asked for.** Take a registered catalog in which neither the freshness
field nor a shadow has the name of the id, a store that was reached through the collection, and
listed fields of which none is a shadow. The filter is refused exactly if a value that is no text
is listed for a field that ignores letter case. Else its page has exactly the stored documents that
satisfy what was asked with every listed field, each of them once. -/
theorem find_means_asked {schema : Schema} {config : Config}
    (hc : Catalog.register schema config = .ok c.catalog) (hid : c.catalog.IdApart)
    (hs : c.Reachable s) {fields : Fields}
    (hkeys : ∀ field value, fields.get? field = some value →
      field ∉ c.catalog.shadows.map (·.2)) :
    ((∃ field found, c.find (.matching fields) = .error (.typeCoercion field found)) ↔
      Criteria.Uncomparable c.catalog fields) ∧
    (¬Criteria.Uncomparable c.catalog fields →
      ∃ q page, c.find (.matching fields) = .ok q ∧ q.run s = .ok page ∧ page.data.Nodup ∧
        ∀ d, d ∈ page.data ↔ d ∈ s.documents.values ∧
          ∀ field value, fields.get? field = some value →
            Criteria.Asks c.catalog d field value) := by
  have hwell := Catalog.wellFormed_of_register hc
  have hstore := hs.consistent hwell
  refine ⟨?_, fun htext => ?_⟩
  · rw [← Criteria.resolve_error_iff hwell fields, find]
    refine exists_congr fun field => exists_congr fun found => ?_
    -- finding fails exactly where resolving the criteria does
    cases (Criteria.matching fields).resolve c.catalog with
    | error cause => simp [Except.map]
    | ok resolved => simp [Except.map]
  · obtain ⟨resolved, hresolve, hmatches⟩ :=
      Criteria.matches_resolved hwell hid hkeys htext
    have hfind : c.find (.matching fields) =
        .ok ⟨c, resolved, .unsorted, none, none, [], none, none⟩ := by
      rw [find, hresolve]
      rfl
    obtain ⟨-, hregular⟩ := (Query.Built.find hfind).regular hwell hid
    obtain ⟨all, hall, hmem⟩ := hregular.exists_ascending hstore
    have hdata : all.map (Query.projected ⟨c, resolved, .unsorted, none, none, [], none, none⟩) =
        all := List.map_id'' (fun _ => rfl) all
    -- there is no limit, so memory is no matter
    have hroom := Query.hasRoom_of_limit
      (q := ⟨c, resolved, .unsorted, none, none, [], none, none⟩) rfl
    refine ⟨_, _, hfind, hregular.run_eq hstore hroom hall hmem, ?_, fun d => ?_⟩
    · show (all.map _).Nodup
      rw [hdata]
      exact hall.untied.nodup
    · refine (iff_of_eq (congrArg (d ∈ ·) hdata)).trans ((hmem d).trans ?_)
      refine and_congr_right fun hd => ?_
      rw [← hmatches d (hstore.prepared hd)]
      constructor
      · exact fun hwants => hwants.matches_criteria
      · exact fun hcriteria => ⟨hcriteria, fun _ ht => absurd ht (Option.not_mem_none _),
          fun _ ht => absurd ht (Option.not_mem_none _), fun _ hb => absurd hb List.not_mem_nil⟩

/-- Ann is asked for in capital letters, and without an age. -/
theorem find_means_asked_people :
    let c := people
    let s := (Write.save .epoch ann).apply c ((Engine.empty.openStore c.catalog).store c.catalog)
    let fields : Fields := .ofList [("name", some (.string "ANN")), ("age", none)]
    ((∃ field found, c.find (.matching fields) = .error (.typeCoercion field found)) ↔
      Criteria.Uncomparable c.catalog fields) ∧
    (¬Criteria.Uncomparable c.catalog fields →
      ∃ q page, c.find (.matching fields) = .ok q ∧ q.run s = .ok page ∧ page.data.Nodup ∧
        ∀ d, d ∈ page.data ↔ d ∈ s.documents.values ∧
          ∀ field value, fields.get? field = some value →
            Criteria.Asks c.catalog d field value) := by
  intro c s fields
  refine find_means_asked Catalog.register_people (by decide +kernel) (.written .opened _) ?_
  intro field value hfield
  have hentry := SortedMap.mem_entries.2 hfield
  have hnames : ∀ e ∈ fields.entries, e.1 ∉ c.catalog.shadows.map (·.2) := by decide +kernel
  exact hnames _ hentry

end Collection
end Paging
