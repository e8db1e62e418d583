/-
# What a sort compares

The keys of a checked sort are sortable names, each with what the catalog says of it
(`checked_of_parse`). With the id as the last resort, a sort compares lists of values, one value
for each key: those of a row stand under the physical names (`rowTuple`), those of a cursor under
the declared names and in small letters where the key compares them so (`cursorTuple`). The order
that storage gets compares the same lists (`compareRows_orderBy`), and the id is always among its
names.
-/
import Paging.Keyset
import Paging.Proofs.Catalog
import Paging.Proofs.Order.Rows

namespace Paging

/-- The value in small letters, if it is a text. -/
def Value.lowered (v : Value) : Value :=
  v.lowercase?.getD v

/-- Lowering a value keeps its type. -/
theorem Value.type_lowered (v : Value) : v.lowered.type = v.type := by
  cases v <;> rfl

/-- The value that a cursor has for a key, in small letters when the key compares them. A field
that the cursor does not carry counts as missing. -/
def Cursor.sortValue (cursor : Cursor) (idField : String) (k : SortKey) : Option Value :=
  if k.field = idField then some (.entityId cursor.id)
  else if k.caseInsensitive then (cursor.get? k.field).join.map Value.lowered
  else (cursor.get? k.field).join

/-- What a cursor carries is found. -/
theorem Keyset.cursorValue_eq {cursor : Cursor} {idField : String} {k : SortKey}
    (h : k.field ≠ idField → (cursor.get? k.field).isSome) :
    cursorValue cursor idField k = .ok (cursor.sortValue idField k) := by
  unfold cursorValue Cursor.sortValue
  by_cases hid : k.field = idField
  · rw [if_pos hid, if_pos hid]
  · obtain ⟨value, hvalue⟩ := Option.isSome_iff_exists.1 (h hid)
    rw [if_neg hid, if_neg hid, hvalue]
    rfl

namespace SortSpec

/-- The directions of the keys, the id included. -/
def directions (s : SortSpec) (idField : String) : List SortDirection :=
  (s.withTieBreak idField).map (·.direction)

/-- The values of a row that a sort compares. -/
def rowTuple (s : SortSpec) (idField : String) (row : Row) : List (Option Value) :=
  (s.withTieBreak idField).map fun k => row k.physical

/-- The values of a cursor that a sort compares. -/
def cursorTuple (s : SortSpec) (idField : String) (cursor : Cursor) : List (Option Value) :=
  (s.withTieBreak idField).map (cursor.sortValue idField)

/-- **Storage compares the tuples of rows.** -/
theorem compareRows_orderBy (s : SortSpec) (idField : String) (a b : Row) :
    compareRows (s.orderBy idField false) a b =
      compareTuples (s.directions idField) (s.rowTuple idField a) (s.rowTuple idField b) := by
  rw [compareRows_eq_compareTuples, orderBy, List.map_map, List.map_map, List.map_map]
  rfl

/-- The reversed order is the order with every direction turned around. -/
theorem orderBy_flip (s : SortSpec) (idField : String) :
    s.orderBy idField true = flipped (s.orderBy idField false) := by
  unfold flipped orderBy
  rw [List.map_map]
  rfl

/-- **The reversed order exchanges the sides.** -/
theorem compareRows_orderBy_flip (s : SortSpec) (idField : String) (a b : Row) :
    compareRows (s.orderBy idField true) a b = compareRows (s.orderBy idField false) b a := by
  rw [orderBy_flip]
  exact compareRows_flipped _ a b

/-- Behind the keys of a sort there is at most the id. -/
theorem mem_withTieBreak {s : SortSpec} {idField : String} {k : SortKey}
    (h : k ∈ s.withTieBreak idField) : k ∈ s.keys ∨ k = idKey idField := by
  unfold withTieBreak at h
  split_ifs at h with hid
  · exact .inl h
  · rcases List.mem_append.1 h with h | h
    · exact .inl h
    · exact .inr (List.mem_singleton.1 h)

/-- The keys of a sort stay among them when the id is added. -/
theorem mem_withTieBreak_of_mem {s : SortSpec} {idField : String} {k : SortKey} (h : k ∈ s.keys) :
    k ∈ s.withTieBreak idField := by
  unfold withTieBreak
  split_ifs
  · exact h
  · exact List.mem_append_left _ h

/-- All keys but the id's are keys of the sort itself. -/
theorem mem_keys {s : SortSpec} {idField : String} {k : SortKey}
    (h : k ∈ s.withTieBreak idField) (hid : k.field ≠ idField) : k ∈ s.keys := by
  rcases mem_withTieBreak h with h | rfl
  · exact h
  · exact absurd rfl hid

/-- **The id is always among the keys.** -/
theorem exists_id_mem_withTieBreak (s : SortSpec) (idField : String) :
    ∃ k ∈ s.withTieBreak idField, k.field = idField := by
  unfold withTieBreak
  split_ifs with hid
  · obtain ⟨k, hk, hfield⟩ := List.any_eq_true.1 hid
    exact ⟨k, hk, by simpa using hfield⟩
  · exact ⟨idKey idField, List.mem_append_right _ List.mem_cons_self, rfl⟩

/-- What holds of the keys of a sort that was checked against a catalog. -/
def Checked (c : Catalog) (s : SortSpec) : Prop :=
  ∀ k ∈ s.keys, k = key c k.field k.direction ∧ c.isSortable k.field

/-- Checking keys one by one gives each as its field was declared, and only sortable fields pass. -/
theorem keysOf_ok {c : Catalog} {seen : List String} {pairs : List (String × SortDirection)}
    {keys : List SortKey} (h : keysOf c seen pairs = .ok keys) :
    ∀ k ∈ keys, k = key c k.field k.direction ∧ c.isSortable k.field := by
  induction pairs generalizing seen keys with
  | nil =>
    obtain rfl := Except.ok.inj h
    exact fun _ hk => absurd hk List.not_mem_nil
  | cons pair rest ih =>
    obtain ⟨field, direction⟩ := pair
    rw [keysOf] at h
    split_ifs at h with hfield
    obtain ⟨more, hmore, rfl⟩ := map_eq_ok.1 h
    rw [List.forall_mem_cons]
    exact ⟨⟨rfl, hfield.1⟩, ih hmore⟩

/-- **Checking settles every key.** -/
theorem checked_of_parse {c : Catalog} {input : SortInput} {s : SortSpec}
    (h : parse c input = .ok s) : s.Checked c := by
  cases input with
  | pairs pairs =>
    obtain ⟨keys, hkeys, rfl⟩ := map_eq_ok.1 h
    exact keysOf_ok hkeys
  | text text =>
    rw [parse] at h
    cases horder : OrderText.parse text with
    | error fault => simp only [horder, reduceCtorEq] at h
    | ok order =>
      rw [horder] at h
      obtain ⟨keys, hkeys, rfl⟩ := map_eq_ok.1 h
      exact keysOf_ok hkeys

/-- Having no keys passes every check. -/
theorem checked_unsorted (c : Catalog) : unsorted.Checked c :=
  fun _ hk => absurd hk List.not_mem_nil

/-- Behind every key but the id's there is a sortable field. -/
theorem Checked.exists_field {c : Catalog} {s : SortSpec} (hs : s.Checked c) {k : SortKey}
    (hk : k ∈ s.keys) (hid : k.field ≠ c.idField) :
    ∃ f ∈ c.fields, f.sortable ∧ k.field = f.name ∧ k.physical = f.physical ∧
      k.caseInsensitive = f.caseInsensitive := by
  obtain ⟨hkey, hsortable⟩ := hs k hk
  rw [Catalog.isSortable, Bool.or_eq_true, beq_iff_eq] at hsortable
  obtain ⟨f, hf, hfsortable⟩ := (Option.any_eq_true _ _).1 (hsortable.resolve_left hid)
  obtain ⟨hmem, hname⟩ := Catalog.mem_of_field? hf
  refine ⟨f, hmem, hfsortable, hname.symm, ?_, ?_⟩ <;> rw [hkey]
  · simp only [key, Catalog.physicalName, hf, Option.map_some, Option.getD_some]
  · simp only [key, Catalog.isCaseInsensitive, hf, Option.any_some]

/-- The key of the id compares the id. -/
theorem Checked.physical_idField {c : Catalog} {s : SortSpec} (hs : s.Checked c)
    (hc : c.WellFormed) {k : SortKey} (hk : k ∈ s.withTieBreak c.idField)
    (hid : k.field = c.idField) : k.physical = c.idField := by
  rcases mem_withTieBreak hk with hk | rfl
  · rw [(hs k hk).1, hid]
    exact hc.physicalName_idField
  · rfl

/-- The order for storage has the id among its names. -/
theorem Checked.exists_id_mem_orderBy {c : Catalog} {s : SortSpec} (hs : s.Checked c)
    (hc : c.WellFormed) (flip : Bool) :
    ∃ item ∈ s.orderBy c.idField flip, item.field = c.idField := by
  obtain ⟨k, hk, hid⟩ := exists_id_mem_withTieBreak s c.idField
  exact ⟨_, List.mem_map_of_mem hk, hs.physical_idField hc hk hid⟩

end SortSpec
end Paging
