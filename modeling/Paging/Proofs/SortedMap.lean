/-
# Lookups and entries of maps in key order

The entries of a map are exactly what its lookups find (`mem_entries`), so what is known of the
lookups after a change is known of the entries. Here the order of the keys tells different keys
apart, and the lemmas speak of equal keys instead of keys that compare equal.

A map may be made of a list of entries, put in one after another. Of several entries of one key the
last one stays (`mem_of_get?_ofList`), and where no two have one key all of them do
(`get?_ofList_of_nodup`). Two maps whose lookups are related key by key list related entries in the
same places (`forall₂_entries`), since both list them by their keys.
-/
import Mathlib.Data.List.Forall2
import Paging.SortedMap

namespace Paging
namespace SortedMap

variable {κ α : Type} [Ord κ] [Std.LawfulEqOrd κ]

/-- In entries with ascending keys, looking up a key finds the one entry that has it. -/
theorem lookup_eq_some {key : κ} {value : α} {l : List (κ × α)}
    (h : l.Pairwise fun a b => compare a.1 b.1 = .lt) :
    lookup key l = some value ↔ (key, value) ∈ l := by
  induction l with
  | nil => simp [lookup]
  | cons head rest ih =>
    obtain ⟨k, v⟩ := head
    obtain ⟨hhead, hrest⟩ := List.pairwise_cons.1 h
    rw [lookup, List.mem_cons, Prod.mk.injEq]
    by_cases hkey : key = k
    · obtain rfl := hkey
      -- the keys of the rest are greater, so the first entry is the only one of this key
      have hnot : (key, value) ∉ rest := fun hmem => by
        have hlt := hhead _ hmem
        rw [Std.ReflOrd.compare_self] at hlt
        cases hlt
      rw [if_pos Std.ReflOrd.compare_self, Option.some.injEq]
      constructor
      · rintro rfl
        exact .inl ⟨rfl, rfl⟩
      · rintro (⟨-, rfl⟩ | hmem)
        · rfl
        · exact absurd hmem hnot
    · have hne : compare key k ≠ .eq := fun heq => hkey (Std.LawfulEqOrd.eq_of_compare heq)
      rw [if_neg hne, ih hrest]
      constructor
      · exact .inr
      · rintro (⟨heq, -⟩ | hmem)
        · exact absurd heq hkey
        · exact hmem

/-- **The entries are what lookups find.** -/
theorem mem_entries {m : SortedMap κ α} {key : κ} {value : α} :
    (key, value) ∈ m.entries ↔ m.get? key = some value :=
  (lookup_eq_some m.ascending).symm

/-- The values of a map are those found under some key. -/
theorem mem_values {m : SortedMap κ α} {value : α} :
    value ∈ m.values ↔ ∃ key, m.get? key = some value := by
  constructor
  · intro h
    obtain ⟨⟨key, _⟩, hentry, rfl⟩ := List.mem_map.1 h
    exact ⟨key, mem_entries.1 hentry⟩
  · rintro ⟨key, h⟩
    exact List.mem_map.2 ⟨_, mem_entries.2 h, rfl⟩

/-- A lookup among the entries whose keys pass a test. -/
theorem get?_filter (m : SortedMap κ α) (keep : κ → Bool) (key : κ) :
    (m.filter fun k _ => keep k).get? key = if keep key then m.get? key else none := by
  refine Option.ext fun value => ?_
  rw [← mem_entries]
  unfold filter
  rw [List.mem_filter, mem_entries]
  by_cases hkeep : keep key = true <;> simp [hkeep]

variable [Std.TransOrd κ]

omit [Std.LawfulEqOrd κ] [Std.TransOrd κ] in

/-- Mapping the values maps what is found. -/
theorem lookup_map {β : Type} (f : α → β) (key : κ) (l : List (κ × α)) :
    lookup key (l.map fun e => (e.1, f e.2)) = (lookup key l).map f := by
  induction l with
  | nil => rfl
  | cons head rest ih =>
    obtain ⟨k, v⟩ := head
    rw [List.map_cons, lookup, lookup, ih]
    split_ifs <;> rfl

/-- **Maps whose lookups are related have entries of the same keys**, one by one, with related
values. -/
theorem forall₂_entries {β : Type} {R : κ → α → β → Prop} {m : SortedMap κ α} {n : SortedMap κ β}
    (h : ∀ key, Option.Rel (R key) (m.get? key) (n.get? key)) :
    List.Forall₂ (fun a b => a.1 = b.1 ∧ R a.1 a.2 b.2) m.entries n.entries := by
  have hkeys : (m.entries.map fun e => (e.1, ())) = n.entries.map fun e => (e.1, ()) := by
    refine eq_of_lookup_eq (List.pairwise_map.2 m.ascending) (List.pairwise_map.2 n.ascending)
      fun key => ?_
    rw [lookup_map (fun _ => ()), lookup_map (fun _ => ())]
    have hkey : Option.Rel (R key) (lookup key m.entries) (lookup key n.entries) := h key
    generalize lookup key m.entries = x, lookup key n.entries = y at hkey
    cases hkey with
    | some _ => rfl
    | none => rfl
  have hsame : List.Forall₂ (fun a b => (a.1, ()) = (b.1, ())) m.entries n.entries :=
    List.forall₂_map_left_iff.1 (List.forall₂_map_right_iff.1 (List.forall₂_eq_eq_eq ▸ hkeys))
  refine List.forall₂_iff_zip.2 ⟨hsame.length_eq, fun {a b} hab => ?_⟩
  obtain ⟨ha, hb⟩ := List.of_mem_zip hab
  have hkey : a.1 = b.1 := (Prod.mk.inj (List.forall₂_zip hsame hab)).1
  have hrel := h a.1
  rw [mem_entries.1 ha, hkey, mem_entries.1 hb] at hrel
  cases hrel with
  | some hrel => exact ⟨hkey, hkey.symm ▸ hrel⟩

omit [Std.TransOrd κ] in
/-- Maps with related entries of the same keys have related lookups. -/
theorem rel_get? {β : Type} {R : κ → α → β → Prop} {m : SortedMap κ α} {n : SortedMap κ β}
    (h : List.Forall₂ (fun a b => a.1 = b.1 ∧ R a.1 a.2 b.2) m.entries n.entries) (key : κ) :
    Option.Rel (R key) (m.get? key) (n.get? key) := by
  unfold get?
  generalize m.entries = entries, n.entries = others at h
  induction h with
  | nil => exact .none
  | cons hentry _ ih =>
    rw [lookup, lookup, ← hentry.1]
    split_ifs with hkey
    · rw [Std.LawfulEqOrd.eq_of_compare hkey]
      exact .some hentry.2
    · exact ih

/-- The inserted value is found under its key. -/
@[simp] theorem get?_insert_self (m : SortedMap κ α) (key : κ) (value : α) :
    (m.insert key value).get? key = some value := by
  rw [get?_insert, if_pos Std.ReflOrd.compare_self]

/-- Nothing else changes by inserting. -/
theorem get?_insert_of_ne (m : SortedMap κ α) {key k : κ} (h : k ≠ key) (value : α) :
    (m.insert key value).get? k = m.get? k := by
  rw [get?_insert, if_neg fun heq => h (Std.LawfulEqOrd.eq_of_compare heq)]

/-- Nothing is found under an erased key. -/
@[simp] theorem get?_erase_self (m : SortedMap κ α) (key : κ) : (m.erase key).get? key = none := by
  rw [get?_erase, if_pos Std.ReflOrd.compare_self]

/-- Nothing else changes by erasing. -/
theorem get?_erase_of_ne (m : SortedMap κ α) {key k : κ} (h : k ≠ key) :
    (m.erase key).get? k = m.get? k := by
  rw [get?_erase, if_neg fun heq => h (Std.LawfulEqOrd.eq_of_compare heq).symm]

/-- What a lookup in a map of entries finds is one of them. The entries are inserted one by one, so
the induction is over any map to begin with. -/
theorem mem_of_get?_ofList {l : List (κ × α)} {key : κ} {value : α}
    (h : (ofList l).get? key = some value) : (key, value) ∈ l := by
  have hfold : ∀ m : SortedMap κ α, (l.foldl (fun m e => m.insert e.1 e.2) m).get? key =
      some value → (key, value) ∈ l ∨ m.get? key = some value := by
    clear h
    induction l with
    | nil => exact fun _ => .inr
    | cons head rest ih =>
      obtain ⟨k, v⟩ := head
      intro m hm
      rcases ih _ hm with hmem | hm
      · exact .inl (List.mem_cons_of_mem _ hmem)
      · by_cases hkey : key = k
        · obtain rfl := hkey
          rw [get?_insert_self] at hm
          obtain rfl := Option.some.inj hm
          exact .inl List.mem_cons_self
        · rw [get?_insert_of_ne m hkey] at hm
          exact .inr hm
  refine (hfold empty h).resolve_right fun hnone => ?_
  rw [get?_empty] at hnone
  cases hnone

/-- A lookup after the insertion of several entries. -/
theorem get?_foldl_insert {l : List (κ × α)} (h : l.Pairwise fun a b => compare a.1 b.1 = .lt)
    (start : SortedMap κ α) (key : κ) :
    (l.foldl (fun m e => m.insert e.1 e.2) start).get? key =
      (lookup key l).or (start.get? key) := by
  induction l generalizing start with
  | nil => rfl
  | cons head rest ih =>
    obtain ⟨k, v⟩ := head
    obtain ⟨hhead, hrest⟩ := List.pairwise_cons.1 h
    rw [List.foldl_cons, ih hrest, get?_insert, lookup]
    by_cases hkey : compare key k = .eq
    · obtain rfl := Std.LawfulEqOrd.eq_of_compare hkey
      rw [if_pos hkey, if_pos hkey, lookup_eq_none hhead]
      rfl
    · rw [if_neg hkey, if_neg hkey]

/-- **The entries of a map make it up again.** -/
theorem ofList_entries (m : SortedMap κ α) : ofList m.entries = m := by
  refine ext_get? fun key => ?_
  rw [ofList, get?_foldl_insert m.ascending, get?_empty, Option.or_none]
  rfl

/-- A key that is listed is found in the map of the list. -/
theorem exists_get?_ofList {l : List (κ × α)} {key : κ} (h : key ∈ l.map (·.1)) :
    ∃ value, (ofList l).get? key = some value := by
  have hfold : ∀ m : SortedMap κ α, key ∈ l.map (·.1) ∨ (∃ value, m.get? key = some value) →
      ∃ value, (l.foldl (fun m e => m.insert e.1 e.2) m).get? key = some value := by
    clear h
    induction l with
    | nil => exact fun _ h => h.resolve_left List.not_mem_nil
    | cons head rest ih =>
      obtain ⟨k, v⟩ := head
      intro m h
      rw [List.map_cons, List.mem_cons] at h
      refine ih (m.insert k v) ?_
      by_cases hkey : key = k
      · exact .inr ⟨v, hkey ▸ get?_insert_self m key v⟩
      · rw [get?_insert_of_ne m hkey]
        exact h.imp_left fun h => h.resolve_left hkey
  exact hfold empty (.inl h)

/-- A lookup in the map that gives every listed key the value of a function. -/
theorem get?_ofList_map [DecidableEq κ] (keys : List κ) (value : κ → α) (key : κ) :
    (ofList (keys.map fun k => (k, value k))).get? key =
      if key ∈ keys then some (value key) else none := by
  have hfold : ∀ m : SortedMap κ α,
      ((keys.map fun k => (k, value k)).foldl (fun m e => m.insert e.1 e.2) m).get? key =
        if key ∈ keys then some (value key) else m.get? key := by
    induction keys with
    | nil => exact fun _ => rfl
    | cons k rest ih =>
      intro m
      rw [List.map_cons, List.foldl_cons, ih]
      by_cases hrest : key ∈ rest
      · rw [if_pos hrest, if_pos (List.mem_cons_of_mem _ hrest)]
      · rw [if_neg hrest]
        by_cases hkey : key = k
        · obtain rfl := hkey
          rw [get?_insert_self, if_pos List.mem_cons_self]
        · rw [get?_insert_of_ne m hkey, if_neg (by simp [hkey, hrest])]
  exact hfold empty

/-- A lookup in the map of entries with distinct keys finds each of them. -/
theorem get?_ofList_of_nodup {l : List (κ × α)} (h : (l.map (·.1)).Nodup) {key : κ} {value : α} :
    (ofList l).get? key = some value ↔ (key, value) ∈ l := by
  have hfold : ∀ m : SortedMap κ α, (key, value) ∈ l ∨
      key ∉ l.map (·.1) ∧ m.get? key = some value →
        (l.foldl (fun m e => m.insert e.1 e.2) m).get? key = some value := by
    induction l with
    | nil => simp
    | cons head rest ih =>
      obtain ⟨k, v⟩ := head
      rw [List.map_cons, List.nodup_cons] at h
      rintro m (hmem | ⟨hkey, hm⟩) <;> rw [List.foldl_cons] <;> refine ih h.2 _ ?_
      · rcases List.mem_cons.1 hmem with heq | hmem
        · -- later entries have other keys, so this one decides
          obtain ⟨rfl, rfl⟩ := Prod.mk.inj heq
          exact .inr ⟨h.1, get?_insert_self m _ _⟩
        · exact .inl hmem
      · rw [List.map_cons, List.mem_cons, not_or] at hkey
        exact .inr ⟨hkey.2, (get?_insert_of_ne m hkey.1 v).trans hm⟩
  exact ⟨mem_of_get?_ofList, fun hmem => hfold empty (.inl hmem)⟩

end SortedMap
end Paging
