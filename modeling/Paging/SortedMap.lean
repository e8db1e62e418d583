/-
# Finite maps in key order

A map is the list of its entries in strictly ascending key order, so two maps with the same
lookups are the same map (`ext_get?`) and the order in which entries are met is the order of the
keys. The fields of a document and the rows of a store are such maps. Main statements:
`get?_insert` and `get?_erase`, what a lookup finds after a change.
-/

namespace Paging

/-- A finite map, as its entries in ascending key order. -/
structure SortedMap (κ α : Type) [Ord κ] where
  entries : List (κ × α)
  ascending : entries.Pairwise fun a b => compare a.1 b.1 = .lt

namespace SortedMap

variable {κ α : Type} [Ord κ]

instance [DecidableEq κ] [DecidableEq α] : DecidableEq (SortedMap κ α) := fun a b =>
  if h : a.entries = b.entries then .isTrue (by cases a; cases b; simp_all)
  else .isFalse (by rintro rfl; exact h rfl)

instance [Repr κ] [Repr α] : Repr (SortedMap κ α) := ⟨fun m n => reprPrec m.entries n⟩

/-- The map without entries. -/
def empty : SortedMap κ α := ⟨[], .nil⟩

instance : Inhabited (SortedMap κ α) := ⟨empty⟩

/-- The value under a key in a list of entries. -/
def lookup (key : κ) : List (κ × α) → Option α
  | [] => none
  | (k, v) :: rest => if compare key k = .eq then some v else lookup key rest

/-- The value under a key. -/
def get? (m : SortedMap κ α) (key : κ) : Option α :=
  lookup key m.entries

/-- Whether a key has a value. -/
def contains (m : SortedMap κ α) (key : κ) : Bool :=
  (m.get? key).isSome

/-- Sorted entries with one more, which replaces an entry of the same key. -/
def insertEntry (key : κ) (value : α) : List (κ × α) → List (κ × α)
  | [] => [(key, value)]
  | (k, v) :: rest =>
    match compare key k with
    | .lt => (key, value) :: (k, v) :: rest
    | .eq => (key, value) :: rest
    | .gt => (k, v) :: insertEntry key value rest

/-- Inserting brings in no entry but the new one. -/
theorem mem_insertEntry {key : κ} {value : α} {e : κ × α} {l : List (κ × α)}
    (h : e ∈ insertEntry key value l) : e = (key, value) ∨ e ∈ l := by
  induction l with
  | nil => simpa [insertEntry] using h
  | cons head rest ih =>
    obtain ⟨k, v⟩ := head
    rw [insertEntry] at h
    split at h
    · simpa using h
    · simp only [List.mem_cons] at h ⊢
      exact h.imp_right .inr
    · simp only [List.mem_cons] at h ⊢
      rcases h with rfl | h
      · exact .inr (.inl rfl)
      · exact (ih h).imp_right .inr

variable [Std.TransOrd κ]

/-- Inserting keeps the keys ascending, which makes it an operation on maps. -/
theorem pairwise_insertEntry (key : κ) (value : α) {l : List (κ × α)}
    (h : l.Pairwise fun a b => compare a.1 b.1 = .lt) :
    (insertEntry key value l).Pairwise fun a b => compare a.1 b.1 = .lt := by
  induction l with
  | nil => simp [insertEntry]
  | cons head rest ih =>
    obtain ⟨k, v⟩ := head
    obtain ⟨hhead, hrest⟩ := List.pairwise_cons.1 h
    rw [insertEntry]
    split
    · next hlt =>
      refine List.pairwise_cons.2 ⟨fun e he => ?_, h⟩
      rcases List.mem_cons.1 he with rfl | he
      · exact hlt
      · exact Std.TransCmp.lt_trans hlt (hhead e he)
    · next heq =>
      exact List.pairwise_cons.2 ⟨fun e he => Std.TransCmp.lt_of_eq_of_lt heq (hhead e he), hrest⟩
    · next hgt =>
      refine List.pairwise_cons.2 ⟨fun e he => ?_, ih hrest⟩
      rcases mem_insertEntry he with rfl | he
      · exact Std.OrientedCmp.lt_of_gt hgt
      · exact hhead e he

/-- The map with a value under a key, in place of any value it had. -/
def insert (m : SortedMap κ α) (key : κ) (value : α) : SortedMap κ α :=
  ⟨insertEntry key value m.entries, pairwise_insertEntry key value m.ascending⟩

omit [Std.TransOrd κ] in
/-- The map of the entries whose key and value pass a test. -/
def filter (m : SortedMap κ α) (keep : κ → α → Bool) : SortedMap κ α :=
  ⟨m.entries.filter fun e => keep e.1 e.2, m.ascending.filter _⟩

omit [Std.TransOrd κ] in
/-- The map without a key. -/
def erase (m : SortedMap κ α) (key : κ) : SortedMap κ α :=
  m.filter fun k _ => compare key k != .eq

/-- The map of a list of entries, of which later ones replace earlier ones of the same key. -/
def ofList (entries : List (κ × α)) : SortedMap κ α :=
  entries.foldl (fun m e => m.insert e.1 e.2) empty

omit [Std.TransOrd κ] in
/-- The values in the order of their keys. -/
def values (m : SortedMap κ α) : List α :=
  m.entries.map (·.2)

omit [Std.TransOrd κ] in

/-- Nothing is found in the empty map. -/
@[simp] theorem get?_empty (key : κ) : (empty : SortedMap κ α).get? key = none := rfl

omit [Std.TransOrd κ] in

/-- A key before all others is not found. -/
theorem lookup_eq_none {key : κ} {l : List (κ × α)} (h : ∀ e ∈ l, compare key e.1 = .lt) :
    lookup key l = none := by
  induction l with
  | nil => rfl
  | cons head rest ih =>
    have hhead := h head (by simp)
    simp only [lookup, hhead]
    exact ih fun e he => h e (by simp [he])

/-- After inserting, the new value is found under its key and what was there under all others. The
new key comes before the first one, replaces it or goes on behind it. -/
theorem lookup_insertEntry (key k : κ) (value : α) {l : List (κ × α)} :
    lookup k (insertEntry key value l) =
      if compare k key = .eq then some value else lookup k l := by
  induction l with
  | nil => rfl
  | cons head rest ih =>
    obtain ⟨k', v⟩ := head
    rw [insertEntry]
    split
    · rfl
    · next heq =>
      simp only [lookup]
      by_cases h : compare k key = .eq
      · simp [h]
      · have h' : compare k k' ≠ .eq := fun e =>
          h (Std.TransCmp.eq_trans e (Std.OrientedCmp.eq_symm heq))
        simp [h, h']
    · next hgt =>
      simp only [lookup, ih]
      by_cases h : compare k key = .eq
      · have h' : compare k k' ≠ .eq := fun e => by
          have := Std.TransCmp.eq_trans (Std.OrientedCmp.eq_symm h) e
          rw [this] at hgt
          cases hgt
        simp [h, h']
      · simp [h]

/-- **A lookup after an insertion** finds the inserted value under its key and what was there under
every other key. -/
theorem get?_insert (m : SortedMap κ α) (key k : κ) (value : α) :
    (m.insert key value).get? k = if compare k key = .eq then some value else m.get? k :=
  lookup_insertEntry key k value

/-- **A lookup after an erasure** finds nothing under the erased key and what was there under every
other key. -/
theorem get?_erase (m : SortedMap κ α) (key k : κ) :
    (m.erase key).get? k = if compare key k = .eq then none else m.get? k := by
  obtain ⟨l, hl⟩ := m
  show lookup k (l.filter fun e => compare key e.1 != .eq) = if _ then _ else lookup k l
  clear hl
  induction l with
  | nil => simp [lookup]
  | cons head rest ih =>
    obtain ⟨k', v⟩ := head
    by_cases hk' : compare key k' = .eq
    · rw [List.filter_cons_of_neg (by simp [hk']), ih]
      by_cases h : compare key k = .eq
      · simp [h]
      · have h' : compare k k' ≠ .eq := fun e =>
          h (Std.TransCmp.eq_trans hk' (Std.OrientedCmp.eq_symm e))
        simp [h, h', lookup]
    · rw [List.filter_cons_of_pos (by simp [hk'])]
      simp only [lookup, ih]
      by_cases h : compare key k = .eq
      · have h' : compare k k' ≠ .eq := fun e => hk' (Std.TransCmp.eq_trans h e)
        simp [h, h']
      · simp [h]

/-- Ascending entries are determined by what is found in them, so that equality of maps is decided
key by key. -/
theorem eq_of_lookup_eq [Std.LawfulEqOrd κ] {l₁ l₂ : List (κ × α)}
    (h₁ : l₁.Pairwise fun a b => compare a.1 b.1 = .lt)
    (h₂ : l₂.Pairwise fun a b => compare a.1 b.1 = .lt)
    (h : ∀ key, lookup key l₁ = lookup key l₂) : l₁ = l₂ := by
  induction l₁ generalizing l₂ with
  | nil =>
    cases l₂ with
    | nil => rfl
    | cons e rest => simpa [lookup] using h e.1
  | cons e₁ rest₁ ih =>
    obtain ⟨k₁, v₁⟩ := e₁
    cases l₂ with
    | nil => simpa [lookup] using h k₁
    | cons e₂ rest₂ =>
      obtain ⟨k₂, v₂⟩ := e₂
      obtain ⟨hhead₁, hrest₁⟩ := List.pairwise_cons.1 h₁
      obtain ⟨hhead₂, hrest₂⟩ := List.pairwise_cons.1 h₂
      -- the lesser of two different first keys would be found on one side only
      have hkeys : k₁ = k₂ := by
        rcases hc : compare k₁ k₂ with _ | _ | _
        · have hnone : lookup k₁ ((k₂, v₂) :: rest₂) = none := lookup_eq_none fun e he => by
            rcases List.mem_cons.1 he with rfl | he
            · exact hc
            · exact Std.TransCmp.lt_trans hc (hhead₂ e he)
          have hk := h k₁
          rw [hnone] at hk
          simp [lookup] at hk
        · exact Std.LawfulEqOrd.eq_of_compare hc
        · have hnone : lookup k₂ ((k₁, v₁) :: rest₁) = none := lookup_eq_none fun e he => by
            rcases List.mem_cons.1 he with rfl | he
            · exact Std.OrientedCmp.lt_of_gt hc
            · exact Std.TransCmp.lt_trans (Std.OrientedCmp.lt_of_gt hc) (hhead₁ e he)
          have hk := h k₂
          rw [hnone] at hk
          simp [lookup] at hk
      subst hkeys
      have hvalues : v₁ = v₂ := by simpa [lookup] using h k₁
      subst hvalues
      congr 1
      -- the first key is found in neither rest, and other keys are not found at the front
      refine ih hrest₁ hrest₂ fun key => ?_
      by_cases hk : compare key k₁ = .eq
      · obtain rfl := Std.LawfulEqOrd.eq_of_compare hk
        rw [lookup_eq_none hhead₁, lookup_eq_none hhead₂]
      · simpa [lookup, hk] using h key

/-- **Maps with the same lookups are equal.** -/
theorem ext_get? [Std.LawfulEqOrd κ] {m₁ m₂ : SortedMap κ α}
    (h : ∀ key, m₁.get? key = m₂.get? key) :
    m₁ = m₂ := by
  obtain ⟨l₁, h₁⟩ := m₁
  obtain ⟨l₂, h₂⟩ := m₂
  obtain rfl := eq_of_lookup_eq h₁ h₂ h
  rfl

end SortedMap
end Paging
