/-
# Documents lie under their own ids

A store is changed by setting documents, and a document is set under its own id. So every document
lies under its own id (`Filed`), no two documents of a store have one id, and the documents of a
store are those that it finds under their ids. An order with the id among its names ties no two of
them. Indexes are names only, and asking for one touches no document.
-/
import Paging.Proofs.Order.Rows
import Paging.Proofs.SortedMap
import Paging.Store

namespace Paging
namespace Store

/-- A store finds the document that was just set. -/
theorem get?_set_self (s : Store) (d : Document) : (s.set d).get? d.id = some d :=
  SortedMap.get?_insert_self _ _ _

/-- Setting a document touches no other id. -/
theorem get?_set_of_ne (s : Store) {d : Document} {id : EntityId} (h : id ≠ d.id) :
    (s.set d).get? id = s.get? id :=
  SortedMap.get?_insert_of_ne _ h _

/-- What is found after a document was set is that document, or it was there before. -/
theorem of_get?_set {s : Store} {d e : Document} {id : EntityId}
    (h : (s.set d).get? id = some e) : (id = d.id ∧ e = d) ∨ s.get? id = some e := by
  by_cases hid : id = d.id
  · rw [hid, get?_set_self] at h
    exact .inl ⟨hid, (Option.some.inj h).symm⟩
  · rw [get?_set_of_ne s hid] at h
    exact .inr h

/-- After several documents were set, an id finds the last one of them that has it, or else what it
found before. -/
theorem get?_setAll_eq_or (s : Store) (ds : List Document) (id : EntityId) :
    (s.setAll ds).get? id = (ds.reverse.find? (·.id = id)).or (s.get? id) := by
  induction ds generalizing s with
  | nil => rfl
  | cons d rest ih =>
    rw [List.reverse_cons, List.find?_append, Option.or_assoc, List.find?_singleton]
    refine (ih (s.set d)).trans (congrArg _ ?_)
    by_cases hid : d.id = id
    · rw [if_pos (decide_eq_true hid), ← hid, get?_set_self, Option.some_or]
    · rw [if_neg (by simpa using hid), get?_set_of_ne s (Ne.symm hid), Option.none_or]

/-- Setting documents touches no id but theirs. -/
theorem get?_setAll (s : Store) {ds : List Document} {id : EntityId} (h : id ∉ ds.map (·.id)) :
    (s.setAll ds).get? id = s.get? id := by
  have hnone : ds.reverse.find? (·.id = id) = none := List.find?_eq_none.2 fun d hd hid =>
    h (List.mem_map.2 ⟨d, List.mem_reverse.1 hd, of_decide_eq_true hid⟩)
  rw [get?_setAll_eq_or, hnone, Option.none_or]

/-- What is found after several documents were set is one of them, or it was there before. -/
theorem of_get?_setAll {s : Store} {ds : List Document} {d : Document} {id : EntityId}
    (h : (s.setAll ds).get? id = some d) : (d.id = id ∧ d ∈ ds) ∨ s.get? id = some d := by
  rw [get?_setAll_eq_or, Option.or_eq_some_iff] at h
  obtain hfound | ⟨-, hbefore⟩ := h
  · have hid := List.find?_some hfound
    exact .inl ⟨of_decide_eq_true hid, List.mem_reverse.1 (List.mem_of_find?_eq_some hfound)⟩
  · exact .inr hbefore

/-- Setting documents touches nothing but the documents of a store. -/
theorem setAll_eq (s : Store) (ds : List Document) :
    s.setAll ds = { s with documents := (s.setAll ds).documents } := by
  induction ds generalizing s with
  | nil => rfl
  | cons d rest ih => exact ih (s.set d)

/-- Setting documents keeps the name for the id. -/
theorem idField_setAll (s : Store) (ds : List Document) : (s.setAll ds).idField = s.idField := by
  rw [setAll_eq]

/-- Every document of the store lies under its own id. -/
def Filed (s : Store) : Prop := ∀ id d, s.get? id = some d → d.id = id

/-- No document lies under a wrong id in an empty store. -/
theorem filed_empty (name idField : String) : (empty name idField).Filed :=
  fun _ _ h => absurd h (Option.some_ne_none _).symm

/-- An index touches neither the documents nor the name for the id. -/
theorem documents_addIndex (s : Store) (field : String) :
    (s.addIndex field).documents = s.documents ∧ (s.addIndex field).idField = s.idField := by
  unfold addIndex
  split <;> exact ⟨rfl, rfl⟩

/-- Indexes touch neither the documents nor the name for the id. -/
theorem documents_addIndexes (fields : List String) (s : Store) :
    (fields.foldl addIndex s).documents = s.documents ∧
      (fields.foldl addIndex s).idField = s.idField := by
  induction fields generalizing s with
  | nil => exact ⟨rfl, rfl⟩
  | cons field rest ih =>
    obtain ⟨hdocuments, hidField⟩ := s.documents_addIndex field
    obtain ⟨hdocuments', hidField'⟩ := ih (s.addIndex field)
    exact ⟨hdocuments'.trans hdocuments, hidField'.trans hidField⟩

namespace Filed

variable {s : Store}

/-- A document is set under its own id. -/
theorem set (hs : s.Filed) (d : Document) : (s.set d).Filed := by
  intro id e he
  rcases of_get?_set he with ⟨rfl, rfl⟩ | he
  · rfl
  · exact hs id e he

/-- So are several documents, one after another. -/
theorem setAll (hs : s.Filed) (ds : List Document) : (s.setAll ds).Filed := by
  induction ds generalizing s with
  | nil => exact hs
  | cons d rest ih => exact ih (hs.set d)

/-- The documents of a store are those that it finds under their ids. -/
theorem mem_values (hs : s.Filed) {d : Document} :
    d ∈ s.documents.values ↔ s.get? d.id = some d := by
  rw [SortedMap.mem_values]
  constructor
  · rintro ⟨id, h⟩
    obtain rfl := hs id d h
    exact h
  · exact fun h => ⟨d.id, h⟩

/-- No two documents of a store have one id. -/
theorem pairwise_id (hs : s.Filed) : s.documents.values.Pairwise fun d e => d.id ≠ e.id := by
  refine List.pairwise_map.2 (s.documents.ascending.imp_of_mem fun {a b} ha hb hlt heq => ?_)
  have hid := hs a.1 a.2 (SortedMap.mem_entries.1 ha)
  have hid' := hs b.1 b.2 (SortedMap.mem_entries.1 hb)
  rw [← hid, ← hid', heq, Std.ReflOrd.compare_self] at hlt
  cases hlt

/-- At most one document has an id, and it is the one that is found under it. -/
theorem perm_filter_id (hs : s.Filed) (id : EntityId) :
    (s.documents.values.filter (·.id = id)).Perm (s.get? id).toList := by
  have hnodup : s.documents.values.Nodup := hs.pairwise_id.imp fun hne => by
    rintro rfl
    exact hne rfl
  refine (List.perm_ext_iff_of_nodup (hnodup.filter _) (Option.toList_nodup _)).2 fun d => ?_
  rw [List.mem_filter, decide_eq_true_iff, Option.mem_toList]
  constructor
  · rintro ⟨hd, rfl⟩
    exact hs.mem_values.1 hd
  · intro hd
    obtain rfl := hs id d hd
    exact ⟨hs.mem_values.2 hd, rfl⟩

/-- With the id among the names no two documents of a store are tied. -/
theorem untied (hs : s.Filed) {idField : String} {order : OrderBy}
    (hid : ∃ item ∈ order, item.field = idField) :
    Untied (compareBy (Document.row · idField) order) s.documents.values :=
  untied_of_pairwise_id hid hs.pairwise_id

end Filed
end Store
end Paging
