/-
# What a store answers

The documents that a selection asks for have one ascending arrangement, because its order has the
id among its names. The answer of the store is that arrangement, or as many documents of its
beginning as are asked for, if there is memory for so many: whether it sorts all of them or keeps
the best in a heap makes no difference (`fetch_eq`).
-/
import Paging.Proofs.Collection.Reachable

namespace Paging

/-- The fields come off in either direction. -/
theorem reverse_projectRows (fields : Option (List String)) (rows : List Document) :
    (projectRows fields rows).reverse = projectRows fields rows.reverse := by
  cases fields with
  | none => rfl
  | some names => exact List.map_reverse.symm

/-- Rows that are related stay so with the same fields, if documents do. -/
theorem forall₂_projectRows {R : Document → Document → Prop}
    (hR : ∀ d e, R d e → ∀ names, R (d.project names) (e.project names))
    {rows others : List Document} (h : List.Forall₂ R rows others)
    (fields : Option (List String)) :
    List.Forall₂ R (projectRows fields rows) (projectRows fields others) := by
  cases fields with
  | none => exact h
  | some names =>
    exact List.forall₂_map_left_iff.2 (List.forall₂_map_right_iff.2
      (h.imp fun d e hde => hR d e hde names))

/-- The order of documents that are read under the name of the id. -/
abbrev compareDocuments (idField : String) (order : OrderBy) : Document → Document → Ordering :=
  compareBy (Document.row · idField) order

namespace Store

variable {c : Catalog} {s : Store} {order : OrderBy} {memory : Memory} {k : UInt64}
  {selection : Selection}

/-- A limited answer is made of the first rows, if they are found. -/
theorem fetch_of_limit (hlimit : selection.limit = some k) : s.fetch memory selection =
    (topKRows memory s.read selection.orderBy k (s.matching selection.predicate)).map
      (projectRows selection.fields) := by
  unfold fetch
  rw [hlimit]
  rfl

/-- **Without memory for the rows there is no answer**, whatever documents there are. -/
theorem fetch_of_not_affords (h : ¬memory.Affords k) (hlimit : selection.limit = some k) :
    s.fetch memory selection = .error ⟨k⟩ := by
  rw [fetch_of_limit hlimit, topKRows, topK_of_not_affords h]
  rfl

/-- The documents that satisfy a predicate have an ascending arrangement. -/
theorem Consistent.exists_ascending (hs : s.Consistent c)
    (hid : ∃ item ∈ order, item.field = c.idField) (predicate : Predicate) :
    ∃ all, Ascending (compareDocuments c.idField order) all ∧
      ∀ d, d ∈ all ↔ d ∈ s.documents.values ∧ predicate.eval (d.row c.idField) := by
  have huntied : Untied (compareDocuments c.idField order) (s.documents.values.filter fun d =>
      predicate.eval (d.row c.idField)) := (hs.isFiled.untied hid).sublist List.filter_sublist
  refine ⟨_, huntied.ascending_mergeSort, fun d => ?_⟩
  rw [List.mem_mergeSort, List.mem_filter]

/-- **What a store answers**, with memory for it: the ascending arrangement of the documents that
satisfy the predicate, or its beginning. -/
theorem Consistent.fetch_eq (hs : s.Consistent c)
    (hid : ∃ item ∈ order, item.field = c.idField) {predicate : Predicate} {all : List Document}
    (hall : Ascending (compareDocuments c.idField order) all)
    (hmem : ∀ d, d ∈ all ↔ d ∈ s.documents.values ∧ predicate.eval (d.row c.idField))
    {limit : Option UInt64} (hroom : ∀ k ∈ limit, memory.Affords k)
    (fields : Option (List String)) : s.fetch memory ⟨predicate, order, limit, fields⟩ =
      .ok (projectRows fields (limitRows limit all)) := by
  have hread : s.read = (Document.row · c.idField) := by
    funext d
    unfold read
    rw [hs.idField]
  -- with the id among the items no two documents tie, so there is but one ascending arrangement
  have huntied : Untied (compareDocuments c.idField order) (s.matching predicate) :=
    (hs.isFiled.untied hid).sublist List.filter_sublist
  have hperm : (s.matching predicate).Perm all := by
    refine (List.perm_ext_iff_of_nodup huntied.nodup hall.untied.nodup).2 fun d => ?_
    rw [hmem, matching, filterRows, List.mem_filter, hread]
  have hsort : sortRows s.read order (s.matching predicate) = all := by
    rw [hread]
    exact mergeSort_eq_of_perm hall hperm
  have huntied' : Untied (compareBy s.read order) (s.matching predicate) := by
    rw [hread]
    exact huntied
  cases limit with
  | none => exact congrArg (fun rows => Except.ok (projectRows fields rows)) hsort
  -- the best rows of a heap are the first ones of that arrangement
  | some k =>
    have hrows := topKRows_eq_take huntied' (hroom k rfl)
    rw [hsort] at hrows
    rw [fetch_of_limit rfl, hrows]
    rfl

end Store
end Paging
