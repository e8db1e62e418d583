/-
# A sort leaves no two documents tied

The id is among the keys of every checked sort, wherever it is listed, and else it comes last. So
the order that storage gets is strict: only documents of one id can be tied (`Checked.strictById`).
Documents of different ids have one arrangement, in whatever order they are met, and the flipped
order arranges them in reverse (`Checked.sortRows_flip`). Main statement: `orderBy_strict_flip`.
-/
import Paging.Proofs.Sort

namespace Paging

/-- The laws of a comparison under which all documents stand in one order, documents of different
ids at different places. -/
structure StrictById (cmp : Document → Document → Ordering) : Prop
    extends Value.TotalPreorder cmp where
  apart : ∀ a b : Document, a.id ≠ b.id → cmp a b ≠ .eq
  strict : ∀ a b c : Document, cmp a b = .lt → cmp b c = .lt → cmp a c = .lt

namespace SortSpec

section

variable {c : Catalog} {s : SortSpec}

/-- **The order for storage is strict**, and so is the flipped one. -/
theorem Checked.strictById (hs : s.Checked c) (hc : c.WellFormed) (flip : Bool) :
    StrictById (compareBy (Document.row · c.idField) (s.orderBy c.idField flip)) where
  toTotalPreorder := .of_transCmp _
  apart := fun _ _ hne heq => hne (id_eq_of_compareRows (hs.exists_id_mem_orderBy hc flip) heq)
  strict := fun _ _ _ => Std.TransCmp.lt_trans

variable {docs : List Document}

/-- No two documents of different ids are tied. -/
theorem Checked.untied (hs : s.Checked c) (hc : c.WellFormed) (hids : (docs.map (·.id)).Nodup)
    (flip : Bool) :
    Untied (compareBy (Document.row · c.idField) (s.orderBy c.idField flip)) docs :=
  untied_of_pairwise_id (hs.exists_id_mem_orderBy hc flip) (List.pairwise_map.1 hids)

/-- **Sorting by the flipped order gives the reverse.** -/
theorem Checked.sortRows_flip (hs : s.Checked c) (hc : c.WellFormed)
    (hids : (docs.map (·.id)).Nodup) {given : List Document} (hgiven : given.Perm docs) :
    sortRows (Document.row · c.idField) (s.orderBy c.idField true) given =
      (sortRows (Document.row · c.idField) (s.orderBy c.idField false) docs).reverse :=
  (hs.untied hc hids false).mergeSort_opposite
    (fun _ _ => s.compareRows_orderBy_flip c.idField _ _) hgiven

end

/-- **The order of a sort is strict and its flip is the exact converse.** Take a registered catalog
and a sort that was checked against it, with the id listed anywhere or not at all. Documents are
read under the name of the id. The declared order and the flipped one are total and transitive, and
they tie no two documents of different ids; the one says of two documents what the other says of
them exchanged. So documents of different ids have one ascending arrangement, which is what sorting
finds, and sorting by the flipped order gives its reverse, in whatever order the documents are
given. -/
theorem orderBy_strict_flip {schema : Schema} {config : Config} {c : Catalog} {input : SortInput}
    {s : SortSpec} (hc : Catalog.register schema config = .ok c) (hs : parse c input = .ok s) :
    (∀ flip, StrictById (compareBy (Document.row · c.idField) (s.orderBy c.idField flip))) ∧
    (∀ a b : Document,
      compareRows (s.orderBy c.idField true) (a.row c.idField) (b.row c.idField) =
        compareRows (s.orderBy c.idField false) (b.row c.idField) (a.row c.idField)) ∧
    ∀ docs given : List Document, (docs.map (·.id)).Nodup → given.Perm docs →
      (sortRows (Document.row · c.idField) (s.orderBy c.idField false) docs).Perm docs ∧
      Ascending (compareBy (Document.row · c.idField) (s.orderBy c.idField false))
        (sortRows (Document.row · c.idField) (s.orderBy c.idField false) docs) ∧
      sortRows (Document.row · c.idField) (s.orderBy c.idField true) given =
        (sortRows (Document.row · c.idField) (s.orderBy c.idField false) docs).reverse := by
  have hwell := Catalog.wellFormed_of_register hc
  have hchecked := checked_of_parse hs
  refine ⟨hchecked.strictById hwell, fun a b => s.compareRows_orderBy_flip c.idField _ _, ?_⟩
  intro docs given hids hgiven
  refine ⟨List.mergeSort_perm docs _, ?_, hchecked.sortRows_flip hwell hids hgiven⟩
  exact (hchecked.untied hwell hids false).ascending_mergeSort

/-- Three people, two of one name and one without an age, sorted with the id between name and
age. -/
theorem orderBy_strict_flip_people :
    let s : SortSpec := ⟨[⟨"name", "_name", .desc, true⟩, ⟨"id", "id", .desc, false⟩,
      ⟨"age", "age", .asc, false⟩]⟩
    let person (id : Nat) (name : String) (age : Option Value) : Document :=
      ⟨.ofNat id, .ofList [("_name", some (.string name)), ("age", age)]⟩
    let ann := person 1 "ann" (some (.int 40))
    let other := person 2 "ann" none
    let bob := person 3 "bob" (some (.float ⟨0⟩))
    let read := (Document.row · "id")
    compareBy read (s.orderBy "id" false) ann other ≠ .eq ∧
    compareBy read (s.orderBy "id" false) bob ann = .lt ∧
    compareBy read (s.orderBy "id" true) ann other =
      compareBy read (s.orderBy "id" false) other ann ∧
    sortRows read (s.orderBy "id" true) [bob, ann, other] =
      (sortRows read (s.orderBy "id" false) [ann, other, bob]).reverse := by
  intro s person ann other bob read
  have hs : parse Catalog.peopleCatalog (.text "-name,-id,age") = .ok s := by decide +kernel
  obtain ⟨hstrict, hflip, hsorted⟩ := orderBy_strict_flip Catalog.register_people hs
  -- the id comes before the age, so it decides between the two of one name
  have hbefore : compareBy read (s.orderBy "id" false) bob other = .lt := by decide +kernel
  have hbehind : compareBy read (s.orderBy "id" false) other ann = .lt := by decide +kernel
  have hperm : [bob, ann, other].Perm [ann, other, bob] :=
    (List.perm_append_comm : ([bob] ++ [ann, other]).Perm ([ann, other] ++ [bob]))
  exact ⟨(hstrict false).apart ann other (by decide +kernel),
    (hstrict false).strict bob other ann hbefore hbehind, hflip ann other,
    (hsorted [ann, other, bob] [bob, ann, other] (by decide +kernel) hperm).2.2⟩

end SortSpec
end Paging
