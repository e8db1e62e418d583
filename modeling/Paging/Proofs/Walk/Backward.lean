/-
# Walking backward inverts walking forward

The query before a row wants exactly the rows in front of it, and of at most `k` it gets the last
ones (`run_before`). In front of the first row of page number `i + 1` stand the pages from number 0
to `i`, so the last `k` rows there are those of page number `i` (`run_before_page`), and the walk
backward from a page meets the pages before it, the nearest first (`pagesFrom_before`).

Such a query has one bound, an upper one, so it is reversed: the limit cuts its rows at the front.
The two walks meet the same pages because the rows in front of a page are whole pages, so it does
not matter from which end they are cut (`drop_take_eq_rowsOfPage`).
-/
import Paging.Proofs.Walk

namespace Paging

namespace Query

variable {q : Query} {s : Store}

/-- **The page before a row**: the last of the rows that stand in front of it. -/
theorem Regular.run_before (hq : q.Regular) (hs : s.Consistent q.catalog) (hbounds : q.bounds = [])
    {front rest : List Document} {a : Document} (hall : Ascending q.order (front ++ a :: rest))
    (hmem : ∀ d, d ∈ front ++ a :: rest ↔ d ∈ s.documents.values ∧ q.Wants d) {k : UInt64}
    (hroom : q.collection.memory.Affords k) :
    ((q.atMost k).bounded .before (Cursor.capture a q.catalog)).run s =
      .ok (q.pageOf (front.drop (front.length - k.toNat))) := by
  have ha : Prepared q.catalog a :=
    hs.prepared ((hmem a).1 (List.mem_append_right _ List.mem_cons_self)).1
  have hfront : ∀ d, d ∈ front ↔ d ∈ s.documents.values ∧
      ((q.atMost k).bounded .before (Cursor.capture a q.catalog)).Wants d := by
    intro d
    have hside := hq.onSide_capture ha .before d
    rw [hall.mem_before, hmem, wants_bounded, wants_atMost, and_assoc]
    exact and_congr_right fun _ => and_congr_right fun _ => hside.symm
  -- there is nothing but an upper bound, so the limit cuts the rows at the front
  have hlimited : ((q.atMost k).bounded .before (Cursor.capture a q.catalog)).limited front =
      front.drop (front.length - k.toNat) := by
    have hsides : ((q.atMost k).bounded .before (Cursor.capture a q.catalog)).bounds =
        [(.before, Cursor.capture a q.catalog)] := congrArg (· ++ _) hbounds
    refine if_neg ?_
    rw [hsides]
    simp
  have hrun := ((hq.atMost k).bounded .before ha).run_eq hs (hasRoom_atMost hroom)
    (hall.sublist (List.sublist_append_left _ _)) hfront
  exact hrun.trans (congrArg (fun rows => Except.ok (q.pageOf rows)) hlimited)

end Query

namespace Walk

variable {q : Query} {s : Store} {k : Nat} {limit : UInt64} {all : List Document}

/-- The page of no rows. -/
def emptyPage : Page := ⟨[], none, none, none, none⟩

/-- The last `k` rows in front of page number `i + 1` are those of page number `i`. -/
theorem drop_take_eq_rowsOfPage {α : Type} (k : Nat) (rows : List α) (i : Nat) :
    (rows.take ((i + 1) * k)).drop ((i + 1) * k - k) = rowsOfPage k rows i := by
  have hstart : (i + 1) * k - k = i * k := by rw [Nat.add_mul, Nat.one_mul, Nat.add_sub_cancel]
  have hcount : (i + 1) * k - i * k = k := by rw [Nat.add_mul, Nat.one_mul, Nat.add_sub_cancel_left]
  rw [hstart, List.drop_take, hcount]
  rfl

/-- The page in front of page number `i`. -/
def pageBefore (q : Query) (k : Nat) (all : List Document) : Nat → Page
  | 0 => emptyPage
  | i + 1 => q.pageOf (rowsOfPage k all i)

/-- **The page before the first row of a page** is the page in front of it. -/
theorem run_before_page (hq : q.Regular) (hs : s.Consistent q.catalog) (hbounds : q.bounds = [])
    (hlimit : 0 < limit.toNat) (hroom : q.collection.memory.Affords limit)
    (hall : Ascending q.order all)
    (hmem : ∀ d, d ∈ all ↔ d ∈ s.documents.values ∧ q.Wants d) {i : Nat}
    (hi : i < pageCount limit.toNat all.length) :
    ∃ cursor, (q.pageOf (rowsOfPage limit.toNat all i)).firstCursor = some cursor ∧
      ((q.atMost limit).bounded .before cursor).run s =
        .ok (pageBefore q limit.toNat all i) := by
  have hlt := (lt_pageCount_iff hlimit all.length i).1 hi
  -- the first row of the page parts all rows in two
  have hsplit : all.take (i * limit.toNat) ++ all[i * limit.toNat] ::
      all.drop (i * limit.toNat + 1) = all := by
    rw [← List.drop_eq_getElem_cons hlt, List.take_append_drop]
  have hhead : (rowsOfPage limit.toNat all i).head? = some all[i * limit.toNat] := by
    rw [rowsOfPage, List.head?_take, if_neg hlimit.ne', List.drop_eq_getElem_cons hlt]
    rfl
  refine ⟨_, congrArg (Option.map (Cursor.capture · q.catalog)) hhead, ?_⟩
  rw [← hsplit] at hall hmem
  rw [hq.run_before hs hbounds hall hmem hroom, List.length_take_of_le hlt.le]
  cases i with
  | zero =>
    rw [Nat.zero_mul, List.take_zero, List.drop_nil]
    rfl
  | succ j => rw [drop_take_eq_rowsOfPage, pageBefore]

/-- **The walk backward from a page** meets the pages before it, the nearest first. The induction
is on the bound of the walk; each step goes to the page in front. -/
theorem pagesFrom_before (hq : q.Regular) (hs : s.Consistent q.catalog) (hbounds : q.bounds = [])
    (hlimit : 0 < limit.toNat) (hroom : q.collection.memory.Affords limit)
    (hall : Ascending q.order all)
    (hmem : ∀ d, d ∈ all ↔ d ∈ s.documents.values ∧ q.Wants d) {i : Nat}
    (hi : i < pageCount limit.toNat all.length) {cursor : Cursor}
    (hcursor : (q.pageOf (rowsOfPage limit.toNat all i)).firstCursor = some cursor) (most : Nat) :
    pagesFrom (q.atMost limit) .cursor .before s most ((q.atMost limit).bounded .before cursor) =
      .ok (((List.range i).map fun j =>
        q.pageOf (rowsOfPage limit.toNat all j)).reverse.take most) := by
  induction most generalizing i cursor with
  | zero => rfl
  | succ most ih =>
    obtain ⟨cursor', hcursor', hrun⟩ := run_before_page hq hs hbounds hlimit hroom hall hmem hi
    obtain rfl := Option.some.inj (hcursor.symm.trans hcursor')
    refine bind_eq_ok.2 ⟨_, hrun, ?_⟩
    cases i with
    | zero => rfl
    | succ j =>
      have hj : j < pageCount limit.toNat all.length := Nat.lt_of_succ_lt hi
      obtain ⟨first, hfirst, -⟩ := run_before_page hq hs hbounds hlimit hroom hall hmem hj
      have honward : onward .before (pageBefore q limit.toNat all (j + 1)) = some first := hfirst
      rw [honward, List.range_succ, List.map_append, List.reverse_append]
      exact bind_eq_ok.2 ⟨_, rfl, bind_eq_ok.2 ⟨_, ih hj hfirst, rfl⟩⟩

/-- The pages that a walk forward meets are found under their numbers. -/
theorem pageOf_of_getElem? {i : Nat} {page : Page}
    (h : ((List.range (pageCount k all.length)).map fun j => q.pageOf (rowsOfPage k all j))[i]? =
      some page) : i < pageCount k all.length ∧ q.pageOf (rowsOfPage k all i) = page := by
  rw [List.getElem?_map] at h
  obtain ⟨j, hj, rfl⟩ := Option.map_eq_some_iff.1 h
  obtain ⟨hi, rfl⟩ := List.getElem?_eq_some_iff.1 hj
  rw [List.length_range] at hi
  exact ⟨hi, by rw [List.getElem_range]⟩

/-- **Walking backward inverts walking forward.** Take a registered catalog in which neither the
freshness field nor a shadow has the name of the id, a store that was reached through the
collection, and a query of the collection without cursors. If there is memory for `limit` rows, its
pages of at most so many are those that a walk forward meets, none of them empty. Asked for the rows
before the first cursor of the first page, the same query gets the empty page; before the first
cursor of any later page it gets just the page before that one. So a walk backward meets the pages
before a page, nearest first. If there is not, the walk forward meets no page to come back from. -/
theorem backward_inverts {schema : Schema} {config : Config} {c : Collection}
    (hc : Catalog.register schema config = .ok c.catalog) (hid : c.catalog.IdApart)
    (hs : c.Reachable s) (hq : q.Built c) (hbounds : q.bounds = []) (hlimit : 0 < limit) :
    (c.memory.Affords limit → ∃ pages : List Page,
      (∀ most, forward (q.atMost limit) .cursor s most = .ok (pages.take most)) ∧
      (∀ page ∈ pages, page.data ≠ []) ∧
      (∀ page, pages[0]? = some page → ∃ cursor, page.firstCursor = some cursor ∧
        ((q.atMost limit).bounded .before cursor).run s = .ok emptyPage) ∧
      (∀ i earlier later, pages[i]? = some earlier → pages[i + 1]? = some later →
        ∃ cursor, later.firstCursor = some cursor ∧
          ((q.atMost limit).bounded .before cursor).run s = .ok earlier) ∧
      ∀ i page, pages[i]? = some page → ∀ most,
        backward (q.atMost limit) .cursor s most (some page) =
          .ok ((pages.take i).reverse.take most)) ∧
    (¬c.memory.Affords limit → ∀ most,
      forward (q.atMost limit) .cursor s (most + 1) = .error (.noRoom ⟨limit⟩)) := by
  have hwell := Catalog.wellFormed_of_register hc
  obtain ⟨rfl, hregular⟩ := hq.regular hwell hid
  have hstore := hs.consistent hwell
  obtain ⟨all, hall, hmem⟩ := hregular.exists_ascending hstore
  have hpos : 0 < limit.toNat := UInt64.lt_iff_toNat_lt.1 hlimit
  have hposition : ∀ a ∈ (none : Option Document), Prepared q.catalog a :=
    fun _ ha => absurd ha (Option.not_mem_none _)
  refine ⟨fun hroom => ?_, fun hroom => forward_of_not_affords hregular hroom s⟩
  -- the pages are those of the forward walk; what remains is one fetch before each of them
  refine ⟨_, fun most => pagesFrom_eq hregular hstore hbounds hpos hroom hposition
    (Query.remaining_none hall hmem) most, (laidOut_pages q hpos all).nonempty, ?_, ?_, ?_⟩
  · intro page h
    obtain ⟨hi, rfl⟩ := pageOf_of_getElem? h
    exact run_before_page hregular hstore hbounds hpos hroom hall hmem hi
  · intro i earlier later hearlier hlater
    obtain ⟨-, rfl⟩ := pageOf_of_getElem? hearlier
    obtain ⟨hi, rfl⟩ := pageOf_of_getElem? hlater
    exact run_before_page hregular hstore hbounds hpos hroom hall hmem hi
  · intro i page h most
    obtain ⟨hi, rfl⟩ := pageOf_of_getElem? h
    obtain ⟨cursor, hcursor, -⟩ :=
      run_before_page hregular hstore hbounds hpos hroom hall hmem hi
    -- the pages before the one at `i` are the first `i` pages of all
    have htake : ((List.range (pageCount limit.toNat all.length)).map fun j =>
        q.pageOf (rowsOfPage limit.toNat all j)).take i =
          (List.range i).map fun j => q.pageOf (rowsOfPage limit.toNat all j) := by
      rw [← List.map_take, List.take_range, Nat.min_eq_left hi.le]
    rw [htake, backward, Option.bind_some, hcursor]
    exact bind_eq_ok.2 ⟨_, rfl,
      pagesFrom_before hregular hstore hbounds hpos hroom hall hmem hi hcursor most⟩

/-- The people by name in descending order, one to a page. -/
theorem backward_inverts_people :
    let c := Collection.people
    let s := Collection.storeOf [Collection.ann, Collection.person 2 "bob"]
    let q : Query := ⟨c, .all, ⟨[⟨"name", "_name", .desc, true⟩]⟩, none, none, [], none, none⟩
    ∃ pages : List Page,
      (∀ most, forward (q.atMost 1) .cursor s most = .ok (pages.take most)) ∧
      (∀ page ∈ pages, page.data ≠ []) ∧
      (∀ page, pages[0]? = some page → ∃ cursor, page.firstCursor = some cursor ∧
        ((q.atMost 1).bounded .before cursor).run s = .ok emptyPage) ∧
      (∀ i earlier later, pages[i]? = some earlier → pages[i + 1]? = some later →
        ∃ cursor, later.firstCursor = some cursor ∧
          ((q.atMost 1).bounded .before cursor).run s = .ok earlier) ∧
      ∀ i page, pages[i]? = some page → ∀ most,
        backward (q.atMost 1) .cursor s most (some page) =
          .ok ((pages.take i).reverse.take most) := by
  intro c s q
  exact (backward_inverts Catalog.register_people (by decide +kernel)
    (Collection.reachable_storeOf _) (Query.built_byName .desc) rfl
    (by decide : (0 : UInt64) < 1)).1 (by decide +kernel)

end Walk
end Paging
