/-
# Walking forward misses nothing

A query of at most `k` rows, asked again and again after the last cursor of the page before, gets
the rows of the unlimited query in runs of `k`: page number `i` has the rows from number `i * k` on
(`pagesFrom_eq`). The step is that the query after the last row of a page wants exactly the rows
behind it (`Remaining.drop`), and gets the first of them (`run_onward`). All this takes memory for
`k` rows, however few there are; without it the walk ends the program at its first page
(`forward_of_not_affords`).

What remains at a position is a list of rows (`Query.Remaining`): a page takes the first `k` of them
away and moves the position to the last of these. What pages in runs of `k` are is said without
saying how they were fetched (`LaidOut`): their number, that none is empty and all but the last are
full, and that together they have the rows.
-/
import Paging.Proofs.Query
import Paging.Walk

namespace Paging

namespace Query

variable {q : Query} {s : Store} {position : Option Document} {rest : List Document}

/-- The query for the rows after a position, or for the first rows. -/
def onward (q : Query) : Option Cursor → Query
  | none => q
  | some cursor => q.bounded .after cursor

/-- The rows that a query wants of a store behind a position, in its order. -/
structure Remaining (q : Query) (s : Store) (position : Option Document)
    (rest : List Document) : Prop where
  ascending : Ascending q.order rest
  mem : ∀ d, d ∈ rest ↔ (d ∈ s.documents.values ∧ q.Wants d) ∧
    ∀ a ∈ position, q.order a d = .lt

/-- At the first position all rows remain. -/
theorem remaining_none {all : List Document} (hall : Ascending q.order all)
    (hmem : ∀ d, d ∈ all ↔ d ∈ s.documents.values ∧ q.Wants d) : q.Remaining s none all := by
  refine ⟨hall, fun d => ?_⟩
  rw [hmem]
  exact (and_iff_left fun _ ha => absurd ha (Option.not_mem_none _)).symm

/-- At every position some rows remain, or none. -/
theorem Regular.exists_remaining (hq : q.Regular) (hs : s.Consistent q.catalog)
    (position : Option Document) : ∃ rest, q.Remaining s position rest := by
  obtain ⟨all, hall, hmem⟩ := hq.exists_ascending hs
  refine ⟨all.filter fun d => position.all fun a => q.order a d == .lt,
    hall.sublist List.filter_sublist, fun d => ?_⟩
  rw [List.mem_filter, hmem, Option.all_eq_true]
  simp only [beq_iff_eq, Option.mem_def]

/-- The rows that remain are ascending, cut into a page and what follows it. -/
theorem Remaining.split (h : q.Remaining s position rest) (k : Nat) :
    Ascending q.order (rest.take k ++ rest.drop k) := by
  rw [List.take_append_drop]
  exact h.ascending

/-- Behind the last of the first `k` rows all but those remain. -/
theorem Remaining.drop (h : q.Remaining s position rest) {a : Document}
    (ha : (rest.take k).getLast? = some a) : q.Remaining s (some a) (rest.drop k) := by
  refine ⟨h.ascending.sublist (List.drop_sublist k rest), fun d => ?_⟩
  have hbehind := (h.split k).mem_append ha d
  have hlast : a ∈ rest := List.mem_of_mem_take (List.mem_of_getLast? ha)
  rw [hbehind, List.take_append_drop, h.mem]
  constructor
  · rintro ⟨⟨hd, -⟩, hlt⟩
    refine ⟨hd, ?_⟩
    rintro b ⟨⟩
    exact hlt
  · rintro ⟨hd, hlt⟩
    exact ⟨⟨hd, fun b hb => Std.TransCmp.lt_trans (((h.mem a).1 hlast).2 b hb) (hlt a rfl)⟩,
      hlt a rfl⟩

/-- A page without a last row is empty because no rows remain. -/
theorem eq_nil_of_getLast?_take {k : Nat} (hk : 0 < k) (h : (rest.take k).getLast? = none) : rest = [] := by
  rw [List.getLast?_eq_none_iff, List.take_eq_nil_iff] at h
  exact h.resolve_left hk.ne'

/-- A limit takes nothing away from what the parts were checked for. -/
theorem Regular.atMost (hq : q.Regular) (k : UInt64) : (q.atMost k).Regular :=
  ⟨hq.wellFormed, hq.idApart, hq.checked, hq.bounds⟩

/-- There is room for a limited query if there is for its limit. -/
theorem hasRoom_atMost {k : UInt64} (h : q.collection.memory.Affords k) : (q.atMost k).HasRoom := by
  rintro _ ⟨⟩
  exact h

/-- **The next page of a query without cursors**: the first of the rows that remain. The first page
is fetched without a cursor, a later one behind the cursor at the last row of the one before. -/
theorem Regular.run_onward (hq : q.Regular) (hs : s.Consistent q.catalog) (hbounds : q.bounds = [])
    (hposition : ∀ a ∈ position, Prepared q.catalog a) (hrest : q.Remaining s position rest)
    {k : UInt64} (hroom : q.collection.memory.Affords k) :
    ((q.atMost k).onward (position.map (Cursor.capture · q.catalog))).run s =
      .ok (q.pageOf (rest.take k.toNat)) := by
  have hatMost := hq.atMost k
  cases position with
  | none =>
    have hmem : ∀ d, d ∈ rest ↔ d ∈ s.documents.values ∧ (q.atMost k).Wants d := by
      intro d
      rw [hrest.mem, wants_atMost]
      exact and_iff_left fun _ ha => absurd ha (Option.not_mem_none _)
    have hlimited : (q.atMost k).limited rest = rest.take k.toNat := if_pos (.inl hbounds)
    exact (hatMost.run_eq hs (hasRoom_atMost hroom) hrest.ascending hmem).trans
      (congrArg (fun rows => Except.ok (q.pageOf rows)) hlimited)
  | some a =>
    have ha := hposition a rfl
    have hmem : ∀ d, d ∈ rest ↔ d ∈ s.documents.values ∧
        ((q.atMost k).bounded .after (Cursor.capture a q.catalog)).Wants d := by
      intro d
      have hside := hq.onSide_capture ha .after d
      rw [hrest.mem, wants_bounded, wants_atMost, and_assoc]
      refine and_congr_right fun _ => and_congr_right fun _ => ?_
      constructor
      · exact fun hlt => hside.2 (hlt a rfl)
      · rintro hd b ⟨⟩
        exact hside.1 hd
    have hlimited : ((q.atMost k).bounded .after (Cursor.capture a q.catalog)).limited rest =
        rest.take k.toNat :=
      if_pos (.inr ⟨_, List.mem_append_right _ List.mem_cons_self, rfl⟩)
    exact ((hatMost.bounded .after ha).run_eq hs (hasRoom_atMost hroom) hrest.ascending hmem).trans
      (congrArg (fun rows => Except.ok (q.pageOf rows)) hlimited)

/-- **Without memory for its limit the next page ends the program**, wherever the query goes on. -/
theorem Regular.run_onward_of_not_affords (hq : q.Regular)
    (hposition : ∀ a ∈ position, Prepared q.catalog a) {k : UInt64}
    (hroom : ¬q.collection.memory.Affords k) (s : Store) :
    ((q.atMost k).onward (position.map (Cursor.capture · q.catalog))).run s =
      .error (.noRoom ⟨k⟩) := by
  cases position with
  | none => exact (hq.atMost k).run_of_not_affords rfl hroom s
  | some a => exact ((hq.atMost k).bounded .after (hposition a rfl)).run_of_not_affords rfl hroom s

end Query

namespace Walk

variable {q : Query} {s : Store} {k : Nat} {limit : UInt64}

/-- The number of pages of at most `k` rows that some rows make. -/
def pageCount (k rows : Nat) : Nat :=
  (rows + k - 1) / k

/-- The rows of a page, the first page being number 0. -/
def rowsOfPage {α : Type} (k : Nat) (rows : List α) (i : Nat) : List α :=
  (rows.drop (i * k)).take k

/-- Pages that have some rows, in runs of `k` and none of them empty. -/
structure LaidOut (k : Nat) (rows : List Document) (pages : List Page) : Prop where
  count : pages.length = pageCount k rows.length
  nonempty : ∀ page ∈ pages, page.data ≠ []
  full : ∀ i page, pages[i]? = some page → i + 1 < pages.length → page.data.length = k
  together : pages.flatMap (·.data) = rows

/-- There is a page as long as there are rows left for it. -/
theorem lt_pageCount_iff (hk : 0 < k) (rows i : Nat) : i < pageCount k rows ↔ i * k < rows := by
  unfold pageCount
  rw [Nat.lt_iff_add_one_le, Nat.le_div_iff_mul_le hk, Nat.add_mul]
  omega

/-- The first page takes `k` rows away. -/
theorem pageCount_eq_succ (hk : 0 < k) {rows : Nat} (hrows : 0 < rows) :
    pageCount k rows = pageCount k (rows - k) + 1 := by
  have hsum : rows + k - 1 = rows - 1 + k := by omega
  unfold pageCount
  rw [hsum, Nat.add_div_right _ hk]
  rcases Nat.lt_or_ge rows k with hlt | hge
  · rw [Nat.div_eq_of_lt (by omega), Nat.div_eq_of_lt (by omega)]
  · have hrest : rows - k + k - 1 = rows - 1 := by omega
    rw [hrest]

/-- The later pages are pages of the rows behind the first one. -/
theorem rowsOfPage_succ {α : Type} (k : Nat) (rows : List α) (i : Nat) :
    rowsOfPage k rows (i + 1) = rowsOfPage k (rows.drop k) i := by
  unfold rowsOfPage
  rw [List.drop_drop, Nat.add_mul, Nat.one_mul, Nat.add_comm]

/-- **The pages put together are the rows.** -/
theorem flatMap_rowsOfPage {α : Type} (k : Nat) (rows : List α) (n : Nat) :
    (List.range n).flatMap (rowsOfPage k rows) = rows.take (n * k) := by
  induction n with
  | zero => simp
  | succ n ih =>
    rw [List.range_succ, List.flatMap_append, ih, List.flatMap_singleton, Nat.add_mul,
      Nat.one_mul, List.take_add]
    rfl

/-- A page and the pages of the rows behind it. -/
theorem pages_eq_cons (q : Query) (hk : 0 < k) {rest : List Document} (hpos : 0 < rest.length) :
    (List.range (pageCount k rest.length)).map (fun i => q.pageOf (rowsOfPage k rest i)) =
      q.pageOf (rest.take k) :: (List.range (pageCount k (rest.drop k).length)).map fun i =>
        q.pageOf (rowsOfPage k (rest.drop k) i) := by
  rw [List.length_drop, pageCount_eq_succ hk hpos, List.range_succ_eq_map, List.map_cons,
    List.map_map]
  refine congrArg₂ List.cons ?_ (List.map_congr_left fun i _ => ?_)
  · rw [rowsOfPage, Nat.zero_mul, List.drop_zero]
  · exact congrArg q.pageOf (rowsOfPage_succ k rest i)

/-- **The pages from a position on.** The induction is on the bound of the walk; behind a page there
are the rows after its last one. -/
theorem pagesFrom_eq (hq : q.Regular) (hs : s.Consistent q.catalog) (hbounds : q.bounds = [])
    (hlimit : 0 < limit.toNat) (hroom : q.collection.memory.Affords limit)
    {position : Option Document} (hposition : ∀ a ∈ position, Prepared q.catalog a)
    {rest : List Document} (hrest : q.Remaining s position rest) (most : Nat) :
    pagesFrom (q.atMost limit) .cursor .after s most
        ((q.atMost limit).onward (position.map (Cursor.capture · q.catalog))) =
      .ok (((List.range (pageCount limit.toNat rest.length)).map fun i =>
        q.pageOf (rowsOfPage limit.toNat rest i)).take most) := by
  induction most generalizing position rest with
  | zero => rfl
  | succ most ih =>
    have hrun := hq.run_onward hs hbounds hposition hrest hroom
    cases hlast : (rest.take limit.toNat).getLast? with
    | none =>
      -- no row remains: the page is empty and the walk ends
      obtain rfl := Query.eq_nil_of_getLast?_take hlimit hlast
      have hcount : pageCount limit.toNat ([] : List Document).length = 0 :=
        Nat.div_eq_of_lt (by simpa using hlimit)
      rw [hcount]
      refine bind_eq_ok.2 ⟨_, hrun, ?_⟩
      rw [List.take_nil]
      rfl
    | some a =>
      -- the walk goes on behind the last row of the page
      have ha : a ∈ rest := List.mem_of_mem_take (List.mem_of_getLast? hlast)
      have hprepared : ∀ b ∈ some a, Prepared q.catalog b := by
        rintro b ⟨⟩
        exact hs.prepared ((hrest.mem a).1 ha).1.1
      have hmore := ih hprepared (hrest.drop hlast)
      rw [pages_eq_cons q hlimit (List.length_pos_of_mem ha), List.take_succ_cons]
      refine bind_eq_ok.2 ⟨_, hrun, ?_⟩
      have honward : onward .after (q.pageOf (rest.take limit.toNat)) =
          some (Cursor.capture a q.catalog) := congrArg (Option.map _) hlast
      rw [honward]
      exact bind_eq_ok.2 ⟨_, rfl, bind_eq_ok.2 ⟨_, hmore, rfl⟩⟩

/-- **Without memory for a page a walk ends the program** at the first one. -/
theorem forward_of_not_affords (hq : q.Regular) (hroom : ¬q.collection.memory.Affords limit)
    (s : Store) (most : Nat) :
    forward (q.atMost limit) .cursor s (most + 1) = .error (.noRoom ⟨limit⟩) :=
  bind_eq_error.2 (.inl ((hq.atMost limit).run_of_not_affords rfl hroom s))

/-- All pages are full but the last one that has rows at all, and those behind it are empty. -/
theorem length_rowsOfPage {α : Type} (k : Nat) (rows : List α) (i : Nat) :
    (rowsOfPage k rows i).length = min k (rows.length - i * k) := by
  rw [rowsOfPage, List.length_take, List.length_drop]

/-- The pages of a walk lay the rows out. -/
theorem laidOut_pages (q : Query) (hk : 0 < k) (all : List Document) :
    LaidOut k (all.map q.projected) ((List.range (pageCount k all.length)).map fun i =>
      q.pageOf (rowsOfPage k all i)) := by
  refine ⟨?_, ?_, ?_, ?_⟩
  · rw [List.length_map, List.length_range, List.length_map]
  · intro page hpage
    obtain ⟨i, hi, rfl⟩ := List.mem_map.1 hpage
    have hlt := (lt_pageCount_iff hk all.length i).1 (List.mem_range.1 hi)
    refine List.ne_nil_of_length_pos ?_
    rw [Query.pageOf, List.length_map, length_rowsOfPage]
    omega
  · intro i page hpage hnext
    rw [List.length_map, List.length_range, lt_pageCount_iff hk, Nat.add_mul] at hnext
    have hi : i < pageCount k all.length := (lt_pageCount_iff hk _ _).2 (by omega)
    rw [List.getElem?_map, List.getElem?_range hi] at hpage
    obtain rfl := Option.some.inj hpage
    show ((rowsOfPage k all i).map q.projected).length = k
    rw [List.length_map, length_rowsOfPage]
    omega
  · -- the pages together are the first rows, as many as fit on them, and these are all
    have hall : all.length ≤ pageCount k all.length * k := by
      by_contra! hlt
      exact Nat.lt_irrefl _ ((lt_pageCount_iff hk _ _).2 hlt)
    rw [List.flatMap_map]
    calc
      _ = ((List.range (pageCount k all.length)).flatMap (rowsOfPage k all)).map q.projected :=
        List.map_flatMap.symm
      _ = all.map q.projected := by rw [flatMap_rowsOfPage, List.take_of_length_le hall]

/-- **Walking forward misses nothing.** Take a registered catalog in which neither the freshness
field nor a shadow has the name of the id, a store that was reached through the collection, and a
query of the collection without cursors and without a limit. Walked in pages of at most `limit`
rows, for which there is memory, it comes to its end by itself after as many pages as its rows make:
no page is empty, all but the last have `limit` rows, and together they have the rows of the query,
no document twice. Without that memory there is no first page, whatever rows there are. -/
theorem forward_complete {schema : Schema} {config : Config} {c : Collection}
    (hc : Catalog.register schema config = .ok c.catalog) (hid : c.catalog.IdApart)
    (hs : c.Reachable s) (hq : q.Built c) (hbounds : q.bounds = []) (hwhole : q.limit = none)
    (hlimit : 0 < limit) :
    ∃ whole : Page, q.run s = .ok whole ∧ (whole.data.map (·.id)).Nodup ∧
      (c.memory.Affords limit → ∃ pages : List Page,
        (∀ most, forward (q.atMost limit) .cursor s most = .ok (pages.take most)) ∧
        LaidOut limit.toNat whole.data pages) ∧
      (¬c.memory.Affords limit → ∀ most,
        forward (q.atMost limit) .cursor s (most + 1) = .error (.noRoom ⟨limit⟩)) := by
  have hwell := Catalog.wellFormed_of_register hc
  obtain ⟨rfl, hregular⟩ := hq.regular hwell hid
  have hstore := hs.consistent hwell
  obtain ⟨all, hall, hmem⟩ := hregular.exists_ascending hstore
  have hlimited : q.limited all = all := by
    unfold Query.limited
    rw [hwhole]
  -- the unlimited query and the walk are both computed from one arrangement of the rows
  have hrun := hregular.run_eq hstore (Query.hasRoom_of_limit hwhole) hall hmem
  rw [hlimited] at hrun
  have hpos : 0 < limit.toNat := UInt64.lt_iff_toNat_lt.1 hlimit
  refine ⟨_, hrun, ?_, fun hroom => ⟨_, fun most => ?_, laidOut_pages q hpos all⟩,
    fun hroom => forward_of_not_affords hregular hroom s⟩
  · -- rows are found under their ids, so that two of one id are the same row
    have hids : (q.pageOf all).data.map (·.id) = all.map (·.id) := by
      rw [Query.pageOf, List.map_map]
      refine List.map_congr_left fun d _ => ?_
      exact q.projected_id d
    rw [hids]
    refine List.Nodup.map_on (fun d hd e he heq => ?_) hall.untied.nodup
    have hfound := hstore.mem_values.1 ((hmem d).1 hd).1
    rw [heq, hstore.mem_values.1 ((hmem e).1 he).1] at hfound
    exact (Option.some.inj hfound).symm
  · have hposition : ∀ a ∈ (none : Option Document), Prepared q.catalog a :=
      fun _ ha => absurd ha (Option.not_mem_none _)
    exact pagesFrom_eq hregular hstore hbounds hpos hroom hposition
      (Query.remaining_none hall hmem) most

/-- Three people by name in descending order, two to a page: a full page and a short one. -/
theorem forward_complete_people :
    let c := Collection.people
    let s := Collection.storeOf [Collection.person 1 "ann", Collection.person 2 "bob",
      Collection.person 3 "cid"]
    let q : Query := ⟨c, .all, ⟨[⟨"name", "_name", .desc, true⟩]⟩, none, none, [], none, none⟩
    ∃ (whole : Page) (pages : List Page), q.run s = .ok whole ∧
      (whole.data.map (·.id)).Nodup ∧
      (∀ most, forward (q.atMost 2) .cursor s most = .ok (pages.take most)) ∧
      LaidOut 2 whole.data pages ∧ pages.map (·.data.length) = [2, 1] := by
  intro c s q
  obtain ⟨whole, hwhole, hids, hpages, -⟩ := forward_complete Catalog.register_people
    (by decide +kernel) (Collection.reachable_storeOf _) (Query.built_byName .desc) rfl rfl
    (by decide : (0 : UInt64) < 2)
  obtain ⟨pages, hforward, hlaidOut⟩ := hpages (by decide +kernel)
  have hrows : whole.data.length = 3 := by
    have hrun : q.run s = .ok (q.pageOf (sortRows s.read (q.sort.orderBy "id" false)
      (s.matching .always))) := rfl
    obtain rfl := Except.ok.inj (hwhole.symm.trans hrun)
    rw [Query.pageOf, List.length_map, sortRows, List.length_mergeSort]
    decide +kernel
  -- three rows make two pages, of which the first is full
  have hcount : pages.length = 2 := by rw [hlaidOut.count, hrows]; rfl
  obtain ⟨first, second, rfl⟩ := List.length_eq_two.1 hcount
  have hfirst : first.data.length = 2 := hlaidOut.full 0 first rfl Nat.one_lt_two
  have hboth := congrArg List.length hlaidOut.together
  have hsecond : second.data.length = 1 := by
    simp only [List.flatMap_cons, List.flatMap_nil, List.append_nil, List.length_append] at hboth
    omega
  refine ⟨whole, _, hwhole, hids, hforward, hlaidOut, ?_⟩
  rw [List.map_cons, List.map_singleton, hfirst, hsecond]

/-- **A walk in pages of the greatest number of rows but one ends the program** at its first page,
on any machine. The one person that there is would make up a page. -/
theorem forward_ends_program :
    let s := (Collection.Write.save .epoch Collection.ann).apply Collection.people
      ((Engine.empty.openStore Catalog.peopleCatalog).store Catalog.peopleCatalog)
    let q : Query := ⟨Collection.people, .all, .unsorted, none, none, [], none, none⟩
    (q.run s).map (·.data) = .ok [Collection.annStored] ∧
    ∀ memory : Memory, let c : Collection := ⟨Catalog.peopleCatalog, [], memory⟩
      let q : Query := ⟨c, .all, .unsorted, none, none, [], none, none⟩
      c.Reachable s ∧ q.Built c ∧ forward (q.atMost 18446744073709551614) .cursor s 2 =
        .error (.noRoom ⟨18446744073709551614⟩) := by
  intro s q
  refine ⟨by decide +kernel, fun memory => ?_⟩
  intro c q
  have hfind : c.find .all = .ok q := rfl
  have hbuilt : q.Built c := .find hfind
  have hopened : c.Reachable ((Engine.empty.openStore c.catalog).store c.catalog) := .opened
  have hreachable : c.Reachable s := hopened.written (.save .epoch Collection.ann)
  exact ⟨hreachable, hbuilt,
    forward_of_not_affords hbuilt.regular_people memory.not_affords_greatest s 1⟩

end Walk
end Paging
