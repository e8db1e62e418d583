/-
# What a query answers

A query is built step by step; its cursors are those of documents that were saved through its
collection, whatever has become of them since (`Query.Built`). Such a query wants the documents
that match its criteria, were stamped within its span of time and are strictly on the wanted side
of every cursor (`Query.Wants`). On a store that was written through the collection its rows are
the ascending arrangement of those documents, cut to the limit: at the end, or at the beginning
when there are only cursors to stay before (`Regular.run_eq`). It has a page exactly if there is
memory for its limit (`HasRoom`); nothing else can go wrong (`run_refines`).

The proof follows the query through the store. It compiles to a predicate that holds of a written
document exactly if the document is wanted (`Regular.selection_eq`); the store answers with the
arrangement or its beginning (`Consistent.fetch_eq`), from which a reversed query is turned around;
and taking fields off at the end changes neither cursors nor marks (`pageOf_stored`).
-/
import Paging.Proofs.Criteria
import Paging.Proofs.Page

namespace Paging

variable {q : Query}

namespace Query

/-- The queries of a collection, as they are built. Cursors are those of saved documents. -/
inductive Built (c : Collection) : Query → Prop
  | find {criteria : Criteria} {q : Query} (h : c.find criteria = .ok q) : Built c q
  | sortBy {q q' : Query} {input : SortInput} (hq : Built c q) (h : q.sortBy input = .ok q') :
      Built c q'
  | atMost {q : Query} (hq : Built c q) (n : UInt64) : Built c (q.atMost n)
  | select {q : Query} (hq : Built c q) (names : List String) : Built c (q.select names)
  | bounded {q : Query} (hq : Built c q) (side : Side) {now : Timestamp} {d d' : Document}
      {s s' : Store} (h : c.save now d s = .ok (d', s')) : Built c (q.bounded side (c.cursor d'))
  | stampedAfter {q : Query} (hq : Built c q) (t : Timestamp) : Built c (q.stampedAfter t)
  | stampedBefore {q : Query} (hq : Built c q) (t : Timestamp) : Built c (q.stampedBefore t)

/-- The order in which a query wants its rows: by the tuples of its sort. -/
def order (q : Query) (d e : Document) : Ordering :=
  compareTuples (q.sort.directions q.catalog.idField)
    (q.sort.rowTuple q.catalog.idField (d.row q.catalog.idField))
    (q.sort.rowTuple q.catalog.idField (e.row q.catalog.idField))

/-- What a query wants of a document. -/
structure Wants (q : Query) (d : Document) : Prop where
  matches_criteria : q.criteria.Matches q.catalog.idField d
  newer : ∀ t ∈ q.newerThan, ∃ stamp,
    d.value q.catalog.freshnessField = some (.timestamp stamp) ∧ t.compare stamp = .lt
  older : ∀ t ∈ q.olderThan, ∃ stamp,
    d.value q.catalog.freshnessField = some (.timestamp stamp) ∧ stamp.compare t = .lt
  on_side : ∀ b ∈ q.bounds,
    q.sort.OnSide q.catalog.idField b.1 b.2 (d.row q.catalog.idField)

/-- The rows that a query keeps of all that it wants: the last ones when there are only cursors to
stay before, and else the first ones. -/
def limited (q : Query) (all : List Document) : List Document :=
  match q.limit with
  | none => all
  | some k =>
    if q.bounds = [] ∨ ∃ b ∈ q.bounds, b.1 = .after then all.take k.toNat
    else all.drop (all.length - k.toNat)

/-- There is memory for as many rows as a query asks for. -/
def HasRoom (q : Query) : Prop :=
  ∀ k ∈ q.limit, q.collection.memory.Affords k

instance (q : Query) : Decidable q.HasRoom :=
  decidable_of_iff (q.limit.all fun k => decide (q.collection.memory.Affords k)) <| by
    simp only [HasRoom, Option.all_eq_true, decide_eq_true_iff, Option.mem_def]

/-- A limit does not change what is wanted. -/
theorem wants_atMost (q : Query) (k : UInt64) (d : Document) : (q.atMost k).Wants d ↔ q.Wants d :=
  ⟨fun ⟨h₁, h₂, h₃, h₄⟩ => ⟨h₁, h₂, h₃, h₄⟩, fun ⟨h₁, h₂, h₃, h₄⟩ => ⟨h₁, h₂, h₃, h₄⟩⟩

/-- One more cursor narrows what is wanted to its side. -/
theorem wants_bounded (q : Query) (side : Side) (cursor : Cursor) (d : Document) :
    (q.bounded side cursor).Wants d ↔ q.Wants d ∧
      q.sort.OnSide q.catalog.idField side cursor (d.row q.catalog.idField) := by
  constructor
  · rintro ⟨hcriteria, hnewer, holder, hsides⟩
    exact ⟨⟨hcriteria, hnewer, holder, fun b hb => hsides b (List.mem_append_left _ hb)⟩,
      hsides _ (List.mem_append_right _ List.mem_cons_self)⟩
  · rintro ⟨⟨hcriteria, hnewer, holder, hsides⟩, hside⟩
    refine ⟨hcriteria, hnewer, holder, fun b hb => ?_⟩
    rcases List.mem_append.1 hb with hb | hb
    · exact hsides b hb
    · obtain rfl := List.mem_singleton.1 hb
      exact hside

/-- What the parts of a query were checked for. -/
structure Regular (q : Query) : Prop where
  wellFormed : q.catalog.WellFormed
  idApart : q.catalog.IdApart
  checked : q.sort.Checked q.catalog
  bounds : ∀ b ∈ q.bounds, ∃ d, Prepared q.catalog d ∧ b.2 = Cursor.capture d q.catalog

/-- The order of a query's documents, as the order on rows that stores sort by. -/
theorem order_eq (q : Query) :
    q.order = compareDocuments q.catalog.idField (q.sort.orderBy q.catalog.idField false) := by
  funext d e
  exact (q.sort.compareRows_orderBy q.catalog.idField _ _).symm

instance : Std.TransCmp q.order := by
  rw [order_eq]
  infer_instance

/-- What building settles, step by step: the collection, the keys of the sort and the cursors. -/
theorem Built.settled {c : Collection} (hc : c.catalog.WellFormed) (h : q.Built c) :
    q.collection = c ∧ q.sort.Checked c.catalog ∧
      ∀ b ∈ q.bounds, ∃ d, Prepared c.catalog d ∧ b.2 = Cursor.capture d c.catalog := by
  induction h with
  | find h =>
    obtain ⟨_, -, rfl⟩ := map_eq_ok.1 h
    exact ⟨rfl, SortSpec.checked_unsorted c.catalog, fun _ hb => absurd hb List.not_mem_nil⟩
  | sortBy _ h ih =>
    obtain ⟨hcollection, -, hbounds⟩ := ih
    obtain ⟨_, hspec, rfl⟩ := map_eq_ok.1 h
    rw [mapError_eq_ok, catalog, hcollection] at hspec
    exact ⟨hcollection, SortSpec.checked_of_parse hspec, hbounds⟩
  -- a cursor is that of a document as it was saved, which had been prepared
  | bounded _ side h ih =>
    obtain ⟨hcollection, hchecked, hbounds⟩ := ih
    refine ⟨hcollection, hchecked, fun b hb => ?_⟩
    rcases List.mem_append.1 hb with hb | hb
    · exact hbounds b hb
    · obtain rfl := List.mem_singleton.1 hb
      exact ⟨_, (Collection.save_ok hc h).2.1, rfl⟩
  | atMost _ _ ih => exact ih
  | select _ _ ih => exact ih
  | stampedAfter _ _ ih => exact ih
  | stampedBefore _ _ ih => exact ih

/-- **Building checks every part.** -/
theorem Built.regular {c : Collection} (hc : c.catalog.WellFormed) (hid : c.catalog.IdApart)
    (h : q.Built c) : q.collection = c ∧ q.Regular := by
  obtain ⟨rfl, hchecked, hbounds⟩ := h.settled hc
  exact ⟨rfl, hc, hid, hchecked, hbounds⟩

/-- One more cursor, of a written document. -/
theorem Regular.bounded (hq : q.Regular) (side : Side) {d : Document}
    (hd : Prepared q.catalog d) : (q.bounded side (Cursor.capture d q.catalog)).Regular := by
  refine ⟨hq.wellFormed, hq.idApart, hq.checked, fun b hb => ?_⟩
  rcases List.mem_append.1 hb with hb | hb
  · exact hq.bounds b hb
  · obtain rfl := List.mem_singleton.1 hb
    exact ⟨d, hd, rfl⟩

/-- The side of the cursor of a written document is its side in the order of the query. -/
theorem Regular.onSide_capture (hq : q.Regular) {d : Document} (hd : Prepared q.catalog d)
    (side : Side) (e : Document) :
    q.sort.OnSide q.catalog.idField side (Cursor.capture d q.catalog) (e.row q.catalog.idField) ↔
      q.order d e = side.wanted := by
  rw [SortSpec.onSide_iff, hd.cursorTuple_capture hq.wellFormed hq.idApart hq.checked]
  exact Iff.rfl

/-- The predicate of a captured cursor is one for all written documents. -/
theorem Regular.compile_capture (hq : q.Regular) {d : Document} (hd : Prepared q.catalog d)
    (side : Side) : ∃ p,
      Keyset.compile q.sort (Cursor.capture d q.catalog) side q.catalog.idField = .ok p ∧
        ∀ e, Prepared q.catalog e → (p.eval (e.row q.catalog.idField) ↔
          q.sort.OnSide q.catalog.idField side (Cursor.capture d q.catalog)
            (e.row q.catalog.idField)) := by
  have hcompile : ∀ e, Prepared q.catalog e → _ := fun e he => Keyset.compile_eval side
    (hd.fits_capture he hq.wellFormed hq.idApart hq.checked)
  obtain ⟨p, hp, -⟩ := hcompile d hd
  refine ⟨p, hp, fun e he => ?_⟩
  obtain ⟨p', hp', heval⟩ := hcompile e he
  obtain rfl := Except.ok.inj (hp.symm.trans hp')
  exact heval

/-- The predicate that is narrowed to the sides of some cursors. -/
theorem Regular.withBounds_eq (hq : q.Regular) {bounds : List (Side × Cursor)}
    (hbounds : ∀ b ∈ bounds, ∃ d, Prepared q.catalog d ∧ b.2 = Cursor.capture d q.catalog)
    (predicate : Predicate) : ∃ p, q.withBounds predicate bounds = .ok p ∧
      ∀ d, Prepared q.catalog d → (p.eval (d.row q.catalog.idField) ↔
        predicate.eval (d.row q.catalog.idField) ∧
          ∀ b ∈ bounds, q.sort.OnSide q.catalog.idField b.1 b.2 (d.row q.catalog.idField)) := by
  induction bounds generalizing predicate with
  | nil => exact ⟨predicate, rfl, fun d _ => by simp⟩
  | cons b rest ih =>
    rw [List.forall_mem_cons] at hbounds
    obtain ⟨side, cursor⟩ := b
    obtain ⟨⟨d, hd, rfl⟩, hrest⟩ := hbounds
    obtain ⟨bound, hbound, heval⟩ := hq.compile_capture hd side
    obtain ⟨p, hp, heval'⟩ := ih hrest (predicate.and bound)
    refine ⟨p, ?_, fun e he => ?_⟩
    · rw [withBounds]
      exact bind_eq_ok.2 ⟨bound, mapError_eq_ok.2 hbound, hp⟩
    · rw [heval' e he, Predicate.eval_and, Bool.and_eq_true, heval e he, List.forall_mem_cons,
        and_assoc]

/-- The predicate that is narrowed to a comparison of the stamp. -/
theorem Regular.eval_withStamp (hq : q.Regular) {d : Document} (hd : Prepared q.catalog d)
    (comparison : Comparison) (time : Option Timestamp) (predicate : Predicate) :
    (q.withStamp comparison time predicate).eval (d.row q.catalog.idField) ↔
      predicate.eval (d.row q.catalog.idField) ∧ ∀ t ∈ time, ∃ stamp,
        d.value q.catalog.freshnessField = some (.timestamp stamp) ∧
          comparison.holds (stamp.compare t) := by
  cases time with
  | none => simp [withStamp]
  | some t =>
    obtain ⟨stamp, hstamp⟩ := hd.stamped
    have hrow : d.row q.catalog.idField q.catalog.freshnessField = some (.timestamp stamp) := by
      rw [Document.row, if_neg hq.idApart.1, hstamp]
    have heval : (Predicate.fieldIs comparison q.catalog.freshnessField (.timestamp t)).eval
        (d.row q.catalog.idField) = comparison.holds (stamp.compare t) := by
      simp only [Predicate.fieldIs, Predicate.eval, Predicate.outcome?, Expr.value, hrow]
      rfl
    rw [withStamp, Predicate.eval_and, Bool.and_eq_true, heval]
    simp [hstamp]

/-- **The selection of a query selects what it wants.** -/
theorem Regular.selection_eq (hq : q.Regular) : ∃ p,
    q.selection = .ok ⟨p, q.sort.orderBy q.catalog.idField q.isReversed, q.limit,
      q.storedFields⟩ ∧
      ∀ d, Prepared q.catalog d → (p.eval (d.row q.catalog.idField) ↔ q.Wants d) := by
  obtain ⟨p, hp, heval⟩ :=
    hq.withBounds_eq hq.bounds (q.criteria.toPredicate q.catalog.idField)
  refine ⟨_, bind_eq_ok.2 ⟨p, hp, rfl⟩, fun d hd => ?_⟩
  rw [hq.eval_withStamp hd, hq.eval_withStamp hd, heval d hd, Criteria.eval_toPredicate]
  -- the conditions on stamps compare from the side of the stamp
  have hgreater : ∀ stamp t : Timestamp, Comparison.greater.holds (stamp.compare t) ↔
      t.compare stamp = .lt := by
    intro stamp t
    have hswap : t.compare stamp = (stamp.compare t).swap :=
      (Std.OrientedCmp.eq_swap : (Value.timestamp t).collate (.timestamp stamp) = _)
    rw [hswap, Ordering.swap_eq_lt]
    exact beq_iff_eq
  have hless : ∀ stamp t : Timestamp, Comparison.less.holds (stamp.compare t) ↔
      stamp.compare t = .lt := fun _ _ => beq_iff_eq
  simp only [hgreater, hless]
  constructor
  · rintro ⟨⟨⟨hcriteria, hbounds⟩, hnewer⟩, holder⟩
    exact ⟨hcriteria, hnewer, holder, hbounds⟩
  · rintro ⟨hcriteria, hnewer, holder, hbounds⟩
    exact ⟨⟨⟨hcriteria, hbounds⟩, hnewer⟩, holder⟩

/-- A query with a selection answers with the page of its rows. -/
theorem run_of_selection {selection : Selection} (h : q.selection = .ok selection) (s : Store) :
    q.run s = (q.rows s selection).map q.pageOf := by
  unfold run
  rw [h]
  rfl

/-- Rows that were fetched in reverse are put back in order. -/
theorem rows_of_fetch {s : Store} {selection : Selection} {fetched : List Document}
    (h : s.fetch q.collection.memory selection = .ok fetched) :
    q.rows s selection = .ok (if q.isReversed then fetched.reverse else fetched) := by
  unfold rows
  rw [h]
  rfl

/-- Rows that come out related from two stores are put in order alike. -/
theorem sameOutcome_rows {q r : Query} {s t : Store} {selection other : Selection}
    {R : Document → Document → Prop} (hreversed : r.isReversed = q.isReversed)
    (h : SameOutcome (List.Forall₂ R) (s.fetch q.collection.memory selection)
      (t.fetch r.collection.memory other)) :
    SameOutcome (List.Forall₂ R) (q.rows s selection) (r.rows t other) := by
  unfold rows
  rw [hreversed]
  refine (h.mapError QueryError.noRoom).bind fun fetched others hfetched => .ok ?_
  split_ifs
  · exact List.forall₂_reverse_iff.2 hfetched
  · exact hfetched

/-- **A query with nothing but criteria answers all documents that match them.** -/
theorem run_find {c : Collection} {criteria resolved : Criteria}
    (h : criteria.resolve c.catalog = .ok resolved) (s : Store) :
    ∃ page, ((c.find criteria).bind fun q => q.run s) = .ok page ∧
      page.data = sortRows s.read (SortSpec.unsorted.orderBy c.catalog.idField false)
        (s.matching (resolved.toPredicate c.catalog.idField)) := by
  have hfind : c.find criteria = .ok ⟨c, resolved, .unsorted, none, none, [], none, none⟩ :=
    map_eq_ok.2 ⟨resolved, h, rfl⟩
  rw [hfind]
  exact ⟨_, rfl, List.map_id'' (fun _ => rfl) _⟩

/-- A query fetches in the flipped order exactly if it has bounds and all of them are upper ones. -/
theorem isReversed_iff (q : Query) :
    q.isReversed ↔ ¬(q.bounds = [] ∨ ∃ b ∈ q.bounds, b.1 = .after) := by
  unfold isReversed
  rw [Bool.and_eq_true, Bool.not_eq_true', List.isEmpty_eq_false_iff, not_or, List.all_eq_true]
  refine and_congr_right fun _ => ?_
  constructor
  · rintro h ⟨b, hb, hside⟩
    have hbefore := h b hb
    rw [hside] at hbefore
    cases hbefore
  · intro h b hb
    cases hside : b.1 with
    | before => rfl
    | after => exact absurd ⟨b, hb, hside⟩ h

/-- A query that is not reversed keeps the first rows. -/
theorem limited_forward (h : q.isReversed = false) (all : List Document) :
    q.limited all = limitRows q.limit all := by
  have hforward : q.bounds = [] ∨ ∃ b ∈ q.bounds, b.1 = .after := by
    by_contra hnot
    rw [q.isReversed_iff.2 hnot] at h
    cases h
  unfold limited limitRows
  cases q.limit with
  | none => rfl
  | some k => exact if_pos hforward

/-- A reversed one keeps the first rows of the reverse. -/
theorem limited_reversed (h : q.isReversed = true) (all : List Document) :
    q.limited all = (limitRows q.limit all.reverse).reverse := by
  have hbackward := q.isReversed_iff.1 h
  unfold limited limitRows
  cases q.limit with
  | none => exact all.reverse_reverse.symm
  | some k =>
    simp only [if_neg hbackward]
    rw [List.reverse_take, List.reverse_reverse, List.length_reverse]

/-- There is always room for a query without a limit. -/
theorem hasRoom_of_limit (h : q.limit = none) : q.HasRoom := by
  unfold HasRoom
  rw [h]
  exact fun _ hk => absurd hk (Option.not_mem_none _)

/-- What a query wants of a store has an ascending arrangement. -/
theorem Regular.exists_ascending {s : Store} (hq : q.Regular) (hs : s.Consistent q.catalog) :
    ∃ all, Ascending q.order all ∧ ∀ d, d ∈ all ↔ d ∈ s.documents.values ∧ q.Wants d := by
  obtain ⟨p, -, hwants⟩ := hq.selection_eq
  obtain ⟨all, hall, hmem⟩ :=
    hs.exists_ascending (hq.checked.exists_id_mem_orderBy hq.wellFormed false) p
  refine ⟨all, q.order_eq ▸ hall, fun d => ?_⟩
  rw [hmem]
  exact and_congr_right fun hd => hwants d (hs.prepared hd)

/-- **The page of a query is made of its rows**, with memory for them: the ascending arrangement of
what it wants, cut to the limit. -/
theorem Regular.run_eq {s : Store} (hq : q.Regular) (hs : s.Consistent q.catalog)
    (hroom : q.HasRoom) {all : List Document} (hall : Ascending q.order all)
    (hmem : ∀ d, d ∈ all ↔ d ∈ s.documents.values ∧ q.Wants d) :
    q.run s = .ok (q.pageOf (q.limited all)) := by
  obtain ⟨p, hselection, hwants⟩ := hq.selection_eq
  have hmem' : ∀ d, d ∈ all ↔ d ∈ s.documents.values ∧ p.eval (d.row q.catalog.idField) := by
    intro d
    rw [hmem]
    exact and_congr_right fun hd => (hwants d (hs.prepared hd)).symm
  have hid := hq.checked.exists_id_mem_orderBy hq.wellFormed
  rw [order_eq] at hall
  -- a reversed query fetches the first rows of the flipped order and turns them around
  have hrows : q.rows s ⟨p, q.sort.orderBy q.catalog.idField q.isReversed, q.limit,
      q.storedFields⟩ = .ok (projectRows q.storedFields (q.limited all)) := by
    cases hreversed : q.isReversed with
    | false =>
      rw [rows_of_fetch (hs.fetch_eq (hid false) hall hmem' hroom _), hreversed,
        if_neg Bool.false_ne_true, limited_forward hreversed]
    | true =>
      have hflipped : Ascending (compareDocuments q.catalog.idField
          (q.sort.orderBy q.catalog.idField true)) all.reverse :=
        hall.reverse fun d e => q.sort.compareRows_orderBy_flip q.catalog.idField _ _
      have hmem'' : ∀ d, d ∈ all.reverse ↔ d ∈ s.documents.values ∧
          p.eval (d.row q.catalog.idField) := fun d => List.mem_reverse.trans (hmem' d)
      rw [rows_of_fetch (hs.fetch_eq (hid true) hflipped hmem'' hroom _), hreversed, if_pos rfl,
        limited_reversed hreversed, reverse_projectRows]
  rw [run_of_selection hselection, hrows, Except.map, pageOf_stored hq.wellFormed]

/-- **Without memory for its limit a query ends the program**, whatever the store. -/
theorem Regular.run_of_not_affords (hq : q.Regular) {k : UInt64} (hlimit : q.limit = some k)
    (hroom : ¬q.collection.memory.Affords k) (s : Store) : q.run s = .error (.noRoom ⟨k⟩) := by
  obtain ⟨p, hselection, -⟩ := hq.selection_eq
  rw [run_of_selection hselection, rows, Store.fetch_of_not_affords hroom hlimit]
  rfl

/-- **What a query answers.** Take a registered catalog in which neither the freshness field nor a
shadow has the name of the id, a store that was reached through the collection, and any query of
the collection. The stored documents that it wants have one ascending arrangement. If there is
memory for its limit, the query succeeds, and its rows are all of them without a limit, and else
the first ones, or the last ones when there are only cursors to stay before. If there is not, it
ends the program. -/
theorem run_refines {schema : Schema} {config : Config} {c : Collection} {s : Store}
    (hc : Catalog.register schema config = .ok c.catalog) (hid : c.catalog.IdApart)
    (hs : c.Reachable s) (hq : q.Built c) :
    ∃ all, (∀ d, d ∈ all ↔ d ∈ s.documents.values ∧ q.Wants d) ∧ Ascending q.order all ∧
      (q.HasRoom → ∃ page, q.run s = .ok page ∧ page.data = (q.limited all).map q.projected) ∧
      (¬q.HasRoom → ∃ cause, q.run s = .error (.noRoom cause)) := by
  have hwell := Catalog.wellFormed_of_register hc
  obtain ⟨rfl, hregular⟩ := hq.regular hwell hid
  obtain ⟨all, hall, hmem⟩ := hregular.exists_ascending (hs.consistent hwell)
  refine ⟨all, hmem, hall, fun hroom => ?_, fun hroom => ?_⟩
  · exact ⟨_, hregular.run_eq (hs.consistent hwell) hroom hall hmem, rfl⟩
  · unfold HasRoom at hroom
    push Not at hroom
    obtain ⟨k, hlimit, hk⟩ := hroom
    exact ⟨_, hregular.run_of_not_affords hlimit hk s⟩

/-- All people by name, as a query for them is built. -/
theorem built_byName (direction : SortDirection) : Built Collection.people
    ⟨Collection.people, .all, ⟨[⟨"name", "_name", direction, true⟩]⟩, none, none, [], none,
      none⟩ := by
  have hfind : Collection.people.find .all =
      .ok ⟨Collection.people, .all, .unsorted, none, none, [], none, none⟩ := rfl
  have hsort : sortBy ⟨Collection.people, .all, .unsorted, none, none, [], none, none⟩
      (.pairs [("name", direction)]) = .ok ⟨Collection.people, .all,
        ⟨[⟨"name", "_name", direction, true⟩]⟩, none, none, [], none, none⟩ := rfl
  exact .sortBy (.find hfind) hsort

/-- A query of the people is regular on every machine. -/
theorem Built.regular_people {memory : Memory}
    (h : q.Built ⟨Catalog.peopleCatalog, [], memory⟩) : q.Regular := by
  have hid : Catalog.peopleCatalog.IdApart := by decide +kernel
  exact (h.regular (Catalog.wellFormed_of_register Catalog.register_people) hid).2

/-- The first of the people between Ann and Dora. -/
theorem run_refines_people :
    let c := Collection.people
    let dora := Collection.personStored 4 "dora"
    let s := Collection.storeOf [Collection.ann, Collection.person 4 "dora",
      Collection.person 3 "cid", Collection.person 2 "bob"]
    let q : Query := ⟨c, .all, ⟨[⟨"name", "_name", .asc, true⟩]⟩, some 1, none,
      [(.after, c.cursor Collection.annStored), (.before, c.cursor dora)], none, none⟩
    ∃ all page, (∀ d, d ∈ all ↔ d ∈ s.documents.values ∧ q.Wants d) ∧ Ascending q.order all ∧
      q.run s = .ok page ∧ page.data = (q.limited all).map q.projected ∧
      page.data.map (·.id) = [.ofNat 2] := by
  intro c dora s q
  have hdora : c.save .epoch (Collection.person 4 "dora") s = .ok (dora, s.set dora) :=
    Collection.save_of_prepare (by decide +kernel) s
  have hbuilt : q.Built c := (((built_byName .asc).bounded .after
    (Collection.save_ann s)).bounded .before hdora).atMost 1
  have hreachable : c.Reachable s := Collection.reachable_storeOf _
  obtain ⟨all, hmem, hall, hpage, -⟩ :=
    run_refines Catalog.register_people (by decide +kernel) hreachable hbuilt
  obtain ⟨page, hrun, hdata⟩ := hpage (by decide +kernel)
  -- the limit cuts the answer to the first of the two between the bounds
  have hid : (q.run s).map (fun page => page.data.map (·.id)) = .ok [.ofNat 2] := by
    decide +kernel
  rw [hrun] at hid
  exact ⟨all, page, hmem, hall, hrun, hdata, Except.ok.inj hid⟩

/-- **A query for the greatest number of rows but one ends the program**, on any machine and on a
store without documents. For all rows it would get a page. -/
theorem run_ends_program :
    let s := (Engine.empty.openStore Catalog.peopleCatalog).store Catalog.peopleCatalog
    let q : Query := ⟨Collection.people, .all, .unsorted, none, none, [], none, none⟩
    (q.run s).map (·.data) = .ok [] ∧
    ∀ memory : Memory, let c : Collection := ⟨Catalog.peopleCatalog, [], memory⟩
      let q : Query := ⟨c, .all, .unsorted, some 18446744073709551614, none, [], none, none⟩
      c.Reachable s ∧ q.Built c ∧ q.run s = .error (.noRoom ⟨18446744073709551614⟩) := by
  intro s q
  refine ⟨by decide +kernel, fun memory => ?_⟩
  intro c q
  have hfind : c.find .all = .ok ⟨c, .all, .unsorted, none, none, [], none, none⟩ := rfl
  have hbuilt : q.Built c := (Built.find hfind).atMost 18446744073709551614
  have hreachable : c.Reachable s := .opened
  exact ⟨hreachable, hbuilt,
    hbuilt.regular_people.run_of_not_affords rfl memory.not_affords_greatest s⟩

end Query
end Paging
