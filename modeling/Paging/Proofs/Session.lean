/-
# Paging while others write

A session pages through one query while documents are saved, created and updated between its
fetches. Each fetch after the first asks for the rows after the last cursor so far, and the session
ends with an empty page. Whatever is written in between, the rows that it returns are strictly
ascending, each with the values that it had when it was fetched; and once the session has ended, it
has returned every document that it wanted at the start and nobody wrote, exactly once.

The invariant (`Sound`) relates the position to every such document: it was returned, or it comes
after all rows so far. A write does not touch the document, and a fetch returns it or stops before
it. A fetch can fail for one reason only, that there is no memory for a page; what is written has
no part in that, so with this memory no session fails.
-/
import Paging.Proofs.Walk

namespace Paging

/-- A run of fetches of one query with writes in between. -/
structure Session where
  store : Store
  /-- The last cursor so far. -/
  position : Option Cursor
  /-- The rows that were returned. -/
  data : List Document
  /-- The same rows, each as the store had it when it was fetched. -/
  rows : List Document
  /-- The ids of the documents that were written. -/
  written : List EntityId
  /-- Whether a page was empty. -/
  ended : Bool

namespace Session

/-- What happens in a session. -/
inductive Event
  | fetch
  | write (w : Collection.Write)

/-- The session before its first fetch. -/
def start (s : Store) : Session := ⟨s, none, [], [], [], false⟩

/-- The session after a page was fetched; an empty page ends it. -/
def receive (x : Session) (page : Page) : Session :=
  match page.lastCursor with
  | none => { x with ended := true }
  | some cursor =>
    { x with
      position := some cursor
      data := x.data ++ page.data
      rows := x.rows ++ page.data.filterMap fun d => x.store.get? d.id }

/-- The session after an event. There are no fetches after its end. -/
def step (q : Query) (x : Session) : Event → Except QueryError Session
  | .write w =>
    .ok { x with
      store := w.apply q.collection x.store
      written := x.written ++ w.ids q.collection x.store }
  | .fetch => if x.ended then .ok x else ((q.onward x.position).run x.store).map x.receive

/-- The session after some events. -/
def run (q : Query) (x : Session) : List Event → Except QueryError Session
  | [] => .ok x
  | event :: rest => do
    let x ← step q x event
    run q x rest

/-- What is known of a session that started with a store. -/
structure Sound (q : Query) (s : Store) (x : Session) : Prop where
  consistent : x.store.Consistent q.catalog
  position : x.position = x.rows.getLast?.map (Cursor.capture · q.catalog)
  prepared : ∀ d ∈ x.rows, Prepared q.catalog d
  ascending : Ascending q.order x.rows
  returned : x.data = x.rows.map q.projected
  /-- A document that nobody wrote is still there, no row is an older version of it, and it was
  returned or comes after all rows so far. -/
  untouched : ∀ d ∈ s.documents.values, q.Wants d → d.id ∉ x.written →
    d ∈ x.store.documents.values ∧ (∀ row ∈ x.rows, row.id = d.id → row = d) ∧
      (d ∈ x.rows ∨ x.ended = false ∧ ∀ row ∈ x.rows, q.order row d = .lt)

variable {q : Query} {s : Store} {x : Session}

/-- Before the first page nothing was written or returned, so every wanted document is still to
come. -/
theorem sound_start (hs : s.Consistent q.catalog) : (start s).Sound q s := by
  refine ⟨hs, rfl, ?_, List.Pairwise.nil, rfl, fun d hd _ _ => ⟨hd, ?_, .inr ⟨rfl, ?_⟩⟩⟩ <;>
    exact fun _ h => absurd h List.not_mem_nil

/-- **A write keeps a session sound.** -/
theorem Sound.write (hx : x.Sound q s) (hc : q.catalog.WellFormed) (w : Collection.Write) :
    Sound q s { x with
      store := w.apply q.collection x.store
      written := x.written ++ w.ids q.collection x.store } := by
  have hconsistent := w.consistent_apply hc hx.consistent
  refine ⟨hconsistent, hx.position, hx.prepared, hx.ascending, hx.returned, ?_⟩
  intro d hd hwants hwritten
  rw [List.mem_append, not_or] at hwritten
  obtain ⟨hstored, hversions, hplace⟩ := hx.untouched d hd hwants hwritten.1
  refine ⟨?_, hversions, hplace⟩
  rw [hconsistent.mem_values, w.get?_apply hc x.store hwritten.2]
  exact hx.consistent.mem_values.1 hstored

/-- The rows of a page are found in the store that it was fetched from. -/
theorem filterMap_projected (hs : s.Consistent q.catalog) {rows : List Document}
    (h : ∀ d ∈ rows, d ∈ s.documents.values) :
    (rows.map q.projected).filterMap (fun d => s.get? d.id) = rows := by
  rw [List.filterMap_map]
  calc
    _ = rows.filterMap some := List.filterMap_congr fun d hd => by
      rw [Function.comp_apply, q.projected_id]
      exact hs.mem_values.1 (h d hd)
    _ = rows := List.filterMap_some

/-- What comes after all rows so far and is wanted remains. -/
theorem mem_remaining {rest : List Document}
    (hrest : q.Remaining x.store x.rows.getLast? rest) {d : Document}
    (hd : d ∈ x.store.documents.values) (hwants : q.Wants d)
    (hafter : ∀ row ∈ x.rows, q.order row d = .lt) : d ∈ rest :=
  (hrest.mem d).2 ⟨⟨hd, hwants⟩, fun a ha => hafter a (List.mem_of_getLast? ha)⟩

/-- When nothing remains, every document that nobody wrote was returned. -/
theorem Sound.finish (hx : x.Sound q s) (hrest : q.Remaining x.store x.rows.getLast? []) :
    Sound q s { x with ended := true } := by
  refine ⟨hx.consistent, hx.position, hx.prepared, hx.ascending, hx.returned, ?_⟩
  intro d hd hwants hwritten
  obtain ⟨hstored, hversions, hplace⟩ := hx.untouched d hd hwants hwritten
  refine ⟨hstored, hversions, .inl (hplace.resolve_right ?_)⟩
  rintro ⟨-, hafter⟩
  exact absurd (mem_remaining hrest hstored hwants hafter) List.not_mem_nil

/-- The first rows that remain go on in the order, and what they leave behind comes after them. -/
theorem Sound.extend (hx : x.Sound q s) {k : Nat} {rest : List Document}
    (hrest : q.Remaining x.store x.rows.getLast? rest) {a : Document}
    (ha : (rest.take k).getLast? = some a) :
    Sound q s { x with
      position := some (Cursor.capture a q.catalog)
      data := x.data ++ (rest.take k).map q.projected
      rows := x.rows ++ rest.take k } := by
  have hstored : ∀ d ∈ rest.take k, d ∈ x.store.documents.values :=
    fun d hd => ((hrest.mem d).1 (List.mem_of_mem_take hd)).1.1
  refine ⟨hx.consistent, ?_, ?_, ?_, ?_, ?_⟩
  · rw [List.getLast?_append, ha]
    rfl
  · intro d hd
    rcases List.mem_append.1 hd with hd | hd
    · exact hx.prepared d hd
    · exact hx.consistent.prepared (hstored d hd)
  · refine List.pairwise_append.2
      ⟨hx.ascending, hrest.ascending.sublist (List.take_sublist k rest), ?_⟩
    intro row hrow d hd
    -- what remains lies behind the last row, hence behind every row
    have hbehind := ((hrest.mem d).1 (List.mem_of_mem_take hd)).2
    exact hx.ascending.lt_of_getLast? hbehind row hrow
  · rw [hx.returned, List.map_append]
  · -- an unwritten document that was not returned is among what remains, in the page or behind it
    intro d hd hwants hwritten
    obtain ⟨hd', hversions, hplace⟩ := hx.untouched d hd hwants hwritten
    refine ⟨hd', ?_, ?_⟩
    · intro row hrow hid
      rcases List.mem_append.1 hrow with hrow | hrow
      · exact hversions row hrow hid
      · -- both are what the store has under one id
        have hfound := hx.consistent.mem_values.1 (hstored row hrow)
        rw [hid, hx.consistent.mem_values.1 hd'] at hfound
        exact (Option.some.inj hfound).symm
    · rcases hplace with hreturned | ⟨hended, hafter⟩
      · exact .inl (List.mem_append_left _ hreturned)
      · have hleft := mem_remaining hrest hd' hwants hafter
        rw [← List.take_append_drop k rest, List.mem_append] at hleft
        rcases hleft with htaken | hdropped
        · exact .inl (List.mem_append_right _ htaken)
        · refine .inr ⟨hended, fun row hrow => ?_⟩
          rcases List.mem_append.1 hrow with hrow | hrow
          · exact hafter row hrow
          · exact (List.pairwise_append.1 (hrest.split k)).2.2 row hrow d hdropped

/-- **A page keeps a session sound.** -/
theorem Sound.receive (hx : x.Sound q s) {k : Nat} (hk : 0 < k) {rest : List Document}
    (hrest : q.Remaining x.store x.rows.getLast? rest) :
    (x.receive (q.pageOf (rest.take k))).Sound q s := by
  have hcursor : (q.pageOf (rest.take k)).lastCursor =
      (rest.take k).getLast?.map (Cursor.capture · q.catalog) := rfl
  have hrows : (q.pageOf (rest.take k)).data.filterMap (fun d => x.store.get? d.id) =
      rest.take k := filterMap_projected hx.consistent fun d hd =>
    ((hrest.mem d).1 (List.mem_of_mem_take hd)).1.1
  unfold Session.receive
  cases hlast : (rest.take k).getLast? with
  | none =>
    rw [hcursor, hlast]
    obtain rfl := Query.eq_nil_of_getLast?_take hk hlast
    exact hx.finish hrest
  | some a =>
    rw [hcursor, hlast]
    simp only [Option.map_some, hrows]
    exact hx.extend hrest hlast

/-- How a session goes on from an outcome: soundly, or not at all because there is no memory for a
page of at most `limit` rows. -/
inductive GoesOn (q : Query) (s : Store) (limit : UInt64) : Except QueryError Session → Prop
  | sound {y : Session} (hy : y.Sound q s) : GoesOn q s limit (.ok y)
  | noRoom (hroom : ¬q.collection.memory.Affords limit) :
      GoesOn q s limit (.error (.noRoom ⟨limit⟩))

variable {limit : UInt64}

/-- **Every event keeps a session sound**, if it does not end the program. -/
theorem Sound.step (hx : x.Sound q s) (hq : q.Regular) (hbounds : q.bounds = [])
    (hlimit : 0 < limit.toNat) (event : Event) :
    GoesOn q s limit (x.step (q.atMost limit) event) := by
  cases event with
  | write w => exact .sound (hx.write hq.wellFormed w)
  | fetch =>
    unfold Session.step
    by_cases hended : x.ended = true
    · rw [if_pos hended]
      exact .sound hx
    · rw [if_neg hended, hx.position]
      have hposition : ∀ a ∈ x.rows.getLast?, Prepared q.catalog a :=
        fun a ha => hx.prepared a (List.mem_of_getLast? ha)
      by_cases hroom : q.collection.memory.Affords limit
      · obtain ⟨rest, hrest⟩ := hq.exists_remaining hx.consistent x.rows.getLast?
        rw [hq.run_onward hx.consistent hbounds hposition hrest hroom]
        exact .sound (hx.receive hlimit hrest)
      · rw [hq.run_onward_of_not_affords hposition hroom]
        exact .noRoom hroom

/-- **A whole run keeps a session sound**, if it does not end the program. -/
theorem Sound.run (hx : x.Sound q s) (hq : q.Regular) (hbounds : q.bounds = [])
    (hlimit : 0 < limit.toNat) (events : List Event) :
    GoesOn q s limit (x.run (q.atMost limit) events) := by
  induction events generalizing x with
  | nil => exact .sound hx
  | cons event rest ih =>
    have hstep := hx.step hq hbounds hlimit event
    unfold Session.run
    cases houtcome : x.step (q.atMost limit) event with
    | ok y =>
      rw [houtcome] at hstep
      cases hstep with
      | sound hy => exact ih hy
    | error cause =>
      rw [houtcome] at hstep
      cases hstep with
      | noRoom hroom => exact .noRoom hroom

/-- What was returned and is the only row of its id is there exactly once. -/
theorem Sound.filter_id (hx : x.Sound q s) {d : Document} (hd : d ∈ x.rows)
    (hversions : ∀ row ∈ x.rows, row.id = d.id → row = d) :
    x.rows.filter (·.id = d.id) = [d] := by
  have hsame : x.rows.filter (·.id = d.id) = x.rows.filter (· == d) := by
    refine List.filter_congr fun row hrow => ?_
    rw [Bool.eq_iff_iff, decide_eq_true_iff, beq_iff_eq]
    exact ⟨hversions row hrow, fun h => h ▸ rfl⟩
  rw [hsame, List.filter_beq, List.count_eq_one_of_mem hx.ascending.untied.nodup hd]
  rfl

/-- **Paging is stable while others write.** Take a registered catalog in which neither the
freshness field nor a shadow has the name of the id, a store that was reached through the
collection, and a query of the collection without cursors, for pages of at most `limit` rows.
Whatever is written between the fetches, the rows that are returned are strictly ascending, each as
it was stored when it was fetched. Once the session has ended, every document that it wanted at the
start and that was not written has been returned exactly once. With memory for `limit` rows no fetch
fails, and without it none can fail in another way. -/
theorem run_stable {schema : Schema} {config : Config} {c : Collection}
    (hc : Catalog.register schema config = .ok c.catalog) (hid : c.catalog.IdApart)
    (hs : c.Reachable s) (hq : q.Built c) (hbounds : q.bounds = []) (hlimit : 0 < limit)
    (events : List Event) :
    (∀ x, (start s).run (q.atMost limit) events = .ok x →
      x.data = x.rows.map q.projected ∧ Ascending q.order x.rows ∧
      (x.ended → ∀ d ∈ s.documents.values, q.Wants d → d.id ∉ x.written →
        x.rows.filter (·.id = d.id) = [d])) ∧
    (c.memory.Affords limit → ∃ x, (start s).run (q.atMost limit) events = .ok x) ∧
    ∀ cause, (start s).run (q.atMost limit) events = .error cause → cause = .noRoom ⟨limit⟩ := by
  have hwell := Catalog.wellFormed_of_register hc
  obtain ⟨rfl, hregular⟩ := hq.regular hwell hid
  have hstart : (start s).Sound q s := sound_start (hs.consistent hwell)
  have hrun := hstart.run hregular hbounds (UInt64.lt_iff_toNat_lt.1 hlimit) events
  -- what is known of the outcome is all that is needed
  generalize (start s).run (q.atMost limit) events = outcome at hrun
  cases hrun with
  | noRoom hroom =>
    refine ⟨fun x h => ?_, fun h => absurd h hroom, fun cause h => (Except.error.inj h).symm⟩
    cases h
  | @sound y hy =>
    refine ⟨fun x h => ?_, fun _ => ⟨y, rfl⟩, fun cause h => ?_⟩
    · obtain rfl := Except.ok.inj h
      refine ⟨hy.returned, hy.ascending, fun hended d hd hwants hwritten => ?_⟩
      obtain ⟨-, hversions, hplace⟩ := hy.untouched d hd hwants hwritten
      refine hy.filter_id (hplace.resolve_right ?_) hversions
      rintro ⟨hnot, -⟩
      rw [hended] at hnot
      cases hnot
    · cases h

/-- Three people by name, one to a page. After Ann was fetched she is renamed and comes again, and
Cid is renamed before he is reached. Nobody writes Bob, who comes once. -/
theorem run_stable_people :
    let c := Collection.people
    let s := Collection.storeOf [Collection.ann, Collection.person 2 "bob",
      Collection.person 3 "cid"]
    let q : Query := ⟨c, .all, ⟨[⟨"name", "_name", .asc, true⟩]⟩, none, none, [], none, none⟩
    let bob := Collection.personStored 2 "bob"
    ∃ x, (start s).run (q.atMost 1) [.fetch, .write (.save .epoch (Collection.person 1 "zoe")),
        .fetch, .write (.save .epoch (Collection.person 3 "cyd")), .fetch, .fetch, .fetch] = .ok x ∧
      x.data = x.rows.map q.projected ∧ Ascending q.order x.rows ∧
      x.rows.map (·.id) = [.ofNat 1, .ofNat 2, .ofNat 3, .ofNat 1] ∧
      x.rows.filter (·.id = bob.id) = [bob] := by
  intro c s q bob
  obtain ⟨hstable, hsucceeds, -⟩ := run_stable Catalog.register_people (by decide +kernel)
    (Collection.reachable_storeOf _) (Query.built_byName .asc) rfl
    (by decide : (0 : UInt64) < 1) [.fetch, .write (.save .epoch (Collection.person 1 "zoe")),
      .fetch, .write (.save .epoch (Collection.person 3 "cyd")), .fetch, .fetch, .fetch]
  obtain ⟨x, hrun⟩ := hsucceeds (by decide +kernel)
  obtain ⟨hdata, hascending, hreturned⟩ := hstable x hrun
  -- the events are run to see that the session ended and whom it wrote
  have hend : ((start s).run (q.atMost 1) [.fetch,
      .write (.save .epoch (Collection.person 1 "zoe")), .fetch,
      .write (.save .epoch (Collection.person 3 "cyd")), .fetch, .fetch, .fetch]).map
        (fun x => (x.ended, x.written, x.rows.map (·.id))) =
      .ok (true, [.ofNat 1, .ofNat 3], [.ofNat 1, .ofNat 2, .ofNat 3, .ofNat 1]) := by
    decide +kernel
  rw [hrun] at hend
  obtain ⟨hended, hwritten, hids⟩ : x.ended = true ∧ x.written = [.ofNat 1, .ofNat 3] ∧
      x.rows.map (·.id) = [.ofNat 1, .ofNat 2, .ofNat 3, .ofNat 1] := by
    simpa only [Except.map, Except.ok.injEq, Prod.mk.injEq] using hend
  have hbob : bob ∈ s.documents.values := by decide +kernel
  have hwanted : q.Wants bob := {
    matches_criteria := trivial
    newer := fun _ ht => absurd ht (Option.not_mem_none _)
    older := fun _ ht => absurd ht (Option.not_mem_none _)
    on_side := fun _ hb => absurd hb List.not_mem_nil }
  have huntouched : bob.id ∉ x.written := by
    rw [hwritten]
    decide +kernel
  exact ⟨x, hrun, hdata, hascending, hids, hreturned hended bob hbob hwanted huntouched⟩

end Session
end Paging
