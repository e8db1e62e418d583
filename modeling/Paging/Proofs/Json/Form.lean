/-
# Forms are read back

A tree denotes a value for a reader when the reader makes the value of it, and when it is a tree
that survives being written (`Denotes`). The forms of texts, numbers, points in time and ids denote
what they are the forms of, and so do missing things and maps of what has such forms. Main
statement: `Denotes.ofBytes?`, the text of a tree is read as what the tree denotes.
-/
import Paging.Json.Form
import Paging.Proofs.EntityId
import Paging.Proofs.Json.Tree
import Paging.Proofs.Number.Shortest
import Paging.Proofs.SortedMap
import Paging.Proofs.Time.Rfc3339

namespace Paging

/-- A tree from which a value is read, when so many containers may be opened, and which is read
back from its own text. -/
structure Denotes {α : Type} (read : Reader α) (depth : Nat) (j : Json) (a : α) : Prop where
  regular : j.Regular
  read_eq : read depth j = some a

variable {α : Type} {read : Reader α} {write : α → Json} {depth : Nat}

/-- What is not null is not missing. -/
theorem Reader.optional_of_ne_null {j : Json} (h : j ≠ .null) :
    read.optional depth j = (read depth j).map some := by
  unfold Reader.optional
  split
  · contradiction
  · rfl

namespace Denotes

/-- A text is read back at any depth, and so are the other values without parts. -/
theorem text (depth : Nat) (s : String) : Denotes .text depth (.text s) s :=
  ⟨.string _, rfl⟩

/-- A truth value is read back. -/
theorem bool (depth : Nat) (b : Bool) : Denotes .bool depth (.bool b) b :=
  ⟨.bool b, rfl⟩

/-- An integer is read back from its numeral. -/
theorem int64 (depth : Nat) (n : Int64) : Denotes .int64 depth (.ofInt n.toInt) n :=
  ⟨.number (Numeral.wellFormed_ofInt _), Numeral.toInt64?_ofInt n⟩

/-- Only a finite number has a form. -/
theorem float (depth : Nat) {x : Binary64} (h : x.isFinite) :
    Denotes .float depth (.ofFloat x) x := by
  rw [Json.ofFloat, if_pos h]
  exact ⟨.number (Binary64.wellFormed_numeral _ x), Binary64.toBinary64?_numeral _ h⟩

/-- A time is read back from its RFC 3339 text. -/
theorem timestamp (depth : Nat) (t : Timestamp) : Denotes .timestamp depth (.ofTimestamp t) t := by
  refine ⟨.string _, ?_⟩
  rw [Reader.timestamp, Json.ofTimestamp, (text depth _).read_eq, Option.bind_some,
    String.toList_ofList, Rfc3339.read?_zulu]

/-- An id is read back from its base-32 text. -/
theorem entityId (depth : Nat) (id : EntityId) :
    Denotes .entityId depth (.ofEntityId id) id := by
  refine ⟨.string _, ?_⟩
  rw [Reader.entityId, Json.ofEntityId, (text depth _).read_eq, Option.bind_some,
    id.ofBase32?_base32]

/-- What is made of something that is read back. -/
theorem mapped {β : Type} (f : α → β) {j : Json} {a : α} (h : Denotes read depth j a) :
    Denotes (fun depth j => (read depth j).map f) depth j (f a) := by
  refine ⟨h.regular, ?_⟩
  rw [h.read_eq, Option.map_some]

/-- What may be missing is read back if its form is never null. -/
theorem optional {o : Option α}
    (h : ∀ a, o = some a → Denotes read depth (write a) a ∧ write a ≠ .null) :
    Denotes read.optional depth (.ofOption write o) o := by
  cases o with
  | none => exact ⟨.null, rfl⟩
  | some a =>
    obtain ⟨⟨hregular, hread⟩, hnull⟩ := h a rfl
    refine ⟨hregular, ?_⟩
    show read.optional depth (write a) = some (some a)
    rw [Reader.optional_of_ne_null hnull, hread, Option.map_some]

/-- A record is regular if its members are. -/
theorem regular_record {members : List (String × Json)} (h : ∀ m ∈ members, m.2.Regular) :
    (Json.record members).Regular := by
  refine .object fun m hm => ?_
  obtain ⟨m', hm', rfl⟩ := List.mem_map.1 hm
  exact h m' hm'

/-- A map is read back if its values are. -/
theorem map {m : SortedMap String α}
    (h : ∀ e ∈ m.entries, Denotes read depth (write e.2) e.2) :
    Denotes read.map (depth + 1) (.ofMap write m) m := by
  constructor
  · refine regular_record fun e he => ?_
    obtain ⟨e', he', rfl⟩ := List.mem_map.1 he
    exact (h e' he').regular
  · have hmembers : ∀ l : List (String × α), (∀ e ∈ l, Denotes read depth (write e.2) e.2) →
        (l.map fun e => (some e.1, write e.2)).mapM (Reader.member read depth) = some l := by
      intro l hl
      induction l with
      | nil => rfl
      | cons e rest ih =>
        obtain ⟨he, hrest⟩ := List.forall_mem_cons.1 hl
        rw [List.map_cons, List.mapM_cons, ih hrest, Reader.member, he.read_eq]
        rfl
    have hform : (m.entries.map fun e => (e.1, write e.2)).map (fun m => (some m.1, m.2)) =
        m.entries.map fun e => (some e.1, write e.2) := List.map_map
    rw [Json.ofMap, Json.record, hform]
    show ((m.entries.map fun e => (some e.1, write e.2)).mapM (Reader.member read depth)).map _ = _
    rw [hmembers m.entries h, Option.map_some, SortedMap.ofList_entries]

/-- The members of a record are the ones that it was written with, if their names differ. -/
theorem known_record {names : List String} {members : List (String × Json)}
    (hnames : ∀ m ∈ members, m.1 ∈ names) (hnodup : (members.map (·.1)).Nodup) :
    Members.known names (members.map fun m => (some m.1, m.2)) = some members := by
  induction members with
  | nil => rfl
  | cons m rest ih =>
    obtain ⟨hname, hrest⟩ := List.forall_mem_cons.1 hnames
    obtain ⟨hfresh, hnodup⟩ := List.nodup_cons.1 hnodup
    have hother : rest.any (·.1 = m.1) = false := by
      rw [List.any_eq_false]
      intro other hmem heq
      exact hfresh (List.mem_map.2 ⟨other, hmem, of_decide_eq_true heq⟩)
    rw [List.map_cons, Members.known, ih hrest hnodup, Option.bind_some,
      if_neg (Decidable.not_not.2 hname), hother]
    rfl

/-- The members of a record pass the check of names if they are known names and none is there twice.
-/
theorem read?_record {names : List String} {members : List (String × Json)} (least depth : Nat)
    (hnames : ∀ m ∈ members, m.1 ∈ names) (hnodup : (members.map (·.1)).Nodup) :
    Members.read? names least (depth + 1) (.record members) = some ⟨depth, members⟩ := by
  show (Members.known names _).map (Members.mk depth) = _
  rw [known_record hnames hnodup, Option.map_some]

/-- A record is read back if its fields are. -/
theorem record {names : List String} {least : Nat} {members : List (String × Json)} {a : α}
    {build : Members → Option α} (hnames : ∀ m ∈ members, m.1 ∈ names)
    (hnodup : (members.map (·.1)).Nodup) (hregular : ∀ m ∈ members, m.2.Regular)
    (hbuild : build ⟨depth, members⟩ = some a) :
    Denotes (fun depth j => (Members.read? names least depth j).bind build) (depth + 1)
      (.record members) a := by
  refine ⟨regular_record hregular, ?_⟩
  rw [read?_record least depth hnames hnodup, Option.bind_some, hbuild]

/-- A field that is there is read. -/
theorem required {members : List (String × Json)} {name : String} {j : Json} {a : α}
    (hlookup : members.lookup name = some j) (h : Denotes read depth j a) :
    (Members.mk depth members).required name read = some a := by
  rw [Members.required, hlookup, Option.bind_some, h.read_eq]

/-- A field that is there is read in place of a standard value. -/
theorem standing {members : List (String × Json)} {name : String} {j : Json} {a : α} (standard : α)
    (hlookup : members.lookup name = some j) (h : Denotes read depth j a) :
    (Members.mk depth members).standing name standard read = some a := by
  rw [Members.standing, hlookup]
  exact h.read_eq

/-- **The text of a tree is read as what the tree denotes.** -/
theorem ofBytes? {j : Json} {a : α} (h : Denotes read Reader.depthLimit j a) :
    read.ofBytes? (Text.utf8 j.render) = some a := by
  rw [Reader.ofBytes?, Json.parse?_render h.regular, Option.bind_some, h.read_eq]

end Denotes
end Paging
