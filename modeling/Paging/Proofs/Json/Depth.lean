/-
# How deep a tree nests

The depth of a tree is the number of containers that are open at once at its deepest place
(`Json.depth`). A form whose depth varies is read when at least so many containers may be opened,
and refused otherwise (`DenotesExactly`). The rules follow the shapes of forms: something without
containers, a variant around one thing or around two sides, a list, something that may be missing,
and a record. Main statement: `DenotesExactly.ofBytes?`, for whole texts and the limit of readers.
-/
import Paging.Proofs.Json.Form

namespace Paging

namespace Json

mutual

/-- The number of containers that are open at once at the deepest place of a tree. -/
def depth : Json → Nat
  | null => 0
  | bool _ => 0
  | number _ => 0
  | string _ => 0
  | array items => itemsDepth items + 1
  | object members => membersDepth members + 1

/-- The greatest depth of items. -/
def itemsDepth : List Json → Nat
  | [] => 0
  | item :: rest => max (depth item) (itemsDepth rest)

/-- The greatest depth of the values of members. -/
def membersDepth : List (Option String × Json) → Nat
  | [] => 0
  | (_, value) :: rest => max (depth value) (membersDepth rest)

end

/-- Items nest as deep as the deepest of them. -/
theorem itemsDepth_le_iff {items : List Json} {n : Nat} :
    itemsDepth items ≤ n ↔ ∀ item ∈ items, item.depth ≤ n := by
  induction items with
  | nil => simp [itemsDepth]
  | cons item rest ih => rw [itemsDepth, Nat.max_le, List.forall_mem_cons, ih]

/-- Members nest as deep as the deepest of their values. -/
theorem membersDepth_le_iff {members : List (Option String × Json)} {n : Nat} :
    membersDepth members ≤ n ↔ ∀ m ∈ members, m.2.depth ≤ n := by
  induction members with
  | nil => simp [membersDepth]
  | cons m rest ih => rw [membersDepth, Nat.max_le, List.forall_mem_cons, ih]

/-- An array opens one container around its items. -/
theorem depth_array_le_iff {items : List Json} {n : Nat} :
    (array items).depth ≤ n + 1 ↔ ∀ item ∈ items, item.depth ≤ n := by
  rw [depth, Nat.add_le_add_iff_right, itemsDepth_le_iff]

/-- A record opens one container around its fields. -/
theorem depth_record_le_iff {members : List (String × Json)} {n : Nat} :
    (record members).depth ≤ n + 1 ↔ ∀ m ∈ members, m.2.depth ≤ n := by
  rw [record, depth, Nat.add_le_add_iff_right, membersDepth_le_iff, List.forall_mem_map]

/-- A variant opens one container around what it holds. -/
theorem depth_variant (name : String) (content : Json) :
    (variant name content).depth = content.depth + 1 :=
  congrArg (· + 1) (Nat.max_zero _)

end Json

/-- A tree from which a value is read exactly when as many containers may be opened as it nests,
and which is read back from its own text. -/
structure DenotesExactly {α : Type} (read : Reader α) (j : Json) (a : α) : Prop where
  regular : j.Regular
  read_eq : ∀ depth, read depth j = if j.depth ≤ depth then some a else none

namespace DenotesExactly

variable {α β γ : Type} {read : Reader α} {write : α → Json} {j : Json} {a : α} {depth : Nat}

/-- A tree without containers is read however few may be opened. -/
theorem leaf (hdepth : j.depth = 0) (h : ∀ depth, Denotes read depth j a) :
    DenotesExactly read j a := by
  refine ⟨(h 0).regular, fun depth => ?_⟩
  rw [(h depth).read_eq, hdepth, if_pos depth.zero_le]

/-- A text opens no container, so it is read at any depth. -/
theorem text (s : String) : DenotesExactly .text (.text s) s :=
  leaf rfl fun depth => .text depth s

/-- A bare variant is read as what its name stands for. -/
theorem word {words : List (String × α)} {name : String} (h : words.lookup name = some a) :
    DenotesExactly (.word words) (.text name) a := by
  refine leaf rfl fun depth => ⟨.string _, ?_⟩
  cases depth <;> exact h

/-- What is made of something that is read. -/
theorem mapped (f : α → β) (h : DenotesExactly read j a) :
    DenotesExactly (fun depth j => (read depth j).map f) j (f a) := by
  refine ⟨h.regular, fun depth => ?_⟩
  rw [h.read_eq]
  split <;> rfl

/-- A reading goes on with its value if enough containers may be opened. -/
theorem bind_eq (h : DenotesExactly read j a) (next : α → Option β) :
    (read depth j).bind next = if j.depth ≤ depth then next a else none := by
  rw [h.read_eq]
  split <;> rfl

/-- A variant opens one container around what it holds. -/
theorem variant {outer : Reader α} {name : String} {content : Json}
    (hshut : outer 0 (.variant name content) = none)
    (hopen : ∀ depth, outer (depth + 1) (.variant name content) = read depth content)
    (h : DenotesExactly read content a) : DenotesExactly outer (.variant name content) a := by
  refine ⟨Denotes.regular_record fun m hm => ?_, fun depth => ?_⟩
  · rw [List.mem_singleton.1 hm]
    exact h.regular
  · rw [Json.depth_variant]
    cases depth with
    | zero => exact hshut
    | succ depth => simp only [hopen, h.read_eq, Nat.add_le_add_iff_right]

/-- A variant opens two containers around the two sides that it holds. -/
theorem sides {outer : Reader γ} {first : Reader α} {second : Reader β} {f : α → β → γ}
    {name : String} {i : Json} {b : β}
    (hshut : outer 0 (.variant name (.array [i, j])) = none)
    (hinner : outer 1 (.variant name (.array [i, j])) = none)
    (hopen : ∀ depth, outer (depth + 2) (.variant name (.array [i, j])) =
      (first depth i).bind fun a => (second depth j).bind fun b => some (f a b))
    (hi : DenotesExactly first i a) (hj : DenotesExactly second j b) :
    DenotesExactly outer (.variant name (.array [i, j])) (f a b) := by
  refine ⟨Denotes.regular_record fun m hm => ?_, fun depth => ?_⟩
  · rw [List.mem_singleton.1 hm]
    refine .array ?_
    simp only [List.forall_mem_cons]
    exact ⟨hi.regular, hj.regular, by simp⟩
  · rcases depth with _ | _ | depth
    · exact hshut
    · exact hinner
    · rw [hopen, hi.bind_eq, hj.bind_eq]
      simp only [Json.depth_variant, Nat.add_le_add_iff_right, Json.depth_array_le_iff,
        List.forall_mem_cons, List.not_mem_nil, false_implies, implies_true, and_true, ite_and]

/-- The values of a list are read from an array. -/
theorem list {items : List α} (h : ∀ a ∈ items, DenotesExactly read (write a) a) :
    DenotesExactly (.list read) (.ofList write items) items := by
  refine ⟨.array fun item hitem => ?_, fun depth => ?_⟩
  · obtain ⟨a, ha, rfl⟩ := List.mem_map.1 hitem
    exact (h a ha).regular
  · cases depth with
    | zero => rfl
    | succ depth =>
      show (items.map write).mapM (read depth) = _
      simp only [Json.ofList, Json.depth_array_le_iff]
      induction items with
      | nil => simp
      | cons a rest ih =>
        obtain ⟨ha, hrest⟩ := List.forall_mem_cons.1 h
        simp only [List.map_cons, List.mapM_cons, Option.bind_eq_bind, ha.bind_eq, ih hrest,
          List.forall_mem_cons, ite_and]
        split
        · split <;> rfl
        · rfl

/-- What may be missing is read if its form is never null. -/
theorem optional {o : Option α}
    (h : ∀ a, o = some a → DenotesExactly read (write a) a ∧ write a ≠ .null) :
    DenotesExactly read.optional (.ofOption write o) o := by
  cases o with
  | none => exact leaf rfl fun depth => ⟨.null, rfl⟩
  | some a =>
    obtain ⟨ha, hnull⟩ := h a rfl
    refine ⟨ha.regular, fun depth => ?_⟩
    show read.optional depth (write a) = if (write a).depth ≤ depth then _ else _
    rw [Reader.optional_of_ne_null hnull, ha.read_eq]
    split <;> rfl

/-- Fields that are read one after the other are read if each nests no deeper than allowed. -/
theorem foldr_fields (members : List (String × Json)) (result : Option α) :
    members.foldr (fun m rest => if m.2.depth ≤ depth then rest else none) result =
      if ∀ m ∈ members, m.2.depth ≤ depth then result else none := by
  induction members with
  | nil => simp
  | cons m rest ih => simp only [List.foldr_cons, ih, List.forall_mem_cons, ite_and]

/-- A record is read field by field. -/
theorem record {names : List String} {least : Nat} {members : List (String × Json)}
    {build : Members → Option α} (hnames : ∀ m ∈ members, m.1 ∈ names)
    (hnodup : (members.map (·.1)).Nodup) (hregular : ∀ m ∈ members, m.2.Regular)
    (hbuild : ∀ depth, build ⟨depth, members⟩ =
      members.foldr (fun m rest => if m.2.depth ≤ depth then rest else none) (some a)) :
    DenotesExactly (fun depth j => (Members.read? names least depth j).bind build)
      (.record members) a := by
  refine ⟨Denotes.regular_record hregular, fun depth => ?_⟩
  cases depth with
  | zero => rfl
  | succ depth =>
    rw [Denotes.read?_record least depth hnames hnodup, Option.bind_some, hbuild, foldr_fields]
    simp only [Json.depth_record_le_iff]

/-- A field that is there goes on with its value if enough containers may be opened. -/
theorem required_bind {members : List (String × Json)} {name : String}
    (hlookup : members.lookup name = some j) (h : DenotesExactly read j a)
    (next : α → Option β) :
    ((Members.mk depth members).required name read).bind next =
      if j.depth ≤ depth then next a else none := by
  rw [Members.required, hlookup, Option.bind_some, h.bind_eq]

/-- The next field that may be missing is read, or ends the reading if it nests too deep. -/
theorem optional_bind {members : List (String × Json)} {name : String} {o : Option α}
    (hlookup : members.lookup name = some j) (h : DenotesExactly read.optional j o)
    (next : Option α → Option β) :
    ((Members.mk depth members).optional name read).bind next =
      if j.depth ≤ depth then next o else none := by
  rw [Members.optional, Members.standing, hlookup]
  exact h.bind_eq next

/-- **The text of a tree is read as what the tree denotes unless it nests too deep.** -/
theorem ofBytes? (h : DenotesExactly read j a) : read.ofBytes? (Text.utf8 j.render) =
    if j.depth ≤ Reader.depthLimit then some a else none := by
  rw [Reader.ofBytes?, Json.parse?_render h.regular, Option.bind_some, h.read_eq]

end DenotesExactly
end Paging
