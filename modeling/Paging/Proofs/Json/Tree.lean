/-
# Written trees are read back

The text of a tree is cut into the tokens of the tree, whatever follows it as long as that does not
go on with its last number (`spells_render`), and the tokens of a tree, taken one by one from where
a value must begin, lead to the complete tree (`foldlM_tokens`). Both are shown along the tree, with
one statement for a value, one for further items and one for further members. Main statement:
`parse?_render`, for trees whose numbers are well-formed (`Regular`).

What follows a text is part of every statement (`Spells`), so that texts one after another spell
their tokens one after another (`Spells.append`). Only a number can be lengthened by what follows
it, and behind a value in a tree there is a comma, a bracket or the end (`stops_append`).
-/
import Paging.Json.Tree
import Paging.Proofs.Json.Token

namespace Paging
namespace Json

/-- A tree whose numerals are well-formed. -/
inductive Regular : Json → Prop
  | null : Regular null
  | bool (truth : Bool) : Regular (bool truth)
  | number {n : Numeral} (h : n.WellFormed) : Regular (number n)
  | string (text : Option String) : Regular (string text)
  | array {items : List Json} (h : ∀ item ∈ items, Regular item) : Regular (array items)
  | object {members : List (Option String × Json)} (h : ∀ m ∈ members, Regular m.2) :
    Regular (object members)

mutual

/-- The tokens of a tree. -/
def tokens : Json → List Token
  | null => [.null]
  | bool truth => [.bool truth]
  | number n => [.number n]
  | string s => [.string s]
  | array items => .openArray :: itemTokens items ++ [.closeArray]
  | object members => .openObject :: memberTokens members ++ [.closeObject]

/-- The tokens of items separated by commas. -/
def itemTokens : List Json → List Token
  | [] => []
  | item :: rest => tokens item ++ moreItemTokens rest

/-- The tokens of further items, each after a comma. -/
def moreItemTokens : List Json → List Token
  | [] => []
  | item :: rest => .comma :: tokens item ++ moreItemTokens rest

/-- The tokens of members separated by commas. -/
def memberTokens : List (Option String × Json) → List Token
  | [] => []
  | (key, value) :: rest => .string key :: .colon :: tokens value ++ moreMemberTokens rest

/-- The tokens of further members, each after a comma. -/
def moreMemberTokens : List (Option String × Json) → List Token
  | [] => []
  | (key, value) :: rest =>
    .comma :: .string key :: .colon :: tokens value ++ moreMemberTokens rest

end

/-! ## From text to tokens -/

/-- A text is cut into tokens, whatever tokens the rest is cut into. -/
def Spells (text : List Char) (ts : List Token) (rest : List UInt8) : Prop :=
  tokens? (Text.utf8 text ++ rest) = (tokens? rest).map (ts ++ ·)

variable {rest : List UInt8}

/-- No bytes are no tokens. -/
theorem tokens?_nil : tokens? [] = some [] := by
  rw [tokens?.eq_def]
  rfl

/-- A token that begins with a byte is cut off. -/
theorem tokens?_cons {first : UInt8} {text : List UInt8} {t : Token}
    (hblank : isBlank first = false) (h : token? first text = some (t, rest)) :
    tokens? (first :: text) = (tokens? rest).map (t :: ·) := by
  have hskip : skipBlanks (first :: text) = first :: text := by simp [skipBlanks, hblank]
  rw [tokens?.eq_def]
  split
  · next heq =>
    rw [hskip] at heq
    cases heq
  · next heq =>
    rw [hskip] at heq
    obtain ⟨rfl, rfl⟩ := List.cons.inj heq
    split
    · next hnone =>
      rw [h] at hnone
      cases hnone
    · next hsome =>
      rw [h] at hsome
      obtain ⟨rfl, rfl⟩ := Prod.mk.inj (Option.some.inj hsome)
      rfl

/-- Nothing spells nothing. -/
theorem Spells.nil (rest : List UInt8) : Spells [] [] rest := by
  show tokens? rest = _
  simp

/-- Texts one after the other spell their tokens one after the other. -/
theorem Spells.append {a b : List Char} {ts us : List Token}
    (ha : Spells a ts (Text.utf8 b ++ rest)) (hb : Spells b us rest) :
    Spells (a ++ b) (ts ++ us) rest := by
  unfold Spells at *
  rw [Text.utf8_append, List.append_assoc, ha, hb, Option.map_map]
  simp only [Function.comp_def, List.append_assoc]

/-- A text that is one token. -/
theorem Spells.of_token? {text : List Char} {t : Token} (first : UInt8) (more : List UInt8)
    (htext : Text.utf8 text = first :: more) (hblank : isBlank first = false)
    (h : token? first (more ++ rest) = some (t, rest)) : Spells text [t] rest := by
  rw [Spells, htext, List.cons_append, tokens?_cons hblank h]
  rfl

/-- A character that is a token by itself. -/
theorem spells_punctuation (c : Char) {t : Token} (rest : List UInt8) (hc : c.toNat < 128)
    (hblank : isBlank (byteOf c) = false) (h : punctuation? (byteOf c) = some t) :
    Spells [c] [t] rest := by
  refine .of_token? (byteOf c) [] ?_ hblank ?_
  · rw [Text.utf8_cons, Text.utf8EncodeChar_ascii hc]
    rfl
  · simp only [token?, h]
    rfl

/-- A byte that begins a numeral begins no other token. -/
theorem token?_digit {b : UInt8} (h : isDigit b = true) (text : List UInt8) :
    token? b text = (numeral? false (b :: text)).map fun n => (.number n.1, n.2) := by
  have hne (c : UInt8) (hc : isDigit c = false) : b ≠ c := by
    rintro rfl
    rw [h] at hc
    cases hc
  have hpunctuation : punctuation? b = none := by
    simp only [punctuation?, if_neg (hne _ (by decide : isDigit 91 = false)),
      if_neg (hne _ (by decide : isDigit 93 = false)),
      if_neg (hne _ (by decide : isDigit 123 = false)),
      if_neg (hne _ (by decide : isDigit 125 = false)),
      if_neg (hne _ (by decide : isDigit 44 = false)),
      if_neg (hne _ (by decide : isDigit 58 = false))]
  have hword : word? b = none := by
    simp only [word?, if_neg (hne _ (by decide : isDigit 110 = false)),
      if_neg (hne _ (by decide : isDigit 116 = false)),
      if_neg (hne _ (by decide : isDigit 102 = false))]
  simp only [token?, hpunctuation, hword, if_neg (hne _ (by decide : isDigit 34 = false)),
    if_neg (hne _ (by decide : isDigit 45 = false))]

/-- A digit is no blank. -/
theorem isBlank_of_isDigit {b : UInt8} (h : isDigit b = true) : isBlank b = false := by
  simp only [isDigit, Bool.and_eq_true, decide_eq_true_eq, UInt8.le_iff_toNat_le] at h
  have hne (c : UInt8) (hc : c.toNat < 48) : (b == c) = false := by
    rw [beq_eq_false_iff_ne]
    rintro rfl
    exact absurd hc (Nat.not_lt.2 h.1)
  rw [isBlank, hne 32 (by decide), hne 9 (by decide), hne 10 (by decide), hne 13 (by decide)]
  rfl

/-- A numeral is one token. The token begins with the minus or with the first digit. -/
theorem spells_number {n : Numeral} (h : n.WellFormed) (hrest : Stops rest) :
    Spells n.text [.number n] rest := by
  have hread := numeral?_utf8 h hrest
  rw [text_eq]
  cases hnegative : n.negative with
  | true =>
    rw [hnegative] at hread
    refine .of_token? 45 (Text.utf8 (unsignedText n)) rfl (by decide) ?_
    show (numeral? true _).map _ = _
    rw [hread]
    rfl
  | false =>
    obtain ⟨c, more, hcons, -, hc⟩ := exists_utf8_digits h.whole_ne_nil h.whole
    obtain ⟨tail, htail⟩ : ∃ tail, unsignedText n = c :: tail := by
      rw [unsignedText, hcons]
      exact ⟨_, rfl⟩
    have hdigit := isDigit_byteOf hc
    have hascii : c.toNat < 128 := by
      have := Text.toNat_of_isDigit hc
      omega
    have hbytes : Text.utf8 (unsignedText n) = byteOf c :: Text.utf8 tail := by
      rw [htail, Text.utf8_cons, Text.utf8EncodeChar_ascii hascii]
      rfl
    rw [hnegative, hbytes, List.cons_append] at hread
    refine .of_token? (byteOf c) (Text.utf8 tail) hbytes (isBlank_of_isDigit hdigit) ?_
    rw [token?_digit hdigit, hread]
    rfl

/-- A string literal is one token. What is no Unicode text is written as a lone surrogate. -/
theorem spells_quote (s : Option String) : Spells (quote s) [.string s] rest := by
  cases s with
  | none =>
    have hunit : hexUnit? 100 56 48 48 = some 0xd800 := by decide
    refine .of_token? 34 [92, 117, 100, 56, 48, 48, 34] rfl (by decide) ?_
    show (pieces? (92 :: 117 :: 100 :: 56 :: 48 :: 48 :: 34 :: rest)).map _ = _
    rw [pieces?_unit hunit, pieces?_quote]
    rfl
  | some s =>
    obtain ⟨ps, hpieces, hcontents⟩ := exists_cut_text s.toList
    have hbytes : Text.utf8 (quote (some s)) =
        34 :: (Text.utf8 (s.toList.flatMap escape) ++ [34]) := by
      have hmark : String.utf8EncodeChar '"' = [34] := by decide
      show Text.utf8 ('"' :: (s.toList.flatMap escape ++ ['"'])) = _
      rw [Text.utf8_cons, Text.utf8_append, Text.utf8_cons, hmark]
      rfl
    have htext : ofPieces? (ps ++ []) = some s := by
      rw [ofPieces?, hcontents]
      show Text.ofBytes? (Text.utf8 s.toList ++ []) = some s
      rw [List.append_nil]
      exact Text.ofBytes?_bytes s
    refine .of_token? 34 _ hbytes (by decide) ?_
    show (pieces? _).map _ = _
    rw [List.append_assoc, hpieces, List.singleton_append, pieces?_quote]
    show some (Token.string (ofPieces? (ps ++ [])), rest) = _
    rw [htext]

/-- A text in which nothing or a comma comes first. -/
theorem stops_append {text : List Char} (h : ∀ c ∈ text.head?, c = ',') (hrest : Stops rest) :
    Stops (Text.utf8 text ++ rest) := by
  cases text with
  | nil => exact hrest
  | cons c more =>
    rw [h c rfl]
    exact stops_cons (by decide)

/-- Further items begin with a comma, so they stop a number. -/
theorem head?_renderMoreItems (items : List Json) :
    ∀ c ∈ (renderMoreItems items).head?, c = ',' := by
  cases items with
  | nil => simp [renderMoreItems]
  | cons item more => simp [renderMoreItems]

/-- Further members begin with a comma, too. -/
theorem head?_renderMoreMembers (members : List (Option String × Json)) :
    ∀ c ∈ (renderMoreMembers members).head?, c = ',' := by
  cases members with
  | nil => simp [renderMoreMembers]
  | cons m more => simp [renderMoreMembers]

/-- A member is a key, a colon and a value. -/
theorem spells_member (key : Option String) {value : Json}
    (h : Spells (render value) (tokens value) rest) :
    Spells (quote key ++ ':' :: render value) (.string key :: .colon :: tokens value) rest :=
  (spells_quote key).append ((spells_punctuation ':' _ (by decide) (by decide) rfl).append h)

mutual

/-- **The text of a tree is cut into its tokens**, before anything that does not go on with a
number. -/
theorem spells_render : ∀ (j : Json) {rest : List UInt8}, Regular j → Stops rest →
    Spells (render j) (tokens j) rest
  | null, _, _, _ => .of_token? 110 [117, 108, 108] rfl (by decide) rfl
  | bool true, _, _, _ => .of_token? 116 [114, 117, 101] rfl (by decide) rfl
  | bool false, _, _, _ => .of_token? 102 [97, 108, 115, 101] rfl (by decide) rfl
  | number n, _, .number h, hrest => spells_number h hrest
  | string s, _, _, _ => spells_quote s
  | array items, rest, .array h, _ => by
    have hitems := spells_renderItems items h (stops_cons (by decide) : Stops (93 :: rest))
    exact ((spells_punctuation '[' _ (by decide) (by decide) rfl).append hitems).append
      (spells_punctuation ']' rest (by decide) (by decide) rfl)
  | object members, rest, .object h, _ => by
    have hmembers := spells_renderMembers members h (stops_cons (by decide) : Stops (125 :: rest))
    exact ((spells_punctuation '\x7b' _ (by decide) (by decide) rfl).append hmembers).append
      (spells_punctuation '\x7d' rest (by decide) (by decide) rfl)

/-- The items of an array spell their tokens. -/
theorem spells_renderItems : ∀ (items : List Json) {rest : List UInt8},
    (∀ item ∈ items, Regular item) → Stops rest → Spells (renderItems items) (itemTokens items) rest
  | [], rest, _, _ => .nil rest
  | item :: more, rest, h, hrest => by
    obtain ⟨hitem, hmore⟩ := List.forall_mem_cons.1 h
    exact (spells_render item hitem (stops_append (head?_renderMoreItems more) hrest)).append
      (spells_renderMoreItems more hmore hrest)

/-- Further items do, each behind its comma. -/
theorem spells_renderMoreItems : ∀ (items : List Json) {rest : List UInt8},
    (∀ item ∈ items, Regular item) → Stops rest →
      Spells (renderMoreItems items) (moreItemTokens items) rest
  | [], rest, _, _ => .nil rest
  | item :: more, rest, h, hrest => by
    obtain ⟨hitem, hmore⟩ := List.forall_mem_cons.1 h
    have hvalue := spells_render item hitem (stops_append (head?_renderMoreItems more) hrest)
    exact ((spells_punctuation ',' _ (by decide) (by decide) rfl).append hvalue).append
      (spells_renderMoreItems more hmore hrest)

/-- The members of an object spell their tokens. -/
theorem spells_renderMembers : ∀ (members : List (Option String × Json)) {rest : List UInt8},
    (∀ m ∈ members, Regular m.2) → Stops rest →
      Spells (renderMembers members) (memberTokens members) rest
  | [], rest, _, _ => .nil rest
  | (key, value) :: more, rest, h, hrest => by
    obtain ⟨hvalue, hmore⟩ := List.forall_mem_cons.1 h
    have hread := spells_render value hvalue (stops_append (head?_renderMoreMembers more) hrest)
    exact (spells_member key hread).append (spells_renderMoreMembers more hmore hrest)

/-- Further members do, each behind its comma. -/
theorem spells_renderMoreMembers : ∀ (members : List (Option String × Json)) {rest : List UInt8},
    (∀ m ∈ members, Regular m.2) → Stops rest →
      Spells (renderMoreMembers members) (moreMemberTokens members) rest
  | [], rest, _, _ => .nil rest
  | (key, value) :: more, rest, h, hrest => by
    obtain ⟨hvalue, hmore⟩ := List.forall_mem_cons.1 h
    have hread := spells_render value hvalue (stops_append (head?_renderMoreMembers more) hrest)
    exact ((spells_punctuation ',' _ (by decide) (by decide) rfl).append
      (spells_member key hread)).append (spells_renderMoreMembers more hmore hrest)

end

/-- **A rendered tree is cut into its tokens.** -/
theorem tokens?_render {j : Json} (h : Regular j) :
    tokens? (Text.utf8 (render j)) = some (tokens j) := by
  have hread : Spells (render j) (tokens j) [] := spells_render j h fun _ hb => by cases hb
  rw [Spells, List.append_nil, tokens?_nil] at hread
  rw [hread, Option.map_some, List.append_nil]

/-! ## From tokens to the tree -/

/-- A value in an array that has just been opened is its first item. -/
theorem foldlM_arrayStart (j : Json) (frames : List Frame) (more : List Token) :
    (tokens j ++ more).foldlM State.step (.arrayStart frames) =
      (tokens j ++ more).foldlM State.step (.value (.array [] :: frames)) := by
  cases j <;> rfl

mutual

/-- **The tokens of a tree complete it**, where a value must begin. -/
theorem foldlM_tokens : ∀ (j : Json) (frames : List Frame) (more : List Token),
    (tokens j ++ more).foldlM State.step (.value frames) =
      more.foldlM State.step (.complete j frames)
  | null, _, _ | bool _, _, _ | number _, _, _ | string _, _, _ => rfl
  | array [], _, _ => rfl
  | array (item :: rest), frames, more => by
    -- the first item stands where the array could also close
    show ((tokens item ++ moreItemTokens rest ++ [Token.closeArray]) ++ more).foldlM State.step
      (.arrayStart frames) = _
    rw [List.append_assoc, List.append_assoc, foldlM_arrayStart, foldlM_tokens item,
      List.singleton_append, foldlM_moreItemTokens rest]
    rfl
  | object [], _, _ => rfl
  | object ((key, value) :: rest), frames, more => by
    show ((tokens value ++ moreMemberTokens rest ++ [Token.closeObject]) ++ more).foldlM State.step
      (.value (.object [] key :: frames)) = _
    rw [List.append_assoc, List.append_assoc, foldlM_tokens value, List.singleton_append,
      foldlM_moreMemberTokens rest]
    rfl

/-- Further items complete the array. -/
theorem foldlM_moreItemTokens : ∀ (items : List Json) (v : Json) (done : List Json)
    (frames : List Frame) (more : List Token),
    (moreItemTokens items ++ .closeArray :: more).foldlM State.step
        (.complete v (.array done :: frames)) =
      more.foldlM State.step (.complete (.array ((v :: done).reverse ++ items)) frames)
  | [], v, done, frames, more => by
    rw [List.append_nil]
    rfl
  | item :: rest, v, done, frames, more => by
    show ((tokens item ++ moreItemTokens rest) ++ .closeArray :: more).foldlM State.step
      (.value (.array (v :: done) :: frames)) = _
    rw [List.append_assoc, foldlM_tokens item, foldlM_moreItemTokens rest, List.reverse_cons,
      List.append_assoc]
    rfl

/-- Further members complete the object. -/
theorem foldlM_moreMemberTokens : ∀ (members : List (Option String × Json)) (v : Json)
    (done : List (Option String × Json)) (key : Option String) (frames : List Frame)
    (more : List Token),
    (moreMemberTokens members ++ .closeObject :: more).foldlM State.step
        (.complete v (.object done key :: frames)) =
      more.foldlM State.step (.complete (.object (((key, v) :: done).reverse ++ members)) frames)
  | [], v, done, key, frames, more => by
    rw [List.append_nil]
    rfl
  | (k, value) :: rest, v, done, key, frames, more => by
    show ((tokens value ++ moreMemberTokens rest) ++ .closeObject :: more).foldlM State.step
      (.value (.object ((key, v) :: done) k :: frames)) = _
    rw [List.append_assoc, foldlM_tokens value, foldlM_moreMemberTokens rest, List.reverse_cons,
      List.append_assoc]
    rfl

end

/-- **A tree is read back from its text.** -/
theorem parse?_render {j : Json} (h : Regular j) : parse? (Text.utf8 (render j)) = some j := by
  have htokens := foldlM_tokens j [] []
  rw [List.append_nil] at htokens
  rw [parse?, tokens?_render h, Option.bind_some, ofTokens?, htokens]
  rfl

end Json
end Paging
