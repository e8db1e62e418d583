/-
# Tokens are authentic

A token is accepted only if it is, byte for byte, a payload, the point and the Base64 of the tag of
this payload under the key (`decode_eq_ok_iff`). Since Base64 is strict, a payload has one
signature that is accepted, in one spelling. A signature that says another tag is refused before
anything is made of the payload.
-/
import Paging.Proofs.Text.Base64
import Paging.Token

namespace Paging
namespace Token

variable {key token payload signature : List UInt8} {c : Cursor}

/-- The point is no symbol of Base64. -/
theorem separator_not_mem_encode (bytes : List UInt8) : separator ∉ Base64.encode bytes :=
  Base64.not_mem_encode (by decide) bytes

/-- A token is split at its first point. -/
theorem split?_append (h : separator ∉ payload) :
    split? (payload ++ separator :: signature) = some (payload, signature) := by
  induction payload with
  | nil => simp [split?]
  | cons b rest ih =>
    rw [List.mem_cons, not_or] at h
    rw [List.cons_append, split?, if_neg (Ne.symm h.1), ih h.2]
    rfl

/-- A token is split at its first separator: its payload has none, and its signature is all that
follows. -/
theorem eq_append_of_split? (h : split? token = some (payload, signature)) :
    token = payload ++ separator :: signature ∧ separator ∉ payload := by
  induction token generalizing payload with
  | nil => cases h
  | cons b rest ih =>
    rw [split?] at h
    split_ifs at h with hb
    · obtain ⟨rfl, rfl⟩ := Prod.mk.inj (Option.some.inj h)
      exact ⟨by rw [hb]; rfl, List.not_mem_nil⟩
    · obtain ⟨⟨first, _⟩, hrest, heq⟩ := Option.map_eq_some_iff.1 h
      obtain ⟨rfl, rfl⟩ := Prod.mk.inj heq
      obtain ⟨rfl, hfirst⟩ := ih hrest
      exact ⟨rfl, by simpa [Ne.symm hb] using hfirst⟩

/-- What reading makes of a payload and a signature. -/
def decodeParts (key payload signature : List UInt8) : Except CursorError Cursor := do
  let tag ← decodePart signature
  if tag ≠ Hmac.tag key payload then .error .badSignature
  else
    let json ← decodePart payload
    match Cursor.ofJson.ofBytes? json with
    | some c => .ok c
    | none => .error (.malformed .payload)

/-- A token that is not too long is read by its parts. -/
theorem decode_append (hpayload : separator ∉ payload)
    (hlength : (payload ++ separator :: signature).length ≤ mostBytes) :
    decode key (payload ++ separator :: signature) = decodeParts key payload signature := by
  unfold decode
  rw [if_neg (Nat.not_lt.2 hlength), split?_append hpayload]
  rfl

/-- Decoding and encoding a part of a token are inverse to each other, so each list of bytes has one
text. -/
theorem decodePart_eq_ok {text bytes : List UInt8} :
    decodePart text = .ok bytes ↔ text = Base64.encode bytes :=
  mapError_eq_ok.trans Base64.decode_eq_ok_iff

/-- A signature that says another tag is refused, whatever the payload holds. -/
theorem decodeParts_of_ne {tag : List UInt8} (hread : Base64.decode signature = .ok tag)
    (hne : tag ≠ Hmac.tag key payload) :
    decodeParts key payload signature = .error .badSignature := by
  unfold decodeParts
  rw [decodePart_eq_ok.2 (Base64.decode_eq_ok_iff.1 hread)]
  exact if_pos hne

/-- The parts that are accepted: the signature is that of the payload, and the payload is the
Base64 of the JSON of the cursor. -/
theorem decodeParts_eq_ok_iff :
    decodeParts key payload signature = .ok c ↔
      signature = Base64.encode (Hmac.tag key payload) ∧
        ∃ json, payload = Base64.encode json ∧ Cursor.ofJson.ofBytes? json = some c := by
  constructor
  · intro h
    obtain ⟨tag, htag, h⟩ := bind_eq_ok.1 h
    split_ifs at h with hne
    obtain ⟨json, hjson, h⟩ := bind_eq_ok.1 h
    rw [Decidable.not_not] at hne
    refine ⟨hne ▸ decodePart_eq_ok.1 htag, json, decodePart_eq_ok.1 hjson, ?_⟩
    cases hread : Cursor.ofJson.ofBytes? json with
    | none => simp only [hread, reduceCtorEq] at h
    | some _ =>
      simp only [hread, Except.ok.injEq] at h
      exact congrArg some h
  · rintro ⟨rfl, json, rfl, hread⟩
    refine bind_eq_ok.2 ⟨_, decodePart_eq_ok.2 rfl, ?_⟩
    rw [if_neg (Decidable.not_not.2 rfl)]
    refine bind_eq_ok.2 ⟨_, decodePart_eq_ok.2 rfl, ?_⟩
    rw [hread]

/-- The tokens that are accepted, and what they are read as. A token without a separator is refused,
and any other is judged by its two parts. -/
theorem decode_eq_ok_iff :
    decode key token = .ok c ↔ token.length ≤ mostBytes ∧ ∃ payload json,
      separator ∉ payload ∧
      token = payload ++ separator :: Base64.encode (Hmac.tag key payload) ∧
      payload = Base64.encode json ∧ Cursor.ofJson.ofBytes? json = some c := by
  constructor
  · intro h
    have hlength : token.length ≤ mostBytes := by
      unfold decode at h
      split_ifs at h with hlong
      exact Nat.not_lt.1 hlong
    cases hsplit : split? token with
    | none =>
      simp only [decode, if_neg (Nat.not_lt.2 hlength), hsplit, reduceCtorEq] at h
    | some parts =>
      obtain ⟨payload, signature⟩ := parts
      obtain ⟨rfl, hpayload⟩ := eq_append_of_split? hsplit
      rw [decode_append hpayload hlength] at h
      obtain ⟨rfl, json, hjson, hread⟩ := decodeParts_eq_ok_iff.1 h
      exact ⟨hlength, payload, json, hpayload, rfl, hjson, hread⟩
  · rintro ⟨hlength, payload, json, hpayload, rfl, hjson, hread⟩
    rw [decode_append hpayload hlength]
    exact decodeParts_eq_ok_iff.2 ⟨rfl, json, hjson, hread⟩

/-- **Accepted tokens are authentic, and nobody can respell them.** An accepted token is not too
long, and it is a payload without points, a point, and the Base64 of the tag of the payload; the
cursor is what the JSON reads as that the payload is the Base64 of. To one payload one signature
is accepted: any other text behind the same point gives an error. And where the signature says
another tag, that is the error, whatever the payload holds. -/
theorem decode_authentic (key : List UInt8) :
    (∀ token c, decode key token = .ok c ↔ token.length ≤ mostBytes ∧ ∃ payload json,
      separator ∉ payload ∧
      token = payload ++ separator :: Base64.encode (Hmac.tag key payload) ∧
      payload = Base64.encode json ∧ Cursor.ofJson.ofBytes? json = some c) ∧
    (∀ payload signature other c, separator ∉ payload →
      decode key (payload ++ separator :: signature) = .ok c → other ≠ signature →
      ∃ e, decode key (payload ++ separator :: other) = .error e) ∧
    ∀ payload signature tag, separator ∉ payload →
      (payload ++ separator :: signature).length ≤ mostBytes →
      Base64.decode signature = .ok tag → tag ≠ Hmac.tag key payload →
      decode key (payload ++ separator :: signature) = .error .badSignature := by
  refine ⟨fun _ _ => decode_eq_ok_iff, fun payload signature other c hpayload haccepted hne => ?_,
    fun payload signature tag hpayload hlength hread hne => ?_⟩
  · -- whatever is accepted behind the payload is the one signature that was asked for
    have hsignature : ∀ text c, decode key (payload ++ separator :: text) = .ok c →
        text = Base64.encode (Hmac.tag key payload) := by
      intro text c h
      rw [decode_append hpayload (decode_eq_ok_iff.1 h).1] at h
      exact (decodeParts_eq_ok_iff.1 h).1
    cases hother : decode key (payload ++ separator :: other) with
    | error e => exact ⟨e, rfl⟩
    | ok c' => exact absurd ((hsignature _ _ hother).trans (hsignature _ _ haccepted).symm) hne
  · rw [decode_append hpayload hlength]
    exact decodeParts_of_ne hread hne

/-- The token of a cursor is accepted under its key; with the tag spelled with padding, or with a tag
of zeros, it is not. -/
theorem decode_authentic_respelled :
    let key : List UInt8 := [1, 2, 3]
    let c : Cursor := ⟨.ofNat 7, none, .ofList [("age", some (.int 30))]⟩
    let signature := Base64.encode (Hmac.tag key (Token.payload c))
    let zeros := List.replicate 32 0
    decode key (Token.payload c ++ separator :: signature) = .ok c ∧
    (∃ e, decode key (Token.payload c ++ separator :: (signature ++ [61])) = .error e) ∧
    decode key (Token.payload c ++ separator :: Base64.encode zeros) = .error .badSignature := by
  intro key c signature zeros
  obtain ⟨haccepted, hrespelled, hforged⟩ := decode_authentic key
  have hpayload : separator ∉ Token.payload c := separator_not_mem_encode _
  -- a tag of 32 bytes takes 43 symbols behind the separator
  have hlength : (Token.payload c).length + 44 ≤ mostBytes := by decide +kernel
  have hbytes (tag : List UInt8) (htag : tag.length = 32) :
      (Token.payload c ++ separator :: Base64.encode tag).length ≤ mostBytes := by
    rw [List.length_append, List.length_cons, Base64.length_encode, htag]
    exact hlength
  have hread : Cursor.ofJson.ofBytes? (Text.utf8 c.toJson.render) = some c := by decide +kernel
  have hok : decode key (Token.payload c ++ separator :: signature) = .ok c :=
    (haccepted _ _).2 ⟨hbytes _ (Hmac.length_tag key _), _, _, hpayload, rfl, rfl, hread⟩
  have hpadded : signature ++ [61] ≠ signature := by simp
  have htag : zeros ≠ Hmac.tag key (Token.payload c) := by decide +kernel
  exact ⟨hok, hrespelled _ _ _ _ hpayload hok hpadded,
    hforged _ _ _ hpayload (hbytes _ rfl) (Base64.decode_encode zeros) htag⟩

end Token
end Paging
