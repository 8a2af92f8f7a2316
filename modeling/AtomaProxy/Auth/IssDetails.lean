/-
The issuer of a zkLogin signature, taken out of its details: a slice of a
base64url text, decoded bit by bit from the slice's offset, and a regular
expression on what it decodes to.

A slice longer than 255 bytes, one with fewer base64url characters than its
offsets cut off, and a decoded text without an issuer are not errors: the
first two end in a failed `unwrap` and a `drain` out of range, the last in an
`unwrap` of the match.
-/
import AtomaProxy.Base.Bytes
import AtomaProxy.Base.Effect
import AtomaProxy.Auth.Errors

namespace AtomaProxy

open Base

/-- `BASE64_URL_CHARSET`. -/
def base64UrlCharset : List Char := "ABCDEFGHIJKLMNOPQRSTUVWXYZabcdefghijklmnopqrstuvwxyz0123456789-_".toList

/-- The six bits of an index, the highest first. -/
def sixBits (index : Nat) : List Bool :=
  [index.testBit 5, index.testBit 4, index.testBit 3, index.testBit 2, index.testBit 1, index.testBit 0]

/-- `base64_to_bitarray`: a character outside the charset gives no bits, since the iterator of an error is
empty, so the `collect` never sees one. -/
def base64ToBitarray (input : List Char) : List Bool :=
  input.flatMap fun c => ((base64UrlCharset.idxOf? c).map sixBits).getD []

/-- The number of characters that give bits. -/
def base64UrlChars (input : List Char) : Nat := input.countP fun c => (base64UrlCharset.idxOf? c).isSome

/-- `bitarray_to_bytearray`, of a length that is a multiple of eight. -/
def bitarrayToBytearray : List Bool → List UInt8
  | b7 :: b6 :: b5 :: b4 :: b3 :: b2 :: b1 :: b0 :: rest =>
    UInt8.ofNat (b7.toNat * 128 + b6.toNat * 64 + b5.toNat * 32 + b4.toNat * 16 + b3.toNat * 8 + b2.toNat * 4 +
      b1.toNat * 2 + b0.toNat) :: bitarrayToBytearray rest
  | _ => []

/-- `bits.drain(..n)`. -/
def drainFront (n : Nat) (bits : List Bool) : Ending AuthError (List Bool) :=
  if n ≤ bits.length then .ok (bits.drop n) else .panic

/-- `bits.drain(bits.len() - n..)`. -/
def drainBack (n : Nat) (bits : List Bool) : Ending AuthError (List Bool) :=
  if n ≤ bits.length then .ok (bits.take (bits.length - n)) else .panic

/-- `u8::try_from(n).unwrap()`. -/
def u8FromLen (n : Nat) : Ending AuthError UInt8 :=
  if n < 256 then .ok (UInt8.ofNat n) else .panic

/-- The match on `index_mod_4`. -/
def stripFirst (indexMod4 : UInt8) (bits : List Bool) : Ending AuthError (List Bool) :=
  if indexMod4 = 0 then .ok bits
  else if indexMod4 = 1 then drainFront 2 bits
  else if indexMod4 = 2 then drainFront 4 bits
  else .err (.anyhowError "Invalid first_char_offset")

/-- The match on `last_char_offset`. -/
def stripLast (lastCharOffset : UInt8) (bits : List Bool) : Ending AuthError (List Bool) :=
  if lastCharOffset = 3 then .ok bits
  else if lastCharOffset = 2 then drainBack 2 bits
  else if lastCharOffset = 1 then drainBack 4 bits
  else .err (.anyhowError "Invalid last_char_offset")

/-- `decode_base64_url`: the bytes of the text. -/
def decodeBase64Url (s : String) (indexMod4 : UInt8) : Ending AuthError (List UInt8) := do
  if s.utf8ByteSize < 2 then
    .err (.anyhowError "Base64 string smaller than 2")
  else
    let bits ← stripFirst indexMod4 (base64ToBitarray s.toList)
    let len ← u8FromLen s.utf8ByteSize
    let bits ← stripLast ((indexMod4 + len - 1) % 4) bits
    if bits.length % 8 ≠ 0 then
      .err (.anyhowError "Invalid bits length")
    else
      let bytes := bitarrayToBytearray bits
      if validUtf8 bytes then .ok bytes else .err (.anyhowError "Invalid UTF8 string")

/-- What `"iss":"` is before the issuer. -/
def issPrefix : List UInt8 := ascii "\"iss\":\""

def quote8 : UInt8 := 34
def newline8 : UInt8 := 10

/-- The part of a line before its last quote. -/
def beforeLastQuote (line : List UInt8) : Option (List UInt8) :=
  match line.reverse.dropWhile (· ≠ quote8) with
  | [] => .none
  | _ :: rest => .some rest.reverse

/-- The first group of `"iss":"(.*)".*`, matched at the start of the text; the dot stops at the line's end. -/
def issAt (text : List UInt8) : Option (List UInt8) :=
  if issPrefix.isPrefixOf text then beforeLastQuote ((text.drop issPrefix.length).takeWhile (· ≠ newline8))
  else .none

/-- The same, at the first place where it matches. -/
def captureIss : List UInt8 → Option (List UInt8)
  | [] => .none
  | b :: text => (issAt (b :: text)).or (captureIss text)

/-! ## When the decoding panics -/

/-- The bits that the last character's offset cuts off. -/
def strippedBits (lastCharOffset : UInt8) : Nat :=
  if lastCharOffset = 2 then 2 else if lastCharOffset = 1 then 4 else 0

/-- A slice that the decoding cannot take apart: it is too long for a byte, or it has fewer bits than its
offsets cut off. -/
def CutsTooMuch (s : String) (indexMod4 : UInt8) : Prop :=
  2 ≤ s.utf8ByteSize ∧ indexMod4 ≤ 2 ∧ (255 < s.utf8ByteSize ∨ 6 * base64UrlChars s.toList <
    2 * indexMod4.toNat + strippedBits ((indexMod4 + UInt8.ofNat s.utf8ByteSize - 1) % 4))

instance (s : String) (i : UInt8) : Decidable (CutsTooMuch s i) := inferInstanceAs (Decidable (_ ∧ _))

theorem length_base64ToBitarray (input : List Char) :
    (base64ToBitarray input).length = 6 * base64UrlChars input := by
  induction input with
  | nil => rfl
  | cons c input ih =>
    rw [base64ToBitarray, base64UrlChars] at *
    rw [List.flatMap_cons, List.length_append, ih, List.countP_cons]
    cases base64UrlCharset.idxOf? c with
    | none => simp
    | some i => simp [sixBits]; omega

theorem drainFront_of_le {n} {bits : List Bool} (h : n ≤ bits.length) : drainFront n bits = .ok (bits.drop n) :=
  if_pos h

theorem drainFront_of_lt {n} {bits : List Bool} (h : bits.length < n) : drainFront n bits = .panic :=
  if_neg (Nat.not_le.2 h)

theorem drainBack_eq_panic {n} {bits : List Bool} : drainBack n bits = .panic ↔ bits.length < n := by
  unfold drainBack
  split
  · next h => simp [h]
  · next h => simp [Nat.not_le.1 h]

/-- The first offset is refused, or cuts its bits off, or there are too few of them. -/
theorem stripFirst_cases (i : UInt8) (bits : List Bool) :
    (¬ i ≤ 2 ∧ ∃ e, stripFirst i bits = .err e) ∨ (i ≤ 2 ∧ bits.length < 2 * i.toNat ∧ stripFirst i bits = .panic) ∨
      (i ≤ 2 ∧ ∃ bits', stripFirst i bits = .ok bits' ∧ bits'.length + 2 * i.toNat = bits.length) := by
  unfold stripFirst
  by_cases h0 : i = 0
  · subst h0
    exact .inr (.inr ⟨by decide, bits, rfl, rfl⟩)
  · by_cases h1 : i = 1
    · subst h1
      rcases Nat.lt_or_ge bits.length 2 with hlt | hge
      · exact .inr (.inl ⟨by decide, hlt, drainFront_of_lt hlt⟩)
      · refine .inr (.inr ⟨by decide, bits.drop 2, drainFront_of_le hge, ?_⟩)
        rw [List.length_drop]
        exact Nat.sub_add_cancel hge
    · by_cases h2 : i = 2
      · subst h2
        rcases Nat.lt_or_ge bits.length 4 with hlt | hge
        · exact .inr (.inl ⟨by decide, hlt, drainFront_of_lt hlt⟩)
        · refine .inr (.inr ⟨by decide, bits.drop 4, drainFront_of_le hge, ?_⟩)
          rw [List.length_drop]
          exact Nat.sub_add_cancel hge
      · rw [if_neg h0, if_neg h1, if_neg h2]
        refine .inl ⟨fun hle => ?_, _, rfl⟩
        rw [UInt8.le_iff_toNat_le] at hle
        rw [← UInt8.toNat_inj] at h0 h1 h2
        simp only [UInt8.toNat_ofNat, Nat.reducePow, Nat.reduceMod] at hle h0 h1 h2
        omega

theorem stripLast_eq_panic {o : UInt8} {bits : List Bool} :
    stripLast o bits = .panic ↔ bits.length < strippedBits o := by
  unfold stripLast strippedBits
  by_cases h3 : o = 3
  · subst h3
    simp
  · rw [if_neg h3]
    split
    · exact drainBack_eq_panic
    · split
      · exact drainBack_eq_panic
      · simp

/-- The decoding panics on the slices it cannot take apart, and on no other. -/
theorem decodeBase64Url_eq_panic {s : String} {i : UInt8} : decodeBase64Url s i = .panic ↔ CutsTooMuch s i := by
  unfold decodeBase64Url CutsTooMuch
  by_cases hlen : s.utf8ByteSize < 2
  · simp [hlen, Nat.not_le.2 hlen]
  · rw [if_neg hlen]
    have hbits := length_base64ToBitarray s.toList
    rcases stripFirst_cases i (base64ToBitarray s.toList) with ⟨hi, e, he⟩ | ⟨hi, hlt, hp⟩ | ⟨hi, bits, hok, hb⟩
    · simp [he, hi]
    · simp only [hp, Ending.panic_bind, true_iff]
      exact ⟨Nat.le_of_not_lt hlen, hi, .inr (by omega)⟩
    · rw [hok, Ending.ok_bind]
      by_cases hlong : s.utf8ByteSize < 256
      · rw [u8FromLen, if_pos hlong, Ending.ok_bind, Ending.bind_eq_panic, stripLast_eq_panic]
        constructor
        · intro h
          rcases h with hlt | ⟨bits', _, hrest⟩
          · exact ⟨Nat.le_of_not_lt hlen, hi, .inr (by omega)⟩
          · -- the checks after the last `drain` are errors
            split at hrest
            · cases hrest
            · dsimp only at hrest
              split at hrest <;> cases hrest
        · intro h
          rcases h.2.2 with hsize | hcut
          · omega
          · exact .inl (by omega)
      · rw [u8FromLen, if_neg hlong, Ending.panic_bind]
        simp only [true_iff]
        exact ⟨Nat.le_of_not_lt hlen, hi, .inl (by omega)⟩

end AtomaProxy
