/-
What the decoding of an issuer's details is to give: of a slice of a base64url
text, the bytes that the slice holds whole, and an error of anything else.

A character outside the alphabet is left out instead of refused, and a slice
that is too long, or of which too little is left, is a panic. Apart from these
the decoding is right.
-/
import AtomaProxy.Auth.IssDetails
import AtomaProxy.Base.Base64

namespace AtomaProxy

open Base

/-- The base64url text of bytes, without padding. -/
def base64UrlEncode (bs : List UInt8) : List Char := (base64Indices bs).map fun x => base64UrlCharset.getD x 'A'

/-- The place of a slice's last character among four, from its first one's and its length. -/
def lastCharOffset (indexMod4 : UInt8) (size : Nat) : Nat := (indexMod4.toNat + size + 3) % 4

/-- The alignments of a slice's two ends that are admitted. -/
def AlignmentsAdmitted (s : String) (indexMod4 : UInt8) : Prop :=
  indexMod4 ≤ 2 ∧ lastCharOffset indexMod4 s.utf8ByteSize ≠ 0

/-- What is to come of a slice at an index. -/
structure FragmentDecoded (s : String) (indexMod4 : UInt8) (result : Ending AuthError (List UInt8)) : Prop where
  contained : ∀ bs before after, base64UrlEncode bs = before ++ s.toList ++ after → 2 ≤ s.toList.length →
    before.length % 4 = indexMod4.toNat % 4 → AlignmentsAdmitted s indexMod4 →
    validUtf8 (bytesWithin bs before.length s.toList.length) →
    result = .ok (bytesWithin bs before.length s.toList.length)
  foreign : (∃ c ∈ s.toList, c ∉ base64UrlCharset) → ∃ e, result = .err e
  misaligned : ¬ AlignmentsAdmitted s indexMod4 → ∃ e, result = .err e
  total : result ≠ .panic

/-- The bits of the characters that are in the alphabet, without those that the two ends cut off. -/
def alignedBits (s : String) (indexMod4 : UInt8) : List Bool :=
  let bits := (s.toList.filterMap base64UrlCharset.idxOf?).flatMap (bitsOfNat 6)
  (bits.drop (2 * indexMod4.toNat)).take
    (bits.length - 2 * indexMod4.toNat - 2 * (3 - lastCharOffset indexMod4 s.utf8ByteSize))

/-- Those bits are a text's. -/
def LeavesText (s : String) (indexMod4 : UInt8) : Prop :=
  2 ≤ s.utf8ByteSize ∧ AlignmentsAdmitted s indexMod4 ∧
    ∃ bs, validUtf8 bs ∧ alignedBits s indexMod4 = bitsOfBytes bs

/-! ## The code's bits and bytes -/

theorem sixBits_eq (index : Nat) : sixBits index = bitsOfNat 6 index := rfl

theorem base64ToBitarray_eq (input : List Char) :
    base64ToBitarray input = (input.filterMap base64UrlCharset.idxOf?).flatMap (bitsOfNat 6) := by
  induction input with
  | nil => rfl
  | cons c input ih =>
    rw [base64ToBitarray, List.flatMap_cons, ← base64ToBitarray, ih, List.filterMap_cons]
    cases base64UrlCharset.idxOf? c <;> simp [sixBits_eq]

theorem byte_of_bits (b : UInt8) (bits : List Bool) :
    bitarrayToBytearray (bitsOfNat 8 b.toNat ++ bits) = b :: bitarrayToBytearray bits := by
  have hbyte : ∀ n < 256, (n.testBit 7).toNat * 128 + (n.testBit 6).toNat * 64 + (n.testBit 5).toNat * 32 +
      (n.testBit 4).toNat * 16 + (n.testBit 3).toNat * 8 + (n.testBit 2).toNat * 4 + (n.testBit 1).toNat * 2 +
      (n.testBit 0).toNat = n := by decide +kernel
  simp only [bitsOfNat, List.cons_append, List.nil_append, bitarrayToBytearray, hbyte b.toNat b.toNat_lt,
    UInt8.ofNat_toNat]

theorem bits_of_byte : ∀ b7 b6 b5 b4 b3 b2 b1 b0 : Bool,
    bitsOfNat 8 (UInt8.ofNat (b7.toNat * 128 + b6.toNat * 64 + b5.toNat * 32 + b4.toNat * 16 + b3.toNat * 8 +
      b2.toNat * 4 + b1.toNat * 2 + b0.toNat)).toNat = [b7, b6, b5, b4, b3, b2, b1, b0] := by
  decide

theorem bitarrayToBytearray_bitsOfBytes (bs : List UInt8) : bitarrayToBytearray (bitsOfBytes bs) = bs := by
  induction bs with
  | nil => rfl
  | cons b bs ih => rw [bitsOfBytes_cons, byte_of_bits, ih]

/-- Bits that come in eights are those of the bytes they are packed into. -/
theorem bitsOfBytes_bitarrayToBytearray (bits : List Bool) (h : bits.length % 8 = 0) :
    bitsOfBytes (bitarrayToBytearray bits) = bits := by
  induction bits using bitarrayToBytearray.induct with
  | case1 b7 b6 b5 b4 b3 b2 b1 b0 bits ih =>
    rw [bitarrayToBytearray, bitsOfBytes_cons, bits_of_byte, ih (by simp at h; omega)]
    rfl
  | case2 bits hshort =>
    match bits, hshort, h with
    | [], _, _ => rfl
    | [_], _, h | [_, _], _, h | [_, _, _], _, h | [_, _, _, _], _, h | [_, _, _, _, _], _, h
    | [_, _, _, _, _, _], _, h | [_, _, _, _, _, _, _], _, h => simp at h
    | b7 :: b6 :: b5 :: b4 :: b3 :: b2 :: b1 :: b0 :: bits, hshort, _ =>
      exact (hshort b7 b6 b5 b4 b3 b2 b1 b0 bits rfl).elim

/-! ## When the decoding succeeds -/

theorem toNat_lastOffset (i : UInt8) (size : Nat) :
    ((i + UInt8.ofNat size - 1) % 4).toNat = lastCharOffset i size := by
  rw [lastCharOffset, UInt8.toNat_mod, UInt8.toNat_sub, UInt8.toNat_add, UInt8.toNat_ofNat']
  simp only [UInt8.reduceToNat]
  omega

theorem stripFirst_eq (i : UInt8) (bits : List Bool) (h : i ≤ 2) (hbits : 2 * i.toNat ≤ bits.length) :
    stripFirst i bits = .ok (bits.drop (2 * i.toNat)) := by
  obtain rfl | rfl | rfl : i = 0 ∨ i = 1 ∨ i = 2 := by
    rw [UInt8.le_iff_toNat_le] at h
    simp only [← UInt8.toNat_inj, UInt8.reduceToNat] at h ⊢
    omega
  · rfl
  · exact drainFront_of_le hbits
  · exact drainFront_of_le hbits

/-- The last character's offset is refused, or its bits are cut off where there are enough. -/
theorem stripLast_eq (o : UInt8) (bits : List Bool) (h : o.toNat < 4) (hbits : strippedBits o ≤ bits.length) :
    stripLast o bits = if o.toNat = 0 then .err (.anyhowError "Invalid last_char_offset")
      else .ok (bits.take (bits.length - 2 * (3 - o.toNat))) := by
  obtain rfl | rfl | rfl | rfl : o = 0 ∨ o = 1 ∨ o = 2 ∨ o = 3 := by
    simp only [← UInt8.toNat_inj, UInt8.reduceToNat]
    omega
  · rfl
  · exact if_pos hbits
  · exact if_pos hbits
  · simp [stripLast]

theorem packed_eq_ok {left : List Bool} {bs : List UInt8} {e e' : AuthError} :
    (if left.length % 8 ≠ 0 then Ending.err e
      else if validUtf8 (bitarrayToBytearray left) = true then .ok (bitarrayToBytearray left) else .err e') = .ok bs ↔
      validUtf8 bs ∧ left = bitsOfBytes bs := by
  by_cases height : left.length % 8 = 0
  · rw [if_neg (not_not.2 height)]
    have hback := bitsOfBytes_bitarrayToBytearray left height
    split
    · next hvalid =>
      rw [Ending.ok.injEq]
      refine ⟨fun h => h ▸ ⟨hvalid, hback.symm⟩, fun h => ?_⟩
      rw [h.2, bitarrayToBytearray_bitsOfBytes]
    · next hvalid =>
      refine ⟨fun h => by simp at h, fun h => absurd h.1 ?_⟩
      rwa [h.2, bitarrayToBytearray_bitsOfBytes] at hvalid
  · rw [if_pos height]
    refine ⟨fun h => by simp at h, fun h => absurd ?_ height⟩
    rw [h.2, length_bitsOfBytes]
    omega

/-- What it can take apart is decoded exactly if it leaves the bits of a text, and to this text. -/
theorem decodeBase64Url_eq_ok {s : String} {i : UInt8} {bs : List UInt8} (hcut : ¬ CutsTooMuch s i) :
    decodeBase64Url s i = .ok bs ↔ 2 ≤ s.utf8ByteSize ∧ AlignmentsAdmitted s i ∧ validUtf8 bs ∧
      alignedBits s i = bitsOfBytes bs := by
  have hbits := length_base64ToBitarray s.toList
  rw [base64ToBitarray_eq] at hbits
  unfold CutsTooMuch at hcut
  unfold decodeBase64Url AlignmentsAdmitted alignedBits
  rw [base64ToBitarray_eq]
  generalize (s.toList.filterMap base64UrlCharset.idxOf?).flatMap (bitsOfNat 6) = bits at hbits ⊢
  by_cases hsize : s.utf8ByteSize < 2
  · simp [hsize, Nat.not_le.2 hsize]
  rw [if_neg hsize]
  by_cases hi : i ≤ 2
  · have hlong : s.utf8ByteSize < 256 := by
      by_contra hlong
      exact hcut ⟨by omega, hi, .inl (by omega)⟩
    have hlast := toNat_lastOffset i s.utf8ByteSize
    have hfew : 2 * i.toNat + strippedBits ((i + UInt8.ofNat s.utf8ByteSize - 1) % 4) ≤ bits.length := by
      by_contra hfew
      exact hcut ⟨by omega, hi, .inr (by omega)⟩
    rw [stripFirst_eq i bits hi (by omega), Ending.ok_bind, u8FromLen, if_pos hlong, Ending.ok_bind]
    generalize (i + UInt8.ofNat s.utf8ByteSize - 1) % 4 = o at hlast hfew ⊢
    rw [stripLast_eq o _ (by rw [hlast, lastCharOffset]; omega) (by rw [List.length_drop]; omega), hlast,
      List.length_drop]
    by_cases hzero : lastCharOffset i s.utf8ByteSize = 0
    · simp [hzero]
    · rw [if_neg hzero, Ending.ok_bind]
      generalize (bits.drop (2 * i.toNat)).take _ = left
      exact packed_eq_ok.trans ⟨fun h => ⟨by omega, ⟨hi, hzero⟩, h⟩, fun h => h.2.2⟩
  · rcases stripFirst_cases i bits with ⟨-, e, he⟩ | ⟨hle, -⟩ | ⟨hle, -⟩
    · simp [he, hi]
    · exact absurd hle hi
    · exact absurd hle hi

/-! ## Slices of a base64url text -/

theorem charset_indices : ∀ x < 64, base64UrlCharset.idxOf? (base64UrlCharset.getD x 'A') = .some x := by
  decide +kernel

/-- The indices of characters are read back from them. -/
theorem filterMap_charset {xs : List Nat} (h : ∀ x ∈ xs, x < 64) :
    (xs.map fun x => base64UrlCharset.getD x 'A').filterMap base64UrlCharset.idxOf? = xs := by
  induction xs with
  | nil => rfl
  | cons x xs ih =>
    rw [List.map_cons, List.filterMap_cons, charset_indices x (h x (by simp))]
    simp only [ih fun y hy => h y (List.mem_cons_of_mem x hy)]

theorem mem_charset_of_mem_encode {bs : List UInt8} : ∀ c ∈ base64UrlEncode bs, c ∈ base64UrlCharset := by
  have hmem : ∀ x < 64, base64UrlCharset.getD x 'A' ∈ base64UrlCharset := by decide +kernel
  intro c hc
  obtain ⟨x, hx, rfl⟩ := List.mem_map.1 hc
  exact hmem x (base64Indices_lt bs x hx)

theorem size_utf8Encode {cs : List Char} (h : ∀ c ∈ cs, c ∈ base64UrlCharset) : cs.utf8Encode.size = cs.length := by
  have hall : base64UrlCharset.all (fun c => c.utf8Size == 1) = true := by decide
  have hone : ∀ c ∈ base64UrlCharset, c.utf8Size = 1 := fun c hc => beq_iff_eq.1 (List.all_eq_true.1 hall c hc)
  induction cs with
  | nil => rfl
  | cons c cs ih =>
    rw [List.utf8Encode_cons, ByteArray.size_append, ih fun d hd => h d (List.mem_cons_of_mem c hd),
      List.utf8Encode_singleton]
    have := hone c (h c (by simp))
    simp [this]
    omega

theorem utf8ByteSize_of_charset {s : String} (h : ∀ c ∈ s.toList, c ∈ base64UrlCharset) :
    s.utf8ByteSize = s.toList.length := by
  rw [← size_utf8Encode h, String.utf8Encode_toList, String.size_toByteArray]

/-- A slice of a text has its length in bytes. -/
theorem utf8ByteSize_of_slice {s : String} {bs : List UInt8} {before after : List Char}
    (htext : base64UrlEncode bs = before ++ s.toList ++ after) : s.utf8ByteSize = s.toList.length := by
  refine utf8ByteSize_of_charset fun c hc => ?_
  have hin : c ∈ base64UrlEncode bs := by simp [htext, hc]
  exact mem_charset_of_mem_encode c hin

/-- Of a slice whose ends are admitted, the bits of the bytes that it holds whole are left. -/
theorem alignedBits_slice {s : String} {i : UInt8} {bs : List UInt8} {before after : List Char}
    (htext : base64UrlEncode bs = before ++ s.toList ++ after) (htwo : 2 ≤ s.toList.length)
    (hindex : before.length % 4 = i.toNat % 4) (hadmitted : AlignmentsAdmitted s i) :
    alignedBits s i = bitsOfBytes (bytesWithin bs before.length s.toList.length) := by
  have hsize := utf8ByteSize_of_slice htext
  have hslice : s.toList = ((base64UrlEncode bs).drop before.length).take s.toList.length := by
    rw [htext, List.append_assoc, List.drop_left, List.take_left]
  have hlength := congrArg List.length htext
  simp only [base64UrlEncode, List.length_map, List.length_append] at hlength
  rw [base64UrlEncode, ← List.map_drop, ← List.map_take] at hslice
  obtain ⟨hi, hlast⟩ := hadmitted
  rw [UInt8.le_iff_toNat_le] at hi
  simp only [UInt8.reduceToNat] at hi
  unfold alignedBits
  rw [hsize] at hlast ⊢
  unfold lastCharOffset at hlast ⊢
  generalize before.length = offset at hslice hlength hindex ⊢
  generalize s.toList.length = chars at hslice hlength htwo hlast ⊢
  have hlong := length_base64Indices bs
  have hbits : ((((base64Indices bs).drop offset).take chars).flatMap (bitsOfNat 6)).length = 6 * chars := by
    simp only [List.length_flatMap, length_bitsOfNat, List.map_const', List.length_take, List.length_drop,
      List.sum_replicate_nat]
    omega
  -- the bits cut off at the front are those up to the next byte
  have hskip : 6 * offset + 2 * i.toNat = 8 * ((6 * offset + 7) / 8) := by omega
  have hkept : 6 * chars - 2 * i.toNat - 2 * (3 - (i.toNat + chars + 3) % 4) =
      8 * (6 * (offset + chars) / 8 - (6 * offset + 7) / 8) := by omega
  rw [hslice, filterMap_charset fun x hx => base64Indices_lt bs x (List.mem_of_mem_drop (List.mem_of_mem_take hx)),
    bytesWithin_eq]
  dsimp only
  rw [hbits, hkept]
  exact bits_of_slice hskip (by omega) (by omega)

/-! ## Main result -/

/-- **Main result.** A slice at an index is decoded as it is to be exactly if the code can take it apart, and, should
it have characters outside the alphabet, the others do not leave the bits of a text. -/
theorem fragment_decoded_iff (s : String) (indexMod4 : UInt8) :
    FragmentDecoded s indexMod4 (decodeBase64Url s indexMod4) ↔
      ¬ CutsTooMuch s indexMod4 ∧ ((∃ c ∈ s.toList, c ∉ base64UrlCharset) → ¬ LeavesText s indexMod4) := by
  have herr : ∀ {r : Ending AuthError (List UInt8)}, r ≠ .panic → (∀ bs, r ≠ .ok bs) → ∃ e, r = .err e := by
    intro r hp hok
    cases r with
    | ok bs => exact absurd rfl (hok bs)
    | err e => exact ⟨e, rfl⟩
    | panic => exact absurd rfl hp
  constructor
  · intro h
    have hcut : ¬ CutsTooMuch s indexMod4 := fun hcut => h.total (decodeBase64Url_eq_panic.2 hcut)
    refine ⟨hcut, fun hforeign hleaves => ?_⟩
    obtain ⟨e, he⟩ := h.foreign hforeign
    obtain ⟨htwo, hadmitted, bs, hvalid, hbits⟩ := hleaves
    have hok := (decodeBase64Url_eq_ok hcut).2 ⟨htwo, hadmitted, hvalid, hbits⟩
    simp [he] at hok
  · rintro ⟨hcut, hforeign⟩
    have htotal : decodeBase64Url s indexMod4 ≠ .panic := mt decodeBase64Url_eq_panic.1 hcut
    refine ⟨fun bs before after htext htwo hindex hadmitted hvalid => ?_, fun h => herr htotal fun bs hok => ?_,
      fun h => herr htotal fun bs hok => ?_, htotal⟩
    · have hbits := alignedBits_slice htext htwo hindex hadmitted
      have hsize := utf8ByteSize_of_slice htext
      rw [decodeBase64Url_eq_ok hcut]
      exact ⟨by omega, hadmitted, hvalid, hbits⟩
    · rw [decodeBase64Url_eq_ok hcut] at hok
      exact hforeign h ⟨hok.1, hok.2.1, bs, hok.2.2⟩
    · rw [decodeBase64Url_eq_ok hcut] at hok
      exact h hok.2.1

/-- Four foreign characters are skipped, a slice that leaves too little is a panic, and so is one of 260 characters. -/
theorem fragment_misread :
    decodeBase64Url "YWJj!!!!" 0 = .ok (ascii "abc") ∧ ¬ FragmentDecoded "YWJj!!!!" 0 (decodeBase64Url "YWJj!!!!" 0) ∧
    ¬ FragmentDecoded "!!" 1 (decodeBase64Url "!!" 1) ∧
    ¬ FragmentDecoded (String.ofList (List.replicate 260 'A')) 0
      (decodeBase64Url (String.ofList (List.replicate 260 'A')) 0) := by
  have hskipped : decodeBase64Url "YWJj!!!!" 0 = .ok (ascii "abc") := by decide
  have hlong : (String.ofList (List.replicate 260 'A')).utf8ByteSize = 260 := by
    rw [utf8ByteSize_of_charset, String.toList_ofList, List.length_replicate]
    intro c hc
    rw [String.toList_ofList] at hc
    rw [List.eq_of_mem_replicate hc]
    decide
  refine ⟨hskipped, fun h => ?_, fun h => ?_, fun h => ?_⟩
  · obtain ⟨e, he⟩ := h.foreign ⟨'!', by decide, by decide⟩
    simp [he] at hskipped
  · exact h.total (decodeBase64Url_eq_panic.2 (by decide))
  · exact h.total (decodeBase64Url_eq_panic.2 ⟨by omega, by decide, .inl (by omega)⟩)

end AtomaProxy
