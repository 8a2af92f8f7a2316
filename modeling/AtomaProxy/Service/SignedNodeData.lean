/-
What a node signs: the registration of its public address, as compact JSON,
and its attestation, as the bytes of its small id before the evidence. Both
are hashed and the hash is signed, so what a signature is of rests on the
bytes that are hashed: they say what they are of, and bytes of one kind are
none of the other, but for a single small id.
-/
import AtomaProxy.Auth.SuiCrypto
import AtomaProxy.Base.JsonText
import Mathlib.Algebra.Group.Nat.Defs

namespace AtomaProxy

open Base JsonText

structure NodePublicAddressAssignment where
  nodeSmallId : UInt64
  publicAddress : String
  country : String
  deriving DecidableEq, Repr

/-- The text of an assignment, its members in the order of the declaration. -/
def NodePublicAddressAssignment.toJson (d : NodePublicAddressAssignment) : List Char :=
  "\x7b\"node_small_id\":".toList ++ (Nat.toDigits 10 d.nodeSmallId.toNat ++
    ',' :: ("\"public_address\":\"".toList ++ (escape d.publicAddress.toList ++
      quote :: (",\"country\":\"".toList ++ (escape d.country.toList ++ quote :: ['\x7d'])))))

/-- The bytes of a text. -/
def utf8Bytes (s : List Char) : List UInt8 := (String.ofList s).toUTF8.data.toList

/-- `serde_json::to_vec`. -/
def NodePublicAddressAssignment.toVec (d : NodePublicAddressAssignment) : List UInt8 := utf8Bytes d.toJson

structure NodeAttestation where
  nodeSmallId : Int64
  compressedEvidence : List UInt8
  deriving DecidableEq, Repr

/-- What the hasher is updated with: `node_small_id.to_le_bytes()`, then the evidence. -/
def NodeAttestation.hashed (a : NodeAttestation) : List UInt8 :=
  toLeBytes 8 a.nodeSmallId.toUInt64.toNat ++ a.compressedEvidence

/-! ## The bytes say what they are of -/

theorem utf8Bytes_append (s t : List Char) : utf8Bytes (s ++ t) = utf8Bytes s ++ utf8Bytes t := by
  simp only [utf8Bytes, String.ofList_append, String.toUTF8_eq_toByteArray, String.toByteArray_append,
    ByteArray.data_append, Array.toList_append]

theorem utf8Bytes_injective {s t : List Char} (h : utf8Bytes s = utf8Bytes t) : s = t := by
  have hbytes := ByteArray.ext (Array.toList_inj.1 h)
  rw [String.toUTF8_eq_toByteArray, String.toUTF8_eq_toByteArray, String.toByteArray_inj] at hbytes
  simpa using congrArg String.toList hbytes

theorem NodePublicAddressAssignment.toJson_injective {d d' : NodePublicAddressAssignment}
    (h : d.toJson = d'.toJson) : d = d' := by
  unfold toJson at h
  obtain ⟨hid, h⟩ := toDigits_append_inj rfl (List.append_cancel_left h)
  obtain ⟨haddress, h⟩ := escape_append_inj (List.append_cancel_left h)
  obtain ⟨hcountry, _⟩ := escape_append_inj (List.append_cancel_left h)
  cases d
  cases d'
  simp only [mk.injEq]
  exact ⟨UInt64.toNat_inj.1 hid, String.toList_inj.1 haddress, String.toList_inj.1 hcountry⟩

theorem toLeBytes_length : ∀ n x, (toLeBytes n x).length = n
  | 0, _ => rfl
  | n + 1, x => congrArg Nat.succ (toLeBytes_length n (x / 256))

theorem toLeBytes_injective {n x y : Nat} (hx : x < 256 ^ n) (hy : y < 256 ^ n) (h : toLeBytes n x = toLeBytes n y) :
    x = y := by
  induction n generalizing x y with
  | zero => omega
  | succ n ih =>
    obtain ⟨hlow, hhigh⟩ := List.cons.inj h
    have hlow := congrArg UInt8.toNat hlow
    simp only [UInt8.toNat_ofNat'] at hlow
    rw [pow_succ] at hx hy
    have hdiv := @ih (x / 256) (y / 256) (by omega) (by omega) hhigh
    omega

theorem NodeAttestation.hashed_prefix (a : NodeAttestation) :
    a.hashed.take 8 = toLeBytes 8 a.nodeSmallId.toUInt64.toNat := by
  rw [hashed, List.take_left' (toLeBytes_length 8 _)]

theorem toLeBytes_i64 {x y : Int64} (h : toLeBytes 8 x.toUInt64.toNat = toLeBytes 8 y.toUInt64.toNat) : x = y := by
  have hnat := toLeBytes_injective x.toUInt64.toNat_lt y.toUInt64.toNat_lt h
  rw [← Int64.toInt64_toUInt64 x, UInt64.toNat_inj.1 hnat, Int64.toInt64_toUInt64]

theorem NodeAttestation.hashed_injective {a a' : NodeAttestation} (h : a.hashed = a'.hashed) : a = a' := by
  have hid : a.nodeSmallId = a'.nodeSmallId := by
    refine toLeBytes_i64 ?_
    rw [← hashed_prefix, ← hashed_prefix, h]
  unfold hashed at h
  rw [hid] at h
  cases a
  cases a'
  simp only [mk.injEq]
  exact ⟨hid, List.append_cancel_left h⟩

/-- The small id whose bytes are the first eight of an assignment's text. -/
def ambiguousSmallId : Int64 := 8313474919189848699

theorem ambiguousSmallId_bytes : toLeBytes 8 ambiguousSmallId.toUInt64.toNat = [123, 34, 110, 111, 100, 101, 95, 115] := by
  have hnat : ambiguousSmallId.toUInt64.toNat = 8313474919189848699 := rfl
  rw [hnat]
  rfl

theorem NodePublicAddressAssignment.toVec_prefix (d : NodePublicAddressAssignment) :
    d.toVec.take 8 = toLeBytes 8 ambiguousSmallId.toUInt64.toNat := by
  have hfirst : utf8Bytes "\x7b\"node_small_id\":".toList =
      [123, 34, 110, 111, 100, 101, 95, 115, 109, 97, 108, 108, 95, 105, 100, 34, 58] := rfl
  have hvec : d.toVec.take 8 = ([123, 34, 110, 111, 100, 101, 95, 115] : List UInt8) := by
    unfold toVec toJson
    rw [utf8Bytes_append, hfirst]
    rfl
  exact hvec.trans ambiguousSmallId_bytes.symm

/-- **Main result.** The bytes hashed determine the assignment, or the attestation, that they are of; where an
attestation's are an assignment's, its small id is the one above. -/
theorem signed_bytes_determine :
    (∀ d d' : NodePublicAddressAssignment, d.toVec = d'.toVec → d = d') ∧
      (∀ a a' : NodeAttestation, a.hashed = a'.hashed → a = a') ∧
      ∀ (a : NodeAttestation) (d : NodePublicAddressAssignment), a.hashed = d.toVec →
        a.nodeSmallId = ambiguousSmallId := by
  refine ⟨fun d d' h => ?_, fun a a' h => a.hashed_injective h, fun a d h => ?_⟩
  · exact NodePublicAddressAssignment.toJson_injective (utf8Bytes_injective h)
  · refine toLeBytes_i64 ?_
    rw [← a.hashed_prefix, ← d.toVec_prefix, h]

end AtomaProxy
