import TrustZone.KvStore.NvPsaIts
import TrustZone.KvStore.Proof.Cache

/-!
# Values in the trusted storage

A stored object is a header followed by a value (`nvObject`), and reading undoes writing:

* `xprvReadValueFromImpl_object`: reading a well-formed object into a buffer of its length gives its
  type, length and bytes.
* `xprvWriteValueToImpl_spec`: a write sets the object of the value and keeps the live blocks.
-/

namespace KvStore

open Lib Psa

/-- The bytes stored for a value. -/
def nvObject (ty : KVStoreValueType) (v : List UInt8) : List UInt8 :=
  (KVStoreHeader.mk ty v.length).toBytes ++ v

/-- The value that stored bytes stand for. -/
def nvDecode (data : List UInt8) : KVStoreValueType × List UInt8 :=
  ((KVStoreHeader.ofBytes (data.take sizeofKVStoreHeader)).type, data.drop sizeofKVStoreHeader)

/-- The value stored for a key. -/
def nvValue (its : Its) (key : Nat) : Option (KVStoreValueType × List UInt8) :=
  (its (xKeyToUID key)).map nvDecode

/-- What is stored for a key, if anything, is a header with a type, followed by exactly as many bytes
as it says, at least one. -/
def NvOk (its : Its) (key : Nat) : Prop :=
  ∀ data, its (xKeyToUID key) = some data → ∃ ty v, data = nvObject ty v ∧ ty ≠ kvTypeNone ∧
    0 < v.length ∧ sizeofKVStoreHeader + v.length < sizeMax

theorem xKeyToUID_inj {j k : Nat} : xKeyToUID j = xKeyToUID k ↔ j = k :=
  Nat.add_left_cancel_iff

@[simp] theorem KVStoreHeader.toBytes_length (hd : KVStoreHeader) :
    hd.toBytes.length = sizeofKVStoreHeader := by
  simp [toBytes, sizeofKVStoreHeader]

theorem KVStoreHeader.ofBytes_toBytes {hd : KVStoreHeader} (h : hd.length < sizeMax) :
    ofBytes hd.toBytes = hd := by
  have ht : (leBytes 4 hd.type.toNat ++ leBytes 4 hd.length).take 4 = leBytes 4 hd.type.toNat :=
    List.take_left' (by simp)
  have hl : (leBytes 4 hd.type.toNat ++ leBytes 4 hd.length).drop 4 = leBytes 4 hd.length :=
    List.drop_left' (by simp)
  have h1 : leVal (leBytes 4 hd.type.toNat) = hd.type.toNat := leVal_leBytes hd.type.isLt
  have h2 : leVal (leBytes 4 hd.length) = hd.length := leVal_leBytes h
  unfold ofBytes toBytes
  rw [ht, hl, List.take_of_length_le (by simp), h1, h2, BitVec.ofNat_toNat, BitVec.setWidth_eq]

variable {its : Its} {key : Nat} {ty : KVStoreValueType} {v : List UInt8}

/-- A whole header leaves nothing of the zeros. -/
theorem KVStoreHeader.readFrom_whole {b : List UInt8} (h : b.length = sizeofKVStoreHeader) :
    readFrom b = ofBytes b := by
  rw [readFrom, blit_zero, List.drop_of_length_le (by rw [List.length_replicate, h]), List.append_nil]

theorem nvObject_length : (nvObject ty v).length = sizeofKVStoreHeader + v.length := by
  simp [nvObject]

theorem nvObject_take :
    (nvObject ty v).take sizeofKVStoreHeader = (KVStoreHeader.mk ty v.length).toBytes :=
  List.take_left' (by simp)

theorem nvObject_drop : (nvObject ty v).drop sizeofKVStoreHeader = v :=
  List.drop_left' (by simp)

theorem nvDecode_object (hf : sizeofKVStoreHeader + v.length < sizeMax) :
    nvDecode (nvObject ty v) = (ty, v) := by
  unfold nvDecode
  rw [nvObject_take, nvObject_drop, KVStoreHeader.ofBytes_toBytes (by simp only; omega)]

theorem nvValue_object (h : its (xKeyToUID key) = some (nvObject ty v))
    (hf : sizeofKVStoreHeader + v.length < sizeMax) : nvValue its key = some (ty, v) := by
  rw [nvValue, h, Option.map_some, nvDecode_object hf]

theorem nvValue_absent (h : its (xKeyToUID key) = none) : nvValue its key = none := by
  rw [nvValue, h, Option.map_none]

/-! ## Reading -/

theorem xprvGetValueLengthFromImpl_absent (h : its (xKeyToUID key) = none) :
    xprvGetValueLengthFromImpl its.reads key = 0 := by
  simp only [xprvGetValueLengthFromImpl, Its.reads, psaItsGetInfo, h]
  rfl

theorem xprvGetValueLengthFromImpl_object (h : its (xKeyToUID key) = some (nvObject ty v))
    (hf : sizeofKVStoreHeader + v.length < sizeMax) :
    xprvGetValueLengthFromImpl its.reads key = v.length := by
  simp only [xprvGetValueLengthFromImpl, Its.reads, psaItsGetInfo, h, nvObject_length, if_true]
  have hs : sizeofKVStoreHeader + v.length + (sizeMax - sizeofKVStoreHeader) = v.length + sizeMax := by
    simp only [sizeofKVStoreHeader, sizeMax]
    omega
  rw [hs, Nat.add_mod_right, Nat.mod_eq_of_lt (by omega)]

theorem xprvReadValueFromImpl_absent (h : its (xKeyToUID key) = none) {xBufferSize : Nat} (hsize : 0 < xBufferSize) :
    xprvReadValueFromImpl its.reads key xBufferSize = some ⟨false, kvTypeNone, 0, []⟩ := by
  have hget : its.reads.get (xKeyToUID key) 0 sizeofKVStoreHeader = (psaErrorDoesNotExist, []) := by
    simp [Its.reads, psaItsGet, h]
  have hheader : (KVStoreHeader.readFrom []).type = kvTypeNone := by decide
  unfold xprvReadValueFromImpl
  rw [if_neg (Nat.ne_of_gt hsize), hget]
  simp only [List.length_nil, hheader]
  rfl

/-- Reading a stored value into a buffer: what fits is read. -/
theorem xprvReadValueFromImpl_stored (h : its (xKeyToUID key) = some (nvObject ty v))
    (hf : sizeofKVStoreHeader + v.length < sizeMax) {xBufferSize : Nat} (hsize : 0 < xBufferSize) :
    xprvReadValueFromImpl its.reads key xBufferSize =
      some ⟨true, ty, min xBufferSize v.length, v.take xBufferSize⟩ := by
  have hget0 : its.reads.get (xKeyToUID key) 0 sizeofKVStoreHeader =
      (psaSuccess, (KVStoreHeader.mk ty v.length).toBytes) := by
    simp [Its.reads, psaItsGet, h, nvObject_take]
  have hget : ∀ n, its.reads.get (xKeyToUID key) sizeofKVStoreHeader n = (psaSuccess, v.take n) := by
    intro n
    simp [Its.reads, psaItsGet, h, nvObject_length, nvObject_drop]
  have hwant : (if xBufferSize < v.length then xBufferSize else v.length) = min xBufferSize v.length := by
    split <;> omega
  have htake : v.take (min xBufferSize v.length) = v.take xBufferSize := by
    rw [← List.take_take, List.take_length]
  unfold xprvReadValueFromImpl
  rw [if_neg (Nat.ne_of_gt hsize), hget0]
  simp only [KVStoreHeader.toBytes_length, KVStoreHeader.readFrom_whole, KVStoreHeader.ofBytes_toBytes
    (show (KVStoreHeader.mk ty v.length).length < sizeMax by simp only; omega)]
  rw [if_neg (by simp), if_neg (by simp)]
  simp only [hwant, hget, htake, List.length_take, if_true]
  rfl

/-- Reading a stored value into a buffer of its length. -/
theorem xprvReadValueFromImpl_object (h : its (xKeyToUID key) = some (nvObject ty v))
    (hv : 0 < v.length) (hf : sizeofKVStoreHeader + v.length < sizeMax) :
    xprvReadValueFromImpl its.reads key v.length = some ⟨true, ty, v.length, v⟩ := by
  rw [xprvReadValueFromImpl_stored h hf hv, Nat.min_self, List.take_length]

/-! ## Writing -/

/-- A write sets the object of the value, when there is memory to stage it; the staging buffer is gone
after it. -/
theorem xprvWriteValueToImpl_eq (al : Allocator) {h : Heap} (hw : h.Wf) (its : Its) {n : Nat}
    (hk : key ≤ n) (hty : ty ≠ kvTypeNone) (hf : sizeofKVStoreHeader + v.length < sizeMax)
    (st : Status) :
    xprvWriteValueToImpl al n h its st key ty (some v) =
      if al.avail h.next (sizeofKVStoreHeader + v.length) then
        some ⟨xPSAStatusToBool st, [⟨xKeyToUID key, nvObject ty v, st⟩], ⟨h.next + 1, h.mem⟩,
          psaItsSet its st (xKeyToUID key) (nvObject ty v)⟩
      else some ⟨false, [], ⟨h.next + 1, h.mem⟩, its⟩ := by
  have hlen : (nvObject ty v).length = sizeofKVStoreHeader + v.length := nvObject_length
  unfold nvObject at hlen
  unfold xprvWriteValueToImpl
  dsimp only
  rw [if_neg (by simp only [not_or]; exact ⟨by omega, hty⟩), if_neg (by omega)]
  cases hn : al.avail h.next (sizeofKVStoreHeader + v.length) with
  | false => simp only [Heap.malloc_refused h hn, Bool.false_eq_true, if_false]
  | true =>
    rw [Heap.malloc_grant h hn, Heap.malloc_granted al.grant_succeeds]
    simp only [if_true]
    rw [Heap.write_eq (Function.update_self ..) (by simp)]
    simp only
    rw [Heap.write_eq (Function.update_self ..) (by
      rw [List.length_replicate, blit_length (by simp)]; simp)]
    simp only
    rw [Heap.free_eq (Function.update_self ..)]
    have hmem : Function.update h.mem h.next none = h.mem := by
      rw [← hw h.next (Nat.le_refl _)]
      exact Function.update_eq_self _ _
    simp only [Function.update_idem, hmem]
    rfl

/-- A write sets the object of the value; the blocks that were live are kept. -/
theorem xprvWriteValueToImpl_spec {al : Allocator} (hal : al.Succeeds) {h : Heap} (hw : h.Wf)
    (its : Its) {n : Nat} (hk : key ≤ n) (hty : ty ≠ kvTypeNone)
    (hf : sizeofKVStoreHeader + v.length < sizeMax) (st : Status) :
    ∃ h', xprvWriteValueToImpl al n h its st key ty (some v) =
        some ⟨xPSAStatusToBool st, [⟨xKeyToUID key, nvObject ty v, st⟩], h',
          psaItsSet its st (xKeyToUID key) (nvObject ty v)⟩ ∧
      h'.Wf ∧ ∀ p, h.mem p ≠ none → h'.mem p = h.mem p := by
  refine ⟨⟨h.next + 1, h.mem⟩, ?_, fun q hq => hw q (Nat.le_of_succ_le hq), fun _ _ => rfl⟩
  rw [xprvWriteValueToImpl_eq al hw its hk hty hf st, if_pos (hal _ _)]

theorem nvValue_set {st : Status} {k : Nat} (hf : sizeofKVStoreHeader + v.length < sizeMax) :
    nvValue (psaItsSet its st (xKeyToUID key) (nvObject ty v)) k =
      if k = key ∧ st = psaSuccess then some (ty, v) else nvValue its k := by
  unfold psaItsSet
  by_cases hst : st = psaSuccess
  · rw [if_pos hst]
    by_cases hk : k = key
    · subst hk
      rw [if_pos ⟨rfl, hst⟩]
      exact nvValue_object (Function.update_self ..) hf
    · have hne : xKeyToUID k ≠ xKeyToUID key := fun he => hk (xKeyToUID_inj.1 he)
      rw [if_neg (fun hc => hk hc.1), nvValue, Function.update_of_ne hne, nvValue]
  · rw [if_neg hst, if_neg (fun hc => hst hc.2)]

theorem NvOk.set {st : Status} {k : Nat} (h : NvOk its k) (hty : ty ≠ kvTypeNone)
    (hv : 0 < v.length) (hf : sizeofKVStoreHeader + v.length < sizeMax) :
    NvOk (psaItsSet its st (xKeyToUID key) (nvObject ty v)) k := by
  unfold psaItsSet
  split
  · intro data hd
    by_cases hk : xKeyToUID k = xKeyToUID key
    · rw [hk, Function.update_self] at hd
      exact ⟨ty, v, (Option.some.inj hd).symm, hty, hv, hf⟩
    · rw [Function.update_of_ne hk] at hd
      exact h data hd
  · exact h

end KvStore
