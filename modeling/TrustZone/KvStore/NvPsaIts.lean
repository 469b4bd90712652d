import TrustZone.KvStore.Cache

/-!
# Key/value storage in PSA internal trusted storage (`kvstore_nv_psa_its.c`)

The bytes stored under the uid of a key are a header (`KVStoreHeader`) and the value. `psa_its_get`
and `psa_its_get_info` answer what was last set, unless they are free (`ItsReads`); whether a
`psa_its_set` succeeds is free.
-/

namespace Psa

/-- `psa_storage_uid_t`. -/
abbrev StorageUid := Nat

/-- What the trusted storage holds under each uid. -/
abbrev Its := StorageUid → Option (List UInt8)

/-- `psa_its_get_info`: the size. -/
def psaItsGetInfo (its : Its) (uid : StorageUid) : Status × Nat :=
  match its uid with
  | none => (psaErrorDoesNotExist, 0)
  | some data => (psaSuccess, data.length)

/-- `psa_its_get`: at most `dataLength` bytes from an offset that is not past the end. -/
def psaItsGet (its : Its) (uid : StorageUid) (dataOffset dataLength : Nat) : Status × List UInt8 :=
  match its uid with
  | none => (psaErrorDoesNotExist, [])
  | some data =>
    if dataOffset > data.length then (psaErrorInvalidArgument, [])
    else (psaSuccess, (data.drop dataOffset).take dataLength)

/-- The reading side of a storage: what `psa_its_get_info` and `psa_its_get` answer. A read reports no
more bytes than it was asked for; those are the bytes then in the buffer, whether it succeeded or not. -/
structure ItsReads where
  getInfo : StorageUid → Status × Nat
  get : StorageUid → Nat → Nat → Status × List UInt8
  fits : ∀ uid dataOffset dataLength, (get uid dataOffset dataLength).2.length ≤ dataLength

/-- The storage that answers what was last set. -/
def Its.reads (its : Its) : ItsReads where
  getInfo := psaItsGetInfo its
  get := psaItsGet its
  fits uid dataOffset dataLength := by
    unfold psaItsGet
    split
    · exact Nat.zero_le _
    · split
      · exact Nat.zero_le _
      · exact List.length_take_le _ _

/-- `psa_its_set` with the status it answers: the object is replaced when it succeeds. -/
def psaItsSet (its : Its) (st : Status) (uid : StorageUid) (data : List UInt8) : Its :=
  if st = psaSuccess then Function.update its uid (some data) else its

end Psa

namespace KvStore

open Lib Psa

def kvstoreUidOffset : Nat := 0x1234

/-- `KVStoreHeader_t`: the type and the length of the value behind it. -/
structure KVStoreHeader where
  type : KVStoreValueType
  length : Nat

def sizeofKVStoreHeader : Nat := 8

/-- The bytes of a header: two little-endian words. -/
def KVStoreHeader.toBytes (hd : KVStoreHeader) : List UInt8 :=
  leBytes 4 hd.type.toNat ++ leBytes 4 hd.length

/-- The header that eight bytes are. -/
def KVStoreHeader.ofBytes (b : List UInt8) : KVStoreHeader :=
  ⟨BitVec.ofNat 32 (leVal (b.take 4)), leVal ((b.drop 4).take 4)⟩

def xKeyToUID (xKey : Nat) : StorageUid := kvstoreUidOffset + xKey

/-- `xPSAStatusToBool`. -/
def xPSAStatusToBool (xStatus : Status) : Bool := xStatus = psaSuccess

/-- `xprvGetValueLengthFromImpl`, in `size_t`. -/
def xprvGetValueLengthFromImpl (rd : ItsReads) (xKey : Nat) : Nat :=
  let (st, size) := rd.getInfo (xKeyToUID xKey)
  if st = psaSuccess then (size + (sizeMax - sizeofKVStoreHeader)) % sizeMax else 0

/-- What `xprvReadValueFromImpl` answers: its result, the type and the length it sets and the bytes it
leaves at the start of the buffer. -/
structure NvRead where
  ok : Bool
  type : KVStoreValueType
  length : Nat
  bytes : List UInt8

/-- What is in the zeroed `xHeader` when the bytes `b` have been read. -/
def KVStoreHeader.readFrom (b : List UInt8) : KVStoreHeader :=
  .ofBytes (blit (List.replicate sizeofKVStoreHeader 0) 0 b)

/-- `xprvReadValueFromImpl` into a buffer of `xBufferSize` bytes that is not `NULL`; a value that comes
back short fails an assertion, a header that does leaves its type behind. -/
def xprvReadValueFromImpl (rd : ItsReads) (xKey xBufferSize : Nat) : Option NvRead :=
  if xBufferSize = 0 then some ⟨false, kvTypeNone, 0, []⟩
  else
    let (xResult, header) := rd.get (xKeyToUID xKey) 0 sizeofKVStoreHeader
    let xHeader := KVStoreHeader.readFrom header
    if header.length ≠ sizeofKVStoreHeader then some ⟨false, xHeader.type, 0, []⟩
    else if xResult ≠ psaSuccess then some ⟨false, xHeader.type, header.length, []⟩
    else
      let want := if xBufferSize < xHeader.length then xBufferSize else xHeader.length
      let (xResult, data) := rd.get (xKeyToUID xKey) sizeofKVStoreHeader want
      if data.length = want then
        some ⟨xPSAStatusToBool xResult, xHeader.type, data.length, data⟩
      else none

/-- A `psa_its_set` issued, and what it answered. -/
structure SetCall where
  uid : StorageUid
  data : List UInt8
  status : Status

/-- What `xprvWriteValueToImpl` answers: its result, the sets it issued, and the heap and the storage
after it. -/
structure NvWrite where
  ok : Bool
  sets : List SetCall
  heap : Heap
  its : Its

/-- `xprvWriteValueToImpl` with the status `psa_its_set` answers. A `NULL` value is refused; the staging
buffer is cleared and freed; a size that wraps around `size_t` would overrun it. -/
def xprvWriteValueToImpl (al : Allocator) (csNumKeys : Nat) (h : Heap) (its : Its) (st : Status)
    (xKey : Nat) (xType : KVStoreValueType) (pvData : Option (List UInt8)) : Option NvWrite :=
  match pvData with
  | none => some ⟨false, [], h, its⟩
  | some data =>
    if xKey > csNumKeys ∨ xType = kvTypeNone then some ⟨false, [], h, its⟩
    else if sizeMax ≤ sizeofKVStoreHeader + data.length then none
    else
      match h.malloc al (sizeofKVStoreHeader + data.length) with
      | (none, h1) => some ⟨false, [], h1, its⟩
      | (some p, h1) =>
        let staged := (KVStoreHeader.mk xType data.length).toBytes ++ data
        match h1.write p staged with
        | none => none
        | some h2 =>
          match h2.write p (List.replicate staged.length 0) with
          | none => none
          | some h3 =>
            match h3.free p with
            | none => none
            | some h4 => some ⟨xPSAStatusToBool st, [⟨xKeyToUID xKey, staged, st⟩], h4,
                psaItsSet its st (xKeyToUID xKey) staged⟩

end KvStore
