import TrustZone.Lib.Heap
import TrustZone.Psa.Defs

/-!
# The key/value store cache (`kvstore_cache.c`)

A cache entry holds a value of at most `sizeof( void * )` bytes in its own word and a longer one in a
heap block whose pointer is in the same word (`Word`). The functions work on one entry and the heap;
one that fails an assertion, reads through a pointer that was never stored or frees what is not live
does not return.
-/

namespace KvStore

open Lib

/-- `sizeof( void * )`: a 32-bit machine. -/
def sizeofPtr : Nat := 4

/-- `size_t` counts below this. -/
def sizeMax : Nat := 2 ^ 32

/-- `KVStoreValueType_t`: a type read back from storage can be any word. -/
abbrev KVStoreValueType := BitVec 32

def kvTypeNone : KVStoreValueType := 0
def kvTypeBaseT : KVStoreValueType := 1
def kvTypeUBaseT : KVStoreValueType := 2
def kvTypeInt32 : KVStoreValueType := 3
def kvTypeUInt32 : KVStoreValueType := 4
def kvTypeString : KVStoreValueType := 5
def kvTypeBlob : KVStoreValueType := 6
def kvTypeLast : KVStoreValueType := 7

/-- The union of an entry: a word, or the pointer last stored (`none` is `NULL`). -/
inductive Word
  | word (w : BitVec 32)
  | ptr (p : Option Nat)

/-- The four bytes of the union; those of a pointer are its address. -/
def Word.toBytes : Word → List UInt8
  | .word w => leBytes sizeofPtr w.toNat
  | .ptr p => leBytes sizeofPtr (p.getD 0)

/-- The union that holds four bytes. -/
def Word.ofBytes (b : List UInt8) : Word := .word (BitVec.ofNat 32 (leVal b))

/-- `KVStoreCacheEntry_t`. -/
structure KVStoreCacheEntry where
  type : KVStoreValueType
  length : Nat
  data : Word
  xChangePending : Bool

/-- An entry of the zeroed array. -/
def KVStoreCacheEntry.zero : KVStoreCacheEntry :=
  ⟨kvTypeNone, 0, .word 0, false⟩

/-- Where a value is: in the union or in a block. -/
inductive DataPtr
  | union
  | block (p : Nat)

/-- `pvGetDataWritePtr`, which asserts that the pointer is not `NULL`. -/
def pvGetDataWritePtr (e : KVStoreCacheEntry) : Option DataPtr :=
  if e.length > sizeofPtr then
    match e.data with
    | .ptr (some p) => some (.block p)
    | _ => none
  else some .union

/-- `pvGetDataReadPtr`; the inner `none` is `NULL`. -/
def pvGetDataReadPtr (e : KVStoreCacheEntry) : Option (Option DataPtr) :=
  if e.type = kvTypeNone then some none
  else if e.length > sizeofPtr then
    match e.data with
    | .ptr (some p) => some (some (.block p))
    | .ptr none => some none
    | .word _ => none
  else some (some .union)

/-- `n` bytes at a pointer into the entry. -/
def load (h : Heap) (e : KVStoreCacheEntry) : DataPtr → Nat → Option (List UInt8)
  | .union, n => if n ≤ sizeofPtr then some (e.data.toBytes.take n) else none
  | .block p, n => h.read p n

/-- The bytes of the entry as `KVStore_xCommitChanges` passes them on; the inner `none` is `NULL`. -/
def entryData (h : Heap) (e : KVStoreCacheEntry) : Option (Option (List UInt8)) :=
  match pvGetDataReadPtr e with
  | none => none
  | some none => some none
  | some (some ptr) =>
    match load h e ptr e.length with
    | none => none
    | some data => some (some data)

/-- `memcpy` to a pointer into the entry. -/
def store (h : Heap) (e : KVStoreCacheEntry) (src : List UInt8) :
    DataPtr → Option (Heap × KVStoreCacheEntry)
  | .union =>
    if src.length ≤ sizeofPtr then some (h, { e with data := .ofBytes (blit e.data.toBytes 0 src) })
    else none
  | .block p =>
    match h.write p src with
    | some h' => some (h', e)
    | none => none

/-- `vAllocateDataBuffer`. -/
def vAllocateDataBuffer (al : Allocator) (h : Heap) (e : KVStoreCacheEntry) (xNewLength : Nat) :
    Heap × KVStoreCacheEntry :=
  if xNewLength > sizeofPtr then
    let (p, h') := h.malloc al xNewLength
    (h', { e with data := .ptr p, length := xNewLength })
  else (h, { e with data := .word 0, length := xNewLength })

/-- `vClearDataBuffer`. -/
def vClearDataBuffer (h : Heap) (e : KVStoreCacheEntry) : Option (Heap × KVStoreCacheEntry) :=
  if e.length > sizeofPtr then
    match e.data with
    | .ptr (some p) =>
      match h.free p with
      | some h' => some (h', { e with data := .ptr none, length := 0 })
      | none => none
    | .ptr none => some (h, { e with data := .ptr none, length := 0 })
    | .word _ => none
  else some (h, { e with length := 0, data := .word 0 })

/-- `vReallocDataBuffer`: a value that is not longer stays in the buffer there is. -/
def vReallocDataBuffer (al : Allocator) (h : Heap) (e : KVStoreCacheEntry) (xNewLength : Nat) :
    Option (Heap × KVStoreCacheEntry) :=
  if xNewLength > e.length then
    match vClearDataBuffer h e with
    | some (h', e') => some (vAllocateDataBuffer al h' e' xNewLength)
    | none => none
  else some (h, { e with length := xNewLength })

/-- The first part of `xprvWriteCacheEntry`: make room, and mark what has changed. -/
def markCacheEntry (al : Allocator) (h : Heap) (e : KVStoreCacheEntry) (xNewType : KVStoreValueType)
    (pvNewValue : List UInt8) : Option (Heap × KVStoreCacheEntry) :=
  if e.type = kvTypeNone then
    let (h', e') := vAllocateDataBuffer al h e pvNewValue.length
    some (h', { e' with type := xNewType, xChangePending := true })
  else if e.length ≠ pvNewValue.length then
    match vReallocDataBuffer al h e pvNewValue.length with
    | some (h', e') => some (h', { e' with type := xNewType, xChangePending := true })
    | none => none
  else if e.type ≠ xNewType then some (h, { e with type := xNewType, xChangePending := true })
  else
    match pvGetDataReadPtr e with
    | none => none
    | some none => some (h, { e with xChangePending := true })
    | some (some ptr) =>
      match load h e ptr pvNewValue.length with
      | none => none
      | some old =>
        some (h, { e with xChangePending := e.xChangePending || decide (old ≠ pvNewValue) })

/-- `xprvWriteCacheEntry` on the entry of its key, which returns `pdTRUE`. -/
def xprvWriteCacheEntry (al : Allocator) (h : Heap) (e : KVStoreCacheEntry)
    (xNewType : KVStoreValueType) (pvNewValue : List UInt8) : Option (Heap × KVStoreCacheEntry) :=
  if xNewType.toNat < kvTypeLast.toNat ∧ 0 < pvNewValue.length then
    match markCacheEntry al h e xNewType pvNewValue with
    | none => none
    | some (h', e') =>
      if e'.xChangePending then
        match pvGetDataWritePtr e' with
        | none => none
        | some ptr => store h' e' pvNewValue ptr
      else some (h', e')
  else none

/-- What `xprvCopyValueFromCache` reads: the type and length of the entry and the bytes it copies, or
nothing when the entry is not set. -/
def xprvCopyValueFromCache (h : Heap) (e : KVStoreCacheEntry) (xBufferSize : Nat) :
    Option (Option (KVStoreValueType × Nat × List UInt8)) :=
  match pvGetDataReadPtr e with
  | none => none
  | some none => some none
  | some (some ptr) =>
    match load h e ptr (min xBufferSize e.length) with
    | none => none
    | some b => some (some (e.type, e.length, b))

end KvStore
