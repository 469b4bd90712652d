import TrustZone.KvStore.NvPsaIts
import TrustZone.Lib.Runs

/-!
# The key/value store (`kvstore.c`)

The cache of every key over the storage, the loops of `vprvCacheInit` and `KVStore_xCommitChanges`,
and the accessors. A key table (`Config`) is the number of keys and their defaults. A setter is one
guard and one write (`kvStoreSet`), a getter one guard and one read (`kvStoreGet`); each
accessor is these at its own type and size.

`kvStore` is the machine of the calls of one task, and of a restart.
-/

namespace KvStore

open Lib Psa

/-- `KVStoreDefaultEntry_t`: the word in its union, and the memory it points to. -/
structure KVStoreDefaultEntry where
  type : KVStoreValueType
  length : Nat
  u32 : BitVec 32
  blob : Nat → UInt8

/-- `CS_NUM_KEYS` and `KV_STORE_DEFAULTS`. -/
structure Config where
  csNumKeys : Nat
  kvStoreDefaults : Nat → KVStoreDefaultEntry

/-- The cache, the heap it lives in, the storage, and whether the mutex has been made. -/
structure State where
  kvStoreCache : Nat → KVStoreCacheEntry
  heap : Heap
  its : Its
  xKvMutex : Bool

/-- The state at boot: the storage is what survives. -/
def State.boot (its : Its) : State := ⟨fun _ => .zero, .empty, its, false⟩

/-- Replace the entry of a key. -/
def State.setEntry (s : State) (key : Nat) (h : Heap) (e : KVStoreCacheEntry) : State :=
  { s with kvStoreCache := Function.update s.kvStoreCache key e, heap := h }

/-! ## Loading and committing -/

/-- One round of the loop of `vprvCacheInit`, reading `rd`. -/
def loadEntry (al : Allocator) (rd : ItsReads) (s : State) (i : Nat) : Option State :=
  let e := { s.kvStoreCache i with xChangePending := false, type := kvTypeNone }
  let xNvLength := xprvGetValueLengthFromImpl rd i
  if xNvLength > 0 then
    let (h, e) := vAllocateDataBuffer al s.heap e xNvLength
    match pvGetDataWritePtr e with
    | none => none
    | some ptr =>
      match xprvReadValueFromImpl rd i e.length with
      | none => none
      | some r =>
        match store h e r.bytes ptr with
        | none => none
        | some (h', e') => some (s.setEntry i h' { e' with type := r.type, length := r.length })
  else some (s.setEntry i s.heap e)

/-- The loop of `vprvCacheInit` over the keys below `n`. -/
def loadEntries (al : Allocator) (rd : ItsReads) (s : State) : Nat → Option State
  | 0 => some s
  | n + 1 =>
    match loadEntries al rd s n with
    | none => none
    | some s' => loadEntry al rd s' n

/-- `KVStore_init` when the storage answers `rd`. -/
def kvStoreInitFrom (al : Allocator) (cfg : Config) (rd : ItsReads) (s : State) : Option State :=
  loadEntries al rd { s with xKvMutex := true } cfg.csNumKeys

/-- `KVStore_init`. -/
def kvStoreInit (al : Allocator) (cfg : Config) (s : State) : Option State :=
  kvStoreInitFrom al cfg s.its.reads s

/-- What a commit answers: its result, the sets it issued and the state after it. -/
structure Commit where
  ok : Bool
  sets : List SetCall
  post : State

/-- One round of the loop of `KVStore_xCommitChanges`, with the status `psa_its_set` answers. -/
def commitEntry (al : Allocator) (cfg : Config) (st : Status) (s : State) (i : Nat) :
    Option Commit :=
  let e := s.kvStoreCache i
  if e.xChangePending then
    match entryData s.heap e with
    | none => none
    | some data =>
      match xprvWriteValueToImpl al cfg.csNumKeys s.heap s.its st i e.type data with
      | none => none
      | some w => some ⟨w.ok, w.sets, { s with heap := w.heap, its := w.its }⟩
  else some ⟨true, [], s⟩

/-- The loop of `KVStore_xCommitChanges` over the keys below `n`: `xSuccess` is the conjunction. -/
def commitEntries (al : Allocator) (cfg : Config) (st : Nat → Status) (s : State) :
    Nat → Option Commit
  | 0 => some ⟨true, [], s⟩
  | n + 1 =>
    match commitEntries al cfg st s n with
    | none => none
    | some c =>
      match commitEntry al cfg (st n) c.post n with
      | none => none
      | some c' => some ⟨c.ok && c'.ok, c.sets ++ c'.sets, c'.post⟩

/-- `KVStore_xCommitChanges`; `st i` is what a `psa_its_set` for key `i` answers. -/
def kvStoreXCommitChanges (al : Allocator) (cfg : Config) (st : Nat → Status) (s : State) :
    Option Commit :=
  commitEntries al cfg st s cfg.csNumKeys

/-! ## Setters -/

/-- A buffer of a caller: with a header before it, it still fits the address space. -/
structure Buffer where
  bytes : List UInt8
  fits : sizeofKVStoreHeader + bytes.length < sizeMax

/-- A C string of a caller: no NUL in it, one behind it. -/
structure CString where
  bytes : List UInt8
  noNul : 0 ∉ bytes
  fits : sizeofKVStoreHeader + (bytes.length + 1) < sizeMax

/-- The setter of type `ty`: write the cache when the key has this type. -/
def kvStoreSet (al : Allocator) (cfg : Config) (s : State) (ty : KVStoreValueType) (key : Nat)
    (pvNewValue : List UInt8) : Option (Bool × State) :=
  if key < cfg.csNumKeys ∧ (cfg.kvStoreDefaults key).type = ty then
    match xprvWriteCacheEntry al s.heap (s.kvStoreCache key) ty pvNewValue with
    | none => none
    | some (h, e) => some (true, s.setEntry key h e)
  else some (false, s)

def kvStoreSetBlob (al : Allocator) (cfg : Config) (s : State) (key : Nat)
    (pvNewValue : Option Buffer) : Option (Bool × State) :=
  match pvNewValue with
  | none => some (false, s)
  | some v => if 0 < v.bytes.length then kvStoreSet al cfg s kvTypeBlob key v.bytes
    else some (false, s)

def kvStoreSetString (al : Allocator) (cfg : Config) (s : State) (key : Nat)
    (pcNewValue : Option CString) : Option (Bool × State) :=
  match pcNewValue with
  | none => some (false, s)
  | some v => kvStoreSet al cfg s kvTypeString key (v.bytes ++ [0])

/-- The bytes of a 32-bit value. -/
def word32 (v : BitVec 32) : List UInt8 := leBytes 4 v.toNat

def kvStoreSetUInt32 (al : Allocator) (cfg : Config) (s : State) (key : Nat)
    (ulNewVal : BitVec 32) : Option (Bool × State) :=
  kvStoreSet al cfg s kvTypeUInt32 key (word32 ulNewVal)

def kvStoreSetInt32 (al : Allocator) (cfg : Config) (s : State) (key : Nat)
    (lNewVal : BitVec 32) : Option (Bool × State) :=
  kvStoreSet al cfg s kvTypeInt32 key (word32 lNewVal)

def kvStoreSetUBase (al : Allocator) (cfg : Config) (s : State) (key : Nat)
    (uxNewVal : BitVec 32) : Option (Bool × State) :=
  kvStoreSet al cfg s kvTypeUBaseT key (word32 uxNewVal)

def kvStoreSetBase (al : Allocator) (cfg : Config) (s : State) (key : Nat)
    (xNewVal : BitVec 32) : Option (Bool × State) :=
  kvStoreSet al cfg s kvTypeBaseT key (word32 xNewVal)

/-! ## Getters -/

/-- `xReadEntryOrDefault` into a buffer: the length it returns and the buffer it leaves. -/
def xReadEntryOrDefault (cfg : Config) (s : State) (xKey : Nat) (pvBuffer : List UInt8) :
    Option (Nat × List UInt8) :=
  match xprvCopyValueFromCache s.heap (s.kvStoreCache xKey) pvBuffer.length with
  | none => none
  | some r =>
    let (xLength, buf) := match r with
      | none => (0, pvBuffer)
      | some (_, len, b) => (len, blit pvBuffer 0 b)
    if xLength = 0 then
      let d := cfg.kvStoreDefaults xKey
      let xDataLen := min pvBuffer.length d.length
      let src := if xDataLen > sizeofPtr then slice d.blob 0 xDataLen
        else (leBytes 4 d.u32.toNat).take xDataLen
      some (d.length, blit buf 0 src)
    else some (xLength, buf)

/-- The read of a getter of type `ty`, under the mutex; `none` when the key has another type. Taking
the mutex before `KVStore_init` made it fails an assertion. -/
def kvStoreGet (cfg : Config) (s : State) (ty : KVStoreValueType) (key : Nat)
    (pvBuffer : List UInt8) : Option (Option (Nat × List UInt8)) :=
  if key < cfg.csNumKeys ∧ (cfg.kvStoreDefaults key).type = ty then
    if s.xKvMutex then
      match xReadEntryOrDefault cfg s key pvBuffer with
      | none => none
      | some r => some (some r)
    else none
  else some none

/-- `KVStore_getSize`. -/
def kvStoreGetSize (cfg : Config) (s : State) (xKey : Nat) : Nat :=
  if xKey < cfg.csNumKeys then
    if (s.kvStoreCache xKey).length = 0 then (cfg.kvStoreDefaults xKey).length
    else (s.kvStoreCache xKey).length
  else 0

/-- `KVStore_getType`. -/
def kvStoreGetType (cfg : Config) (key : Nat) : KVStoreValueType :=
  if key < cfg.csNumKeys then (cfg.kvStoreDefaults key).type else kvTypeNone

/-- `KVStore_getBlob`: the length it returns and the buffer it leaves. -/
def kvStoreGetBlob (cfg : Config) (s : State) (key : Nat) (pvBuffer : Option (List UInt8)) :
    Option (Nat × Option (List UInt8)) :=
  match pvBuffer with
  | none => some (0, none)
  | some buf =>
    match kvStoreGet cfg s kvTypeBlob key buf with
    | none => none
    | some none => some (0, some buf)
    | some (some (xLength, buf')) => some (xLength, some buf')

/-- `KVStore_getString`: the count without the NUL, and the buffer, which ends in a NUL. -/
def kvStoreGetString (cfg : Config) (s : State) (key : Nat) (pcBuffer : Option (List UInt8)) :
    Option (Nat × Option (List UInt8)) :=
  match pcBuffer with
  | none => some (0, none)
  | some buf =>
    match kvStoreGet cfg s kvTypeString key buf with
    | none => none
    | some none => some (0, some buf)
    | some (some (xSizeWritten, buf')) =>
      if buf.length = 0 then none
      else some (xSizeWritten - 1, some (blit buf' (buf.length - 1) [0]))

/-- What a getter into the heap leaves: the pointer it returns, `*pxLength`, and the heap. -/
structure HeapGet where
  ret : Option Nat
  pxLength : Nat
  heap : Heap

/-- A getter into a block of `KVStore_getSize` bytes; the block goes when the getter that fills it
returns 0. -/
def kvStoreGetHeap (al : Allocator) (cfg : Config) (s : State) (key : Nat)
    (get : State → List UInt8 → Option (Nat × Option (List UInt8))) : Option HeapGet :=
  let xLen := kvStoreGetSize cfg s key
  if xLen > 0 then
    match s.heap.malloc al xLen with
    | (none, h) => some ⟨none, xLen, h⟩
    | (some p, h) =>
      match h.read p xLen with
      | none => none
      | some pvBuffer =>
        match get { s with heap := h } pvBuffer with
        | some (n, some pvBuffer) =>
          match h.write p pvBuffer with
          | none => none
          | some h =>
            if n = 0 then
              match h.free p with
              | none => none
              | some h => some ⟨none, 0, h⟩
            else some ⟨some p, xLen, h⟩
        | _ => none
  else some ⟨none, xLen, s.heap⟩

/-- `KVStore_getBlobHeap`, with a `pxLength`. -/
def kvStoreGetBlobHeap (al : Allocator) (cfg : Config) (s : State) (key : Nat) : Option HeapGet :=
  kvStoreGetHeap al cfg s key fun s pvBuffer => kvStoreGetBlob cfg s key (some pvBuffer)

/-- `xLen - 1` in `size_t`. -/
def lessNul (xLen : Nat) : Nat := if xLen = 0 then sizeMax - 1 else xLen - 1

/-- `KVStore_getStringHeap`, with a `pxLength`: `xLen - 1` on every exit. -/
def kvStoreGetStringHeap (al : Allocator) (cfg : Config) (s : State) (key : Nat) : Option HeapGet :=
  match kvStoreGetHeap al cfg s key fun s pcBuffer => kvStoreGetString cfg s key (some pcBuffer) with
  | none => none
  | some r => some { r with pxLength := lessNul r.pxLength }

/-- `KV_DFLT( KV_TYPE_STRING, value )`, with the literal at the address `str`: `sizeof( value ) - 1`
leaves the NUL out. -/
def kvDfltString (value : CString) (str : BitVec 32) : KVStoreDefaultEntry :=
  ⟨kvTypeString, value.bytes.length, str, memOf (value.bytes ++ [0])⟩

/-- A getter of four bytes: the value, and the flag in `*pxSuccess`. -/
def kvStoreGetWord (cfg : Config) (s : State) (ty : KVStoreValueType) (key : Nat) :
    Option (BitVec 32 × Bool) :=
  match kvStoreGet cfg s ty key (word32 0) with
  | none => none
  | some none => some (0, false)
  | some (some (xSizeWritten, buf)) => some (BitVec.ofNat 32 (leVal buf), xSizeWritten = 4)

def kvStoreGetUInt32 (cfg : Config) (s : State) (key : Nat) : Option (BitVec 32 × Bool) :=
  kvStoreGetWord cfg s kvTypeUInt32 key

def kvStoreGetInt32 (cfg : Config) (s : State) (key : Nat) : Option (BitVec 32 × Bool) :=
  kvStoreGetWord cfg s kvTypeInt32 key

def kvStoreGetBase (cfg : Config) (s : State) (key : Nat) : Option (BitVec 32 × Bool) :=
  kvStoreGetWord cfg s kvTypeBaseT key

/-- `KVStore_getUBase`: its guard asks for `KV_TYPE_BASE_T`. -/
def kvStoreGetUBase (cfg : Config) (s : State) (key : Nat) : Option (BitVec 32 × Bool) :=
  kvStoreGetWord cfg s kvTypeBaseT key

/-! ## The machine -/

/-- A call that may change the store, or a restart. -/
inductive Call
  | init
  | setBlob (key : Nat) (v : Option Buffer)
  | setString (key : Nat) (v : Option CString)
  | setUInt32 (key : Nat) (v : BitVec 32)
  | setInt32 (key : Nat) (v : BitVec 32)
  | setUBase (key : Nat) (v : BitVec 32)
  | setBase (key : Nat) (v : BitVec 32)
  | commit (st : Nat → Status)
  | reboot

/-- What a call answers; `KVStore_init` and a restart answer nothing. -/
inductive Ret
  | none
  | result (ok : Bool)
  | commit (ok : Bool) (sets : List SetCall)

/-- A setter's answer as an answer of the machine. -/
def setterRet : Option (Bool × State) → Option (State × Ret)
  | none => none
  | some (ok, s) => some (s, .result ok)

def step (al : Allocator) (cfg : Config) (s : State) : Call → Option (State × Ret)
  | .init =>
    match kvStoreInit al cfg s with
    | none => none
    | some s' => some (s', .none)
  | .setBlob key v => setterRet (kvStoreSetBlob al cfg s key v)
  | .setString key v => setterRet (kvStoreSetString al cfg s key v)
  | .setUInt32 key v => setterRet (kvStoreSetUInt32 al cfg s key v)
  | .setInt32 key v => setterRet (kvStoreSetInt32 al cfg s key v)
  | .setUBase key v => setterRet (kvStoreSetUBase al cfg s key v)
  | .setBase key v => setterRet (kvStoreSetBase al cfg s key v)
  | .commit st =>
    match kvStoreXCommitChanges al cfg st s with
    | none => none
    | some c => some (c.post, .commit c.ok c.sets)
  | .reboot => some (.boot s.its, .none)

/-- The key/value store of one task. -/
def kvStore (al : Allocator) (cfg : Config) : Machine State Call Ret := ⟨step al cfg⟩

/-! ## The cache alone -/

/-- A call of `xprvWriteCacheEntry`. -/
structure CacheWrite where
  xKey : Nat
  xNewType : KVStoreValueType
  pvNewValue : List UInt8

/-- `xprvWriteCacheEntry`, which asserts that the key is in the table. -/
def cacheStep (al : Allocator) (cfg : Config) (s : State) (w : CacheWrite) :
    Option (State × Bool) :=
  if w.xKey < cfg.csNumKeys then
    match xprvWriteCacheEntry al s.heap (s.kvStoreCache w.xKey) w.xNewType w.pvNewValue with
    | none => none
    | some (h, e) => some (s.setEntry w.xKey h e, true)
  else none

/-- The cache that is written to, call after call. -/
def cacheWriter (al : Allocator) (cfg : Config) : Machine State CacheWrite Bool :=
  ⟨cacheStep al cfg⟩

/-- What a call of `xprvCopyValueFromCache` leaves: its result, `*pxDataType`, `*pxDataLength`, and the
memory at `pvBuffer`. -/
structure CacheCopy where
  ret : Bool
  pxDataType : KVStoreValueType
  pxDataLength : Nat
  pvBuffer : Nat → UInt8

/-- `memcpy` to the start of the memory. -/
def copyTo (mem : Nat → UInt8) (b : List UInt8) : Nat → UInt8 := fun i => b[i]?.getD (mem i)

/-- `xprvCopyValueFromCache`, with pointers that are not `NULL` and `out` what they point to. -/
def cacheCopy (cfg : Config) (s : State) (xKey : Nat) (out : CacheCopy) (xBufferSize : Nat) :
    Option CacheCopy :=
  if xKey < cfg.csNumKeys then
    match xprvCopyValueFromCache s.heap (s.kvStoreCache xKey) xBufferSize with
    | none => none
    | some none => some { out with ret := false }
    | some (some (type, length, b)) =>
      some ⟨decide (0 < b.length), type, length, copyTo out.pvBuffer b⟩
  else none

end KvStore
