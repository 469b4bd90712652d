import TrustZone.KvStore.Proof.Store

/-!
# What `KVStore_init` makes of any storage

`KVStore_init` takes the room for a value from the size of its object and the length of the entry from
what `xprvReadValueFromImpl` reports. Here the storage may hold and answer anything (`ItsReads`).

* `loadEntry_some`, `loadEntry_total`: one key; when its round of the loop returns, and what it leaves.
* `loadEntries_some`, `loadEntries_total`: all of them.
* `sizeLaw_iff`: for one loaded key, when its size is what its getter returns.
* `init_sizes_iff`: when the loop returns and leaves every key so.
-/

namespace KvStore

open Lib Psa Machine

/-! ## What is stored -/

/-- What is in `xHeader` after the header of a key has been read. -/
def headerOf (rd : ItsReads) (key : Nat) : KVStoreHeader :=
  .readFrom (rd.get (xKeyToUID key) 0 sizeofKVStoreHeader).2

/-- The header of a key is read in full. -/
structure HeaderRead (rd : ItsReads) (key : Nat) : Prop where
  whole : (rd.get (xKeyToUID key) 0 sizeofKVStoreHeader).2.length = sizeofKVStoreHeader
  ok : (rd.get (xKeyToUID key) 0 sizeofKVStoreHeader).1 = psaSuccess

/-- The bytes of the value behind the header: as many as it says, as far as they are stored. -/
def valueLength (rd : ItsReads) (key : Nat) : Nat :=
  min (xprvGetValueLengthFromImpl rd key) (headerOf rd key).length

/-- What the read of the value answers. -/
def valueRead (rd : ItsReads) (key : Nat) : Status × List UInt8 :=
  rd.get (xKeyToUID key) sizeofKVStoreHeader (valueLength rd key)

/-- There is a value under the key, and it is read in full. No setter stores an empty value. -/
structure ReadCompletely (rd : ItsReads) (key : Nat) : Prop where
  header : HeaderRead rd key
  nonempty : 0 < valueLength rd key
  whole : (valueRead rd key).2.length = valueLength rd key
  ok : (valueRead rd key).1 = psaSuccess

/-! ## One key -/

/-- The name of the block for the value of a key, when the first block is `next`. -/
def nextBlock (rd : ItsReads) (next : Nat) : Nat → Nat
  | 0 => next
  | n + 1 => nextBlock rd next n + if sizeofPtr < xprvGetValueLengthFromImpl rd n then 1 else 0

/-- The value of the key fits its entry, or the block `p` is granted for it. -/
def Room (al : Allocator) (rd : ItsReads) (p key : Nat) : Prop :=
  sizeofPtr < xprvGetValueLengthFromImpl rd key → al.avail p (xprvGetValueLengthFromImpl rd key) = true

/-- The read of the key passes its assertions. -/
def Reads (rd : ItsReads) (key : Nat) : Prop :=
  0 < xprvGetValueLengthFromImpl rd key → HeaderRead rd key →
    (valueRead rd key).2.length = valueLength rd key

/-- What the entry of a key is after its round: `len` is the length that it had. -/
structure EntryLoaded (rd : ItsReads) (key p len : Nat) (h : Heap) (e : KVStoreCacheEntry) : Prop where
  absent : xprvGetValueLengthFromImpl rd key = 0 → e.type = kvTypeNone ∧ e.length = len
  read : 0 < xprvGetValueLengthFromImpl rd key →
    ∃ r, xprvReadValueFromImpl rd key (xprvGetValueLengthFromImpl rd key) = some r ∧
      e.type = r.type ∧ e.length = r.length
  union : 0 < xprvGetValueLengthFromImpl rd key → xprvGetValueLengthFromImpl rd key ≤ sizeofPtr →
    ∃ w, e.data = .word w
  block : sizeofPtr < xprvGetValueLengthFromImpl rd key → e.data = .ptr (some p) ∧
    ∃ b, h.mem p = some b ∧ b.length = xprvGetValueLengthFromImpl rd key

/-- What the round of a key leaves. -/
structure Loaded₁ (rd : ItsReads) (key : Nat) (s s' : State) : Prop where
  mutex : s'.xKvMutex = s.xKvMutex
  others : ∀ j ≠ key, s'.kvStoreCache j = s.kvStoreCache j
  next : s'.heap.next = s.heap.next + if sizeofPtr < xprvGetValueLengthFromImpl rd key then 1 else 0
  mem : ∀ p < s.heap.next, s'.heap.mem p = s.heap.mem p
  entry : EntryLoaded rd key s.heap.next (s.kvStoreCache key).length s'.heap (s'.kvStoreCache key)

variable {al : Allocator} {cfg : Config} {rd : ItsReads} {s s' : State} {key p len : Nat}

/-- The read of a key that is there, by what the storage answers. -/
theorem read_eq (hpos : 0 < xprvGetValueLengthFromImpl rd key) :
    xprvReadValueFromImpl rd key (xprvGetValueLengthFromImpl rd key) =
      if (rd.get (xKeyToUID key) 0 sizeofKVStoreHeader).2.length ≠ sizeofKVStoreHeader then
        some ⟨false, (headerOf rd key).type, 0, []⟩
      else if (rd.get (xKeyToUID key) 0 sizeofKVStoreHeader).1 ≠ psaSuccess then
        some ⟨false, (headerOf rd key).type, sizeofKVStoreHeader, []⟩
      else if (valueRead rd key).2.length = valueLength rd key then
        some ⟨xPSAStatusToBool (valueRead rd key).1, (headerOf rd key).type, valueLength rd key,
          (valueRead rd key).2⟩
      else none := by
  have hwant : (if xprvGetValueLengthFromImpl rd key < (headerOf rd key).length then
      xprvGetValueLengthFromImpl rd key else (headerOf rd key).length) = valueLength rd key := by
    unfold valueLength
    split <;> omega
  unfold xprvReadValueFromImpl
  rw [if_neg (by omega)]
  simp only [ne_eq, ite_not]
  split
  · rename_i hwhole
    simp only [hwhole]
    split
    · rw [show (KVStoreHeader.readFrom (rd.get (xKeyToUID key) 0 sizeofKVStoreHeader).2) =
        headerOf rd key from rfl, hwant]
      show (if (valueRead rd key).2.length = valueLength rd key then some (NvRead.mk _ _
        (valueRead rd key).2.length _) else none) = _
      split_ifs with hvalue
      · rw [hvalue]
        rfl
      · rfl
    · rfl
  · rfl

theorem reads_iff (hpos : 0 < xprvGetValueLengthFromImpl rd key) : Reads rd key ↔
    ∃ r, xprvReadValueFromImpl rd key (xprvGetValueLengthFromImpl rd key) = some r := by
  rw [read_eq hpos]
  constructor
  · intro h
    split_ifs with hwhole hok hvalue
    · exact ⟨_, rfl⟩
    · exact ⟨_, rfl⟩
    · exact ⟨_, rfl⟩
    · exact absurd (h hpos ⟨not_not.1 hwhole, not_not.1 hok⟩) hvalue
  · rintro ⟨r, h⟩ - hh
    rw [if_neg (not_not.2 hh.whole), if_neg (not_not.2 hh.ok)] at h
    by_contra hvalue
    rw [if_neg hvalue] at h
    cases h

/-- What is written does not pass the end of the buffer. -/
theorem read_fits (hpos : 0 < xprvGetValueLengthFromImpl rd key) {r : NvRead}
    (h : xprvReadValueFromImpl rd key (xprvGetValueLengthFromImpl rd key) = some r) :
    r.bytes.length ≤ xprvGetValueLengthFromImpl rd key := by
  rw [read_eq hpos] at h
  split_ifs at h with hwhole hok hvalue
  · obtain rfl := Option.some.inj h
    exact Nat.zero_le _
  · obtain rfl := Option.some.inj h
    exact Nat.zero_le _
  · obtain rfl := Option.some.inj h
    show (valueRead rd key).2.length ≤ _
    rw [hvalue]
    exact Nat.min_le_left _ _

theorem vAllocateDataBuffer_length (h : Heap) (e : KVStoreCacheEntry) (n : Nat) :
    (vAllocateDataBuffer al h e n).2.length = n := by
  unfold vAllocateDataBuffer
  split <;> rfl

/-- When there is room and the read passes, the round returns. -/
theorem loadEntry_total (hroom : Room al rd s.heap.next key) (hreads : Reads rd key) :
    ∃ s', loadEntry al rd s key = some s' ∧ Loaded₁ rd key s s' := by
  by_cases hpos : 0 < xprvGetValueLengthFromImpl rd key
  · obtain ⟨r, hr⟩ := (reads_iff hpos).1 hreads
    have hfits := read_fits hpos hr
    by_cases hlong : sizeofPtr < xprvGetValueLengthFromImpl rd key
    · let blk := slice (al.junk s.heap.next) 0 (xprvGetValueLengthFromImpl rd key)
      have hblk : r.bytes.length ≤ blk.length := by rwa [slice_length]
      have hw := Heap.write_eq (h := ⟨s.heap.next + 1, Function.update s.heap.mem s.heap.next (some blk)⟩)
        (Function.update_self ..) hblk
      refine ⟨s.setEntry key ⟨s.heap.next + 1, Function.update (Function.update s.heap.mem s.heap.next
          (some blk)) s.heap.next (some (blit blk 0 r.bytes))⟩
        ⟨r.type, r.length, .ptr (some s.heap.next), false⟩, ?_, ?_⟩
      · unfold loadEntry
        simp only [if_pos hpos, vAllocateDataBuffer, if_pos hlong, Heap.malloc, hroom hlong, if_true,
          pvGetDataWritePtr, hr, store, hw, blk]
      · exact ⟨rfl, fun j hj => setEntry_other hj _ _, by rw [if_pos hlong]; rfl, fun p hp => by
            show Function.update (Function.update _ _ _) _ _ p = _
            rw [Function.update_of_ne (by omega), Function.update_of_ne (by omega)],
          { absent := fun h => by omega
            read := fun _ => ⟨r, hr, by rw [setEntry_self]; exact ⟨rfl, rfl⟩⟩
            union := fun _ h => by omega
            block := fun _ => by
              rw [setEntry_self]
              refine ⟨rfl, _, Function.update_self .., ?_⟩
              rw [blit_length (by omega), slice_length] }⟩
    · refine ⟨s.setEntry key s.heap ⟨r.type, r.length, .ofBytes (blit (Word.word 0).toBytes 0 r.bytes),
        false⟩, ?_, ?_⟩
      · unfold loadEntry
        simp only [if_pos hpos, vAllocateDataBuffer, if_neg hlong, pvGetDataWritePtr, hr, store,
          if_pos (show r.bytes.length ≤ sizeofPtr by omega)]
      · exact ⟨rfl, fun j hj => setEntry_other hj _ _, by rw [if_neg hlong]; rfl, fun _ _ => rfl,
          { absent := fun h => by omega
            read := fun _ => ⟨r, hr, by rw [setEntry_self]; exact ⟨rfl, rfl⟩⟩
            union := fun _ _ => by rw [setEntry_self]; exact ⟨_, rfl⟩
            block := fun h => absurd h hlong }⟩
  · refine ⟨_, by unfold loadEntry; exact if_neg hpos, ?_⟩
    exact ⟨rfl, fun j hj => setEntry_other hj _ _, by rw [if_neg (by omega)]; rfl, fun _ _ => rfl,
      { absent := fun _ => by rw [setEntry_self]; exact ⟨rfl, rfl⟩
        read := fun h => absurd h hpos
        union := fun h => absurd h hpos
        block := fun h => absurd (Nat.zero_lt_of_lt h) hpos }⟩

/-- A round that returns had room, and its read passed. -/
theorem loadEntry_some (h : loadEntry al rd s key = some s') :
    Room al rd s.heap.next key ∧ Reads rd key ∧ Loaded₁ rd key s s' := by
  have hroom : Room al rd s.heap.next key := by
    intro hlong
    by_contra hno
    have hrefused := Heap.malloc_refused s.heap (Bool.eq_false_iff.2 hno)
    unfold loadEntry at h
    simp only [if_pos (Nat.zero_lt_of_lt hlong), vAllocateDataBuffer, if_pos hlong, hrefused,
      pvGetDataWritePtr] at h
    cases h
  have hreads : Reads rd key := by
    by_cases hpos : 0 < xprvGetValueLengthFromImpl rd key
    · rw [reads_iff hpos, ← Option.ne_none_iff_exists']
      intro hnone
      unfold loadEntry at h
      simp only [if_pos hpos, vAllocateDataBuffer_length, hnone] at h
      split at h <;> cases h
    · exact fun h => absurd h hpos
  obtain ⟨s'', hs, hloaded⟩ := loadEntry_total hroom hreads
  obtain rfl := Option.some.inj (h.symm.trans hs)
  exact ⟨hroom, hreads, hloaded⟩

/-! ## All keys -/

/-- What the rounds of the keys below `n` leave. -/
structure AllLoaded (rd : ItsReads) (s s' : State) (n : Nat) : Prop where
  mutex : s'.xKvMutex = s.xKvMutex
  next : s'.heap.next = nextBlock rd s.heap.next n
  rest : ∀ j, n ≤ j → s'.kvStoreCache j = s.kvStoreCache j
  entry : ∀ k < n, EntryLoaded rd k (nextBlock rd s.heap.next k) (s.kvStoreCache k).length s'.heap
    (s'.kvStoreCache k)

theorem nextBlock_le {next m n : Nat} (h : m ≤ n) : nextBlock rd next m ≤ nextBlock rd next n := by
  induction h with
  | refl => exact Nat.le_refl _
  | step _ ih => exact Nat.le_trans ih (Nat.le_add_right _ _)

/-- The block of a loaded key lies below the blocks of the next keys. -/
theorem nextBlock_lt {next m n : Nat} (h : m < n) (hlong : sizeofPtr < xprvGetValueLengthFromImpl rd m) :
    nextBlock rd next m < nextBlock rd next n := by
  have hle := @nextBlock_le rd next (m + 1) n h
  rw [nextBlock, if_pos hlong] at hle
  omega

theorem EntryLoaded.frame {h h' : Heap} {e : KVStoreCacheEntry} (he : EntryLoaded rd key p len h e)
    (hmem : sizeofPtr < xprvGetValueLengthFromImpl rd key → h'.mem p = h.mem p) :
    EntryLoaded rd key p len h' e :=
  { he with block := fun hlong => ⟨(he.block hlong).1, by rw [hmem hlong]; exact (he.block hlong).2⟩ }

theorem AllLoaded.zero : AllLoaded rd s s 0 :=
  ⟨rfl, rfl, fun _ _ => rfl, fun _ hk => absurd hk (Nat.not_lt_zero _)⟩

theorem AllLoaded.succ {s₁ : State} {n : Nat} (h : AllLoaded rd s s₁ n) (h₁ : Loaded₁ rd n s₁ s') :
    AllLoaded rd s s' (n + 1) where
  mutex := h₁.mutex.trans h.mutex
  next := by rw [h₁.next, h.next, nextBlock]
  rest j hj := (h₁.others j (by omega)).trans (h.rest j (by omega))
  entry k hk := by
    by_cases hkn : k = n
    · subst hkn
      have he := h₁.entry
      rwa [h.next, h.rest k (Nat.le_refl k)] at he
    · rw [h₁.others k hkn]
      exact (h.entry k (by omega)).frame fun hlong =>
        h₁.mem _ (by rw [h.next]; exact nextBlock_lt (by omega) hlong)

theorem loadEntries_some {n : Nat} (h : loadEntries al rd s n = some s') :
    (∀ k < n, Room al rd (nextBlock rd s.heap.next k) k ∧ Reads rd k) ∧ AllLoaded rd s s' n := by
  induction n generalizing s' with
  | zero =>
    obtain rfl := Option.some.inj h
    exact ⟨fun _ hk => absurd hk (Nat.not_lt_zero _), .zero⟩
  | succ n ih =>
    unfold loadEntries at h
    cases h₁ : loadEntries al rd s n with
    | none =>
      rw [h₁] at h
      cases h
    | some s₁ =>
      rw [h₁] at h
      obtain ⟨hall, hloaded⟩ := ih h₁
      obtain ⟨hroom, hreads, hl⟩ := loadEntry_some h
      refine ⟨fun k hk => ?_, hloaded.succ hl⟩
      rcases Nat.lt_succ_iff_lt_or_eq.1 hk with hk | rfl
      · exact hall k hk
      · exact ⟨hloaded.next ▸ hroom, hreads⟩

theorem loadEntries_total {n : Nat}
    (h : ∀ k < n, Room al rd (nextBlock rd s.heap.next k) k ∧ Reads rd k) :
    ∃ s', loadEntries al rd s n = some s' := by
  induction n with
  | zero => exact ⟨s, rfl⟩
  | succ n ih =>
    obtain ⟨s₁, h₁⟩ := ih fun k hk => h k (by omega)
    obtain ⟨hroom, hreads⟩ := h n (Nat.lt_succ_self n)
    have hnext := (loadEntries_some h₁).2.next
    obtain ⟨s', hs, -⟩ := loadEntry_total (hnext ▸ hroom) hreads
    exact ⟨s', by simp only [loadEntries, h₁, hs]⟩

/-! ## Sizes -/

/-- `KVStore_getSize` is the length that the getter of the key returns into a buffer that is long enough,
where `KVStore_getString` leaves the NUL out; it is the length of the stored value, or the default's. -/
structure SizeLaw (cfg : Config) (rd : ItsReads) (s : State) (key : Nat) : Prop where
  read : ∀ buf, kvStoreGetSize cfg s key ≤ buf.length →
    ∃ b, kvStoreGet cfg s (cfg.kvStoreDefaults key).type key buf = some (some (kvStoreGetSize cfg s key, b))
  blob : (cfg.kvStoreDefaults key).type = kvTypeBlob → ∀ buf, kvStoreGetSize cfg s key ≤ buf.length →
    ∃ b, kvStoreGetBlob cfg s key (some buf) = some (kvStoreGetSize cfg s key, b)
  string : (cfg.kvStoreDefaults key).type = kvTypeString → ∀ buf ≠ [],
    kvStoreGetSize cfg s key ≤ buf.length →
    ∃ b, kvStoreGetString cfg s key (some buf) = some (kvStoreGetSize cfg s key - 1, b)
  stored : ReadCompletely rd key → kvStoreGetSize cfg s key = valueLength rd key
  unset : ¬ReadCompletely rd key → kvStoreGetSize cfg s key = (cfg.kvStoreDefaults key).length

/-- The exact condition on what is stored, what the reads answer, and the length `len` of the entry
before: an unset key has no length left; a header read that fails reports nothing, unless the default has
its size; a value is read, with a type. -/
structure LoadsWell (cfg : Config) (rd : ItsReads) (key len : Nat) : Prop where
  absent : xprvGetValueLengthFromImpl rd key = 0 → len = 0 ∨ len = (cfg.kvStoreDefaults key).length
  header : 0 < xprvGetValueLengthFromImpl rd key →
    (rd.get (xKeyToUID key) 0 sizeofKVStoreHeader).2.length = sizeofKVStoreHeader →
    (rd.get (xKeyToUID key) 0 sizeofKVStoreHeader).1 ≠ psaSuccess →
    (cfg.kvStoreDefaults key).length = sizeofKVStoreHeader ∧
      ((headerOf rd key).type = kvTypeNone ∨ sizeofKVStoreHeader ≤ xprvGetValueLengthFromImpl rd key)
  value : 0 < xprvGetValueLengthFromImpl rd key → HeaderRead rd key →
    valueLength rd key = 0 ∨ valueLength rd key = (cfg.kvStoreDefaults key).length ∨
      ((valueRead rd key).1 = psaSuccess ∧ (headerOf rd key).type ≠ kvTypeNone)

/-- The length that the read of a key returns. -/
def readLength (cfg : Config) (s : State) (key : Nat) (buf : List UInt8) : Option Nat :=
  (xReadEntryOrDefault cfg s key buf).map (·.1)

variable {buf : List UInt8} {n : Nat}

theorem kvStoreGet_length (hk : key < cfg.csNumKeys) (hx : s.xKvMutex = true) :
    (∃ b, kvStoreGet cfg s (cfg.kvStoreDefaults key).type key buf = some (some (n, b))) ↔
      readLength cfg s key buf = some n := by
  unfold kvStoreGet readLength
  rw [if_pos ⟨hk, rfl⟩, if_pos hx]
  cases xReadEntryOrDefault cfg s key buf with
  | none => simp
  | some r =>
    obtain ⟨m, b⟩ := r
    simp

theorem readLength_default
    (h : (s.kvStoreCache key).type = kvTypeNone ∨ (s.kvStoreCache key).length = 0) :
    readLength cfg s key buf = some (cfg.kvStoreDefaults key).length := by
  by_cases ht : (s.kvStoreCache key).type = kvTypeNone
  · simp [readLength, xReadEntryOrDefault, xprvCopyValueFromCache, pvGetDataReadPtr, ht]
  · have hl : (s.kvStoreCache key).length = 0 := h.resolve_left ht
    simp [readLength, xReadEntryOrDefault, xprvCopyValueFromCache, pvGetDataReadPtr, ht, hl, load]

theorem readLength_union (ht : (s.kvStoreCache key).type ≠ kvTypeNone)
    (hpos : (s.kvStoreCache key).length ≠ 0) (hshort : ¬(s.kvStoreCache key).length > sizeofPtr) :
    readLength cfg s key buf = some (s.kvStoreCache key).length := by
  have hle : min buf.length (s.kvStoreCache key).length ≤ sizeofPtr := by omega
  simp [readLength, xReadEntryOrDefault, xprvCopyValueFromCache, pvGetDataReadPtr, ht, hshort, load,
    hle, hpos]

theorem readLength_block (ht : (s.kvStoreCache key).type ≠ kvTypeNone)
    (hlong : (s.kvStoreCache key).length > sizeofPtr) {b : List UInt8}
    (hd : (s.kvStoreCache key).data = .ptr (some p)) (hb : s.heap.mem p = some b) :
    readLength cfg s key buf = if min buf.length (s.kvStoreCache key).length ≤ b.length then
      some (s.kvStoreCache key).length else none := by
  have hpos : (s.kvStoreCache key).length ≠ 0 := by omega
  simp only [readLength, xReadEntryOrDefault, xprvCopyValueFromCache, pvGetDataReadPtr, if_neg ht,
    if_pos hlong, hd, load, Heap.read, hb]
  split_ifs <;> simp [hpos]

theorem readLength_word (ht : (s.kvStoreCache key).type ≠ kvTypeNone)
    (hlong : (s.kvStoreCache key).length > sizeofPtr) {w : BitVec 32}
    (hd : (s.kvStoreCache key).data = .word w) : readLength cfg s key buf = none := by
  simp only [readLength, xReadEntryOrDefault, xprvCopyValueFromCache, pvGetDataReadPtr, if_neg ht,
    if_pos hlong, hd]
  rfl

/-- The law from the read that all getters share. -/
theorem SizeLaw.of_read (hk : key < cfg.csNumKeys) (hx : s.xKvMutex = true)
    (hread : ∀ buf, kvStoreGetSize cfg s key ≤ buf.length →
      readLength cfg s key buf = some (kvStoreGetSize cfg s key))
    (hstored : ReadCompletely rd key → kvStoreGetSize cfg s key = valueLength rd key)
    (hunset : ¬ReadCompletely rd key →
      kvStoreGetSize cfg s key = (cfg.kvStoreDefaults key).length) : SizeLaw cfg rd s key where
  read buf hbuf := (kvStoreGet_length hk hx).2 (hread buf hbuf)
  blob hty buf hbuf := by
    obtain ⟨b, hb⟩ := (kvStoreGet_length hk hx).2 (hread buf hbuf)
    rw [hty] at hb
    exact ⟨some b, by simp only [kvStoreGetBlob, hb]⟩
  string hty buf hne hbuf := by
    obtain ⟨b, hb⟩ := (kvStoreGet_length hk hx).2 (hread buf hbuf)
    rw [hty] at hb
    exact ⟨_, by simp only [kvStoreGetString, hb, List.length_eq_zero_iff, if_neg hne]; rfl⟩
  stored := hstored
  unset := hunset

/-- The size of an entry whose length is zero is the default's. -/
theorem getSize_eq (hk : key < cfg.csNumKeys) : kvStoreGetSize cfg s key =
    if (s.kvStoreCache key).length = 0 then (cfg.kvStoreDefaults key).length
    else (s.kvStoreCache key).length := if_pos hk

theorem valueLength_le : valueLength rd key ≤ xprvGetValueLengthFromImpl rd key := Nat.min_le_left _ _

theorem ReadCompletely.there (h : ReadCompletely rd key) : 0 < xprvGetValueLengthFromImpl rd key :=
  Nat.lt_of_lt_of_le h.nonempty valueLength_le

/-- A set entry that is not longer than what was stored is read back. -/
theorem EntryLoaded.readable (he : EntryLoaded rd key p len s.heap (s.kvStoreCache key))
    (ht : (s.kvStoreCache key).type ≠ kvTypeNone) (hpos : (s.kvStoreCache key).length ≠ 0)
    (hle : (s.kvStoreCache key).length ≤ xprvGetValueLengthFromImpl rd key) :
    readLength cfg s key buf = some (s.kvStoreCache key).length := by
  by_cases hlong : (s.kvStoreCache key).length > sizeofPtr
  · obtain ⟨hd, b, hb, hbl⟩ := he.block (by omega)
    rw [readLength_block ht hlong hd hb, if_pos (by omega)]
  · exact readLength_union ht hpos hlong

/-- A set entry that is longer than what was stored is not. -/
theorem EntryLoaded.unreadable (he : EntryLoaded rd key p len s.heap (s.kvStoreCache key))
    (hthere : 0 < xprvGetValueLengthFromImpl rd key)
    (ht : (s.kvStoreCache key).type ≠ kvTypeNone) (hlong : (s.kvStoreCache key).length > sizeofPtr)
    (hlt : xprvGetValueLengthFromImpl rd key < (s.kvStoreCache key).length)
    (hbuf : (s.kvStoreCache key).length ≤ buf.length) : readLength cfg s key buf = none := by
  by_cases hblk : sizeofPtr < xprvGetValueLengthFromImpl rd key
  · obtain ⟨hd, b, hb, hbl⟩ := he.block hblk
    rw [readLength_block ht hlong hd hb, if_neg (by omega)]
  · obtain ⟨w, hw⟩ := he.union hthere (by omega)
    exact readLength_word ht hlong hw

section
variable (hk : key < cfg.csNumKeys) (hx : s.xKvMutex = true)
  (he : EntryLoaded rd key p len s.heap (s.kvStoreCache key))
include hk hx he

theorem sizeLaw_absent (habsent : xprvGetValueLengthFromImpl rd key = 0) :
    SizeLaw cfg rd s key ↔ len = 0 ∨ len = (cfg.kvStoreDefaults key).length := by
  obtain ⟨ht, hlen⟩ := he.absent habsent
  have hno : ¬ReadCompletely rd key := fun h => by have := h.there; omega
  have hsize := @getSize_eq cfg s key hk
  rw [hlen] at hsize
  constructor
  · intro h
    have hunset := h.unset hno
    rw [hsize] at hunset
    split at hunset
    · exact .inl ‹_›
    · exact .inr hunset
  · intro h
    have hd : kvStoreGetSize cfg s key = (cfg.kvStoreDefaults key).length := by
      rw [hsize]
      split <;> omega
    exact .of_read hk hx (fun buf _ => by rw [readLength_default (.inl ht), hd])
      (fun hr => absurd hr hno) fun _ => hd

/-- A header that comes back short leaves the default. -/
theorem sizeLaw_short (hthere : 0 < xprvGetValueLengthFromImpl rd key)
    (hshort : (rd.get (xKeyToUID key) 0 sizeofKVStoreHeader).2.length ≠ sizeofKVStoreHeader) :
    SizeLaw cfg rd s key := by
  obtain ⟨r, hr, -, hlen⟩ := he.read hthere
  rw [read_eq hthere, if_pos hshort] at hr
  obtain rfl := Option.some.inj hr
  have hd : kvStoreGetSize cfg s key = (cfg.kvStoreDefaults key).length := by
    rw [getSize_eq hk, if_pos hlen]
  exact .of_read hk hx (fun buf _ => by rw [readLength_default (.inr hlen), hd])
    (fun hr => absurd hr.header.whole hshort) fun _ => hd

/-- A header whose read fails leaves its own size. -/
theorem sizeLaw_failed (hthere : 0 < xprvGetValueLengthFromImpl rd key)
    (hwhole : (rd.get (xKeyToUID key) 0 sizeofKVStoreHeader).2.length = sizeofKVStoreHeader)
    (hfailed : (rd.get (xKeyToUID key) 0 sizeofKVStoreHeader).1 ≠ psaSuccess) :
    SizeLaw cfg rd s key ↔ (cfg.kvStoreDefaults key).length = sizeofKVStoreHeader ∧
      ((headerOf rd key).type = kvTypeNone ∨
        sizeofKVStoreHeader ≤ xprvGetValueLengthFromImpl rd key) := by
  obtain ⟨r, hr, htype, hlen⟩ := he.read hthere
  rw [read_eq hthere, if_neg (not_not.2 hwhole), if_pos hfailed] at hr
  obtain rfl := Option.some.inj hr
  simp only at htype hlen
  have hno : ¬ReadCompletely rd key := fun h => hfailed h.header.ok
  have h8 : sizeofKVStoreHeader = 8 := rfl
  have h4 : sizeofPtr = 4 := rfl
  have hsize : kvStoreGetSize cfg s key = sizeofKVStoreHeader := by
    rw [getSize_eq hk, if_neg (by omega), hlen]
  constructor
  · intro h
    refine ⟨(h.unset hno).symm.trans hsize, ?_⟩
    by_contra hbad
    rw [not_or, Nat.not_le] at hbad
    have hread := (kvStoreGet_length hk hx).1 (h.read (List.replicate sizeofKVStoreHeader (0 : UInt8))
      (by rw [hsize, List.length_replicate]))
    rw [he.unreadable hthere (htype ▸ hbad.1) (by omega) (by omega)
      (by rw [hlen, List.length_replicate])] at hread
    cases hread
  · rintro ⟨hd, hor⟩
    refine .of_read hk hx (fun buf _ => ?_) (fun hr => absurd hr hno) fun _ => hsize.trans hd.symm
    by_cases ht : (headerOf rd key).type = kvTypeNone
    · rw [readLength_default (.inl (htype.trans ht)), hd, hsize]
    · have hle := hor.resolve_left ht
      rw [he.readable (htype ▸ ht) (by omega) (by omega), hlen, hsize]

/-- A value that is read. -/
theorem sizeLaw_value (hthere : 0 < xprvGetValueLengthFromImpl rd key) (hheader : HeaderRead rd key)
    (hreads : Reads rd key) :
    SizeLaw cfg rd s key ↔ valueLength rd key = 0 ∨
      valueLength rd key = (cfg.kvStoreDefaults key).length ∨
      ((valueRead rd key).1 = psaSuccess ∧ (headerOf rd key).type ≠ kvTypeNone) := by
  obtain ⟨r, hr, htype, hlen⟩ := he.read hthere
  rw [read_eq hthere, if_neg (not_not.2 hheader.whole), if_neg (not_not.2 hheader.ok),
    if_pos (hreads hthere hheader)] at hr
  obtain rfl := Option.some.inj hr
  simp only at htype hlen
  have hsize := @getSize_eq cfg s key hk
  rw [hlen] at hsize
  by_cases hzero : valueLength rd key = 0
  · rw [if_pos hzero] at hsize
    refine iff_of_true ?_ (.inl hzero)
    exact .of_read hk hx (fun buf _ => by rw [readLength_default (.inr (hlen.trans hzero)), hsize])
      (fun h => absurd hzero (Nat.ne_of_gt h.nonempty)) fun _ => hsize
  · rw [if_neg hzero] at hsize
    constructor
    · intro h
      by_cases hok : (valueRead rd key).1 = psaSuccess
      · by_cases ht : (headerOf rd key).type = kvTypeNone
        · -- the size is the value's, the getter returns the default
          have hread := (kvStoreGet_length hk hx).1 (h.read (List.replicate (valueLength rd key) (0 : UInt8))
            (by rw [hsize, List.length_replicate]))
          rw [readLength_default (.inl (htype.trans ht)), hsize] at hread
          exact .inr (.inl (Option.some.inj hread).symm)
        · exact .inr (.inr ⟨hok, ht⟩)
      · exact .inr (.inl (hsize.symm.trans (h.unset fun hr => hok hr.ok)))
    · intro h
      refine .of_read hk hx (fun buf _ => ?_) (fun _ => hsize) fun hno => ?_
      · by_cases ht : (headerOf rd key).type = kvTypeNone
        · rw [readLength_default (.inl (htype.trans ht)), hsize]
          rcases h with h | h | ⟨-, h⟩
          · exact absurd h hzero
          · rw [h]
          · exact absurd ht h
        · rw [he.readable (htype ▸ ht) (by omega) (hlen ▸ valueLength_le), hlen, hsize]
      · rw [hsize]
        rcases h with h | h | ⟨h, -⟩
        · exact absurd h hzero
        · exact h
        · exact absurd ⟨hheader, Nat.pos_of_ne_zero hzero, hreads hthere hheader, h⟩ hno

theorem sizeLaw_iff (hreads : Reads rd key) : SizeLaw cfg rd s key ↔ LoadsWell cfg rd key len := by
  by_cases hthere : 0 < xprvGetValueLengthFromImpl rd key
  · by_cases hwhole : (rd.get (xKeyToUID key) 0 sizeofKVStoreHeader).2.length = sizeofKVStoreHeader
    · by_cases hok : (rd.get (xKeyToUID key) 0 sizeofKVStoreHeader).1 = psaSuccess
      · rw [sizeLaw_value hk hx he hthere ⟨hwhole, hok⟩ hreads]
        exact ⟨fun h => ⟨fun ha => by omega, fun _ _ hf => absurd hok hf, fun _ _ => h⟩,
          fun h => h.value hthere ⟨hwhole, hok⟩⟩
      · rw [sizeLaw_failed hk hx he hthere hwhole hok]
        exact ⟨fun h => ⟨fun ha => by omega, fun _ _ _ => h, fun _ hh => absurd hh.ok hok⟩,
          fun h => h.header hthere hwhole hok⟩
    · refine iff_of_true (sizeLaw_short hk hx he hthere hwhole) ⟨fun ha => by omega, ?_, ?_⟩
      · exact fun _ hw => absurd hw hwhole
      · exact fun _ hh => absurd hh.whole hwhole
  · have habsent : xprvGetValueLengthFromImpl rd key = 0 := by omega
    rw [sizeLaw_absent hk hx he habsent]
    exact ⟨fun h => ⟨fun _ => h, fun hp => absurd hp hthere, fun hp => absurd hp hthere⟩,
      fun h => h.absent habsent⟩

end

/-! ## The whole of it -/

/-- `KVStore_init` returns, and every size is right. -/
def InitLaw (al : Allocator) (cfg : Config) (rd : ItsReads) (s : State) : Prop :=
  ∃ s', kvStoreInitFrom al cfg rd s = some s' ∧ ∀ key < cfg.csNumKeys, SizeLaw cfg rd s' key

/-- **What `KVStore_init` makes of any storage**, the first time or later: it passes its assertions and
leaves every size right exactly when there is room for every value, no read of a value comes back short,
and every key loads well. -/
theorem init_sizes_iff (al : Allocator) (cfg : Config) (rd : ItsReads) (s : State) :
    InitLaw al cfg rd s ↔ ∀ key < cfg.csNumKeys, Room al rd (nextBlock rd s.heap.next key) key ∧
      Reads rd key ∧ LoadsWell cfg rd key (s.kvStoreCache key).length := by
  constructor
  · rintro ⟨s', hs, hlaw⟩ key hk
    obtain ⟨hall, hloaded⟩ := loadEntries_some hs
    obtain ⟨hroom, hreads⟩ := hall key hk
    exact ⟨hroom, hreads,
      (sizeLaw_iff hk hloaded.mutex (hloaded.entry key hk) hreads).1 (hlaw key hk)⟩
  · intro h
    obtain ⟨s', hs⟩ := @loadEntries_total al rd { s with xKvMutex := true } cfg.csNumKeys
      fun k hk => ⟨(h k hk).1, (h k hk).2.1⟩
    have hloaded := (loadEntries_some hs).2
    exact ⟨s', hs, fun key hk => (sizeLaw_iff hk hloaded.mutex (hloaded.entry key hk)
      (h key hk).2.1).2 (h key hk).2.2⟩

/-- One name, empty by default. -/
def nameKey : Config := ⟨1, fun _ => ⟨kvTypeString, 0, 0, fun _ => 0⟩⟩

/-- A storage whose values cannot be read: `psa_its_get` fails behind the headers. -/
def badValues (its : Its) : ItsReads where
  getInfo := psaItsGetInfo its
  get uid dataOffset dataLength :=
    if dataOffset = 0 then psaItsGet its uid dataOffset dataLength else (psaErrorStorageFailure, [])
  fits uid dataOffset dataLength := by
    split
    · exact its.reads.fits uid dataOffset dataLength
    · exact Nat.zero_le _

/-- A stored name whose value cannot be read fails an assertion; a name that was set and not committed
leaves its length when `KVStore_init` runs again. -/
theorem init_sizes_missed :
    (∃ its : Its, NvOk its 0 ∧ ¬InitLaw .granting nameKey (badValues its) (.boot its)) ∧
    ∃ tr s, Exec (kvStore .granting nameKey) (.boot fun _ => none) tr s ∧
      tr.map (·.inp.write?) = [none, some (0, kvTypeString, [97, 98, 0])] ∧
      ¬InitLaw .granting nameKey s.its.reads s := by
  refine ⟨⟨fun _ => some (nvObject kvTypeString [97, 98, 0]), ?_, ?_⟩, ?_⟩
  · intro data hd
    exact ⟨kvTypeString, [97, 98, 0], (Option.some.inj hd).symm, by decide, by decide, by decide⟩
  · rintro ⟨s', hs, -⟩
    have hreads := ((loadEntries_some hs).1 0 (by decide)).2 (by decide) ⟨by decide, by decide⟩
    exact absurd hreads (by decide)
  · have h0 : Exec (kvStore .granting nameKey) (.boot fun _ => none) [] (.boot fun _ => none) := .nil
    have h1 := h0.snoc (i := .init) rfl
    have h2 := h1.snoc (i := .setString 0 (some ⟨[97, 98], by decide, by decide⟩)) rfl
    refine ⟨_, _, h2, rfl, ?_⟩
    rintro ⟨s', hs, hlaw⟩
    have hloaded := (loadEntries_some hs).2
    have hwell := (sizeLaw_iff (by decide) hloaded.mutex (hloaded.entry 0 (by decide))
      ((loadEntries_some hs).1 0 (by decide)).2).1 (hlaw 0 (by decide))
    exact absurd (hwell.absent rfl) (by decide)

end KvStore
