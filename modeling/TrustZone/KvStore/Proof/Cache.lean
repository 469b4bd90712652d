import TrustZone.KvStore.Cache
import TrustZone.Lib.Ownership

/-!
# One cache entry

`Held h e`: the bytes of an entry are where its length says, in its word or in a live block of at
least that size (`own e`). `EntryOk h e`: so it is for a set entry, whose length is right. `Moves h e
h' e'` is what an operation on one entry may do to the heap: it keeps every block but the entry's own,
and the entry comes to own its old block, a new one or none. Every operation of `kvstore_cache.c` is a
`Moves`, and they compose; the operations on what is held are an `Exchange`, which says more.

* `xprvWriteCacheEntry_spec`: after a write the entry holds exactly the value, and is pending unless
  it was clean and held this value already.
* `EntryOk.read`: the bytes that `xprvCopyValueFromCache` copies.
-/

namespace KvStore

open Lib

@[simp] theorem Word.toBytes_length (w : Word) : w.toBytes.length = sizeofPtr := by
  cases w <;> simp [Word.toBytes]

theorem Word.toBytes_ofBytes {b : List UInt8} (h : b.length = sizeofPtr) :
    (Word.ofBytes b).toBytes = b := by
  have hlt : leVal b < 2 ^ 32 := by
    have := leVal_lt b
    rw [h] at this
    exact this.trans_eq (by decide)
  simp only [Word.ofBytes, Word.toBytes, BitVec.toNat_ofNat]
  rw [Nat.mod_eq_of_lt hlt, ← h]
  exact leBytes_leVal b

/-! ## Ownership -/

/-- The block that the union of an entry points to. -/
def own (e : KVStoreCacheEntry) : Option Nat :=
  if e.length > sizeofPtr then
    match e.data with
    | .ptr p => p
    | .word _ => none
  else none

/-- What a set entry is: a length, and the bytes where the length says they are. -/
structure EntryOk (h : Heap) (e : KVStoreCacheEntry) : Prop where
  pos : 0 < e.length
  fits : 8 + e.length < sizeMax
  block : e.length > sizeofPtr →
    ∃ p blk, e.data = .ptr (some p) ∧ h.mem p = some blk ∧ e.length ≤ blk.length

/-- What an operation on one entry does to the heap. -/
structure Moves (h : Heap) (e : KVStoreCacheEntry) (h' : Heap) (e' : KVStoreCacheEntry) : Prop where
  wf : h'.Wf
  keeps : ∀ p, own e ≠ some p → h.mem p ≠ none → h'.mem p = h.mem p
  owns : ∀ p, own e' = some p → h'.mem p ≠ none ∧ (own e = some p ∨ h.mem p = none)

/-- The bytes of an entry are where its length says. -/
structure Held (h : Heap) (e : KVStoreCacheEntry) : Prop where
  block : e.length > sizeofPtr →
    ∃ p blk, e.data = .ptr (some p) ∧ h.mem p = some blk ∧ e.length ≤ blk.length

variable {al : Allocator} {h h' h'' : Heap} {e e' e'' : KVStoreCacheEntry}

theorem EntryOk.held (hk : EntryOk h e) : Held h e := ⟨hk.block⟩

theorem Held.congr (hk : Held h e) (hl : e'.length = e.length) (hd : e'.data = e.data) :
    Held h e' := ⟨by rw [hl, hd]; exact hk.block⟩

theorem own_long (hd : e.data = .ptr p) (hlen : e.length > sizeofPtr) : own e = p := by
  simp [own, hlen, hd]

theorem own_short (hlen : ¬e.length > sizeofPtr) : own e = none := if_neg hlen

theorem own_congr (hl : e'.length = e.length) (hd : e'.data = e.data) : own e' = own e := by
  unfold own
  rw [hl, hd]

theorem long_of_own {p : Nat} (hp : own e = some p) : e.length > sizeofPtr := by
  by_contra hlen
  rw [own_short hlen] at hp
  cases hp

theorem Held.live (hk : Held h e) {p : Nat} (hp : own e = some p) : h.mem p ≠ none := by
  obtain ⟨q, blk, hd, hm, -⟩ := hk.block (long_of_own hp)
  rw [own_long hd (long_of_own hp)] at hp
  obtain rfl := Option.some.inj hp
  rw [hm]
  simp

/-- An exchange moves the entry. -/
theorem Moves.of_exchange {leak : Prop} (hw : h.Wf) (hx : h.Exchange leak (own e) h' (own e')) :
    Moves h e h' e' where
  wf := hx.wf
  keeps := hx.keeps
  owns p hp := ⟨(hx.live p).2 (.inl hp), (hx.fresh p hp).imp_right (hw p)⟩

theorem Moves.refl (hw : h.Wf) (hlive : ∀ p, own e = some p → h.mem p ≠ none) (ho : own e' = own e) :
    Moves h e h e' where
  wf := hw
  keeps _ _ _ := rfl
  owns p hp := by rw [ho] at hp; exact ⟨hlive p hp, .inl hp⟩

theorem Moves.trans (h1 : Moves h e h' e') (h2 : Moves h' e' h'' e'') : Moves h e h'' e'' where
  wf := h2.wf
  keeps p hp hl := by
    have hk := h1.keeps p hp hl
    have hp' : own e' ≠ some p := by
      intro ho
      rcases (h1.owns p ho).2 with h3 | h3
      · exact hp h3
      · exact hl h3
    rw [h2.keeps p hp' (by rwa [hk]), hk]
  owns p hp := by
    obtain ⟨hl, ho⟩ := h2.owns p hp
    refine ⟨hl, ?_⟩
    rcases ho with ho | ho
    · exact (h1.owns p ho).2
    · by_contra hc
      obtain ⟨hne, hm⟩ := not_or.1 hc
      rw [h1.keeps p hne hm] at ho
      exact hm ho

/-- Only the type and the flag differ. -/
theorem EntryOk.congr (hk : EntryOk h e) (hl : e'.length = e.length) (hd : e'.data = e.data) :
    EntryOk h e' :=
  ⟨hl ▸ hk.pos, hl ▸ hk.fits, by rw [hl, hd]; exact hk.block⟩

theorem Moves.congr (hm : Moves h e h' e') (hl : e''.length = e'.length)
    (hd : e''.data = e'.data) : Moves h e h' e'' :=
  ⟨hm.wf, hm.keeps, fun p hp => hm.owns p (by simpa only [own, hl, hd] using hp)⟩

theorem EntryOk.live (hk : EntryOk h e) {p : Nat} (hp : own e = some p) : h.mem p ≠ none :=
  hk.held.live hp

/-- An operation elsewhere in the heap leaves a set entry as it is. -/
theorem EntryOk.frame (hk : EntryOk h e) (hm : ∀ p, own e = some p → h'.mem p = h.mem p) :
    EntryOk h' e where
  pos := hk.pos
  fits := hk.fits
  block hlen := by
    obtain ⟨p, blk, hd, hp, hb⟩ := hk.block hlen
    exact ⟨p, blk, hd, (hm p (by simp [own, hlen, hd])).trans hp, hb⟩

/-! ## Reading -/

/-- The bytes of a set entry, from the heap. -/
def entryBytes (h : Heap) (e : KVStoreCacheEntry) : List UInt8 :=
  match e.data with
  | .ptr (some p) =>
    if e.length > sizeofPtr then ((h.mem p).getD []).take e.length else e.data.toBytes.take e.length
  | _ => e.data.toBytes.take e.length

theorem entryBytes_inline (hlen : ¬e.length > sizeofPtr) :
    entryBytes h e = e.data.toBytes.take e.length := by
  unfold entryBytes
  split
  · rw [if_neg hlen]
  · rfl

theorem entryBytes_block {p : Nat} {blk : List UInt8} (hlen : e.length > sizeofPtr)
    (hd : e.data = .ptr (some p)) (hp : h.mem p = some blk) :
    entryBytes h e = blk.take e.length := by
  simp [entryBytes, hd, hlen, hp]

theorem Held.bytes_frame (hk : Held h e) (hm : ∀ p, own e = some p → h'.mem p = h.mem p) :
    entryBytes h' e = entryBytes h e := by
  by_cases hlen : e.length > sizeofPtr
  · obtain ⟨p, blk, hd, hp, -⟩ := hk.block hlen
    have hp' : h'.mem p = some blk := (hm p (by simp [own, hlen, hd])).trans hp
    rw [entryBytes_block hlen hd hp, entryBytes_block hlen hd hp']
  · rw [entryBytes_inline hlen, entryBytes_inline hlen]

theorem entryBytes_frame (hk : EntryOk h e) (hm : ∀ p, own e = some p → h'.mem p = h.mem p) :
    entryBytes h' e = entryBytes h e := hk.held.bytes_frame hm

theorem Held.bytes_length (hk : Held h e) : (entryBytes h e).length = e.length := by
  by_cases hlen : e.length > sizeofPtr
  · obtain ⟨p, blk, hd, hp, hb⟩ := hk.block hlen
    rw [entryBytes_block hlen hd hp, List.length_take]
    omega
  · rw [entryBytes_inline hlen, List.length_take, Word.toBytes_length]
    omega

theorem EntryOk.bytes_length (hk : EntryOk h e) : (entryBytes h e).length = e.length :=
  hk.held.bytes_length

/-- A read through `pvGetDataReadPtr` of at most the length gives the first bytes. -/
theorem Held.load (hk : Held h e) (ht : e.type ≠ kvTypeNone) :
    ∃ ptr, pvGetDataReadPtr e = some (some ptr) ∧
      ∀ n, n ≤ e.length → load h e ptr n = some ((entryBytes h e).take n) := by
  unfold pvGetDataReadPtr
  rw [if_neg ht]
  by_cases hlen : e.length > sizeofPtr
  · obtain ⟨p, blk, hd, hp, hb⟩ := hk.block hlen
    refine ⟨.block p, by simp [hlen, hd], fun n hn => ?_⟩
    rw [entryBytes_block hlen hd hp, List.take_take, Nat.min_eq_left hn]
    exact Heap.read_eq hp (by omega)
  · refine ⟨.union, by simp [hlen], fun n hn => ?_⟩
    rw [entryBytes_inline hlen, List.take_take, Nat.min_eq_left hn]
    exact if_pos (by omega)

theorem EntryOk.load (hk : EntryOk h e) (ht : e.type ≠ kvTypeNone) :
    ∃ ptr, pvGetDataReadPtr e = some (some ptr) ∧
      ∀ n, n ≤ e.length → load h e ptr n = some ((entryBytes h e).take n) := hk.held.load ht

/-- What `xprvCopyValueFromCache` copies. -/
theorem EntryOk.copy (hk : EntryOk h e) (ht : e.type ≠ kvTypeNone) (n : Nat) :
    xprvCopyValueFromCache h e n =
      some (some (e.type, e.length, (entryBytes h e).take (min n e.length))) := by
  obtain ⟨ptr, hptr, hload⟩ := hk.load ht
  simp [xprvCopyValueFromCache, hptr, hload (min n e.length) (by omega)]

theorem EntryOk.entryData (hk : EntryOk h e) (ht : e.type ≠ kvTypeNone) :
    entryData h e = some (some (entryBytes h e)) := by
  obtain ⟨ptr, hptr, hload⟩ := hk.load ht
  simp only [KvStore.entryData, hptr, hload e.length (Nat.le_refl _)]
  rw [List.take_of_length_le (by rw [hk.bytes_length])]

/-! ## Writing -/

/-- `memcpy` of a value of the entry's length replaces its bytes. -/
theorem Held.store (hw : h.Wf) (hk : Held h e) {v : List UInt8} (hv : v.length = e.length) :
    ∃ ptr h' e', pvGetDataWritePtr e = some ptr ∧ store h e v ptr = some (h', e') ∧
      h.Exchange False (own e) h' (own e') ∧ Held h' e' ∧ entryBytes h' e' = v ∧ e'.type = e.type ∧
      e'.length = e.length ∧ e'.xChangePending = e.xChangePending := by
  by_cases hlen : e.length > sizeofPtr
  · obtain ⟨p, blk, hd, hp, hb⟩ := hk.block hlen
    have hown := own_long hd hlen
    have hwr := Heap.write_eq hp (show v.length ≤ blk.length by omega)
    have hbl : e.length ≤ (blit blk 0 v).length := by rw [blit_length (by omega)]; exact hb
    refine ⟨.block p, ⟨h.next, Function.update h.mem p (some (blit blk 0 v))⟩, e,
      by simp [pvGetDataWritePtr, hlen, hd], by simp [KvStore.store, hwr], ?_, ?_, ?_,
      rfl, rfl, rfl⟩
    · rw [hown]
      exact .write hw hwr
    · exact ⟨fun _ => ⟨p, blit blk 0 v, hd, Function.update_self .., hbl⟩⟩
    · rw [entryBytes_block hlen hd (Function.update_self ..), ← hv]
      exact take_blit_zero
  · have hlen' : v.length ≤ sizeofPtr := by omega
    have hb : (blit e.data.toBytes 0 v).length = sizeofPtr := by
      rw [blit_length (by simpa using hlen'), Word.toBytes_length]
    have hown : own { e with data := .ofBytes (blit e.data.toBytes 0 v) } = own e := by
      rw [own_short hlen]
      exact own_short hlen
    refine ⟨.union, h, { e with data := .ofBytes (blit e.data.toBytes 0 v) },
      by simp [pvGetDataWritePtr, hlen], by simp [KvStore.store, hlen'], ?_, ?_, ?_, rfl, rfl, rfl⟩
    · rw [hown]
      exact .refl hw fun _ => hk.live
    · exact ⟨fun hc => absurd hc hlen⟩
    · rw [entryBytes_inline (e := { e with data := .ofBytes (blit e.data.toBytes 0 v) }) hlen]
      simp only [Word.toBytes_ofBytes hb]
      rw [← hv]
      exact take_blit_zero

theorem EntryOk.store (hw : h.Wf) (hk : EntryOk h e) {v : List UInt8} (hv : v.length = e.length) :
    ∃ ptr h' e', pvGetDataWritePtr e = some ptr ∧ store h e v ptr = some (h', e') ∧
      Moves h e h' e' ∧ EntryOk h' e' ∧ entryBytes h' e' = v ∧ e'.type = e.type ∧
      e'.length = e.length ∧ e'.xChangePending = e.xChangePending := by
  obtain ⟨ptr, h', e', hptr, hst, hx, hk', hb, ht, hl, hp⟩ := hk.held.store hw hv
  exact ⟨ptr, h', e', hptr, hst, .of_exchange hw hx, ⟨hl ▸ hk.pos, hl ▸ hk.fits, hk'.block⟩, hb, ht,
    hl, hp⟩

/-- A fresh buffer, in place of what the entry owned. -/
theorem vAllocateDataBuffer_held (hal : al.Succeeds) (hw : h.Wf) (hk : Held h e) (n : Nat) :
    ∃ h' e', vAllocateDataBuffer al h e n = (h', e') ∧ Held h' e' ∧
      h.Exchange True (own e) h' (own e') ∧ e'.length = n := by
  unfold vAllocateDataBuffer
  by_cases hlen : n > sizeofPtr
  · rw [if_pos hlen, Heap.malloc_granted hal]
    refine ⟨_, _, rfl, ⟨fun _ => ⟨h.next, _, rfl, Function.update_self .., by simp⟩⟩, ?_, rfl⟩
    have hown : own { e with data := .ptr (some h.next), length := n } = some h.next :=
      own_long rfl hlen
    rw [hown]
    exact .malloc hw (fun _ => hk.live) _
  · rw [if_neg hlen]
    refine ⟨_, _, rfl, ⟨fun hc => absurd hc hlen⟩, ?_, rfl⟩
    have hown : own { e with data := .word 0, length := n } = none := own_short hlen
    rw [hown]
    exact .drop hw

/-- The buffer is freed. -/
theorem vClearDataBuffer_held (hw : h.Wf) (hk : Held h e) :
    ∃ h' e', vClearDataBuffer h e = some (h', e') ∧ h.Exchange False (own e) h' (own e') ∧
      Held h' e' ∧ own e' = none := by
  unfold vClearDataBuffer
  by_cases hlen : e.length > sizeofPtr
  · obtain ⟨p, blk, hd, hp, -⟩ := hk.block hlen
    rw [if_pos hlen, hd, own_long hd hlen]
    simp only [Heap.free_eq hp]
    refine ⟨_, _, rfl, ?_, ⟨fun hc => absurd hc (by simp)⟩, own_short (by simp)⟩
    rw [own_short (by simp)]
    exact .free hw (by simp [hp])
  · rw [if_neg hlen, own_short hlen]
    refine ⟨_, _, rfl, ?_, ⟨fun hc => absurd hc (by simp)⟩, own_short (by simp)⟩
    rw [own_short (by simp)]
    exact .refl hw (by simp)

/-- A buffer of another length. One that is too long for the union, and for a value that is not, is
lost. -/
theorem vReallocDataBuffer_held (hal : al.Succeeds) (hw : h.Wf) (hk : Held h e) (n : Nat) :
    ∃ h' e', vReallocDataBuffer al h e n = some (h', e') ∧ Held h' e' ∧
      h.Exchange (n ≤ sizeofPtr) (own e) h' (own e') ∧ e'.length = n := by
  unfold vReallocDataBuffer
  by_cases hlen : n > e.length
  · obtain ⟨h1, e1, hc, hx1, hk1, hn1⟩ := vClearDataBuffer_held hw hk
    obtain ⟨h2, e2, ha, hk2, hx2, hl2⟩ := vAllocateDataBuffer_held hal hx1.wf hk1 n
    rw [if_pos hlen, hc]
    refine ⟨h2, e2, congrArg some ha, hk2, ?_, hl2⟩
    have hx2 : h1.Exchange False (own e1) h2 (own e2) := hx2.congr (by simp [hn1])
    refine (hx1.trans hw (fun _ => hk.live) hx2).congr ?_
    intro p hp
    have := long_of_own hp
    exact iff_of_false id (by omega)
  · rw [if_neg hlen]
    refine ⟨h, _, rfl, ⟨fun hc => ?_⟩, ?_, rfl⟩
    · obtain ⟨p, blk, hd, hp, hb⟩ := hk.block (by simp only at hc; omega)
      exact ⟨p, blk, hd, hp, by simp only; omega⟩
    · by_cases hn : n > sizeofPtr
      · have hlong : e.length > sizeofPtr := by omega
        obtain ⟨p, blk, hd, -, -⟩ := hk.block hlong
        have hown : own { e with length := n } = own e := by
          rw [own_long hd hlong]
          exact own_long hd hn
        rw [hown]
        exact (Heap.Exchange.refl hw fun _ => hk.live).congr fun _ _ => iff_of_false id (by omega)
      · have hown : own { e with length := n } = none := own_short hn
        rw [hown]
        exact (Heap.Exchange.drop hw).congr fun _ _ => iff_of_true trivial (by omega)

/-- A fresh buffer for a value that fits. -/
theorem vAllocateDataBuffer_ok (hal : al.Succeeds) (hw : h.Wf) {n : Nat} (hn : 0 < n)
    (hf : 8 + n < sizeMax) :
    ∃ h' e', vAllocateDataBuffer al h e n = (h', e') ∧ EntryOk h' e' ∧ Moves h e h' e' ∧
      e'.length = n ∧ e'.type = e.type ∧ e'.xChangePending = e.xChangePending := by
  unfold vAllocateDataBuffer
  by_cases hlen : n > sizeofPtr
  · rw [if_pos hlen, Heap.malloc_granted hal]
    refine ⟨_, _, rfl, ⟨hn, hf, fun _ => ⟨h.next, _, rfl, Function.update_self .., by simp⟩⟩, ?_,
      rfl, rfl, rfl⟩
    refine ⟨hw.push _, fun q _ hl => ?_, fun q hq => ?_⟩
    · have hne : q ≠ h.next := fun he => hl (hw q (Nat.le_of_eq he.symm))
      exact Function.update_of_ne hne _ _
    · simp only [own, hlen, if_true, Option.some.injEq] at hq
      subst hq
      exact ⟨by simp, .inr (hw _ (Nat.le_refl _))⟩
  · rw [if_neg hlen]
    refine ⟨_, _, rfl, ⟨hn, hf, fun hc => absurd hc hlen⟩, ?_, rfl, rfl, rfl⟩
    exact ⟨hw, fun _ _ _ => rfl, fun q hq => by simp [own] at hq⟩

theorem vReallocDataBuffer_ok (hal : al.Succeeds) (hw : h.Wf) (hk : EntryOk h e) {n : Nat}
    (hn : 0 < n) (hf : 8 + n < sizeMax) :
    ∃ h' e', vReallocDataBuffer al h e n = some (h', e') ∧ EntryOk h' e' ∧ Moves h e h' e' ∧
      e'.length = n := by
  obtain ⟨h', e', hr, hk', hx, hl⟩ := vReallocDataBuffer_held hal hw hk.held n
  exact ⟨h', e', hr, ⟨hl ▸ hn, hl ▸ hf, hk'.block⟩, .of_exchange hw hx, hl⟩

/-- The value of an entry: its type and bytes when it is set. -/
def entryValue (h : Heap) (e : KVStoreCacheEntry) : Option (KVStoreValueType × List UInt8) :=
  if e.type = kvTypeNone then none else some (e.type, entryBytes h e)

theorem entryValue_set (ht : e.type ≠ kvTypeNone) :
    entryValue h e = some (e.type, entryBytes h e) := if_neg ht

/-- Making room: the entry has the type and the length of the value, and is pending unless it was
clean and held this value. -/
theorem markCacheEntry_spec (hal : al.Succeeds) (hw : h.Wf)
    (hk : e.type ≠ kvTypeNone → EntryOk h e) {ty : KVStoreValueType} {v : List UInt8}
    (hv : 0 < v.length) (hf : 8 + v.length < sizeMax) :
    ∃ h' e', markCacheEntry al h e ty v = some (h', e') ∧ Moves h e h' e' ∧ EntryOk h' e' ∧
      e'.type = ty ∧ e'.length = v.length ∧
      e'.xChangePending = (e.xChangePending || decide (entryValue h e ≠ some (ty, v))) ∧
      (e'.xChangePending = false → entryBytes h' e' = v) := by
  unfold markCacheEntry
  by_cases ht : e.type = kvTypeNone
  · obtain ⟨h1, e1, ha, hk1, hm1, hl1, -⟩ := vAllocateDataBuffer_ok (e := e) hal hw hv hf
    rw [if_pos ht, ha]
    refine ⟨h1, _, rfl, hm1.congr rfl rfl, hk1.congr rfl rfl, rfl, hl1, ?_, by simp⟩
    simp [entryValue, ht]
  · have hk := hk ht
    rw [if_neg ht]
    by_cases hl : e.length = v.length
    · rw [if_neg (by simpa using hl)]
      have hrefl : Moves h e h e := .refl hw (fun _ => hk.live) rfl
      by_cases hty : e.type = ty
      · obtain ⟨ptr, hptr, hload⟩ := hk.load ht
        have hold : load h e ptr v.length = some (entryBytes h e) := by
          rw [← hl, hload _ (Nat.le_refl _), List.take_of_length_le (by rw [hk.bytes_length])]
        rw [if_neg (by simpa using hty), hptr]
        simp only [hold]
        refine ⟨h, _, rfl, hrefl.congr rfl rfl, hk.congr rfl rfl, hty, hl, ?_, fun hp => ?_⟩
        · rw [entryValue_set ht, hty]
          simp
        · simp only [Bool.or_eq_false_iff, decide_eq_false_iff_not, not_not] at hp
          exact hp.2
      · rw [if_pos hty]
        refine ⟨h, _, rfl, hrefl.congr rfl rfl, hk.congr rfl rfl, rfl, hl, ?_, by simp⟩
        rw [entryValue_set ht]
        simp [hty]
    · obtain ⟨h1, e1, ha, hk1, hm1, hl1⟩ := vReallocDataBuffer_ok hal hw hk hv hf
      rw [if_pos hl, ha]
      refine ⟨h1, _, rfl, hm1.congr rfl rfl, hk1.congr rfl rfl, rfl, hl1, ?_, by simp⟩
      have hne : entryBytes h e ≠ v := fun he => hl (by rw [← he, hk.bytes_length])
      rw [entryValue_set ht]
      simp [hne]

/-- **A cache write**: the entry holds the value, the rest of the heap is kept, and the entry is clean
only if it was and held this value before. -/
theorem xprvWriteCacheEntry_spec (hal : al.Succeeds) (hw : h.Wf)
    (hk : e.type ≠ kvTypeNone → EntryOk h e) {ty : KVStoreValueType} {v : List UInt8}
    (hty : ty.toNat < kvTypeLast.toNat) (hty0 : ty ≠ kvTypeNone) (hv : 0 < v.length)
    (hf : 8 + v.length < sizeMax) :
    ∃ h' e', xprvWriteCacheEntry al h e ty v = some (h', e') ∧ Moves h e h' e' ∧ EntryOk h' e' ∧
      entryValue h' e' = some (ty, v) ∧
      e'.xChangePending = (e.xChangePending || decide (entryValue h e ≠ some (ty, v))) := by
  obtain ⟨h1, e1, hmark, hm1, hk1, ht1, hl1, hp1, hb1⟩ := markCacheEntry_spec hal hw hk hv hf
  have hne : e1.type ≠ kvTypeNone := by rw [ht1]; exact hty0
  unfold xprvWriteCacheEntry
  rw [if_pos ⟨hty, hv⟩, hmark]
  simp only
  cases hp : e1.xChangePending with
  | true =>
    obtain ⟨ptr, h2, e2, hptr, hst, hm2, hk2, hb2, ht2, -, hp2⟩ := hk1.store hm1.wf hl1.symm
    rw [if_pos rfl, hptr]
    refine ⟨h2, e2, hst, hm1.trans hm2, hk2, ?_, hp2.trans hp1⟩
    rw [entryValue_set (by rw [ht2]; exact hne), ht2, ht1, hb2]
  | false =>
    rw [if_neg (by simp)]
    refine ⟨h1, e1, rfl, hm1, hk1, ?_, hp1⟩
    rw [entryValue_set hne, ht1, hb1 hp]

/-- Room for a value of four bytes is always there: it is the union. -/
theorem markCacheEntry_union (al : Allocator) (h : Heap) (e : KVStoreCacheEntry) (ty : KVStoreValueType)
    {v : List UInt8} (hv : v.length = sizeofPtr) :
    ∃ e', markCacheEntry al h e ty v = some (h, e') ∧ e'.type = ty ∧ e'.length = sizeofPtr ∧
      (e'.xChangePending = false → e'.data.toBytes = v) := by
  have hlt : ¬sizeofPtr > sizeofPtr := Nat.lt_irrefl _
  unfold markCacheEntry
  rw [hv]
  by_cases h0 : e.type = kvTypeNone
  · rw [if_pos h0, vAllocateDataBuffer, if_neg hlt]
    exact ⟨_, rfl, rfl, rfl, nofun⟩
  rw [if_neg h0]
  by_cases hlen : e.length = sizeofPtr
  · rw [if_neg (not_not_intro hlen)]
    by_cases hty : e.type = ty
    · have hptr : pvGetDataReadPtr e = some (some .union) := by
        rw [pvGetDataReadPtr, if_neg h0, hlen, if_neg hlt]
      have hload : load h e .union sizeofPtr = some e.data.toBytes := by
        rw [load, if_pos (Nat.le_refl _), List.take_of_length_le (Word.toBytes_length _).le]
      rw [if_neg (not_not_intro hty), hptr]
      simp only [hload]
      refine ⟨_, rfl, hty, hlen, fun hp => ?_⟩
      exact of_not_not (of_decide_eq_false (Bool.or_eq_false_iff.1 hp).2)
    · rw [if_pos hty]
      exact ⟨_, rfl, rfl, hlen, nofun⟩
  · rw [if_pos hlen, vReallocDataBuffer]
    by_cases hgrow : sizeofPtr > e.length
    · have hinline : ¬e.length > sizeofPtr := by omega
      rw [if_pos hgrow, vClearDataBuffer, if_neg hinline]
      simp only [vAllocateDataBuffer, if_neg hlt]
      exact ⟨_, rfl, rfl, rfl, nofun⟩
    · rw [if_neg hgrow]
      exact ⟨_, rfl, rfl, rfl, nofun⟩

/-- **A value of four bytes** is written without the heap, whatever the entry was. -/
theorem xprvWriteCacheEntry_union (al : Allocator) (h : Heap) (e : KVStoreCacheEntry)
    {ty : KVStoreValueType} {v : List UInt8} (hty : ty.toNat < kvTypeLast.toNat)
    (hty0 : ty ≠ kvTypeNone) (hv : v.length = sizeofPtr) :
    ∃ e', xprvWriteCacheEntry al h e ty v = some (h, e') ∧ entryValue h e' = some (ty, v) := by
  obtain ⟨e', hmark, rfl, hlen, hkept⟩ := markCacheEntry_union al h e ty hv
  have hpos : 0 < v.length := by rw [hv]; decide
  have hinline : ¬e'.length > sizeofPtr := by omega
  have hvalue : ∀ e₂ : KVStoreCacheEntry, e₂.type = e'.type → e₂.length = e'.length →
      e₂.data.toBytes = v → entryValue h e₂ = some (e'.type, v) := by
    intro e₂ ht hl hb
    rw [entryValue_set (ht ▸ hty0), entryBytes_inline (by omega), hb, ht,
      List.take_of_length_le (by omega)]
  simp only [xprvWriteCacheEntry, if_pos (And.intro hty hpos), hmark]
  by_cases hp : e'.xChangePending = true
  · have hstore : store h e' v .union = some (h, { e' with data := .ofBytes v }) := by
      rw [store, if_pos (by omega), blit_zero, List.drop_of_length_le (by simp [hv]), List.append_nil]
    rw [if_pos hp, pvGetDataWritePtr, if_neg hinline]
    exact ⟨_, hstore, hvalue _ rfl rfl (Word.toBytes_ofBytes hv)⟩
  · rw [if_neg hp]
    exact ⟨e', rfl, hvalue e' rfl rfl (hkept (by simpa using hp))⟩

end KvStore
