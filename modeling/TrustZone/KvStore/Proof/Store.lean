import TrustZone.KvStore.KvStore
import TrustZone.KvStore.Proof.NvPsaIts

/-!
# The store over whole runs

Three layers of a run: the entries own disjoint live blocks (`MemOk`), what is stored is well formed
(`NvOk`), and an entry that is not pending holds the stored value (`Synced`). The abstract store keeps
two values for each key, `current` and `nvValue`; each operation is a simple update of them:

* `kvStoreSet_spec`: the current value of one key.
* `kvStoreInit_spec`: every current value becomes the stored one.
* `kvStoreXCommitChanges_spec`: the stored value of every pending key whose set succeeds.
* `step_ok`: every call returns and keeps the three.
-/

namespace KvStore

open Lib Psa

/-- The value the cache holds for a key. -/
def State.current (s : State) (key : Nat) : Option (KVStoreValueType × List UInt8) :=
  entryValue s.heap (s.kvStoreCache key)

/-- The entries of the cache own disjoint live blocks, and set entries are whole. -/
structure MemOk (s : State) : Prop where
  wf : s.heap.Wf
  entry : ∀ k, (s.kvStoreCache k).type ≠ kvTypeNone → EntryOk s.heap (s.kvStoreCache k)
  live : ∀ k p, own (s.kvStoreCache k) = some p → s.heap.mem p ≠ none
  disjoint : ∀ j k p, own (s.kvStoreCache j) = some p → own (s.kvStoreCache k) = some p → j = k

/-- An entry that is not pending holds what is stored. -/
def Synced (cfg : Config) (s : State) : Prop :=
  ∀ k < cfg.csNumKeys, (s.kvStoreCache k).xChangePending = false → s.current k = nvValue s.its k

theorem MemOk.boot (its : Its) : MemOk (.boot its) where
  wf := Heap.wf_empty
  entry _ ht := absurd rfl ht
  live k p hp := by simp [State.boot, KVStoreCacheEntry.zero, own] at hp
  disjoint j k p hp := by simp [State.boot, KVStoreCacheEntry.zero, own] at hp

variable {al : Allocator} {cfg : Config} {s s' : State} {k : Nat}

/-! ## One entry of the array -/

@[simp] theorem setEntry_self (h : Heap) (e : KVStoreCacheEntry) :
    (s.setEntry k h e).kvStoreCache k = e := Function.update_self ..

theorem setEntry_other {j : Nat} (hj : j ≠ k) (h : Heap) (e : KVStoreCacheEntry) :
    (s.setEntry k h e).kvStoreCache j = s.kvStoreCache j := Function.update_of_ne hj _ _

/-- The blocks of the other entries are not touched. -/
theorem MemOk.keeps_other (hm : MemOk s) {h : Heap} {e : KVStoreCacheEntry}
    (hmv : Moves s.heap (s.kvStoreCache k) h e) {j : Nat} (hj : j ≠ k) {p : Nat}
    (hp : own (s.kvStoreCache j) = some p) : h.mem p = s.heap.mem p :=
  hmv.keeps p (fun hk => hj (hm.disjoint j k p hp hk)) (hm.live j p hp)

/-- Replacing an entry by what an operation on it gives. -/
theorem MemOk.setEntry (hm : MemOk s) {h : Heap} {e : KVStoreCacheEntry}
    (hmv : Moves s.heap (s.kvStoreCache k) h e) (hk : e.type ≠ kvTypeNone → EntryOk h e) :
    MemOk (s.setEntry k h e) where
  wf := hmv.wf
  entry j ht := by
    by_cases hj : j = k
    · subst hj
      rw [setEntry_self] at ht ⊢
      exact hk ht
    · rw [setEntry_other hj] at ht ⊢
      exact (hm.entry j ht).frame fun p hp => hm.keeps_other hmv hj hp
  live j p hp := by
    by_cases hj : j = k
    · subst hj
      rw [setEntry_self] at hp
      exact (hmv.owns p hp).1
    · rw [setEntry_other hj] at hp
      have := hm.keeps_other hmv hj hp
      exact this ▸ hm.live j p hp
  disjoint i j p hi hj := by
    -- a block that the entry of `k` owns now is no other entry's: it was its own or not live
    have hfresh : ∀ q, own e = some q → ∀ j, j ≠ k → own (s.kvStoreCache j) ≠ some q := by
      intro q hq j hjk hc
      rcases (hmv.owns q hq).2 with ho | ho
      · exact hjk (hm.disjoint j k q hc ho)
      · exact hm.live j q hc ho
    by_cases hik : i = k
    · by_cases hjk : j = k
      · rw [hik, hjk]
      · subst hik
        rw [setEntry_self] at hi
        rw [setEntry_other hjk] at hj
        exact absurd hj (hfresh p hi j hjk)
    · rw [setEntry_other hik] at hi
      by_cases hjk : j = k
      · subst hjk
        rw [setEntry_self] at hj
        exact absurd hi (hfresh p hj i hik)
      · rw [setEntry_other hjk] at hj
        exact hm.disjoint i j p hi hj

theorem current_setEntry_self (h : Heap) (e : KVStoreCacheEntry) :
    (s.setEntry k h e).current k = entryValue h e := by
  simp [State.current, State.setEntry]

theorem MemOk.current_setEntry (hm : MemOk s) {h : Heap} {e : KVStoreCacheEntry}
    (hmv : Moves s.heap (s.kvStoreCache k) h e) {j : Nat} (hj : j ≠ k) :
    (s.setEntry k h e).current j = s.current j := by
  unfold State.current
  rw [setEntry_other hj]
  by_cases ht : (s.kvStoreCache j).type = kvTypeNone
  · simp [entryValue, ht]
  · rw [entryValue_set ht, entryValue_set ht]
    congr 2
    exact entryBytes_frame (hm.entry j ht) fun p hp => hm.keeps_other hmv hj hp

/-- A current value is in a set entry. -/
theorem MemOk.of_current (hm : MemOk s) {ty : KVStoreValueType} {v : List UInt8}
    (hcur : s.current k = some (ty, v)) : (s.kvStoreCache k).type ≠ kvTypeNone ∧
      EntryOk s.heap (s.kvStoreCache k) ∧ entryBytes s.heap (s.kvStoreCache k) = v := by
  have ht : (s.kvStoreCache k).type ≠ kvTypeNone := by
    intro hc
    rw [State.current, entryValue, if_pos hc] at hcur
    cases hcur
  rw [State.current, entryValue_set ht] at hcur
  exact ⟨ht, hm.entry k ht, (Prod.mk.inj (Option.some.inj hcur)).2⟩

theorem MemOk.current_length (hm : MemOk s) {ty : KVStoreValueType} {v : List UInt8}
    (hcur : s.current k = some (ty, v)) : 0 < v.length ∧ 8 + v.length < sizeMax := by
  obtain ⟨-, hok, rfl⟩ := hm.of_current hcur
  rw [hok.bytes_length]
  exact ⟨hok.pos, hok.fits⟩

/-! ## Setters -/

/-- **A setter** of the key's type sets its current value and nothing else. -/
theorem kvStoreSet_spec (hal : al.Succeeds) (hm : MemOk s) {ty : KVStoreValueType}
    {v : List UInt8} (hk : k < cfg.csNumKeys) (hd : (cfg.kvStoreDefaults k).type = ty)
    (hty : ty.toNat < kvTypeLast.toNat) (hty0 : ty ≠ kvTypeNone) (hv : 0 < v.length)
    (hf : sizeofKVStoreHeader + v.length < sizeMax) :
    ∃ s', kvStoreSet al cfg s ty k v = some (true, s') ∧ MemOk s' ∧ s'.its = s.its ∧
      s'.xKvMutex = s.xKvMutex ∧ s'.current k = some (ty, v) ∧
      (s'.kvStoreCache k).xChangePending =
        ((s.kvStoreCache k).xChangePending || decide (s.current k ≠ some (ty, v))) ∧
      ∀ j ≠ k, s'.current j = s.current j ∧ s'.kvStoreCache j = s.kvStoreCache j := by
  obtain ⟨h, e, hw, hmv, hok, hval, hp⟩ :=
    xprvWriteCacheEntry_spec hal hm.wf (hm.entry k) hty hty0 hv hf
  refine ⟨s.setEntry k h e, ?_, hm.setEntry hmv fun _ => hok, rfl, rfl, ?_, ?_, fun j hj =>
    ⟨hm.current_setEntry hmv hj, setEntry_other hj h e⟩⟩
  · unfold kvStoreSet
    rw [if_pos ⟨hk, hd⟩, hw]
  · rw [current_setEntry_self, hval]
  · rw [setEntry_self, hp]
    rfl

/-- A setter of another type, or of a key out of range, refuses and changes nothing. -/
theorem kvStoreSet_refused {ty : KVStoreValueType} {v : List UInt8}
    (h : ¬(k < cfg.csNumKeys ∧ (cfg.kvStoreDefaults k).type = ty)) :
    kvStoreSet al cfg s ty k v = some (false, s) := if_neg h

/-! ## Loading -/

theorem loadEntry_spec {its : Its} (hal : al.Succeeds) (hm : MemOk s) (hn : NvOk its k) :
    ∃ s', loadEntry al its.reads s k = some s' ∧ MemOk s' ∧ s'.its = s.its ∧
      s'.xKvMutex = s.xKvMutex ∧ s'.current k = nvValue its k ∧ (s'.kvStoreCache k).xChangePending = false ∧
      ((s'.kvStoreCache k).type = kvTypeNone →
        (s'.kvStoreCache k).length = (s.kvStoreCache k).length) ∧
      ∀ j ≠ k, s'.current j = s.current j ∧ s'.kvStoreCache j = s.kvStoreCache j := by
  have hrefl : Moves s.heap (s.kvStoreCache k) s.heap
      { s.kvStoreCache k with xChangePending := false, type := kvTypeNone } :=
    (Moves.refl (e := s.kvStoreCache k) hm.wf (hm.live k) rfl).congr rfl rfl
  unfold loadEntry
  cases hits : its (xKeyToUID k) with
  | none =>
    simp only [xprvGetValueLengthFromImpl_absent hits]
    refine ⟨_, if_neg (by simp), hm.setEntry hrefl (fun ht => absurd rfl ht), rfl, rfl, ?_, ?_,
      fun _ => by rw [setEntry_self], fun j hj => ⟨hm.current_setEntry hrefl hj, setEntry_other hj _ _⟩⟩
    · rw [current_setEntry_self, nvValue_absent hits]
      rfl
    · rw [setEntry_self]
  | some data =>
    obtain ⟨ty, v, rfl, hty, hv, hf⟩ := hn data hits
    obtain ⟨h1, e1, ha, hk1, hm1, hl1, -, hp1⟩ := vAllocateDataBuffer_ok
      (e := { s.kvStoreCache k with xChangePending := false, type := kvTypeNone }) hal hm.wf hv hf
    obtain ⟨ptr, h2, e2, hptr, hst, hm2, hk2, hb2, -, hl2, hp2⟩ := hk1.store hm1.wf hl1.symm
    have hmv : Moves s.heap (s.kvStoreCache k) h2 { e2 with type := ty, length := v.length } :=
      (hrefl.trans (hm1.trans hm2)).congr (hl1.symm.trans hl2.symm) rfl
    have hok : EntryOk h2 { e2 with type := ty, length := v.length } :=
      hk2.congr (hl1.symm.trans hl2.symm) rfl
    simp only [xprvGetValueLengthFromImpl_object hits hf, ha, hptr, hl1,
      xprvReadValueFromImpl_object hits hv hf, hst]
    refine ⟨_, if_pos hv, hm.setEntry hmv (fun _ => hok), rfl, rfl, ?_, ?_,
      fun ht => absurd (by rwa [setEntry_self] at ht) hty, fun j hj => ⟨hm.current_setEntry hmv hj, setEntry_other hj _ _⟩⟩
    · have hb : entryBytes h2 { e2 with type := ty, length := v.length } = v := by
        have he : ({ e2 with type := ty, length := v.length } : KVStoreCacheEntry) =
            { e2 with type := ty } := by rw [← hl1, ← hl2]
        rw [he]
        exact hb2
      rw [current_setEntry_self, nvValue_object hits hf, entryValue_set hty, hb]
    · rw [setEntry_self]
      exact hp2.trans hp1

theorem loadEntries_spec (hal : al.Succeeds) (hm : MemOk s) (n : Nat)
    (hn : ∀ k < n, NvOk s.its k) :
    ∃ s', loadEntries al s.its.reads s n = some s' ∧ MemOk s' ∧ s'.its = s.its ∧ s'.xKvMutex = s.xKvMutex ∧
      (∀ k < n, s'.current k = nvValue s.its k ∧ (s'.kvStoreCache k).xChangePending = false ∧
        ((s'.kvStoreCache k).type = kvTypeNone →
          (s'.kvStoreCache k).length = (s.kvStoreCache k).length)) ∧
      ∀ k, n ≤ k → s'.kvStoreCache k = s.kvStoreCache k := by
  induction n with
  | zero => exact ⟨s, rfl, hm, rfl, rfl, fun k hk => absurd hk (Nat.not_lt_zero k), fun _ _ => rfl⟩
  | succ n ih =>
    obtain ⟨s1, hl, hm1, hi1, hx1, hc1, ho1⟩ := ih fun k hk => hn k (by omega)
    obtain ⟨s2, hl2, hm2, hi2, hx2, hc2, hp2, hu2, ho2⟩ :=
      loadEntry_spec hal hm1 (hn n (by omega))
    refine ⟨s2, by simp only [loadEntries, hl, hl2], hm2, hi2.trans hi1, hx2.trans hx1,
      fun k hk => ?_, fun k hk => ?_⟩
    · by_cases hkn : k = n
      · subst hkn
        exact ⟨hc2, hp2, fun ht => (hu2 ht).trans (by rw [ho1 k (Nat.le_refl k)])⟩
      · obtain ⟨hv, he⟩ := ho2 k hkn
        rw [hv, he]
        exact hc1 k (by omega)
    · exact (ho2 k (by omega)).2.trans (ho1 k (by omega))

/-- Pending entries are set. -/
def PendingSet (s : State) : Prop :=
  ∀ k, (s.kvStoreCache k).xChangePending = true → (s.kvStoreCache k).type ≠ kvTypeNone

/-- **`KVStore_init`** makes every current value the stored one. -/
theorem kvStoreInit_spec (hal : al.Succeeds) (hm : MemOk s)
    (hn : ∀ k < cfg.csNumKeys, NvOk s.its k) :
    ∃ s', kvStoreInit al cfg s = some s' ∧ MemOk s' ∧ s'.its = s.its ∧ s'.xKvMutex = true ∧
      (∀ k < cfg.csNumKeys, s'.current k = nvValue s.its k) ∧ Synced cfg s' ∧
      (PendingSet s → PendingSet s') ∧
      ∀ k, (s'.kvStoreCache k).type = kvTypeNone →
        (s'.kvStoreCache k).length = (s.kvStoreCache k).length := by
  have hm' : MemOk { s with xKvMutex := true } := ⟨hm.wf, hm.entry, hm.live, hm.disjoint⟩
  obtain ⟨s1, hl, hm1, hi1, hx1, hc1, ho1⟩ := loadEntries_spec hal hm' cfg.csNumKeys hn
  refine ⟨s1, hl, hm1, hi1, hx1, fun k hk => (hc1 k hk).1, fun k hk _ => ?_, fun hps k hp => ?_,
    fun k ht => ?_⟩
  · rw [hi1]
    exact (hc1 k hk).1
  · by_cases hk : k < cfg.csNumKeys
    · rw [(hc1 k hk).2.1] at hp
      cases hp
    · rw [ho1 k (by omega)] at hp ⊢
      exact hps k hp
  · by_cases hk : k < cfg.csNumKeys
    · exact (hc1 k hk).2.2 ht
    · rw [ho1 k (by omega)]

/-! ## Committing -/

/-- The sets that a commit issues for a key. -/
def setsFor (s : State) (st : Status) (k : Nat) : List SetCall :=
  if (s.kvStoreCache k).xChangePending then
    match s.current k with
    | some (ty, v) => [⟨xKeyToUID k, nvObject ty v, st⟩]
    | none => []
  else []

theorem MemOk.current_eq (hm : MemOk s) (ht : (s.kvStoreCache k).type ≠ kvTypeNone) :
    ∃ v, s.current k = some ((s.kvStoreCache k).type, v) ∧ 0 < v.length ∧
      sizeofKVStoreHeader + v.length < sizeMax ∧
      entryData s.heap (s.kvStoreCache k) = some (some v) := by
  have hok := hm.entry k ht
  have hl := hok.bytes_length
  exact ⟨_, entryValue_set ht, by rw [hl]; exact hok.pos, by rw [hl]; exact hok.fits,
    hok.entryData ht⟩

/-- A change of the heap that keeps every live block keeps the cache. -/
theorem MemOk.frame (hm : MemOk s) {h : Heap} (its : Its) (hw : h.Wf)
    (hk : ∀ p, s.heap.mem p ≠ none → h.mem p = s.heap.mem p) :
    MemOk { s with heap := h, its := its } ∧
      ∀ j, State.current { s with heap := h, its := its } j = s.current j := by
  refine ⟨⟨hw, fun j ht => (hm.entry j ht).frame fun p hp => hk p (hm.live j p hp),
    fun j p hp => hk p (hm.live j p hp) ▸ hm.live j p hp, hm.disjoint⟩, fun j => ?_⟩
  unfold State.current
  by_cases ht : (s.kvStoreCache j).type = kvTypeNone
  · simp [entryValue, ht]
  · rw [entryValue_set ht, entryValue_set ht]
    congr 2
    exact entryBytes_frame (hm.entry j ht) fun p hp => hk p (hm.live j p hp)

theorem commitEntry_spec (hal : al.Succeeds) (hm : MemOk s) (hps : PendingSet s)
    (hk : k ≤ cfg.csNumKeys) (st : Status) :
    ∃ c, commitEntry al cfg st s k = some c ∧ MemOk c.post ∧
      c.post.kvStoreCache = s.kvStoreCache ∧ c.post.xKvMutex = s.xKvMutex ∧
      c.post.current = s.current ∧ c.sets = setsFor s st k ∧
      c.ok = c.sets.all (fun call => xPSAStatusToBool call.status) ∧
      (∀ j, NvOk s.its j → NvOk c.post.its j) ∧
      ∀ j, nvValue c.post.its j =
        if j = k ∧ (s.kvStoreCache k).xChangePending = true ∧ st = psaSuccess then s.current k
        else nvValue s.its j := by
  unfold commitEntry
  by_cases hp : (s.kvStoreCache k).xChangePending = true
  · obtain ⟨v, hcur, hv, hf, hdata⟩ := hm.current_eq (hps k hp)
    obtain ⟨h, hw, hwf, hkeep⟩ := xprvWriteValueToImpl_spec hal hm.wf s.its hk (hps k hp) hf st
    obtain ⟨hm', hcur'⟩ := hm.frame
      (psaItsSet s.its st (xKeyToUID k) (nvObject (s.kvStoreCache k).type v)) hwf hkeep
    simp only [hp, if_true, hdata, hw]
    refine ⟨_, rfl, hm', rfl, rfl, funext hcur', ?_, ?_, fun j hj => hj.set (hps k hp) hv hf,
      fun j => ?_⟩
    · simp [setsFor, hp, hcur]
    · simp
    · rw [nvValue_set hf, hcur]
      simp
  · simp only [hp]
    exact ⟨_, rfl, hm, rfl, rfl, rfl, by simp [setsFor, hp], rfl, fun _ hj => hj, fun j => by simp⟩

/-- The sets that a commit issues, key after key. -/
def commitSets (s : State) (st : Nat → Status) (n : Nat) : List SetCall :=
  (List.range n).flatMap fun k => setsFor s (st k) k

theorem commitEntries_spec (hal : al.Succeeds) (hm : MemOk s) (hps : PendingSet s)
    (st : Nat → Status) (n : Nat) (hn : n ≤ cfg.csNumKeys) :
    ∃ c, commitEntries al cfg st s n = some c ∧ MemOk c.post ∧
      c.post.kvStoreCache = s.kvStoreCache ∧ c.post.xKvMutex = s.xKvMutex ∧
      c.post.current = s.current ∧ c.sets = commitSets s st n ∧
      c.ok = c.sets.all (fun call => xPSAStatusToBool call.status) ∧
      (∀ j, NvOk s.its j → NvOk c.post.its j) ∧
      ∀ j, nvValue c.post.its j =
        if j < n ∧ (s.kvStoreCache j).xChangePending = true ∧ st j = psaSuccess then s.current j
        else nvValue s.its j := by
  induction n with
  | zero =>
    exact ⟨_, rfl, hm, rfl, rfl, rfl, rfl, rfl, fun _ hj => hj, fun j => by simp⟩
  | succ n ih =>
    obtain ⟨c1, hc1, hm1, hk1, hx1, hv1, hs1, ho1, hn1, hnv1⟩ := ih (by omega)
    have hps1 : PendingSet c1.post := by unfold PendingSet; rw [hk1]; exact hps
    obtain ⟨c2, hc2, hm2, hk2, hx2, hv2, hs2, ho2, hn2, hnv2⟩ :=
      commitEntry_spec hal hm1 hps1 (show n ≤ cfg.csNumKeys by omega) (st n)
    have hsets : setsFor c1.post (st n) n = setsFor s (st n) n := by
      simp only [setsFor, hk1, hv1]
    refine ⟨⟨c1.ok && c2.ok, c1.sets ++ c2.sets, c2.post⟩, by simp only [commitEntries, hc1, hc2],
      hm2, hk2.trans hk1, hx2.trans hx1, hv2.trans hv1, ?_, ?_, fun j hj => hn2 j (hn1 j hj),
      fun j => ?_⟩
    · simp only [hs1, hs2, hsets, commitSets, List.range_succ, List.flatMap_append,
        List.flatMap_singleton]
    · simp only [ho1, ho2, List.all_append]
    · simp only [hnv2, hk1, hv1, hnv1]
      by_cases hj : j = n
      · subst hj
        simp
      · have hlt : j < n + 1 ↔ j < n := by omega
        simp [hj, hlt]

/-- **`KVStore_xCommitChanges`** stores the current value of every pending key whose set succeeds, and
answers whether all of them did. -/
theorem kvStoreXCommitChanges_spec (hal : al.Succeeds) (hm : MemOk s) (hps : PendingSet s)
    (st : Nat → Status) :
    ∃ c, kvStoreXCommitChanges al cfg st s = some c ∧ MemOk c.post ∧
      c.post.kvStoreCache = s.kvStoreCache ∧ c.post.xKvMutex = s.xKvMutex ∧
      c.post.current = s.current ∧ c.sets = commitSets s st cfg.csNumKeys ∧
      c.ok = c.sets.all (fun call => xPSAStatusToBool call.status) ∧
      (∀ j, NvOk s.its j → NvOk c.post.its j) ∧
      ∀ j, nvValue c.post.its j =
        if j < cfg.csNumKeys ∧ (s.kvStoreCache j).xChangePending = true ∧ st j = psaSuccess
        then s.current j else nvValue s.its j :=
  commitEntries_spec hal hm hps st cfg.csNumKeys (Nat.le_refl _)

/-- No set that the commit issued for the key failed. -/
def KeySet (sets : List SetCall) (k : Nat) : Prop :=
  ∀ call ∈ sets, call.uid = xKeyToUID k → call.status = psaSuccess

theorem KeySet.of_ok {sets : List SetCall}
    (h : sets.all (fun call => xPSAStatusToBool call.status) = true) (k : Nat) : KeySet sets k :=
  fun call hc _ => by simpa [xPSAStatusToBool] using List.all_eq_true.1 h call hc

theorem KeySet.status {st : Nat → Status} {n : Nat} (h : KeySet (commitSets s st n) k)
    (hm : MemOk s) (hps : PendingSet s) (hk : k < n)
    (hp : (s.kvStoreCache k).xChangePending = true) : st k = psaSuccess := by
  obtain ⟨v, hcur, -⟩ := hm.current_eq (hps k hp)
  refine h ⟨xKeyToUID k, nvObject (s.kvStoreCache k).type v, st k⟩ ?_ rfl
  refine List.mem_flatMap.2 ⟨k, List.mem_range.2 hk, ?_⟩
  simp [setsFor, hp, hcur]

/-- **A commit** leaves the current value of a key stored, unless a set for this key fails. -/
theorem commit_stored {st : Nat → Status} {c : Commit} (hal : al.Succeeds) (hm : MemOk s)
    (hps : PendingSet s) (hsync : Synced cfg s) (hc : kvStoreXCommitChanges al cfg st s = some c)
    (hk : k < cfg.csNumKeys) (hset : KeySet c.sets k) : nvValue c.post.its k = s.current k := by
  obtain ⟨c', hc', -, -, -, -, hs, -, -, hnv⟩ := kvStoreXCommitChanges_spec hal hm hps st
  rw [hc] at hc'
  obtain rfl := Option.some.inj hc'
  rw [hnv]
  by_cases hp : (s.kvStoreCache k).xChangePending = true
  · rw [hs] at hset
    rw [if_pos ⟨hk, hp, hset.status hm hps hk hp⟩]
  · rw [if_neg (fun h => hp h.2.1)]
    exact (hsync k hk (by simpa using hp)).symm

/-! ## One call -/

/-- The invariant of every run. -/
structure StoreOk (cfg : Config) (s : State) : Prop where
  mem : MemOk s
  pending : PendingSet s
  nv : ∀ k < cfg.csNumKeys, NvOk s.its k

theorem StoreOk.boot {its : Its} (h : ∀ k < cfg.csNumKeys, NvOk its k) :
    StoreOk cfg (.boot its) where
  mem := .boot its
  pending k hp := by cases hp
  nv := h

/-- What a setter is asked to write: the key, the type and the bytes. -/
def Call.write? : Call → Option (Nat × KVStoreValueType × List UInt8)
  | .setBlob key (some v) =>
    if 0 < v.bytes.length then some (key, kvTypeBlob, v.bytes) else none
  | .setString key (some v) => some (key, kvTypeString, v.bytes ++ [0])
  | .setUInt32 key v => some (key, kvTypeUInt32, word32 v)
  | .setInt32 key v => some (key, kvTypeInt32, word32 v)
  | .setUBase key v => some (key, kvTypeUBaseT, word32 v)
  | .setBase key v => some (key, kvTypeBaseT, word32 v)
  | _ => none

/-- The call is a setter. -/
def Call.isSetter : Call → Bool
  | .init | .commit _ | .reboot => false
  | _ => true

/-- The key of the call is in the table and has the type that the call writes. -/
def Matches (cfg : Config) (key : Nat) (ty : KVStoreValueType) : Prop :=
  key < cfg.csNumKeys ∧ (cfg.kvStoreDefaults key).type = ty

@[simp] theorem word32_length (v : BitVec 32) : (word32 v).length = 4 := leBytes_length ..

/-- A setter of four bytes asks no allocator: in any state it sets the current value of its key and no
other. -/
theorem kvStoreSet_word (al : Allocator) (s : State) {ty : KVStoreValueType} (hm : Matches cfg k ty)
    (hty : ty.toNat < kvTypeLast.toNat) (hty0 : ty ≠ kvTypeNone) (v : BitVec 32) :
    ∃ s', kvStoreSet al cfg s ty k (word32 v) = some (true, s') ∧ s'.current k = some (ty, word32 v) ∧
      ∀ j ≠ k, s'.current j = s.current j := by
  obtain ⟨e, hwrite, hvalue⟩ := xprvWriteCacheEntry_union al s.heap (s.kvStoreCache k) hty
    hty0 (word32_length v)
  refine ⟨s.setEntry k s.heap e, ?_, (current_setEntry_self ..).trans hvalue, fun j hj => ?_⟩
  · have hguard : k < cfg.csNumKeys ∧ (cfg.kvStoreDefaults k).type = ty := hm
    simp only [kvStoreSet, if_pos hguard, hwrite]
  · rw [State.current, setEntry_other hj]
    rfl

theorem Call.write?_ok {c : Call} {key : Nat} {ty : KVStoreValueType} {v : List UInt8}
    (h : c.write? = some (key, ty, v)) : ty.toNat < kvTypeLast.toNat ∧ ty ≠ kvTypeNone ∧
      0 < v.length ∧ sizeofKVStoreHeader + v.length < sizeMax := by
  cases c with
  | setBlob key v =>
    cases v with
    | none => cases h
    | some v =>
      simp only [write?] at h
      split at h
      · cases h; exact ⟨by decide, by decide, ‹_›, v.fits⟩
      · cases h
  | setString key v =>
    cases v with
    | none => cases h
    | some v => cases h; exact ⟨by decide, by decide, by simp, by simpa using v.fits⟩
  | setUInt32 key v => cases h; exact ⟨by decide, by decide, by simp, by simp; decide⟩
  | setInt32 key v => cases h; exact ⟨by decide, by decide, by simp, by simp; decide⟩
  | setUBase key v => cases h; exact ⟨by decide, by decide, by simp, by simp; decide⟩
  | setBase key v => cases h; exact ⟨by decide, by decide, by simp, by simp; decide⟩
  | _ => cases h

/-- Every setter is the write of its bytes under the guard of its type. -/
theorem step_setter {c : Call} (h : c.isSetter = true) :
    step al cfg s c = setterRet (match c.write? with
      | some (key, ty, v) => kvStoreSet al cfg s ty key v
      | none => some (false, s)) := by
  cases c with
  | setBlob key v =>
    cases v with
    | none => rfl
    | some v =>
      simp only [step, kvStoreSetBlob, Call.write?]
      split <;> rfl
  | setString key v => cases v <;> rfl
  | setUInt32 | setInt32 | setUBase | setBase => rfl
  | init | commit | reboot => cases h

/-- What a call does to the current and the stored values. -/
inductive Effect (cfg : Config) (s : State) (c : Call) (s' : State) (r : Ret) : Prop
  | loaded (hc : c = .init) (hits : s'.its = s.its) (hx : s'.xKvMutex = true)
      (hcur : ∀ k < cfg.csNumKeys, s'.current k = nvValue s.its k) (hsync : Synced cfg s')
  | set (key : Nat) (ty : KVStoreValueType) (v : List UInt8) (hc : c.write? = some (key, ty, v))
      (hm : Matches cfg key ty) (hr : r = .result true) (hits : s'.its = s.its)
      (hx : s'.xKvMutex = s.xKvMutex) (hcur : s'.current key = some (ty, v))
      (hother : ∀ j ≠ key, s'.current j = s.current j ∧ s'.kvStoreCache j = s.kvStoreCache j)
      (hsync : Synced cfg s → Synced cfg s')
  | refused (hc : c.isSetter = true)
      (hm : ∀ key ty v, c.write? = some (key, ty, v) → ¬Matches cfg key ty)
      (hr : r = .result false) (hs : s' = s)
  | committed (st : Nat → Status) (ok : Bool) (hc : c = .commit st)
      (hr : r = .commit ok (commitSets s st cfg.csNumKeys))
      (hok : ok = (commitSets s st cfg.csNumKeys).all fun call => xPSAStatusToBool call.status)
      (hx : s'.xKvMutex = s.xKvMutex) (hcur : s'.current = s.current)
      (hcache : s'.kvStoreCache = s.kvStoreCache)
      (hnv : ∀ k, nvValue s'.its k = s.current k ∨ nvValue s'.its k = nvValue s.its k)
      (hstored : Synced cfg s → ∀ k < cfg.csNumKeys, KeySet (commitSets s st cfg.csNumKeys) k →
        nvValue s'.its k = s.current k)
      (hsync : Synced cfg s → Synced cfg s')
  | rebooted (hc : c = .reboot) (hs : s' = .boot s.its)

theorem commit_effect (hal : al.Succeeds) (hs : StoreOk cfg s) (st : Nat → Status) :
    ∃ c, kvStoreXCommitChanges al cfg st s = some c ∧ StoreOk cfg c.post ∧
      Effect cfg s (.commit st) c.post (.commit c.ok c.sets) := by
  obtain ⟨c, hc, hm, hcache, hx, hv, hsets, hok, hnvok, hnv⟩ :=
    kvStoreXCommitChanges_spec hal hs.mem hs.pending st
  have hpost : StoreOk cfg c.post :=
    ⟨hm, by unfold PendingSet; rw [hcache]; exact hs.pending, fun k hk => hnvok k (hs.nv k hk)⟩
  refine ⟨c, hc, hpost, .committed st c.ok rfl (by rw [hsets]) (hsets ▸ hok) hx hv hcache
    (fun k => ?_) (fun hsync k hk hset => commit_stored hal hs.mem hs.pending hsync hc hk
      (hsets ▸ hset)) fun hsync k hk hp => ?_⟩
  · rw [hnv]
    split
    · exact .inl rfl
    · exact .inr rfl
  · rw [hcache] at hp
    rw [hv, hnv, if_neg (by simp [hp])]
    exact hsync k hk hp

theorem set_effect (hal : al.Succeeds) (hs : StoreOk cfg s) {c : Call} (hc : c.isSetter = true) :
    ∃ s' r, step al cfg s c = some (s', r) ∧ StoreOk cfg s' ∧ Effect cfg s c s' r := by
  rw [step_setter hc]
  cases hw : c.write? with
  | none => exact ⟨s, _, rfl, hs, .refused hc (by simp [hw]) rfl rfl⟩
  | some w =>
    obtain ⟨key, ty, v⟩ := w
    by_cases hm : Matches cfg key ty
    · obtain ⟨hty, hty0, hv, hf⟩ := Call.write?_ok hw
      obtain ⟨s', hset, hmem, hits, hx, hcur, hp, hother⟩ :=
        kvStoreSet_spec hal hs.mem hm.1 hm.2 hty hty0 hv hf
      simp only [hset]
      refine ⟨s', _, rfl, ⟨hmem, fun k hk => ?_, by rw [hits]; exact hs.nv⟩,
        .set key ty v hw hm rfl hits hx hcur hother fun hsync k hk hp' => ?_⟩
      · by_cases hkey : k = key
        · subst hkey
          intro hn
          simp [State.current, entryValue, hn] at hcur
        · rw [(hother k hkey).2] at hk ⊢
          exact hs.pending k hk
      · rw [hits]
        by_cases hkey : k = key
        · subst hkey
          rw [hp, Bool.or_eq_false_iff, decide_eq_false_iff_not, not_not] at hp'
          rw [hcur, ← hp'.2]
          exact hsync k hk hp'.1
        · rw [(hother k hkey).2] at hp'
          rw [(hother k hkey).1]
          exact hsync k hk hp'
    · simp only [kvStoreSet_refused hm]
      refine ⟨s, _, rfl, hs, .refused hc (fun key' ty' v' h => ?_) rfl rfl⟩
      rw [hw] at h
      cases h
      exact hm

/-- **One call** returns, keeps the invariant and has its effect on the values. -/
theorem step_effect (hal : al.Succeeds) (hs : StoreOk cfg s) (c : Call) :
    ∃ s' r, step al cfg s c = some (s', r) ∧ StoreOk cfg s' ∧ Effect cfg s c s' r := by
  by_cases hset : c.isSetter = true
  · exact set_effect hal hs hset
  · cases c with
    | init =>
      obtain ⟨s', hi, hm, hits, hx, hcur, hsync, hps, -⟩ := kvStoreInit_spec hal hs.mem hs.nv
      exact ⟨s', .none, by simp only [step, hi], ⟨hm, hps hs.pending, by rw [hits]; exact hs.nv⟩,
        .loaded rfl hits hx hcur hsync⟩
    | commit st =>
      obtain ⟨c, hc, hpost, he⟩ := commit_effect hal hs st
      exact ⟨c.post, _, by simp only [step, hc], hpost, he⟩
    | reboot => exact ⟨_, _, rfl, .boot hs.nv, .rebooted rfl rfl⟩
    | _ => exact absurd rfl hset

theorem step_effect_of (hal : al.Succeeds) (hs : StoreOk cfg s) {c : Call} {r : Ret}
    (h : step al cfg s c = some (s', r)) : StoreOk cfg s' ∧ Effect cfg s c s' r := by
  obtain ⟨s1, r1, h1, hok, he⟩ := step_effect hal hs c
  rw [h] at h1
  cases h1
  exact ⟨hok, he⟩

end KvStore
