import TrustZone.KvStore.Proof.Durable

/-!
# The pending flag

`DirtyLaw`: what the flag is for. After a commit that answers `pdTRUE` nothing is pending, so that
another one sets nothing; a value that is set again makes nothing pending; and a key that is not pending
has its value stored. But no commit clears a flag: `dirty_law` proves that the law holds of a run exactly
when every commit of the run finds nothing pending, or fails.

Requests for memory may be refused. A run is then a run of an allocator that grants them
(`Allocator.grant`): a write to the cache does not return when it is refused (`kvStoreSet_grant`), and a
commit whose staging buffer is refused is one whose set fails (`commitEntries_grant`).
-/

namespace KvStore

open Lib Psa Machine

variable {al : Allocator} {cfg : Config} {s s' : State} {h h' : Heap} {e e' : KVStoreCacheEntry}

/-! ## Requests that are refused -/

/-- A request that is refused leaves an entry that cannot be written. -/
theorem vAllocateDataBuffer_grant (al : Allocator) (h : Heap) (e : KVStoreCacheEntry) (n : Nat) :
    vAllocateDataBuffer al h e n = vAllocateDataBuffer al.grant h e n ∨
      pvGetDataWritePtr (vAllocateDataBuffer al h e n).2 = none := by
  unfold vAllocateDataBuffer
  split_ifs with hlen
  · cases hn : al.avail h.next n with
    | false =>
      right
      rw [Heap.malloc_refused h hn]
      exact if_pos hlen
    | true =>
      left
      rw [Heap.malloc_grant h hn]
  · exact .inl rfl

theorem vReallocDataBuffer_grant (al : Allocator) (h : Heap) (e : KVStoreCacheEntry) (n : Nat) :
    vReallocDataBuffer al h e n = vReallocDataBuffer al.grant h e n ∨
      ∃ h' e', vReallocDataBuffer al h e n = some (h', e') ∧ pvGetDataWritePtr e' = none := by
  unfold vReallocDataBuffer
  split_ifs with hlen
  · cases vClearDataBuffer h e with
    | none => exact .inl rfl
    | some r =>
      dsimp only
      obtain heq | hnone := vAllocateDataBuffer_grant al r.1 r.2 n
      · exact .inl (congrArg some heq)
      · exact .inr ⟨_, _, rfl, hnone⟩
  · exact .inl rfl

theorem markCacheEntry_grant (al : Allocator) (h : Heap) (e : KVStoreCacheEntry)
    (ty : KVStoreValueType) (v : List UInt8) :
    markCacheEntry al h e ty v = markCacheEntry al.grant h e ty v ∨
      ∃ h' e', markCacheEntry al h e ty v = some (h', e') ∧ e'.xChangePending = true ∧
        pvGetDataWritePtr e' = none := by
  unfold markCacheEntry
  split_ifs
  · obtain heq | hnone := vAllocateDataBuffer_grant al h e v.length
    · rw [heq]
      exact .inl rfl
    · exact .inr ⟨_, _, rfl, rfl, hnone⟩
  · obtain heq | ⟨h', e', hr, hnone⟩ := vReallocDataBuffer_grant al h e v.length
    · rw [heq]
      exact .inl rfl
    · rw [hr]
      exact .inr ⟨_, _, rfl, rfl, hnone⟩
  · exact .inl rfl
  · exact .inl rfl

theorem xprvWriteCacheEntry_grant {ty : KVStoreValueType} {v : List UInt8} {r : Heap × KVStoreCacheEntry}
    (hr : xprvWriteCacheEntry al h e ty v = some r) :
    xprvWriteCacheEntry al.grant h e ty v = some r := by
  unfold xprvWriteCacheEntry at hr ⊢
  obtain heq | ⟨h', e', hm, hp, hnone⟩ := markCacheEntry_grant al h e ty v
  · rwa [heq] at hr
  · simp only [hm, hp, if_true, hnone, ite_self] at hr
    cases hr

theorem kvStoreSet_grant {ty : KVStoreValueType} {key : Nat} {v : List UInt8} {r : Bool × State}
    (hr : kvStoreSet al cfg s ty key v = some r) : kvStoreSet al.grant cfg s ty key v = some r := by
  unfold kvStoreSet at hr ⊢
  split_ifs at hr ⊢
  · split at hr
    · cases hr
    · rename_i h e hw
      rw [xprvWriteCacheEntry_grant hw]
      exact hr
  · exact hr

theorem loadEntry_grant {rd : ItsReads} {i : Nat} (hr : loadEntry al rd s i = some s') :
    loadEntry al.grant rd s i = some s' := by
  unfold loadEntry at hr ⊢
  dsimp only at hr ⊢
  split_ifs at hr ⊢
  · obtain heq | hnone := vAllocateDataBuffer_grant al s.heap
      { s.kvStoreCache i with xChangePending := false, type := kvTypeNone }
      (xprvGetValueLengthFromImpl rd i)
    · rwa [heq] at hr
    · rw [hnone] at hr
      cases hr
  · exact hr

theorem loadEntries_grant {rd : ItsReads} {n : Nat} (hr : loadEntries al rd s n = some s') :
    loadEntries al.grant rd s n = some s' := by
  induction n generalizing s' with
  | zero => exact hr
  | succ n ih =>
    unfold loadEntries at hr ⊢
    split at hr
    · cases hr
    · rename_i s1 hl
      rw [ih hl]
      exact loadEntry_grant hr

/-! ## Commits -/

/-- How many of the keys below `n` are pending: a commit stages as many values before it comes to `n`. -/
def pendingBelow (s : State) (n : Nat) : Nat :=
  (List.range n).countP fun k => (s.kvStoreCache k).xChangePending

/-- The status of the set for a key, where memory to stage the value may be refused. -/
def stagedStatus (al : Allocator) (st : Nat → Status) (s : State) (k : Nat) : Status :=
  if al.avail (s.heap.next + pendingBelow s k) (sizeofKVStoreHeader + (s.kvStoreCache k).length) then
    st k
  else psaErrorInsufficientMemory

/-- One round of a commit: refused memory is a set that fails. -/
theorem commitEntry_grant (al : Allocator) (hm : MemOk s) (hps : PendingSet s) {k : Nat}
    (hk : k ≤ cfg.csNumKeys) (st : Status) :
    ∃ c c', commitEntry al cfg st s k = some c ∧
      commitEntry al.grant cfg
        (if al.avail s.heap.next (sizeofKVStoreHeader + (s.kvStoreCache k).length) then st
          else psaErrorInsufficientMemory) s k = some c' ∧
      c.post = c'.post ∧ c.ok = c'.ok ∧ (c'.sets = [] → c.sets = []) ∧
      c.post.heap.next = s.heap.next + if (s.kvStoreCache k).xChangePending then 1 else 0 := by
  unfold commitEntry
  dsimp only
  by_cases hp : (s.kvStoreCache k).xChangePending = true
  · obtain ⟨v, hcur, -, hf, hdata⟩ := hm.current_eq (hps k hp)
    have hlen : v.length = (s.kvStoreCache k).length := by
      rw [← (hm.entry k (hps k hp)).bytes_length]
      obtain ⟨-, heq⟩ := Prod.mk.inj (Option.some.inj ((entryValue_set (hps k hp)).symm.trans hcur))
      rw [heq]
    have hw := fun (al : Allocator) (st : Status) =>
      xprvWriteValueToImpl_eq al hm.wf s.its hk (hps k hp) hf st
    simp only [hp, if_true, hdata, hw, ← hlen, al.grant_succeeds s.heap.next]
    by_cases hn : al.avail s.heap.next (sizeofKVStoreHeader + v.length) = true
    · simp only [hn, if_true]
      exact ⟨_, _, rfl, rfl, rfl, rfl, id, rfl⟩
    · have herr : psaErrorInsufficientMemory ≠ psaSuccess := by decide
      simp only [hn]
      refine ⟨_, _, rfl, rfl, rfl, ?_, fun _ => rfl, rfl⟩
      simp [xPSAStatusToBool, herr]
  · simp only [hp]
    exact ⟨_, _, rfl, rfl, rfl, rfl, id, rfl⟩

theorem commitEntries_grant (al : Allocator) (hm : MemOk s) (hps : PendingSet s) (st : Nat → Status)
    (n : Nat) (hn : n ≤ cfg.csNumKeys) :
    ∃ c c', commitEntries al cfg st s n = some c ∧
      commitEntries al.grant cfg (stagedStatus al st s) s n = some c' ∧
      c.post = c'.post ∧ c.ok = c'.ok ∧ (c'.sets = [] → c.sets = []) ∧
      c.post.heap.next = s.heap.next + pendingBelow s n := by
  induction n with
  | zero => exact ⟨_, _, rfl, rfl, rfl, rfl, id, rfl⟩
  | succ n ih =>
    obtain ⟨c, c', hc, hc', hpost, hok, hsets, hnext⟩ := ih (by omega)
    -- the commit so far has left the cache as it is
    obtain ⟨c₁, hc₁, hm₁, hcache, -⟩ :=
      commitEntries_spec al.grant_succeeds hm hps (stagedStatus al st s) n (by omega : n ≤ cfg.csNumKeys)
    rw [hc'] at hc₁
    obtain rfl := Option.some.inj hc₁
    have hps₁ : PendingSet c'.post := by
      unfold PendingSet
      rw [hcache]
      exact hps
    obtain ⟨d, d', hd, hd', hpost₁, hok₁, hsets₁, hnext₁⟩ :=
      commitEntry_grant al hm₁ hps₁ (show n ≤ cfg.csNumKeys by omega) (st n)
    have hnext' : c'.post.heap.next = s.heap.next + pendingBelow s n := by
      rw [← hpost]
      exact hnext
    rw [hcache, hnext'] at hd'
    have hd' : commitEntry al.grant cfg (stagedStatus al st s n) c'.post n = some d' := hd'
    refine ⟨⟨c.ok && d.ok, c.sets ++ d.sets, d.post⟩, ⟨c'.ok && d'.ok, c'.sets ++ d'.sets, d'.post⟩,
      ?_, ?_, hpost₁, by rw [hok, hok₁], ?_, ?_⟩
    · simp only [commitEntries, hc, hpost, hd]
    · simp only [commitEntries, hc', hd']
    · intro hnil
      obtain ⟨h1, h2⟩ := List.append_eq_nil_iff.1 hnil
      rw [hsets h1, hsets₁ h2]
      rfl
    · rw [hnext₁, hcache, hnext']
      unfold pendingBelow
      rw [List.range_succ, List.countP_append, List.countP_singleton, Nat.add_assoc]

/-! ## Every call, with every allocator -/

theorem Loaded.init_any (al : Allocator) {its : Its} (hits : ∀ k < cfg.csNumKeys, NvOk its k)
    (h : kvStoreInit al cfg (.boot its) = some s) : Loaded cfg s := by
  obtain ⟨s', hi, hl, -⟩ := Loaded.init al.grant_succeeds hits
  have hi' : kvStoreInit al.grant cfg (.boot its) = some s := loadEntries_grant h
  rw [hi] at hi'
  obtain rfl := Option.some.inj hi'
  exact hl

/-- **A commit** leaves the cache as it is, sets nothing when nothing is pending, and succeeds when the
value of every pending key can be staged and set. -/
theorem commit_any (al : Allocator) (hs : Loaded cfg s) (st : Nat → Status) :
    ∃ c, kvStoreXCommitChanges al cfg st s = some c ∧ Loaded cfg c.post ∧
      c.post.kvStoreCache = s.kvStoreCache ∧ c.post.current = s.current ∧
      ((∀ k < cfg.csNumKeys, (s.kvStoreCache k).xChangePending = false) → c.sets = []) ∧
      (c.ok = true ↔ ∀ k < cfg.csNumKeys, (s.kvStoreCache k).xChangePending = true →
        stagedStatus al st s k = psaSuccess) := by
  have hm := hs.ok.mem
  have hps := hs.ok.pending
  obtain ⟨c, c', hc, hc', hpost, hok, hsets, -⟩ :=
    commitEntries_grant al hm hps st cfg.csNumKeys (Nat.le_refl _)
  obtain ⟨c₁, hc₁, -, hcache, -, hcur, hs₁, hok₁, -, -⟩ :=
    kvStoreXCommitChanges_spec al.grant_succeeds hm hps (stagedStatus al st s)
  rw [kvStoreXCommitChanges, hc'] at hc₁
  obtain rfl := Option.some.inj hc₁
  have hloaded : Loaded cfg c'.post := by
    obtain ⟨s', r, hstep, hl⟩ := hs.step al.grant_succeeds
      (c := .commit (stagedStatus al st s)) (.inr ⟨_, rfl⟩)
    simp only [step, kvStoreXCommitChanges, hc', Option.some.injEq, Prod.mk.injEq] at hstep
    rw [hstep.1]
    exact hl
  refine ⟨c, hc, hpost ▸ hloaded, hpost ▸ hcache, hpost ▸ hcur, ?_, ?_⟩
  · intro hnone
    apply hsets
    rw [hs₁]
    unfold commitSets
    rw [List.flatMap_eq_nil_iff]
    intro k hk
    simp [setsFor, hnone k (List.mem_range.1 hk)]
  · rw [hok, hok₁]
    constructor
    · intro hall k hk hp
      have hset := KeySet.of_ok hall k
      rw [hs₁] at hset
      exact hset.status hm hps hk hp
    · intro hall
      rw [List.all_eq_true, hs₁]
      intro call hcall
      obtain ⟨k, hk, hmem⟩ := List.mem_flatMap.1 hcall
      have hp : (s.kvStoreCache k).xChangePending = true := by
        by_contra hp
        simp [setsFor, hp] at hmem
      obtain ⟨v, hv, -⟩ := hm.current_eq (hps k hp)
      simp only [setsFor, hp, hv, if_true, List.mem_singleton] at hmem
      rw [hmem]
      simp [xPSAStatusToBool, hall k (List.mem_range.1 hk) hp]

/-- A setter that returns does what it does when every request is granted. -/
theorem setter_grant {c : Call} {r : Ret} (hc : c.isSetter = true)
    (h : step al cfg s c = some (s', r)) : step al.grant cfg s c = some (s', r) := by
  rw [step_setter hc] at h ⊢
  cases hw : c.write? with
  | none =>
    rw [hw] at h
    exact h
  | some w =>
    rw [hw] at h
    dsimp only at h ⊢
    cases hset : kvStoreSet al cfg s w.2.1 w.1 w.2.2 with
    | none =>
      rw [hset] at h
      cases h
    | some r =>
      rw [hset] at h
      rw [kvStoreSet_grant hset]
      exact h

theorem Loaded.step_any (hs : Loaded cfg s) {c : Call} {r : Ret} (hc : c.keepsLoaded)
    (h : KvStore.step al cfg s c = some (s', r)) : Loaded cfg s' := by
  obtain hset | ⟨st, rfl⟩ := hc
  · obtain ⟨s₁, r₁, h₁, hl⟩ := hs.step al.grant_succeeds (.inl hset)
    rw [setter_grant hset h] at h₁
    obtain ⟨rfl, -⟩ := Prod.mk.inj (Option.some.inj h₁)
    exact hl
  · obtain ⟨c, hcm, hl, -⟩ := commit_any al hs st
    simp only [KvStore.step, hcm, Option.some.injEq, Prod.mk.injEq] at h
    rw [← h.1]
    exact hl

/-- **The flag**: a key is pending after a call exactly when it was before, or its value has changed. No
call clears it. -/
theorem step_pending (hs : Loaded cfg s) {c : Call} {r : Ret} (hc : c.keepsLoaded)
    (h : step al cfg s c = some (s', r)) (k : Nat) :
    (s'.kvStoreCache k).xChangePending =
      ((s.kvStoreCache k).xChangePending || decide (s'.current k ≠ s.current k)) := by
  obtain hset | ⟨st, rfl⟩ := hc
  · have h := setter_grant hset h
    rw [step_setter hset] at h
    cases hw : c.write? with
    | none =>
      simp only [hw, setterRet, Option.some.injEq, Prod.mk.injEq] at h
      simp [← h.1]
    | some w =>
      obtain ⟨key, ty, v⟩ := w
      simp only [hw] at h
      by_cases hm : Matches cfg key ty
      · obtain ⟨hty, hty0, hv, hf⟩ := Call.write?_ok hw
        obtain ⟨s₁, hs₁, -, -, -, hcur, hp, hother⟩ := kvStoreSet_spec al.grant_succeeds hs.ok.mem
          hm.1 hm.2 hty hty0 hv hf
        simp only [hs₁, setterRet, Option.some.injEq, Prod.mk.injEq] at h
        rw [← h.1]
        by_cases hk : k = key
        · subst hk
          rw [hp, hcur]
          simp only [ne_eq, eq_comm]
        · rw [(hother k hk).1, (hother k hk).2]
          simp
      · simp only [kvStoreSet_refused hm, setterRet, Option.some.injEq, Prod.mk.injEq] at h
        simp [← h.1]
  · obtain ⟨c, hcm, -, hcache, hcur, -⟩ := commit_any al hs st
    simp only [step, hcm, Option.some.injEq, Prod.mk.injEq] at h
    rw [← h.1, hcache, hcur]
    simp

/-! ## Runs -/

variable {its : Its} {calls : List Call} {tr : List (Entry State Call Ret)}

/-- No key of the table is pending. -/
def NonePending (cfg : Config) (s : State) : Prop :=
  ∀ k < cfg.csNumKeys, (s.kvStoreCache k).xChangePending = false

/-- Some pending key cannot be staged or set. -/
def CommitFails (al : Allocator) (cfg : Config) (st : Nat → Status) (s : State) : Prop :=
  ∃ k < cfg.csNumKeys, (s.kvStoreCache k).xChangePending = true ∧
    stagedStatus al st s k ≠ psaSuccess

/-- No value of the table changes in the step. -/
def KeepsValues (cfg : Config) (e : Entry State Call Ret) : Prop :=
  ∀ k < cfg.csNumKeys, e.post.current k = e.pre.current k

/-- The law of the flag. -/
structure DirtyLaw (cfg : Config) (tr : List (Entry State Call Ret)) : Prop where
  committed : ∀ e ∈ tr, ∀ sets, e.out = .commit true sets → NonePending cfg e.post
  second : ∀ tr₁ e tr₂ e' tr₃ sets ok sets', tr = tr₁ ++ e :: (tr₂ ++ e' :: tr₃) →
    e.out = .commit true sets → (∀ x ∈ tr₂, KeepsValues cfg x) → e'.out = .commit ok sets' →
    sets' = []
  unchanged : ∀ e ∈ tr, ∀ key ty v, e.inp.write? = some (key, ty, v) →
    e.pre.current key = some (ty, v) → ∀ k, (e.post.kvStoreCache k).xChangePending = true →
    (e.pre.kvStoreCache k).xChangePending = true
  synced : ∀ e ∈ tr, Synced cfg e.post

/-- A recorded step of a loaded store. -/
structure LoadedStep (al : Allocator) (cfg : Config) (e : Entry State Call Ret) : Prop where
  loaded : Loaded cfg e.pre
  keeps : e.inp.keepsLoaded
  step : step al cfg e.pre e.inp = some (e.post, e.out)

theorem LoadedStep.pending {e : Entry State Call Ret} (he : LoadedStep al cfg e) (k : Nat) :
    (e.post.kvStoreCache k).xChangePending =
      ((e.pre.kvStoreCache k).xChangePending || decide (e.post.current k ≠ e.pre.current k)) :=
  step_pending he.loaded he.keeps he.step k

/-- What a commit answers. -/
theorem LoadedStep.commit {e : Entry State Call Ret} (he : LoadedStep al cfg e) {st : Nat → Status}
    (hst : e.inp = .commit st) :
    ∃ ok sets, e.out = .commit ok sets ∧ e.post.kvStoreCache = e.pre.kvStoreCache ∧
      (NonePending cfg e.pre → sets = []) ∧ (ok = true ↔ ¬CommitFails al cfg st e.pre) := by
  obtain ⟨c, hc, -, hcache, -, hnil, hok⟩ := commit_any al he.loaded st
  have hstep := he.step
  rw [hst] at hstep
  simp only [KvStore.step, hc, Option.some.injEq, Prod.mk.injEq] at hstep
  obtain ⟨hpost, hout⟩ := hstep
  refine ⟨c.ok, c.sets, hout.symm, hpost ▸ hcache, hnil, hok.trans ?_⟩
  unfold CommitFails
  constructor
  · intro hall hfails
    obtain ⟨k, hk, hp, hne⟩ := hfails
    exact hne (hall k hk hp)
  · intro hno k hk hp
    by_contra hne
    exact hno ⟨k, hk, hp, hne⟩

/-- Only a commit answers as a commit does. -/
theorem LoadedStep.isCommit {e : Entry State Call Ret} (he : LoadedStep al cfg e) {ok : Bool}
    {sets : List SetCall} (hout : e.out = .commit ok sets) : ∃ st, e.inp = .commit st := by
  obtain hset | hst := he.keeps
  · have hstep := he.step
    rw [step_setter hset, hout] at hstep
    unfold setterRet at hstep
    split at hstep
    · cases hstep
    · cases hstep
  · exact hst

theorem loaded_steps (hs : Loaded cfg s) (hcalls : ∀ c ∈ calls, c.keepsLoaded)
    (h : exec? (kvStore al cfg) s calls = some (tr, s')) : ∀ e ∈ tr, LoadedStep al cfg e := by
  induction calls generalizing s tr s' with
  | nil =>
    simp only [exec?, Option.some.injEq, Prod.mk.injEq] at h
    simp [← h.1]
  | cons c calls ih =>
    simp only [exec?] at h
    split at h
    · cases h
    · rename_i s₁ r hstep
      split at h
      · cases h
      · rename_i tr₁ s₂ hrest
        simp only [Option.some.injEq, Prod.mk.injEq] at h
        have hc := hcalls c List.mem_cons_self
        intro e he
        rw [← h.1] at he
        obtain rfl | he := List.mem_cons.1 he
        · exact ⟨hs, hc, hstep⟩
        · exact ih (hs.step_any hc hstep) (fun c hc => hcalls c (List.mem_cons_of_mem _ hc)) hrest e he

/-- Steps that keep the values make nothing pending. -/
theorem NonePending.keep {e : Entry State Call Ret} (he : LoadedStep al cfg e)
    (hk : KeepsValues cfg e) (hn : NonePending cfg e.pre) : NonePending cfg e.post := by
  intro k hlt
  rw [he.pending k, hn k hlt]
  simp [hk k hlt]

/-- The law of the steps after `KVStore_init`. -/
theorem dirtyLaw_of_steps {s₀ : State} (hsteps : ∀ e ∈ tr, LoadedStep al cfg e)
    (h : Exec (kvStore al cfg) s₀ tr s)
    (hquiet : ∀ e ∈ tr, ∀ st, e.inp = .commit st →
      NonePending cfg e.pre ∨ CommitFails al cfg st e.pre) : DirtyLaw cfg tr := by
  have hcommitted : ∀ e ∈ tr, ∀ sets, e.out = .commit true sets → NonePending cfg e.post := by
    intro e he sets hout
    obtain ⟨st, hst⟩ := (hsteps e he).isCommit hout
    obtain ⟨ok, sets', hout', hcache, -, hok⟩ := (hsteps e he).commit hst
    obtain ⟨rfl, -⟩ := Ret.commit.inj (hout.symm.trans hout')
    have hnone := (hquiet e he st hst).resolve_right (hok.1 rfl)
    intro k hk
    rw [hcache]
    exact hnone k hk
  refine ⟨hcommitted, ?_, ?_, ?_⟩
  · intro tr₁ e tr₂ e' tr₃ sets ok sets' htr hout hkeep hout'
    subst htr
    have hrest : Exec (kvStore al cfg) e.post tr₂ e'.pre := h.split.2.split.1
    have hnone : NonePending cfg e'.pre := by
      refine hrest.along ?_ (hcommitted e (by simp) sets hout)
      intro x hx hn
      exact hn.keep (hsteps x (by simp [hx])) (hkeep x hx)
    have he' := hsteps e' (by simp)
    obtain ⟨st, hst⟩ := he'.isCommit hout'
    obtain ⟨ok', sets₁, hout₁, -, hnil, -⟩ := he'.commit hst
    obtain ⟨-, rfl⟩ := Ret.commit.inj (hout'.symm.trans hout₁)
    exact hnil hnone
  · intro e he key ty v hw hcur k hp
    have hlaw := (hsteps e he).pending k
    rw [hp] at hlaw
    by_contra hno
    have hne : e.post.current k ≠ e.pre.current k := by
      simpa [hno] using hlaw
    -- the call writes what the key holds
    obtain hset | ⟨st, hst⟩ := (hsteps e he).keeps
    · obtain ⟨s₁, r₁, h₁, -, heff⟩ :=
        step_effect al.grant_succeeds (hsteps e he).loaded.ok e.inp
      rw [setter_grant hset (hsteps e he).step] at h₁
      obtain ⟨rfl, rfl⟩ := Prod.mk.inj (Option.some.inj h₁)
      cases heff with
      | set key' ty' v' hw' _ _ _ _ hcur' hother _ =>
        rw [hw] at hw'
        obtain ⟨rfl, rfl, rfl⟩ : key = key' ∧ ty = ty' ∧ v = v' := by simpa using hw'
        by_cases hk : k = key
        · subst hk
          exact hne (hcur'.trans hcur.symm)
        · exact hne (hother k hk).1
      | refused _ _ _ hs =>
        rw [hs] at hne
        exact hne rfl
      | loaded hc => rw [hc] at hset; cases hset
      | committed _ _ hc => rw [hc] at hset; cases hset
      | rebooted hc => rw [hc] at hset; cases hset
    · rw [hst] at hw
      cases hw
  · intro e he
    exact ((hsteps e he).loaded.step_any (hsteps e he).keeps (hsteps e he).step).sync

/-- **The law of the pending flag.** From storage that holds well-formed objects, with any allocator: a
run of setters and commits after `KVStore_init` satisfies it exactly when every commit of the run finds
nothing pending, or the value of a pending key cannot be staged or set. -/
theorem dirty_law (hits : ∀ k < cfg.csNumKeys, NvOk its k) (hcalls : ∀ c ∈ calls, c.keepsLoaded)
    (h : exec? (kvStore al cfg) (.boot its) (.init :: calls) = some (tr, s)) :
    DirtyLaw cfg tr ↔ ∀ e ∈ tr, ∀ st, e.inp = .commit st →
      NonePending cfg e.pre ∨ CommitFails al cfg st e.pre := by
  simp only [exec?] at h
  split at h
  · cases h
  · rename_i s₀ r hinit
    split at h
    · cases h
    · rename_i tr₀ s₁ hrest
      simp only [Option.some.injEq, Prod.mk.injEq] at h
      obtain ⟨rfl, rfl⟩ := h
      -- the first step is the call of `KVStore_init`
      obtain ⟨hi, rfl⟩ : kvStoreInit al cfg (.boot its) = some s₀ ∧ r = .none := by
        simp only [kvStore, step] at hinit
        split at hinit
        · cases hinit
        · rename_i s₂ hi
          simp only [Option.some.injEq, Prod.mk.injEq] at hinit
          exact ⟨hinit.1 ▸ hi, hinit.2.symm⟩
      have hl := Loaded.init_any al hits hi
      have hsteps := loaded_steps hl hcalls hrest
      constructor
      · intro law e he st hst
        obtain rfl | he' := List.mem_cons.1 he
        · cases hst
        · by_contra hno
          obtain ⟨hpend, hfails⟩ := not_or.1 hno
          obtain ⟨ok, sets, hout, hcache, -, hok⟩ := (hsteps e he').commit hst
          obtain rfl : ok = true := hok.2 hfails
          apply hpend
          intro k hk
          rw [← hcache]
          exact law.committed e he sets hout k hk
      · intro hquiet
        have law := dirtyLaw_of_steps hsteps (exec?_exec hrest)
          fun e he => hquiet e (List.mem_cons_of_mem _ he)
        refine ⟨?_, ?_, ?_, ?_⟩
        · intro e he sets hout
          obtain rfl | he := List.mem_cons.1 he
          · cases hout
          · exact law.committed e he sets hout
        · intro tr₁ e tr₂ e' tr₃ sets ok sets' htr hout
          cases tr₁ with
          | nil =>
            obtain ⟨rfl, -⟩ := List.cons.inj htr
            cases hout
          | cons x tr₁ => exact law.second tr₁ e tr₂ e' tr₃ sets ok sets' (List.cons.inj htr).2 hout
        · intro e he key ty v hw
          obtain rfl | he := List.mem_cons.1 he
          · cases hw
          · exact law.unchanged e he key ty v hw
        · intro e he
          obtain rfl | he := List.mem_cons.1 he
          · exact hl.sync
          · exact law.synced e he

/-- Storage with a name, as `commit_durable_name` has it. -/
def storedName : Its := fun uid =>
  if uid = xKeyToUID 1 then some (nvObject kvTypeString [97, 98, 99, 100, 0]) else none

theorem storedName_ok : ∀ k < portAndName.csNumKeys, NvOk storedName k := by
  intro k _ data hd
  unfold storedName at hd
  split at hd
  · exact ⟨kvTypeString, [97, 98, 99, 100, 0], (Option.some.inj hd).symm, by decide, by decide,
      by decide⟩
  · cases hd

/-- The stored name is set again, and committed twice. -/
def nameAgain : List Call :=
  [.setString 1 (some ⟨[97, 98, 99, 100], by decide, by decide⟩), .commit fun _ => psaSuccess,
    .commit fun _ => psaSuccess]

theorem dirty_law_name : ∃ tr s,
    exec? (kvStore .granting portAndName) (.boot storedName) (.init :: nameAgain) = some (tr, s) ∧
    DirtyLaw portAndName tr := by
  have hrun : (exec? (kvStore .granting portAndName) (.boot storedName) (.init :: nameAgain)).map
      (fun r => decide (∀ e ∈ r.1, ∀ k < 2, (e.pre.kvStoreCache k).xChangePending = false)) =
        some true := by
    decide +kernel
  obtain ⟨⟨tr, s⟩, hr, hnone⟩ := Option.map_eq_some_iff.1 hrun
  have hcalls : ∀ c ∈ nameAgain, c.keepsLoaded := by
    intro c hc
    simp only [nameAgain, List.mem_cons, List.not_mem_nil, or_false] at hc
    obtain rfl | rfl | rfl := hc
    · exact .inl rfl
    · exact .inr ⟨_, rfl⟩
    · exact .inr ⟨_, rfl⟩
  refine ⟨tr, s, hr, (dirty_law storedName_ok hcalls hr).2 ?_⟩
  intro e he st _
  exact .inl (of_decide_eq_true hnone e he)

/-- A port is set and committed: it stays pending, and the next commit sets it again. -/
theorem commit_keeps_pending : ∃ tr s,
    exec? (kvStore .granting portAndName) (.boot fun _ => none)
      [.init, .setUInt32 0 443, .commit fun _ => psaSuccess, .commit fun _ => psaSuccess] =
        some (tr, s) ∧
    (tr.map fun e => match e.out with
      | .commit ok sets => some (ok, sets.map (·.uid), (e.post.kvStoreCache 0).xChangePending)
      | _ => none) =
        [none, none, some (true, [xKeyToUID 0], true), some (true, [xKeyToUID 0], true)] ∧
    ¬DirtyLaw portAndName tr := by
  have hrun : (exec? (kvStore .granting portAndName) (.boot fun _ => none)
      [.init, .setUInt32 0 443, .commit fun _ => psaSuccess, .commit fun _ => psaSuccess]).map
      (fun r => (r.1.map fun e => match e.out with
        | .commit ok sets => some (ok, sets.map (·.uid), (e.post.kvStoreCache 0).xChangePending)
        | _ => none)) =
      some [none, none, some (true, [xKeyToUID 0], true), some (true, [xKeyToUID 0], true)] := by
    decide +kernel
  obtain ⟨⟨tr, s⟩, hr, hout⟩ := Option.map_eq_some_iff.1 hrun
  refine ⟨tr, s, hr, hout, ?_⟩
  intro law
  have hmem : some (true, [xKeyToUID 0], true) ∈ (tr.map fun e => match e.out with
      | .commit ok sets => some (ok, sets.map (·.uid), (e.post.kvStoreCache 0).xChangePending)
      | _ => none) := by
    dsimp only at hout
    rw [hout]
    simp
  obtain ⟨e, he, heq⟩ := List.mem_map.1 hmem
  split at heq
  · rename_i ok sets hret
    obtain ⟨rfl, -, hp⟩ : ok = true ∧ sets.map (·.uid) = [xKeyToUID 0] ∧
        (e.post.kvStoreCache 0).xChangePending = true := by simpa using heq
    have hnone := law.committed e he sets hret 0 (by decide)
    rw [hp] at hnone
    cases hnone
  · cases heq

end KvStore
