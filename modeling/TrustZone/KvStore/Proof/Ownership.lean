import TrustZone.KvStore.Proof.Durable

/-!
# Who owns the heap blocks of the cache

`OwnershipLaw`: an entry too long for its union points to a live block of at least its length, another
to none, and every block that was given out is either pointed to by one entry or was freed once.

The cache loses a block in two ways (`Loses`): a value that fits the union replaces one that does not,
in the buffer of the old one; and an entry of type `KV_TYPE_NONE` is taken for empty, whatever it holds.
`cache_ownership`: the law holds in every state of a run exactly when no write of the run does this.
-/

namespace KvStore

open Lib Psa Machine

/-- The union of the entry is the pointer to a block. -/
def PointsTo (e : KVStoreCacheEntry) (p : Nat) : Prop := e.data = .ptr (some p)

/-- The law, after the run `tr`. -/
structure OwnershipLaw (tr : List (Entry State CacheWrite Bool)) (s : State) : Prop where
  long : ∀ k, (s.kvStoreCache k).length > sizeofPtr → ∃ p blk, PointsTo (s.kvStoreCache k) p ∧
    s.heap.mem p = some blk ∧ (s.kvStoreCache k).length ≤ blk.length
  short : ∀ k, (s.kvStoreCache k).length ≤ sizeofPtr → ∀ p, ¬PointsTo (s.kvStoreCache k) p
  blocks : ∀ p, p < s.heap.next →
    (∃! k, PointsTo (s.kvStoreCache k) p) ∧ timesFreed State.heap p tr = 0 ∨
    (∀ k, ¬PointsTo (s.kvStoreCache k) p) ∧ timesFreed State.heap p tr = 1

/-- The write loses the block of its entry. -/
def Loses (s : State) (w : CacheWrite) : Prop :=
  (s.kvStoreCache w.xKey).length > sizeofPtr ∧
    ((s.kvStoreCache w.xKey).type = kvTypeNone ∨ w.pvNewValue.length ≤ sizeofPtr)

instance (s : State) (w : CacheWrite) : Decidable (Loses s w) :=
  inferInstanceAs (Decidable (_ ∧ _))

/-- The assertions of `xprvWriteCacheEntry` hold. -/
structure CacheWrite.Asserted (cfg : Config) (w : CacheWrite) : Prop where
  key : w.xKey < cfg.csNumKeys
  type : w.xNewType.toNat < kvTypeLast.toNat
  length : 0 < w.pvNewValue.length

/-! ## One write -/

variable {al : Allocator} {cfg : Config} {h h' : Heap} {e e' : KVStoreCacheEntry}
  {ty : KVStoreValueType} {v : List UInt8}

/-- Only a long entry has a pointer. -/
def Honest (e : KVStoreCacheEntry) : Prop := ∀ p, PointsTo e p → e.length > sizeofPtr

theorem Honest.own_iff (he : Honest e) {p : Nat} : own e = some p ↔ PointsTo e p := by
  constructor
  · intro ho
    have hlen := long_of_own ho
    unfold own at ho
    rw [if_pos hlen] at ho
    split at ho
    · rename_i q hd
      exact hd.trans (congrArg Word.ptr ho)
    · cases ho
  · intro hp
    exact own_long hp (he p hp)

/-- A value that is stored leaves no pointer in the union of a short entry. -/
theorem store_honest {ptr : DataPtr} (hptr : pvGetDataWritePtr e = some ptr)
    (hst : store h e v ptr = some (h', e')) : Honest e' := by
  intro p hp
  unfold store at hst
  cases ptr with
  | union =>
    dsimp only at hst
    split_ifs at hst
    obtain ⟨-, rfl⟩ := Prod.mk.inj (Option.some.inj hst)
    cases hp
  | block q =>
    dsimp only at hst
    split at hst
    · obtain ⟨-, rfl⟩ := Prod.mk.inj (Option.some.inj hst)
      by_contra hlen
      unfold pvGetDataWritePtr at hptr
      rw [if_neg hlen] at hptr
      cases hptr
    · cases hst

/-- An entry that is not marked is left as it is. -/
theorem markCacheEntry_clean (hm : markCacheEntry al h e ty v = some (h', e'))
    (hp : e'.xChangePending = false) : e'.data = e.data ∧ e'.length = e.length := by
  unfold markCacheEntry at hm
  split_ifs at hm with ht hl hty
  · obtain ⟨-, rfl⟩ := Prod.mk.inj (Option.some.inj hm)
    cases hp
  · split at hm
    · obtain ⟨-, rfl⟩ := Prod.mk.inj (Option.some.inj hm)
      cases hp
    · cases hm
  · obtain ⟨-, rfl⟩ := Prod.mk.inj (Option.some.inj hm)
    cases hp
  · split at hm
    · cases hm
    · obtain ⟨-, rfl⟩ := Prod.mk.inj (Option.some.inj hm)
      exact ⟨rfl, rfl⟩
    · split at hm
      · cases hm
      · obtain ⟨-, rfl⟩ := Prod.mk.inj (Option.some.inj hm)
        exact ⟨rfl, rfl⟩

/-- What making room does to the block of the entry. One that is not marked holds the value. -/
theorem markCacheEntry_held (hal : al.Succeeds) (hw : h.Wf) (hk : Held h e)
    (ty : KVStoreValueType) (v : List UInt8) :
    ∃ h' e', markCacheEntry al h e ty v = some (h', e') ∧ Held h' e' ∧
      (e'.type = ty ∧ e'.length = v.length) ∧
      (e'.xChangePending = false → entryBytes h' e' = v) ∧
      h.Exchange (e.type = kvTypeNone ∨ v.length ≤ sizeofPtr) (own e) h' (own e') := by
  unfold markCacheEntry
  by_cases ht : e.type = kvTypeNone
  · obtain ⟨h1, e1, ha, hk1, hx, hl⟩ := vAllocateDataBuffer_held hal hw hk v.length
    rw [if_pos ht, ha]
    refine ⟨h1, _, rfl, hk1.congr rfl rfl, ⟨rfl, hl⟩, by simp, ?_⟩
    exact hx.congr fun _ _ => iff_of_true trivial (.inl ht)
  · rw [if_neg ht]
    by_cases hl : e.length = v.length
    · have hx : h.Exchange (e.type = kvTypeNone ∨ v.length ≤ sizeofPtr) (own e) h (own e) := by
        refine (Heap.Exchange.refl hw fun _ => hk.live).congr ?_
        intro p hp
        have hlong := long_of_own hp
        exact iff_of_false id (not_or.2 ⟨ht, by omega⟩)
      rw [if_neg (by simpa using hl)]
      by_cases hty : e.type = ty
      · obtain ⟨ptr, hptr, hload⟩ := hk.load ht
        have hold : load h e ptr v.length = some (entryBytes h e) := by
          rw [← hl, hload _ (Nat.le_refl _), List.take_of_length_le (Nat.le_of_eq hk.bytes_length)]
        rw [if_neg (by simpa using hty), hptr]
        simp only [hold]
        refine ⟨h, _, rfl, hk.congr rfl rfl, ⟨hty, hl⟩, ?_, hx⟩
        intro hp
        simp only [Bool.or_eq_false_iff, decide_eq_false_iff_not, not_not] at hp
        exact hp.2
      · rw [if_pos hty]
        exact ⟨h, _, rfl, hk.congr rfl rfl, ⟨rfl, hl⟩, by simp, hx⟩
    · obtain ⟨h1, e1, ha, hk1, hx, hl1⟩ := vReallocDataBuffer_held hal hw hk v.length
      rw [if_pos hl, ha]
      refine ⟨h1, _, rfl, hk1.congr rfl rfl, ⟨rfl, hl1⟩, by simp, ?_⟩
      exact hx.congr fun _ _ => by simp [ht]

/-- The entry holds the value. -/
structure HoldsValue (h : Heap) (e : KVStoreCacheEntry) (ty : KVStoreValueType) (v : List UInt8) :
    Prop where
  type : e.type = ty
  length : e.length = v.length
  bytes : entryBytes h e = v

/-- **A cache write** returns, leaves the value in the entry, and exchanges the block of the entry. -/
theorem xprvWriteCacheEntry_held (hal : al.Succeeds) (hw : h.Wf) (hk : Held h e) (he : Honest e)
    (hty : ty.toNat < kvTypeLast.toNat) (hv : 0 < v.length) :
    ∃ h' e', xprvWriteCacheEntry al h e ty v = some (h', e') ∧ Held h' e' ∧ Honest e' ∧
      HoldsValue h' e' ty v ∧
      h.Exchange (e.type = kvTypeNone ∨ v.length ≤ sizeofPtr) (own e) h' (own e') := by
  obtain ⟨h1, e1, hmark, hk1, ⟨ht1, hl1⟩, hb1, hx1⟩ := markCacheEntry_held hal hw hk ty v
  unfold xprvWriteCacheEntry
  rw [if_pos ⟨hty, hv⟩, hmark]
  dsimp only
  cases hp : e1.xChangePending with
  | true =>
    obtain ⟨ptr, h2, e2, hptr, hst, hx2, hk2, hb2, ht2, hl2, -⟩ := hk1.store hx1.wf hl1.symm
    rw [if_pos rfl, hptr]
    exact ⟨h2, e2, hst, hk2, store_honest hptr hst, ⟨ht2.trans ht1, hl2.trans hl1, hb2⟩,
      hx1.trans hw (fun _ => hk.live) hx2⟩
  | false =>
    obtain ⟨hd, hl⟩ := markCacheEntry_clean hmark hp
    rw [if_neg (by simp)]
    refine ⟨h1, e1, rfl, hk1, ?_, ⟨ht1, hl1, hb1 hp⟩, hx1⟩
    intro p hpt
    rw [hl]
    exact he p (hd.symm.trans hpt)

/-! ## Runs -/

variable {s s' : State} {its : Its} {w : CacheWrite} {b : Bool}
  {tr : List (Entry State CacheWrite Bool)}

/-- The block that the entry of a key owns. -/
def State.owner (s : State) (key : Nat) : Option Nat := own (s.kvStoreCache key)

/-- The invariant of every run, also of one that loses blocks. -/
structure CacheHeld (s : State) : Prop where
  wf : s.heap.Wf
  held : ∀ k, Held s.heap (s.kvStoreCache k)
  honest : ∀ k, Honest (s.kvStoreCache k)
  owners : s.heap.HeldBy s.owner

theorem CacheHeld.boot (its : Its) : CacheHeld (.boot its) where
  wf := Heap.wf_empty
  held _ := ⟨fun hc => absurd hc (by simp [State.boot, KVStoreCacheEntry.zero])⟩
  honest k p hp := by cases hp
  owners := by
    constructor
    · intro k p hp
      cases hp
    · intro j k p hp
      cases hp

/-- What a write does: to the entry of its key, and to the others nothing. -/
structure WriteEffect (s : State) (w : CacheWrite) (s' : State) : Prop where
  holds : HoldsValue s'.heap (s'.kvStoreCache w.xKey) w.xNewType w.pvNewValue
  other : ∀ j, j ≠ w.xKey → s'.kvStoreCache j = s.kvStoreCache j
  bytes : ∀ j, j ≠ w.xKey →
    entryBytes s'.heap (s.kvStoreCache j) = entryBytes s.heap (s.kvStoreCache j)
  exchange : s.heap.Exchange
    ((s.kvStoreCache w.xKey).type = kvTypeNone ∨ w.pvNewValue.length ≤ sizeofPtr)
    (s.owner w.xKey) s'.heap (s'.owner w.xKey)

theorem WriteEffect.owner (h : WriteEffect s w s') (j : Nat) (hj : j ≠ w.xKey) :
    s'.owner j = s.owner j := congrArg own (h.other j hj)

/-- **One write** returns when its assertions hold. -/
theorem CacheHeld.step (hal : al.Succeeds) (hs : CacheHeld s) (hw : w.Asserted cfg) :
    ∃ s', cacheStep al cfg s w = some (s', true) ∧ CacheHeld s' ∧ WriteEffect s w s' := by
  obtain ⟨h, e, hwr, hk, he, hv, hx⟩ := xprvWriteCacheEntry_held hal hs.wf (hs.held w.xKey)
    (hs.honest w.xKey) hw.type hw.length
  have hself : (s.setEntry w.xKey h e).owner w.xKey = own e := congrArg own (setEntry_self h e)
  -- the blocks of the other entries are kept
  have hkeep : ∀ j, j ≠ w.xKey → ∀ p, own (s.kvStoreCache j) = some p →
      h.mem p = s.heap.mem p := by
    intro j hj p hp
    have hne : s.owner w.xKey ≠ some p := fun ho => hj (hs.owners.unique j w.xKey p hp ho)
    exact hx.keeps p hne ((hs.held j).live hp)
  have heff : WriteEffect s w (s.setEntry w.xKey h e) := by
    refine ⟨?_, fun j hj => setEntry_other hj h e, ?_, ?_⟩
    · rw [setEntry_self]
      exact hv
    · intro j hj
      exact (hs.held j).bytes_frame (hkeep j hj)
    · rw [hself]
      exact hx
  refine ⟨s.setEntry w.xKey h e, ?_, ⟨hx.wf, ?_, ?_, ?_⟩, heff⟩
  · unfold cacheStep
    rw [if_pos hw.key, hwr]
  · intro j
    by_cases hj : j = w.xKey
    · rw [hj, setEntry_self]
      exact hk
    · rw [setEntry_other hj]
      constructor
      intro hlen
      obtain ⟨p, blk, hd, hm, hb⟩ := (hs.held j).block hlen
      exact ⟨p, blk, hd, (hkeep j hj p (own_long hd hlen)).trans hm, hb⟩
  · intro j
    by_cases hj : j = w.xKey
    · rw [hj, setEntry_self]
      exact he
    · rw [setEntry_other hj]
      exact hs.honest j
  · exact hs.owners.exchange hs.wf heff.exchange heff.owner

/-- A write that returns had its assertions hold. -/
theorem asserted_of_step (h : cacheStep al cfg s w = some (s', b)) : w.Asserted cfg := by
  unfold cacheStep xprvWriteCacheEntry at h
  split_ifs at h with hkey hassert
  · exact ⟨hkey, hassert.1, hassert.2⟩

theorem CacheHeld.step_of (hal : al.Succeeds) (hs : CacheHeld s)
    (h : cacheStep al cfg s w = some (s', b)) : CacheHeld s' ∧ WriteEffect s w s' := by
  obtain ⟨s1, h1, hrest⟩ := hs.step hal (asserted_of_step h)
  rw [h] at h1
  obtain ⟨rfl, -⟩ := Prod.mk.inj (Option.some.inj h1)
  exact hrest

/-- **Every run** keeps the invariant, and frees each name at most once. -/
theorem CacheHeld.run (hal : al.Succeeds) (h : Exec (cacheWriter al cfg) (.boot its) tr s) :
    CacheHeld s ∧ ∀ p, timesFreed State.heap p tr =
      if p < s.heap.next ∧ s.heap.mem p = none then 1 else 0 := by
  have hinv : ∀ (s : State) (w : CacheWrite) (s' : State) (b : Bool), CacheHeld s →
      (cacheWriter al cfg).step s w = some (s', b) → CacheHeld s' :=
    fun s w s' b hs hst => (hs.step_of hal hst).1
  refine ⟨h.inv hinv (.boot its), ?_⟩
  refine (timesFreed_eq h ?_ Heap.wf_empty rfl).2
  intro e he
  have hpre : CacheHeld e.pre := h.mem_pre hinv (.boot its) he
  obtain ⟨-, heff⟩ := hpre.step_of hal (h.mem he)
  exact heff.exchange.later (hpre.owners.live e.inp.xKey)

/-- A run that loses nothing leaves every live block with an owner. -/
theorem covered_of_run (hal : al.Succeeds) (h : Exec (cacheWriter al cfg) (.boot its) tr s)
    (hno : ∀ e ∈ tr, ¬Loses e.pre e.inp) : s.heap.Covered s.owner := by
  induction h with
  | nil => exact fun p hp => absurd rfl hp
  | @snoc tr s s' w b hr hst ih =>
    have hc := ih fun e he => hno e (List.mem_append_left _ he)
    obtain ⟨-, heff⟩ := (CacheHeld.run hal hr).1.step_of hal hst
    refine hc.exchange heff.exchange heff.owner ?_
    intro p hp hleak
    exact hno ⟨s, w, b, s'⟩ (by simp) ⟨long_of_own hp, hleak⟩

theorem law_of_run (hal : al.Succeeds) (h : Exec (cacheWriter al cfg) (.boot its) tr s)
    (hno : ∀ e ∈ tr, ¬Loses e.pre e.inp) : OwnershipLaw tr s := by
  obtain ⟨hs, hfreed⟩ := CacheHeld.run hal h
  have hcov := covered_of_run hal h hno
  refine ⟨?_, ?_, ?_⟩
  · intro k hlen
    exact (hs.held k).block hlen
  · intro k hlen p hp
    exact absurd (hs.honest k p hp) (by omega)
  · intro p hp
    rw [hfreed p]
    by_cases hm : s.heap.mem p = none
    · rw [if_pos ⟨hp, hm⟩]
      refine .inr ⟨?_, rfl⟩
      intro k hk
      exact hs.owners.live k p ((hs.honest k).own_iff.2 hk) hm
    · rw [if_neg fun hc => hm hc.2]
      obtain ⟨k, hk⟩ := hcov p hm
      refine .inl ⟨⟨k, (hs.honest k).own_iff.1 hk, ?_⟩, rfl⟩
      intro j hj
      exact hs.owners.unique j k p ((hs.honest j).own_iff.2 hj) hk

/-- After a write that loses a block the law does not hold. -/
theorem not_law_of_loses (hal : al.Succeeds)
    (h : Exec (cacheWriter al cfg) (.boot its) (tr ++ [⟨s, w, b, s'⟩]) s') (hl : Loses s w) :
    ¬OwnershipLaw (tr ++ [⟨s, w, b, s'⟩]) s' := by
  intro law
  obtain ⟨hr, -⟩ := Exec.split h
  have hs := (CacheHeld.run hal hr).1
  obtain ⟨hs', heff⟩ := hs.step_of hal (h.mem (by simp : ⟨s, w, b, s'⟩ ∈ tr ++ [_]))
  obtain ⟨p, blk, hd, -, -⟩ := (hs.held w.xKey).block hl.1
  obtain ⟨hlive, hnone⟩ := hs.owners.lost heff.exchange heff.owner (own_long hd hl.1) hl.2
  have hfreed := (CacheHeld.run hal h).2 p
  rw [if_neg fun hc => hlive hc.2] at hfreed
  obtain ⟨⟨k, hk, -⟩, -⟩ | ⟨-, hone⟩ := law.blocks p (hs'.wf.live_lt hlive)
  · exact hnone k ((hs'.honest k).own_iff.2 hk)
  · rw [hfreed] at hone
    cases hone

/-- **Ownership.** From an empty cache, with memory for every request: a write whose assertions hold
returns in every state that is reached, so that nothing is freed twice and nothing but a block; and the
law holds in every state of a run exactly when no write of the run loses a block. -/
theorem cache_ownership (hal : al.Succeeds)
    (h : Exec (cacheWriter al cfg) (.boot its) tr s) :
    (∀ w : CacheWrite, w.Asserted cfg → ∃ s', cacheStep al cfg s w = some (s', true)) ∧
    ((∀ tr₁ e tr₂, tr = tr₁ ++ e :: tr₂ → OwnershipLaw (tr₁ ++ [e]) e.post) ↔
      ∀ e ∈ tr, ¬Loses e.pre e.inp) := by
  have hpart : ∀ {tr₁ tr₂ e}, tr = tr₁ ++ e :: tr₂ →
      Exec (cacheWriter al cfg) (.boot its) (tr₁ ++ [e]) e.post := by
    intro tr₁ tr₂ e htr
    subst htr
    exact h.split.1.snoc (h.mem (by simp))
  refine ⟨?_, ?_, ?_⟩
  · intro w hw
    obtain ⟨s', hst, -⟩ := (CacheHeld.run hal h).1.step hal hw
    exact ⟨s', hst⟩
  · intro hlaw e he hl
    obtain ⟨tr₁, tr₂, htr⟩ := List.append_of_mem he
    exact not_law_of_loses hal (hpart htr) hl (hlaw tr₁ e tr₂ htr)
  · intro hno tr₁ e tr₂ htr
    refine law_of_run hal (hpart htr) ?_
    intro e' he'
    apply hno e'
    rw [htr]
    rcases List.mem_append.1 he' with hm | hm
    · exact List.mem_append_left _ hm
    · rw [List.mem_singleton.1 hm]
      simp

/-- A name of five bytes grows to nine and shrinks to six. -/
def nameResized : List CacheWrite :=
  [⟨1, kvTypeString, [97, 98, 99, 100, 0]⟩, ⟨1, kvTypeString, [97, 98, 99, 100, 101, 102, 103, 104, 0]⟩,
    ⟨1, kvTypeString, [97, 98, 99, 100, 101, 0]⟩]

theorem cache_ownership_resized : ∃ tr s,
    exec? (cacheWriter .granting portAndName) (.boot fun _ => none) nameResized = some (tr, s) ∧
    ∀ tr₁ e tr₂, tr = tr₁ ++ e :: tr₂ → OwnershipLaw (tr₁ ++ [e]) e.post := by
  have hrun : (exec? (cacheWriter .granting portAndName) (.boot fun _ => none) nameResized).map
      (fun r => decide (∀ e ∈ r.1, ¬Loses e.pre e.inp)) = some true := by
    decide +kernel
  obtain ⟨⟨tr, s⟩, hr, hno⟩ := Option.map_eq_some_iff.1 hrun
  refine ⟨tr, s, hr, ?_⟩
  apply (cache_ownership Allocator.granting_succeeds (exec?_exec hr)).2.2
  exact of_decide_eq_true hno

/-- A name of five bytes is replaced by one of two: the block of the first stays live, is pointed to by no
entry and is never freed. -/
theorem cache_loses_block : ∃ tr s,
    Exec (cacheWriter .granting portAndName) (.boot fun _ => none) tr s ∧
    tr.map (·.inp) = [⟨1, kvTypeString, [97, 98, 99, 100, 0]⟩, ⟨1, kvTypeString, [97, 0]⟩] ∧
    s.heap.mem 0 ≠ none ∧ timesFreed State.heap 0 tr = 0 ∧ ¬OwnershipLaw tr s := by
  have hrun : (exec? (cacheWriter .granting portAndName) (.boot fun _ => none)
      [⟨1, kvTypeString, [97, 98, 99, 100, 0]⟩]).bind (fun r =>
        (cacheStep .granting portAndName r.2 ⟨1, kvTypeString, [97, 0]⟩).map fun r' =>
          (r.1.map (fun e => (e.inp.xKey, e.inp.xNewType, e.inp.pvNewValue)),
            decide (Loses r.2 ⟨1, kvTypeString, [97, 0]⟩), (r'.1.heap.mem 0).isSome)) =
      some ([(1, kvTypeString, [97, 98, 99, 100, 0])], true, true) := by
    decide +kernel
  obtain ⟨⟨tr, s⟩, hr, hstep⟩ := Option.bind_eq_some_iff.1 hrun
  obtain ⟨⟨s', b⟩, hst, heq⟩ := Option.map_eq_some_iff.1 hstep
  have hst' : (cacheWriter .granting portAndName).step s ⟨1, kvTypeString, [97, 0]⟩ = some (s', b) :=
    hst
  have h := (exec?_exec hr).snoc hst'
  simp only [Prod.mk.injEq, decide_eq_true_eq] at heq
  obtain ⟨hinp, hloses, hlive⟩ := heq
  have hlive : s'.heap.mem 0 ≠ none := Option.isSome_iff_ne_none.1 hlive
  refine ⟨_, s', h, ?_, hlive, ?_, not_law_of_loses Allocator.granting_succeeds h hloses⟩
  · obtain ⟨e, rfl, he⟩ := List.map_eq_singleton_iff.1 hinp
    simp only [Prod.mk.injEq] at he
    obtain ⟨hkey, htype, hval⟩ := he
    have hinp : e.inp = ⟨1, kvTypeString, [97, 98, 99, 100, 0]⟩ := by
      rw [← hkey, ← htype, ← hval]
    simp [hinp]
  · rw [(CacheHeld.run Allocator.granting_succeeds h).2 0, if_neg fun hc => hlive hc.2]

end KvStore
