import TrustZone.KvStore.Proof.Store

/-!
# What a commit makes durable

* `commit_durable`: from storage that holds well-formed objects, after `KVStore_init`, any setters and
  earlier commits, a commit that answers `pdTRUE` makes the next boot load exactly the cache of now;
  a commit one of whose sets fails answers `pdFALSE`.
-/

namespace KvStore

open Lib Psa Machine

variable {al : Allocator} {cfg : Config} {s s' : State}

/-- The state of a store that was loaded at boot: unset entries are still empty. -/
structure Loaded (cfg : Config) (s : State) : Prop where
  ok : StoreOk cfg s
  sync : Synced cfg s
  unset : ∀ k, (s.kvStoreCache k).type = kvTypeNone → (s.kvStoreCache k).length = 0

theorem Loaded.init (hal : al.Succeeds) {its : Its} (h : ∀ k < cfg.csNumKeys, NvOk its k) :
    ∃ s', kvStoreInit al cfg (.boot its) = some s' ∧ Loaded cfg s' ∧
      ∀ k < cfg.csNumKeys, s'.current k = nvValue its k := by
  have hb : StoreOk cfg (.boot its) := .boot h
  obtain ⟨s', hi, hm, hits, -, hcur, hsync, hps, hu⟩ := kvStoreInit_spec hal hb.mem hb.nv
  exact ⟨s', hi, ⟨⟨hm, hps hb.pending, by rw [hits]; exact h⟩, hsync, hu⟩, hcur⟩

/-- A setter or a commit. -/
def Call.keepsLoaded (c : Call) : Prop := c.isSetter = true ∨ ∃ st, c = .commit st

theorem Loaded.step (hal : al.Succeeds) (hs : Loaded cfg s) {c : Call} (hc : c.keepsLoaded) :
    ∃ s' r, step al cfg s c = some (s', r) ∧ Loaded cfg s' := by
  obtain ⟨s', r, hstep, hok, he⟩ := step_effect hal hs.ok c
  refine ⟨s', r, hstep, ?_⟩
  cases he with
  | loaded hc' => rcases hc with h | ⟨_, h⟩ <;> rw [hc'] at h <;> cases h
  | rebooted hc' => rcases hc with h | ⟨_, h⟩ <;> rw [hc'] at h <;> cases h
  | set key ty v _ _ _ _ _ hcur hother hsync =>
    refine ⟨hok, hsync hs.sync, fun k ht => ?_⟩
    by_cases hk : k = key
    · subst hk
      simp [State.current, entryValue, ht] at hcur
    · rw [(hother k hk).2] at ht ⊢
      exact hs.unset k ht
  | refused _ _ _ hs' => rw [hs']; exact hs
  | committed _ _ _ _ _ _ _ hcache _ _ hsync =>
    exact ⟨hok, hsync hs.sync, by rw [hcache]; exact hs.unset⟩

/-- Two loaded stores with the same value for a key hold the same type and length for it. -/
theorem Loaded.entry_eq (hs : Loaded cfg s) (hs' : Loaded cfg s') {k : Nat}
    (h : s'.current k = s.current k) :
    (s'.kvStoreCache k).type = (s.kvStoreCache k).type ∧
      (s'.kvStoreCache k).length = (s.kvStoreCache k).length := by
  by_cases ht : (s.kvStoreCache k).type = kvTypeNone
  · have hn : s.current k = none := by simp [State.current, entryValue, ht]
    have ht' : (s'.kvStoreCache k).type = kvTypeNone := by
      by_contra hc
      rw [hn, State.current, entryValue_set hc] at h
      cases h
    rw [ht, ht', hs.unset k ht, hs'.unset k ht']
    exact ⟨rfl, rfl⟩
  · have ht' : (s'.kvStoreCache k).type ≠ kvTypeNone := by
      intro hc
      rw [State.current, State.current, entryValue_set ht, entryValue, if_pos hc] at h
      cases h
    rw [State.current, State.current, entryValue_set ht, entryValue_set ht'] at h
    obtain ⟨h1, h2⟩ := Prod.mk.inj (Option.some.inj h)
    refine ⟨h1, ?_⟩
    rw [← (hs'.ok.mem.entry k ht').bytes_length, h2, (hs.ok.mem.entry k ht).bytes_length]

/-- **Durability**: after `KVStore_init` and any setters and commits, a commit that answers `pdTRUE`
makes a restart load for every key exactly the type, length and bytes the cache holds; a commit that
issues a failing set answers `pdFALSE`. Every one of these calls returns. -/
theorem commit_durable (hal : al.Succeeds) {its : Its} (hits : ∀ k < cfg.csNumKeys, NvOk its k)
    (calls : List Call) (hcalls : ∀ c ∈ calls, c.keepsLoaded) (st : Nat → Status) :
    ∃ tr s c s', (kvStore al cfg).exec? (.boot its) (.init :: calls) = some (tr, s) ∧
      kvStoreXCommitChanges al cfg st s = some c ∧
      kvStoreInit al cfg (.boot c.post.its) = some s' ∧
      (c.ok = true → ∀ k < cfg.csNumKeys,
        (s'.kvStoreCache k).type = (s.kvStoreCache k).type ∧
        (s'.kvStoreCache k).length = (s.kvStoreCache k).length ∧ s'.current k = s.current k) ∧
      ((∃ call ∈ c.sets, call.status ≠ psaSuccess) → c.ok = false) := by
  obtain ⟨s0, hi, hl0, -⟩ := Loaded.init hal hits
  obtain ⟨tr, s, hrun, hl⟩ := exec?_total (m := kvStore al cfg) (I := Loaded cfg)
    (P := Call.keepsLoaded) (fun _ _ hs hc => hs.step hal hc) hcalls hl0
  obtain ⟨c, hc, hpost, -⟩ := commit_effect hal hl.ok st
  have hall : c.ok = c.sets.all (fun call => xPSAStatusToBool call.status) := by
    obtain ⟨c', hc', -, -, -, -, -, hok, -⟩ := kvStoreXCommitChanges_spec hal hl.ok.mem
      hl.ok.pending st
    rw [hc] at hc'
    obtain rfl := Option.some.inj hc'
    exact hok
  obtain ⟨s', hi', hl', hcur'⟩ := Loaded.init hal hpost.nv
  have hfirst : (kvStore al cfg).exec? (.boot its) (.init :: calls) =
      some (⟨.boot its, .init, .none, s0⟩ :: tr, s) := by
    have hstep : (kvStore al cfg).step (.boot its) .init = some (s0, .none) := by
      simp only [kvStore, step, hi]
    simp only [exec?, hstep, hrun]
  refine ⟨_, s, c, s', hfirst, hc, hi', fun hok k hk => ?_, fun hfail => ?_⟩
  · have hval : s'.current k = s.current k := by
      rw [hcur' k hk]
      exact commit_stored hal hl.ok.mem hl.ok.pending hl.sync hc hk (.of_ok (hall ▸ hok) k)
    obtain ⟨ht, hlen⟩ := hl.entry_eq hl' hval
    exact ⟨ht, hlen, hval⟩
  · obtain ⟨call, hmem, hst⟩ := hfail
    rw [hall, List.all_eq_false]
    exact ⟨call, hmem, by simpa [xPSAStatusToBool] using hst⟩

/-- Two keys: a port and a name. -/
def portAndName : Config where
  csNumKeys := 2
  kvStoreDefaults k := if k = 0 then ⟨kvTypeUInt32, 4, 8883, fun _ => 0⟩
    else ⟨kvTypeString, 0, 0, fun _ => 0⟩

/-- A stored name of five bytes, then a new port and a shorter name. -/
theorem commit_durable_name : ∃ tr s c s',
    (kvStore .granting portAndName).exec?
      (.boot fun uid => if uid = xKeyToUID 1 then some (nvObject kvTypeString [97, 98, 99, 100, 0])
        else none)
      [.init, .setUInt32 0 443, .setString 1 (some ⟨[97], by decide, by decide⟩)] = some (tr, s) ∧
    kvStoreXCommitChanges .granting portAndName (fun _ => psaSuccess) s = some c ∧
    kvStoreInit .granting portAndName (.boot c.post.its) = some s' ∧
    (c.ok = true → ∀ k < 2, (s'.kvStoreCache k).type = (s.kvStoreCache k).type ∧
      (s'.kvStoreCache k).length = (s.kvStoreCache k).length ∧ s'.current k = s.current k) := by
  have hits : ∀ k < portAndName.csNumKeys, NvOk (fun uid => if uid = xKeyToUID 1 then
      some (nvObject kvTypeString [97, 98, 99, 100, 0]) else none) k := by
    intro k _ data hd
    simp only at hd
    split at hd
    · exact ⟨kvTypeString, [97, 98, 99, 100, 0], (Option.some.inj hd).symm, by decide, by decide,
        by decide⟩
    · cases hd
  have hcalls : ∀ c ∈ [Call.setUInt32 0 443, .setString 1 (some ⟨[97], by decide, by decide⟩)],
      c.keepsLoaded := by
    intro c hc
    simp only [List.mem_cons, List.not_mem_nil, or_false] at hc
    rcases hc with rfl | rfl <;> exact .inl rfl
  obtain ⟨tr, s, c, s', h1, h2, h3, h4, -⟩ := commit_durable Allocator.granting_succeeds hits _
    hcalls (fun _ => psaSuccess)
  exact ⟨tr, s, c, s', h1, h2, h3, h4⟩

end KvStore
