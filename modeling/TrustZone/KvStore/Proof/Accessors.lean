import TrustZone.KvStore.Proof.Store

/-!
# Getters after setters

Runs of one task from an empty storage. A successful setter makes its value current (`step_effect`),
and it stays current until another one for the key succeeds, or until `KVStore_init` loads the storage
again before a commit stored it (`Exec.kept`). The getter of the key's type reads the current value.

* `accessors`: the last value set is read back, in any such run; accessors of another type fail and
  change nothing.
* `accessors_reload`: a second `KVStore_init` before a commit drops the value, and `KVStore_getUBase`
  does not read what `KVStore_setUBase` stored.
-/

namespace KvStore

open Lib Psa Machine

variable {al : Allocator} {cfg : Config} {s s' : State} {key : Nat} {ty : KVStoreValueType}
  {v : List UInt8}

/-- A recorded call. -/
abbrev Event := Entry State Call Ret

/-! ## Reading the current value -/

/-- Reading a set key into a buffer of any size. -/
theorem kvStoreGet_set {ty' : KVStoreValueType} (hs : MemOk s) (hm : Matches cfg key ty)
    (hx : s.xKvMutex = true) (hcur : s.current key = some (ty', v)) (buf : List UInt8) :
    kvStoreGet cfg s ty key buf = some (some (v.length, blit buf 0 (v.take buf.length))) := by
  obtain ⟨ht, hok, rfl⟩ := hs.of_current hcur
  have hlen := hok.bytes_length
  have hpos := hok.pos
  have hread : xReadEntryOrDefault cfg s key buf = some ((entryBytes s.heap (s.kvStoreCache key)).length,
      blit buf 0 ((entryBytes s.heap (s.kvStoreCache key)).take buf.length)) := by
    simp only [xReadEntryOrDefault, hok.copy ht, ← hlen]
    rw [if_neg (by omega), ← List.take_eq_take_min]
  have hguard : key < cfg.csNumKeys ∧ (cfg.kvStoreDefaults key).type = ty := hm
  simp only [kvStoreGet, if_pos hguard, if_pos hx, hread]

theorem kvStoreGet_current (hs : MemOk s) (hm : Matches cfg key ty) (hx : s.xKvMutex = true)
    (hcur : s.current key = some (ty, v)) {buf : List UInt8} (hbuf : v.length ≤ buf.length) :
    kvStoreGet cfg s ty key buf = some (some (v.length, v ++ buf.drop v.length)) := by
  rw [kvStoreGet_set hs hm hx hcur, List.take_of_length_le hbuf, blit_zero]

/-- A getter of another type does not read. -/
theorem kvStoreGet_refused (hm : ¬Matches cfg key ty) (buf : List UInt8) :
    kvStoreGet cfg s ty key buf = some none := if_neg hm

theorem ofNat_leVal_word32 (w : BitVec 32) : BitVec.ofNat 32 (leVal (word32 w)) = w := by
  rw [word32, leVal_leBytes w.isLt, BitVec.ofNat_toNat, BitVec.setWidth_eq]

theorem kvStoreGetWord_current {w : BitVec 32} (hs : MemOk s) (hm : Matches cfg key ty)
    (hx : s.xKvMutex = true) (hcur : s.current key = some (ty, word32 w)) :
    kvStoreGetWord cfg s ty key = some (w, true) := by
  have hget := kvStoreGet_current hs hm hx hcur
    (show (word32 w).length ≤ (word32 0).length by simp)
  unfold kvStoreGetWord
  rw [hget]
  simp only [word32_length, List.drop_of_length_le (Nat.le_of_eq (word32_length 0)),
    List.append_nil, ofNat_leVal_word32]
  rfl

/-- The getter of a setter's type returns the setter's value. `KVStore_getUBase` is left out: it asks
for another type than `KVStore_setUBase`. -/
def ReadsBack (cfg : Config) (s : State) : Call → Prop
  | .setBlob key (some v) => ∀ buf : List UInt8, v.bytes.length ≤ buf.length →
      kvStoreGetBlob cfg s key (some buf) =
        some (v.bytes.length, some (v.bytes ++ buf.drop v.bytes.length))
  | .setString key (some v) => ∀ buf : List UInt8, v.bytes.length < buf.length →
      ∃ rest, kvStoreGetString cfg s key (some buf) =
        some (v.bytes.length, some (v.bytes ++ 0 :: rest))
  | .setUInt32 key v => kvStoreGetUInt32 cfg s key = some (v, true)
  | .setInt32 key v => kvStoreGetInt32 cfg s key = some (v, true)
  | .setBase key v => kvStoreGetBase cfg s key = some (v, true)
  | _ => True

theorem kvStoreGetString_current {str : List UInt8} (hs : MemOk s)
    (hm : Matches cfg key kvTypeString) (hx : s.xKvMutex = true)
    (hcur : s.current key = some (kvTypeString, str ++ [0])) {buf : List UInt8}
    (hbuf : str.length < buf.length) :
    ∃ rest, kvStoreGetString cfg s key (some buf) = some (str.length, some (str ++ 0 :: rest)) := by
  have hv : (str ++ [0]).length ≤ buf.length := by
    rw [List.length_append, List.length_singleton]
    omega
  have hget := kvStoreGet_current hs hm hx hcur hv
  have hn : ¬buf.length = 0 := by omega
  have hoff : str.length ≤ buf.length - 1 := by omega
  simp only [kvStoreGetString, hget, if_neg hn, List.append_assoc, List.singleton_append,
    blit_append_right hoff, List.length_append, List.length_singleton, Nat.add_sub_cancel]
  -- the byte that is overwritten is the terminator of the value or one behind it
  cases buf.length - 1 - str.length with
  | zero => exact ⟨_, rfl⟩
  | succ n => exact ⟨_, rfl⟩

/-- **The getter of the type** of a current value returns it. -/
theorem readsBack_of_current {c : Call} (hs : MemOk s) (hx : s.xKvMutex = true)
    (hc : c.write? = some (key, ty, v)) (hm : Matches cfg key ty)
    (hcur : s.current key = some (ty, v)) : ReadsBack cfg s c := by
  cases c with
  | setBlob k b =>
    cases b with
    | none => trivial
    | some b =>
      simp only [Call.write?] at hc
      split at hc
      · cases hc
        intro buf hbuf
        simp only [kvStoreGetBlob, kvStoreGet_current hs hm hx hcur hbuf]
      · cases hc
  | setString k b =>
    cases b with
    | none => trivial
    | some b => cases hc; exact fun buf hbuf => kvStoreGetString_current hs hm hx hcur hbuf
  | setUInt32 | setInt32 | setBase => cases hc; exact kvStoreGetWord_current hs hm hx hcur
  | _ => trivial

/-! ## Runs -/

/-- A commit of the run issued no failing set for the key. -/
def CommittedIn (tr : List Event) (key : Nat) : Prop :=
  ∃ e ∈ tr, ∃ st ok sets, e.inp = .commit st ∧ e.out = .commit ok sets ∧ KeySet sets key

/-- Every `KVStore_init` of the run comes after such a commit. -/
def InitsCommitted (tr : List Event) (key : Nat) : Prop :=
  ∀ a e b, tr = a ++ e :: b → e.inp = .init → CommittedIn a key

/-- A call that is not a restart, and not a successful set of the key. -/
def KeepsKey (e : Event) (key : Nat) : Prop :=
  e.inp ≠ .reboot ∧ ∀ ty v, e.inp.write? = some (key, ty, v) → e.out = .result false

theorem CommittedIn.append {a : List Event} (h : CommittedIn a key) (b : List Event) :
    CommittedIn (a ++ b) key := by
  obtain ⟨e, he, h⟩ := h
  exact ⟨e, List.mem_append_left b he, h⟩

theorem InitsCommitted.left {a b : List Event} (h : InitsCommitted (a ++ b) key) :
    InitsCommitted a key := by
  rintro c e d rfl he
  exact h c e (d ++ b) (by simp) he

/-- What stays true of a key once its value is set: it is current, and stored after a commit. -/
structure Holds (cfg : Config) (s : State) (tr : List Event) (key : Nat)
    (val : KVStoreValueType × List UInt8) : Prop where
  ok : StoreOk cfg s
  sync : Synced cfg s
  current : s.current key = some val
  stored : CommittedIn tr key → nvValue s.its key = some val

theorem Holds.step {val : KVStoreValueType × List UInt8} (hal : al.Succeeds)
    (hkey : key < cfg.csNumKeys) {tr : List Event} (h : Holds cfg s tr key val) {c : Call} {r : Ret}
    (hs : step al cfg s c = some (s', r)) (hk : KeepsKey ⟨s, c, r, s'⟩ key)
    (hi : c = .init → CommittedIn tr key) : Holds cfg s' (tr ++ [⟨s, c, r, s'⟩]) key val := by
  obtain ⟨hok, he⟩ := step_effect_of hal h.ok hs
  -- only a commit adds to what is committed
  have hcom : (∀ st, c ≠ .commit st) → CommittedIn (tr ++ [⟨s, c, r, s'⟩]) key →
      CommittedIn tr key := by
    rintro hc ⟨e, hm, st, ok, sets, hin, h2⟩
    rcases List.mem_append.1 hm with hm | hm
    · exact ⟨e, hm, st, ok, sets, hin, h2⟩
    · rw [List.mem_singleton.1 hm] at hin
      exact absurd hin (hc st)
  cases he with
  | loaded hc hits _ hcur hsync =>
    have hst := h.stored (hi hc)
    exact ⟨hok, hsync, (hcur key hkey).trans hst, fun _ => by rw [hits]; exact hst⟩
  | set k ty v hc _ hr hits _ _ hother hsync =>
    have hne : key ≠ k := by
      rintro rfl
      have := hk.2 ty v hc
      rw [hr] at this
      cases this
    refine ⟨hok, hsync h.sync, (hother key hne).1.trans h.current, fun hc' => ?_⟩
    rw [hits]
    exact h.stored (hcom (fun st he => by rw [he] at hc; cases hc) hc')
  | refused hset _ _ hs' =>
    subst hs'
    exact ⟨hok, h.sync, h.current, fun hc' => h.stored (hcom (fun st he => by
      rw [he] at hset; cases hset) hc')⟩
  | committed st ok hc hr _ _ hcur _ hnv hstored hsync =>
    refine ⟨hok, hsync h.sync, by rw [hcur]; exact h.current, ?_⟩
    rintro ⟨e, hm, st', ok', sets, hin, hout, hset⟩
    rcases List.mem_append.1 hm with hm | hm
    · have hst := h.stored ⟨e, hm, st', ok', sets, hin, hout, hset⟩
      rcases hnv key with he | he
      · exact he.trans h.current
      · exact he.trans hst
    · rw [List.mem_singleton.1 hm] at hout
      simp only [hr, Ret.commit.injEq] at hout
      rw [hstored h.sync key hkey (hout.2 ▸ hset)]
      exact h.current
  | rebooted hc => exact absurd hc hk.1

/-- The value of a key stays what it was set to. -/
theorem Exec.holds {val : KVStoreValueType × List UInt8} (hal : al.Succeeds)
    (hkey : key < cfg.csNumKeys) {tr : List Event} (h : Exec (kvStore al cfg) s tr s')
    (h₀ : Holds cfg s [] key val) (hk : ∀ e ∈ tr, KeepsKey e key) (hi : InitsCommitted tr key) :
    Holds cfg s' tr key val := by
  induction h with
  | nil => exact h₀
  | snoc _ hs ih =>
    have ih := ih (fun e he => hk e (List.mem_append_left _ he)) hi.left
    exact ih.step hal hkey hs (hk _ (by simp)) fun hc => hi _ _ [] rfl hc

/-- The invariant of the runs without a restart; the mutex is there once `KVStore_init` ran. -/
theorem Exec.storeOk (hal : al.Succeeds) {tr : List Event}
    (h : Exec (kvStore al cfg) (.boot fun _ => none) tr s) (hr : ∀ e ∈ tr, e.inp ≠ .reboot) :
    StoreOk cfg s ∧ Synced cfg s ∧ ((∃ e ∈ tr, e.inp = .init) → s.xKvMutex = true) := by
  induction h with
  | nil =>
    refine ⟨.boot (fun k _ data hd => nomatch hd), fun k _ _ => rfl, ?_⟩
    rintro ⟨e, he, -⟩
    cases he
  | @snoc tr s1 s2 c r _ hs ih =>
    obtain ⟨hok, hsync, hx⟩ := ih fun e he => hr e (List.mem_append_left _ he)
    obtain ⟨hok', he⟩ := step_effect_of hal hok hs
    have hx' : c ≠ .init → (∃ e ∈ tr ++ [⟨s1, c, r, s2⟩], e.inp = .init) → s1.xKvMutex = true := by
      rintro hc ⟨e, hm, hin⟩
      rcases List.mem_append.1 hm with hm | hm
      · exact hx ⟨e, hm, hin⟩
      · rw [List.mem_singleton.1 hm] at hin
        exact absurd hin hc
    cases he with
    | loaded _ _ hxt _ hs' => exact ⟨hok', hs', fun _ => hxt⟩
    | set k ty v hc _ _ _ hxs _ _ hs' =>
      refine ⟨hok', hs' hsync, fun hi => hxs.trans (hx' (fun hc' => ?_) hi)⟩
      rw [hc'] at hc
      cases hc
    | refused hset _ _ hs' =>
      subst hs'
      exact ⟨hok', hsync, hx' fun hc' => by rw [hc'] at hset; cases hset⟩
    | committed st ok hc _ _ hxs _ _ _ _ hs' =>
      exact ⟨hok', hs' hsync, fun hi => hxs.trans (hx' (fun hc' => by rw [hc'] at hc; cases hc) hi)⟩
    | rebooted hc => exact absurd hc (hr ⟨s1, c, r, s2⟩ (by simp))

/-- **Accessors**: in every run of one task from an empty storage, every call returns; the value of the
last successful set of a key is current, and its getter returns it, once `KVStore_init` ran and as long
as every `KVStore_init` after the set comes after a commit that issued no failing set for the key.
Setters and getters of another type than the key's refuse and change nothing. -/
theorem accessors (hal : al.Succeeds) {tr : List Event}
    (h : Exec (kvStore al cfg) (.boot fun _ => none) tr s) (hr : ∀ e ∈ tr, e.inp ≠ .reboot) :
    (∀ c, ∃ s' r, step al cfg s c = some (s', r)) ∧
    (∀ a e b key ty v, tr = a ++ e :: b → e.inp.write? = some (key, ty, v) → e.out = .result true →
      (∀ x ∈ b, KeepsKey x key) → InitsCommitted b key →
      s.current key = some (ty, v) ∧ ((∃ x ∈ tr, x.inp = .init) → ReadsBack cfg s e.inp)) ∧
    (∀ e ∈ tr, ∀ key ty v, e.inp.write? = some (key, ty, v) → ¬Matches cfg key ty →
      e.out = .result false ∧ e.post = e.pre) ∧
    (∀ key buf, (¬Matches cfg key kvTypeBlob → kvStoreGetBlob cfg s key buf = some (0, buf)) ∧
      (¬Matches cfg key kvTypeString → kvStoreGetString cfg s key buf = some (0, buf)) ∧
      (¬Matches cfg key kvTypeUInt32 → kvStoreGetUInt32 cfg s key = some (0, false)) ∧
      (¬Matches cfg key kvTypeInt32 → kvStoreGetInt32 cfg s key = some (0, false)) ∧
      (¬Matches cfg key kvTypeBaseT → kvStoreGetBase cfg s key = some (0, false)) ∧
      (¬Matches cfg key kvTypeBaseT → ¬Matches cfg key kvTypeUBaseT →
        kvStoreGetUBase cfg s key = some (0, false))) := by
  obtain ⟨hok, -, hx⟩ := Exec.storeOk hal h hr
  refine ⟨fun c => ?_, ?_, ?_, fun key buf => ⟨?_, ?_, ?_, ?_, ?_, ?_⟩⟩
  · obtain ⟨s', r, hs, -⟩ := step_effect hal hok c
    exact ⟨s', r, hs⟩
  · rintro a e b key ty v rfl hw hout hb hi
    obtain ⟨hpre, hpost⟩ := h.split
    obtain ⟨hok1, hsync1, -⟩ := Exec.storeOk hal hpre fun x hx => hr x (by simp [hx])
    obtain ⟨hok2, he⟩ := step_effect_of hal hok1 (h.mem (e := e) (by simp))
    cases he with
    | set key' ty' v' hw' hm _ _ _ hcur _ hsync =>
      rw [hw] at hw'
      cases hw'
      have h₀ : Holds cfg e.post [] key (ty, v) :=
        ⟨hok2, hsync hsync1, hcur, fun ⟨x, hx, _⟩ => nomatch hx⟩
      have hlast := Exec.holds hal hm.1 hpost h₀ hb hi
      exact ⟨hlast.current, fun hinit => readsBack_of_current hok.mem (hx hinit) hw hm hlast.current⟩
    | refused _ _ hr' => rw [hout] at hr'; cases hr'
    | loaded hc => rw [hc] at hw; cases hw
    | committed st ok hc => rw [hc] at hw; cases hw
    | rebooted hc => rw [hc] at hw; cases hw
  · intro e he key ty v hw hm
    obtain ⟨a, b, rfl⟩ := List.append_of_mem he
    obtain ⟨hok1, -, -⟩ := Exec.storeOk hal h.split.1 fun x hx => hr x (by simp [hx])
    obtain ⟨-, heff⟩ := step_effect_of hal hok1 (h.mem he)
    cases heff with
    | set key' ty' v' hw' hm' => rw [hw] at hw'; cases hw'; exact absurd hm' hm
    | refused _ _ hr' hs' => exact ⟨hr', hs'⟩
    | loaded hc => rw [hc] at hw; cases hw
    | committed st ok hc => rw [hc] at hw; cases hw
    | rebooted hc => rw [hc] at hw; cases hw
  · intro hm
    cases buf <;> simp [kvStoreGetBlob, kvStoreGet_refused hm]
  · intro hm
    cases buf <;> simp [kvStoreGetString, kvStoreGet_refused hm]
  · intro hm
    simp [kvStoreGetUInt32, kvStoreGetWord, kvStoreGet_refused hm]
  · intro hm
    simp [kvStoreGetInt32, kvStoreGetWord, kvStoreGet_refused hm]
  · intro hm
    simp [kvStoreGetBase, kvStoreGetWord, kvStoreGet_refused hm]
  · intro hm _
    simp [kvStoreGetUBase, kvStoreGetWord, kvStoreGet_refused hm]

/-- One key of type `ty`, whose default is the word 8883. -/
def oneKey (ty : KVStoreValueType) : Config := ⟨1, fun _ => ⟨ty, 4, 8883, fun _ => 0⟩⟩

/-- A value that was set is read back. -/
theorem accessors_set : ∃ tr s, Exec (kvStore .granting (oneKey kvTypeUInt32))
    (.boot fun _ => none) tr s ∧
    tr.map (·.inp.write?) = [none, some (0, kvTypeUInt32, word32 5)] ∧
    kvStoreGetUInt32 (oneKey kvTypeUInt32) s 0 = some (5, true) := by
  have h0 : Exec (kvStore .granting (oneKey kvTypeUInt32)) (.boot fun _ => none) []
      (.boot fun _ => none) := .nil
  have h1 := h0.snoc (i := .init) rfl
  have h2 := h1.snoc (i := .setUInt32 0 5) rfl
  have hread := (accessors Allocator.granting_succeeds h2 (by simp)).2.1 _ _ [] 0 kvTypeUInt32
    (word32 5) rfl rfl rfl (by simp) (fun a e b h => by simp at h)
  exact ⟨_, _, h2, rfl, hread.2
    ⟨_, List.mem_append_left _ (List.mem_append_right [] List.mem_cons_self), rfl⟩⟩

/-- A value that was set is gone after another `KVStore_init` without a commit, and
`KVStore_getUBase` does not read a key of its own type. -/
theorem accessors_reload :
    (∃ tr s, Exec (kvStore .granting (oneKey kvTypeUInt32)) (.boot fun _ => none) tr s ∧
      tr.map (·.inp.write?) = [none, some (0, kvTypeUInt32, word32 5), none] ∧
      kvStoreGetUInt32 (oneKey kvTypeUInt32) s 0 = some (8883, true)) ∧
    (∃ tr s, Exec (kvStore .granting (oneKey kvTypeUBaseT)) (.boot fun _ => none) tr s ∧
      tr.map (·.inp.write?) = [none, some (0, kvTypeUBaseT, word32 5)] ∧
      kvStoreGetUBase (oneKey kvTypeUBaseT) s 0 = some (0, false)) := by
  refine ⟨?_, ?_⟩
  · have h0 : Exec (kvStore .granting (oneKey kvTypeUInt32)) (.boot fun _ => none) []
        (.boot fun _ => none) := .nil
    have h1 := h0.snoc (i := .init) rfl
    have h2 := h1.snoc (i := .setUInt32 0 5) rfl
    have h3 := h2.snoc (i := .init) rfl
    exact ⟨_, _, h3, rfl, by decide⟩
  · have h0 : Exec (kvStore .granting (oneKey kvTypeUBaseT)) (.boot fun _ => none) []
        (.boot fun _ => none) := .nil
    have h1 := h0.snoc (i := .init) rfl
    have h2 := h1.snoc (i := .setUBase 0 5) rfl
    exact ⟨_, _, h2, rfl, by decide⟩

end KvStore
