import TrustZone.KvStore.Proof.Accessors
import TrustZone.KvStore.Proof.DirtyFlag

/-!
# String defaults and the getters into the heap

A stored string keeps its terminator, a default of `KV_DFLT( KV_TYPE_STRING, D )` does not, and a default
that is not longer than a pointer is read from the union and not through the pointer.

* `kvStoreGet_set`, `kvStoreGet_unset`: what every getter reads, into a buffer of any size.
* `default_string`: no string default is read as the string that was set would be.
* `getters_law_iff`: when `KVStore_getString` keeps to its buffer and the two getters into the heap say
  how long their block is.
-/

namespace KvStore

open Lib Psa Machine

variable {al : Allocator} {cfg : Config} {s s' : State} {key n : Nat} {ty ty' : KVStoreValueType}
  {v buf b : List UInt8}

/-! ## What a getter reads -/

/-- The bytes of a default that are read into `n` bytes of room. -/
def KVStoreDefaultEntry.bytes (d : KVStoreDefaultEntry) (n : Nat) : List UInt8 :=
  if min n d.length > sizeofPtr then slice d.blob 0 (min n d.length)
  else (leBytes 4 d.u32.toNat).take (min n d.length)

theorem KVStoreDefaultEntry.bytes_length (d : KVStoreDefaultEntry) (n : Nat) :
    (d.bytes n).length = min n d.length := by
  unfold KVStoreDefaultEntry.bytes
  split
  · exact slice_length ..
  · rename_i hle
    rw [List.length_take, leBytes_length]
    simp only [sizeofPtr] at hle
    omega

theorem kvStoreGet_unset (hm : Matches cfg key ty) (hx : s.xKvMutex = true)
    (ht : (s.kvStoreCache key).type = kvTypeNone) :
    kvStoreGet cfg s ty key buf = some (some ((cfg.kvStoreDefaults key).length,
      blit buf 0 ((cfg.kvStoreDefaults key).bytes buf.length))) := by
  have hguard : key < cfg.csNumKeys ∧ (cfg.kvStoreDefaults key).type = ty := hm
  simp only [kvStoreGet, if_pos hguard, if_pos hx, xReadEntryOrDefault, xprvCopyValueFromCache,
    pvGetDataReadPtr, if_pos ht, if_true, KVStoreDefaultEntry.bytes]

/-- `KVStore_getString` ends what is read. -/
theorem kvStoreGetString_of (h : kvStoreGet cfg s kvTypeString key buf = some (some (n, b)))
    (hne : buf ≠ []) : kvStoreGetString cfg s key (some buf) =
      some (n - 1, some (blit b (buf.length - 1) [0])) := by
  have hlen : ¬buf.length = 0 := fun h => hne (List.length_eq_zero_iff.1 h)
  simp only [kvStoreGetString, h, if_neg hlen]

/-- A getter of another type leaves the buffer. -/
theorem kvStoreGetString_refused (hm : ¬Matches cfg key kvTypeString) :
    kvStoreGetString cfg s key (some buf) = some (0, some buf) := by
  simp only [kvStoreGetString, kvStoreGet_refused hm]

theorem kvStoreGetBlob_refused (hm : ¬Matches cfg key kvTypeBlob) :
    kvStoreGetBlob cfg s key (some buf) = some (0, some buf) := by
  simp only [kvStoreGetBlob, kvStoreGet_refused hm]

theorem kvStoreGetBlob_of (h : kvStoreGet cfg s kvTypeBlob key buf = some (some (n, b))) :
    kvStoreGetBlob cfg s key (some buf) = some (n, some b) := by
  simp only [kvStoreGetBlob, h]

/-! ## A getter into the heap -/

/-- The heap with the block of a granted request. -/
def grown (al : Allocator) (h : Heap) (n : Nat) : Heap :=
  ⟨h.next + 1, Function.update h.mem h.next (some (slice (al.junk h.next) 0 n))⟩

variable {getter : State → List UInt8 → Option (Nat × Option (List UInt8))}

theorem getHeap_empty (hsize : kvStoreGetSize cfg s key = 0) :
    kvStoreGetHeap al cfg s key getter = some ⟨none, 0, s.heap⟩ := by
  simp [kvStoreGetHeap, hsize]

theorem getHeap_refused (hpos : 0 < kvStoreGetSize cfg s key)
    (hal : al.avail s.heap.next (kvStoreGetSize cfg s key) = false) :
    ∃ h, kvStoreGetHeap al cfg s key getter = some ⟨none, kvStoreGetSize cfg s key, h⟩ := by
  unfold kvStoreGetHeap
  simp only [if_pos hpos, Heap.malloc_refused s.heap hal]
  exact ⟨_, rfl⟩

/-- The block stays when the getter returns a count, and goes when it returns 0. -/
theorem getHeap_granted
    (getter : State → List UInt8 → Option (Nat × Option (List UInt8)))
    (hpos : 0 < kvStoreGetSize cfg s key)
    (hal : al.avail s.heap.next (kvStoreGetSize cfg s key) = true)
    (hget : getter { s with heap := grown al s.heap (kvStoreGetSize cfg s key) }
      (slice (al.junk s.heap.next) 0 (kvStoreGetSize cfg s key)) = some (n, some b))
    (hb : b.length = kvStoreGetSize cfg s key) :
    ∃ h, kvStoreGetHeap al cfg s key getter = some (if n = 0 then ⟨none, 0, h⟩
        else ⟨some s.heap.next, kvStoreGetSize cfg s key, h⟩) ∧
      (n ≠ 0 → h.mem s.heap.next = some b) := by
  have hgrow : s.heap.malloc al (kvStoreGetSize cfg s key) =
      (some s.heap.next, grown al s.heap (kvStoreGetSize cfg s key)) := by
    simp only [Heap.malloc, if_pos hal, grown]
  have hblk : (grown al s.heap (kvStoreGetSize cfg s key)).mem s.heap.next =
      some (slice (al.junk s.heap.next) 0 (kvStoreGetSize cfg s key)) := Function.update_self ..
  have hread := Heap.read_eq hblk (n := kvStoreGetSize cfg s key) (by rw [slice_length])
  rw [List.take_of_length_le (by rw [slice_length])] at hread
  have hwrite := Heap.write_eq hblk (show b.length ≤ _ by rw [slice_length, hb])
  have hwhole : blit (slice (al.junk s.heap.next) 0 (kvStoreGetSize cfg s key)) 0 b = b := by
    rw [blit_zero, List.drop_of_length_le (by rw [slice_length, hb]), List.append_nil]
  rw [hwhole] at hwrite
  unfold kvStoreGetHeap
  simp only [if_pos hpos, hgrow, hread, hget, hwrite]
  by_cases hn : n = 0
  · simp only [if_pos hn, Heap.free_eq (h := ⟨_, Function.update _ s.heap.next (some b)⟩)
      (Function.update_self ..)]
    exact ⟨_, rfl, fun h => absurd hn h⟩
  · simp only [if_neg hn]
    exact ⟨_, rfl, fun _ => Function.update_self ..⟩

/-! ## Defaults -/

/-- A string key with the default `d` that is not set. -/
structure UnsetString (cfg : Config) (s : State) (key : Nat) (d : CString) (str : BitVec 32) :
    Prop where
  inTable : key < cfg.csNumKeys
  default : cfg.kvStoreDefaults key = kvDfltString d str
  unset : (s.kvStoreCache key).type = kvTypeNone
  mutex : s.xKvMutex = true

/-- The default is read as the string that was set would be: whole, with its terminator and its length,
into the buffer and into the heap. -/
structure DefaultLaw (al : Allocator) (cfg : Config) (s : State) (key : Nat) (d buf : List UInt8) :
    Prop where
  getString : ∃ rest, kvStoreGetString cfg s key (some buf) = some (d.length, some (d ++ 0 :: rest))
  getStringHeap : ∃ r p rest, kvStoreGetStringHeap al cfg s key = some r ∧ r.ret = some p ∧
    r.pxLength = d.length ∧ r.heap.mem p = some (d ++ 0 :: rest)

variable {d : CString} {str : BitVec 32}

theorem UnsetString.read (h : UnsetString cfg s key d str) (buf : List UInt8) :
    kvStoreGet cfg s kvTypeString key buf = some (some (d.bytes.length,
      blit buf 0 ((kvDfltString d str).bytes buf.length))) := by
  have hm : Matches cfg key kvTypeString := ⟨h.inTable, congrArg (·.type) h.default⟩
  have hread := @kvStoreGet_unset cfg s key kvTypeString buf hm h.mutex h.unset
  rw [h.default] at hread
  exact hread

/-- The count leaves out the last byte of the default. -/
theorem UnsetString.count (h : UnsetString cfg s key d str) (hne : buf ≠ []) :
    ∃ b, kvStoreGetString cfg s key (some buf) = some (d.bytes.length - 1, some b) ∧
      b.length = buf.length := by
  refine ⟨_, kvStoreGetString_of (h.read buf) hne, ?_⟩
  have hpos := List.length_pos_iff.2 hne
  have hread : (blit buf 0 ((kvDfltString d str).bytes buf.length)).length = buf.length :=
    blit_length (by rw [KVStoreDefaultEntry.bytes_length]; omega)
  rw [blit_length (by rw [hread, List.length_singleton]; omega), hread]

/-- An empty default has no copy in the heap. -/
theorem UnsetString.heap_empty (h : UnsetString cfg s key d str) (hd : d.bytes = []) {r : HeapGet}
    (hr : kvStoreGetStringHeap al cfg s key = some r) : r.ret = none := by
  unfold kvStoreGetStringHeap at hr
  by_cases hpos : 0 < kvStoreGetSize cfg s key
  · cases hal : al.avail s.heap.next (kvStoreGetSize cfg s key) with
    | false =>
      obtain ⟨h', hheap⟩ := getHeap_refused hpos hal
      rw [hheap] at hr
      obtain rfl := Option.some.inj hr
      rfl
    | true =>
      have h₁ : UnsetString cfg { s with heap := grown al s.heap (kvStoreGetSize cfg s key) } key d
        str := ⟨h.inTable, h.default, h.unset, h.mutex⟩
      obtain ⟨b, hget, hb⟩ := h₁.count (show slice (al.junk s.heap.next) 0 _ ≠ [] from
        List.length_pos_iff.1 (by rw [slice_length]; exact hpos))
      rw [slice_length] at hb
      obtain ⟨h', hheap, -⟩ := getHeap_granted
        (fun s b => kvStoreGetString cfg s key (some b)) hpos hal hget hb
      rw [hheap, if_pos (by rw [hd]; rfl)] at hr
      obtain rfl := Option.some.inj hr
      rfl
  · rw [getHeap_empty (by omega)] at hr
    obtain rfl := Option.some.inj hr
    rfl

/-- **No string default behaves like a stored string**, whatever its length: one that is not empty is
counted without its last byte, and an empty one has no copy in the heap. -/
theorem default_string (al : Allocator) (h : UnsetString cfg s key d str) (buf : List UInt8) :
    ¬DefaultLaw al cfg s key d.bytes buf := by
  intro law
  by_cases hd : d.bytes = []
  · obtain ⟨r, p, rest, hr, hret, -⟩ := law.getStringHeap
    rw [h.heap_empty hd hr] at hret
    cases hret
  · obtain ⟨rest, hget⟩ := law.getString
    have hpos := List.length_pos_iff.2 hd
    by_cases hne : buf = []
    · -- without room nothing is returned
      rw [hne] at hget
      simp only [kvStoreGetString, h.read, List.length_nil, if_true] at hget
      cases hget
    · obtain ⟨b, hcount, -⟩ := h.count hne
      obtain ⟨hlen, -⟩ := Prod.mk.inj (Option.some.inj (hcount.symm.trans hget))
      omega

/-- A table of one string key whose default is `d`. -/
def oneString (d : CString) : Config := ⟨1, fun _ => kvDfltString d 0x20000400⟩

/-- An initialised store over an empty storage. -/
def emptyStore : State := { State.boot fun _ => none with xKvMutex := true }

theorem default_string_never : ¬DefaultLaw .granting (oneString ⟨ascii "endpoint", by decide, by decide⟩)
    emptyStore 0 (ascii "endpoint") (List.replicate 16 0xff) :=
  default_string .granting (d := ⟨ascii "endpoint", by decide, by decide⟩) ⟨by decide, rfl, rfl, rfl⟩ _

/-- A default of eight bytes is counted as seven and not terminated, and its copy loses the last one; of
a default of two bytes the address is read, of an empty one there is no copy. -/
theorem default_string_read :
    kvStoreGetString (oneString ⟨ascii "endpoint", by decide, by decide⟩) emptyStore 0
      (some (List.replicate 10 0xff)) = some (7, some (ascii "endpoint" ++ [0xff, 0])) ∧
    (kvStoreGetStringHeap .granting (oneString ⟨ascii "endpoint", by decide, by decide⟩)
      emptyStore 0).map (fun r => (r.pxLength, r.ret.bind r.heap.mem)) =
        some (7, some (ascii "endpoin" ++ [0])) ∧
    kvStoreGetString (oneString ⟨ascii "AP", by decide, by decide⟩) emptyStore 0
      (some (List.replicate 4 0xff)) = some (1, some [0x00, 0x04, 0xff, 0]) ∧
    (kvStoreGetStringHeap .granting (oneString ⟨[], by decide, by decide⟩) emptyStore 0).map
      (fun r => (r.ret, r.pxLength)) = some (none, 2 ^ 32 - 1) ∧
    (∀ buf, ¬DefaultLaw .granting (oneString ⟨ascii "endpoint", by decide, by decide⟩) emptyStore 0
      (ascii "endpoint") buf) := by
  refine ⟨by decide, by decide, by decide, by decide, fun buf law => ?_⟩
  have h : UnsetString (oneString ⟨ascii "endpoint", by decide, by decide⟩) emptyStore 0
      ⟨ascii "endpoint", by decide, by decide⟩ 0x20000400 := ⟨by decide, rfl, rfl, rfl⟩
  obtain ⟨rest, hget⟩ := law.getString
  cases buf with
  | nil => cases hget
  | cons x buf =>
    obtain ⟨b, hcount, -⟩ := h.count (List.cons_ne_nil x buf)
    exact absurd (Prod.mk.inj (Option.some.inj (hcount.symm.trans hget))).1 (by decide)

/-! ## Runs with any allocator -/

/-- Whatever the allocator refuses, a call that returns keeps the invariant. -/
theorem StoreOk.step_any (hs : StoreOk cfg s) {c : Call} {r : Ret}
    (h : KvStore.step al cfg s c = some (s', r)) : StoreOk cfg s' := by
  by_cases hset : c.isSetter = true
  · exact (step_effect_of al.grant_succeeds hs (setter_grant hset h)).1
  · cases c with
    | init =>
      have hinit : KvStore.step al.grant cfg s .init = some (s', r) := by
        simp only [step] at h ⊢
        split at h
        · cases h
        · rename_i s₁ hi
          rw [show kvStoreInit al.grant cfg s = some s₁ from loadEntries_grant hi]
          exact h
      exact (step_effect_of al.grant_succeeds hs hinit).1
    | commit st =>
      obtain ⟨c, c', hc, hc', hpost, -⟩ :=
        commitEntries_grant al hs.mem hs.pending st cfg.csNumKeys (Nat.le_refl _)
      have hcommit : KvStore.step al.grant cfg s (.commit (stagedStatus al st s)) =
          some (c'.post, .commit c'.ok c'.sets) := by
        simp only [step, kvStoreXCommitChanges, hc']
      simp only [step, kvStoreXCommitChanges, hc, Option.some.injEq, Prod.mk.injEq] at h
      rw [← h.1, hpost]
      exact (step_effect_of al.grant_succeeds hs hcommit).1
    | reboot =>
      obtain ⟨rfl, -⟩ := Prod.mk.inj (Option.some.inj h)
      exact .boot hs.nv
    | _ => exact absurd rfl hset

theorem Exec.storeOk_any {its : Its} (hits : ∀ k < cfg.csNumKeys, NvOk its k) {tr : List Event}
    (h : Exec (kvStore al cfg) (.boot its) tr s) : StoreOk cfg s :=
  h.inv (fun _ _ _ _ hs hstep => hs.step_any hstep) (.boot hits)

/-! ## Buffers and blocks -/

/-- The length that a getter of the key reads: that of the value it holds, or of the default. -/
def State.readLen (cfg : Config) (s : State) (key : Nat) : Nat :=
  match s.current key with
  | some (_, v) => v.length
  | none => (cfg.kvStoreDefaults key).length

/-- The bytes of the value: all that are read, but for the `nul` that a stored string ends in. -/
def State.valueBytes (cfg : Config) (s : State) (key nul : Nat) : Nat :=
  match s.current key with
  | some (_, v) => v.length - nul
  | none => (cfg.kvStoreDefaults key).length

theorem kvStoreGet_any (hs : MemOk s) (hm : Matches cfg key ty) (hx : s.xKvMutex = true)
    (buf : List UInt8) : ∃ b, kvStoreGet cfg s ty key buf = some (some (s.readLen cfg key, b)) ∧
      b.length = buf.length ∧
      ∀ ty' v, s.current key = some (ty', v) → b = blit buf 0 (v.take buf.length) := by
  unfold State.readLen
  cases hcur : s.current key with
  | some w =>
    obtain ⟨ty', v⟩ := w
    refine ⟨_, kvStoreGet_set hs hm hx hcur buf, blit_length (by rw [List.length_take]; omega), ?_⟩
    rintro _ _ heq
    obtain ⟨rfl, rfl⟩ := Prod.mk.inj (Option.some.inj heq)
    rfl
  | none =>
    have ht : (s.kvStoreCache key).type = kvTypeNone := by
      by_contra ht
      rw [State.current, entryValue_set ht] at hcur
      cases hcur
    refine ⟨_, kvStoreGet_unset hm hx ht, ?_, fun _ _ h => absurd h (Option.some_ne_none _).symm⟩
    exact blit_length (by rw [KVStoreDefaultEntry.bytes_length]; omega)

/-- `KVStore_getString` returns and keeps to the buffer; a key that holds a value leaves a terminated
start of it there. -/
def GetStringLaw (cfg : Config) (s : State) (key : Nat) (buf : List UInt8) : Prop :=
  ∃ n buf', kvStoreGetString cfg s key (some buf) = some (n, some buf') ∧ buf'.length = buf.length ∧
    (Matches cfg key kvTypeString → buf ≠ [] → ∀ ty v, s.current key = some (ty, v) →
      0 ∈ buf' ∧ cstr buf' <+: v)

/-- A getter into the heap says how many bytes of the value its block holds, before a terminator of `nul`
bytes, and 0 when there is no block. -/
def GetHeapLaw (cfg : Config) (s : State) (key nul : Nat) (got : Option HeapGet) : Prop :=
  ∃ r, got = some r ∧ (r.ret = none → r.pxLength = 0) ∧
    ∀ p, r.ret = some p → ∃ b, r.heap.mem p = some b ∧
      r.pxLength = min (b.length - nul) (s.valueBytes cfg key nul) ∧
      ∀ ty v, s.current key = some (ty, v) → b.take r.pxLength = v.take r.pxLength

/-- There is room for a terminator, and it falls on the end of the value or within. -/
def StringFits (cfg : Config) (s : State) (key : Nat) (buf : List UInt8) : Prop :=
  Matches cfg key kvTypeString → buf ≠ [] ∧ ∀ ty v, s.current key = some (ty, v) →
    0 ∈ v ∨ buf.length ≤ v.length + 1 ∨ buf[v.length]? = some 0

/-- What is left in a buffer: what fits of the value, and a NUL on the last byte. -/
def terminated (buf v : List UInt8) : List UInt8 :=
  blit (blit buf 0 (v.take buf.length)) (buf.length - 1) [0]

theorem filled_length (buf v : List UInt8) :
    (blit buf 0 (v.take buf.length)).length = buf.length :=
  blit_length (by rw [List.length_take]; omega)

theorem terminated_eq (hne : buf ≠ []) (v : List UInt8) :
    terminated buf v = (blit buf 0 (v.take buf.length)).take (buf.length - 1) ++ [0] := by
  have hpos := List.length_pos_iff.2 hne
  have hfilled := filled_length buf v
  rw [terminated, blit, List.drop_of_length_le (by rw [List.length_singleton]; omega), List.append_nil]

theorem terminated_long (hne : buf ≠ []) (hle : buf.length ≤ v.length) :
    terminated buf v = v.take (buf.length - 1) ++ [0] := by
  rw [terminated_eq hne, blit_zero, List.take_append_of_le_length (by rw [List.length_take]; omega),
    List.take_take, Nat.min_eq_left (by omega)]

theorem terminated_short (hlt : v.length < buf.length) :
    terminated buf v = v ++ ((buf.drop v.length).take (buf.length - 1 - v.length) ++ [0]) := by
  have hne : buf ≠ [] := List.length_pos_iff.1 (by omega)
  have hall : v.take buf.length = v := List.take_of_length_le (by omega)
  have hcut : v.take (buf.length - 1) = v := List.take_of_length_le (by omega)
  rw [terminated_eq hne, hall, blit_zero, List.take_append, hcut, List.append_assoc]

/-- The string that is left is a start of the value: it is cut, or ends in the value, or behind it. -/
theorem terminated_iff (hne : buf ≠ []) (v : List UInt8) : cstr (terminated buf v) <+: v ↔
    0 ∈ v ∨ buf.length ≤ v.length + 1 ∨ buf[v.length]? = some 0 := by
  by_cases hle : buf.length ≤ v.length
  · refine iff_of_true ?_ (.inr (.inl (by omega)))
    rw [terminated_long hne hle, cstr_append_nul]
    exact (cstr_start _).trans (List.take_prefix _ _)
  · rw [terminated_short (by omega)]
    by_cases hv : 0 ∈ v
    · refine iff_of_true ?_ (.inl hv)
      obtain ⟨a, c, rfl⟩ := List.append_of_mem hv
      rw [List.append_assoc, List.cons_append, cstr_append_nul]
      exact (cstr_start a).trans (List.prefix_append _ _)
    · -- the value is there in full; what follows it is the end or is part of the string
      rw [cstr_append hv]
      have hnil : ∀ l : List UInt8, v ++ l <+: v ↔ l = [] := by
        intro l
        constructor
        · intro h
          have hlen := h.length_le
          rw [List.length_append] at hlen
          exact List.length_eq_zero_iff.1 (by omega)
        · rintro rfl
          simp
      rw [hnil]
      have hlt : v.length < buf.length := by omega
      rw [List.drop_eq_getElem_cons hlt, List.getElem?_eq_getElem hlt]
      cases hk : buf.length - 1 - v.length with
      | zero =>
        refine iff_of_true rfl (.inr (.inl (by omega)))
      | succ k =>
        rw [List.take_succ_cons, List.cons_append]
        by_cases hx : buf[v.length] = 0
        · refine iff_of_true ?_ (.inr (.inr (congrArg some hx)))
          rw [hx, cstr_nul]
        · rw [cstr_cons hx]
          refine iff_of_false (List.cons_ne_nil _ _) ?_
          rintro (h | h | h)
          · exact hv h
          · omega
          · exact hx (Option.some.inj h)

theorem getString_law_iff (hs : MemOk s) (hx : s.xKvMutex = true) :
    GetStringLaw cfg s key buf ↔ StringFits cfg s key buf := by
  by_cases hm : Matches cfg key kvTypeString
  · obtain ⟨b, hget, hb, hval⟩ := kvStoreGet_any hs hm hx buf
    by_cases hne : buf = []
    · -- the terminator goes before the buffer
      refine iff_of_false ?_ fun h => (h hm).1 hne
      subst hne
      rintro ⟨n, buf', h, -⟩
      simp only [kvStoreGetString, hget, List.length_nil, if_true] at h
      cases h
    · have hstr := kvStoreGetString_of hget hne
      have hpos := List.length_pos_iff.2 hne
      have hout : ∀ ty v, s.current key = some (ty, v) →
          blit b (buf.length - 1) [0] = terminated buf v := fun ty v hcur => by
        rw [hval ty v hcur, terminated]
      constructor
      · rintro ⟨n, buf', h, -, hstart⟩ -
        refine ⟨hne, fun ty v hcur => ?_⟩
        obtain ⟨-, heq⟩ := Prod.mk.inj (Option.some.inj (hstr.symm.trans h))
        obtain rfl := Option.some.inj heq
        have hcut := (hstart hm hne ty v hcur).2
        rw [hout ty v hcur] at hcut
        exact (terminated_iff hne v).1 hcut
      · intro hfits
        refine ⟨_, _, hstr, ?_, fun _ _ ty v hcur => ?_⟩
        · rw [blit_length (by rw [hb, List.length_singleton]; omega), hb]
        · rw [hout ty v hcur]
          refine ⟨?_, (terminated_iff hne v).2 ((hfits hm).2 ty v hcur)⟩
          rw [terminated_eq hne]
          exact List.mem_append_right _ List.mem_cons_self
  · refine iff_of_true ⟨0, buf, kvStoreGetString_refused hm, rfl, fun h => absurd h hm⟩ ?_
    exact fun h => absurd h hm

/-- The size of a key that holds a value is that of the value. -/
theorem size_of_current (hs : MemOk s) (hk : key < cfg.csNumKeys) (hcur : s.current key = some (ty, v)) :
    kvStoreGetSize cfg s key = v.length := by
  obtain ⟨-, hok, rfl⟩ := hs.of_current hcur
  have hpos := hok.pos
  rw [kvStoreGetSize, if_pos hk, if_neg (by omega), hok.bytes_length]

/-- What a getter into the heap leaves, for a getter that drops `nul` from the length it reads and ends
what it has read by `fin`. -/
inductive HeapOutcome (al : Allocator) (cfg : Config) (s : State) (key : Nat) (ty : KVStoreValueType)
    (nul : Nat) (fin : List UInt8 → List UInt8) : HeapGet → Prop
  | empty (h : Heap) (hsize : kvStoreGetSize cfg s key = 0) : HeapOutcome al cfg s key ty nul fin ⟨none, 0, h⟩
  | refused (h : Heap) (hsize : 0 < kvStoreGetSize cfg s key)
    (hal : al.avail s.heap.next (kvStoreGetSize cfg s key) = false) :
    HeapOutcome al cfg s key ty nul fin ⟨none, kvStoreGetSize cfg s key, h⟩
  | unread (h : Heap) (hsize : 0 < kvStoreGetSize cfg s key)
    (hal : al.avail s.heap.next (kvStoreGetSize cfg s key) = true)
    (hno : ¬Matches cfg key ty ∨ s.readLen cfg key ≤ nul) : HeapOutcome al cfg s key ty nul fin ⟨none, 0, h⟩
  | got (h : Heap) (p : Nat) (b : List UInt8) (hsize : 0 < kvStoreGetSize cfg s key)
    (hal : al.avail s.heap.next (kvStoreGetSize cfg s key) = true) (hm : Matches cfg key ty)
    (hlen : nul < s.readLen cfg key) (hmem : h.mem p = some (fin b))
    (hb : b.length = kvStoreGetSize cfg s key) (hval : ∀ ty' v, s.current key = some (ty', v) → b = v) :
    HeapOutcome al cfg s key ty nul fin ⟨some p, kvStoreGetSize cfg s key, h⟩

/-- The store with the block of a granted request holds what it held. -/
theorem MemOk.grown (hs : MemOk s) (al : Allocator) (n : Nat) :
    MemOk { s with heap := KvStore.grown al s.heap n } ∧
      ∀ k, State.current { s with heap := KvStore.grown al s.heap n } k = s.current k := by
  refine hs.frame s.its (hs.wf.push _) fun p hp => Function.update_of_ne ?_ _ _
  rintro rfl
  exact hp (hs.wf _ (Nat.le_refl _))

theorem getHeap_outcome (hs : MemOk s) (hx : s.xKvMutex = true) {nul : Nat}
    {fin : List UInt8 → List UInt8} (hfin : ∀ b, b ≠ [] → (fin b).length = b.length)
    (hgot : ∀ s n buf b, kvStoreGet cfg s ty key buf = some (some (n, b)) → buf ≠ [] →
      b.length = buf.length → getter s buf = some (n - nul, some (fin b)))
    (hrefused : ∀ s buf, ¬Matches cfg key ty → getter s buf = some (0, some buf)) :
    ∃ r, kvStoreGetHeap al cfg s key getter = some r ∧ HeapOutcome al cfg s key ty nul fin r := by
  by_cases hsize : 0 < kvStoreGetSize cfg s key
  · cases hal : al.avail s.heap.next (kvStoreGetSize cfg s key) with
    | false =>
      obtain ⟨h, hr⟩ : ∃ h, kvStoreGetHeap al cfg s key getter = some ⟨none, _, h⟩ :=
        getHeap_refused hsize hal
      exact ⟨_, hr, .refused h hsize hal⟩
    | true =>
      obtain ⟨hs₁, hcur₁⟩ := hs.grown al (kvStoreGetSize cfg s key)
      have hread : State.readLen cfg { s with heap := grown al s.heap (kvStoreGetSize cfg s key) } key =
          s.readLen cfg key := by
        unfold State.readLen
        rw [hcur₁]
      have hlen : (slice (al.junk s.heap.next) 0 (kvStoreGetSize cfg s key)).length =
          kvStoreGetSize cfg s key := slice_length ..
      have hne : slice (al.junk s.heap.next) 0 (kvStoreGetSize cfg s key) ≠ [] :=
        List.length_pos_iff.1 (by omega)
      by_cases hm : Matches cfg key ty
      · obtain ⟨b, hget, hb, hval⟩ := kvStoreGet_any hs₁ hm hx
          (slice (al.junk s.heap.next) 0 (kvStoreGetSize cfg s key))
        rw [hread] at hget
        have hbne : b ≠ [] := List.length_pos_iff.1 (by omega)
        obtain ⟨h, hr, hmem⟩ := getHeap_granted getter hsize hal (hgot _ _ _ _ hget hne hb)
          (by rw [hfin b hbne, hb, hlen])
        refine ⟨_, hr, ?_⟩
        split
        · exact .unread h hsize hal (.inr (by omega))
        · rename_i hcount
          refine .got h _ b hsize hal hm (by omega) (hmem hcount) (hb.trans hlen) fun ty' v hcur => ?_
          have hv := size_of_current hs hm.1 hcur
          rw [hval ty' v ((hcur₁ key).trans hcur), List.take_of_length_le (by omega), blit_zero,
            List.drop_of_length_le (by omega), List.append_nil]
      · obtain ⟨h, hr, -⟩ := getHeap_granted getter hsize hal (hrefused _ _ hm) hlen
        exact ⟨_, hr, .unread h hsize hal (.inl hm)⟩
  · exact ⟨_, getHeap_empty (by omega), .empty _ (by omega)⟩

/-- There is no block to fill; or it is granted, and the key is no blob, or no value that is read is
shorter than the block. -/
def BlobFits (al : Allocator) (cfg : Config) (s : State) (key : Nat) : Prop :=
  kvStoreGetSize cfg s key = 0 ∨
    (al.avail s.heap.next (kvStoreGetSize cfg s key) = true ∧
      (Matches cfg key kvTypeBlob → s.readLen cfg key = 0 ∨ kvStoreGetSize cfg s key ≤ s.readLen cfg key))

/-- A block is granted and filled with a string that is not empty and not shorter; or a block of one byte
is refused. -/
def StringHeapFits (al : Allocator) (cfg : Config) (s : State) (key : Nat) : Prop :=
  (0 < kvStoreGetSize cfg s key ∧ al.avail s.heap.next (kvStoreGetSize cfg s key) = true ∧
    Matches cfg key kvTypeString ∧ 1 < s.readLen cfg key ∧
    kvStoreGetSize cfg s key ≤ s.readLen cfg key + 1) ∨
  (al.avail s.heap.next (kvStoreGetSize cfg s key) = false ∧ kvStoreGetSize cfg s key = 1)

theorem getHeapLaw_none {nul x : Nat} {h : Heap} :
    GetHeapLaw cfg s key nul (some ⟨none, x, h⟩) ↔ x = 0 := by
  constructor
  · rintro ⟨r, hr, hnone, -⟩
    obtain rfl := Option.some.inj hr
    exact hnone rfl
  · intro hx
    exact ⟨_, rfl, fun _ => hx, fun p hp => nomatch hp⟩

theorem getHeapLaw_some {nul x p : Nat} {h : Heap} (hmem : h.mem p = some b) :
    GetHeapLaw cfg s key nul (some ⟨some p, x, h⟩) ↔
      x = min (b.length - nul) (s.valueBytes cfg key nul) ∧
        ∀ ty v, s.current key = some (ty, v) → b.take x = v.take x := by
  constructor
  · rintro ⟨r, hr, -, hsome⟩
    obtain rfl := Option.some.inj hr
    obtain ⟨b', hb', h'⟩ := hsome p rfl
    obtain rfl := Option.some.inj (hmem.symm.trans hb')
    exact h'
  · intro h'
    refine ⟨_, rfl, nofun, fun q hq => ?_⟩
    obtain rfl := Option.some.inj hq
    exact ⟨b, hmem, h'⟩

/-- A block of the size that is told holds no more bytes of the value than are read. -/
theorem size_valueBytes (hs : MemOk s) (hk : key < cfg.csNumKeys) (nul : Nat) :
    kvStoreGetSize cfg s key - nul =
        min (kvStoreGetSize cfg s key - nul) (s.valueBytes cfg key nul) ↔
      kvStoreGetSize cfg s key ≤ s.readLen cfg key + nul := by
  unfold State.valueBytes State.readLen
  cases hcur : s.current key with
  | none =>
    simp only
    omega
  | some w =>
    obtain ⟨ty, v⟩ := w
    have hsize := size_of_current hs hk hcur
    simp only
    omega

theorem lessNul_pos (h : 0 < n) : lessNul n = n - 1 := if_neg (by omega)

theorem lessNul_zero : lessNul 0 ≠ 0 := by decide

theorem getBlobHeap_law_iff (hs : MemOk s) (hx : s.xKvMutex = true) :
    GetHeapLaw cfg s key 0 (kvStoreGetBlobHeap al cfg s key) ↔ BlobFits al cfg s key := by
  obtain ⟨r, hr, ho⟩ := @getHeap_outcome al cfg s key kvTypeBlob
    (fun s b => kvStoreGetBlob cfg s key (some b)) hs hx 0 id (fun _ _ => rfl)
    (fun s n buf b h _ _ => kvStoreGetBlob_of h) (fun s buf hm => kvStoreGetBlob_refused hm)
  rw [show kvStoreGetBlobHeap al cfg s key = some r from hr]
  unfold BlobFits
  cases ho with
  | empty h hsize => exact iff_of_true (getHeapLaw_none.2 rfl) (.inl hsize)
  | refused h hsize hal =>
    rw [getHeapLaw_none, hal]
    refine or_iff_left_iff_imp.2 ?_ |>.symm
    rintro ⟨hno, -⟩
    cases hno
  | unread h hsize hal hno =>
    refine iff_of_true (getHeapLaw_none.2 rfl) (.inr ⟨hal, fun hm => .inl ?_⟩)
    have := hno.resolve_left (not_not.2 hm)
    omega
  | got h p b hsize hal hm hlen hmem hb hval =>
    have hfits := size_valueBytes hs hm.1 0
    rw [Nat.sub_zero] at hfits
    rw [getHeapLaw_some hmem, id, hb, Nat.sub_zero, hfits]
    constructor
    · rintro ⟨hle, -⟩
      exact .inr ⟨hal, fun _ => .inr hle⟩
    · rintro (hzero | ⟨-, hle⟩)
      · omega
      · refine ⟨(hle hm).resolve_left (by omega), fun ty v hcur => ?_⟩
        rw [hval ty v hcur]

theorem getStringHeap_law_iff (hs : MemOk s) (hx : s.xKvMutex = true) :
    GetHeapLaw cfg s key 1 (kvStoreGetStringHeap al cfg s key) ↔ StringHeapFits al cfg s key := by
  have hfin : ∀ b : List UInt8, b ≠ [] → (blit b (b.length - 1) [0]).length = b.length := by
    intro b hb
    have hpos := List.length_pos_iff.2 hb
    exact blit_length (by rw [List.length_singleton]; omega)
  obtain ⟨r, hr, ho⟩ := @getHeap_outcome al cfg s key kvTypeString
    (fun s b => kvStoreGetString cfg s key (some b)) hs hx 1 (fun b => blit b (b.length - 1) [0]) hfin
    (fun s n buf b h hne hb => by rw [hb]; exact kvStoreGetString_of h hne)
    (fun s buf hm => kvStoreGetString_refused hm)
  rw [show kvStoreGetStringHeap al cfg s key = some { r with pxLength := lessNul r.pxLength } by
    simp only [kvStoreGetStringHeap, hr]]
  unfold StringHeapFits
  cases ho with
  | empty h hsize =>
    refine iff_of_false (fun h => lessNul_zero (getHeapLaw_none.1 h)) ?_
    omega
  | refused h hsize hal =>
    rw [getHeapLaw_none, hal]
    simp only [lessNul_pos hsize]
    constructor
    · intro h
      exact .inr ⟨trivial, by omega⟩
    · rintro (⟨-, hno, -⟩ | ⟨-, h⟩)
      · cases hno
      · omega
  | unread h hsize hal hno =>
    refine iff_of_false (fun h => lessNul_zero (getHeapLaw_none.1 h)) ?_
    rintro (⟨-, -, hm, hlen, -⟩ | ⟨hrefused, -⟩)
    · have := hno.resolve_left (not_not.2 hm)
      omega
    · rw [hal] at hrefused
      cases hrefused
  | got h p b hsize hal hm hlen hmem hb hval =>
    have hbne : b ≠ [] := List.length_pos_iff.1 (by omega)
    simp only [lessNul_pos hsize]
    rw [getHeapLaw_some hmem, hfin b hbne, hb, size_valueBytes hs hm.1 1]
    constructor
    · rintro ⟨hle, -⟩
      exact .inl ⟨hsize, hal, hm, hlen, hle⟩
    · rintro (⟨-, -, -, -, hle⟩ | ⟨hrefused, -⟩)
      · refine ⟨hle, fun ty v hcur => ?_⟩
        -- the terminator is behind the bytes that are counted
        have hcut := @take_blit b [0] (kvStoreGetSize cfg s key - 1) 0 (by omega) (Nat.zero_le _)
        rw [hb, Nat.add_zero] at *
        rw [hcut, List.take_zero, List.append_nil, hval ty v hcur]
      · rw [hal] at hrefused
        cases hrefused

/-- `KVStore_getString` keeps to the buffer and terminates what it leaves; the getters into the heap say
how long the value in their block is, and 0 when there is none. -/
structure GettersLaw (al : Allocator) (cfg : Config) (s : State) (key : Nat) (buf : List UInt8) :
    Prop where
  getString : GetStringLaw cfg s key buf
  getStringHeap : GetHeapLaw cfg s key 1 (kvStoreGetStringHeap al cfg s key)
  getBlobHeap : GetHeapLaw cfg s key 0 (kvStoreGetBlobHeap al cfg s key)

/-- **The getters of strings and blobs**, after any run with any allocator: their law holds exactly when
the caller's buffer is fit for the string, and a block that is granted for it. -/
theorem getters_law_iff {its : Its} (hits : ∀ k < cfg.csNumKeys, NvOk its k) {tr : List Event}
    (h : Exec (kvStore al cfg) (.boot its) tr s) (hx : s.xKvMutex = true) (key : Nat)
    (buf : List UInt8) : GettersLaw al cfg s key buf ↔
      StringFits cfg s key buf ∧ StringHeapFits al cfg s key ∧ BlobFits al cfg s key := by
  have hs := (Exec.storeOk_any hits h).mem
  constructor
  · rintro ⟨hstr, hheap, hblob⟩
    exact ⟨(getString_law_iff hs hx).1 hstr, (getStringHeap_law_iff hs hx).1 hheap,
      (getBlobHeap_law_iff hs hx).1 hblob⟩
  · rintro ⟨hstr, hheap, hblob⟩
    exact ⟨(getString_law_iff hs hx).2 hstr, (getStringHeap_law_iff hs hx).2 hheap,
      (getBlobHeap_law_iff hs hx).2 hblob⟩

theorem empty_noNul : (0 : UInt8) ∉ [] := List.not_mem_nil

theorem empty_fits : sizeofKVStoreHeader + (([] : List UInt8).length + 1) < sizeMax := by decide

/-- One string key, empty by default. -/
def nameTable : Config := oneString ⟨[], empty_noNul, empty_fits⟩

/-- One blob key, of eight bytes by default. -/
def blobTable : Config := ⟨1, fun _ => ⟨kvTypeBlob, 8, 0x20000400, fun _ => 7⟩⟩

theorem getters_law_name : ∃ tr s, Exec (kvStore .granting nameTable) (.boot fun _ => none) tr s ∧
    tr.map (·.inp.write?) = [none, some (0, kvTypeString, [97, 98, 0])] ∧
    GettersLaw .granting nameTable s 0 [1, 2] := by
  have h0 : Exec (kvStore .granting nameTable) (.boot fun _ => none) [] (.boot fun _ => none) := .nil
  have h1 := h0.snoc (i := .init) rfl
  have h2 := h1.snoc (i := .setString 0 (some ⟨[97, 98], by decide, by decide⟩)) rfl
  refine ⟨_, _, h2, rfl, (getters_law_iff (fun k _ data hd => by cases hd) h2 rfl 0 [1, 2]).2
    ⟨fun _ => ⟨by decide, fun ty v hcur => ?_⟩, .inl ⟨by decide, rfl, ⟨by decide, rfl⟩, ?_, ?_⟩,
      .inr ⟨rfl, fun hm => absurd hm.2 (by decide)⟩⟩⟩
  · obtain ⟨-, rfl⟩ := Prod.mk.inj (Option.some.inj hcur)
    exact .inl (by decide)
  · decide
  · decide

/-- A buffer of size 0 is written before its start; an empty string has no block and the length
2^32 - 1; a blob whose block is refused keeps its length. -/
theorem getters_missed :
    (∃ tr s, Exec (kvStore .granting nameTable) (.boot fun _ => none) tr s ∧
      tr.map (·.inp.write?) = [none, some (0, kvTypeString, [0])] ∧
      kvStoreGetString nameTable s 0 (some []) = none ∧
      (kvStoreGetStringHeap .granting nameTable s 0).map (fun r => (r.ret, r.pxLength)) =
        some (none, 2 ^ 32 - 1) ∧
      ∀ buf, ¬GettersLaw .granting nameTable s 0 buf) ∧
    ∃ tr s, Exec (kvStore ⟨fun _ _ => false, fun _ _ => 0⟩ blobTable) (.boot fun _ => none) tr s ∧
      (kvStoreGetBlobHeap ⟨fun _ _ => false, fun _ _ => 0⟩ blobTable s 0).map
        (fun r => (r.ret, r.pxLength)) = some (none, 8) ∧
      ∀ buf, ¬GettersLaw ⟨fun _ _ => false, fun _ _ => 0⟩ blobTable s 0 buf := by
  refine ⟨?_, ?_⟩
  · have h0 : Exec (kvStore .granting nameTable) (.boot fun _ => none) [] (.boot fun _ => none) := .nil
    have h1 := h0.snoc (i := .init) rfl
    have h2 := h1.snoc (i := .setString 0 (some ⟨[], by decide, by decide⟩)) rfl
    refine ⟨_, _, h2, rfl, by decide, by decide, fun buf law => ?_⟩
    obtain ⟨r, hr, hnone, -⟩ := law.getStringHeap
    obtain rfl := Option.some.inj hr
    exact absurd (hnone rfl) (by decide)
  · have h0 : Exec (kvStore ⟨fun _ _ => false, fun _ _ => 0⟩ blobTable) (.boot fun _ => none) []
        (.boot fun _ => none) := .nil
    have h1 := h0.snoc (i := .init) rfl
    refine ⟨_, _, h1, by decide, fun buf law => ?_⟩
    obtain ⟨r, hr, hnone, -⟩ := law.getBlobHeap
    obtain rfl := Option.some.inj hr
    exact absurd (hnone rfl) (by decide)

end KvStore
