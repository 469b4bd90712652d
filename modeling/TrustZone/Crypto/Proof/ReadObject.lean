import TrustZone.Crypto.ReadObject
import TrustZone.Crypto.Proof.PkiObject

/-!
# Who owns the block of an object

A reader gives its block to the caller or back to the heap, but for the two of the storages, which keep it
when the storage fails after the allocation.

* `Filled`: the heap with the object in a block that was not there before.
* `crypto_handled`, `storage_handled_iff`: the outcomes of each reader.
* `read_object_iff`: the calls that lose no block.
* `readStorage_agrees`: with calls that do not fail, the object is the one that `readObject` gives.
-/

namespace Crypto

open Lib Psa

variable {env : ObjectEnv} {al : Allocator} {h h' : Heap} {out : ReadOut} {id n p : Nat}
  {s : Nat → Option (List UInt8)} {data : List UInt8} {stored : Option (List UInt8)} {calls : StorageCalls}

/-! ## The block -/

/-- The heap is as before, but for a new block that begins with the object. -/
structure Filled (h : Heap) (p : Nat) (data : List UInt8) (h' : Heap) : Prop where
  fresh : h.mem p = none
  block : ∃ rest, h'.mem = Function.update h.mem p (some (data ++ rest))

theorem mbedtlsCalloc_refused (hn : al.avail h.next n = false) :
    mbedtlsCalloc al h n = (none, ⟨h.next + 1, h.mem⟩) := by
  unfold mbedtlsCalloc
  rw [Heap.malloc_refused h hn]

theorem mbedtlsCalloc_granted (hn : al.avail h.next n = true) : mbedtlsCalloc al h n =
    (some h.next, ⟨h.next + 1, Function.update h.mem h.next (some (List.replicate n 0))⟩) := by
  unfold mbedtlsCalloc
  simp only [Heap.malloc, hn, if_true, Function.update_idem]

/-- What is read goes to the start of the block. -/
theorem calloc_write (hw : h.Wf) (hlen : data.length ≤ n) : ∃ h',
    Heap.write ⟨h.next + 1, Function.update h.mem h.next (some (List.replicate n 0))⟩ h.next data = some h' ∧
      Filled h h.next data h' := by
  refine ⟨_, Heap.write_eq (Function.update_self ..) (by rwa [List.length_replicate]), hw _ (le_refl _),
    (List.replicate n 0).drop data.length, ?_⟩
  rw [Function.update_idem, blit_zero]

theorem Filled.live (hf : Filled h p data h') : h'.mem p ≠ none := by
  obtain ⟨rest, hmem⟩ := hf.block
  rw [hmem, Function.update_self]
  exact Option.some_ne_none _

theorem Filled.free (hf : Filled h p data h') : ∃ h'', h'.free p = some h'' ∧ h''.mem = h.mem := by
  obtain ⟨rest, hmem⟩ := hf.block
  refine ⟨_, Heap.free_eq (by rw [hmem, Function.update_self]), ?_⟩
  show Function.update h'.mem p none = h.mem
  rw [hmem, Function.update_idem, Function.update_eq_self_iff, hf.fresh]

/-! ## The readers -/

/-- A failure leaves the outputs and the blocks as they were; a success leaves the caller a new block with
the whole object, and its length. -/
structure Handled (stored : Option (List UInt8)) (out : ReadOut) (h : Heap) (r : Int × ReadOut × Heap) :
    Prop where
  failure : r.1 ≠ 0 → r.2.1 = out ∧ r.2.2.mem = h.mem
  success : r.1 = 0 → ∃ data p, stored = some data ∧ Filled h p data r.2.2 ∧
    r.2.1 = out.put p data.length ∧ out.ppucObject ≠ none

theorem Handled.failed {ret : Int} (hret : ret ≠ 0) (hmem : h'.mem = h.mem) :
    Handled stored out h (ret, out, h') :=
  ⟨fun _ => ⟨rfl, hmem⟩, fun hz => absurd hz hret⟩

theorem Handled.done (hstored : stored = some data) (hf : Filled h p data h')
    (hout : out.ppucObject ≠ none) : Handled stored out h (0, out.put p data.length, h') :=
  ⟨fun hne => absurd rfl hne, fun _ => ⟨data, p, hstored, hf, rfl, hout⟩⟩

/-- The storage service does what it is documented to do: the size is that of the object, a read of the
whole gives the object, and no read gives more than asked for. -/
structure StorageCalls.Documented (calls : StorageCalls) (store : Nat → Option (List UInt8)) : Prop where
  getInfo : ∀ uid, (calls.getInfo uid).1 = psaSuccess →
    ∃ data, store uid = some data ∧ (calls.getInfo uid).2 = data.length
  get : ∀ uid data, store uid = some data → (calls.get uid 0 data.length).1 = psaSuccess →
    (calls.get uid 0 data.length).2 = data
  bounded : ∀ uid offset size, (calls.get uid offset size).2.length ≤ size

/-- The services do what they are documented to do; an export gives the whole key. -/
structure ObjectEnv.Documented (env : ObjectEnv) (store : ObjectReader → Nat → Option (List UInt8)) :
    Prop where
  exportKey : ∀ id size, (env.exportKey id size).1 = psaSuccess →
    store .psaCrypto id = some (env.exportKey id size).2
  bounded : ∀ id size, (env.exportKey id size).2.length ≤ size
  its : env.its.Documented (store .psaIts)
  ps : env.ps.Documented (store .psaPs)

variable {store : ObjectReader → Nat → Option (List UInt8)} {r : Int × ReadOut × Heap}

/-- `xReadObjectFromPSACrypto` handles its block in every outcome. -/
theorem crypto_handled (hw : h.Wf) (henv : env.Documented store)
    (hr : xReadObjectFromPSACryptoOnHeap env al h out id = some r) :
    Handled (store .psaCrypto id) out h r := by
  unfold xReadObjectFromPSACryptoOnHeap at hr
  split at hr
  swap
  · cases hr
  split at hr
  · obtain rfl := Option.some.inj hr
    exact .failed (by decide) rfl
  rename_i hout
  dsimp only at hr
  split at hr
  · obtain rfl := Option.some.inj hr
    exact .failed ‹_› rfl
  split at hr
  · obtain rfl := Option.some.inj hr
    exact .failed (by decide) rfl
  generalize ((env.getKeyAttributes id).2.bits.toNat + 7) / 8 = uxBufferLen at hr
  cases hal : al.avail h.next uxBufferLen with
  | false =>
    rw [mbedtlsCalloc_refused hal] at hr
    obtain rfl := Option.some.inj hr
    exact .failed (by decide) rfl
  | true =>
    obtain ⟨h₁, hwrite, hf⟩ := calloc_write hw (henv.bounded id uxBufferLen)
    rw [mbedtlsCalloc_granted hal] at hr
    dsimp only at hr
    rw [hwrite] at hr
    dsimp only at hr
    split at hr
    · split at hr
      · obtain rfl := Option.some.inj hr
        exact .done (henv.exportKey id _ ‹_›) hf fun hn => hout (.inl hn)
      · cases hr
    · obtain ⟨h₂, hfree, hmem⟩ := hf.free
      rw [hfree] at hr
      obtain rfl := Option.some.inj hr
      exact .failed ‹_› hmem

/-- The call gets a block. -/
structure Granted (calls : StorageCalls) (al : Allocator) (h : Heap) (out : ReadOut) (id : Nat) : Prop where
  uid : 0 < id
  pointer : out.ppucObject ≠ none
  info : (calls.getInfo id).1 = psaSuccess
  block : al.avail h.next (calls.getInfo id).2

/-- A call without a block fails and leaves everything as it was. -/
theorem storage_refused (hno : ¬Granted calls al h out id) (hr : readStorage calls al h out id = some r) :
    Handled stored out h r := by
  unfold readStorage at hr
  split at hr
  swap
  · cases hr
  split at hr
  · obtain rfl := Option.some.inj hr
    exact .failed (translate_error (by decide)).1 rfl
  dsimp only at hr
  split at hr
  · obtain rfl := Option.some.inj hr
    exact .failed (translate_error ‹_›).1 rfl
  rename_i hid hout hinfo
  have hal : al.avail h.next (calls.getInfo id).2 = false := by
    by_contra hal
    exact hno ⟨hid, hout, not_not.1 hinfo, Bool.eq_true_of_not_eq_false hal⟩
  rw [mbedtlsCalloc_refused hal] at hr
  obtain rfl := Option.some.inj hr
  exact .failed (translate_error (by decide)).1 rfl

/-- A call with a block, whose bytes the storage fills. -/
theorem storage_granted (hw : h.Wf) (hg : Granted calls al h out id)
    (hlen : (calls.get id 0 (calls.getInfo id).2).2.length ≤ (calls.getInfo id).2) :
    ∃ h', Filled h h.next (calls.get id 0 (calls.getInfo id).2).2 h' ∧
      readStorage calls al h out id =
        if (calls.get id 0 (calls.getInfo id).2).1 = psaSuccess then
          some (0, out.put h.next (calls.get id 0 (calls.getInfo id).2).2.length, h')
        else some (mbedtlsPsaErrTranslatePk (calls.get id 0 (calls.getInfo id).2).1, out, h') := by
  obtain ⟨h', hwrite, hf⟩ := calloc_write hw hlen
  refine ⟨h', hf, ?_⟩
  unfold readStorage
  rw [if_pos hg.uid, if_neg hg.pointer]
  dsimp only
  rw [if_neg (not_not.2 hg.info), mbedtlsCalloc_granted hg.block]
  dsimp only
  rw [hwrite]
  rfl

/-- The storage does not fail once there is a block. -/
def GetOk (calls : StorageCalls) (al : Allocator) (h : Heap) (out : ReadOut) (id : Nat) : Prop :=
  Granted calls al h out id → (calls.get id 0 (calls.getInfo id).2).1 = psaSuccess

theorem storage_handled_iff (hw : h.Wf) (hcalls : calls.Documented s) :
    (∀ r, readStorage calls al h out id = some r → Handled (s id) out h r) ↔ GetOk calls al h out id := by
  by_cases hg : Granted calls al h out id
  · obtain ⟨h', hf, hrun⟩ := storage_granted hw hg (hcalls.bounded ..)
    obtain ⟨data, hstored, hsize⟩ := hcalls.getInfo id hg.info
    rw [hrun]
    by_cases hget : (calls.get id 0 (calls.getInfo id).2).1 = psaSuccess
    · refine iff_of_true (fun r hr => ?_) fun _ => hget
      rw [if_pos hget] at hr
      obtain rfl := Option.some.inj hr
      have hdata : (calls.get id 0 (calls.getInfo id).2).2 = data := by
        rw [hsize] at hget ⊢
        exact hcalls.get id data hstored hget
      rw [hdata] at hf ⊢
      exact .done hstored hf hg.pointer
    · refine iff_of_false (fun hall => ?_) fun hok => hget (hok hg)
      rw [if_neg hget] at hall
      -- the block is still there
      have hmem := ((hall _ rfl).failure (translate_error hget).1).2
      exact hf.live ((congrFun hmem h.next).trans hf.fresh)
  · exact iff_of_true (fun r hr => storage_refused hg hr) fun hok => absurd hok hg

/-- No storage fails once there is a block. -/
def ObjectReader.Ok (env : ObjectEnv) (al : Allocator) (h : Heap) (out : ReadOut) (id : Nat) :
    ObjectReader → Prop
  | psaCrypto => True
  | psaIts => GetOk env.its al h out id
  | psaPs => GetOk env.ps al h out id

/-- **The block of an object**: a call of a reader leaves the outputs and the blocks as they were when it
fails, and gives the caller a block with the whole object when it succeeds, exactly when the storage, if it
is one that is read, does not fail after the allocation. -/
theorem read_object_iff (reader : ObjectReader) (hw : h.Wf) (henv : env.Documented store) :
    (∀ r, reader.run env al h out id = some r → Handled (store reader id) out h r) ↔
      reader.Ok env al h out id := by
  cases reader with
  | psaCrypto => exact iff_of_true (fun r hr => crypto_handled hw henv hr) trivial
  | psaIts => exact storage_handled_iff hw henv.its
  | psaPs => exact storage_handled_iff hw henv.ps

/-! ## With stores -/

/-- A storage whose calls do not fail. -/
def storeCalls (store : Nat → Option (List UInt8)) : StorageCalls where
  getInfo uid :=
    match store uid with
    | none => (psaErrorDoesNotExist, 0)
    | some data => (psaSuccess, data.length)
  get uid offset size :=
    match store uid with
    | none => (psaErrorDoesNotExist, [])
    | some data => (psaSuccess, (data.drop offset).take size)

theorem storeCalls_getInfo {uid : Nat} (hs : s uid = some data) :
    (storeCalls s).getInfo uid = (psaSuccess, data.length) := by
  simp only [storeCalls, hs]

theorem storeCalls_get {uid : Nat} (hs : s uid = some data) :
    (storeCalls s).get uid 0 data.length = (psaSuccess, data) := by
  simp only [storeCalls, hs, List.drop_zero, List.take_length]

theorem storeCalls_missing {uid : Nat} (hs : s uid = none) :
    (storeCalls s).getInfo uid = (psaErrorDoesNotExist, 0) := by
  simp only [storeCalls, hs]

theorem storeCalls_documented (s : Nat → Option (List UInt8)) : (storeCalls s).Documented s where
  getInfo uid hok := by
    cases hs : s uid with
    | none =>
      rw [storeCalls_missing hs] at hok
      exact absurd hok (by decide)
    | some data =>
      rw [storeCalls_getInfo hs]
      exact ⟨data, rfl, rfl⟩
  get uid data hs _ := by rw [storeCalls_get hs]
  bounded uid offset size := by
    unfold storeCalls
    cases hs : s uid with
    | none =>
      simp only [hs]
      exact Nat.zero_le _
    | some data =>
      simp only [hs]
      exact List.length_take_le ..

/-- What the caller finds at its pointer, of the length that it is told. -/
def ReadOut.object (out : ReadOut) (h : Heap) : Option (List UInt8) :=
  out.ppucObject.bind fun p => (p.bind h.mem).map (List.take (out.puxObjectLen.getD 0))

theorem Filled.object (hf : Filled h p data h') (len : Nat) :
    (ReadOut.put ⟨some none, some len⟩ p data.length).object h' = some data := by
  obtain ⟨rest, hmem⟩ := hf.block
  show (h'.mem p).map (List.take data.length) = some data
  rw [hmem, Function.update_self, Option.map_some, List.take_left' rfl]

/-- The object is the one that the model without a heap gives. -/
theorem readStorage_agrees (link : PkiLink) (s : Nat → Option (List UInt8)) (hw : h.Wf)
    (hcalloc : link.pki.calloc = al.avail h.next) (len : Nat) :
    (readStorage (storeCalls s) al h ⟨some none, some len⟩ id).map (fun r => (r.1, r.2.1.object r.2.2)) =
      readObject link s id := by
  unfold readObject
  by_cases hid : 0 < id
  · rw [if_pos hid, hcalloc]
    cases hs : s id with
    | none =>
      unfold readStorage
      rw [if_pos hid, if_neg nofun, storeCalls_missing hs]
      rfl
    | some data =>
      dsimp only
      by_cases hal : al.avail h.next data.length = true
      · have hg : Granted (storeCalls s) al h ⟨some none, some len⟩ id :=
          ⟨hid, nofun, by rw [storeCalls_getInfo hs], by rw [storeCalls_getInfo hs, hal]⟩
        obtain ⟨h', hf, hrun⟩ := storage_granted hw hg ((storeCalls_documented s).bounded ..)
        rw [hrun, if_pos hal]
        rw [storeCalls_getInfo hs, storeCalls_get hs] at hf ⊢
        rw [if_pos rfl, Option.map_some, hf.object]
        rfl
      · unfold readStorage
        rw [if_pos hid, if_neg nofun, storeCalls_getInfo hs, if_neg hal]
        simp only [ne_eq, not_true_eq_false, if_false,
          mbedtlsCalloc_refused (Bool.eq_false_of_not_eq_true hal)]
        rfl
  · unfold readStorage
    rw [if_neg hid, if_neg hid]
    rfl

/-! ## Examples -/

/-- Stores that hold one object of three bytes under the number 5, where the read of protected storage
answers with a status. -/
def oneObject (xStatus : Status) : ObjectEnv where
  getKeyAttributes _ := (psaErrorInvalidHandle, ⟨0, 0⟩)
  exportKey _ _ := (psaErrorInvalidHandle, [])
  its := storeCalls fun _ => none
  ps := { storeCalls fun uid => if uid = 5 then some [1, 2, 3] else none with
    get := fun uid offset size =>
      if xStatus = psaSuccess then
        (storeCalls fun uid => if uid = 5 then some [1, 2, 3] else none).get uid offset size
      else (xStatus, []) }

/-- What is stored there. -/
def oneStored : ObjectReader → Nat → Option (List UInt8)
  | .psaPs => fun uid => if uid = 5 then some [1, 2, 3] else none
  | _ => fun _ => none

theorem oneObject_documented (xStatus : Status) : (oneObject xStatus).Documented oneStored where
  exportKey id size hok := absurd hok (show psaErrorInvalidHandle ≠ psaSuccess by decide)
  bounded _ _ := Nat.zero_le _
  its := storeCalls_documented fun _ => none
  ps := by
    have hdoc := storeCalls_documented (oneStored .psaPs)
    refine ⟨hdoc.getInfo, fun uid data hs hok => ?_, fun uid offset size => ?_⟩
    · by_cases hst : xStatus = psaSuccess
      · simp only [oneObject, if_pos hst] at hok ⊢
        exact hdoc.get uid data hs hok
      · simp only [oneObject, if_neg hst] at hok
        exact absurd hok hst
    · by_cases hst : xStatus = psaSuccess
      · simp only [oneObject, if_pos hst]
        exact hdoc.bounded uid offset size
      · simp only [oneObject, if_neg hst]
        exact Nat.zero_le _

theorem read_object_kept :
    (∀ r, ObjectReader.run (oneObject psaSuccess) .granting .empty ⟨some none, some 0⟩ 5 .psaPs = some r →
      Handled (oneStored .psaPs 5) ⟨some none, some 0⟩ .empty r) ↔
    ObjectReader.Ok (oneObject psaSuccess) .granting .empty ⟨some none, some 0⟩ 5 .psaPs :=
  read_object_iff .psaPs Heap.wf_empty (oneObject_documented _)

/-- When the read of a stored object fails, the call returns an error and its block stays allocated. -/
theorem read_object_missed :
    ∃ r, ObjectReader.run (oneObject psaErrorStorageFailure) .granting .empty ⟨some none, some 0⟩ 5 .psaPs =
        some r ∧ r.1 ≠ 0 ∧ r.2.2.mem 0 = some [0, 0, 0] ∧
      ¬Handled (oneStored .psaPs 5) ⟨some none, some 0⟩ .empty r := by
  refine ⟨_, rfl, by decide, rfl, fun hh => ?_⟩
  have hmem := (hh.failure (by decide)).2
  exact absurd (congrFun hmem 0) (by decide)

end Crypto
