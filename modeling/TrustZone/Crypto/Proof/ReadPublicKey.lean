import TrustZone.Crypto.ReadPublicKey
import TrustZone.Crypto.Proof.GenerateKeyPair

/-!
# The bounds of reading a public key from PSA

* `Keeps.bind`: what two steps keep, their sequence keeps.
* `read_keeps`: after an export that left a byte free, every access of the steps is inside the buffer.
* `read_clean`: an error leaves no block and no output.
* `read_bounds_iff`: the calls that stay in the buffer.
* `read_agrees`: on these, the record changes nothing of what the function returns.
-/

namespace Crypto

open Lib Psa

/-! ## Accesses -/

/-- Every byte that is written is in the buffer, and the write pointer is not before it. -/
def BufEvent.Inside (size : Nat) : BufEvent → Prop
  | .write off n => ∀ i : Nat, i < n → 0 ≤ off + i ∧ off + i < size
  | .pointer off => 0 ≤ off

/-- The write pointer is in the buffer. -/
def ReadVars.Ok (size : Nat) (v : ReadVars) : Prop := 0 ≤ v.pucAsn1WritePtr ∧ v.pucAsn1WritePtr ≤ size

/-- A step stays in the buffer, and what it goes on with is fit. -/
structure Keeps {α : Type} (size : Nat) (x : ReadM α) (ok : α → Prop) : Prop where
  inside : x.run.All (BufEvent.Inside size)
  good : ∀ a, x.run.result = some (.ok a) → ok a

variable {α β : Type} {size : Nat} {ok : α → Prop} {ok' : β → Prop} {x : ReadM α} {f : α → ReadM β}
  {v : ReadVars} {e : BufEvent} {events : List BufEvent} {xStatus : Status} {a : α}

theorem inside_write {off : Int} {n : Nat} (hlo : 0 ≤ off) (hhi : off + n ≤ size) :
    (BufEvent.write off n).Inside size := by
  intro i hi
  exact ⟨by omega, by omega⟩

theorem run_bind_all (h : (x >>= f).run.All (BufEvent.Inside size)) : x.run.All (BufEvent.Inside size) :=
  ((Traced.all_bind_iff ..).1 h).1

theorem Keeps.pure (h : ok a) : Keeps size (Pure.pure a : ReadM α) ok where
  inside := Traced.all_pure _
  good b hb := by
    obtain rfl : a = b := Except.ok.inj (Option.some.inj hb)
    exact h

theorem Keeps.throw (e : Status) : Keeps size (MonadExcept.throw e : ReadM α) ok where
  inside := Traced.all_pure _
  good := nofun

theorem Keeps.bind (hx : Keeps size x ok) (hf : ∀ a, ok a → Keeps size (f a) ok') :
    Keeps size (x >>= f) ok' where
  inside := by
    refine (Traced.all_bind_iff ..).2 ⟨hx.inside, ?_⟩
    intro r hr
    cases r with
    | ok a => exact (hf a (hx.good a hr)).inside
    | error e => exact Traced.all_pure _
  good b hb := by
    rw [ExceptT.run_bind, Traced.result_bind] at hb
    obtain ⟨r, hr, hb⟩ := Option.bind_eq_some_iff.1 hb
    cases r with
    | ok a => exact (hf a (hx.good a hr)).good b hb
    | error e => cases hb

theorem Keeps.record (h : ∀ e ∈ events, e.Inside size) : Keeps size (record events) fun _ => True :=
  ⟨h, fun _ _ => trivial⟩

theorem Keeps.examine (h : ok a) : Keeps size (examine xStatus a) ok where
  inside := Traced.all_pure _
  good b hb := by
    have hp : proceed xStatus a = .ok b := Option.some.inj hb
    unfold proceed at hp
    split at hp
    · exact Except.ok.inj hp ▸ h
    · cases hp

theorem Keeps.readAssert (c : Prop) [Decidable c] : Keeps size (readAssert c) fun _ => c := by
  unfold Crypto.readAssert
  by_cases h : c
  · rw [if_pos h]
    exact ⟨Traced.all_pure _, fun _ _ => h⟩
  · rw [if_neg h]
    exact ⟨Traced.all_fail, nofun⟩

/-! ## Calls of mbedTLS -/

/-- A function that writes backwards stays in the room that it is given. -/
def RoomKept (f : List UInt8 → Nat → Nat → BackWrite) : Prop :=
  ∀ buf start p, start ≤ p → start ≤ (f buf start p).p ∧ (f buf start p).p ≤ p

/-- The functions of mbedTLS stay in their room, whether they succeed or fail. -/
structure Asn1Write.InRoom (a : Asn1Write) : Prop where
  writeLen : ∀ len, RoomKept fun buf start p => a.writeLen buf start p len
  writeTag : ∀ tag, RoomKept fun buf start p => a.writeTag buf start p tag
  writeOid : ∀ oid, RoomKept fun buf start p => a.writeOid buf start p oid
  writeAlgorithmIdentifier : ∀ oid parLen,
    RoomKept fun buf start p => a.writeAlgorithmIdentifier buf start p oid parLen

theorem writeBytes_inRoom (bytes : List UInt8) : RoomKept (writeBytes bytes) := by
  intro buf start p h
  unfold writeBytes
  split
  · exact ⟨Nat.le_sub_of_add_le ‹_›, Nat.sub_le ..⟩
  · exact ⟨h, le_refl p⟩

theorem Asn1Write.whole_inRoom : Asn1Write.whole.InRoom where
  writeLen _ := writeBytes_inRoom _
  writeTag _ := writeBytes_inRoom _
  writeOid _ := writeBytes_inRoom _
  writeAlgorithmIdentifier oid parLen buf start p h := by
    show start ≤ BackWrite.p (if _ then _ else _) ∧ BackWrite.p (if _ then _ else _) ≤ p
    by_cases hpar : parLen = 0
    · rw [if_pos hpar]
      exact writeBytes_inRoom _ buf start p h
    · rw [if_neg hpar]
      split
      · exact writeBytes_inRoom _ buf start p h
      · exact writeBytes_inRoom (algorithmHead oid parLen) buf start p h

theorem asn1Call_keeps {g : List UInt8 → Nat → Nat → BackWrite} (hg : RoomKept g) (hv : v.Ok size) :
    Keeps size (asn1Call g v) fun r => r.2.Ok size := by
  obtain ⟨hlo, hhi⟩ := hv
  have hroom := hg (List.replicate (-v.pucAsn1WritePtr).toNat 0 ++ v.buf) (-v.pucAsn1WritePtr).toNat
    (v.pucAsn1WritePtr + (-v.pucAsn1WritePtr).toNat).toNat (by omega)
  unfold asn1Call
  dsimp only
  generalize g _ _ _ = w at hroom ⊢
  refine Keeps.bind (Keeps.record ?_) fun _ _ => Keeps.pure ⟨?_, ?_⟩
  · rw [List.forall_mem_cons, List.forall_mem_singleton]
    refine ⟨inside_write ?_ ?_, ?_⟩
    · omega
    · omega
    · show (0 : Int) ≤ w.p - (-v.pucAsn1WritePtr).toNat
      omega
  · show (0 : Int) ≤ w.p - (-v.pucAsn1WritePtr).toNat
    omega
  · show (w.p : Int) - (-v.pucAsn1WritePtr).toNat ≤ size
    omega

/-! ## Steps -/

variable {env : PkiEnv} {attrs : KeyAttributes} {g : List UInt8 → Nat → Nat → BackWrite}

theorem countCall_keeps (hg : RoomKept g) (hv : v.Ok size) :
    Keeps size (countCall g v) (ReadVars.Ok size) := by
  unfold countCall
  refine Keeps.bind (asn1Call_keeps hg hv) fun r hr => ?_
  dsimp only
  split
  · exact Keeps.pure hr
  · exact Keeps.examine hr

theorem paramsCall_keeps (hasn1 : env.asn1.InRoom) (hv : v.Ok size) :
    Keeps size (paramsCall env attrs v) fun r => r.2.Ok size := by
  unfold paramsCall
  dsimp only
  split
  · split
    · exact Keeps.examine hv
    · split
      · refine Keeps.bind (asn1Call_keeps (hasn1.writeOid _) hv) fun r hr => ?_
        exact Keeps.examine hr
      · exact Keeps.examine hv
  · split
    · exact Keeps.examine hv
    · exact Keeps.examine hv

theorem algorithmCall_keeps (hasn1 : env.asn1.InRoom) (xPkType : PkType) (hv : v.Ok size) :
    Keeps size (algorithmCall env xPkType v) (ReadVars.Ok size) := by
  unfold algorithmCall
  dsimp only
  split
  · exact Keeps.examine hv
  · split
    · exact Keeps.examine hv
    · split
      · refine Keeps.bind (asn1Call_keeps (hasn1.writeAlgorithmIdentifier _ _) hv) fun r hr => ?_
        exact Keeps.examine hr
      · exact Keeps.examine hv

theorem closeCall_keeps (hasn1 : env.asn1.InRoom) (hv : v.Ok size) :
    Keeps size (closeCall env v) (ReadVars.Ok size) := by
  unfold closeCall
  refine Keeps.bind (asn1Call_keeps (hasn1.writeLen _) hv) fun r hr => ?_
  refine Keeps.bind (Keeps.readAssert _) fun _ _ => ?_
  split
  · refine Keeps.bind (asn1Call_keeps (hasn1.writeTag _) hr) fun r' hr' => ?_
    exact Keeps.examine hr'
  · exact Keeps.examine hr

theorem moveStep_keeps (hv : v.Ok size) : Keeps size (moveStep size v) (ReadVars.Ok size) := by
  unfold moveStep
  refine Keeps.bind (Keeps.readAssert _) fun _ _ => Keeps.bind (Keeps.readAssert _) fun _ _ => ?_
  split
  · refine Keeps.bind (Keeps.record ?_) fun _ _ => Keeps.pure hv
    rw [List.forall_mem_singleton]
    exact inside_write (le_refl 0) (by omega)
  · exact Keeps.pure hv

/-- The export of the key left a byte of the buffer free. -/
def LeavesByte (env : PkiEnv) (type : KeyType) (size : Nat) : Prop :=
  (exportPublic env type size).1 = psaSuccess ∧ (exportPublic env type size).2.length < size

theorem putNullByte_keeps (hlo : 1 ≤ v.pucAsn1WritePtr) (hhi : v.pucAsn1WritePtr ≤ size) :
    Keeps size (putNullByte xStatus v) (ReadVars.Ok size) := by
  unfold putNullByte
  refine Keeps.bind (Keeps.record ?_) fun _ _ => Keeps.examine ?_
  · rw [List.forall_mem_cons, List.forall_mem_singleton]
    refine ⟨?_, inside_write (by omega) (by omega)⟩
    show (0 : Int) ≤ v.pucAsn1WritePtr - 1
    omega
  · show (0 : Int) ≤ v.pucAsn1WritePtr - 1 ∧ v.pucAsn1WritePtr - 1 ≤ size
    omega

theorem moveExported_keeps {key exported : List UInt8} (hlen : key.length < size) :
    Keeps size (moveExported psaSuccess key exported size)
      fun v => 1 ≤ v.pucAsn1WritePtr ∧ v.pucAsn1WritePtr ≤ size := by
  unfold moveExported
  rw [if_pos rfl]
  refine Keeps.bind (Keeps.record ?_) fun _ _ => Keeps.pure ?_
  · rw [List.forall_mem_cons, List.forall_mem_singleton]
    refine ⟨?_, inside_write (by omega) (by omega)⟩
    show (0 : Int) ≤ size - _
    omega
  · show (1 : Int) ≤ size - _ ∧ (size : Int) - _ ≤ size
    omega

theorem exportKeyStep_keeps (h : psaExportPublicKeyOutputSize attrs.type attrs.bits.toNat + 1 ≤ size →
    LeavesByte env attrs.type size) : Keeps size (exportKeyStep env attrs size) (ReadVars.Ok size) := by
  unfold exportKeyStep
  split
  · exact Keeps.throw _
  · obtain ⟨hok, hlen⟩ := h (by omega)
    dsimp only
    rw [hok]
    refine Keeps.bind (Keeps.record ?_) fun _ _ => ?_
    · rw [List.forall_mem_cons, List.forall_mem_singleton]
      exact ⟨le_refl (0 : Int), inside_write (le_refl 0) (by omega)⟩
    · exact Keeps.bind (moveExported_keeps hlen) fun v hv => putNullByte_keeps hv.1 hv.2

/-- After an export that left a byte free, the steps stay in the buffer. -/
theorem read_keeps (hasn1 : env.asn1.InRoom)
    (h : psaExportPublicKeyOutputSize attrs.type attrs.bits.toNat + 1 ≤ size →
      LeavesByte env attrs.type size) :
    Keeps size (readSteps env attrs size) (ReadVars.Ok size) := by
  unfold readSteps
  refine Keeps.bind (exportKeyStep_keeps h) fun v hv => ?_
  refine Keeps.bind (countCall_keeps (hasn1.writeLen _) hv) fun v hv => ?_
  refine Keeps.bind (countCall_keeps (hasn1.writeTag _) hv) fun v hv => ?_
  refine Keeps.bind (paramsCall_keeps hasn1 hv) fun r hr => ?_
  refine Keeps.bind (algorithmCall_keeps hasn1 r.1 hr) fun v hv => ?_
  refine Keeps.bind (closeCall_keeps hasn1 hv) fun v hv => ?_
  exact moveStep_keeps hv

/-- The null byte is put before a pointer to the start. -/
theorem putNullByte_overruns (h : v.pucAsn1WritePtr = 0) :
    ¬(putNullByte xStatus v).run.All (BufEvent.Inside size) := by
  intro hall
  have hfirst := run_bind_all hall
  have hnull : (0 : Int) ≤ v.pucAsn1WritePtr - 1 :=
    hfirst (.pointer (v.pucAsn1WritePtr - 1)) (List.mem_cons_self ..)
  omega

theorem moveExported_start (exported : List UInt8) {key : List UInt8} (hlen : key.length ≤ size)
    (h : xStatus = psaSuccess → size ≤ key.length) :
    ∃ v, (moveExported xStatus key exported size).run.result = some (.ok v) ∧ v.pucAsn1WritePtr = 0 := by
  unfold moveExported
  by_cases hok : xStatus = psaSuccess
  · rw [if_pos hok]
    refine ⟨_, rfl, ?_⟩
    have := h hok
    show (size : Int) - key.length = 0
    omega
  · rw [if_neg hok]
    exact ⟨_, rfl, rfl⟩

/-- An export that leaves no byte free, or fails, puts the null byte before the buffer. -/
theorem export_overruns (hroom : psaExportPublicKeyOutputSize attrs.type attrs.bits.toNat + 1 ≤ size)
    (hlen : (exportPublic env attrs.type size).2.length ≤ size) (hleft : ¬LeavesByte env attrs.type size) :
    ¬(exportKeyStep env attrs size).run.All (BufEvent.Inside size) := by
  have hfull : (exportPublic env attrs.type size).1 = psaSuccess →
      size ≤ (exportPublic env attrs.type size).2.length := by
    intro hok
    by_contra hlt
    exact hleft ⟨hok, by omega⟩
  obtain ⟨v, hv, hstart⟩ := moveExported_start (blit (List.replicate size 0) 0
    (exportPublic env attrs.type size).2) hlen hfull
  intro hall
  unfold exportKeyStep at hall
  rw [if_neg (by omega)] at hall
  have hmove := ((Traced.all_bind_iff (record _).run _).1 hall).2 (Except.ok ()) rfl
  exact putNullByte_overruns hstart (((Traced.all_bind_iff ..).1 hmove).2 (.ok v) hv)

/-! ## The call -/

variable {al : Allocator} {h h' : Heap} {out : Option Nat} {len : Nat}

/-- The size of the buffer for a key. -/
def bufferSize (env : PkiEnv) : Nat := (pubKeyDerLen env env.getKeyAttributes.2.type).getD 0

/-- Every access is inside the buffer, and an error leaves no block and no output. -/
structure ReadLaw (env : PkiEnv) (al : Allocator) (h : Heap) : Prop where
  inside : (xReadPublicKeyFromPSACryptoOnHeap env al h).All (BufEvent.Inside (bufferSize env))
  clean : ∀ xStatus out len h', (xReadPublicKeyFromPSACryptoOnHeap env al h).result =
    some (xStatus, out, len, h') → xStatus ≠ psaSuccess → out = none ∧ len = 0 ∧ h'.mem = h.mem

/-- The call gets a buffer. -/
structure Allocated (env : PkiEnv) (al : Allocator) (h : Heap) (size : Nat) : Prop where
  attributes : env.getKeyAttributes.1 = psaSuccess
  length : pubKeyDerLen env env.getKeyAttributes.2.type = some size
  granted : al.avail h.next size

/-- An export that is asked for succeeds with a key that leaves a byte of the buffer free. -/
def ExportOk (env : PkiEnv) (al : Allocator) (h : Heap) : Prop :=
  ∀ size, Allocated env al h size → psaExportPublicKeyOutputSize env.getKeyAttributes.2.type
    env.getKeyAttributes.2.bits.toNat + 1 ≤ size → LeavesByte env env.getKeyAttributes.2.type size

/-- PSA exports no more than the buffer holds. -/
def PkiEnv.ExportsFit (env : PkiEnv) : Prop :=
  ∀ size, (env.exportKey size).2.length ≤ size ∧ (env.exportPublicKey size).2.length ≤ size

theorem exportPublic_fits (hexp : env.ExportsFit) (type : KeyType) (size : Nat) :
    (exportPublic env type size).2.length ≤ size := by
  unfold exportPublic
  split
  · exact (hexp size).1
  · split
    · exact (hexp size).2
    · exact Nat.zero_le _

/-- How far a call comes: it is refused before there is a block, or it runs the steps with one. -/
theorem read_cases (env : PkiEnv) (al : Allocator) (h : Heap) :
    (∃ xStatus h', (∀ size, ¬Allocated env al h size) ∧ h'.mem = h.mem ∧
      xReadPublicKeyFromPSACryptoOnHeap env al h = pure (xStatus, none, 0, h')) ∨
    ∃ size h' blk, Allocated env al h size ∧ h'.mem = Function.update h.mem h.next (some blk) ∧
      xReadPublicKeyFromPSACryptoOnHeap env al h =
        (readSteps env env.getKeyAttributes.2 size).run >>= finishRead h' h.next := by
  unfold xReadPublicKeyFromPSACryptoOnHeap
  by_cases hattrs : env.getKeyAttributes.1 = psaSuccess
  · rw [if_pos hattrs]
    cases hsize : pubKeyDerLen env env.getKeyAttributes.2.type with
    | none =>
      exact .inl ⟨_, h, fun size hal => absurd (hsize.symm.trans hal.length) nofun, rfl, rfl⟩
    | some size =>
      cases hal : al.avail h.next size with
      | false =>
        refine .inl ⟨psaErrorInsufficientMemory, ⟨h.next + 1, h.mem⟩, fun size' hal' => ?_, rfl, ?_⟩
        · obtain rfl : size = size' := Option.some.inj (hsize.symm.trans hal'.length)
          exact absurd (hal.symm.trans hal'.granted) Bool.false_ne_true
        · simp only [Heap.malloc_refused h hal]
      | true =>
        refine .inr ⟨size, (h.malloc al size).2, slice (al.junk h.next) 0 size, ⟨hattrs, hsize, hal⟩,
          ?_, ?_⟩
        · simp only [Heap.malloc, hal, if_true]
        · simp only [Heap.malloc, hal, if_true]
  · rw [if_neg hattrs]
    exact .inl ⟨_, h, fun size hal => hattrs hal.attributes, rfl, rfl⟩

theorem finishRead_all (h : Heap) (p : Nat) (r : Except Status ReadVars) :
    (finishRead h p r).All (BufEvent.Inside size) := by
  unfold finishRead
  split
  · exact Traced.all_pure _
  · split
    · exact Traced.all_pure _
    · exact Traced.all_fail

/-- An error leaves no block of the call's and no output. -/
theorem read_clean (hw : h.Wf)
    (hr : (xReadPublicKeyFromPSACryptoOnHeap env al h).result = some (xStatus, out, len, h'))
    (hne : xStatus ≠ psaSuccess) : out = none ∧ len = 0 ∧ h'.mem = h.mem := by
  rcases read_cases env al h with ⟨e, h₁, -, hmem, hrun⟩ | ⟨size, h₁, blk, -, hmem, hrun⟩
  · rw [hrun] at hr
    cases hr
    exact ⟨rfl, rfl, hmem⟩
  · rw [hrun, Traced.result_bind] at hr
    obtain ⟨r, -, hr⟩ := Option.bind_eq_some_iff.1 hr
    cases r with
    | ok v =>
      cases hr
      exact absurd rfl hne
    | error e =>
      have hlive : h₁.mem h.next = some blk := by rw [hmem, Function.update_self]
      rw [finishRead, Heap.free_eq hlive] at hr
      cases hr
      refine ⟨rfl, rfl, ?_⟩
      show Function.update h₁.mem h.next none = h.mem
      rw [hmem, Function.update_idem, Function.update_eq_self_iff, hw h.next (le_refl _)]

/-- **The bounds**: every access of a call is inside its buffer, and an error leaves nothing behind, exactly
when the export, if the call comes to it, succeeds with a key that leaves a byte of the buffer free. -/
theorem read_bounds_iff (env : PkiEnv) (al : Allocator) (h : Heap) (hw : h.Wf) (hasn1 : env.asn1.InRoom)
    (hexp : env.ExportsFit) : ReadLaw env al h ↔ ExportOk env al h := by
  constructor
  · intro law size hal hroom
    by_contra hleft
    have hall := law.inside
    rcases read_cases env al h with ⟨e, h₁, hno, -, -⟩ | ⟨size', h₁, blk, hal', -, hrun⟩
    · exact hno size hal
    · obtain rfl : size = size' := Option.some.inj (hal.length.symm.trans hal'.length)
      rw [hrun, bufferSize, hal.length] at hall
      have hsteps := ((Traced.all_bind_iff ..).1 hall).1
      exact export_overruns hroom (exportPublic_fits hexp _ _) hleft (run_bind_all hsteps)
  · intro hok
    refine ⟨?_, fun xStatus out len h' hr hne => read_clean hw hr hne⟩
    rcases read_cases env al h with ⟨e, h₁, -, -, hrun⟩ | ⟨size, h₁, blk, hal, -, hrun⟩
    · rw [hrun]
      exact Traced.all_pure _
    · rw [hrun, bufferSize, hal.length]
      exact (Traced.all_bind_iff ..).2 ⟨(read_keeps hasn1 (hok size hal)).inside,
        fun r _ => finishRead_all h₁ h.next r⟩

/-- A key of P-256 whose export answers with a status and a number of bytes. -/
def p256Env (xStatus : Status) (n : Nat) : PkiEnv where
  getKeyAttributes := (psaSuccess, ⟨eccKeyPairSecpR1, 256⟩)
  exportKey _ := (psaErrorNotPermitted, [])
  exportPublicKey size := (xStatus, List.replicate (min n size) 4)
  calloc _ := true
  asn1 := .whole
  oidByPkAlg _ := (0, some oidEcPublicKey)
  eccEnabled _ _ := true
  ecpMaxBytes := 66
  mpiMaxSize := 1024

theorem p256_exportsFit (xStatus : Status) (n : Nat) : (p256Env xStatus n).ExportsFit := by
  intro size
  refine ⟨Nat.zero_le _, ?_⟩
  show (List.replicate (min n size) (4 : UInt8)).length ≤ size
  rw [List.length_replicate]
  exact Nat.min_le_right ..

theorem read_bounds_p256 : ReadLaw (p256Env psaSuccess 65) .granting .empty ↔
    ExportOk (p256Env psaSuccess 65) .granting .empty :=
  read_bounds_iff _ _ _ Heap.wf_empty Asn1Write.whole_inRoom (p256_exportsFit _ _)

/-- When the export fails, and when the key fills the buffer, the null byte is put before the buffer. -/
theorem read_bounds_missed :
    BufEvent.write (-1) 1 ∈
        (xReadPublicKeyFromPSACryptoOnHeap (p256Env psaErrorStorageFailure 0) .granting .empty).log ∧
      ¬ReadLaw (p256Env psaErrorStorageFailure 0) .granting .empty ∧
    BufEvent.write (-1) 1 ∈
        (xReadPublicKeyFromPSACryptoOnHeap (p256Env psaSuccess 162) .granting .empty).log ∧
      ¬ReadLaw (p256Env psaSuccess 162) .granting .empty := by
  have hbefore : ∀ {size}, ¬(BufEvent.write (-1) 1).Inside size := by
    intro size hin
    have hlo := (hin 0 (Nat.zero_lt_one)).1
    omega
  have hfail : BufEvent.write (-1) 1 ∈ (xReadPublicKeyFromPSACryptoOnHeap
      (p256Env psaErrorStorageFailure 0) .granting .empty).log := by decide +kernel
  have hfull : BufEvent.write (-1) 1 ∈ (xReadPublicKeyFromPSACryptoOnHeap
      (p256Env psaSuccess 162) .granting .empty).log := by decide +kernel
  exact ⟨hfail, fun law => hbefore (law.inside _ hfail), hfull, fun law => hbefore (law.inside _ hfull)⟩

/-! ## The two models of the function -/

/-- The variables, with the pointer in the buffer. -/
def DerState.vars (s : DerState) : ReadVars := ⟨s.pucAsn1WritePtr, s.buf, s.uxObjLen, s.uxBytesWritten⟩

/-- A step does what a step without record does. -/
def Follows (x : ReadM α) (m : Option (Except Status β)) (view : β → α) : Prop :=
  x.run.result = m.map (Except.map view)

theorem Follows.bind {γ δ : Type} {m : Option (Except Status γ)} {view : γ → α}
    {m' : Option (Except Status δ)} {view' : δ → β} (hx : Follows x m view) (hnone : m = none → m' = none)
    (herr : ∀ e, m = some (.error e) → m' = some (.error e))
    (hok : ∀ c, m = some (.ok c) → Follows (f (view c)) m' view') : Follows (x >>= f) m' view' := by
  unfold Follows at hx ⊢
  rw [ExceptT.run_bind, Traced.result_bind, hx]
  rcases m with - | e | c
  · rw [hnone rfl]
    rfl
  · rw [herr e rfl]
    rfl
  · exact hok c rfl

/-- After a step that does not fail. -/
theorem Follows.andThen {γ δ : Type} {c : γ} {view : γ → α} {m : Option (Except Status δ)} {view' : δ → β}
    (hx : Follows x (some (.ok c)) view) (hf : Follows (f (view c)) m view') :
    Follows (x >>= f) m view' := by
  unfold Follows at hx ⊢
  rw [ExceptT.run_bind, Traced.result_bind, hx]
  exact hf

theorem Follows.examine {b : β} (view : β → α) :
    Follows (examine xStatus (view b)) (some (proceed xStatus b)) view := by
  unfold Follows Crypto.examine proceed
  split <;> rfl

theorem asn1Call_follows (s : DerState) :
    Follows (asn1Call g s.vars) (some (.ok (g s.buf 0 s.pucAsn1WritePtr)))
      fun w => (w.ret, { s with pucAsn1WritePtr := w.p, buf := w.buf }.vars) := by
  have hbefore : (-(s.pucAsn1WritePtr : Int)).toNat = 0 := by omega
  have hp : ((s.pucAsn1WritePtr : Int) + (0 : Nat)).toNat = s.pucAsn1WritePtr := by omega
  unfold Follows asn1Call
  simp only [DerState.vars, hbefore, hp, List.replicate_zero, List.nil_append, List.drop_zero]
  rfl

theorem countCall_follows (s : DerState) : Follows (countCall g s.vars)
    (some (countStep (g s.buf 0 s.pucAsn1WritePtr) s)) DerState.vars := by
  refine Follows.andThen (asn1Call_follows s) ?_
  unfold countStep
  dsimp only
  split
  · rfl
  · exact Follows.examine DerState.vars

theorem paramsCall_follows (s : DerState) : Follows (paramsCall env attrs s.vars)
    (some (paramsStep env attrs s)) (Prod.map id DerState.vars) := by
  have hexamine : ∀ st (t : PkType) (d : DerState),
      Follows (examine st (t, d.vars)) (some (proceed st (t, d))) (Prod.map id DerState.vars) :=
    fun st t d => Follows.examine (b := (t, d)) (Prod.map id DerState.vars)
  unfold paramsCall paramsStep
  generalize mbedtlsPsaGetEccOidFromId _ _ _ = r
  by_cases hecc : psaKeyTypeIsEcc attrs.type
  · simp only [if_pos hecc]
    obtain ⟨lRslt, - | oid⟩ := r
    · exact hexamine _ .eckey { s with uxObjLen := 0 }
    · dsimp only
      split
      · refine Follows.andThen (asn1Call_follows { s with uxObjLen := 0 }) ?_
        let w := env.asn1.writeOid s.buf 0 s.pucAsn1WritePtr oid
        exact hexamine _ .eckey
          ⟨w.p, w.buf, if 0 < w.ret then w.ret.toNat else 0, s.uxBytesWritten⟩
      · exact hexamine _ .eckey { s with uxObjLen := 0 }
  · simp only [if_neg hecc]
    split
    · exact hexamine _ .rsa { s with uxObjLen := 0 }
    · exact hexamine _ .none { s with uxObjLen := 0 }

theorem algorithmCall_follows (xPkType : PkType) (s : DerState) :
    Follows (algorithmCall env xPkType s.vars) (some (algorithmStep env xPkType s)) DerState.vars := by
  unfold algorithmCall algorithmStep
  generalize env.oidByPkAlg xPkType = r
  obtain ⟨lRslt, - | oid⟩ := r
  · exact Follows.examine DerState.vars
  · dsimp only
    split
    · exact Follows.examine DerState.vars
    · split
      · let w := env.asn1.writeAlgorithmIdentifier s.buf 0 s.pucAsn1WritePtr oid s.uxObjLen
        exact Follows.andThen (asn1Call_follows s) (Follows.examine (b := ⟨w.p, w.buf, s.uxObjLen,
          if 0 < w.ret then s.uxBytesWritten + w.ret.toNat else s.uxBytesWritten⟩) DerState.vars)
      · exact Follows.examine DerState.vars

theorem readAssert_follows {c : Prop} [Decidable c] {k : ReadM α} {m : Option (Except Status β)}
    {view : β → α} (hc : c → Follows k m view) :
    Follows (readAssert c >>= fun _ => k) (if c then m else none) view := by
  unfold Follows readAssert at *
  rw [ExceptT.run_bind, Traced.result_bind]
  by_cases h : c
  · simp only [if_pos h]
    exact hc h
  · simp only [if_neg h]
    rfl

theorem closeCall_follows (s : DerState) :
    Follows (closeCall env s.vars) (closeStep env s) DerState.vars := by
  refine Follows.andThen (asn1Call_follows s) ?_
  unfold closeStep
  dsimp only
  generalize hw : env.asn1.writeLen s.buf 0 s.pucAsn1WritePtr s.uxBytesWritten = w
  rw [show env.asn1.writeLen s.buf 0 s.pucAsn1WritePtr s.vars.uxBytesWritten = w from hw,
    ← ite_not (p := w.ret = 0)]
  refine readAssert_follows (c := w.ret ≠ 0) fun _ => ?_
  split
  · let w' := env.asn1.writeTag w.buf 0 w.p Der.tagSequence
    refine Follows.andThen (asn1Call_follows { s with pucAsn1WritePtr := w.p, buf := w.buf }) ?_
    exact Follows.examine (b := ⟨w'.p, w'.buf, s.uxObjLen, if 0 < w'.ret then
      s.uxBytesWritten + w.ret.toNat + w'.ret.toNat else s.uxBytesWritten + w.ret.toNat⟩) DerState.vars
  · exact Follows.examine (b := { s with pucAsn1WritePtr := w.p, buf := w.buf }) DerState.vars

theorem record_follows (events : List BufEvent) : Follows (record events) (some (.ok ())) id := rfl

theorem moveExported_follows {key exported : List UInt8} (hlen : key.length ≤ size) :
    Follows (moveExported psaSuccess key exported size)
      (some (.ok ⟨size - key.length, blit exported (size - key.length) key, key.length, 0⟩))
      DerState.vars := by
  have hp : (size : Int) - key.length = (size - key.length : Nat) := by omega
  unfold moveExported
  rw [if_pos rfl, hp]
  exact Follows.andThen (record_follows _) rfl

theorem putNullByte_follows {s : DerState} (hlo : 1 ≤ s.pucAsn1WritePtr) :
    Follows (putNullByte psaSuccess s.vars) (some (.ok ⟨s.pucAsn1WritePtr - 1,
      blit s.buf (s.pucAsn1WritePtr - 1) [0], s.uxObjLen + 1, s.uxObjLen + 1⟩)) DerState.vars := by
  have hp : (s.pucAsn1WritePtr : Int) - 1 = (s.pucAsn1WritePtr - 1 : Nat) := by omega
  unfold putNullByte
  refine Follows.andThen (record_follows _) ?_
  rw [show s.vars.pucAsn1WritePtr = (s.pucAsn1WritePtr : Int) from rfl, hp, if_pos (Int.natCast_nonneg _)]
  rfl

theorem exportKeyStep_follows (h : psaExportPublicKeyOutputSize attrs.type attrs.bits.toNat + 1 ≤ size →
    LeavesByte env attrs.type size) :
    Follows (exportKeyStep env attrs size) (exportStep env attrs size) DerState.vars := by
  unfold exportKeyStep exportStep
  by_cases hroom : size < psaExportPublicKeyOutputSize attrs.type attrs.bits.toNat + 1
  · rw [if_pos hroom, if_pos hroom]
    rfl
  · obtain ⟨hok, hlen⟩ := h (by omega)
    rw [if_neg hroom, if_neg hroom]
    dsimp only
    rw [if_pos hok, if_pos (by omega), hok]
    refine Follows.andThen (record_follows _) (Follows.andThen (moveExported_follows hlen.le) ?_)
    exact putNullByte_follows (by dsimp only; omega)

/-- The steps after the export, and the move. -/
def restSteps (env : PkiEnv) (attrs : KeyAttributes) (size : Nat) (s : DerState) :
    Option (Except Status DerState) :=
  (writeSteps env attrs s).bind fun
    | .error xStatus => some (.error xStatus)
    | .ok s =>
      if s.pucAsn1WritePtr < size then some (.ok { s with
        buf := blit s.buf 0 ((s.buf.drop (size - s.uxBytesWritten)).take s.uxBytesWritten) })
      else none

/-- A move of the whole buffer changes nothing. -/
theorem blit_take (buf : List UInt8) (n : Nat) : blit buf 0 (buf.take n) = buf := by
  rw [blit, List.take_zero, List.nil_append, Nat.zero_add, List.length_take]
  rcases Nat.le_total n buf.length with h | h
  · rw [Nat.min_eq_left h, List.take_append_drop]
  · rw [Nat.min_eq_right h, List.take_of_length_le h, List.drop_length, List.append_nil]

theorem moveStep_follows (s : DerState) : Follows (moveStep size s.vars)
    (if s.pucAsn1WritePtr < size then some (.ok { s with
      buf := blit s.buf 0 ((s.buf.drop (size - s.uxBytesWritten)).take s.uxBytesWritten) }) else none)
    DerState.vars := by
  have hlo : (0 : Int) ≤ s.pucAsn1WritePtr := Int.natCast_nonneg _
  have hhi : (s.vars.pucAsn1WritePtr < size) = (s.pucAsn1WritePtr < size) := propext Int.ofNat_lt
  unfold moveStep
  rw [← if_pos (c := (0 : Int) ≤ s.vars.pucAsn1WritePtr) hlo (t := ite _ _ _) (e := none)]
  refine readAssert_follows fun _ => ?_
  simp only [← hhi]
  refine readAssert_follows fun _ => ?_
  by_cases hlen : s.uxBytesWritten < size
  · rw [if_pos (show s.vars.uxBytesWritten < size from hlen)]
    exact Follows.andThen (record_follows _) rfl
  · rw [if_neg (show ¬s.vars.uxBytesWritten < size from hlen), Nat.sub_eq_zero_of_le (by omega),
      List.drop_zero, blit_take]
    rfl

theorem restSteps_follows (s : DerState) : Follows (do
      let v ← countCall (fun buf start p => env.asn1.writeLen buf start p s.uxObjLen) s.vars
      let v ← countCall (fun buf start p => env.asn1.writeTag buf start p Der.tagBitString) v
      let (xPkType, v) ← paramsCall env attrs v
      let v ← algorithmCall env xPkType v
      let v ← closeCall env v
      moveStep size v) (restSteps env attrs size s) DerState.vars := by
  unfold restSteps writeSteps
  refine Follows.bind (countCall_follows s) nofun (fun e he => ?_) fun s₁ h₁ => ?_
  · simp only [Option.some.inj he, Bind.bind, Except.bind, Option.bind]
  refine Follows.bind (countCall_follows s₁) nofun (fun e he => ?_) fun s₂ h₂ => ?_
  · simp only [Option.some.inj h₁, Option.some.inj he, Bind.bind, Except.bind, Option.bind]
  refine Follows.bind (paramsCall_follows s₂) nofun (fun e he => ?_) fun r h₃ => ?_
  · simp only [Option.some.inj h₁, Option.some.inj h₂, Option.some.inj he, Bind.bind, Except.bind,
      Option.bind]
  refine Follows.bind (algorithmCall_follows r.1 r.2) nofun (fun e he => ?_) fun s₃ h₄ => ?_
  · simp only [Option.some.inj h₁, Option.some.inj h₂, Option.some.inj h₃, Option.some.inj he, Bind.bind,
      Except.bind, Option.bind]
  have hrow : restSteps env attrs size s = (closeStep env s₃).bind fun
      | .error xStatus => some (.error xStatus)
      | .ok s =>
        if s.pucAsn1WritePtr < size then some (.ok { s with
          buf := blit s.buf 0 ((s.buf.drop (size - s.uxBytesWritten)).take s.uxBytesWritten) })
        else none := by
    unfold restSteps writeSteps
    simp only [Option.some.inj h₁, Option.some.inj h₂, Option.some.inj h₃, Option.some.inj h₄, Bind.bind,
      Except.bind]
  refine Follows.bind (closeCall_follows s₃) (fun hc => ?_) (fun e hc => ?_) fun s₄ hc => ?_
  · exact hrow.trans (by rw [hc, Option.bind_none])
  · exact hrow.trans (by rw [hc, Option.bind_some])
  · refine (show Follows _ (restSteps env attrs size s) _ from ?_)
    rw [hrow, hc, Option.bind_some]
    exact moveStep_follows s₄

/-- All steps. -/
def readRow (env : PkiEnv) (attrs : KeyAttributes) (size : Nat) : Option (Except Status DerState) :=
  (exportStep env attrs size).bind fun
    | .error xStatus => some (.error xStatus)
    | .ok s => restSteps env attrs size s

/-- The steps of the two models agree. -/
theorem readSteps_follows (h : psaExportPublicKeyOutputSize attrs.type attrs.bits.toNat + 1 ≤ size →
    LeavesByte env attrs.type size) :
    Follows (readSteps env attrs size) (readRow env attrs size) DerState.vars := by
  unfold readSteps readRow
  refine Follows.bind (exportKeyStep_follows h) (fun he => ?_) (fun e he => ?_) fun s hs => ?_
  · rw [he, Option.bind_none]
  · rw [he, Option.bind_some]
  · rw [hs, Option.bind_some]
    exact restSteps_follows s

/-- What the caller is left with: the status, what the block holds, and the length. -/
def outputs (r : Status × Option Nat × Nat × Heap) : Status × Option (List UInt8) × Nat :=
  (r.1, r.2.1.bind r.2.2.2.mem, r.2.2.1)

/-- The outputs after the steps. -/
def DerState.outputs : Except Status DerState → Status × Option (List UInt8) × Nat
  | .ok s => (psaSuccess, some s.buf, s.uxBytesWritten)
  | .error xStatus => (xStatus, none, 0)

theorem xReadPublicKey_steps (hattrs : env.getKeyAttributes = (psaSuccess, attrs))
    (hsize : pubKeyDerLen env attrs.type = some size) (hal : env.calloc size) :
    xReadPublicKeyFromPSACrypto env = (readRow env attrs size).map DerState.outputs := by
  unfold xReadPublicKeyFromPSACrypto readRow
  simp only [hattrs, hsize, hal, if_true]
  rcases exportStep env attrs size with - | e | s
  · rfl
  · rfl
  · unfold restSteps
    rw [Option.bind_some]
    dsimp only
    rcases writeSteps env attrs s with - | e | s
    · rfl
    · rfl
    · rw [Option.bind_some]
      dsimp only
      split
      · rfl
      · rfl

theorem finishRead_outputs {p : Nat} {blk : List UInt8} (hp : h.mem p = some blk)
    (r : Except Status DerState) : (finishRead h p (r.map DerState.vars)).result.map outputs = some (DerState.outputs r) := by
  cases r with
  | ok s => exact congrArg some (Prod.ext rfl (Prod.ext (Function.update_self ..) rfl))
  | error e =>
    rw [Except.map, finishRead, Heap.free_eq hp]
    rfl

/-- What a call leaves is what the function without record leaves. -/
theorem read_agrees (hok : ExportOk env al h) (hcalloc : env.calloc = al.avail h.next) :
    (xReadPublicKeyFromPSACryptoOnHeap env al h).result.map outputs = xReadPublicKeyFromPSACrypto env := by
  by_cases hst : env.getKeyAttributes.1 = psaSuccess
  · have hattrs : env.getKeyAttributes = (psaSuccess, env.getKeyAttributes.2) := Prod.ext hst rfl
    cases hsize : pubKeyDerLen env env.getKeyAttributes.2.type with
    | none =>
      unfold xReadPublicKeyFromPSACryptoOnHeap xReadPublicKeyFromPSACrypto
      rw [hattrs]
      simp only [hsize, if_true]
      rfl
    | some size =>
      cases hal : al.avail h.next size with
      | false =>
        unfold xReadPublicKeyFromPSACryptoOnHeap xReadPublicKeyFromPSACrypto
        rw [hattrs]
        simp only [hsize, hcalloc, hal, Heap.malloc_refused h hal, Bool.false_eq_true, if_true, if_false]
        rfl
      | true =>
        rw [xReadPublicKey_steps hattrs hsize (by rw [hcalloc, hal])]
        have hsteps := readSteps_follows (hok size ⟨hst, hsize, hal⟩)
        rcases read_cases env al h with ⟨e, h₁, hno, -, -⟩ | ⟨size', h₁, blk, hal', hmem, hrun⟩
        · exact absurd ⟨hst, hsize, hal⟩ (hno size)
        · obtain rfl : size = size' := Option.some.inj (hsize.symm.trans hal'.length)
          have hlive : h₁.mem h.next = some blk := by rw [hmem, Function.update_self]
          rw [hrun, Traced.result_bind, hsteps]
          cases readRow env env.getKeyAttributes.2 size with
          | none => rfl
          | some r => exact finishRead_outputs hlive r
  · unfold xReadPublicKeyFromPSACryptoOnHeap xReadPublicKeyFromPSACrypto
    rw [if_neg hst]
    simp only [if_neg hst]
    rfl

end Crypto
