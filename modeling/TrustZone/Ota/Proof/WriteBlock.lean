import Mathlib.Data.List.Nodup
import TrustZone.Ota.Proof.Invariant

/-!
# The blocks that `otaPal_WriteBlock` hands to the firmware update service

A block is cut into writes of at most `PSA_FWU_MAX_BLOCK_SIZE` bytes. What a write hands over, and what
a call is asked to write, are lists of image offsets with their bytes (`FwuCall.handed`,
`Call.asked`); an offset is a `size_t`.

* `writeLoop_spec`: the loop hands over the rest of the block, write after write, or ends at the first
  write that fails.
* `write_blocks`: what calls on the open context do, in any order and with any blocks.
-/

namespace Ota

open Psa Lib Machine

/-! ## Offsets and bytes -/

/-- The bytes of a block from `done` on, `n` of them, with their image offsets. -/
def piece (off : BitVec 32) (data : Nat → UInt8) (done n : Nat) : List (BitVec 32 × UInt8) :=
  (List.range n).map fun i => (off + BitVec.ofNat 32 (done + i), data (done + i))

@[simp] theorem piece_zero (off : BitVec 32) (data : Nat → UInt8) (done : Nat) :
    piece off data done 0 = [] := rfl

theorem piece_add (off : BitVec 32) (data : Nat → UInt8) (done n k : Nat) :
    piece off data done (n + k) = piece off data done n ++ piece off data (done + n) k := by
  simp [piece, List.range_add, Nat.add_assoc]

/-- No offset comes twice in a block. -/
theorem piece_nodup (off : BitVec 32) (data : Nat → UInt8) {done n : Nat} (h : done + n ≤ 2 ^ 32) :
    ((piece off data done n).map Prod.fst).Nodup := by
  rw [piece, List.map_map]
  apply List.nodup_range.map_on
  intro i hi j hj hij
  have hi := List.mem_range.1 hi
  have hj := List.mem_range.1 hj
  have hsum := congrArg BitVec.toNat ((BitVec.add_right_inj off).1 hij)
  rw [BitVec.toNat_ofNat, BitVec.toNat_ofNat] at hsum
  omega

/-- What `psa_fwu_write` is handed: a byte for each image offset. -/
def handed : FwuCall → List (BitVec 32 × UInt8)
  | .write _ off block => block.mapIdx fun i b => (off + BitVec.ofNat 32 i, b)
  | _ => []

/-- The number of bytes that `psa_fwu_write` is handed. -/
def blockLength : FwuCall → Nat
  | .write _ _ block => block.length
  | _ => 0

theorem handed_write (id : ImageId) (off : BitVec 32) (data : Nat → UInt8) (done n : Nat) :
    handed (.write id (off + BitVec.ofNat 32 done) (slice data done n)) =
      piece off data done n := by
  apply List.ext_getElem
  · simp [handed, piece]
  · intro i hi hi'
    simp [handed, piece, slice, BitVec.add_assoc, BitVec.ofNat_add]

/-- What a call asks for. -/
def asked : Call → List (BitVec 32 × UInt8)
  | .writeBlock _ off data size => piece off data 0 size.toNat
  | _ => []

/-- The image offsets of a call. -/
def offsets (c : Call) : List (BitVec 32) := (asked c).map Prod.fst

/-! ## One call -/

/-- The context is the open one. -/
def State.IsOpen (s : State) (p : CtxPtr) : Prop :=
  s.pal.pxSystemContext = some p ∧ s.pal.xOTAImageID ≠ tfmFwuInvalidImageId

/-- The call writes a block, of at most `INT16_MAX` bytes, with the context. -/
def WritesBlock (p : CtxPtr) (c : Call) : Prop :=
  ∃ off data size, c = .writeBlock (some p) off data size ∧ size.toNat ≤ 32767

/-- The answer of `otaPal_WriteBlock` when everything is written. -/
def blockSize : Call → Int
  | .writeBlock _ _ _ size => size.toNat
  | _ => 0

theorem ulWriteLength_le (psa : Fwu) (n : Nat) :
    ulWriteLength psa n ≤ n ∧ ulWriteLength psa n ≤ psa.psaFwuMaxBlockSize := by
  unfold ulWriteLength
  split <;> omega

/-- The `i`-th write of a call fails, and it is the last one. -/
def FailsAt (psa : Fwu) (n : Nat) (calls : List FwuCall) (i : Nat) : Prop :=
  calls.length = i + 1 ∧ psa.write (n + i) ≠ psaSuccess ∧ ∀ j < i, psa.write (n + j) = psaSuccess

theorem FailsAt.cons {psa : Fwu} {n i : Nat} {calls : List FwuCall} (h : FailsAt psa (n + 1) calls i)
    (hn : psa.write n = psaSuccess) (call : FwuCall) : FailsAt psa n (call :: calls) (i + 1) := by
  obtain ⟨hlen, hfail, hbefore⟩ := h
  refine ⟨by simp [hlen], by rwa [Nat.add_comm i, ← Nat.add_assoc], ?_⟩
  intro j hj
  cases j with
  | zero => exact hn
  | succ j =>
    rw [Nat.add_comm j, ← Nat.add_assoc]
    exact hbefore j (Nat.lt_of_succ_lt_succ hj)

/-- What the loop does from `done` on: it hands over the rest of the block, or a write fails and is the
last. -/
def Loops (psa : Fwu) (off : BitVec 32) (data : Nat → UInt8) (size done n : Nat)
    (r : Bool × Nat × List FwuCall) : Prop :=
  (r.1 = true ∧ r.2.1 = done + size ∧ r.2.2.flatMap handed = piece off data done size ∧
    ∀ i < r.2.2.length, psa.write (n + i) = psaSuccess) ∨
  r.1 = false ∧ ∃ i, FailsAt psa n r.2.2 i

theorem writeLoop_spec (psa : Fwu) (id : ImageId) (off : BitVec 32) (data : Nat → UInt8)
    (size done n : Nat) :
    Loops psa off data size done n (writeLoop psa id off data size done n) := by
  fun_induction writeLoop psa id off data size done n with
  | case1 size done n _ call hfail =>
    exact .inr ⟨rfl, 0, rfl, hfail, fun j hj => absurd hj (Nat.not_lt_zero j)⟩
  | case2 size done n _ call hok ok total calls hrec ih =>
    have hok : psa.write n = psaSuccess := Decidable.not_not.1 hok
    rw [hrec] at ih
    obtain ⟨rfl, rfl, hhanded, hall⟩ | ⟨rfl, i, hi⟩ := ih
    · have hle := (ulWriteLength_le psa size).1
      have hsize : ulWriteLength psa size + (size - ulWriteLength psa size) = size :=
        Nat.add_sub_of_le hle
      refine .inl ⟨rfl, (Nat.add_assoc ..).trans (congrArg (done + ·) hsize), ?_, ?_⟩
      · rw [List.flatMap_cons, handed_write, hhanded, ← piece_add, hsize]
      · intro i hi
        cases i with
        | zero => exact hok
        | succ i =>
          rw [Nat.add_comm i, ← Nat.add_assoc]
          exact hall i (Nat.lt_of_succ_lt_succ hi)
    · exact .inr ⟨rfl, i + 1, hi.cons hok call⟩
  | case3 size done n hpos =>
    obtain rfl : size = 0 := by omega
    exact .inl ⟨rfl, rfl, rfl, fun i hi => absurd hi (Nat.not_lt_zero i)⟩

/-- Every write has between one and `PSA_FWU_MAX_BLOCK_SIZE` bytes. -/
theorem writeLoop_lengths (psa : Fwu) (id : ImageId) (off : BitVec 32) (data : Nat → UInt8)
    (size done n : Nat) : ∀ call ∈ (writeLoop psa id off data size done n).2.2,
      1 ≤ blockLength call ∧ blockLength call ≤ psa.psaFwuMaxBlockSize := by
  have hone : ∀ size done : Nat, 0 < size →
      1 ≤ blockLength (.write id (off + BitVec.ofNat 32 done)
        (slice data done (ulWriteLength psa size))) ∧
      blockLength (.write id (off + BitVec.ofNat 32 done) (slice data done (ulWriteLength psa size))) ≤
        psa.psaFwuMaxBlockSize := by
    intro size done hpos
    rw [blockLength, slice_length]
    exact ⟨ulWriteLength_pos hpos, (ulWriteLength_le psa size).2⟩
  fun_induction writeLoop psa id off data size done n with
  | case1 size done n hpos =>
    intro call hcall
    rw [List.mem_singleton.1 hcall]
    exact hone size done hpos
  | case2 size done n hpos _ _ ok done' calls hrec ih =>
    intro call hcall
    rw [hrec] at ih
    obtain rfl | hcall := List.mem_cons.1 hcall
    · exact hone size done hpos
    · exact ih call hcall
  | case3 => simp

/-- What a call on the open context answers, and which writes it issues. -/
structure BlockReply (c : Call) (psa : Fwu) (r : Reply) : Prop where
  lengths : ∀ call ∈ r.calls, 1 ≤ blockLength call ∧ blockLength call ≤ psa.psaFwuMaxBlockSize
  written : (∀ i < r.calls.length, psa.write i = psaSuccess) →
    r.calls.flatMap handed = asked c ∧ r.ret = .int16 (blockSize c)
  failed : ∀ i < r.calls.length, psa.write i ≠ psaSuccess →
    r.ret = .int16 (-1) ∧ r.calls.length = i + 1

theorem otaPalWriteBlock_reply {s : State} {p : CtxPtr} {c : Call} (hopen : s.IsOpen p)
    (hc : WritesBlock p c) (psa : Fwu) :
    ∃ r, otaPal.step s (c, psa) = some (s, r) ∧ BlockReply c psa r := by
  obtain ⟨off, data, size, rfl, hsize⟩ := hc
  obtain ⟨ok, total, calls, hloop⟩ : ∃ ok total calls,
      writeLoop psa s.pal.xOTAImageID off data size.toNat 0 0 = (ok, total, calls) :=
    ⟨_, _, _, rfl⟩
  have hlengths := writeLoop_lengths psa s.pal.xOTAImageID off data size.toNat 0 0
  rw [hloop] at hlengths
  have hguard : ¬(some p = none ∨ some p ≠ s.pal.pxSystemContext ∨
      s.pal.xOTAImageID = tfmFwuInvalidImageId) := by simp [hopen.1, hopen.2]
  have hstep : otaPal.step s (.writeBlock (some p) off data size, psa) =
      some (if ok then (s, ⟨.int16 (BitVec.ofNat 16 total).toInt, calls⟩)
        else (s, ⟨.int16 (-1), calls⟩)) := by
    simp only [otaPal, step, otaPalWriteBlock, if_neg hguard, hloop]
  have hspec := writeLoop_spec psa s.pal.xOTAImageID off data size.toNat 0 0
  rw [hloop] at hspec
  obtain ⟨rfl, rfl, hhanded, hall⟩ | ⟨rfl, i, hlen, hfail, hbefore⟩ := hspec
  · have hret : (BitVec.ofNat 16 (0 + size.toNat)).toInt = (size.toNat : Int) := by
      rw [Nat.zero_add, BitVec.toInt_ofNat', Int.bmod_eq_of_le] <;> omega
    refine ⟨_, hstep, hlengths, fun _ => ⟨hhanded, congrArg Ret.int16 hret⟩, ?_⟩
    intro j hj hne
    exact absurd (by simpa using hall j hj) hne
  · rw [Nat.zero_add] at hfail
    refine ⟨_, hstep, hlengths, ?_, ?_⟩
    · intro hall
      exact absurd (hall i (by simp [hlen])) hfail
    · intro j hj hne
      refine ⟨rfl, ?_⟩
      have hj : j < i + 1 := hlen ▸ hj
      have hij : ¬j < i := fun hji => hne (by simpa using hbefore j hji)
      rw [show j = i by omega]
      exact hlen

/-! ## Runs -/

/-- Every write that the call issued succeeded. -/
def Succeeds (e : Event) : Prop := ∀ i < e.out.calls.length, e.inp.2.write i = psaSuccess

theorem flatMap_nodup {l : List Call} {f : Call → List (BitVec 32 × UInt8)}
    (hone : ∀ c ∈ l, ((f c).map Prod.fst).Nodup)
    (hdisj : l.Pairwise fun c c' => ((f c).map Prod.fst).Disjoint ((f c').map Prod.fst)) :
    ((l.flatMap f).map Prod.fst).Nodup := by
  rw [List.map_flatMap]
  exact List.nodup_flatMap.2 ⟨hone, hdisj⟩

/-- **Blocks on the open context**, each of at most `INT16_MAX` bytes, with ranges that do not overlap:
every call returns. When every write succeeds, the service is handed the bytes of the blocks, at their
offsets and nowhere twice, and each call answers the size of its block. Every write has between one and
`PSA_FWU_MAX_BLOCK_SIZE` bytes. A call whose write fails answers `-1`, and that write is its last. -/
theorem write_blocks {s : State} {p : CtxPtr} {calls : List (Call × Fwu)} (hopen : s.IsOpen p)
    (hw : ∀ c ∈ calls, WritesBlock p c.1)
    (hdisj : (calls.map Prod.fst).Pairwise fun c c' => (offsets c).Disjoint (offsets c')) :
    ∃ tr, otaPal.exec? s calls = some (tr, s) ∧ tr.map (·.inp) = calls ∧
      ((∀ e ∈ tr, Succeeds e) →
        tr.flatMap (fun e => e.out.calls.flatMap handed) = calls.flatMap (fun c => asked c.1) ∧
        ((tr.flatMap fun e => e.out.calls.flatMap handed).map Prod.fst).Nodup ∧
        ∀ e ∈ tr, e.out.ret = .int16 (blockSize e.inp.1)) ∧
      (∀ e ∈ tr, ∀ call ∈ e.out.calls,
        1 ≤ blockLength call ∧ blockLength call ≤ e.inp.2.psaFwuMaxBlockSize) ∧
      ∀ e ∈ tr, ∀ i < e.out.calls.length, e.inp.2.write i ≠ psaSuccess →
        e.out.ret = .int16 (-1) ∧ e.out.calls.length = i + 1 := by
  obtain ⟨tr, hrun, hinp, hstep⟩ := exec?_still (m := otaPal) (s := s)
    (O := fun i r => BlockReply i.1 i.2 r)
    fun c hc => otaPalWriteBlock_reply hopen (hw c hc) c.2
  refine ⟨tr, hrun, hinp, ?_, fun e he => (hstep e he).lengths, fun e he => (hstep e he).failed⟩
  intro hall
  have hhanded : tr.flatMap (fun e => e.out.calls.flatMap handed) =
      calls.flatMap fun c => asked c.1 := by
    rw [← hinp, List.flatMap_map]
    exact List.flatMap_congr fun e he => ((hstep e he).written (hall e he)).1
  refine ⟨hhanded, ?_, fun e he => ((hstep e he).written (hall e he)).2⟩
  rw [hhanded, ← List.flatMap_map]
  refine flatMap_nodup ?_ hdisj
  intro c hc
  obtain ⟨i, hi, rfl⟩ := List.mem_map.1 hc
  obtain ⟨off, data, size, hblock, -⟩ := hw i hi
  rw [hblock]
  exact piece_nodup off data (by have := size.isLt; omega)

/-- Two blocks, the later one first. -/
def twoBlocks : List (Call × Fwu) :=
  [(.writeBlock (some 0) 2 (fun _ => 7) 3, willing), (.writeBlock (some 0) 0 (fun _ => 9) 2, willing)]

theorem write_blocks_two : ∃ tr, otaPal.exec? ⟨⟨some 0, 0x0202, []⟩, oneContext⟩ twoBlocks =
      some (tr, ⟨⟨some 0, 0x0202, []⟩, oneContext⟩) ∧
    (tr.flatMap fun e => e.out.calls.flatMap handed) = [(2, 7), (3, 7), (4, 7), (0, 9), (1, 9)] := by
  have hw : ∀ c ∈ twoBlocks, WritesBlock 0 c.1 :=
    List.forall_mem_cons.2 ⟨⟨2, fun _ => 7, 3, rfl, by decide⟩,
      List.forall_mem_singleton.2 ⟨0, fun _ => 9, 2, rfl, by decide⟩⟩
  obtain ⟨tr, hrun, hinp, hall, -⟩ := write_blocks
    (s := ⟨⟨some 0, 0x0202, []⟩, oneContext⟩) ⟨rfl, by decide⟩ hw
    (List.pairwise_pair.2 <| by
      rw [show offsets (.writeBlock (some 0) 2 (fun _ => 7) 3) = [2, 3, 4] by decide,
        show offsets (.writeBlock (some 0) 0 (fun _ => 9) 2) = [0, 1] by decide]
      simp)
  refine ⟨tr, hrun, (hall ?_).1⟩
  intro e he i _
  have hmem : e.inp ∈ tr.map (·.inp) := List.mem_map_of_mem he
  rw [hinp] at hmem
  obtain h | h := List.mem_pair.1 hmem <;> rw [h] <;> rfl

end Ota
