import TrustZone.Ota.Pal

/-!
# The open transfer of the OTA PAL

`pxSystemContext` and `xOTAImageID` in every run from boot, with any contexts and any answers of
PSA. `step_effect` says once what a call can do to the two: open a transfer, end it, or leave both.

* `transfer_invariant`: they stand for the same transfer, the one the last successful
  `otaPal_CreateFileForRx` opened (`OpenedBy`); writes and installs are issued for it only, from a
  call made with its context; a call that fails leaves both alone.
* `Exec.transfer_kept`: without a new create, a transfer that is open was open before.
-/

namespace Ota

open Psa Lib Machine

/-- A recorded call. -/
abbrev Event := Entry State (Call × Fwu) Reply

/-- The answer is an error. -/
def Ret.isError : Ret → Bool
  | .status st => st.main ≠ .success
  | .int16 n => n < 0
  | .imageState _ => false
  | .none => false

/-- `OtaPalSuccess`. -/
def Ret.ok : Ret := .status (otaPalCombineErr .success 0)

/-- The context that a call opened: it is a successful `otaPal_CreateFileForRx`. -/
def opens? (c : Call) (r : Reply) : Option CtxPtr :=
  match c with
  | .createFileForRx p => if r.ret = .ok then p else none
  | _ => none

/-- The call is a successful `otaPal_Abort`. -/
def aborts (c : Call) (r : Reply) : Bool :=
  match c with
  | .abort _ => r.ret = .ok
  | _ => false

/-! ## What one call does -/

/-- What a call does to the open transfer. -/
inductive Effect (s : State) (c : Call) (s' : State) (r : Reply) : Prop
  | opened (p : CtxPtr) (hc : c = .createFileForRx (some p)) (hr : r.ret = .ok)
      (hpx : s'.pal.pxSystemContext = some p)
      (hid : calculatePSAImageID fwuImageIdSlotStage (some (s.ctxs p)) =
        (otaPalCombineErr .success 0, s'.pal.xOTAImageID))
  | ended (hc : opens? c r = none) (hr : r.ret.isError = false)
      (hpx : s'.pal.pxSystemContext = none) (hid : s'.pal.xOTAImageID = tfmFwuInvalidImageId)
  | kept (hc : opens? c r = none) (ha : s.pal.pxSystemContext ≠ none → aborts c r = false)
      (hpx : s'.pal.pxSystemContext = s.pal.pxSystemContext)
      (hid : s'.pal.xOTAImageID = s.pal.xOTAImageID)

theorem calculatePSAImageID_cases (slot : BitVec 8) (ctx : Option OtaFileContext) :
    (∃ main, main ≠ .success ∧
      calculatePSAImageID slot ctx = (otaPalCombineErr main 0, tfmFwuInvalidImageId)) ∨
    ∃ ty ∈ [fwuImageTypeSecure, fwuImageTypeNonsecure, fwuImageTypeFull],
      calculatePSAImageID slot ctx =
        (otaPalCombineErr .success 0, fwuCalculateImageId slot ty 0) := by
  unfold calculatePSAImageID
  split
  · exact .inl ⟨.uninitialized, by decide, rfl⟩
  · rename_i path _
    have hty : ∀ ty, imageType? path = some ty →
        ty ∈ [fwuImageTypeSecure, fwuImageTypeNonsecure, fwuImageTypeFull] := by
      intro ty h
      unfold imageType? at h
      split at h
      · simp_all
      · split at h
        · simp_all
        · split at h <;> simp_all
    cases h : imageType? path with
    | none => exact .inl ⟨.rxFileCreateFailed, by decide, rfl⟩
    | some ty => exact .inr ⟨ty, hty ty h, rfl⟩

/-- A stage-slot image id is never the invalid one. -/
theorem calculatePSAImageID_stage_ne {ctx : Option OtaFileContext} {id : ImageId}
    (h : calculatePSAImageID fwuImageIdSlotStage ctx = (otaPalCombineErr .success 0, id)) :
    id ≠ tfmFwuInvalidImageId := by
  rcases calculatePSAImageID_cases fwuImageIdSlotStage ctx with ⟨main, hm, h'⟩ | ⟨ty, hty, h'⟩
  · rw [h'] at h
    simp only [otaPalCombineErr, Prod.mk.injEq, OtaPalStatus.mk.injEq] at h
    exact absurd h.1.1 hm
  · rw [h'] at h
    obtain rfl := congrArg Prod.snd h
    simp only [List.mem_cons, List.not_mem_nil, or_false] at hty
    rcases hty with rfl | rfl | rfl <;> decide

theorem otaPalAbort_effect {psa : Fwu} {s s' : State} {p : Option CtxPtr} {r : Reply}
    (h : otaPalAbort psa s p = (s', r)) : Effect s (.abort p) s' r := by
  unfold otaPalAbort at h
  split at h
  · cases h; exact .kept rfl (fun _ => rfl) rfl rfl
  · split at h
    · rename_i hn; cases h; exact .kept rfl (fun h => absurd hn h) rfl rfl
    · split at h
      · cases h; exact .kept rfl (fun _ => rfl) rfl rfl
      · cases h; exact .ended rfl rfl rfl rfl

theorem otaPalCreateFileForRx_effect {s s' : State} {p : Option CtxPtr} {r : Reply}
    (h : otaPalCreateFileForRx s p = (s', r)) : Effect s (.createFileForRx p) s' r := by
  have failed : ∀ st : OtaPalStatus, st.main = .rxFileCreateFailed → s' = s →
      r.ret = .status st → Effect s (.createFileForRx p) s' r := by
    intro st hst hs hr
    have hne : r.ret ≠ .ok := by rw [hr]; intro he; cases he; cases hst
    exact .kept (by simp [opens?, hne]) (fun _ => rfl) (by rw [hs]) (by rw [hs])
  unfold otaPalCreateFileForRx at h
  cases p with
  | none => cases h; exact failed _ rfl rfl rfl
  | some p =>
    simp only at h
    split at h
    · cases h; exact failed _ rfl rfl rfl
    · split at h
      · cases h; exact failed _ rfl rfl rfl
      · rename_i hst
        cases h
        exact .opened p rfl rfl rfl (Prod.ext (not_not.1 hst) rfl)

theorem otaPalResetDevice_effect {psa : Fwu} {s s' : State} {c : Call} {r : Reply}
    (h : otaPalResetDevice psa s = (s', r)) (hc : opens? c r = none) (ha : aborts c r = false) :
    Effect s c s' r := by
  unfold otaPalResetDevice at h
  split at h
  · cases h; exact .ended hc rfl rfl rfl
  · cases h; exact .kept hc (fun _ => ha) rfl rfl

theorem otaPalActivateNewImage_effect {psa : Fwu} {s s' : State} {p : Option CtxPtr} {r : Reply}
    (h : otaPalActivateNewImage psa s p = (s', r)) : Effect s (.activateNewImage p) s' r := by
  unfold otaPalActivateNewImage at h
  split at h
  · cases h; exact .kept rfl (fun _ => rfl) rfl rfl
  · simp only at h
    split at h
    · unfold otaPalResetDevice at h
      split at h
      · cases h; exact .ended rfl rfl rfl rfl
      · cases h; exact .kept rfl (fun _ => rfl) rfl rfl
    · split at h <;> cases h <;> exact .kept rfl (fun _ => rfl) rfl rfl

theorem otaPalWriteBlock_pal (psa : Fwu) (s : State) (p : Option CtxPtr) (off : BitVec 32)
    (data : Nat → UInt8) (size : BitVec 32) :
    (otaPalWriteBlock psa s p off data size).1 = s := by
  unfold otaPalWriteBlock
  split
  · rfl
  · simp only
    split <;> rfl

theorem otaPalSetPlatformImageState_pal (psa : Fwu) (s : State) (p : Option CtxPtr)
    (e : OtaImageState) : (otaPalSetPlatformImageState psa s p e).1 = s := by
  unfold otaPalSetPlatformImageState
  split
  · cases e with
    | accepted =>
      simp only
      split
      · rfl
      · split <;> rfl
    | _ => rfl
  · split <;> rfl

theorem otaPalGetPlatformImageState_pal {psa : Fwu} {s s' : State} {p : Option CtxPtr} {r : Reply}
    (h : otaPalGetPlatformImageState psa s p = some (s', r)) : s' = s := by
  unfold otaPalGetPlatformImageState at h
  generalize (if s.pal.pxSystemContext = none then fwuImageIdSlotActive
    else fwuImageIdSlotStage) = ucSlot at h
  simp only at h
  split at h
  · cases h
  · split at h
    · cases h; rfl
    · split at h <;> cases h <;> rfl

theorem otaPalCloseFile_globals {psa : Fwu} {s s' : State} {p : Option CtxPtr} {r : Reply}
    (h : otaPalCloseFile psa s p = some (s', r)) :
    s'.pal.pxSystemContext = s.pal.pxSystemContext ∧ s'.pal.xOTAImageID = s.pal.xOTAImageID := by
  unfold otaPalCloseFile otaPalCheckSignature at h
  simp only at h
  split at h
  · cases h; exact ⟨rfl, rfl⟩
  · split at h
    · cases h
    · split at h
      · cases h; exact ⟨rfl, rfl⟩
      · split at h <;> cases h <;> exact ⟨rfl, rfl⟩

/-- **One call**: it opens a transfer, ends it, or leaves it alone. -/
theorem step_effect {s s' : State} {c : Call} {psa : Fwu} {r : Reply}
    (h : step s (c, psa) = some (s', r)) : Effect s c s' r := by
  cases c with
  | createFileForRx p => exact otaPalCreateFileForRx_effect (Option.some.inj h)
  | writeBlock p off data size =>
    have hs : s' = s := by
      rw [← otaPalWriteBlock_pal psa s p off data size, Option.some.inj h]
    exact .kept rfl (fun _ => rfl) (by rw [hs]) (by rw [hs])
  | closeFile p =>
    obtain ⟨hpx, hid⟩ := otaPalCloseFile_globals h
    exact .kept rfl (fun _ => rfl) hpx hid
  | activateNewImage p => exact otaPalActivateNewImage_effect (Option.some.inj h)
  | abort p => exact otaPalAbort_effect (Option.some.inj h)
  | setPlatformImageState p e =>
    have hs : s' = s := by
      rw [← otaPalSetPlatformImageState_pal psa s p e, Option.some.inj h]
    exact .kept rfl (fun _ => rfl) (by rw [hs]) (by rw [hs])
  | getPlatformImageState p =>
    have hs := otaPalGetPlatformImageState_pal h
    exact .kept rfl (fun _ => rfl) (by rw [hs]) (by rw [hs])
  | resetDevice p => exact otaPalResetDevice_effect (Option.some.inj h) rfl rfl
  | agent ctxs => cases h; exact .kept rfl (fun _ => rfl) rfl rfl
  | reboot => cases h; exact .ended rfl rfl rfl rfl

/-! ## Which calls write and install -/

/-- The image that a PSA call changes: the one it writes or installs. -/
def touched? : FwuCall → Option ImageId
  | .write id _ _ => some id
  | .install id => some id
  | _ => none

/-- The context a write or an activation is made with. -/
def transferArg : Call → Option CtxPtr
  | .writeBlock p _ _ _ => p
  | .activateNewImage p => p
  | _ => none

theorem writeLoop_calls (psa : Fwu) (id : ImageId) (off : BitVec 32) (data : Nat → UInt8)
    (size done n : Nat) :
    ∀ call ∈ (writeLoop psa id off data size done n).2.2,
      ∃ off' block, call = .write id off' block := by
  fun_induction writeLoop psa id off data size done n with
  | case1 => intro x hx; exact ⟨_, _, List.mem_singleton.1 hx⟩
  | case2 size done n _ _ _ ok done' calls hrec ih =>
    intro x hx
    rcases List.mem_cons.1 hx with rfl | hx
    · exact ⟨_, _, rfl⟩
    · rw [hrec] at ih; exact ih x hx
  | case3 => simp

/-- The guard of `otaPal_WriteBlock` and `otaPal_ActivateNewImage`. -/
theorem guard_open {s : State} {p : Option CtxPtr} (h : ¬(p = none ∨ p ≠ s.pal.pxSystemContext ∨
    s.pal.xOTAImageID = tfmFwuInvalidImageId)) :
    ∃ q, p = some q ∧ s.pal.pxSystemContext = some q := by
  obtain ⟨q, rfl⟩ := Option.ne_none_iff_exists'.1 fun hn => h (.inl hn)
  refine ⟨q, rfl, ?_⟩
  by_contra hne
  exact h (.inr (.inl fun he => hne he.symm))

theorem otaPalWriteBlock_calls {psa : Fwu} {s : State} {p : Option CtxPtr} {off : BitVec 32}
    {data : Nat → UInt8} {size : BitVec 32} {call : FwuCall}
    (hcall : call ∈ (otaPalWriteBlock psa s p off data size).2.calls) :
    (∃ off' block, call = .write s.pal.xOTAImageID off' block) ∧
      ∃ q, p = some q ∧ s.pal.pxSystemContext = some q := by
  unfold otaPalWriteBlock at hcall
  split at hcall
  · cases hcall
  · rename_i hg
    refine ⟨writeLoop_calls psa _ off data size.toNat 0 0 call ?_, guard_open hg⟩
    simp only at hcall
    split at hcall <;> exact hcall

theorem otaPalActivateNewImage_touched {psa : Fwu} {s : State} {p : Option CtxPtr} {call : FwuCall}
    {id : ImageId} (hcall : call ∈ (otaPalActivateNewImage psa s p).2.calls)
    (ht : touched? call = some id) :
    id = s.pal.xOTAImageID ∧ ∃ q, p = some q ∧ s.pal.pxSystemContext = some q := by
  unfold otaPalActivateNewImage at hcall
  split at hcall
  · cases hcall
  · rename_i hg
    refine ⟨?_, guard_open hg⟩
    have hmem : call = .install s.pal.xOTAImageID ∨ call = .requestReboot := by
      simp only at hcall
      split at hcall
      · unfold otaPalResetDevice at hcall
        split at hcall <;> simpa using hcall
      · split at hcall <;> exact .inl (by simpa using hcall)
    rcases hmem with rfl | rfl
    · exact (Option.some.inj ht).symm
    · cases ht

/-- The other calls write and install nothing. -/
theorem step_untouched {s s' : State} {c : Call} {psa : Fwu} {r : Reply}
    (h : step s (c, psa) = some (s', r)) (hw : ∀ p off data size, c ≠ .writeBlock p off data size)
    (ha : ∀ p, c ≠ .activateNewImage p) : ∀ call ∈ r.calls, touched? call = none := by
  cases c with
  | writeBlock p off data size => exact absurd rfl (hw p off data size)
  | activateNewImage p => exact absurd rfl (ha p)
  | createFileForRx p =>
    obtain rfl := congrArg Prod.snd (Option.some.inj h)
    unfold otaPalCreateFileForRx
    split
    · simp
    · split
      · simp
      · simp only; split <;> simp
  | closeFile p =>
    simp only [step, otaPalCloseFile, otaPalCheckSignature] at h
    split at h
    · cases h; simp [touched?]
    · split at h
      · cases h
      · split at h
        · cases h; simp [touched?]
        · split at h <;> cases h <;> simp [touched?]
  | abort p =>
    obtain rfl := congrArg Prod.snd (Option.some.inj h)
    unfold otaPalAbort
    split
    · simp
    · split
      · simp
      · split <;> simp [touched?]
  | setPlatformImageState p e =>
    obtain rfl := congrArg Prod.snd (Option.some.inj h)
    unfold otaPalSetPlatformImageState
    split
    · cases e with
      | accepted =>
        simp only
        split
        · simp
        · split <;> simp [touched?]
      | _ => simp
    · split <;> simp
  | getPlatformImageState p =>
    simp only [step, otaPalGetPlatformImageState] at h
    generalize (if s.pal.pxSystemContext = none then fwuImageIdSlotActive
      else fwuImageIdSlotStage) = ucSlot at h
    split at h
    · cases h
    · split at h
      · cases h; simp [touched?, prvGetImageState]
      · split at h <;> cases h <;> simp [touched?]
  | resetDevice p =>
    obtain rfl := congrArg Prod.snd (Option.some.inj h)
    unfold otaPalResetDevice
    split <;> simp [touched?]
  | agent ctxs => cases h; simp
  | reboot => cases h; simp

/-- Writes and installs are for the open transfer, from a call made with its context. -/
theorem step_touches {s s' : State} {c : Call} {psa : Fwu} {r : Reply}
    (h : step s (c, psa) = some (s', r)) {call : FwuCall} (hcall : call ∈ r.calls) {id : ImageId}
    (ht : touched? call = some id) :
    id = s.pal.xOTAImageID ∧ ∃ p, transferArg c = some p ∧ s.pal.pxSystemContext = some p := by
  by_cases hw : ∃ p off data size, c = .writeBlock p off data size
  · obtain ⟨p, off, data, size, rfl⟩ := hw
    obtain rfl := congrArg Prod.snd (Option.some.inj h)
    obtain ⟨⟨_, _, rfl⟩, q, hp, hq⟩ := otaPalWriteBlock_calls hcall
    exact ⟨(Option.some.inj ht).symm, q, hp, hq⟩
  · by_cases ha : ∃ p, c = .activateNewImage p
    · obtain ⟨p, rfl⟩ := ha
      obtain rfl := congrArg Prod.snd (Option.some.inj h)
      exact otaPalActivateNewImage_touched hcall ht
    · have hn := step_untouched h (fun p off data size e => hw ⟨p, off, data, size, e⟩)
        (fun p e => ha ⟨p, e⟩) call hcall
      rw [hn] at ht
      cases ht

/-! ## Runs -/

/-- The last successful create of the run opened the image `id` with the context `p`, and no
abort has succeeded since. -/
def OpenedBy (tr : List Event) (p : CtxPtr) (id : ImageId) : Prop :=
  ∃ a e b, tr = a ++ e :: b ∧ opens? e.inp.1 e.out = some p ∧
    calculatePSAImageID fwuImageIdSlotStage (some (e.pre.ctxs p)) =
      (otaPalCombineErr .success 0, id) ∧
    ∀ x ∈ b, opens? x.inp.1 x.out = none ∧ aborts x.inp.1 x.out = false

theorem OpenedBy.ne {tr : List Event} {p : CtxPtr} {id : ImageId} (h : OpenedBy tr p id) :
    id ≠ tfmFwuInvalidImageId := by
  obtain ⟨_, _, _, -, -, hid, -⟩ := h
  exact calculatePSAImageID_stage_ne hid

theorem OpenedBy.snoc {tr : List Event} {p : CtxPtr} {id : ImageId} (h : OpenedBy tr p id)
    {x : Event} (hc : opens? x.inp.1 x.out = none) (ha : aborts x.inp.1 x.out = false) :
    OpenedBy (tr ++ [x]) p id := by
  obtain ⟨a, e, b, rfl, he, hid, hb⟩ := h
  refine ⟨a, e, b ++ [x], by simp, he, hid, fun y hy => ?_⟩
  rcases List.mem_append.1 hy with hy | hy
  · exact hb y hy
  · rw [List.mem_singleton.1 hy]; exact ⟨hc, ha⟩

/-- The state of the transfer: none, or the one that the last create opened. -/
def Transfer (tr : List Event) (s : State) : Prop :=
  (s.pal.pxSystemContext = none ∧ s.pal.xOTAImageID = tfmFwuInvalidImageId) ∨
    ∃ p, s.pal.pxSystemContext = some p ∧ OpenedBy tr p s.pal.xOTAImageID

theorem Transfer.step {tr : List Event} {s s' : State} {i : Call × Fwu} {r : Reply}
    (h : Transfer tr s) (hs : otaPal.step s i = some (s', r)) :
    Transfer (tr ++ [⟨s, i, r, s'⟩]) s' := by
  cases step_effect hs with
  | opened p hc hr hpx hid =>
    refine .inr ⟨p, hpx, tr, ⟨s, i, r, s'⟩, [], rfl, ?_, hid, by simp⟩
    simp [opens?, hc, hr]
  | ended _ _ hpx hid => exact .inl ⟨hpx, hid⟩
  | kept hc ha hpx hid =>
    rcases h with ⟨hn, hi⟩ | ⟨p, hp, hop⟩
    · exact .inl ⟨hpx.trans hn, hid.trans hi⟩
    · refine .inr ⟨p, hpx.trans hp, ?_⟩
      rw [hid]
      exact hop.snoc hc (ha (by rw [hp]; simp))

theorem Exec.transfer {ctxs : CtxPtr → OtaFileContext} {tr : List Event} {s : State}
    (h : Exec otaPal (.boot ctxs) tr s) : Transfer tr s :=
  Exec.hist (fun _ _ _ _ _ => Transfer.step) h (.inl ⟨rfl, rfl⟩)

/-- Without a new create, a transfer that is open at the end was open from the start. -/
theorem Exec.transfer_kept {s s' : State} {tr : List Event} (h : Exec otaPal s tr s')
    (hc : ∀ x ∈ tr, opens? x.inp.1 x.out = none) {p : CtxPtr}
    (hp : s'.pal.pxSystemContext = some p) :
    s.pal.pxSystemContext = some p ∧ s.pal.xOTAImageID = s'.pal.xOTAImageID := by
  induction h generalizing p with
  | nil => exact ⟨hp, rfl⟩
  | @snoc tr s1 s2 i o _ hs ih =>
    have hc1 : ∀ x ∈ tr, opens? x.inp.1 x.out = none := fun x hx =>
      hc x (List.mem_append_left _ hx)
    have hc2 : opens? i.1 o = none := hc ⟨s1, i, o, s2⟩ (by simp)
    cases step_effect hs with
    | opened q hq hr _ _ =>
      simp [opens?, hq, hr] at hc2
    | ended _ _ hn _ => rw [hn] at hp; cases hp
    | kept _ _ hpx hid =>
      obtain ⟨h1, h2⟩ := ih hc1 (hpx ▸ hp)
      exact ⟨h1, h2.trans hid.symm⟩

/-- **The transfer invariant**: the two globals stand for the transfer that the last successful
create opened; writes and installs are for it only, from a call made with its context; a call that
fails leaves both globals alone. -/
theorem transfer_invariant {ctxs : CtxPtr → OtaFileContext} {tr : List Event} {s : State}
    (h : Exec otaPal (.boot ctxs) tr s) :
    (s.pal.pxSystemContext = none ↔ s.pal.xOTAImageID = tfmFwuInvalidImageId) ∧
    (∀ p, s.pal.pxSystemContext = some p → OpenedBy tr p s.pal.xOTAImageID) ∧
    (∀ a e b, tr = a ++ e :: b → ∀ call ∈ e.out.calls, ∀ id, touched? call = some id →
      ∃ p, transferArg e.inp.1 = some p ∧ e.pre.pal.pxSystemContext = some p ∧
        e.pre.pal.xOTAImageID = id ∧ OpenedBy a p id) ∧
    (∀ e ∈ tr, e.out.ret.isError = true →
      e.post.pal.pxSystemContext = e.pre.pal.pxSystemContext ∧
        e.post.pal.xOTAImageID = e.pre.pal.xOTAImageID) := by
  refine ⟨?_, ?_, ?_, ?_⟩
  · rcases Exec.transfer h with ⟨hn, hi⟩ | ⟨p, hp, hop⟩
    · simp [hn, hi]
    · simp [hp, hop.ne]
  · intro p hp
    rcases Exec.transfer h with ⟨hn, -⟩ | ⟨q, hq, hop⟩
    · rw [hn] at hp; cases hp
    · rw [hp] at hq; cases hq; exact hop
  · rintro a e b rfl call hcall id ht
    obtain ⟨hid, p, harg, hp⟩ := step_touches (h.mem (by simp)) hcall ht
    rcases Exec.transfer h.split.1 with ⟨hn, -⟩ | ⟨q, hq, hop⟩
    · rw [hn] at hp; cases hp
    · rw [hp] at hq; cases hq
      exact ⟨p, harg, hp, hid.symm, hid ▸ hop⟩
  · intro e he herr
    cases step_effect (h.mem he) with
    | opened _ _ hr _ _ => rw [hr] at herr; cases herr
    | ended _ hr _ _ => rw [hr] at herr; cases herr
    | kept _ _ hpx hid => exact ⟨hpx, hid⟩

/-- One context, for the non-secure image, with a signature of zeros. -/
def oneContext : CtxPtr → OtaFileContext := fun _ =>
  ⟨some nonSecureImage, some ⟨72, fun _ => 0⟩, .null⟩

theorem kilobyte_pos : 0 < 1024 := by decide

/-- Services that accept everything. -/
def willing : Fwu := ⟨⟨1024, kilobyte_pos⟩, fun _ => (psaSuccess, ⟨psaImageUndefined, []⟩), psaSuccess,
  fun _ => psaSuccess, psaSuccess, false, psaSuccess, psaSuccess⟩

/-- A run that opens a transfer and writes one byte. -/
theorem transfer_invariant_write : ∃ tr s, Exec otaPal (.boot oneContext) tr s ∧ tr.length = 2 ∧
    s.pal.pxSystemContext = some 0 ∧ OpenedBy tr 0 s.pal.xOTAImageID := by
  have h0 : Exec otaPal (.boot oneContext) [] (.boot oneContext) := .nil
  have h1 := h0.snoc (i := (.createFileForRx (some 0), willing)) rfl
  have h := h1.snoc (i := (.writeBlock (some 0) 0 (fun _ => 7) 1, willing)) rfl
  have hp := congrArg (·.pal.pxSystemContext) (otaPalWriteBlock_pal willing
    (otaPalCreateFileForRx (.boot oneContext) (some 0)).1 (some 0) 0 (fun _ => 7) 1)
  exact ⟨_, _, h, rfl, hp, (transfer_invariant h).2.1 0 hp⟩

end Ota
