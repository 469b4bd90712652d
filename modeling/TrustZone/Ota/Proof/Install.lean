import TrustZone.Ota.Proof.Invariant

/-!
# What a closed and an installed image are

`otaPal_CloseFile` verifies the signature of the context it is given against the digest of the
image that the globals name. `VerifiedAs e p id` says of a close that it did so for `p`'s own
signature and the image `id`.

* `install_verified`: an image is installed only on request for the open context, as the image that
  context created, and a successful close of that context since the create has verified it.
* `install_unclosed`: the PAL itself records no verification: an install needs no close.
-/

namespace Ota

open Psa Lib Machine

/-- A successful `otaPal_CloseFile` of the context `p`. -/
def ClosedOk (e : Event) (p : CtxPtr) : Prop :=
  e.inp.1 = .closeFile (some p) ∧ e.out.ret = .ok

/-- The close `e` verified `p`'s own signature against the digest that PSA reports for `id`. -/
def VerifiedAs (e : Event) (p : CtxPtr) (id : ImageId) : Prop :=
  ∃ sig raw info, (e.pre.ctxs p).pSignature = some sig ∧
    prvConvertToRawECDSASignature sig.data = (true, raw) ∧
    e.inp.2.query id = (psaSuccess, info) ∧ e.inp.2.verifyHash = psaSuccess ∧
    e.out.calls = [.query id,
      .verifyHash xOTACodeVerifyKeyHandle (psaAlgEcdsa psaAlgSha256) info.digest raw]

theorem otaPalCloseFile_ok {psa : Fwu} {s s' : State} {p : CtxPtr} {r : Reply}
    (h : otaPalCloseFile psa s (some p) = some (s', r)) (hr : r.ret = .ok) :
    VerifiedAs ⟨s, (.closeFile (some p), psa), r, s'⟩ p s.pal.xOTAImageID := by
  unfold otaPalCloseFile otaPalCheckSignature at h
  simp only at h
  split at h
  · cases h; cases hr
  · rename_i hq
    split at h
    · cases h
    · rename_i sig hsig
      split at h
      · cases h; cases hr
      · rename_i hraw
        split at h
        · cases h; cases hr
        · rename_i hv
          cases h
          refine ⟨sig, (prvConvertToRawECDSASignature sig.data).2,
            (psa.query s.pal.xOTAImageID).2, ?_, ?_, ?_, not_not.1 hv, rfl⟩
          · simpa [State.ctx] using hsig
          · exact Prod.ext (by simpa using hraw) rfl
          · exact Prod.ext (not_not.1 hq) rfl

theorem install_is_activate {s s' : State} {c : Call} {psa : Fwu} {r : Reply}
    (h : step s (c, psa) = some (s', r)) {id : ImageId} (hcall : FwuCall.install id ∈ r.calls) :
    c = .activateNewImage s.pal.pxSystemContext := by
  obtain ⟨-, p, harg, hp⟩ := step_touches h hcall rfl
  rw [hp]
  cases c with
  | activateNewImage q => exact congrArg _ harg
  | writeBlock q off data size =>
    obtain rfl := congrArg Prod.snd (Option.some.inj h)
    obtain ⟨⟨_, _, hw⟩, -⟩ := otaPalWriteBlock_calls hcall
    cases hw
  | _ => cases harg

/-- An activation of the open context installs its image, whatever was closed before. -/
theorem otaPalActivateNewImage_installs {psa : Fwu} {s : State} {p : CtxPtr}
    (hp : s.pal.pxSystemContext = some p) (hid : s.pal.xOTAImageID ≠ tfmFwuInvalidImageId) :
    FwuCall.install s.pal.xOTAImageID ∈ (otaPalActivateNewImage psa s (some p)).2.calls := by
  have hg : ¬(some p = none ∨ some p ≠ s.pal.pxSystemContext ∨
      s.pal.xOTAImageID = tfmFwuInvalidImageId) := by simp [hp, hid]
  unfold otaPalActivateNewImage
  rw [if_neg hg]
  simp only
  split
  · simp
  · split <;> simp

/-- **Installs**: `psa_fwu_install` is issued exactly on a request to activate the open context `p`,
for the image that `p` created; a close of `p` that has succeeded since that create has verified
`p`'s own signature against the digest of this image, as does every close of the open context that
succeeds. -/
theorem install_verified {ctxs : CtxPtr → OtaFileContext} {tr : List Event} {s : State}
    (h : Exec otaPal (.boot ctxs) tr s) :
    (∀ a e b id, tr = a ++ e :: b → FwuCall.install id ∈ e.out.calls →
      ∃ p, e.inp.1 = .activateNewImage (some p) ∧ OpenedBy a p id ∧
        ∀ c x d, a = c ++ x :: d → ClosedOk x p → (∀ y ∈ d, opens? y.inp.1 y.out = none) →
          VerifiedAs x p id) ∧
    (∀ a e b p, tr = a ++ e :: b → e.inp.1 = .activateNewImage (some p) →
      e.pre.pal.pxSystemContext = some p →
      ∃ id, OpenedBy a p id ∧ FwuCall.install id ∈ e.out.calls) ∧
    (∀ a e b p, tr = a ++ e :: b → ClosedOk e p → e.pre.pal.pxSystemContext = some p →
      ∃ id, OpenedBy a p id ∧ VerifiedAs e p id) := by
  have closed : ∀ {x : Event} {p : CtxPtr}, x ∈ tr → ClosedOk x p →
      VerifiedAs x p x.pre.pal.xOTAImageID ∧ x.post.pal.xOTAImageID = x.pre.pal.xOTAImageID := by
    rintro ⟨s1, ⟨c, psa⟩, r, s2⟩ p hx ⟨hc, hr⟩
    obtain rfl : c = .closeFile (some p) := hc
    exact ⟨otaPalCloseFile_ok (h.mem hx) hr, (otaPalCloseFile_globals (h.mem hx)).2⟩
  refine ⟨?_, ?_, ?_⟩
  · rintro a e b id rfl hcall
    have hact := h.split.1
    obtain ⟨hid, p, harg, hp⟩ := step_touches (h.mem (by simp)) hcall rfl
    have hc := install_is_activate (h.mem (by simp)) hcall
    refine ⟨p, by rw [hc, hp], ?_, ?_⟩
    · rw [hid]
      exact (transfer_invariant hact).2.1 p hp
    · rintro c x d rfl hx hd
      obtain ⟨hver, hpost⟩ := closed (by simp) hx
      -- no create since the close: the transfer open now was open then
      have hkept := Exec.transfer_kept hact.split.2 hd hp
      rw [hid, ← hkept.2, hpost]
      exact hver
  · rintro a ⟨s1, ⟨c, psa⟩, r, s2⟩ b p rfl hc hp
    obtain rfl : c = .activateNewImage (some p) := hc
    have hop := (transfer_invariant h.split.1).2.1 p hp
    have hs : step s1 (.activateNewImage (some p), psa) = some (s2, r) :=
      h.mem (e := ⟨s1, (.activateNewImage (some p), psa), r, s2⟩) (by simp)
    obtain rfl := congrArg Prod.snd (Option.some.inj hs)
    exact ⟨_, hop, otaPalActivateNewImage_installs hp hop.ne⟩
  · rintro a e b p rfl he hp
    exact ⟨_, (transfer_invariant h.split.1).2.1 p hp, (closed (by simp) he).1⟩

/-- A run that creates, closes and activates: the close verified what is installed. -/
theorem install_verified_closed : ∃ a e x d id, Exec otaPal (.boot oneContext)
    (a ++ x :: d ++ [e]) e.post ∧ FwuCall.install id ∈ e.out.calls ∧ VerifiedAs x 0 id := by
  have h0 : Exec otaPal (.boot oneContext) [] (.boot oneContext) := .nil
  have h1 := h0.snoc (i := (.createFileForRx (some 0), willing)) rfl
  have h2 := h1.snoc (i := (.closeFile (some 0), willing)) rfl
  have h3 := h2.snoc (i := (.activateNewImage (some 0), willing)) rfl
  obtain ⟨p, hp, -, hv⟩ := (install_verified h3).1 _ _ [] 0x102#32 rfl (by decide)
  obtain rfl : p = 0 := by cases hp; rfl
  exact ⟨_, _, _, [], _, h3, by decide, hv _ _ [] rfl ⟨rfl, rfl⟩ (by simp)⟩

/-- The PAL records no verification: a run that installs what was never closed. -/
theorem install_unclosed : ∃ tr s, Exec otaPal (.boot oneContext) tr s ∧
    (∃ e ∈ tr, ∃ id, FwuCall.install id ∈ e.out.calls) ∧
    ∀ e ∈ tr, ∀ p, e.inp.1 ≠ .closeFile p := by
  have h0 : Exec otaPal (.boot oneContext) [] (.boot oneContext) := .nil
  have h1 := h0.snoc (i := (.createFileForRx (some 0), willing)) rfl
  have h2 := h1.snoc (i := (.activateNewImage (some 0), willing)) rfl
  refine ⟨_, _, h2, ⟨_, List.mem_append_right _ (List.mem_singleton_self _), 0x102#32, by decide⟩, ?_⟩
  intro e he p
  simp only [List.nil_append, List.cons_append, List.mem_cons, List.not_mem_nil, or_false] at he
  rcases he with rfl | rfl <;> simp

end Ota
