import TrustZone.Pkcs11.Digest

/-!
# The operation of a digest

`DigestOk`: a session has an operation in progress exactly when it holds a hash operation, and the
operation is a live block of its own. `DigestStep p s c a s'` is all that a call can do: it is about
one session `p`, and leaves the other sessions, their operations and the input of these alone.
`digestStep_spec`: every call is such a step; `DigestOk.returns`: on a session that is not freed it
returns.
-/

namespace Pkcs11

open Lib Psa Machine

/-! ## Sessions and their operations -/

/-- The session `p` holds the hash operation `op`. -/
def Owns (s : DigestState) (p op : Nat) : Prop :=
  ∃ x, s.sessions p = some x ∧ x.pxHashOperationHandle = some op

/-- **The invariant** of the sessions. -/
structure DigestOk (s : DigestState) : Prop where
  wf : s.heap.Wf
  session : ∀ p x, s.sessions p = some x → s.heap.mem p ≠ none ∧ x.xOpened = true
  agrees : ∀ p x, s.sessions p = some x →
    (x.xOperationInProgress = ckmSha256 ↔ x.pxHashOperationHandle ≠ none)
  block : ∀ p op, Owns s p op → s.heap.mem op ≠ none ∧ s.sessions op = none
  unique : ∀ p q op, Owns s p op → Owns s q op → p = q

/-- The call is an accepted `C_DigestInit` on the session. -/
def Started (xSession : SessionHandle) (c : DigestCall) (a : DigestAns) : Prop :=
  a.rv = .ok ∧ ∃ pMechanism setup, c = .cDigestInit xSession pMechanism setup

/-- The part that a call of `C_DigestUpdate` on the session takes in, when it accepts it. -/
def acceptedPart (xSession : SessionHandle) (c : DigestCall) (a : DigestAns) :
    Option (List UInt8) :=
  match c with
  | .cDigestUpdate y pPart _ _ => if y = xSession ∧ a.rv = .ok then pPart else none
  | _ => none

/-- **What a call can do**, where `p` is its session. -/
structure DigestStep (sha256 : List UInt8 → List UInt8) (p : Nat) (s : DigestState) (c : DigestCall)
    (a : DigestAns) (s' : DigestState) : Prop where
  wf : s'.heap.Wf
  others : ∀ q, q ≠ p → s'.sessions q = s.sessions q
  live : ∀ q, s.heap.mem q ≠ none → (q = p → s.sessions p = none) → ¬Owns s p q →
    s'.heap.mem q ≠ none
  hashes : ∀ q, s.heap.mem q ≠ none → ¬Owns s p q → s'.hashes q = s.hashes q
  session : ∀ x, s'.sessions p = some x → s'.heap.mem p ≠ none ∧ x.xOpened = true ∧
    (x.xOperationInProgress = ckmSha256 ↔ x.pxHashOperationHandle ≠ none) ∧
    (s.sessions p ≠ none ∨ s.heap.mem p = none)
  operation : ∀ op, Owns s' p op → s'.heap.mem op ≠ none ∧ op ≠ p ∧
    (s.heap.mem op = none ∧ Started (some p) c a ∧ HashCall.setup op psaSuccess ∈ a.psa ∧
        s'.hashes op = [] ∨
      Owns s p op ∧ ¬Started (some p) c a ∧
        s'.hashes op = s.hashes op ++ (acceptedPart (some p) c a).getD [])
  uses : ∀ l h l' op, a.psa = l ++ h :: l' → h.uses = some op → l = [] ∧ Owns s p op
  ends : ∀ h ∈ a.psa, ∀ op, h.ends = some op → Owns s p op ∧ ¬Owns s' p op
  named : ∀ x, Started x c a ∨ acceptedPart x c a ≠ none → x = some p
  final : ∀ x len f, c = .cDigestFinal x true len f → a.rv = .ok →
    x = some p ∧ ∃ op, Owns s p op ∧ a.digest = some (sha256 (s.hashes op))

variable {al : Allocator} {sha256 : List UInt8 → List UInt8} {s s' : DigestState} {p : Nat}
  {c : DigestCall} {a : DigestAns}

/-- **One step** keeps the invariant. -/
theorem DigestStep.ok (h : DigestStep sha256 p s c a s') (hok : DigestOk s) : DigestOk s' := by
  -- the sessions other than `p` hold what they held, and it is none of `p`'s
  have hother : ∀ q op, q ≠ p → Owns s' q op → Owns s q op ∧ ¬Owns s p op := by
    intro q op hq ⟨x, hx, ho⟩
    rw [h.others q hq] at hx
    exact ⟨⟨x, hx, ho⟩, fun hp => hq (hok.unique q p op ⟨x, hx, ho⟩ hp)⟩
  constructor
  · exact h.wf
  · intro q x hx
    by_cases hq : q = p
    · subst hq
      exact ⟨(h.session x hx).1, (h.session x hx).2.1⟩
    · rw [h.others q hq] at hx
      obtain ⟨hm, ho⟩ := hok.session q x hx
      refine ⟨h.live q hm (fun hp => absurd hp hq) fun hp => ?_, ho⟩
      rw [(hok.block p q hp).2] at hx
      cases hx
  · intro q x hx
    by_cases hq : q = p
    · subst hq
      exact (h.session x hx).2.2.1
    · rw [h.others q hq] at hx
      exact hok.agrees q x hx
  · intro q op hown
    by_cases hq : q = p
    · subst hq
      obtain ⟨hm, hne, hfrom⟩ := h.operation op hown
      refine ⟨hm, ?_⟩
      rw [h.others op hne]
      obtain ⟨hfresh, -⟩ | ⟨hp, -⟩ := hfrom
      · by_contra hx
        obtain ⟨x, hx⟩ := Option.ne_none_iff_exists'.1 hx
        exact (hok.session op x hx).1 hfresh
      · exact (hok.block q op hp).2
    · obtain ⟨hs, hp⟩ := hother q op hq hown
      obtain ⟨hm, hnone⟩ := hok.block q op hs
      refine ⟨h.live op hm (fun he => he ▸ hnone) hp, ?_⟩
      by_cases hop : op = p
      · subst hop
        -- a new session is a block that was not live
        by_contra hx
        obtain ⟨x, hx⟩ := Option.ne_none_iff_exists'.1 hx
        obtain hold | hfresh := (h.session x hx).2.2.2
        · exact hold hnone
        · exact hm hfresh
      · rw [h.others op hop]
        exact hnone
  · intro q r op hq hr
    have honly : ∀ q, q ≠ p → Owns s' q op → ¬Owns s' p op := by
      intro q hq hown hp
      obtain ⟨hs, hn⟩ := hother q op hq hown
      obtain ⟨-, -, ⟨hfresh, -⟩ | ⟨hold, -⟩⟩ := h.operation op hp
      · exact (hok.block q op hs).1 hfresh
      · exact hn hold
    by_cases hqp : q = p
    · by_cases hrp : r = p
      · rw [hqp, hrp]
      · exact absurd (hqp ▸ hq) (honly r hrp hr)
    · by_cases hrp : r = p
      · exact absurd (hrp ▸ hr) (honly q hqp hq)
      · exact hok.unique q r op (hother q op hqp hq).1 (hother r op hrp hr).1

/-! ## Calls that leave the sessions alone -/

/-- The call starts no operation, takes nothing in and hands out no digest. -/
structure Quiet (c : DigestCall) (a : DigestAns) : Prop where
  starts : ∀ x, ¬Started x c a
  accepts : ∀ x, acceptedPart x c a = none
  finals : ∀ x len f, c = .cDigestFinal x true len f → a.rv ≠ .ok

theorem Quiet.of_ne (h : a.rv ≠ .ok) : Quiet c a where
  starts x hs := h hs.1
  accepts x := by
    unfold acceptedPart
    split
    · simp [h]
    · rfl
  finals _ _ _ _ := h

/-- Only blocks that are not live differ. -/
theorem DigestStep.quiet (hok : DigestOk s) (hq : Quiet c a) (hw : s'.heap.Wf)
    (hsess : s'.sessions = s.sessions)
    (hlive : ∀ q, s.heap.mem q ≠ none → s'.heap.mem q ≠ none)
    (hhash : ∀ q, s.heap.mem q ≠ none → s'.hashes q = s.hashes q)
    (hpsa : ∀ h ∈ a.psa, h.uses = none ∧ h.ends = none) (p : Nat) :
    DigestStep sha256 p s c a s' where
  wf := hw
  others q _ := by rw [hsess]
  live q hm _ _ := hlive q hm
  hashes q hm _ := hhash q hm
  session x hx := by
    rw [hsess] at hx
    obtain ⟨hm, ho⟩ := hok.session p x hx
    exact ⟨hlive p hm, ho, hok.agrees p x hx, .inl (by simp [hx])⟩
  operation op hown := by
    have hown : Owns s p op := by simpa only [Owns, hsess] using hown
    obtain ⟨hm, hnone⟩ := hok.block p op hown
    refine ⟨hlive op hm, fun he => ?_, .inr ⟨hown, hq.starts _, ?_⟩⟩
    · obtain ⟨x, hx, -⟩ := hown
      rw [he, hx] at hnone
      cases hnone
    · simp [hhash op hm, hq.accepts]
  uses l h l' op he hu := by
    rw [(hpsa h (by simp [he])).1] at hu
    cases hu
  ends h hm op he := by
    rw [(hpsa h hm).2] at he
    cases he
  named x hx := by
    obtain hs | ha := hx
    · exact absurd hs (hq.starts x)
    · exact absurd (hq.accepts x) ha
  final x len f hc hrv := absurd hrv (hq.finals x len f hc)

/-- Nothing differs. -/
theorem DigestStep.same (hok : DigestOk s) (hq : Quiet c a) (hpsa : a.psa = []) (p : Nat) :
    DigestStep sha256 p s c a s :=
  .quiet hok hq hok.wf rfl (fun _ h => h) (fun _ _ => rfl) (by simp [hpsa]) p

/-! ## Calls on a session -/

theorem sessions_setSession (s : DigestState) (p : Nat) (x : Option P11DigestSession) :
    (s.setSession p x).sessions = Function.update s.sessions p x := rfl

theorem owns_setSession {x : P11DigestSession} {op : Nat} :
    Owns (s.setSession p (some x)) p op ↔ x.pxHashOperationHandle = some op := by
  simp [Owns, sessions_setSession]

/-- The session check of a call. -/
theorem digestCheck_cases {xSession : SessionHandle} {r : Except CkRv (Nat × P11DigestSession)}
    (h : digestCheck s xSession = some r) :
    (∃ e, e ≠ .ok ∧ r = .error e) ∨
      ∃ p x, xSession = some p ∧ s.sessions p = some x ∧ r = .ok (p, x) := by
  unfold digestCheck at h
  split_ifs at h
  · cases xSession with
    | none => exact .inl ⟨_, by simp, (Option.some.inj h).symm⟩
    | some p =>
      cases hx : s.sessions p with
      | none => simp [hx] at h
      | some x =>
        simp only [hx, Option.some.injEq] at h
        split_ifs at h
        · exact .inr ⟨p, x, rfl, hx, h.symm⟩
        · exact .inl ⟨_, by simp, h.symm⟩
  · exact .inl ⟨_, by simp, (Option.some.inj h).symm⟩

/-- A session is no operation of its own. -/
theorem DigestOk.not_owns (hok : DigestOk s) {x : P11DigestSession} (hx : s.sessions p = some x) :
    ¬Owns s p p := by
  intro hown
  rw [(hok.block p p hown).2] at hx
  cases hx

/-- Only the first call of a step can use an operation. -/
theorem uses_head {h₀ h : HashCall} {rest l l' : List HashCall} {op : Nat}
    (he : h₀ :: rest = l ++ h :: l') (hrest : ∀ h ∈ rest, h.uses = none) (hu : h.uses = some op) :
    l = [] ∧ h = h₀ := by
  cases l with
  | nil => exact ⟨rfl, (List.cons.inj he).1.symm⟩
  | cons b l =>
    have hm : h ∈ rest := by simp [(List.cons.inj he).2]
    rw [hrest h hm] at hu
    cases hu

/-- The operation of a session ends and its block is freed. -/
theorem DigestStep.drop {heap : Heap} {x : P11DigestSession} {op : Nat} (hok : DigestOk s)
    (hx : s.sessions p = some x) (hop : x.pxHashOperationHandle = some op) (hw : heap.Wf)
    (hmem : heap.mem = Function.update s.heap.mem op none) {hashes : Nat → List UInt8}
    (hhash : ∀ q, q ≠ op → hashes q = s.hashes q)
    (hpsa : (∃ part u v, a.psa = [.update op part u, .abort op v]) ∨ ∃ u, a.psa = [.finish op u])
    (hstart : ∀ y, ¬Started y c a) (haccept : ∀ y, acceptedPart y c a = none)
    (hfinal : ∀ y len f, c = .cDigestFinal y true len f → a.rv = .ok →
      y = some p ∧ a.digest = some (sha256 (s.hashes op))) :
    DigestStep sha256 p s c a (DigestState.setSession { s with heap := heap, hashes := hashes } p
      (some { x with xOperationInProgress := pkcs11NoOperation, pxHashOperationHandle := none })) := by
  have hown : Owns s p op := ⟨x, hx, hop⟩
  have honly : ∀ q, Owns s p q → q = op := by
    intro q ⟨y, hy, hq⟩
    obtain rfl := Option.some.inj (hx.symm.trans hy)
    exact Option.some.inj (hq.symm.trans hop)
  have hne : p ≠ op := by
    intro he
    exact hok.not_owns hx (he ▸ hown)
  have hdrop : ∀ q, ¬Owns (DigestState.setSession { s with heap := heap, hashes := hashes } p
      (some { x with xOperationInProgress := pkcs11NoOperation,
                     pxHashOperationHandle := none })) p q := by
    intro q hq
    simp [owns_setSession] at hq
  have hlive : ∀ q, s.heap.mem q ≠ none → q ≠ op → heap.mem q ≠ none := by
    intro q hm hq
    rw [hmem, Function.update_of_ne hq]
    exact hm
  constructor
  · exact hw
  · intro q hq
    exact Function.update_of_ne hq _ _
  · intro q hm _ hq
    exact hlive q hm fun he => hq (he ▸ hown)
  · intro q _ hq
    exact hhash q fun he => hq (he ▸ hown)
  · intro y hy
    obtain ⟨hm, ho⟩ := hok.session p x hx
    obtain rfl : _ = y := by simpa [sessions_setSession] using hy
    exact ⟨hlive p hm hne, ho, by simp [pkcs11NoOperation, ckmSha256], .inl (by simp [hx])⟩
  · intro q hq
    exact absurd hq (hdrop q)
  · intro l h l' q he hu
    obtain ⟨part, u, v, hp⟩ | ⟨u, hp⟩ := hpsa
    · obtain ⟨rfl, rfl⟩ := uses_head (hp.symm.trans he) (by simp [HashCall.uses]) hu
      exact ⟨rfl, Option.some.inj hu ▸ hown⟩
    · obtain ⟨rfl, rfl⟩ := uses_head (hp.symm.trans he) (by simp) hu
      exact ⟨rfl, Option.some.inj hu ▸ hown⟩
  · intro h hm q he
    refine ⟨?_, hdrop q⟩
    obtain ⟨part, u, v, hp⟩ | ⟨u, hp⟩ := hpsa
    · simp only [hp, List.mem_cons, List.not_mem_nil, or_false] at hm
      obtain rfl | rfl := hm
      · cases he
      · exact Option.some.inj he ▸ hown
    · rw [hp, List.mem_singleton] at hm
      subst hm
      exact Option.some.inj he ▸ hown
  · intro y hy
    obtain hs | ha := hy
    · exact absurd hs (hstart y)
    · exact absurd (haccept y) ha
  · intro y len f hc hrv
    obtain ⟨hy, hd⟩ := hfinal y len f hc hrv
    exact ⟨hy, op, hown, hd⟩

/-! ## Every call -/

theorem cOpenSession_step (hok : DigestOk s) {serial pxSession signMutex verifyMutex : Bool}
    (h : cOpenSession al s serial pxSession signMutex verifyMutex = some (s', a)) :
    ∃ p, DigestStep sha256 p s (.cOpenSession serial pxSession signMutex verifyMutex) a s' := by
  have hquiet : Quiet (.cOpenSession serial pxSession signMutex verifyMutex) a :=
    ⟨by simp [Started], fun _ => rfl, by simp⟩
  by_cases hgo : serial = true ∧ pxSession = true ∧ s.xIsInitialized = true
  · obtain ⟨rfl, rfl, hi⟩ := hgo
    simp only [cOpenSession, hi, not_true_eq_false, if_false] at h
    obtain ⟨heap, hm, hw, hmem⟩ | ⟨p, blk, heap, hm, hfree, hw, hmem⟩ :=
      hok.wf.malloc al sizeofP11Session
    · simp only [hm, Option.some.injEq, Prod.mk.injEq] at h
      obtain ⟨rfl, rfl⟩ := h
      refine ⟨0, .quiet hok hquiet hw ?_ ?_ (fun _ _ => ?_) (by simp) 0⟩
      · rfl
      · simp [hmem]
      · rfl
    · have hne : ∀ q, s.heap.mem q ≠ none → q ≠ p := by
        intro q hq he
        exact hq (he ▸ hfree)
      have hnone : s.sessions p = none := by
        by_contra hx
        obtain ⟨x, hx⟩ := Option.ne_none_iff_exists'.1 hx
        exact (hok.session p x hx).1 hfree
      simp only [hm] at h
      split_ifs at h
      · obtain ⟨rfl, rfl⟩ := Prod.mk.inj (Option.some.inj h)
        refine ⟨p, hw, ?_, ?_, ?_, ?_, ?_, ?_, ?_, ?_, ?_⟩
        · intro q hq
          exact Function.update_of_ne hq _ _
        · intro q hq _ _
          change heap.mem q ≠ none
          rwa [hmem, Function.update_of_ne (hne q hq)]
        · intro q _ _
          rfl
        · intro x hx
          obtain rfl : _ = x := by simpa [sessions_setSession] using hx
          refine ⟨?_, rfl, by simp [pkcs11NoOperation, ckmSha256], .inr hfree⟩
          change heap.mem p ≠ none
          simp [hmem]
        · intro op hown
          simp [owns_setSession] at hown
        · intro l h l' op he
          simp at he
        · simp
        · intro x hx
          obtain hs | ha := hx
          · exact absurd hs (hquiet.starts x)
          · exact absurd (hquiet.accepts x) ha
        · intro x len f hc
          cases hc
      · obtain ⟨heap', hfr, hw', hmem'⟩ := hw.free (p := p) (by simp [hmem])
        simp only [hfr, Option.some.injEq, Prod.mk.injEq] at h
        obtain ⟨rfl, rfl⟩ := h
        refine ⟨0, .quiet hok hquiet hw' ?_ (fun q hq => ?_) (fun _ _ => ?_) (by simp) 0⟩
        · rfl
        · simpa [hmem', hmem, Function.update_of_ne (hne q hq)] using hq
        · rfl
  · have hsame : s = s' ∧ a.psa = [] := by
      unfold cOpenSession at h
      cases serial <;> cases pxSession <;> simp_all
      all_goals simp [← h.2]
    obtain ⟨rfl, hpsa⟩ := hsame
    exact ⟨0, .same hok hquiet hpsa 0⟩

/-- The operation of a session can be freed. -/
theorem DigestOk.freeHashOperation (hok : DigestOk s) {x : P11DigestSession}
    (hx : s.sessions p = some x) :
    ∃ heap, freeHashOperation s.heap x.pxHashOperationHandle = some heap ∧ heap.Wf ∧
      ∀ q, ¬Owns s p q → heap.mem q = s.heap.mem q := by
  cases hop : x.pxHashOperationHandle with
  | none => exact ⟨s.heap, rfl, hok.wf, fun _ _ => rfl⟩
  | some op =>
    have hown : Owns s p op := ⟨x, hx, hop⟩
    obtain ⟨heap, hfr, hw, hmem⟩ := hok.wf.free (hok.block p op hown).1
    refine ⟨heap, hfr, hw, fun q hq => ?_⟩
    have hne : q ≠ op := by
      intro he
      exact hq (he ▸ hown)
    rw [hmem, Function.update_of_ne hne]

theorem cCloseSession_step (hok : DigestOk s) {xSession : SessionHandle}
    (h : cCloseSession s xSession = some (s', a)) :
    ∃ p, DigestStep sha256 p s (.cCloseSession xSession) a s' := by
  have hquiet : Quiet (.cCloseSession xSession) a := ⟨by simp [Started], fun _ => rfl, by simp⟩
  unfold cCloseSession at h
  cases hc : digestCheck s xSession with
  | none => simp [hc] at h
  | some r =>
    obtain ⟨e, he, rfl⟩ | ⟨p, x, rfl, hx, rfl⟩ := digestCheck_cases hc
    · simp only [hc, Option.some.injEq, Prod.mk.injEq] at h
      obtain ⟨rfl, rfl⟩ := h
      exact ⟨0, .same hok hquiet rfl 0⟩
    · obtain ⟨heap, hfr, hw, hmem⟩ := hok.freeHashOperation hx
      have hpm : heap.mem p ≠ none := by
        rw [hmem p (hok.not_owns hx)]
        exact (hok.session p x hx).1
      obtain ⟨heap', hfr', hw', hmem'⟩ := hw.free hpm
      simp only [hc, hfr, hfr', Option.some.injEq, Prod.mk.injEq] at h
      obtain ⟨rfl, rfl⟩ := h
      refine ⟨p, hw', ?_, ?_, ?_, ?_, ?_, ?_, ?_, ?_, ?_⟩
      · intro q hq
        exact Function.update_of_ne hq _ _
      · intro q hm hq hown
        have hne : q ≠ p := by
          intro he
          rw [hq he] at hx
          cases hx
        change heap'.mem q ≠ none
        rwa [hmem', Function.update_of_ne hne, hmem q hown]
      · intro q _ _
        rfl
      · intro y hy
        simp [sessions_setSession] at hy
      · intro op hown
        simp [Owns, sessions_setSession] at hown
      · intro l h l' op he
        simp at he
      · simp
      · intro y hy
        obtain hs | ha := hy
        · exact absurd hs (hquiet.starts y)
        · exact absurd (hquiet.accepts y) ha
      · intro y len f hc
        cases hc

/-- An operation is set up in a fresh block, and replaces the one that the session holds. -/
theorem DigestStep.start {heap : Heap} {x : P11DigestSession} {op : Nat} {blk : List UInt8}
    {pMechanism : Option MechanismType} (hok : DigestOk s) (hx : s.sessions p = some x)
    (hfree : s.heap.mem op = none) (hw : heap.Wf)
    (hmem : heap.mem = Function.update s.heap.mem op (some blk)) :
    DigestStep sha256 p s (.cDigestInit (some p) pMechanism psaSuccess)
      { rv := .ok, psa := [.setup op psaSuccess] }
      (DigestState.setSession
        { s with heap := heap, hashes := Function.update s.hashes op [] } p
        (some { x with xOperationInProgress := ckmSha256, pxHashOperationHandle := some op })) := by
  have hne : ∀ q, s.heap.mem q ≠ none → q ≠ op := by
    intro q hq he
    exact hq (he ▸ hfree)
  have hlive : ∀ q, s.heap.mem q ≠ none → heap.mem q ≠ none := by
    intro q hq
    rwa [hmem, Function.update_of_ne (hne q hq)]
  have hp := hok.session p x hx
  constructor
  · exact hw
  · intro q hq
    exact Function.update_of_ne hq _ _
  · intro q hq _ _
    exact hlive q hq
  · intro q hq _
    exact Function.update_of_ne (hne q hq) _ _
  · intro y hy
    obtain rfl : _ = y := by simpa [sessions_setSession] using hy
    exact ⟨hlive p hp.1, hp.2, by simp, .inl (by simp [hx])⟩
  · intro q hq
    obtain rfl := Option.some.inj (owns_setSession.1 hq)
    refine ⟨?_, fun he => hne p hp.1 he.symm, .inl ⟨hfree, ?_, ?_, ?_⟩⟩
    · change heap.mem op ≠ none
      simp [hmem]
    · exact ⟨rfl, _, _, rfl⟩
    · simp
    · exact Function.update_self ..
  · intro l h l' q he hu
    obtain ⟨-, rfl⟩ := uses_head he (by simp) hu
    cases hu
  · intro h hm q he
    obtain rfl := List.mem_singleton.1 hm
    cases he
  · intro y hy
    obtain ⟨-, _, _, hc⟩ | ha := hy
    · cases hc
      rfl
    · exact absurd rfl ha
  · intro y len f hc
    cases hc

theorem cDigestInit_step (hok : DigestOk s) {xSession : SessionHandle}
    {pMechanism : Option MechanismType} {setup : Status}
    (h : cDigestInit al s xSession pMechanism setup = some (s', a)) :
    ∃ p, DigestStep sha256 p s (.cDigestInit xSession pMechanism setup) a s' := by
  unfold cDigestInit at h
  cases hc : digestCheck s xSession with
  | none => simp [hc] at h
  | some r =>
    obtain ⟨e, he, rfl⟩ | ⟨p, x, rfl, hx, rfl⟩ := digestCheck_cases hc
    · simp only [hc, Option.some.injEq, Prod.mk.injEq] at h
      obtain ⟨rfl, rfl⟩ := h
      exact ⟨0, .same hok (.of_ne he) rfl 0⟩
    · simp only [hc] at h
      refine ⟨p, ?_⟩
      cases pMechanism with
      | none =>
        obtain ⟨rfl, rfl⟩ := Prod.mk.inj (Option.some.inj h)
        exact .same hok (.of_ne (by simp)) rfl p
      | some mechanism =>
        by_cases hmech : mechanism = ckmSha256
        · subst hmech
          obtain ⟨heap, hm, hw, hmem⟩ | ⟨op, blk, heap, hm, hfree, hw, hmem⟩ :=
            hok.wf.malloc al sizeofPsaHashOperation
          · simp only [hm, ne_eq, not_true_eq_false, if_false, Option.some.injEq,
              Prod.mk.injEq] at h
            obtain ⟨rfl, rfl⟩ := h
            refine .quiet hok (.of_ne (by simp)) hw ?_ ?_ (fun _ _ => ?_) (by simp) p
            · rfl
            · simp [hmem]
            · rfl
          · simp only [hm, ne_eq, not_true_eq_false, if_false] at h
            by_cases hst : setup = psaSuccess
            · subst hst
              simp only [not_true_eq_false, if_false] at h
              obtain ⟨rfl, rfl⟩ := Prod.mk.inj (Option.some.inj h)
              simp only [HashCall.hashes, if_true]
              exact .start hok hx hfree hw hmem
            · simp only [hst, not_false_eq_true, if_true] at h
              obtain ⟨rfl, rfl⟩ := Prod.mk.inj (Option.some.inj h)
              refine .quiet hok (.of_ne (by simp)) hw ?_ (fun q hq => ?_) (fun _ _ => ?_) ?_ p
              · rfl
              · have hne : q ≠ op := by
                  intro he
                  exact hq (he ▸ hfree)
                change heap.mem q ≠ none
                rwa [hmem, Function.update_of_ne hne]
              · simp [HashCall.hashes, hst]
              · simp [HashCall.uses, HashCall.ends]
        · simp only [hmech, ne_eq, not_false_eq_true, if_true] at h
          obtain ⟨rfl, rfl⟩ := Prod.mk.inj (Option.some.inj h)
          exact .same hok (.of_ne (by simp)) rfl p

/-- An operation takes a part in. -/
theorem DigestStep.take {x : P11DigestSession} {op : Nat} {part : List UInt8} {abort : Status}
    (hok : DigestOk s) (hx : s.sessions p = some x) (hop : x.pxHashOperationHandle = some op) :
    DigestStep sha256 p s (.cDigestUpdate (some p) (some part) psaSuccess abort)
      { rv := .ok, psa := [.update op part psaSuccess] }
      { s with hashes := Function.update s.hashes op (s.hashes op ++ part) } := by
  have hown : Owns s p op := ⟨x, hx, hop⟩
  have hp := hok.session p x hx
  constructor
  · exact hok.wf
  · intro q _
    rfl
  · intro q hq _ _
    exact hq
  · intro q _ hq
    exact Function.update_of_ne (fun he => hq (by rw [he]; exact hown)) _ _
  · intro y hy
    obtain rfl := Option.some.inj (hx.symm.trans hy)
    exact ⟨hp.1, hp.2, hok.agrees p x hx, .inl (by simp [hx])⟩
  · intro q ⟨y, hy, hq⟩
    obtain rfl := Option.some.inj (hx.symm.trans hy)
    obtain rfl := Option.some.inj (hop.symm.trans hq)
    refine ⟨(hok.block p op hown).1, fun he => hok.not_owns hx (he ▸ hown), .inr ⟨hown, ?_, ?_⟩⟩
    · simp [Started]
    · simp [acceptedPart]
  · intro l h l' q he hu
    obtain ⟨rfl, rfl⟩ := uses_head he (by simp) hu
    exact ⟨rfl, Option.some.inj hu ▸ hown⟩
  · intro h hm q he
    obtain rfl := List.mem_singleton.1 hm
    cases he
  · intro y hy
    obtain hs | ha := hy
    · simp [Started] at hs
    · unfold acceptedPart at ha
      by_contra hne
      simp [Ne.symm hne] at ha
  · intro y len f hc
    cases hc

theorem cDigestUpdate_step (hok : DigestOk s) {xSession : SessionHandle}
    {pPart : Option (List UInt8)} {update abort : Status}
    (h : cDigestUpdate s xSession pPart update abort = some (s', a)) :
    ∃ p, DigestStep sha256 p s (.cDigestUpdate xSession pPart update abort) a s' := by
  unfold cDigestUpdate at h
  cases hc : digestCheck s xSession with
  | none => simp [hc] at h
  | some r =>
    obtain ⟨e, he, rfl⟩ | ⟨p, x, rfl, hx, rfl⟩ := digestCheck_cases hc
    · simp only [hc, Option.some.injEq, Prod.mk.injEq] at h
      obtain ⟨rfl, rfl⟩ := h
      exact ⟨0, .same hok (.of_ne he) rfl 0⟩
    · simp only [hc] at h
      refine ⟨p, ?_⟩
      cases pPart with
      | none =>
        obtain ⟨rfl, rfl⟩ := Prod.mk.inj (Option.some.inj h)
        exact .same hok (.of_ne (by simp)) rfl p
      | some part =>
        cases hop : x.pxHashOperationHandle with
        | none =>
          simp only [hop, Option.some.injEq, Prod.mk.injEq] at h
          obtain ⟨rfl, rfl⟩ := h
          exact .same hok (.of_ne (by simp)) rfl p
        | some op =>
          have hmech := (hok.agrees p x hx).2 (by simp [hop])
          simp only [hop, hmech, ne_eq, not_true_eq_false, if_false] at h
          by_cases hst : update = psaSuccess
          · subst hst
            simp only [not_true_eq_false, if_false] at h
            obtain ⟨rfl, rfl⟩ := Prod.mk.inj (Option.some.inj h)
            simp only [HashCall.hashes, if_true]
            exact .take hok hx hop
          · obtain ⟨heap, hfr, hw, hmem⟩ := hok.wf.free (hok.block p op ⟨x, hx, hop⟩).1
            simp only [hst, not_false_eq_true, if_true, hfr, Option.some.injEq, Prod.mk.injEq] at h
            obtain ⟨rfl, rfl⟩ := h
            have hq : Quiet (.cDigestUpdate (some p) (some part) update abort)
                { rv := .functionFailed, psa := [.update op part update, .abort op abort] } :=
              .of_ne (by simp)
            refine .drop hok hx hop hw hmem ?_ (.inl ⟨_, _, _, rfl⟩) hq.starts hq.accepts ?_
            · simp [HashCall.hashes, hst]
            · intro y len f hc
              cases hc

/-- Without an operation `C_DigestFinal` resets a field that says so already. -/
theorem DigestStep.idle {x : P11DigestSession} (hok : DigestOk s) (hx : s.sessions p = some x)
    (hno : x.pxHashOperationHandle = none) (hq : Quiet c a) (hpsa : a.psa = []) :
    DigestStep sha256 p s c a
      (s.setSession p (some { x with xOperationInProgress := pkcs11NoOperation })) := by
  have hp := hok.session p x hx
  constructor
  · exact hok.wf
  · intro q hq
    exact Function.update_of_ne hq _ _
  · intro q hq _ _
    exact hq
  · intro q _ _
    rfl
  · intro y hy
    obtain rfl : _ = y := by simpa [sessions_setSession] using hy
    exact ⟨hp.1, hp.2, by simp [hno, pkcs11NoOperation, ckmSha256], .inl (by simp [hx])⟩
  · intro q hown
    simp [owns_setSession, hno] at hown
  · intro l h l' q he
    simp [hpsa] at he
  · simp [hpsa]
  · intro y hy
    obtain hs | ha := hy
    · exact absurd hs (hq.starts y)
    · exact absurd (hq.accepts y) ha
  · intro y len f hc hrv
    exact absurd hrv (hq.finals y len f hc)

theorem cDigestFinal_step (hok : DigestOk s) {xSession : SessionHandle} {pDigest : Bool}
    {pulDigestLen : Option Nat} {f : FinishAns}
    (h : cDigestFinal sha256 s xSession pDigest pulDigestLen f = some (s', a)) :
    ∃ p, DigestStep sha256 p s (.cDigestFinal xSession pDigest pulDigestLen f) a s' := by
  unfold cDigestFinal at h
  cases hc : digestCheck s xSession with
  | none => simp [hc] at h
  | some r =>
    obtain ⟨e, he, rfl⟩ | ⟨p, x, rfl, hx, rfl⟩ := digestCheck_cases hc
    · simp only [hc, Option.some.injEq, Prod.mk.injEq] at h
      obtain ⟨rfl, rfl⟩ := h
      exact ⟨0, .same hok (.of_ne he) rfl 0⟩
    · simp only [hc] at h
      refine ⟨p, ?_⟩
      cases pulDigestLen with
      | none =>
        obtain ⟨rfl, rfl⟩ := Prod.mk.inj (Option.some.inj h)
        exact .same hok (.of_ne (by simp)) rfl p
      | some len =>
        cases hop : x.pxHashOperationHandle with
        | none =>
          have hmech : x.xOperationInProgress ≠ ckmSha256 := by
            intro he
            exact (hok.agrees p x hx).1 he hop
          simp only [hmech, ne_eq, not_false_eq_true, if_true, Option.some.injEq,
            Prod.mk.injEq] at h
          obtain ⟨rfl, rfl⟩ := h
          exact .idle hok hx hop (.of_ne (by simp)) rfl
        | some op =>
          have hmech := (hok.agrees p x hx).2 (by simp [hop])
          obtain ⟨heap, hfr, hw, hmem⟩ := hok.wf.free (hok.block p op ⟨x, hx, hop⟩).1
          simp only [hmech, hop, hfr, ne_eq, not_true_eq_false, if_false] at h
          split_ifs at h with hbuf hlen hst
          · obtain ⟨rfl, rfl⟩ := Prod.mk.inj (Option.some.inj h)
            exact .same hok (.of_ne (by simp)) rfl p
          · obtain ⟨rfl, rfl⟩ := Prod.mk.inj (Option.some.inj h)
            refine .drop hok hx hop hw hmem (fun _ _ => rfl) ?_ ?_ ?_ ?_
            · exact .inr ⟨_, rfl⟩
            · simp [Started]
            · simp [acceptedPart]
            · intro y len' f' hc _
              cases hc
              exact ⟨rfl, rfl⟩
          · obtain ⟨rfl, rfl⟩ := Prod.mk.inj (Option.some.inj h)
            refine .drop hok hx hop hw hmem (fun _ _ => rfl) ?_ ?_ ?_ ?_
            · exact .inr ⟨_, rfl⟩
            · simp [Started]
            · simp [acceptedPart]
            · simp
          · obtain ⟨rfl, rfl⟩ := Prod.mk.inj (Option.some.inj h)
            -- the length query
            refine .same hok ⟨by simp [Started], fun _ => rfl, ?_⟩ rfl p
            intro y len' f' hc
            cases hc
            exact absurd rfl hbuf

/-- **Every call** is a step on one session. -/
theorem digestStep_spec (hok : DigestOk s) (h : digestStep al sha256 s c = some (s', a)) :
    ∃ p, DigestStep sha256 p s c a s' := by
  cases c with
  | cOpenSession => exact cOpenSession_step hok h
  | cCloseSession => exact cCloseSession_step hok h
  | cDigestInit => exact cDigestInit_step hok h
  | cDigestUpdate => exact cDigestUpdate_step hok h
  | cDigestFinal => exact cDigestFinal_step hok h

/-! ## Every call returns -/

/-- The session of a call is `NULL` or live. -/
def DigestCall.OnLive (s : DigestState) : DigestCall → Prop
  | .cOpenSession .. => True
  | .cCloseSession xSession => ∀ p, xSession = some p → s.sessions p ≠ none
  | .cDigestInit xSession _ _ => ∀ p, xSession = some p → s.sessions p ≠ none
  | .cDigestUpdate xSession _ _ _ => ∀ p, xSession = some p → s.sessions p ≠ none
  | .cDigestFinal xSession _ _ _ => ∀ p, xSession = some p → s.sessions p ≠ none

theorem digestCheck_live {xSession : SessionHandle}
    (hlive : ∀ p, xSession = some p → s.sessions p ≠ none) : ∃ r, digestCheck s xSession = some r := by
  unfold digestCheck
  split
  · cases xSession with
    | none => exact ⟨_, rfl⟩
    | some p =>
      obtain ⟨x, hx⟩ := Option.ne_none_iff_exists'.1 (hlive p rfl)
      simp [hx]
  · exact ⟨_, rfl⟩

/-- **Progress**: no call on a live session finishes `NULL` or frees a block twice. -/
theorem DigestOk.returns (hok : DigestOk s) (hlive : c.OnLive s) :
    ∃ s' a, digestStep al sha256 s c = some (s', a) := by
  cases c with
  | cOpenSession serial pxSession signMutex verifyMutex =>
    obtain ⟨heap, hm, -⟩ | ⟨p, blk, heap, hm, -, hw, hmem⟩ := hok.wf.malloc al sizeofP11Session
    · simp only [digestStep, cOpenSession, hm]
      split_ifs <;> exact ⟨_, _, rfl⟩
    · obtain ⟨heap', hfr, -⟩ := hw.free (p := p) (by simp [hmem])
      simp only [digestStep, cOpenSession, hm, hfr]
      split_ifs <;> exact ⟨_, _, rfl⟩
  | cCloseSession xSession =>
    obtain ⟨r, hc⟩ := digestCheck_live hlive
    obtain ⟨e, -, rfl⟩ | ⟨p, x, rfl, hx, rfl⟩ := digestCheck_cases hc
    · simp [digestStep, cCloseSession, hc]
    · obtain ⟨heap, hfr, hw, hmem⟩ := hok.freeHashOperation hx
      have hpm : heap.mem p ≠ none := by
        rw [hmem p (hok.not_owns hx)]
        exact (hok.session p x hx).1
      obtain ⟨heap', hfr', -⟩ := hw.free hpm
      simp [digestStep, cCloseSession, hc, hfr, hfr']
  | cDigestInit xSession pMechanism setup =>
    obtain ⟨r, hc⟩ := digestCheck_live hlive
    obtain ⟨e, -, rfl⟩ | ⟨p, x, rfl, hx, rfl⟩ := digestCheck_cases hc
    · simp [digestStep, cDigestInit, hc]
    · simp only [digestStep, cDigestInit, hc]
      cases pMechanism with
      | none => exact ⟨_, _, rfl⟩
      | some mechanism =>
        obtain ⟨heap, hm, -⟩ | ⟨op, blk, heap, hm, -⟩ := hok.wf.malloc al sizeofPsaHashOperation
        · simp only [hm]
          split_ifs <;> exact ⟨_, _, rfl⟩
        · simp only [hm]
          split_ifs <;> exact ⟨_, _, rfl⟩
  | cDigestUpdate xSession pPart update abort =>
    obtain ⟨r, hc⟩ := digestCheck_live hlive
    obtain ⟨e, -, rfl⟩ | ⟨p, x, rfl, hx, rfl⟩ := digestCheck_cases hc
    · simp [digestStep, cDigestUpdate, hc]
    · simp only [digestStep, cDigestUpdate, hc]
      cases pPart with
      | none => exact ⟨_, _, rfl⟩
      | some part =>
        cases hop : x.pxHashOperationHandle with
        | none => exact ⟨_, _, rfl⟩
        | some op =>
          obtain ⟨heap, hfr, -⟩ := hok.wf.free (hok.block p op ⟨x, hx, hop⟩).1
          simp only [hfr]
          split_ifs <;> exact ⟨_, _, rfl⟩
  | cDigestFinal xSession pDigest pulDigestLen f =>
    obtain ⟨r, hc⟩ := digestCheck_live hlive
    obtain ⟨e, -, rfl⟩ | ⟨p, x, rfl, hx, rfl⟩ := digestCheck_cases hc
    · simp [digestStep, cDigestFinal, hc]
    · simp only [digestStep, cDigestFinal, hc]
      cases pulDigestLen with
      | none => exact ⟨_, _, rfl⟩
      | some len =>
        cases hop : x.pxHashOperationHandle with
        | none =>
          have hmech : x.xOperationInProgress ≠ ckmSha256 := by
            intro he
            exact (hok.agrees p x hx).1 he hop
          simp [hmech]
        | some op =>
          obtain ⟨heap, hfr, -⟩ := hok.wf.free (hok.block p op ⟨x, hx, hop⟩).1
          simp only [hfr]
          split_ifs <;> exact ⟨_, _, rfl⟩

end Pkcs11
