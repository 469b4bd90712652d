import TrustZone.Lib.Ownership
import TrustZone.Pkcs11.Proof.DigestRuns
import TrustZone.Pkcs11.SessionHeap

/-!
# Who owns the blocks of a session

A session holds its object, the label of its search and its hash operation. `SessionMove p leak s s'`: a
call on the session `p` moves its own blocks only, and loses one only if `leak`.

* `cDigestInit_move`, .., `sessionStep_move`: every call is such a move; it loses a block when
  `C_DigestInit` replaces an operation or cannot set its block up, and when a session is closed that
  searches (`Loses`).
* `startSearch_granted`: what `C_FindObjectsInit` does to its block is what `copyLabels` does to a buffer.
* `session_blocks_freed`: **a session whose calls lose nothing** gives back every block that was taken for
  it, each once.
-/

namespace Pkcs11

open Lib Psa Machine

/-! ## Owners -/

/-- What holds a block: a session object, the search of a session, its digest. -/
inductive Owner
  | session (p : Nat)
  | label (p : Nat)
  | hash (p : Nat)
  deriving DecidableEq

/-- The session of an owner. -/
def Owner.of : Owner → Nat
  | session p => p
  | label p => p
  | hash p => p

/-- The block that an owner holds. -/
def SessionState.own (s : SessionState) : Owner → Option Nat
  | .session p => (s.digest.sessions p).map fun _ => p
  | .label p => (s.digest.sessions p).bind fun _ => s.pxFindObjectLabel p
  | .hash p => (s.digest.sessions p).bind (·.pxHashOperationHandle)

/-- **The invariant** of the sessions. -/
structure SessionOk (s : SessionState) : Prop where
  wf : s.heap.Wf
  held : s.heap.HeldBy s.own
  opened : ∀ p x, s.digest.sessions p = some x → s.digest.xIsInitialized = true ∧ x.xOpened = true ∧
    (x.xOperationInProgress = ckmSha256 → x.pxHashOperationHandle ≠ none)

/-- A call on the session `p`. -/
structure SessionMove (p : Nat) (leak : Prop) (s s' : SessionState) : Prop where
  ok : SessionOk s'
  moves : s.heap.Moves (fun k => k.of = p) leak s.own s'.heap s'.own

variable {al : Allocator} {sha256 : List UInt8 → List UInt8} {s s' : SessionState} {p : Nat}
  {x x' : P11DigestSession} {leak : Prop}

theorem own_session (hx : s.digest.sessions p = some x) : s.own (.session p) = some p := by
  simp [SessionState.own, hx]

theorem own_label (hx : s.digest.sessions p = some x) :
    s.own (.label p) = s.pxFindObjectLabel p := by
  simp [SessionState.own, hx]

theorem own_hash (hx : s.digest.sessions p = some x) :
    s.own (.hash p) = x.pxHashOperationHandle := by
  simp [SessionState.own, hx]

/-- A session that is not there holds nothing. -/
theorem own_gone (hx : s.digest.sessions p = none) {k : Owner} (hk : k.of = p) : s.own k = none := by
  subst hk
  cases k <;> (simp only [Owner.of] at hx; simp [SessionState.own, hx])

/-- The sessions and the labels say who holds what. -/
theorem own_congr (hs : s'.digest.sessions = s.digest.sessions)
    (hl : s'.pxFindObjectLabel = s.pxFindObjectLabel) : s'.own = s.own := by
  funext k
  cases k <;> simp [SessionState.own, hs, hl]

/-- A session that changes its digest. -/
theorem own_setSession (hx : s.digest.sessions p = some x)
    (hs : s'.digest.sessions = Function.update s.digest.sessions p (some x'))
    (hl : s'.pxFindObjectLabel = s.pxFindObjectLabel) (k : Owner) (hk : k ≠ .hash p) :
    s'.own k = s.own k := by
  have hne : ∀ q, q ≠ p → s'.digest.sessions q = s.digest.sessions q := by
    intro q hq
    rw [hs, Function.update_of_ne hq]
  have hself : s'.digest.sessions p = some x' := by
    rw [hs, Function.update_self]
  cases k with
  | session q =>
    by_cases hq : q = p
    · subst hq
      rw [own_session hx, own_session hself]
    · simp [SessionState.own, hne q hq]
  | label q =>
    by_cases hq : q = p
    · subst hq
      rw [own_label hx, own_label hself, hl]
    · simp [SessionState.own, hne q hq, hl]
  | hash q =>
    have hq : q ≠ p := fun he => hk (congrArg Owner.hash he)
    simp [SessionState.own, hne q hq]

/-- A session that changes its search. -/
theorem own_setLabel {q : Option Nat} (hs : s'.digest.sessions = s.digest.sessions)
    (hl : s'.pxFindObjectLabel = Function.update s.pxFindObjectLabel p q) (k : Owner)
    (hk : k ≠ .label p) : s'.own k = s.own k := by
  cases k with
  | session r => simp [SessionState.own, hs]
  | hash r => simp [SessionState.own, hs]
  | label r =>
    have hr : r ≠ p := fun he => hk (congrArg Owner.label he)
    simp [SessionState.own, hs, hl, Function.update_of_ne hr]

theorem SessionOk.live (hok : SessionOk s) (k : Owner) :
    ∀ q, s.own k = some q → s.heap.mem q ≠ none := hok.held.live k

/-! ## Moves -/

/-- The heap has no block more or less, and the sessions are as they were. -/
theorem SessionMove.same (hok : SessionOk s) (hs : s'.digest.sessions = s.digest.sessions)
    (hi : s'.digest.xIsInitialized = s.digest.xIsInitialized)
    (hl : s'.pxFindObjectLabel = s.pxFindObjectLabel) (hw : s'.heap.Wf)
    (hn : s.heap.next ≤ s'.heap.next) (hmem : s'.heap.mem = s.heap.mem) :
    SessionMove p leak s s' := by
  have hmoves : s.heap.Moves (fun k => k.of = p) False s.own s'.heap s'.own := by
    rw [own_congr hs hl]
    exact .same hok.held hw hn hmem
  refine ⟨⟨hw, hmoves.held, ?_⟩, hmoves.imp False.elim⟩
  rw [hs, hi]
  exact hok.opened

theorem SessionMove.refl (hok : SessionOk s) (p : Nat) (leak : Prop) : SessionMove p leak s s :=
  .same hok rfl rfl rfl hok.wf (Nat.le_refl _) rfl

/-- One owner exchanges its block. -/
theorem SessionMove.exchange (hok : SessionOk s) (k : Owner)
    (hx : s.heap.Exchange leak (s.own k) s'.heap (s'.own k)) (hoth : ∀ j, j ≠ k → s'.own j = s.own j)
    (hopened : ∀ p x, s'.digest.sessions p = some x → s'.digest.xIsInitialized = true ∧
      x.xOpened = true ∧ (x.xOperationInProgress = ckmSha256 → x.pxHashOperationHandle ≠ none)) :
    SessionMove k.of leak s s' := by
  have hmoves := Heap.Moves.exchange (P := fun j => j.of = k.of) hok.wf hok.held rfl hx hoth
  exact ⟨⟨hmoves.later.wf, hmoves.held, hopened⟩, hmoves⟩

/-- The check of a session that is there. -/
theorem sessionCheck_live (hok : SessionOk s) (hx : s.digest.sessions p = some x) :
    digestCheck s.digest (some p) = some (.ok (p, x)) := by
  obtain ⟨hi, ho, -⟩ := hok.opened p x hx
  simp [digestCheck, hi, hx, ho]

/-- What a request for memory gives. -/
theorem malloc_cases (al : Allocator) (h : Heap) (n : Nat) :
    al.avail h.next n = false ∧ h.malloc al n = (none, ⟨h.next + 1, h.mem⟩) ∨
    al.avail h.next n = true ∧ ∃ b : List UInt8, b.length = n ∧ h.malloc al n =
      (some h.next, ⟨h.next + 1, Function.update h.mem h.next (some b)⟩) := by
  unfold Heap.malloc
  cases al.avail h.next n with
  | false => exact .inl ⟨rfl, rfl⟩
  | true => exact .inr ⟨rfl, _, slice_length .., rfl⟩

/-- A request that is refused. -/
theorem SessionMove.refused (hok : SessionOk s) (p : Nat) (leak : Prop) :
    SessionMove p leak s (s.setHeap ⟨s.heap.next + 1, s.heap.mem⟩) :=
  .same hok rfl rfl rfl (hok.wf.mono (Nat.le_succ _)) (Nat.le_succ _) rfl

/-- A request that is granted, for a block that nobody takes. -/
theorem SessionMove.lost (hok : SessionOk s) (b : List UInt8) (p : Nat) (hleak : leak)
    (hd : s'.heap = ⟨s.heap.next + 1, Function.update s.heap.mem s.heap.next (some b)⟩)
    (hs : s'.digest.sessions = s.digest.sessions)
    (hi : s'.digest.xIsInitialized = s.digest.xIsInitialized)
    (hl : s'.pxFindObjectLabel = s.pxFindObjectLabel) : SessionMove p leak s s' := by
  have hx := Heap.Exchange.malloc hok.wf (o := none) (by simp) b
  have hlive : ∀ q, s.heap.mem q ≠ none → s'.heap.mem q ≠ none := by
    intro q hq
    rw [hd]
    exact (hx.live q).2 (.inr ⟨hq, .inr trivial⟩)
  have hmoves : s.heap.Moves (fun k => k.of = p) True s.own s'.heap s'.own := by
    rw [own_congr hs hl]
    exact .lost hok.held (hd ▸ hx.later (by simp)) hlive
  refine ⟨⟨hmoves.later.wf, hmoves.held, ?_⟩, hmoves.imp fun _ => hleak⟩
  rw [hs, hi]
  exact hok.opened

/-- An owner that holds nothing takes a block: nothing is lost. -/
theorem malloc_exchange {h : Heap} (hw : h.Wf) (b : List UInt8) :
    h.Exchange False none ⟨h.next + 1, Function.update h.mem h.next (some b)⟩ (some h.next) :=
  (Heap.Exchange.malloc hw (by simp) b).congr (by simp)

/-- A session is opened. -/
theorem SessionMove.opened (hok : SessionOk s) (b : List UInt8)
    (hd : s'.heap = ⟨s.heap.next + 1, Function.update s.heap.mem s.heap.next (some b)⟩)
    (hs : s'.digest.sessions = Function.update s.digest.sessions s.heap.next
      (some ⟨true, pkcs11NoOperation, none⟩))
    (hi : s'.digest.xIsInitialized = true)
    (hl : s'.pxFindObjectLabel = Function.update s.pxFindObjectLabel s.heap.next none) :
    SessionMove s.heap.next False s s' := by
  have hx : s.digest.sessions s.heap.next = none := by
    by_contra hx
    obtain ⟨x, hx⟩ := Option.ne_none_iff_exists'.1 hx
    exact hok.live (.session _) _ (own_session hx) (hok.wf _ (Nat.le_refl _))
  have hself : s'.digest.sessions s.heap.next = some ⟨true, pkcs11NoOperation, none⟩ := by
    rw [hs, Function.update_self]
  refine SessionMove.exchange hok (.session s.heap.next) ?_ ?_ ?_
  · rw [own_gone hx (k := .session _) rfl, own_session hself, hd]
    exact malloc_exchange hok.wf b
  · intro k hk
    by_cases hof : k.of = s.heap.next
    · rw [own_gone hx hof]
      cases k with
      | session q => exact absurd (congrArg Owner.session hof) hk
      | label q =>
        obtain rfl : q = s.heap.next := hof
        rw [own_label hself, hl, Function.update_self]
      | hash q =>
        obtain rfl : q = s.heap.next := hof
        rw [own_hash hself]
    · cases k <;> simp_all [SessionState.own, Owner.of, Function.update_of_ne]
  · intro q x hq
    refine ⟨hi, ?_⟩
    by_cases he : q = s.heap.next
    · subst he
      obtain rfl := Option.some.inj (hself.symm.trans hq)
      exact ⟨rfl, fun hc => absurd hc (show pkcs11NoOperation ≠ ckmSha256 by decide)⟩
    · rw [hs, Function.update_of_ne he] at hq
      exact (hok.opened q x hq).2

/-- The digest of a session changes. -/
theorem SessionMove.hash (hok : SessionOk s) (hx : s.digest.sessions p = some x)
    (hs : s'.digest.sessions = Function.update s.digest.sessions p (some x'))
    (hi : s'.digest.xIsInitialized = s.digest.xIsInitialized)
    (hl : s'.pxFindObjectLabel = s.pxFindObjectLabel)
    (hex : s.heap.Exchange leak x.pxHashOperationHandle s'.heap x'.pxHashOperationHandle)
    (ho : x'.xOpened = x.xOpened)
    (hagree : x'.xOperationInProgress = ckmSha256 → x'.pxHashOperationHandle ≠ none) :
    SessionMove p leak s s' := by
  have hself : s'.digest.sessions p = some x' := by
    rw [hs, Function.update_self]
  refine SessionMove.exchange hok (.hash p) ?_ (own_setSession hx hs hl) ?_
  · rw [own_hash hx, own_hash hself]
    exact hex
  · intro q y hy
    rw [hi]
    by_cases hq : q = p
    · subst hq
      obtain rfl := Option.some.inj (hself.symm.trans hy)
      obtain ⟨h1, h2, -⟩ := hok.opened q x hx
      exact ⟨h1, ho.trans h2, hagree⟩
    · rw [hs, Function.update_of_ne hq] at hy
      exact hok.opened q y hy

/-- The search of a session changes. -/
theorem SessionMove.label {q : Option Nat} (hok : SessionOk s) (hx : s.digest.sessions p = some x)
    (hs : s'.digest.sessions = s.digest.sessions)
    (hi : s'.digest.xIsInitialized = s.digest.xIsInitialized)
    (hl : s'.pxFindObjectLabel = Function.update s.pxFindObjectLabel p q)
    (hex : s.heap.Exchange leak (s.pxFindObjectLabel p) s'.heap q) : SessionMove p leak s s' := by
  refine SessionMove.exchange hok (.label p) ?_ (own_setLabel hs hl) ?_
  · rw [own_label hx, own_label (hs ▸ hx), hl, Function.update_self]
    exact hex
  · rw [hs, hi]
    exact hok.opened

/-! ## Every call -/

/-- A call that loses a block of its session. -/
def Loses (al : Allocator) (s : SessionState) : SessionCall → Prop
  | .digest (.cDigestInit (some p) (some mechanism) setup) =>
    mechanism = ckmSha256 ∧ al.avail s.heap.next sizeofPsaHashOperation = true ∧
      (setup ≠ psaSuccess ∨ s.own (.hash p) ≠ none)
  | .digest (.cCloseSession (some p)) => s.own (.label p) ≠ none
  | _ => False

instance (al : Allocator) (s : SessionState) (c : SessionCall) : Decidable (Loses al s c) := by
  unfold Loses
  split <;> infer_instance

/-- The session that a call is about; of `C_OpenSession`, the one it opens. -/
def SessionCall.on (a : DigestAns) : SessionCall → SessionHandle
  | .digest (.cOpenSession ..) => a.xSession
  | .digest (.cCloseSession xSession) => xSession
  | .digest (.cDigestInit xSession ..) => xSession
  | .digest (.cDigestUpdate xSession ..) => xSession
  | .digest (.cDigestFinal xSession ..) => xSession
  | .cFindObjectsInit xSession _ => xSession
  | .cFindObjectsFinal xSession => xSession

variable {a : DigestAns}

theorem cDigestInit_move (hok : SessionOk s) {xSession : SessionHandle}
    {pMechanism : Option MechanismType} {setup : Status}
    (h : sessionStep al sha256 s (.digest (.cDigestInit xSession pMechanism setup)) = some (s', a))
    (hp : ∀ q, xSession = some q → q = p) :
    SessionMove p (Loses al s (.digest (.cDigestInit xSession pMechanism setup))) s s' := by
  cases hc : digestCheck s.digest xSession with
  | none => simp [sessionStep, digestStep, cDigestInit, hc] at h
  | some r =>
    obtain ⟨e, -, rfl⟩ | ⟨q, x, rfl, hx, rfl⟩ := digestCheck_cases hc
    · simp only [sessionStep, digestStep, cDigestInit, hc, Option.some.injEq, Prod.mk.injEq] at h
      obtain ⟨rfl, -⟩ := h
      exact .refl hok p _
    · obtain rfl := hp q rfl
      cases pMechanism with
      | none =>
        simp only [sessionStep, digestStep, cDigestInit, hc, Option.some.injEq, Prod.mk.injEq] at h
        obtain ⟨rfl, -⟩ := h
        exact .refl hok q _
      | some mechanism =>
        by_cases hm : mechanism = ckmSha256
        · subst hm
          have hheap : s.heap = s.digest.heap := rfl
          obtain ⟨-, hmal⟩ | ⟨havail, b, -, hmal⟩ :=
            malloc_cases al s.digest.heap sizeofPsaHashOperation
          · simp only [sessionStep, digestStep, cDigestInit, hc, hmal, ne_eq, not_true_eq_false,
              if_false, Option.some.injEq, Prod.mk.injEq] at h
            obtain ⟨rfl, -⟩ := h
            exact .refused hok q _
          · by_cases hset : setup = psaSuccess
            · simp only [sessionStep, digestStep, cDigestInit, hc, hmal, hset, ne_eq,
                not_true_eq_false, if_false, Option.some.injEq, Prod.mk.injEq] at h
              obtain ⟨rfl, -⟩ := h
              refine .hash hok hx rfl rfl rfl ?_ rfl (by simp)
              exact (Heap.Exchange.malloc hok.wf (own_hash hx ▸ hok.live (.hash q)) b).congr
                fun r hr => iff_of_true trivial ⟨rfl, havail, .inr (by simp [own_hash hx, hr])⟩
            · simp only [sessionStep, digestStep, cDigestInit, hc, hmal, hset, ne_eq,
                not_true_eq_false, not_false_eq_true, if_false, if_true, Option.some.injEq,
                Prod.mk.injEq] at h
              obtain ⟨rfl, -⟩ := h
              have hlost : Loses al s (.digest (.cDigestInit (some q) (some ckmSha256) setup)) :=
                ⟨rfl, havail, .inl hset⟩
              exact .lost hok b q hlost rfl rfl rfl rfl
        · simp only [sessionStep, digestStep, cDigestInit, hc, ne_eq, hm, not_false_eq_true, if_true,
            Option.some.injEq, Prod.mk.injEq] at h
          obtain ⟨rfl, -⟩ := h
          exact .refl hok q _

/-- The operation of a session ends and its block is freed. -/
theorem SessionMove.freeHash {op : Nat} (hok : SessionOk s) (hx : s.digest.sessions p = some x)
    (hop : x.pxHashOperationHandle = some op)
    (hd : s'.heap = ⟨s.heap.next, Function.update s.heap.mem op none⟩)
    (hs : s'.digest.sessions = Function.update s.digest.sessions p (some x'))
    (hi : s'.digest.xIsInitialized = s.digest.xIsInitialized)
    (hl : s'.pxFindObjectLabel = s.pxFindObjectLabel) (ho : x'.xOpened = x.xOpened)
    (hm : x'.xOperationInProgress = pkcs11NoOperation) (hn : x'.pxHashOperationHandle = none) :
    SessionMove p False s s' := by
  refine .hash hok hx hs hi hl ?_ ho ?_
  · rw [hop, hn, hd]
    exact .free hok.wf (hok.live (.hash p) op ((own_hash hx).trans hop))
  · intro hc
    rw [hm] at hc
    exact absurd hc (by decide)

theorem cDigestUpdate_move (hok : SessionOk s) {xSession : SessionHandle}
    {pPart : Option (List UInt8)} {update abort : Status}
    (h : sessionStep al sha256 s (.digest (.cDigestUpdate xSession pPart update abort)) =
      some (s', a))
    (hp : ∀ q, xSession = some q → q = p) : SessionMove p False s s' := by
  cases hc : digestCheck s.digest xSession with
  | none => simp [sessionStep, digestStep, cDigestUpdate, hc] at h
  | some r =>
    obtain ⟨e, -, rfl⟩ | ⟨q, x, rfl, hx, rfl⟩ := digestCheck_cases hc
    · simp only [sessionStep, digestStep, cDigestUpdate, hc, Option.some.injEq, Prod.mk.injEq] at h
      obtain ⟨rfl, -⟩ := h
      exact .refl hok p _
    · obtain rfl := hp q rfl
      cases pPart with
      | none =>
        simp only [sessionStep, digestStep, cDigestUpdate, hc, Option.some.injEq,
          Prod.mk.injEq] at h
        obtain ⟨rfl, -⟩ := h
        exact .refl hok q _
      | some part =>
        cases hop : x.pxHashOperationHandle with
        | none =>
          simp only [sessionStep, digestStep, cDigestUpdate, hc, hop, Option.some.injEq,
            Prod.mk.injEq] at h
          obtain ⟨rfl, -⟩ := h
          exact .refl hok q _
        | some op =>
          obtain ⟨blk, hblk⟩ := Option.ne_none_iff_exists'.1
            (hok.live (.hash q) op ((own_hash hx).trans hop))
          have hfree := Heap.free_eq hblk
          simp only [sessionStep, digestStep, cDigestUpdate, hc, hop, ne_eq] at h
          by_cases hm : x.xOperationInProgress = ckmSha256
          · by_cases hu : update = psaSuccess
            · simp only [hm, hu, not_true_eq_false, if_false, Option.some.injEq, Prod.mk.injEq] at h
              obtain ⟨rfl, -⟩ := h
              exact .same hok rfl rfl rfl hok.wf (Nat.le_refl _) rfl
            · have hfree' : s.digest.heap.free op = _ := hfree
              simp only [hm, hu, not_true_eq_false, not_false_eq_true, if_false, if_true, hfree',
                Option.some.injEq, Prod.mk.injEq] at h
              obtain ⟨rfl, -⟩ := h
              exact .freeHash hok hx hop rfl rfl rfl rfl rfl rfl rfl
          · simp only [hm, not_false_eq_true, if_true, Option.some.injEq, Prod.mk.injEq] at h
            obtain ⟨rfl, -⟩ := h
            exact .refl hok q _

theorem cDigestFinal_move (hok : SessionOk s) {xSession : SessionHandle} {pDigest : Bool}
    {pulDigestLen : Option Nat} {f : FinishAns}
    (h : sessionStep al sha256 s (.digest (.cDigestFinal xSession pDigest pulDigestLen f)) =
      some (s', a))
    (hp : ∀ q, xSession = some q → q = p) : SessionMove p False s s' := by
  cases hc : digestCheck s.digest xSession with
  | none => simp [sessionStep, digestStep, cDigestFinal, hc] at h
  | some r =>
    obtain ⟨e, -, rfl⟩ | ⟨q, x, rfl, hx, rfl⟩ := digestCheck_cases hc
    · simp only [sessionStep, digestStep, cDigestFinal, hc, Option.some.injEq, Prod.mk.injEq] at h
      obtain ⟨rfl, -⟩ := h
      exact .refl hok p _
    · obtain rfl := hp q rfl
      cases pulDigestLen with
      | none =>
        simp only [sessionStep, digestStep, cDigestFinal, hc, Option.some.injEq,
          Prod.mk.injEq] at h
        obtain ⟨rfl, -⟩ := h
        exact .refl hok q _
      | some len =>
        simp only [sessionStep, digestStep, cDigestFinal, hc, ne_eq] at h
        by_cases hm : x.xOperationInProgress = ckmSha256
        · obtain ⟨op, hop⟩ := Option.ne_none_iff_exists'.1 ((hok.opened q x hx).2.2 hm)
          obtain ⟨blk, hblk⟩ := Option.ne_none_iff_exists'.1
            (hok.live (.hash q) op ((own_hash hx).trans hop))
          have hfree : s.digest.heap.free op = _ := Heap.free_eq hblk
          simp only [hm, not_true_eq_false, if_false, hop, hfree] at h
          -- a buffer that is too small, a digest, a failure of PSA, and no buffer
          split_ifs at h
          · obtain ⟨rfl, -⟩ := Prod.mk.inj (Option.some.inj h)
            exact .refl hok q _
          · obtain ⟨rfl, -⟩ := Prod.mk.inj (Option.some.inj h)
            exact .freeHash hok hx hop rfl rfl rfl rfl rfl rfl rfl
          · obtain ⟨rfl, -⟩ := Prod.mk.inj (Option.some.inj h)
            exact .freeHash hok hx hop rfl rfl rfl rfl rfl rfl rfl
          · obtain ⟨rfl, -⟩ := Prod.mk.inj (Option.some.inj h)
            exact .refl hok q _
        · simp only [hm, not_false_eq_true, if_true, Option.some.injEq, Prod.mk.injEq] at h
          obtain ⟨rfl, -⟩ := h
          refine .hash hok hx rfl rfl rfl (.refl hok.wf ?_) rfl fun hc => ?_
          · exact own_hash hx ▸ hok.live (.hash q)
          · exact absurd hc (show pkcs11NoOperation ≠ ckmSha256 by decide)

theorem cOpenSession_move (hok : SessionOk s) {serial pxSession signMutex verifyMutex : Bool}
    (h : sessionStep al sha256 s
      (.digest (.cOpenSession serial pxSession signMutex verifyMutex)) = some (s', a))
    (hp : ∀ q, a.xSession = some q → q = p) : SessionMove p False s s' := by
  by_cases hgo : serial = true ∧ pxSession = true ∧ s.digest.xIsInitialized = true
  · obtain ⟨rfl, rfl, hi⟩ := hgo
    simp only [sessionStep, digestStep, cOpenSession, hi, not_true_eq_false, if_false] at h
    obtain ⟨-, hmal⟩ | ⟨-, b, -, hmal⟩ := malloc_cases al s.digest.heap sizeofP11Session
    · simp only [hmal, Option.some.injEq, Prod.mk.injEq] at h
      obtain ⟨rfl, -⟩ := h
      exact .same hok rfl hi.symm rfl (hok.wf.mono (Nat.le_succ _)) (Nat.le_succ _) rfl
    · have hnone : s.heap.mem s.heap.next = none := hok.wf _ (Nat.le_refl _)
      simp only [hmal] at h
      by_cases hmutex : signMutex = true ∧ verifyMutex = true
      · rw [if_pos hmutex] at h
        obtain ⟨rfl, rfl⟩ := Prod.mk.inj (Option.some.inj h)
        obtain rfl := hp _ rfl
        exact .opened hok b rfl rfl rfl rfl
      · have hfree := Heap.free_eq (h := ⟨s.digest.heap.next + 1,
          Function.update s.digest.heap.mem s.digest.heap.next (some b)⟩) (Function.update_self ..)
        simp only [hmutex, if_false, hfree, Option.some.injEq, Prod.mk.injEq] at h
        obtain ⟨rfl, -⟩ := h
        have hmem : Function.update (Function.update s.heap.mem s.heap.next (some b)) s.heap.next
            none = s.heap.mem := by
          rw [Function.update_idem]
          exact Function.update_eq_self_iff.2 hnone.symm
        refine .same hok rfl hi.symm rfl ?_ (Nat.le_succ _) hmem
        intro q hq
        exact (congrFun hmem q).trans (hok.wf q (Nat.le_of_succ_le hq))
  · have hsame : ∃ rv, cOpenSession al s.digest serial pxSession signMutex verifyMutex =
        some (s.digest, { rv := rv }) := by
      unfold cOpenSession
      cases serial <;> cases pxSession <;> simp_all
    obtain ⟨rv, hsame⟩ := hsame
    simp only [sessionStep, digestStep, hsame, Option.some.injEq, Prod.mk.injEq] at h
    obtain ⟨rfl, -⟩ := h
    exact .refl hok p _

/-- The loop over the template does to the block what it does to a buffer. -/
theorem copyLabelsTo_eq {q : Nat} {h : Heap} {buf : List UInt8} (hq : h.mem q = some buf)
    (as : List Attribute) (r : CkRv) :
    copyLabelsTo q as h r = (copyLabels as buf r).map fun c =>
      (c.1, ⟨h.next, Function.update h.mem q (some c.2)⟩) := by
  induction as generalizing h buf r with
  | nil =>
    have hsame : Function.update h.mem q (some buf) = h.mem := Function.update_eq_self_iff.2 hq.symm
    simp [copyLabelsTo, copyLabels, hsame]
  | cons a as ih =>
    unfold copyLabelsTo copyLabels
    by_cases hl : a.isLabel = true
    · rw [if_pos hl, if_pos hl]
      by_cases hfit : a.value.length ≤ buf.length
      · rw [if_pos hfit, Heap.write_eq hq hfit]
        dsimp only
        rw [ih (Function.update_self ..)]
        simp only [Function.update_idem]
      · simp [Heap.write, hq, hfit]
    · rw [if_neg hl, if_neg hl]
      exact ih hq r

/-- **A search that is granted its block**: the block gets what `copyLabels` leaves in a buffer, and is
kept when there is a label. -/
theorem startSearch_granted {as : List Attribute} {t : Attribute} (hw : s.heap.Wf)
    (hl : s.pxFindObjectLabel p = none) (hal : al.avail s.heap.next (t.value.length + 1) = true) :
    startSearch al s p t as =
      (copyLabels (t :: as) (List.replicate (t.value.length + 1) 0) .templateIncomplete).map
        fun c =>
          if c.1 = .ok then
            ((s.setHeap ⟨s.heap.next + 1, Function.update s.heap.mem s.heap.next (some c.2)⟩).setLabel p
              (some s.heap.next), .ok)
          else (s.setHeap ⟨s.heap.next + 1, s.heap.mem⟩, c.1) := by
  have hzero : ∀ b : List UInt8, b.length = t.value.length + 1 →
      blit b 0 (List.replicate (t.value.length + 1) 0) = List.replicate (t.value.length + 1) 0 := by
    intro b hb
    simp [blit_zero, hb]
  have hsame : Function.update s.heap.mem s.heap.next none = s.heap.mem :=
    Function.update_eq_self_iff.2 (hw _ (Nat.le_refl _)).symm
  obtain ⟨hno, -⟩ | ⟨-, b, hlen, hmal⟩ := malloc_cases al s.heap (t.value.length + 1)
  · simp [hal] at hno
  · unfold startSearch
    rw [if_neg (not_not.2 hl), hmal]
    dsimp only
    rw [Heap.write_eq (Function.update_self ..) (by simp [hlen])]
    dsimp only
    rw [copyLabelsTo_eq (Function.update_self ..)]
    simp only [hzero b hlen, Function.update_idem]
    cases copyLabels (t :: as) (List.replicate (t.value.length + 1) 0) .templateIncomplete with
    | none => rfl
    | some c =>
      by_cases hr : c.1 = .ok
      · simp [hr]
      · simp [hr, Heap.free, hsame]

theorem startSearch_move {as : List Attribute} {t : Attribute} {r : CkRv} (hok : SessionOk s)
    (hx : s.digest.sessions p = some x) (h : startSearch al s p t as = some (s', r)) :
    SessionMove p False s s' := by
  by_cases hl : s.pxFindObjectLabel p = none
  · cases hal : al.avail s.heap.next (t.value.length + 1) with
    | false =>
      simp only [startSearch, hl, ne_eq, not_true_eq_false, if_false, Heap.malloc_refused _ hal,
        Option.some.injEq, Prod.mk.injEq] at h
      obtain ⟨rfl, -⟩ := h
      exact .refused hok p _
    | true =>
      rw [startSearch_granted hok.wf hl hal, Option.map_eq_some_iff] at h
      obtain ⟨c, -, hc⟩ := h
      by_cases hr : c.1 = .ok
      · rw [if_pos hr] at hc
        obtain ⟨rfl, -⟩ := Prod.mk.inj hc
        exact .label hok hx rfl rfl rfl (hl ▸ malloc_exchange hok.wf c.2)
      · rw [if_neg hr] at hc
        obtain ⟨rfl, -⟩ := Prod.mk.inj hc
        exact .refused hok p _
  · unfold startSearch at h
    rw [if_pos hl] at h
    obtain ⟨rfl, -⟩ := Prod.mk.inj (Option.some.inj h)
    exact .refl hok p _

theorem findObjectsInit_move (hok : SessionOk s) {xSession : SessionHandle}
    {pxTemplate : Option (List Attribute)}
    (h : sessionStep al sha256 s (.cFindObjectsInit xSession pxTemplate) = some (s', a))
    (hp : ∀ q, xSession = some q → q = p) : SessionMove p False s s' := by
  obtain ⟨⟨s₁, r⟩, hf, heq⟩ := Option.map_eq_some_iff.1 h
  obtain ⟨rfl, -⟩ := Prod.mk.inj heq
  unfold findObjectsInit at hf
  cases hc : digestCheck s.digest xSession with
  | none => simp [hc] at hf
  | some check =>
    have hbad : ∀ {e}, some (s, e) = some (s₁, r) → SessionMove p False s s₁ := by
      intro e he
      obtain ⟨rfl, -⟩ := Prod.mk.inj (Option.some.inj he)
      exact .refl hok p _
    simp only [hc] at hf
    rcases pxTemplate with _ | _ | ⟨t, as⟩
    · exact hbad hf
    · exact hbad hf
    · dsimp only at hf
      split_ifs at hf
      · exact hbad hf
      · obtain ⟨e, -, rfl⟩ | ⟨q, x, rfl, hx, rfl⟩ := digestCheck_cases hc
        · exact hbad hf
        · obtain rfl := hp q rfl
          exact startSearch_move hok hx hf

theorem findObjectsFinal_move (hok : SessionOk s) {xSession : SessionHandle}
    (h : sessionStep al sha256 s (.cFindObjectsFinal xSession) = some (s', a))
    (hp : ∀ q, xSession = some q → q = p) : SessionMove p False s s' := by
  obtain ⟨⟨s₁, r⟩, hf, heq⟩ := Option.map_eq_some_iff.1 h
  obtain ⟨rfl, -⟩ := Prod.mk.inj heq
  unfold findObjectsFinal at hf
  cases hc : digestCheck s.digest xSession with
  | none => simp [hc] at hf
  | some check =>
    obtain ⟨e, -, rfl⟩ | ⟨q, x, rfl, hx, rfl⟩ := digestCheck_cases hc
    · simp only [hc, Option.some.injEq, Prod.mk.injEq] at hf
      obtain ⟨rfl, -⟩ := hf
      exact .refl hok p _
    · obtain rfl := hp q rfl
      cases hl : s.pxFindObjectLabel q with
      | none =>
        simp only [hc, hl, Option.some.injEq, Prod.mk.injEq] at hf
        obtain ⟨rfl, -⟩ := hf
        exact .refl hok q _
      | some b =>
        cases hfr : s.heap.free b with
        | none => simp [hc, hl, hfr] at hf
        | some heap =>
          simp only [hc, hl, hfr, Option.some.injEq, Prod.mk.injEq] at hf
          obtain ⟨rfl, -⟩ := hf
          refine .label hok hx rfl rfl rfl ?_
          rw [hl]
          exact .of_free hok.wf hfr

/-- The block of the digest is freed, if there is one. -/
theorem freeHashOperation_exchange {h h' : Heap} {o : Option Nat} (hw : h.Wf)
    (hlive : ∀ q, o = some q → h.mem q ≠ none) (hfr : freeHashOperation h o = some h') :
    h.Exchange False o h' none := by
  cases o with
  | none =>
    obtain rfl := Option.some.inj hfr
    exact .refl hw hlive
  | some op => exact .of_free hw hfr

/-- The owners once the session is closed: it gives up its operation, its search and itself. -/
theorem own_closed (hs : s'.digest.sessions = Function.update s.digest.sessions p none)
    (hl : s'.pxFindObjectLabel = s.pxFindObjectLabel) :
    s'.own = Function.update (Function.update (Function.update s.own (.hash p) none) (.label p) none)
      (.session p) none := by
  funext k
  by_cases hof : k.of = p
  · subst hof
    cases k <;> simp [SessionState.own, Owner.of, hs]
  · have hne : ∀ j : Owner, j.of = p → k ≠ j := fun j hj he => hof (he ▸ hj)
    rw [Function.update_of_ne (hne _ rfl), Function.update_of_ne (hne _ rfl),
      Function.update_of_ne (hne _ rfl)]
    cases k <;> simp_all [SessionState.own, Owner.of, Function.update_of_ne]

/-- **Closing** a session gives up its three blocks; the one of its search is not freed. -/
theorem closed_moves (hok : SessionOk s) (hx : s.digest.sessions p = some x) {h₁ h₂ : Heap}
    (hfr : freeHashOperation s.heap x.pxHashOperationHandle = some h₁) (hfr' : h₁.free p = some h₂) :
    s.heap.Moves (fun k => k.of = p) (s.own (.label p) ≠ none) s.own h₂
      (Function.update (Function.update (Function.update s.own (.hash p) none) (.label p) none)
        (.session p) none) := by
  have hx₁ : s.heap.Exchange False (s.own (.hash p)) h₁
      (Function.update s.own (.hash p) none (.hash p)) := by
    rw [Function.update_self, own_hash hx]
    exact freeHashOperation_exchange hok.wf (own_hash hx ▸ hok.live (.hash p)) hfr
  have hm₁ := Heap.Moves.exchange (P := fun k => k.of = p) hok.wf hok.held rfl hx₁
    fun j hj => Function.update_of_ne hj _ _
  have hx₂ : h₁.Exchange (s.own (.label p) ≠ none) (Function.update s.own (.hash p) none (.label p))
      h₁ (Function.update (Function.update s.own (.hash p) none) (.label p) none (.label p)) := by
    rw [Function.update_self, Function.update_of_ne (by simp)]
    exact (Heap.Exchange.drop hm₁.later.wf).congr fun q hq => iff_of_true trivial (by simp [hq])
  have hm₂ := Heap.Moves.exchange (P := fun k => k.of = p) hm₁.later.wf hm₁.held rfl hx₂
    fun j hj => Function.update_of_ne hj _ _
  have hself : Function.update (Function.update s.own (.hash p) none) (.label p) none (.session p) =
      some p := by
    rw [Function.update_of_ne (by simp), Function.update_of_ne (by simp), own_session hx]
  have hx₃ : h₁.Exchange False
      (Function.update (Function.update s.own (.hash p) none) (.label p) none (.session p)) h₂
      (Function.update (Function.update (Function.update s.own (.hash p) none) (.label p) none)
        (.session p) none (.session p)) := by
    rw [Function.update_self, hself]
    exact .of_free hm₂.later.wf hfr'
  have hm₃ := Heap.Moves.exchange (P := fun k => k.of = p) hm₂.later.wf hm₂.held rfl hx₃
    fun j hj => Function.update_of_ne hj _ _
  exact ((hm₁.trans hm₂).trans hm₃).imp (by simp)

theorem cCloseSession_move (hok : SessionOk s) {xSession : SessionHandle}
    (h : sessionStep al sha256 s (.digest (.cCloseSession xSession)) = some (s', a))
    (hp : ∀ q, xSession = some q → q = p) :
    SessionMove p (Loses al s (.digest (.cCloseSession xSession))) s s' := by
  cases hc : digestCheck s.digest xSession with
  | none => simp [sessionStep, digestStep, cCloseSession, hc] at h
  | some r =>
    obtain ⟨e, -, rfl⟩ | ⟨q, x, rfl, hx, rfl⟩ := digestCheck_cases hc
    · simp only [sessionStep, digestStep, cCloseSession, hc, Option.some.injEq, Prod.mk.injEq] at h
      obtain ⟨rfl, -⟩ := h
      exact .refl hok p _
    · obtain rfl := hp q rfl
      simp only [sessionStep, digestStep, cCloseSession, hc] at h
      cases hfr : freeHashOperation s.digest.heap x.pxHashOperationHandle with
      | none => simp [hfr] at h
      | some h₁ =>
        cases hfr' : h₁.free q with
        | none => simp [hfr, hfr'] at h
        | some h₂ =>
          simp only [hfr, hfr', Option.some.injEq, Prod.mk.injEq] at h
          obtain ⟨hs', -⟩ := h
          have hs : s'.digest.sessions = Function.update s.digest.sessions q none := by
            rw [← hs']
            rfl
          have hmoves := closed_moves hok hx hfr hfr'
          rw [← own_closed hs (by rw [← hs']), show h₂ = s'.heap by rw [← hs']; rfl] at hmoves
          refine ⟨⟨hmoves.later.wf, hmoves.held, ?_⟩, hmoves⟩
          intro r y hy
          by_cases hr : r = q
          · subst hr
            simp [hs] at hy
          · rw [hs, Function.update_of_ne hr] at hy
            rw [← hs']
            exact hok.opened r y hy

/-- **Every call** moves the blocks of its own session only. -/
theorem sessionStep_move (hok : SessionOk s) {c : SessionCall}
    (h : sessionStep al sha256 s c = some (s', a)) (hp : ∀ q, c.on a = some q → q = p) :
    SessionMove p (Loses al s c) s s' := by
  cases c with
  | cFindObjectsInit => exact findObjectsInit_move hok h hp
  | cFindObjectsFinal => exact findObjectsFinal_move hok h hp
  | digest d =>
    cases d with
    | cOpenSession => exact cOpenSession_move hok h hp
    | cCloseSession => exact cCloseSession_move hok h hp
    | cDigestInit => exact cDigestInit_move hok h hp
    | cDigestUpdate => exact cDigestUpdate_move hok h hp
    | cDigestFinal => exact cDigestFinal_move hok h hp

/-- A live session can be closed. -/
theorem close_returns (hok : SessionOk s) (hx : s.digest.sessions p = some x) :
    ∃ s', sessionStep al sha256 s (.digest (.cCloseSession (some p))) = some (s', { rv := .ok }) ∧
      s'.digest.sessions p = none := by
  obtain ⟨h₁, hfr, hp⟩ : ∃ h₁, freeHashOperation s.digest.heap x.pxHashOperationHandle = some h₁ ∧
      h₁.mem p ≠ none := by
    have hown := own_session hx
    cases hop : x.pxHashOperationHandle with
    | none => exact ⟨_, rfl, hok.live _ _ hown⟩
    | some op =>
      have hhash := (own_hash hx).trans hop
      obtain ⟨blk, hblk⟩ := Option.ne_none_iff_exists'.1 (hok.live _ _ hhash)
      refine ⟨_, Heap.free_eq hblk, ?_⟩
      have hne : p ≠ op := by
        rintro rfl
        cases hok.held.unique _ _ _ hown hhash
      show Function.update s.heap.mem op none p ≠ none
      rw [Function.update_of_ne hne]
      exact hok.live _ _ hown
  obtain ⟨blk, hblk⟩ := Option.ne_none_iff_exists'.1 hp
  refine ⟨{ s with digest := ({ s.digest with
    heap := ⟨h₁.next, Function.update h₁.mem p none⟩ } : DigestState).setSession p none }, ?_, ?_⟩
  · simp only [sessionStep, digestStep, cCloseSession, sessionCheck_live hok hx, hfr,
      Heap.free_eq hblk]
  · exact Function.update_self ..

/-! ## Runs -/

variable {s₀ : SessionState} {tr : List (Entry SessionState SessionCall DigestAns)}

/-- The call is on the session `p`. -/
def On (p : Nat) (e : Entry SessionState SessionCall DigestAns) : Prop := e.inp.on e.out = some p

instance (p : Nat) (e : Entry SessionState SessionCall DigestAns) : Decidable (On p e) :=
  inferInstanceAs (Decidable (_ = _))

/-- Some session that a call is on: none other moves. -/
theorem sessionStep_moves (hok : SessionOk s) {c : SessionCall}
    (h : sessionStep al sha256 s c = some (s', a)) (p : Nat) :
    ∃ q, SessionMove q (Loses al s c) s s' ∧ (c.on a ≠ some p → q ≠ p) := by
  cases hon : c.on a with
  | none =>
    refine ⟨p + 1, sessionStep_move hok h (by simp [hon]), ?_⟩
    intro _
    omega
  | some q =>
    refine ⟨q, sessionStep_move hok h (by simp [hon]), ?_⟩
    rintro hne rfl
    exact hne rfl

theorem SessionOk.boot (h₀ : s₀.digest.Closed) : SessionOk s₀ := by
  have hnone : ∀ k, s₀.own k = none := fun k => own_gone (h₀.sessions _) rfl
  refine ⟨h₀.wf, ⟨?_, ?_⟩, ?_⟩
  · intro k q hq
    simp [hnone] at hq
  · intro j k q hq
    simp [hnone] at hq
  · intro p x hx
    simp [h₀.sessions] at hx

/-- **Every run** keeps the invariant. -/
theorem SessionOk.run (h₀ : s₀.digest.Closed) (h : Exec (sessionMachine al sha256) s₀ tr s) :
    SessionOk s ∧ ∀ e ∈ tr, SessionOk e.pre := by
  have hinv : ∀ s c s' a, SessionOk s → (sessionMachine al sha256).step s c = some (s', a) →
      SessionOk s' := by
    intro s c s' a hok hs
    obtain ⟨q, hmove, -⟩ := sessionStep_moves hok hs 0
    exact hmove.ok
  exact ⟨h.inv hinv (.boot h₀), fun e he => h.mem_pre hinv (.boot h₀) he⟩

/-- What the calls on other sessions leave alone. -/
theorem other_moves (hok : SessionOk s) {c : SessionCall}
    (h : sessionStep al sha256 s c = some (s', a)) (hon : c.on a ≠ some p) :
    s.heap.Later s'.heap ∧ ∀ k : Owner, k.of = p → s'.own k = s.own k := by
  obtain ⟨q, hmove, hq⟩ := sessionStep_moves hok h p
  refine ⟨hmove.moves.later, ?_⟩
  intro k hk
  exact hmove.moves.others k fun he => hq hon (he ▸ hk)

/-- **The blocks of a session.** In a run from a module without sessions, a session can be closed. When no
call on it lost a block, and closing it loses none, each block that was given out in a call on it is freed
once by then. -/
theorem session_blocks_freed (h₀ : s₀.digest.Closed) (h : Exec (sessionMachine al sha256) s₀ tr s)
    {p : Nat} (hlive : s.digest.sessions p ≠ none)
    (hno : ∀ e ∈ tr, On p e → ¬Loses al e.pre e.inp)
    (hclose : ¬Loses al s (.digest (.cCloseSession (some p)))) :
    ∃ s', sessionStep al sha256 s (.digest (.cCloseSession (some p))) = some (s', { rv := .ok }) ∧
      ∀ b, TakenIn SessionState.heap (On p) (tr ++
          [⟨s, .digest (.cCloseSession (some p)), { rv := .ok }, s'⟩]) b →
        s'.heap.mem b = none ∧ timesFreed SessionState.heap b (tr ++
          [⟨s, .digest (.cCloseSession (some p)), { rv := .ok }, s'⟩]) = 1 := by
  have hok := (SessionOk.run h₀ h).1
  obtain ⟨x, hx⟩ := Option.ne_none_iff_exists'.1 hlive
  have hret : ∃ s', (sessionMachine al sha256).step s (.digest (.cCloseSession (some p))) =
      some (s', { rv := .ok }) ∧ s'.digest.sessions p = none := close_returns hok hx
  obtain ⟨s', hstep, hclosed⟩ := hret
  refine ⟨s', hstep, ?_⟩
  intro b hb
  have hrun := h.snoc hstep
  have hpre := (SessionOk.run h₀ hrun).2
  have hlater : ∀ e ∈ tr ++ [⟨s, .digest (.cCloseSession (some p)), { rv := .ok }, s'⟩],
      e.pre.heap.Later e.post.heap := by
    intro e he
    obtain ⟨q, hmove, -⟩ := sessionStep_moves (hpre e he) (hrun.mem he) p
    exact hmove.moves.later
  have hdead : s'.heap.mem b = none := by
    by_contra hbl
    have hheld : ∃ k : Owner, k.of = p ∧ s'.own k = some b := by
      refine held_of_taken hrun h₀.wf ?_ ?_ hb hbl
      · intro e he hon
        have hmove := sessionStep_move (hpre e he) (hrun.mem he)
          fun q hq => Option.some.inj (hq.symm.trans hon)
        refine hmove.moves.imp fun hl => ?_
        obtain he | he := List.mem_append.1 he
        · exact hno e he hon hl
        · obtain rfl := List.mem_singleton.1 he
          exact hclose hl
      · intro e he hon
        exact other_moves (hpre e he) (hrun.mem he) hon
    obtain ⟨k, hk, hkb⟩ := hheld
    rw [own_gone hclosed hk] at hkb
    cases hkb
  refine ⟨hdead, ?_⟩
  obtain ⟨hge, hlt⟩ := hb.bounds hrun hlater
  rw [(timesFreed_since hrun hlater h₀.wf).2 b hge, if_pos ⟨hlt, hdead⟩]

/-! ## Runs that lose nothing, and runs that do -/

/-- An initialized module without sessions. -/
def noSearch : SessionState := ⟨noSession, fun _ => none⟩

/-- A call that opens a session. -/
def opens : SessionCall := .digest (.cOpenSession true true true true)

/-- A call that starts a digest, with what PSA answers. -/
def startsDigest (setup : Status) : SessionCall :=
  .digest (.cDigestInit (some 0) (some ckmSha256) setup)

/-- A call that starts a search. -/
def startsSearch : SessionCall := .cFindObjectsInit (some 0) (some [⟨true, [0x61]⟩])

/-- A call that closes the session. -/
def closes : SessionCall := .digest (.cCloseSession (some 0))

/-- Two digests, the first of which fails, and a search that is refused and repeated. -/
def tidyCalls : List SessionCall :=
  [opens, startsDigest psaSuccess,
    .digest (.cDigestUpdate (some 0) (some [0x61]) psaErrorInsufficientMemory psaSuccess),
    .cFindObjectsInit (some 0) (some [⟨false, []⟩]), startsSearch, startsSearch,
    .cFindObjectsFinal (some 0), startsDigest psaSuccess]

theorem session_blocks_freed_tidy : ∃ tr s s',
    Exec (sessionMachine .granting fun _ => sha256Abc) noSearch tr s ∧
    sessionStep .granting (fun _ => sha256Abc) s closes = some (s', { rv := .ok }) ∧
    ∀ b, b < 5 → timesFreed SessionState.heap b (tr ++ [⟨s, closes, { rv := .ok }, s'⟩]) = 1 := by
  have hrun : (exec? (sessionMachine .granting fun _ => sha256Abc) noSearch tidyCalls).map (fun r =>
      (decide (∀ e ∈ r.1, On 0 e → ¬Loses .granting e.pre e.inp),
        decide (Loses .granting r.2 closes), (r.2.digest.sessions 0).isSome,
        decide (∀ b < 5, ∃ e ∈ r.1, On 0 e ∧ e.pre.heap.next ≤ b ∧ b < e.post.heap.next))) =
      some (true, false, true, true) := by
    decide +kernel
  obtain ⟨⟨tr, s⟩, hr, hfacts⟩ := Option.map_eq_some_iff.1 hrun
  simp only [Prod.mk.injEq, decide_eq_true_eq, decide_eq_false_iff_not] at hfacts
  obtain ⟨hno, hclose, hlive, htaken⟩ := hfacts
  obtain ⟨s', hstep, hfreed⟩ := session_blocks_freed noSession_closed (exec?_exec hr)
    (by intro hc; simp [hc] at hlive) hno hclose
  refine ⟨tr, s, s', exec?_exec hr, hstep, ?_⟩
  intro b hb
  obtain ⟨e, he, hmine⟩ := htaken b hb
  exact (hfreed b ⟨e, List.mem_append_left _ he, hmine⟩).2

/-- A digest that is started twice, a set-up that fails, and a search that is not ended. -/
def leakingCalls : List (List SessionCall) :=
  [[opens, startsDigest psaSuccess, startsDigest psaSuccess, closes],
    [opens, startsDigest psaErrorInsufficientMemory, closes],
    [opens, startsSearch, closes]]

/-- The calls close a session and never free the block that its second request gets. -/
def LosesBlock (calls : List SessionCall) : Prop := ∃ tr s,
  exec? (sessionMachine .granting fun _ => sha256Abc) noSearch calls = some (tr, s) ∧
  s.digest.sessions 0 = none ∧ TakenIn SessionState.heap (On 0) tr 1 ∧
  timesFreed SessionState.heap 1 tr = 0

theorem leakingCalls_lose : ∀ calls ∈ leakingCalls, LosesBlock calls := by
  have hruns : ∀ calls ∈ leakingCalls,
      (exec? (sessionMachine .granting fun _ => sha256Abc) noSearch calls).map (fun r =>
        ((r.2.digest.sessions 0).isNone,
          decide (∃ e ∈ r.1, On 0 e ∧ e.pre.heap.next ≤ 1 ∧ 1 < e.post.heap.next),
          timesFreed SessionState.heap 1 r.1)) = some (true, true, 0) := by
    decide +kernel
  intro calls hc
  obtain ⟨⟨tr, s⟩, hr, hfacts⟩ := Option.map_eq_some_iff.1 (hruns calls hc)
  simp only [Prod.mk.injEq, decide_eq_true_eq, Option.isNone_iff_eq_none] at hfacts
  exact ⟨tr, s, hr, hfacts⟩

theorem session_blocks_lost : LosesBlock [opens, startsDigest psaSuccess, startsDigest psaSuccess, closes] ∧
    LosesBlock [opens, startsDigest psaErrorInsufficientMemory, closes] ∧
    LosesBlock [opens, startsSearch, closes] := by
  have hlose := leakingCalls_lose
  simp only [leakingCalls, List.forall_mem_cons] at hlose
  exact ⟨hlose.1, hlose.2.1, hlose.2.2.1⟩

end Pkcs11
