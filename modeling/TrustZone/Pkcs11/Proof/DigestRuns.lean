import TrustZone.Pkcs11.Proof.Digest

/-!
# Runs of digests

`DigestHist`: where the operation of a session comes from. It was set up, and is neither finished nor
aborted since; its input is what `C_DigestUpdate` accepted since the last accepted `C_DigestInit`
(`InputSince`). `digest_run`: what this says of every state and every step of a run.
-/

namespace Pkcs11

open Lib Psa Machine

/-! ## The past of an operation -/

/-- The step sets the operation up. -/
def SetsUp (op : Nat) (e : Entry DigestState DigestCall DigestAns) : Prop :=
  HashCall.setup op psaSuccess ∈ e.out.psa

/-- The step finishes or aborts the operation. -/
def Ends (op : Nat) (e : Entry DigestState DigestCall DigestAns) : Prop :=
  ∃ h ∈ e.out.psa, h.ends = some op

/-- The parts that `C_DigestUpdate` accepts on the session. -/
def acceptedParts (xSession : SessionHandle) (tr : List (Entry DigestState DigestCall DigestAns)) :
    List (List UInt8) :=
  tr.filterMap fun e => acceptedPart xSession e.inp e.out

/-- `data` is the concatenation of the parts accepted on the session since its last accepted
`C_DigestInit`. -/
def InputSince (xSession : SessionHandle) (tr : List (Entry DigestState DigestCall DigestAns))
    (data : List UInt8) : Prop :=
  ∃ tr₁ e tr₂, tr = tr₁ ++ e :: tr₂ ∧ Started xSession e.inp e.out ∧
    (∀ e' ∈ tr₂, ¬Started xSession e'.inp e'.out) ∧ data = (acceptedParts xSession tr₂).flatten

/-- **The invariant** of runs. -/
structure DigestHist (tr : List (Entry DigestState DigestCall DigestAns)) (s : DigestState) :
    Prop where
  ok : DigestOk s
  live : ∀ p op, Owns s p op → Since (SetsUp op) (fun e => ¬Ends op e) tr
  input : ∀ p op, Owns s p op → InputSince (some p) tr (s.hashes op)

variable {al : Allocator} {sha256 : List UInt8 → List UInt8} {s₀ s s' : DigestState} {p : Nat}
  {c : DigestCall} {a : DigestAns} {tr : List (Entry DigestState DigestCall DigestAns)}

theorem InputSince.now {xSession : SessionHandle} {e : Entry DigestState DigestCall DigestAns}
    (he : Started xSession e.inp e.out) : InputSince xSession (tr ++ [e]) [] :=
  ⟨tr, e, [], rfl, he, by simp, rfl⟩

theorem InputSince.keep {xSession : SessionHandle} {e : Entry DigestState DigestCall DigestAns}
    {data : List UInt8} (h : InputSince xSession tr data) (he : ¬Started xSession e.inp e.out) :
    InputSince xSession (tr ++ [e]) (data ++ (acceptedPart xSession e.inp e.out).getD []) := by
  obtain ⟨tr₁, e₀, tr₂, rfl, hs, hn, rfl⟩ := h
  refine ⟨tr₁, e₀, tr₂ ++ [e], by simp, hs, ?_, ?_⟩
  · intro e' hm
    obtain hm | hm := List.mem_append.1 hm
    · exact hn e' hm
    · rw [List.mem_singleton.1 hm]
      exact he
  · unfold acceptedParts
    cases hp : acceptedPart xSession e.inp e.out with
    | none => simp [List.filterMap_append, hp]
    | some part => simp [List.filterMap_append, hp]

/-- A session that the step is not about keeps its operation and the input of it. -/
theorem DigestStep.other (h : DigestStep sha256 p s c a s') (hok : DigestOk s) {q op : Nat}
    (hq : q ≠ p) (hown : Owns s' q op) :
    Owns s q op ∧ ¬Owns s p op ∧ s'.hashes op = s.hashes op := by
  obtain ⟨x, hx, ho⟩ := hown
  rw [h.others q hq] at hx
  have hs : Owns s q op := ⟨x, hx, ho⟩
  have hp : ¬Owns s p op := fun hp => hq (hok.unique q p op hs hp)
  exact ⟨hs, hp, h.hashes op (hok.block q op hs).1 hp⟩

/-- **One step** keeps the invariant. -/
theorem DigestHist.step (hist : DigestHist tr s) (h : DigestStep sha256 p s c a s') :
    DigestHist (tr ++ [⟨s, c, a, s'⟩]) s' := by
  constructor
  · exact h.ok hist.ok
  · intro q op hown
    by_cases hq : q = p
    · subst hq
      obtain ⟨-, -, ⟨-, -, hset, -⟩ | ⟨hold, -⟩⟩ := h.operation op hown
      · exact .now hset
      · refine (hist.live q op hold).keep ?_
        intro ⟨call, hm, he⟩
        exact (h.ends call hm op he).2 hown
    · obtain ⟨hs, hp, -⟩ := h.other hist.ok hq hown
      refine (hist.live q op hs).keep ?_
      intro ⟨call, hm, he⟩
      exact hp (h.ends call hm op he).1
  · intro q op hown
    by_cases hq : q = p
    · subst hq
      obtain ⟨-, -, ⟨-, hstart, -, hnil⟩ | ⟨hold, hstart, hmore⟩⟩ := h.operation op hown
      · rw [hnil]
        exact .now hstart
      · rw [hmore]
        exact (hist.input q op hold).keep hstart
    · obtain ⟨hs, -, hsame⟩ := h.other hist.ok hq hown
      have hne : (some q : SessionHandle) ≠ some p := by simpa using hq
      have hstart : ¬Started (some q) c a := fun hst => hne (h.named _ (.inl hst))
      have hnone : acceptedPart (some q) c a = none := by
        by_contra ha
        exact hne (h.named _ (.inr ha))
      have hkeep := (hist.input q op hs).keep (e := ⟨s, c, a, s'⟩) hstart
      simpa [hnone, hsame] using hkeep

/-- A module without a session. -/
structure DigestState.Closed (s : DigestState) : Prop where
  wf : s.heap.Wf
  sessions : ∀ p, s.sessions p = none

/-- **Every run** keeps the invariant. -/
theorem DigestHist.run (h₀ : s₀.Closed) (h : Exec (digestMachine al sha256) s₀ tr s) :
    DigestHist tr s := by
  have hnone : ∀ p op, ¬Owns s₀ p op := by
    intro p op ⟨x, hx, _⟩
    rw [h₀.sessions p] at hx
    cases hx
  refine Exec.hist (I := DigestHist) ?_ h ?_
  · intro tr s c s' a hist hs
    obtain ⟨p, hstep⟩ := digestStep_spec hist.ok hs
    exact hist.step hstep
  · refine ⟨⟨h₀.wf, ?_, ?_, ?_, ?_⟩, ?_, ?_⟩
    · simp [h₀.sessions]
    · simp [h₀.sessions]
    · exact fun p op hown => absurd hown (hnone p op)
    · exact fun p q op hown => absurd hown (hnone p op)
    · exact fun p op hown => absurd hown (hnone p op)
    · exact fun p op hown => absurd hown (hnone p op)

/-- **Digests.** In every state that is reached a session has an operation in progress exactly when it
holds a hash operation, and every call on a live session returns. In every step PSA updates and
finishes only an operation that was set up and is neither finished nor aborted since, and a digest
that is handed out is that of the parts accepted since the last accepted `C_DigestInit`. -/
theorem digest_run (h₀ : s₀.Closed) (h : Exec (digestMachine al sha256) s₀ tr s) :
    (∀ p x, s.sessions p = some x →
      (x.xOperationInProgress = ckmSha256 ↔ x.pxHashOperationHandle ≠ none)) ∧
    (∀ c : DigestCall, c.OnLive s → ∃ s' a, digestStep al sha256 s c = some (s', a)) ∧
    ∀ tr₁ e tr₂, tr = tr₁ ++ e :: tr₂ →
      (∀ l call l' op, e.out.psa = l ++ call :: l' → call.uses = some op →
        l = [] ∧ Since (SetsUp op) (fun e => ¬Ends op e) tr₁) ∧
      ∀ xSession len f, e.inp = .cDigestFinal xSession true len f → e.out.rv = .ok →
        ∃ data, InputSince xSession tr₁ data ∧ e.out.digest = some (sha256 data) := by
  have hist := DigestHist.run h₀ h
  refine ⟨hist.ok.agrees, fun c hc => hist.ok.returns hc, ?_⟩
  intro tr₁ e tr₂ htr
  subst htr
  have hist := DigestHist.run h₀ h.split.1
  obtain ⟨p, hstep⟩ := digestStep_spec hist.ok (h.mem (by simp : e ∈ tr₁ ++ e :: tr₂))
  constructor
  · intro l call l' op he hu
    obtain ⟨rfl, hown⟩ := hstep.uses l call l' op he hu
    exact ⟨rfl, hist.live p op hown⟩
  · intro xSession len f hc hrv
    obtain ⟨rfl, op, hown, hd⟩ := hstep.final xSession len f hc hrv
    exact ⟨_, hist.input p op hown, hd⟩

/-! ## A digest in two parts -/

/-- SHA-256 of `abc`. -/
def sha256Abc : List UInt8 :=
  [0xba, 0x78, 0x16, 0xbf, 0x8f, 0x01, 0xcf, 0xea, 0x41, 0x41, 0x40, 0xde, 0x5d, 0xae, 0x22, 0x23,
   0xb0, 0x03, 0x61, 0xa3, 0x96, 0x17, 0x7a, 0x9c, 0xb4, 0x10, 0xff, 0x61, 0xf2, 0x00, 0x15, 0xad]

/-- An initialized module that has opened no session. -/
def noSession : DigestState := ⟨true, .empty, fun _ => none, fun _ => []⟩

theorem noSession_closed : noSession.Closed := ⟨Heap.wf_empty, fun _ => rfl⟩

/-- `abc` in two parts, after an operation that is replaced, and with a length query before the end. -/
def digestAbc : List DigestCall :=
  [.cOpenSession true true true true, .cDigestInit (some 0) (some ckmSha256) psaSuccess,
    .cDigestUpdate (some 0) (some [0x78]) psaSuccess psaSuccess,
    .cDigestInit (some 0) (some ckmSha256) psaSuccess,
    .cDigestUpdate (some 0) (some [0x61, 0x62]) psaSuccess psaSuccess,
    .cDigestUpdate (some 0) (some [0x63]) psaSuccess psaSuccess,
    .cDigestFinal (some 0) false (some 0) ⟨psaSuccess, 0⟩]

/-- The call that hands the digest out. -/
def digestAbcFinal : DigestCall := .cDigestFinal (some 0) true (some 32) ⟨psaSuccess, 0⟩

theorem digest_run_abc : ∃ tr₁ e s,
    Exec (digestMachine .granting fun _ => sha256Abc) noSession (tr₁ ++ [e]) s ∧
    e.inp = digestAbcFinal ∧ e.out.digest = some sha256Abc ∧
    ∃ data, InputSince (some 0) tr₁ data := by
  have hrun : (exec? (digestMachine .granting fun _ => sha256Abc) noSession digestAbc).bind
      (fun r => (digestStep .granting (fun _ => sha256Abc) r.2 digestAbcFinal).map (·.2)) =
        some { rv := .ok, psa := [.finish 2 psaSuccess], digest := some sha256Abc,
               pulDigestLen := some 32 } := by
    decide +kernel
  obtain ⟨⟨tr₁, s₁⟩, hr, hfinal⟩ := Option.bind_eq_some_iff.1 hrun
  obtain ⟨⟨s, a⟩, hstep, rfl⟩ := Option.map_eq_some_iff.1 hfinal
  have hstep : (digestMachine .granting fun _ => sha256Abc).step s₁ digestAbcFinal =
    some (s, _) := hstep
  have h := (exec?_exec hr).snoc hstep
  obtain ⟨data, hdata, -⟩ :=
    ((digest_run noSession_closed h).2.2 tr₁ _ [] rfl).2 (some 0) (some 32) ⟨psaSuccess, 0⟩ rfl rfl
  exact ⟨tr₁, _, s, h, rfl, rfl, data, hdata⟩

end Pkcs11
