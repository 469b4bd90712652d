import TrustZone.Crypto.PkiBlocks
import TrustZone.Crypto.Proof.ReadPublicKey

/-!
# What is left of the blocks of PKI objects
-/

namespace Crypto.Blocks

open Lib Psa

variable {b : Block} {n : Nat} {held held' : Multiset Block} {c : HeapCalls}

/-! ## Blocks -/

/-- A block that is there. -/
def blockIf (b : Block) (isSet : Bool) : Multiset Block := .replicate isSet.toNat b

@[simp] theorem blockIf_false : blockIf b false = 0 := rfl

@[simp] theorem blockIf_eq_zero {isSet : Bool} : blockIf b isSet = 0 ↔ isSet = false := by
  cases isSet <;> simp [blockIf]

theorem one_take (b : Block) : one (.take b) = [.take b] := rfl

theorem one_give (b : Block) : one (.give b) = [.give b] := rfl

theorem replicate_eq_zero : Multiset.replicate n b = 0 ↔ n = 0 := by
  rw [← Multiset.card_eq_zero, Multiset.card_replicate]

theorem take_leaves (b : Block) (n : Nat) :
    (take b n).Leaves one held (fun _ => .replicate n b + held) fun _ => True :=
  (Traced.holds_takes (one_take b) n ()).leaves

theorem give_leaves (b : Block) (n : Nat) :
    (give b n).Leaves one (.replicate n b + held) (fun _ => held) fun _ => True :=
  (Traced.holds_gives (one_give b) n ()).leaves

theorem free_leaves {b : Block} {isSet : Bool} (h : held' = blockIf b isSet + held) :
    (free b isSet).Leaves one held' (fun _ => held) fun _ => True :=
  h ▸ give_leaves b isSet.toNat

theorem malloc_leaves (b : Block) (granted : Bool) :
    (malloc b granted).Leaves one held (fun r => blockIf b r + held) fun _ => True :=
  (take_leaves b granted.toNat).bind fun _ _ => Traced.leaves_pure granted rfl trivial

/-- What is granted is lost. -/
theorem malloc_lost (b : Block) (granted : Bool) :
    (malloc b granted).Leaves one held (fun _ => held) fun _ => granted = false := by
  refine (malloc_leaves b granted).drop.imp (fun _ _ => rfl) ?_
  intro r hr
  obtain rfl := Option.some.inj hr
  simp

/-- One block is taken. -/
theorem taken_leaves {α : Type} (b : Block) (a : α) :
    (⟨[.take b], some a⟩ : HeapM α).Leaves one held (fun _ => blockIf b true + held) fun _ => True :=
  (Traced.holds_takes (one_take b) 1 a).leaves

/-- One block is taken, and nobody has it. -/
theorem lost_leaves {α : Type} (b : Block) (a : α) :
    (⟨[.take b], some a⟩ : HeapM α).Leaves one held (fun _ => held) fun _ => False := by
  refine (taken_leaves b a).drop.imp (fun _ _ => rfl) fun _ _ => ?_
  simp

/-- A block that is there is freed or lost. -/
theorem free_or_lose {b : Block} {isSet : Bool} (h : held' = blockIf b true + held) :
    (free b isSet).Leaves one held' (fun _ => held) fun _ => isSet = true := by
  cases isSet with
  | false =>
    have hfree : (free b false).Leaves one held' (fun _ => blockIf b true + held) fun _ => True :=
      Traced.leaves_pure () h.symm trivial
    exact hfree.drop.imp (fun _ _ => rfl) fun _ _ => by simp
  | true => exact (free_leaves h).imp (fun _ _ => rfl) fun _ _ => by simp

/-- A function frees its block at the end. -/
theorem free_pure {α : Type} {b : Block} {isSet : Bool} (a : α) {owned : α → Multiset Block}
    {fine : α → Prop} (h : held' = blockIf b isSet + owned a) (hfine : fine a) :
    (do free b isSet; pure a : HeapM α).Leaves one held' owned fine := by
  refine (free_leaves h).bind ?_
  intro _ _
  exact Traced.leaves_pure a rfl hfine

theorem malloc_granted {α : Type} (b : Block) (f : Bool → HeapM α) :
    malloc b true >>= f = ⟨.take b :: (f true).log, (f true).result⟩ :=
  rfl

/-! ## The steps of reading a public key -/

/-- What is read is right, and an error is not the status of success. -/
def Yields {α : Type} (x : ReadM α) (ok : α → Prop) : Prop :=
  (∀ a, x.run.result = some (.ok a) → ok a) ∧ ∀ e, x.run.result = some (.error e) → e ≠ psaSuccess

section Yields

variable {α β : Type} {ok : α → Prop} {ok' : β → Prop} {a : α} {v : ReadVars}
  {g : List UInt8 → Nat → Nat → BackWrite} {env : PkiEnv} {attrs : KeyAttributes} {size : Nat}

theorem yields_pure (h : ok a) : Yields (pure a : ReadM α) ok := by
  refine ⟨?_, nofun⟩
  intro b hb
  obtain rfl : a = b := Except.ok.inj (Option.some.inj hb)
  exact h

theorem yields_throw {e : Status} (he : e ≠ psaSuccess) : Yields (throw e : ReadM α) ok := by
  refine ⟨nofun, ?_⟩
  intro e' he'
  obtain rfl : e = e' := Except.error.inj (Option.some.inj he')
  exact he

theorem yields_bind {x : ReadM α} {f : α → ReadM β} (hx : Yields x ok) (hf : ∀ a, ok a → Yields (f a) ok') :
    Yields (x >>= f) ok' := by
  unfold Yields
  rw [ExceptT.run_bind, Traced.result_bind]
  cases hr : x.run.result with
  | none => exact ⟨nofun, nofun⟩
  | some r =>
    cases r with
    | ok a => exact hf a (hx.1 a hr)
    | error e => exact ⟨nofun, fun e' he' => Except.error.inj (Option.some.inj he') ▸ hx.2 e hr⟩

theorem yields_record (events : List BufEvent) : Yields (Crypto.record events) fun _ => True :=
  ⟨fun _ _ => trivial, nofun⟩

theorem yields_examine {xStatus : Status} (h : ok a) : Yields (examine xStatus a) ok := by
  unfold examine proceed
  split_ifs with hs
  · exact yields_pure h
  · exact yields_throw hs

theorem yields_readAssert (p : Prop) [Decidable p] : Yields (readAssert p) fun _ => True :=
  ⟨fun _ _ => trivial, by unfold readAssert; split_ifs <;> exact nofun⟩

/-- Something has been written. -/
def Written (v : ReadVars) : Prop := 0 < v.uxBytesWritten

theorem asn1Call_yields (hv : Written v) : Yields (asn1Call g v) fun r => Written r.2 :=
  yields_bind (yields_record _) fun _ _ => yields_pure hv

theorem moveExported_yields (xStatus : Status) (key exported : List UInt8) :
    Yields (moveExported xStatus key exported size) fun _ => True := by
  unfold moveExported
  split_ifs
  · exact yields_bind (yields_record _) fun _ _ => yields_pure trivial
  · exact yields_pure trivial

theorem putNullByte_yields (xStatus : Status) (v : ReadVars) : Yields (putNullByte xStatus v) Written :=
  yields_bind (yields_record _) fun _ _ => yields_examine (Nat.succ_pos _)

theorem exportKeyStep_yields : Yields (exportKeyStep env attrs size) Written := by
  unfold exportKeyStep
  by_cases hroom : size < psaExportPublicKeyOutputSize attrs.type attrs.bits.toNat + 1
  · rw [if_pos hroom]
    exact yields_throw (by decide)
  · rw [if_neg hroom]
    exact yields_bind (yields_record _) fun _ _ =>
      yields_bind (moveExported_yields _ _ _) fun v _ => putNullByte_yields _ v

theorem written_add {n : Nat} (hn : 0 < n) (ret : Int) : 0 < if 0 < ret then n + ret.toNat else n := by
  split_ifs
  · exact Nat.add_pos_left hn _
  · exact hn

theorem countCall_yields (hv : Written v) : Yields (countCall g v) Written := by
  unfold countCall
  refine yields_bind (asn1Call_yields hv) fun r hr => ?_
  dsimp only
  split_ifs
  · exact yields_pure (Nat.add_pos_left hr _)
  · exact yields_examine hr

theorem paramsCall_yields (hv : Written v) : Yields (paramsCall env attrs v) fun r => Written r.2 := by
  unfold paramsCall
  dsimp only
  split
  · split
    · exact yields_examine hv
    · split
      · exact yields_bind (asn1Call_yields hv) fun r hr => yields_examine hr
      · exact yields_examine hv
  · split
    · exact yields_examine hv
    · exact yields_examine hv

theorem algorithmCall_yields (xPkType : PkType) (hv : Written v) :
    Yields (algorithmCall env xPkType v) Written := by
  unfold algorithmCall
  dsimp only
  split
  · exact yields_examine hv
  · split
    · exact yields_examine hv
    · split
      · exact yields_bind (asn1Call_yields hv) fun r hr => yields_examine (written_add hr r.1)
      · exact yields_examine hv

theorem closeCall_yields (hv : Written v) : Yields (closeCall env v) Written := by
  unfold closeCall
  refine yields_bind (asn1Call_yields hv) fun r hr => ?_
  refine yields_bind (yields_readAssert _) fun _ _ => ?_
  split
  · exact yields_bind (asn1Call_yields hr) fun r' _ =>
      yields_examine (written_add (Nat.add_pos_left hr _) r'.1)
  · exact yields_examine hr

theorem moveStep_yields (hv : Written v) : Yields (moveStep size v) Written := by
  unfold moveStep
  refine yields_bind (yields_readAssert _) fun _ _ => yields_bind (yields_readAssert _) fun _ _ => ?_
  split
  · exact yields_bind (yields_record _) fun _ _ => yields_pure hv
  · exact yields_pure hv

theorem readSteps_yields (env : PkiEnv) (attrs : KeyAttributes) (size : Nat) :
    Yields (readSteps env attrs size) Written :=
  yields_bind exportKeyStep_yields fun _ h => yields_bind (countCall_yields h) fun _ h =>
    yields_bind (countCall_yields h) fun _ h => yields_bind (paramsCall_yields h) fun r h =>
      yields_bind (algorithmCall_yields r.1 h) fun _ h => yields_bind (closeCall_yields h) fun _ h =>
        moveStep_yields h

end Yields

/-! ## Errors -/

theorem translatePk_lt {xStatus : Status} (h : xStatus ≠ psaSuccess) : mbedtlsPsaErrTranslatePk xStatus < 0 := by
  unfold mbedtlsPsaErrTranslatePk
  rw [if_neg h]
  repeat' split
  all_goals decide

theorem toPkiStatus_success {lError : Int} : xPrvMbedtlsErrToPkiStatus lError = .success ↔ 0 ≤ lError := by
  unfold xPrvMbedtlsErrToPkiStatus mbedtlsErrX509AllocFailed mbedtlsErrErrorCorruptionDetected
    mbedtlsErrX509CertUnknownFormat mbedtlsErrX509BadInputData mbedtlsErrPemBadInputData
    mbedtlsErrPemNoHeaderFooterPresent
  split_ifs <;> simp <;> omega

/-! ## Readers -/

/-- What the reader of a storage may do. -/
inductive ObjectRead (b : Block) (calls : StorageCalls) (calloc : Nat → Bool) (uid : Nat) :
    HeapM (Int × Option (List UInt8)) → Prop
  | asserted : ObjectRead b calls calloc uid .fail
  | missing {lError : Int} (he : lError < 0) (h : ¬Allocates calls calloc uid) :
      ObjectRead b calls calloc uid (pure (lError, none))
  | lost {lError : Int} (he : lError < 0) (h : Allocates calls calloc uid)
      (hget : (StorageCalls.read calls uid).1 ≠ psaSuccess) :
      ObjectRead b calls calloc uid ⟨[.take b], some (lError, none)⟩
  | read {data : List UInt8} (h : Allocates calls calloc uid)
      (hget : StorageCalls.read calls uid = (psaSuccess, data)) :
      ObjectRead b calls calloc uid ⟨[.take b], some (0, some data)⟩

theorem readObject_cases (b : Block) (calls : StorageCalls) (calloc : Nat → Bool) (uid : Nat) :
    ObjectRead b calls calloc uid (readObject b calls calloc uid) := by
  unfold readObject
  by_cases huid : 0 < uid
  · rw [if_pos huid]
    rcases hinfo : calls.getInfo uid with ⟨xStatus, size⟩
    dsimp only
    by_cases hs : xStatus = psaSuccess
    · rw [if_neg (not_not.2 hs)]
      cases hc : calloc size with
      | false =>
        refine .missing (translatePk_lt (by decide)) ?_
        intro h
        simpa [hinfo, hc] using h.calloc
      | true =>
        have hal : Allocates calls calloc uid := ⟨by rw [hinfo]; exact hs, by rw [hinfo]; exact hc⟩
        have hread : StorageCalls.read calls uid = calls.get uid 0 size := by rw [StorageCalls.read, hinfo]
        change ObjectRead b calls calloc uid ⟨[.take b], some (mbedtlsPsaErrTranslatePk
          (calls.get uid 0 size).1, if (calls.get uid 0 size).1 = psaSuccess then
            some (calls.get uid 0 size).2 else none)⟩
        rw [← hread]
        by_cases hs' : (StorageCalls.read calls uid).1 = psaSuccess
        · rw [if_pos hs', hs']
          exact .read hal (Prod.ext hs' rfl)
        · rw [if_neg hs']
          exact .lost (translatePk_lt hs') hal hs'
    · rw [if_pos hs]
      refine .missing (translatePk_lt hs) ?_
      intro h
      exact hs (by simpa [hinfo] using h.getInfo)
  · rw [if_neg huid]
    exact .asserted

theorem readObject_leaves (b : Block) (calls : StorageCalls) (calloc : Nat → Bool) (uid : Nat) :
    (readObject b calls calloc uid).Leaves one 0 (fun r => blockIf b r.2.isSome) fun _ =>
      Allocates calls calloc uid → (StorageCalls.read calls uid).1 = psaSuccess := by
  have hcases := readObject_cases b calls calloc uid
  generalize readObject b calls calloc uid = x at hcases
  cases hcases with
  | asserted => exact Traced.leaves_fail
  | missing he h =>
    exact Traced.leaves_pure _ rfl fun hal => absurd hal h
  | lost he h hget =>
    refine (lost_leaves b _).imp (fun a ha => ?_) fun _ _ => ?_
    · obtain rfl := Option.some.inj ha
      rfl
    · simp [h, hget]
  | read h hget =>
    refine (taken_leaves b _).imp (fun a ha => ?_) fun _ _ => ?_
    · obtain rfl := Option.some.inj ha
      exact add_zero _
    · simp [hget]

theorem readObject_result {b : Block} {calls : StorageCalls} {calloc : Nat → Bool} {uid : Nat}
    {r : Int × Option (List UInt8)} (hr : (readObject b calls calloc uid).result = some r) :
    r.1 < 0 ∧ r.2 = none ∧ ¬(Allocates calls calloc uid ∧ (StorageCalls.read calls uid).1 = psaSuccess) ∨
      r = (0, some (StorageCalls.read calls uid).2) ∧ Allocates calls calloc uid ∧
        (StorageCalls.read calls uid).1 = psaSuccess := by
  have hcases := readObject_cases b calls calloc uid
  generalize readObject b calls calloc uid = x at hcases hr
  cases hcases with
  | asserted => cases hr
  | missing he h =>
    obtain rfl := Option.some.inj hr
    exact .inl ⟨he, rfl, fun hal => h hal.1⟩
  | lost he h hget =>
    obtain rfl := Option.some.inj hr
    exact .inl ⟨he, rfl, fun hal => hget hal.2⟩
  | read h hget =>
    obtain rfl := Option.some.inj hr
    exact .inr ⟨by rw [hget], h, by rw [hget]⟩

/-- What a reader of the crypto service may do: `fails` are the results of a failure, `value` makes the
result for what is read. -/
inductive Reading {α ρ : Type} (b : Block) (fails : α → Prop) (value : ρ → α) (reads : ρ → Prop) :
    HeapM α → Prop
  | asserted : Reading b fails value reads .fail
  | assertedLater : Reading b fails value reads ⟨[.take b], none⟩
  | failed {a : α} (ha : fails a) (hno : ∀ v, ¬reads v) : Reading b fails value reads (pure a)
  | freed {a : α} (ha : fails a) (hno : ∀ v, ¬reads v) :
      Reading b fails value reads ⟨[.take b, .give b], some a⟩
  | read {v : ρ} (h : reads v) : Reading b fails value reads ⟨[.take b], some (value v)⟩

section Reading

variable {α ρ : Type} {fails : α → Prop} {value : ρ → α} {reads : ρ → Prop} {x : HeapM α} {a : α}

theorem Reading.leaves (h : Reading b fails value reads x) (owned : α → Multiset Block)
    (hfails : ∀ a, fails a → owned a = 0) (hvalue : ∀ v, owned (value v) = blockIf b true) :
    x.Leaves one 0 owned fun _ => True := by
  cases h with
  | asserted => exact Traced.leaves_fail
  | assertedLater => exact ⟨_, rfl, nofun⟩
  | failed ha hno => exact Traced.leaves_pure _ (hfails _ ha) trivial
  | freed ha hno => exact (Traced.Holds.of_log rfl (by simp [one, hfails _ ha])).leaves
  | read h => exact (Traced.Holds.of_log rfl (by simp [one, hvalue, blockIf])).leaves

theorem Reading.result (h : Reading b fails value reads x) (ha : x.result = some a) :
    fails a ∧ (∀ v, ¬reads v) ∨ ∃ v, reads v ∧ a = value v := by
  cases h with
  | asserted => cases ha
  | assertedLater => cases ha
  | failed hf hno =>
    obtain rfl := Option.some.inj ha
    exact .inl ⟨hf, hno⟩
  | freed hf hno =>
    obtain rfl := Option.some.inj ha
    exact .inl ⟨hf, hno⟩
  | read h => exact .inr ⟨_, h, (Option.some.inj ha).symm⟩

end Reading

theorem xReadObjectFromPSACrypto_reading (b : Block) (env : ObjectEnv) (calloc : Nat → Bool) (id : Nat) :
    Reading b (fun r => r.1 ≠ psaSuccess ∧ r.2 = none) (fun object => (psaSuccess, some object))
      (ReadsObject env calloc id) (xReadObjectFromPSACrypto b env calloc id) := by
  unfold xReadObjectFromPSACrypto
  by_cases hid : psaKeyIdUserMin ≤ id ∧ id ≤ psaKeyIdVendorMax
  · rw [if_pos hid]
    dsimp only
    by_cases hs : (env.getKeyAttributes id).1 = psaSuccess
    · rw [if_neg (not_not.2 hs)]
      by_cases ht : psaKeyTypeIsUnstructured (env.getKeyAttributes id).2.type = true
      · rw [if_neg (not_not.2 ht)]
        cases hc : calloc (((env.getKeyAttributes id).2.bits.toNat + 7) / 8) with
        | false =>
          refine .failed ⟨by decide, rfl⟩ ?_
          intro object h
          simp [ReadsObject, hc] at h
        | true =>
          rw [malloc_granted, if_pos rfl]
          by_cases hs' : (env.exportKey id (((env.getKeyAttributes id).2.bits.toNat + 7) / 8)).1 = psaSuccess
          · rw [if_pos hs']
            split_ifs
            · exact .read ⟨hs, ht, hc, Prod.ext hs' rfl⟩
            · exact .assertedLater
          · rw [if_neg hs']
            refine .freed ⟨hs', rfl⟩ ?_
            intro object h
            exact hs' (congrArg Prod.fst h.2.2.2)
      · rw [if_pos ht]
        refine .failed ⟨by decide, rfl⟩ ?_
        intro object h
        exact ht h.2.1
    · rw [if_pos hs]
      refine .failed ⟨hs, rfl⟩ ?_
      intro object h
      exact hs h.1
  · rw [if_neg hid]
    exact .asserted

theorem Reads.unique {env : PkiEnv} {v v' : ReadVars} (h : Reads env v) (h' : Reads env v') : v = v' := by
  obtain ⟨-, size, hsize, -, hv⟩ := h
  obtain ⟨-, size', hsize', -, hv'⟩ := h'
  obtain rfl := Option.some.inj (hsize.symm.trans hsize')
  exact Except.ok.inj (Option.some.inj (hv.symm.trans hv'))

theorem xReadPublicKeyFromPSACrypto_reading (b : Block) (env : PkiEnv) :
    Reading b (fun r => r.1 ≠ psaSuccess ∧ r.2 = (none, 0))
      (fun v : ReadVars => (psaSuccess, some v.buf, v.uxBytesWritten)) (Reads env)
      (xReadPublicKeyFromPSACrypto b env) := by
  unfold xReadPublicKeyFromPSACrypto
  dsimp only
  by_cases hs : env.getKeyAttributes.1 = psaSuccess
  · rw [if_pos hs]
    cases hlen : pubKeyDerLen env env.getKeyAttributes.2.type with
    | none =>
      refine .failed ⟨by decide, rfl⟩ ?_
      intro v ⟨_, size, hsize, _⟩
      rw [hlen] at hsize
      cases hsize
    | some size =>
      have hreads : ∀ v, Reads env v → env.calloc size = true ∧
          (readSteps env env.getKeyAttributes.2 size).run.result = some (.ok v) := by
        intro v ⟨_, size', hsize, h⟩
        rw [hlen] at hsize
        obtain rfl := Option.some.inj hsize
        exact h
      dsimp only
      cases hc : env.calloc size with
      | false =>
        refine .failed ⟨by decide, rfl⟩ ?_
        intro v h
        exact Bool.false_ne_true (hc.symm.trans (hreads v h).1)
      | true =>
        rw [malloc_granted, if_pos rfl]
        split
        · exact .assertedLater
        · rename_i v hv
          exact .read ⟨hs, size, hlen, hc, hv⟩
        · rename_i xStatus hv
          refine .freed ⟨?_, rfl⟩ ?_
          · exact (readSteps_yields env _ size).2 _ hv
          · intro v h
            have := (hreads v h).2
            rw [hv] at this
            cases this
  · rw [if_neg hs]
    refine .failed ⟨hs, rfl⟩ ?_
    intro v h
    exact hs h.1

/-! ## Private keys -/

/-- What a key context owns. -/
def PkAns.owned (a : PkAns) : Multiset Block := .replicate a.numbers .pkNumbers + blockIf .pkCtx a.pkCtx

theorem PkAns.owned_eq_zero {a : PkAns} : a.owned = 0 ↔ a.Empty := by
  rw [PkAns.owned, add_eq_zero, blockIf_eq_zero, replicate_eq_zero]
  exact ⟨fun h => ⟨h.2, h.1⟩, fun h => ⟨h.numbers, h.pkCtx⟩⟩

theorem PkAns.parse_leaves (a : PkAns) :
    a.parse.Leaves one held (fun _ => a.owned + held) fun _ => True := by
  refine (take_leaves .pkCtx _).bind fun _ _ => (take_leaves .pkNumbers _).bind fun _ _ => ?_
  exact Traced.leaves_pure _ (add_assoc _ _ _) trivial

theorem PkAns.parse_result (a : PkAns) : a.parse.result = some a.ret := rfl

/-- A key is parsed into a context that nobody releases. -/
theorem PkAns.parse_lost (a : PkAns) : a.parse.Leaves one held (fun _ => held) fun _ => a.Empty :=
  a.parse_leaves.drop.imp (fun _ _ => rfl) fun _ _ => by rw [PkAns.owned_eq_zero, true_and]

theorem PkAns.Empty.ret_lt {a : PkAns} (h : a.Empty) : a.ret < 0 := by
  by_contra hret
  have := a.pkCtx_of_ret (not_lt.1 hret)
  rw [h.pkCtx] at this
  cases this

theorem readPrivateBuffer_leaves (c : HeapCalls) (pucBuffer : Option (List UInt8)) :
    (readPrivateBuffer c pucBuffer).Leaves one 0 (fun _ => 0) fun _ =>
      pucBuffer.getD [] = [] ∨ (c.pkParseKey pucBuffer).Empty := by
  unfold readPrivateBuffer
  split_ifs with h
  · exact Traced.leaves_pure _ rfl (.inl h)
  · apply Traced.Leaves.map
    exact (c.pkParseKey pucBuffer).parse_lost.imp (fun _ _ => rfl) fun _ _ => by simp [h]

theorem readPrivateBlob_leaves (c : HeapCalls) (calls : StorageCalls) (uid : Nat) :
    (readPrivateBlob c calls uid).Leaves one 0 (fun _ => 0) fun _ =>
      HeapCalls.PrivateKeyFine.BlobFine c calls uid := by
  refine Traced.leaves_bind (fun r _ => r.1 = 0 → (c.pkParseKey r.2).Empty)
    (readObject_leaves .pucPk calls c.calloc uid) ?_ ?_
  · intro r hr
    rcases readObject_result hr with ⟨he, hnone, -⟩ | ⟨rfl, -⟩
    · obtain ⟨lError, pucPk⟩ := r
      obtain rfl : pucPk = none := hnone
      simp only [if_neg he.ne, Traced.pure_bind_eq]
      exact free_pure _ (add_zero _).symm fun h => absurd h he.ne
    · dsimp only
      rw [if_pos rfl]
      refine Traced.leaves_bind (fun _ _ => True) (c.pkParseKey _).parse_lost ?_ ?_
      · intro lError _
        split_ifs
        · exact Traced.leaves_fail
        · exact free_pure _ (add_zero _).symm trivial
      · simp
  · intro r xStatus hr _
    unfold HeapCalls.PrivateKeyFine.BlobFine
    rcases readObject_result hr with ⟨he, -, hno⟩ | ⟨rfl, hal, hget⟩
    · simp only [he.ne, false_imp_iff, and_true]
      tauto
    · simp [hal, hget]

/-- The context that a public key is parsed into is lost after an error, and after a success the numbers go
over to another one. -/
theorem parseOwnPublicKey_leaves (c : HeapCalls) (der : List UInt8) :
    (parseOwnPublicKey c der).Leaves one 0 (fun _ => 0) fun lError =>
      if lError = 0 then (c.pkParsePublicKey der).numbers = 0 else (c.pkParsePublicKey der).Empty := by
  unfold parseOwnPublicKey
  refine (c.pkParsePublicKey der).parse_leaves.bind ?_
  intro lError hret
  obtain rfl := Option.some.inj hret
  generalize c.pkParsePublicKey der = a
  by_cases h : a.ret = 0
  · rw [if_pos h]
    split_ifs with htype
    · have hheld : a.owned + 0 = blockIf .pkCtx a.pkCtx + (.replicate a.numbers .pkNumbers + 0) := by
        rw [PkAns.owned, add_zero, add_zero, add_comm]
      have hfree : (do free .pkCtx a.pkCtx; pure 0 : HeapM Int).Leaves one (a.owned + 0)
          (fun _ => .replicate a.numbers .pkNumbers + 0) fun _ => True := free_pure 0 hheld trivial
      refine hfree.drop.imp (fun _ _ => rfl) ?_
      intro lError hr
      obtain rfl := Option.some.inj hr
      rw [if_pos rfl, true_and, replicate_eq_zero]
    · exact Traced.leaves_fail
  · have hpure : (pure a.ret : HeapM Int).Leaves one (a.owned + 0) (fun _ => a.owned + 0) fun _ => True :=
      Traced.leaves_pure a.ret rfl trivial
    rw [if_neg h]
    refine hpure.drop.imp (fun _ _ => rfl) ?_
    intro lError hr
    obtain rfl := Option.some.inj hr
    rw [if_neg h, true_and, PkAns.owned_eq_zero]

theorem parseOwnPublicKey_result {der : List UInt8} {lError : Int}
    (h : (parseOwnPublicKey c der).result = some lError) : lError = (c.pkParsePublicKey der).ret := by
  unfold parseOwnPublicKey at h
  rw [Traced.result_bind, PkAns.parse_result, Option.bind_some] at h
  split_ifs at h with hret htype
  · obtain rfl := Option.some.inj h
    exact hret.symm
  · cases h
  · exact (Option.some.inj h).symm

/-- The end of `lPsa_initMbedtlsPkContext`: after an error the context is freed. -/
theorem initEnd_leaves (isSet : Bool) (lError : Int) :
    (do free .pucPubKeyDer isSet; free .pxPsaPk (lError ≠ 0); pure lError : HeapM Int).Leaves one
      (blockIf .pucPubKeyDer isSet + (blockIf .pxPsaPk true + 0)) (fun _ => 0) fun _ => lError ≠ 0 := by
  refine (free_leaves rfl).bind fun _ _ => ?_
  refine Traced.leaves_bind (fun _ _ => True) (free_or_lose rfl) ?_ ?_
  · intro _ _
    exact Traced.leaves_pure lError rfl trivial
  · simp

theorem lPsaInitMbedtlsPkContext_leaves (c : HeapCalls) (id : Nat) :
    (lPsaInitMbedtlsPkContext c id).Leaves one 0 (fun _ => 0) fun _ => c.PrivateKeyFine (.psaCrypto id) := by
  unfold lPsaInitMbedtlsPkContext
  by_cases hid : id = 0
  · rw [if_pos hid]
    exact Traced.leaves_pure _ rfl (.inl hid)
  · rw [if_neg hid]
    refine (malloc_leaves .pxPsaPk c.psaPkCtxAlloc).bind fun granted hg => ?_
    obtain rfl := Option.some.inj hg
    cases hal : c.psaPkCtxAlloc with
    | false => exact Traced.leaves_pure _ (add_zero 0).symm (.inr (.inl hal))
    | true =>
      have hread := xReadPublicKeyFromPSACrypto_reading .pucPubKeyDer (c.publicKey id)
      have hleaves := hread.leaves (fun r => blockIf .pucPubKeyDer r.2.1.isSome) (by simp) (by simp)
      rw [if_pos rfl]
      refine (hleaves.framed _).bind fun r hr => ?_
      rcases hread.result hr with ⟨⟨hs, hnone⟩, hno⟩ | ⟨v, hv, rfl⟩
      · obtain ⟨xPsaStatus, out⟩ := r
        obtain rfl : out = (none, 0) := hnone
        dsimp only
        rw [if_pos hs, Traced.pure_bind_eq]
        refine (initEnd_leaves false _).imp (fun _ _ => rfl) fun _ _ => ?_
        exact iff_of_true (translatePk_lt hs).ne (.inr (.inr fun v hv => absurd hv (hno v)))
      · dsimp only [Option.getD_some]
        rw [if_neg (not_not.2 rfl)]
        refine Traced.leaves_bind (fun lError _ => lError ≠ 0) ((parseOwnPublicKey_leaves c _).framed _)
          (fun lError _ => initEnd_leaves true lError) ?_
        intro lError _ hret _
        have hfine : c.PrivateKeyFine (.psaCrypto id) ↔
            (c.pkParsePublicKey (v.buf.take v.uxBytesWritten)).Empty := by
          simp only [HeapCalls.PrivateKeyFine, hid, hal, Bool.true_eq_false, false_or]
          exact ⟨fun h => h v hv, fun h v' hv' => hv'.unique hv ▸ h⟩
        obtain rfl := parseOwnPublicKey_result hret
        rw [hfine]
        constructor
        · intro h
          have hne := h.ret_lt.ne
          rw [if_neg hne]
          exact ⟨h, hne⟩
        · intro ⟨h, hne⟩
          rwa [if_neg hne] at h

theorem xPkiReadPrivateKey_leaves (c : HeapCalls) (obj : PkiObject) :
    (xPkiReadPrivateKey c obj).Leaves one 0 (fun _ => 0) fun _ => c.PrivateKeyFine obj := by
  cases obj with
  | none => exact Traced.leaves_pure _ rfl trivial
  | pem pucBuffer => exact readPrivateBuffer_leaves c pucBuffer
  | der pucBuffer => exact readPrivateBuffer_leaves c pucBuffer
  | psaCrypto id => exact (lPsaInitMbedtlsPkContext_leaves c id).map
  | psaIts uid => exact readPrivateBlob_leaves c _ uid
  | psaPs uid => exact (readPrivateBlob_leaves c _ uid).map

theorem lPsaInitMbedtlsPkContext_success {id : Nat} {lError : Int}
    (hr : (lPsaInitMbedtlsPkContext c id).result = some lError) (hret : 0 ≤ lError) :
    ¬c.PrivateKeyFine (.psaCrypto id) := by
  unfold lPsaInitMbedtlsPkContext at hr
  by_cases hid : id = 0
  · rw [if_pos hid] at hr
    obtain rfl := Option.some.inj hr
    exact absurd hret (by decide)
  · rw [if_neg hid, Traced.result_bind] at hr
    obtain ⟨granted, hg, hr⟩ := Option.bind_eq_some_iff.1 hr
    obtain rfl := Option.some.inj hg
    cases hal : c.psaPkCtxAlloc with
    | false =>
      rw [hal] at hr
      obtain rfl := Option.some.inj hr
      exact absurd hret (by decide)
    | true =>
      rw [hal, if_pos rfl, Traced.result_bind] at hr
      obtain ⟨r, hread, hr⟩ := Option.bind_eq_some_iff.1 hr
      rcases (xReadPublicKeyFromPSACrypto_reading .pucPubKeyDer (c.publicKey id)).result hread with
        ⟨⟨hs, -⟩, -⟩ | ⟨v, hv, rfl⟩
      · dsimp only at hr
        rw [if_pos hs, Traced.pure_bind_eq] at hr
        obtain rfl := Option.some.inj hr
        exact absurd hret (not_le.2 (translatePk_lt hs))
      · dsimp only [Option.getD_some] at hr
        rw [if_neg (not_not.2 rfl), Traced.result_bind] at hr
        obtain ⟨lError', hparse, hr⟩ := Option.bind_eq_some_iff.1 hr
        obtain rfl : lError' = lError := Option.some.inj hr
        rw [parseOwnPublicKey_result hparse] at hret
        intro h
        simp only [HeapCalls.PrivateKeyFine, hid, hal, Bool.true_eq_false, false_or] at h
        exact absurd (h v hv).ret_lt (not_lt.2 hret)

theorem readPrivateBuffer_success {pucBuffer : Option (List UInt8)}
    (h : (readPrivateBuffer c pucBuffer).result = some .success) :
    ¬(pucBuffer.getD [] = [] ∨ (c.pkParseKey pucBuffer).Empty) := by
  unfold readPrivateBuffer at h
  split_ifs at h with hbuf
  · cases h
  · have hret : 0 ≤ (c.pkParseKey pucBuffer).ret := toPkiStatus_success.1 (Option.some.inj h)
    intro hfine
    exact absurd (hfine.resolve_left hbuf).ret_lt (not_lt.2 hret)

theorem readPrivateBlob_success {calls : StorageCalls} {uid : Nat}
    (h : (readPrivateBlob c calls uid).result = some .success) :
    ¬HeapCalls.PrivateKeyFine.BlobFine c calls uid := by
  unfold readPrivateBlob at h
  rw [Traced.result_bind] at h
  obtain ⟨r, hr, h⟩ := Option.bind_eq_some_iff.1 h
  rcases readObject_result hr with ⟨he, hnone, -⟩ | ⟨rfl, hal, hget⟩
  · obtain ⟨lError, pucPk⟩ := r
    obtain rfl : pucPk = none := hnone
    simp only [if_neg he.ne, Traced.pure_bind_eq] at h
    exact absurd (toPkiStatus_success.1 (Option.some.inj h)) (not_le.2 he)
  · dsimp only at h
    rw [if_pos rfl, Traced.result_bind, PkAns.parse_result, Option.bind_some] at h
    intro hfine
    have hlt := (hfine hal).2.ret_lt
    split_ifs at h
    · cases h
    · exact absurd (toPkiStatus_success.1 (Option.some.inj h)) (not_le.2 hlt)

/-- A private key that was read leaves something. -/
theorem xPkiReadPrivateKey_success {obj : PkiObject}
    (h : (xPkiReadPrivateKey c obj).result = some .success) : ¬c.PrivateKeyFine obj := by
  cases obj with
  | none => cases h
  | pem pucBuffer => exact readPrivateBuffer_success h
  | der pucBuffer => exact readPrivateBuffer_success h
  | psaCrypto id =>
    rw [xPkiReadPrivateKey, Traced.result_map] at h
    obtain ⟨lError, hr, hs⟩ := Option.map_eq_some_iff.1 h
    exact lPsaInitMbedtlsPkContext_success hr (toPkiStatus_success.1 hs)
  | psaIts uid => exact readPrivateBlob_success h
  | psaPs uid =>
    rw [xPkiReadPrivateKey, Traced.result_map] at h
    obtain ⟨xStatus, -, hs⟩ := Option.map_eq_some_iff.1 h
    cases hs

/-! ## Public keys -/

theorem lWritePublicKeyToPSACrypto_leaves (c : HeapCalls) (id : Nat) (pk : PkContext) :
    (lWritePublicKeyToPSACrypto c id pk).Leaves one 0 (fun _ => 0) fun _ =>
      pk.type = .eckey → c.pubKeyBuffer (pointSize pk) = false := by
  unfold lWritePublicKeyToPSACrypto
  by_cases hid : id = 0
  · rw [if_pos hid]
    exact Traced.leaves_fail
  · rw [if_neg hid]
    by_cases htype : pk.type = .eckey
    · rw [if_pos htype]
      refine Traced.leaves_bind (fun _ _ => True) (malloc_lost _ _) ?_ ?_
      · intro granted _
        dsimp only
        split_ifs <;> exact Traced.leaves_pure _ rfl trivial
      · simp [htype]
    · rw [if_neg htype]
      exact Traced.leaves_pure _ rfl fun h => absurd h htype

theorem xPkiWritePubKey_leaves (c : HeapCalls) (label : List UInt8) (pk : PkContext) :
    (xPkiWritePubKey c label pk).Leaves one 0 (fun _ => 0) fun _ =>
      c.WritePubKeyFine pk (xPkiObjectFromLabel label) := by
  unfold xPkiWritePubKey
  cases xPkiObjectFromLabel label with
  | psaCrypto id => exact (lWritePublicKeyToPSACrypto_leaves c id pk).map
  | none => exact Traced.leaves_pure _ rfl trivial
  | pem pucBuffer => exact Traced.leaves_pure _ rfl trivial
  | der pucBuffer => exact Traced.leaves_pure _ rfl trivial
  | psaIts uid => exact Traced.leaves_pure _ rfl trivial
  | psaPs uid => exact Traced.leaves_pure _ rfl trivial

theorem Reads.written {env : PkiEnv} {v : ReadVars} (h : Reads env v) : 0 < v.uxBytesWritten := by
  obtain ⟨-, size, -, -, hv⟩ := h
  exact (readSteps_yields env _ size).1 v hv

/-- A DER that is freed when there are bytes in it. -/
def freeDer (b : Block) (r : PkiStatus × Option (List UInt8) × Nat) : HeapM Unit :=
  free b (r.2.1.isSome && 0 < r.2.2)

theorem freeDer_none (b : Block) (xStatus : PkiStatus) (len : Nat) {fine : Unit → Prop} (h : fine ()) :
    (freeDer b (xStatus, none, len)).Leaves one 0 (fun _ => 0) fine :=
  Traced.leaves_pure () rfl h

theorem freeDer_some (b : Block) (xStatus : PkiStatus) (der : List UInt8) (len : Nat) :
    (freeDer b (xStatus, some der, len)).Leaves one (blockIf b true) (fun _ => 0) fun _ => 0 < len :=
  (free_or_lose (add_zero _).symm).imp (fun _ _ => rfl) fun _ _ => by simp

theorem copyPublicKey_leaves (b : Block) (c : HeapCalls) (pucBuffer : Option (List UInt8)) :
    (copyPublicKey b c pucBuffer >>= freeDer b).Leaves one 0 (fun _ => 0) fun _ => True := by
  unfold copyPublicKey
  dsimp only
  by_cases h : pucBuffer.getD [] = []
  · rw [if_pos h]
    exact freeDer_none b .argInvalid 0 trivial
  · rw [if_neg h, Traced.bind_assoc]
    refine (malloc_leaves b _).bind fun granted _ => ?_
    cases granted with
    | false => exact ⟨_, rfl, nofun⟩
    | true =>
      rw [add_zero]
      exact (freeDer_some b _ _ _).imp (fun _ _ => rfl) fun _ _ =>
        iff_of_true (List.length_pos_iff.2 h) trivial

theorem readPublicBlob_leaves (b : Block) (c : HeapCalls) (uid : Nat) :
    (readPublicBlob b c uid >>= freeDer b).Leaves one 0 (fun _ => 0) fun _ =>
      HeapCalls.PublicKeyFine.BlobFine c uid := by
  unfold readPublicBlob
  rw [Traced.bind_assoc]
  refine Traced.leaves_bind (fun r _ => r.2 ≠ some []) (readObject_leaves b c.object.its c.calloc uid) ?_ ?_
  · intro r hr
    rcases readObject_result hr with ⟨-, hnone, -⟩ | ⟨rfl, -⟩
    · obtain ⟨lError, der⟩ := r
      obtain rfl : der = none := hnone
      exact freeDer_none b (xPrvMbedtlsErrToPkiStatus lError) 0 nofun
    · refine (freeDer_some b _ _ _).imp (fun _ _ => rfl) fun _ _ => ?_
      simp [List.length_pos_iff]
  · intro r _ hr _
    unfold HeapCalls.PublicKeyFine.BlobFine
    rcases readObject_result hr with ⟨-, hnone, hno⟩ | ⟨rfl, hal, hget⟩
    · rw [hnone]
      simp only [ne_eq, reduceCtorEq, not_false_eq_true, and_true]
      tauto
    · simp [hal, hget]

theorem xPkiReadPublicKeyDer_leaves (b : Block) (c : HeapCalls) (obj : PkiObject) :
    (xPkiReadPublicKeyDer b c obj >>= freeDer b).Leaves one 0 (fun _ => 0) fun _ =>
      c.PublicKeyFine obj := by
  cases obj with
  | none => exact freeDer_none b .argInvalid 0 trivial
  | pem pucBuffer => exact copyPublicKey_leaves b c pucBuffer
  | der pucBuffer => exact copyPublicKey_leaves b c pucBuffer
  | psaCrypto id =>
    have hread := xReadPublicKeyFromPSACrypto_reading b (c.publicKey id)
    have hleaves := hread.leaves (fun r => blockIf b r.2.1.isSome) (by simp) (by simp)
    rw [xPkiReadPublicKeyDer, Traced.bind_assoc]
    refine hleaves.bind fun r hr => ?_
    rcases hread.result hr with ⟨⟨-, hnone⟩, -⟩ | ⟨v, hv, rfl⟩
    · obtain ⟨xStatus, out⟩ := r
      obtain rfl : out = (none, 0) := hnone
      exact freeDer_none b (xPrvMbedtlsErrToPkiStatus xStatus) 0 trivial
    · exact (freeDer_some b _ _ _).imp (fun _ _ => rfl) fun _ _ => iff_of_true hv.written trivial
  | psaIts uid => exact readPublicBlob_leaves b c uid
  | psaPs uid => exact readPublicBlob_leaves b c uid

theorem importPublicKey_leaves (b : Block) (c : HeapCalls) (r : Status × Option (List UInt8) × Nat) :
    (importPublicKey b c r).Leaves one (blockIf b r.2.1.isSome) (fun r => blockIf b r.2.1.isSome)
      fun _ => True := by
  obtain ⟨xStatus, der, len⟩ := r
  unfold importPublicKey
  dsimp only
  generalize (if xStatus = psaSuccess then c.importKey else xStatus) = xStatus
  by_cases hs : xStatus = psaSuccess
  · rw [if_neg (not_not.2 hs)]
    exact Traced.leaves_pure _ rfl trivial
  · rw [if_pos hs]
    exact free_pure _ (add_zero _).symm trivial

theorem lGenerateKeyPairECPsaCrypto_leaves (b : Block) (c : HeapCalls) (xPrvKeyId xPubKeyId : Nat) :
    (lGenerateKeyPairECPsaCrypto b c xPrvKeyId xPubKeyId).Leaves one 0 (fun r => blockIf b r.2.1.isSome)
      fun _ => True := by
  have hread := xReadPublicKeyFromPSACrypto_reading b (c.publicKey xPrvKeyId)
  unfold lGenerateKeyPairECPsaCrypto
  dsimp only
  split_ifs
  · exact (hread.leaves (fun r => blockIf b r.2.1.isSome) (by simp) (by simp)).bind fun r _ =>
      importPublicKey_leaves b c r
  · exact importPublicKey_leaves b c (c.generatePair xPrvKeyId xPubKeyId, none, 0)

theorem xPkiGenerateECKeypair_leaves (b : Block) (c : HeapCalls) (prv pub : List UInt8) :
    (xPkiGenerateECKeypair b c prv pub).Leaves one 0 (fun r => blockIf b r.2.1.isSome) fun _ => True := by
  unfold xPkiGenerateECKeypair
  split
  · exact (lGenerateKeyPairECPsaCrypto_leaves b c _ _).bind fun r _ => Traced.leaves_pure _ rfl trivial
  · exact Traced.leaves_pure _ rfl trivial

/-! ## Certificates -/

/-- A context that was read into is released after a success. -/
def releaseCrt (r : PkiStatus × Nat) : HeapM Unit :=
  if r.1 = .success then give .xCertContext r.2 else pure ()

theorem releaseCrt_leaves (r : PkiStatus × Nat) :
    (releaseCrt r).Leaves one (.replicate r.2 .xCertContext) (fun _ => 0) fun _ =>
      r.1 = .success ∨ r.2 = 0 := by
  unfold releaseCrt
  split_ifs with h
  · have hgive : (give .xCertContext r.2).Leaves one (.replicate r.2 .xCertContext + 0) (fun _ => 0)
        fun _ => True := give_leaves .xCertContext r.2
    rw [add_zero] at hgive
    exact hgive.imp (fun _ _ => rfl) fun _ _ => iff_of_true trivial (.inl h)
  · have hpure : (pure () : HeapM Unit).Leaves one (.replicate r.2 .xCertContext)
        (fun _ => .replicate r.2 .xCertContext + 0) fun _ => True := Traced.leaves_pure () (add_zero _) trivial
    exact hpure.drop.imp (fun _ _ => rfl) fun _ _ => by simp [h, replicate_eq_zero]

theorem CrtAns.parse_leaves (a : CrtAns) :
    a.parse.Leaves one held (fun _ => .replicate a.owns .xCertContext + held) fun _ => True :=
  (take_leaves .xCertContext a.owns).bind fun _ _ => Traced.leaves_pure a.ret rfl trivial

theorem CrtAns.parse_result (a : CrtAns) : a.parse.result = some a.ret := rfl

/-- DER is parsed where it lies. After a success nobody has its buffer. -/
theorem parseNocopy_leaves (a : CrtAns) (f : Int → Int) :
    (do let lError ← a.parse; free .pucCertBuffer (lError ≠ 0); pure (f lError, a.owns) :
      HeapM (Int × Nat)).Leaves one (blockIf .pucCertBuffer true)
      (fun r => .replicate r.2 .xCertContext) fun _ => a.ret ≠ 0 := by
  refine a.parse_leaves.bind fun lError hret => ?_
  obtain rfl := Option.some.inj hret
  refine Traced.leaves_bind (fun _ _ => True) (free_or_lose (add_comm _ _)) ?_ ?_
  · intro _ _
    exact Traced.leaves_pure _ rfl trivial
  · simp

theorem ReadsObject.unique {env : ObjectEnv} {calloc : Nat → Bool} {id : Nat} {object object' : List UInt8}
    (h : ReadsObject env calloc id object) (h' : ReadsObject env calloc id object') : object = object' :=
  congrArg Prod.snd (h.2.2.2.symm.trans h'.2.2.2)

theorem lReadCertificateFromPSACrypto_leaves (c : HeapCalls) (id : Nat) :
    (lReadCertificateFromPSACrypto c id).Leaves one 0 (fun r => .replicate r.2 .xCertContext) fun _ =>
      ∀ object, ReadsObject c.object c.calloc id object →
        (c.x509CrtParseDerNocopy (some object)).ret ≠ 0 := by
  have hread := xReadObjectFromPSACrypto_reading .pucCertBuffer c.object c.calloc id
  have hleaves := hread.leaves (fun r => blockIf .pucCertBuffer r.2.isSome) (by simp) (by simp)
  unfold lReadCertificateFromPSACrypto
  refine hleaves.bind fun r hr => ?_
  rcases hread.result hr with ⟨⟨hs, hnone⟩, hno⟩ | ⟨object, hobject, rfl⟩
  · obtain ⟨xStatus, out⟩ := r
    obtain rfl : out = none := hnone
    dsimp only
    rw [if_neg hs]
    exact Traced.leaves_pure _ rfl fun object h => absurd h (hno object)
  · dsimp only
    rw [if_pos rfl]
    refine (parseNocopy_leaves _ mbedtlsPsaErrTranslatePk).imp (fun _ _ => rfl) fun _ _ => ?_
    exact ⟨fun h object' hobject' => hobject.unique hobject' ▸ h, fun h => h object hobject⟩

theorem parseBlob_leaves (c : HeapCalls) (blob : List UInt8) :
    (parseBlob c (some blob)).Leaves one (blockIf .pucCertBuffer true)
      (fun r => .replicate r.2 .xCertContext) fun _ =>
        looksPem blob = false → (c.x509CrtParseDerNocopy (some blob)).ret ≠ 0 := by
  unfold parseBlob
  cases hpem : looksPem blob with
  | true =>
    rw [Option.getD_some, hpem, if_pos rfl]
    refine (c.x509CrtParse _).parse_leaves.bind fun lError _ => ?_
    exact free_pure _ (add_comm _ _) nofun
  | false =>
    rw [Option.getD_some, hpem, if_neg Bool.false_ne_true]
    exact (parseNocopy_leaves _ id).imp (fun _ _ => rfl) fun _ _ => by simp

theorem readCertificate_leaves (c : HeapCalls) (calls : StorageCalls) (uid : Nat) :
    (readCertificate c calls uid).Leaves one 0 (fun r => .replicate r.2 .xCertContext) fun _ =>
      Allocates calls c.calloc uid → (StorageCalls.read calls uid).1 = psaSuccess ∧
        (looksPem (StorageCalls.read calls uid).2 = false →
          (c.x509CrtParseDerNocopy (some (StorageCalls.read calls uid).2)).ret ≠ 0) := by
  unfold readCertificate
  refine Traced.leaves_bind (fun r _ => ∀ blob, r.2 = some blob → looksPem blob = false →
    (c.x509CrtParseDerNocopy (some blob)).ret ≠ 0) (readObject_leaves .pucCertBuffer calls c.calloc uid) ?_ ?_
  · intro r hr
    rcases readObject_result hr with ⟨he, hnone, -⟩ | ⟨rfl, -⟩
    · obtain ⟨lError, pucCertBuffer⟩ := r
      obtain rfl : pucCertBuffer = none := hnone
      dsimp only
      rw [if_neg he.ne]
      exact Traced.leaves_pure _ rfl nofun
    · dsimp only
      rw [if_pos rfl]
      exact (parseBlob_leaves c _).imp (fun _ _ => rfl) fun _ _ => by simp
  · intro r _ hr _
    rcases readObject_result hr with ⟨-, hnone, hno⟩ | ⟨rfl, hal, hget⟩
    · rw [hnone]
      simp only [reduceCtorEq, false_imp_iff, implies_true, and_true]
      tauto
    · simp [hal, hget]

/-- To read into a context and to release it, where `fine` says when reading takes nothing for good. -/
theorem released_leaves {x : HeapM (Int × Nat)} {fine good : Prop}
    (hx : x.Leaves one 0 (fun r => .replicate r.2 .xCertContext) fun _ => fine)
    (hgood : ∀ r, x.result = some r → (good ↔ fine ∧ (0 ≤ r.1 ∨ r.2 = 0))) :
    (PkiStatus.of <$> x >>= releaseCrt).Leaves one 0 (fun _ => 0) fun _ => good := by
  have hmap : (PkiStatus.of <$> x).Leaves one 0 (fun r => .replicate r.2 .xCertContext) fun _ => fine := hx.map
  refine Traced.leaves_bind (fun r _ => r.1 = .success ∨ r.2 = 0) hmap (fun r _ => releaseCrt_leaves r) ?_
  intro r _ hr _
  rw [Traced.result_map] at hr
  obtain ⟨r', hr', rfl⟩ := Option.map_eq_some_iff.1 hr
  rw [hgood r' hr']
  exact and_congr_right fun _ => or_congr toPkiStatus_success.symm Iff.rfl

theorem readCertificateBuffer_leaves (a : CrtAns) :
    (PkiStatus.of <$> readCertificateBuffer a >>= releaseCrt).Leaves one 0 (fun _ => 0) fun _ =>
      HeapCalls.CertificateFine.CopyFine a := by
  have hleaves : (readCertificateBuffer a).Leaves one 0 (fun r => .replicate r.2 .xCertContext)
      fun _ => True := by
    refine a.parse_leaves.bind fun lError _ => ?_
    exact Traced.leaves_pure _ (add_zero _).symm trivial
  refine released_leaves hleaves ?_
  intro r hr
  obtain rfl : (a.ret, a.owns) = r := Option.some.inj hr
  exact (iff_of_eq (true_and _)).symm

theorem releasedObject_leaves (c : HeapCalls) (id : Nat) :
    (PkiStatus.of <$> lReadCertificateFromPSACrypto c id >>= releaseCrt).Leaves one 0 (fun _ => 0)
      fun _ => c.CertificateFine (.psaCrypto id) := by
  have hread := xReadObjectFromPSACrypto_reading .pucCertBuffer c.object c.calloc id
  refine released_leaves (lReadCertificateFromPSACrypto_leaves c id) ?_
  intro r hr
  unfold lReadCertificateFromPSACrypto at hr
  rw [Traced.result_bind] at hr
  obtain ⟨out, hout, hr⟩ := Option.bind_eq_some_iff.1 hr
  rcases hread.result hout with ⟨⟨hs, -⟩, hno⟩ | ⟨object, hobject, rfl⟩
  · dsimp only at hr
    rw [if_neg hs] at hr
    obtain rfl := Option.some.inj hr
    exact iff_of_true (fun object h => absurd h (hno object)) ⟨fun object h => absurd h (hno object), .inr rfl⟩
  · dsimp only at hr
    rw [if_pos rfl] at hr
    have hfine : c.CertificateFine (.psaCrypto id) ↔ (c.x509CrtParseDerNocopy (some object)).owns = 0 :=
      ⟨fun h => h object hobject, fun h object' hobject' => hobject.unique hobject' ▸ h⟩
    have hne : (∀ object', ReadsObject c.object c.calloc id object' →
        (c.x509CrtParseDerNocopy (some object')).ret ≠ 0) ↔ (c.x509CrtParseDerNocopy (some object)).ret ≠ 0 :=
      ⟨fun h => h object hobject, fun h object' hobject' => hobject.unique hobject' ▸ h⟩
    rw [hfine, hne]
    generalize c.x509CrtParseDerNocopy (some object) = a at hr
    obtain rfl : (mbedtlsPsaErrTranslatePk a.ret, a.owns) = r := Option.some.inj hr
    constructor
    · intro hzero
      refine ⟨?_, .inr hzero⟩
      intro hret
      have := a.owns_of_ret hret.ge
      omega
    · intro ⟨hret, hend⟩
      exact hend.resolve_left (not_le.2 (translatePk_lt hret))

/-- What parsing a blob returns, and what the context owns. -/
theorem parseBlob_result (c : HeapCalls) (blob : List UInt8) : (parseBlob c (some blob)).result =
    some (if looksPem blob then ((c.x509CrtParse (some blob)).ret, (c.x509CrtParse (some blob)).owns)
      else ((c.x509CrtParseDerNocopy (some blob)).ret, (c.x509CrtParseDerNocopy (some blob)).owns)) := by
  unfold parseBlob
  rw [Option.getD_some]
  cases looksPem blob <;> rfl

theorem releasedBlob_leaves (c : HeapCalls) (calls : StorageCalls) (uid : Nat) :
    (PkiStatus.of <$> readCertificate c calls uid >>= releaseCrt).Leaves one 0 (fun _ => 0)
      fun _ => HeapCalls.CertificateFine.BlobFine c calls uid := by
  refine released_leaves (readCertificate_leaves c calls uid) ?_
  intro r hr
  unfold readCertificate at hr
  rw [Traced.result_bind] at hr
  obtain ⟨out, hout, hr⟩ := Option.bind_eq_some_iff.1 hr
  unfold HeapCalls.CertificateFine.BlobFine HeapCalls.CertificateFine.CopyFine
  rcases readObject_result hout with ⟨he, -, hno⟩ | ⟨rfl, hal, hget⟩
  · dsimp only at hr
    rw [if_neg he.ne] at hr
    obtain rfl := Option.some.inj hr
    dsimp only
    tauto
  · dsimp only at hr
    rw [if_pos rfl, parseBlob_result] at hr
    obtain rfl := Option.some.inj hr
    cases hpem : looksPem (StorageCalls.read calls uid).2 <;> simp [hal, hget, hpem]

theorem xPkiReadCertificate_leaves (c : HeapCalls) (obj : PkiObject) :
    (xPkiReadCertificate c obj >>= releaseCrt).Leaves one 0 (fun _ => 0) fun _ => c.CertificateFine obj := by
  cases obj with
  | none => exact Traced.leaves_pure () rfl trivial
  | pem pucBuffer => exact readCertificateBuffer_leaves _
  | der pucBuffer => exact readCertificateBuffer_leaves _
  | psaCrypto id => exact releasedObject_leaves c id
  | psaIts uid => exact releasedBlob_leaves c _ uid
  | psaPs uid => exact releasedBlob_leaves c _ uid

end Crypto.Blocks
