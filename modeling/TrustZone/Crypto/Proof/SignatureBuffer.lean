import TrustZone.Crypto.MbedtlsPkPsa
import TrustZone.Crypto.Proof.PkiObject
import TrustZone.Crypto.Proof.ReadPublicKey

/-!
# The buffer of a signature

`psa_ecdsa_sign` takes `PSA_SIGNATURE_MAX_SIZE` bytes for granted, and its encoder begins at their end.

* `Room.chkAdd`: a row of writes stays in its room and counts its bytes.
* `ecdsaSigWrites_inside`: the encoder stays in the buffer of the size it is told.
* `ecdsaSigWrites_result`: it leaves what `pkEcdsaSigAsn1FromPsa` leaves.
* `sign_buffer_iff`: the calls of `psa_ecdsa_sign` that stay in the buffer of their caller.
-/

namespace Crypto

open Lib Psa

/-! ## Rows of writes -/

variable {size start start' p len : Nat} {x : Traced BufEvent BackWrite} {a : Asn1Write}
  {buf sig : List UInt8} {w : BackWrite} {k : Nat → Nat → List UInt8 → Traced BufEvent BackWrite}

/-- Writes that begin at `p` with `len` bytes behind it: all of them are inside, the position ends between
`start` and `p`, and the result counts the bytes from there on, unless it is an error. -/
structure Room (size start p len : Nat) (x : Traced BufEvent BackWrite) : Prop where
  inside : x.All (BufEvent.Inside size)
  pos : ∀ w, x.result = some w → start ≤ w.p ∧ w.p ≤ p
  count : ∀ w, x.result = some w → 0 ≤ w.ret → w.ret = len + (p - w.p : Nat)

theorem writes_inside {off n : Nat} (h : off + n ≤ size) : (writes off n).All (BufEvent.Inside size) := by
  rw [writes, Traced.all_single]
  exact inside_write (Int.natCast_nonneg _) (by omega)

theorem Room.error (h : start ≤ p) (hret : w.ret < 0) (hp : w.p ≤ p) (hs : start ≤ w.p) :
    Room size start p len (pure w) where
  inside := Traced.all_pure _
  pos w' hw := by
    obtain rfl : w = w' := Option.some.inj hw
    exact ⟨hs, hp⟩
  count w' hw hnn := by
    obtain rfl : w = w' := Option.some.inj hw
    omega

theorem Room.done (h : start ≤ p) : Room size start p len (pure ⟨len, p, buf⟩) where
  inside := Traced.all_pure _
  pos w' hw := by
    obtain rfl := Option.some.inj hw
    exact ⟨h, le_refl p⟩
  count w' hw _ := by
    obtain rfl := Option.some.inj hw
    show (len : Int) = len + (p - p : Nat)
    rw [Nat.sub_self]
    omega

/-- A function of mbedTLS that writes `bytes`. -/
theorem Room.written {f : List UInt8 → Nat → Nat → BackWrite} (hf : RoomKept f) {bytes : List UInt8}
    (hw : Writes bytes buf start p (f buf start p)) (h : start ≤ p) (hp : p ≤ size) :
    Room size start p 0 (written (f buf start p) p) where
  inside := by
    have hroom := hf buf start p h
    rw [Crypto.written, Traced.all_single]
    exact inside_write (Int.natCast_nonneg _) (by omega)
  pos w hr := by
    obtain rfl := Option.some.inj hr
    exact hf buf start p h
  count w hr hnn := by
    obtain rfl := Option.some.inj hr
    by_cases hfit : start + bytes.length ≤ p
    · rw [hw.fits hfit]
      show (bytes.length : Int) = (0 : Nat) + (p - (p - bytes.length) : Nat)
      omega
    · have := hw.full (by omega)
      omega

/-- One write, and then others. -/
theorem Room.chkAdd (hs : start' ≤ start) (hx : Room size start p 0 x)
    (hk : ∀ p' b, start ≤ p' → p' ≤ p → Room size start' p' (len + (p - p')) (k (len + (p - p')) p' b)) :
    Room size start' p len (x >>= chkAdd len k) := by
  have hstep : ∀ w, x.result = some w → Room size start' p len (Crypto.chkAdd len k w) := by
    intro w hw
    obtain ⟨hlo, hhi⟩ := hx.pos w hw
    unfold Crypto.chkAdd
    by_cases hneg : w.ret < 0
    · rw [if_pos hneg]
      exact Room.error (by omega) hneg hhi (by omega)
    · have hret := hx.count w hw (by omega)
      have hnat : w.ret.toNat = p - w.p := by omega
      rw [if_neg hneg, hnat]
      have hrest := hk w.p w.buf hlo hhi
      refine ⟨hrest.inside, fun w' hw' => ?_, fun w' hw' hnn => ?_⟩
      · have := hrest.pos w' hw'
        omega
      · have := hrest.pos w' hw'
        rw [hrest.count w' hw' hnn]
        omega
  have hresult : ∀ w, (x >>= Crypto.chkAdd len k).result = some w →
      ∃ w₀, x.result = some w₀ ∧ (Crypto.chkAdd len k w₀).result = some w := by
    intro w hw
    rw [Traced.result_bind] at hw
    exact Option.bind_eq_some_iff.1 hw
  refine ⟨(Traced.all_bind_iff ..).2 ⟨hx.inside, fun w hw => (hstep w hw).inside⟩, ?_, ?_⟩
  · intro w hw
    obtain ⟨w₀, hw₀, hw⟩ := hresult w hw
    exact (hstep w₀ hw₀).pos w hw
  · intro w hw
    obtain ⟨w₀, hw₀, hw⟩ := hresult w hw
    exact (hstep w₀ hw₀).count w hw

/-- Bytes that are there already count. -/
theorem Room.behind {q : Nat} (hx : Room size start q len x) (hq : q + len = p) :
    Room size start p 0 x where
  inside := hx.inside
  pos w hw := by
    have := hx.pos w hw
    omega
  count w hw hnn := by
    have := hx.pos w hw
    rw [hx.count w hw hnn]
    omega

/-- A write in front. -/
theorem Room.after {off n : Nat} (hw : off + n ≤ size) (hx : Room size start p len x) :
    Room size start p len (writes off n >>= fun _ => x) where
  inside := (Traced.all_bind_iff ..).2 ⟨writes_inside hw, fun _ _ => hx.inside⟩
  pos w hw := hx.pos w (by rwa [Traced.result_bind] at hw)
  count w hw hnn := hx.count w (by rwa [Traced.result_bind] at hw) hnn

/-! ## The encoder -/

theorem skipZeros_pos (buf : List UInt8) (p n : Nat) :
    (skipZeros buf p n).1 + (skipZeros buf p n).2 = p + n ∧ p ≤ (skipZeros buf p n).1 := by
  induction n generalizing p with
  | zero => exact ⟨rfl, le_refl p⟩
  | succ n ih =>
    unfold skipZeros
    split
    · have := ih (p + 1)
      omega
    · exact ⟨rfl, le_refl p⟩

theorem integerHeadWrites_room (ha : a.Documented) (hr : a.InRoom) (hlen : len < 2 ^ 32) (h : start ≤ p)
    (hp : p ≤ size) : Room size start p len (integerHeadWrites a buf start p len) := by
  unfold integerHeadWrites
  refine Room.chkAdd (le_refl _) (Room.written (hr.writeLen len) (ha.writeLen _ _ _ _ hlen) h hp)
    fun p₁ b₁ hlo hhi => ?_
  refine Room.chkAdd (le_refl _) (Room.written (hr.writeTag Der.tagInteger) (ha.writeTag _ _ _ _) hlo
    (by omega)) fun p₂ b₂ hlo₂ hhi₂ => ?_
  exact Room.done hlo₂

theorem asn1MpibufWrites_room (ha : a.Documented) (hr : a.InRoom) {nLen : Nat} (hlen : nLen < 2 ^ 31)
    (h : start ≤ p) (hp : p ≤ size) : Room size start p 0 (asn1MpibufWrites a buf p start nLen) := by
  unfold asn1MpibufWrites
  by_cases hroom : p - start < nLen
  · rw [if_pos hroom]
    exact Room.error h (show mbedtlsErrAsn1BufTooSmall < 0 by decide) (le_refl p) h
  rw [if_neg hroom]
  refine Room.after (by omega) ?_
  dsimp only
  generalize blit buf (p - nLen) _ = moved
  have hskip := skipZeros_pos moved (p - nLen) nLen
  generalize skipZeros moved (p - nLen) nLen = q at hskip ⊢
  obtain ⟨q, len⟩ := q
  dsimp only at hskip ⊢
  split
  · exact Room.error h (show mbedtlsErrAsn1OutOfData < 0 by decide)
      (show q ≤ p by omega) (show start ≤ q by omega)
  · split
    · split
      · exact Room.error h (show mbedtlsErrAsn1BufTooSmall < 0 by decide)
          (show q ≤ p by omega) (show start ≤ q by omega)
      · refine Room.after (by omega) ?_
        exact (integerHeadWrites_room ha hr (by omega) (by omega) (by omega)).behind (by omega)
    · exact (integerHeadWrites_room ha hr (by omega) (by omega) (by omega)).behind (by omega)

theorem signatureWrites_room (ha : a.Documented) (hr : a.InRoom) (sig : List UInt8) {rsLen bufLen : Nat}
    (hlen : rsLen ≤ bufLen) (hbuf : bufLen ≤ size) (hsize : bufLen < 2 ^ 31) :
    Room size 0 bufLen 0 (signatureWrites a sig rsLen bufLen) := by
  unfold signatureWrites
  refine Room.chkAdd (Nat.zero_le _) (asn1MpibufWrites_room ha hr (by omega) hlen hbuf)
    fun p₁ b₁ hlo₁ hhi₁ => ?_
  refine Room.chkAdd (le_refl _) (asn1MpibufWrites_room ha hr (by omega) (Nat.zero_le _) (by omega))
    fun p₂ b₂ _ hhi₂ => ?_
  refine Room.chkAdd (le_refl _) (Room.written (hr.writeLen _) (ha.writeLen _ _ _ _ (by omega))
    (Nat.zero_le _) (by omega)) fun p₃ b₃ _ hhi₃ => ?_
  refine Room.chkAdd (le_refl _) (Room.written (hr.writeTag _) (ha.writeTag _ _ _ _) (Nat.zero_le _)
    (by omega)) fun p₄ b₄ hlo₄ _ => ?_
  exact Room.done hlo₄

/-- The encoder stays in a buffer of the size that it is told, and so does what it leaves. -/
theorem ecdsaSigWrites_inside (ha : a.Documented) (hr : a.InRoom) {sigLen bufLen : Nat}
    (sig : List UInt8) (hlen : sigLen ≤ bufLen) (hbuf : bufLen ≤ size) (hsize : bufLen < 2 ^ 31) :
    (ecdsaSigWrites a sig sigLen bufLen).All (BufEvent.Inside size) ∧
    ∀ r, (ecdsaSigWrites a sig sigLen bufLen).result = some r → r.1 = 0 → r.2.1 ≤ bufLen := by
  have hrs : sigLen / 2 ≤ bufLen := by omega
  have hroom := signatureWrites_room ha hr sig hrs hbuf hsize
  have hend : ∀ w, (signatureWrites a sig (sigLen / 2) bufLen).result = some w → ¬w.ret < 0 →
      w.ret.toNat ≤ bufLen := by
    intro w hw hneg
    have := hroom.count w hw (by omega)
    have := hroom.pos w hw
    omega
  constructor
  · refine (Traced.all_bind_iff ..).2 ⟨hroom.inside, fun w hw => ?_⟩
    by_cases hneg : w.ret < 0
    · rw [if_pos hneg]
      exact Traced.all_pure _
    · rw [if_neg hneg]
      have := hend w hw hneg
      exact (Traced.all_bind_iff ..).2 ⟨writes_inside (by omega), fun _ _ => Traced.all_pure _⟩
  · intro r hres hzero
    unfold ecdsaSigWrites at hres
    rw [Traced.result_bind] at hres
    obtain ⟨w, hw, hres⟩ := Option.bind_eq_some_iff.1 hres
    by_cases hneg : w.ret < 0
    · rw [if_pos hneg] at hres
      obtain rfl := Option.some.inj hres
      exact absurd hzero (by omega)
    · rw [if_neg hneg] at hres
      obtain rfl := Option.some.inj hres
      exact hend w hw hneg

/-- The first integer is moved to the end of the buffer that the encoder is told. -/
theorem ecdsaSigWrites_end {sigLen bufLen : Nat} (htwo : 2 ≤ sigLen) (hlen : sigLen ≤ bufLen)
    (hsize : size < bufLen) : ¬(ecdsaSigWrites a sig sigLen bufLen).All (BufEvent.Inside size) := by
  intro hall
  have hrow := ((Traced.all_bind_iff ..).1 hall).1
  have hmpi := ((Traced.all_bind_iff ..).1 hrow).1
  unfold asn1MpibufWrites at hmpi
  rw [if_neg (by omega)] at hmpi
  have hmove := ((Traced.all_bind_iff ..).1 hmpi).1
  rw [writes, Traced.all_single] at hmove
  have hlast := (hmove (sigLen / 2 - 1) (by omega)).2
  omega

/-! ### Its result -/

theorem chkAdd_result {k' : Nat → Nat → List UInt8 → BackWrite} (hx : x.result = some w)
    (hk : ∀ len p b, (k len p b).result = some (k' len p b)) :
    (x >>= chkAdd len k).result = some (w.andThen len k') := by
  rw [Traced.result_bind, hx]
  show (chkAdd len k w).result = _
  unfold chkAdd BackWrite.andThen
  split
  · rfl
  · exact hk ..

theorem integerHeadWrites_result :
    (integerHeadWrites a buf start p len).result = some (writeIntegerHead a buf start p len) :=
  chkAdd_result rfl fun _ _ _ => chkAdd_result rfl fun _ _ _ => rfl

theorem asn1MpibufWrites_result {nLen : Nat} :
    (asn1MpibufWrites a buf p start nLen).result = some (asn1WriteMpibuf a buf p start nLen) := by
  unfold asn1MpibufWrites asn1WriteMpibuf
  split
  · rfl
  · rw [Traced.result_bind]
    show Traced.result (ite _ _ _) = _
    dsimp only
    split
    · rfl
    · split
      · split
        · rfl
        · exact integerHeadWrites_result
      · exact integerHeadWrites_result

theorem ecdsaSigWrites_result {sigLen bufLen : Nat} :
    (ecdsaSigWrites a sig sigLen bufLen).result = some (pkEcdsaSigAsn1FromPsa a sig sigLen bufLen) := by
  have hrow : (signatureWrites a sig (sigLen / 2) bufLen).result =
      some ((asn1WriteMpibuf a sig bufLen (sigLen / 2) (sigLen / 2)).andThen 0 fun len p buf =>
        (asn1WriteMpibuf a buf p 0 (sigLen / 2)).andThen len fun len p buf =>
          (a.writeLen buf 0 p len).andThen len fun len p buf =>
            (a.writeTag buf 0 p Der.tagSequence).andThen len fun len p buf => ⟨len, p, buf⟩) :=
    chkAdd_result asn1MpibufWrites_result fun _ _ _ =>
      chkAdd_result asn1MpibufWrites_result fun _ _ _ =>
        chkAdd_result rfl fun _ _ _ => chkAdd_result rfl fun _ _ _ => rfl
  unfold ecdsaSigWrites pkEcdsaSigAsn1FromPsa
  rw [Traced.result_bind, hrow]
  dsimp only [Option.bind_some]
  split
  · rfl
  · rfl

/-! ## The callers -/

variable {env : EcdsaEnv} {pxPsaCtx : PsaPkCtx} {xMdAlg : MdType} {pucHash pucSig : List UInt8}

theorem psaSignatureMaxSize_eq : psaSignatureMaxSize = 512 := by decide

theorem testSignatureSize_eq : testSignatureSize = 72 := by decide

/-- What `psa_sign_hash` answers. -/
def signed (env : EcdsaEnv) (pxPsaCtx : PsaPkCtx) (xMdAlg : MdType) (pucHash : List UInt8) :
    Status × List UInt8 :=
  env.signHash pxPsaCtx.xKeyId (psaAlgEcdsa (mbedtlsPsaTranslateMd env.mdEnabled xMdAlg)) pucHash
    psaSignatureMaxSize

/-- Every write is inside a buffer of `size` bytes, and so is the DER signature. -/
structure SignLaw (size : Nat) (run : Traced BufEvent (Int × Nat × List UInt8)) : Prop where
  inside : run.All (BufEvent.Inside size)
  length : ∀ r, run.result = some r → r.1 = 0 → r.2.1 ≤ size

/-- The buffer has the size that is taken for granted, or there is nothing to encode and what PSA writes
fits. -/
def BufferOk (size : Nat) (answer : Status × List UInt8) : Prop :=
  psaSignatureMaxSize ≤ size ∨
    answer.2.length ≤ size ∧ (answer.1 = psaSuccess → answer.2.length < 2)

/-- PSA writes no more than the size it is given. -/
def EcdsaEnv.SignFits (env : EcdsaEnv) : Prop :=
  ∀ id alg hash n, (env.signHash id alg hash n).2.length ≤ n

theorem psaEcdsaSign_eq : psaEcdsaSign env pxPsaCtx xMdAlg pucHash pucSig =
    writes 0 (signed env pxPsaCtx xMdAlg pucHash).2.length >>= fun _ =>
      if (signed env pxPsaCtx xMdAlg pucHash).1 ≠ psaSuccess then
        pure (mbedtlsPsaErrTranslatePk (signed env pxPsaCtx xMdAlg pucHash).1,
          (signed env pxPsaCtx xMdAlg pucHash).2.length,
          blit pucSig 0 (signed env pxPsaCtx xMdAlg pucHash).2)
      else ecdsaSigWrites env.asn1 (blit pucSig 0 (signed env pxPsaCtx xMdAlg pucHash).2)
        (signed env pxPsaCtx xMdAlg pucHash).2.length psaSignatureMaxSize := by
  unfold psaEcdsaSign signed
  dsimp only
  rw [if_pos (le_refl _)]

/-- With fewer than two bytes there is no integer to encode. -/
theorem ecdsaSigWrites_short (bufLen : Nat) (a : Asn1Write) (buf : List UInt8) (size : Nat) {sigLen : Nat}
    (hshort : sigLen < 2) :
    (ecdsaSigWrites a buf sigLen bufLen).All (BufEvent.Inside size) ∧
      ∀ r, (ecdsaSigWrites a buf sigLen bufLen).result = some r → r.1 ≠ 0 := by
  have hzero : sigLen / 2 = 0 := by omega
  have hmpi : ∃ b, asn1MpibufWrites a buf bufLen 0 0 =
      ⟨[.write bufLen 0], some ⟨mbedtlsErrAsn1OutOfData, bufLen, b⟩⟩ := ⟨_, rfl⟩
  obtain ⟨b, hmpi⟩ := hmpi
  have hrow : signatureWrites a buf 0 bufLen =
      ⟨[.write bufLen 0], some ⟨mbedtlsErrAsn1OutOfData, bufLen, b⟩⟩ := by
    unfold signatureWrites
    rw [hmpi]
    rfl
  have hall : ecdsaSigWrites a buf sigLen bufLen =
      ⟨[.write bufLen 0], some (mbedtlsErrAsn1OutOfData, sigLen, b)⟩ := by
    unfold ecdsaSigWrites
    rw [hzero, hrow]
    rfl
  rw [hall]
  constructor
  · rw [Traced.all_single]
    intro i hi
    exact absurd hi (Nat.not_lt_zero i)
  · intro r hr
    obtain rfl := Option.some.inj hr
    exact (by decide : mbedtlsErrAsn1OutOfData ≠ 0)

/-- `psa_ecdsa_sign` stays in a buffer of `size` bytes exactly when the buffer fits what PSA answers. -/
theorem sign_law_iff (ha : env.asn1.Documented) (hr : env.asn1.InRoom) (hfits : env.SignFits) (size : Nat) :
    SignLaw size (psaEcdsaSign env pxPsaCtx xMdAlg pucHash pucSig) ↔
      BufferOk size (signed env pxPsaCtx xMdAlg pucHash) := by
  have hlen : (signed env pxPsaCtx xMdAlg pucHash).2.length ≤ psaSignatureMaxSize := hfits ..
  have hmax := psaSignatureMaxSize_eq
  rw [psaEcdsaSign_eq]
  generalize signed env pxPsaCtx xMdAlg pucHash = answer at hlen ⊢
  obtain ⟨status, sig⟩ := answer
  dsimp only at hlen ⊢
  constructor
  · intro law
    by_contra hnot
    obtain ⟨hsmall, hcase⟩ := not_or.1 hnot
    obtain ⟨hput, hrest⟩ := (Traced.all_bind_iff ..).1 law.inside
    have hbytes : sig.length ≤ size := by
      by_contra hover
      rw [writes, Traced.all_single] at hput
      have hlast := (hput size (by omega)).2
      omega
    have hrest := hrest () rfl
    have hcase : status = psaSuccess ∧ ¬sig.length < 2 := by
      by_contra hno
      exact hcase ⟨hbytes, fun hst => by_contra fun hge => hno ⟨hst, hge⟩⟩
    rw [if_neg (not_not.2 hcase.1)] at hrest
    exact ecdsaSigWrites_end (by omega) hlen (by omega) hrest
  · intro hok
    have hput : sig.length ≤ size := by
      rcases hok with h | ⟨h, -⟩
      · omega
      · exact h
    have hrest : SignLaw size (if status ≠ psaSuccess then
        pure (mbedtlsPsaErrTranslatePk status, sig.length, blit pucSig 0 sig)
        else ecdsaSigWrites env.asn1 (blit pucSig 0 sig) sig.length psaSignatureMaxSize) := by
      by_cases hst : status = psaSuccess
      · rw [if_neg (not_not.2 hst)]
        rcases hok with hsize | ⟨-, hshort⟩
        · have hin := ecdsaSigWrites_inside ha hr (blit pucSig 0 sig) hlen hsize (by omega)
          exact ⟨hin.1, fun r hres hret => (hin.2 r hres hret).trans hsize⟩
        · have hin := ecdsaSigWrites_short psaSignatureMaxSize env.asn1 (blit pucSig 0 sig) size (hshort hst)
          exact ⟨hin.1, fun r hres hret => absurd hret (hin.2 r hres)⟩
      · rw [if_pos hst]
        refine ⟨Traced.all_pure _, fun r hres hret => ?_⟩
        obtain rfl := Option.some.inj hres
        exact absurd hret (translate_error hst).1
    refine ⟨(Traced.all_bind_iff ..).2 ⟨writes_inside (by omega), fun _ _ => hrest.inside⟩, ?_⟩
    intro r hres hret
    rw [Traced.result_bind] at hres
    exact hrest.length r hres hret

/-- The callers of `psa_ecdsa_sign`: the sign function of the key type, which a TLS session calls with a
buffer of its own, and `psa_ecdsa_check_pair`. -/
inductive SignCaller
  | signFunc (pxPsaCtx : PsaPkCtx) (xMdAlg : MdType) (pucHash : List UInt8) (size : Nat)
  | checkPair (pvPub : Option EcpKeypair) (pvPrv : Option PsaPkCtx)

namespace SignCaller

/-- The size of the buffer of the caller. -/
def bufferSize : SignCaller → Nat
  | signFunc _ _ _ size => size
  | checkPair _ _ => testSignatureSize

/-- The signature that the caller asks for, if it comes to that. -/
def request : SignCaller → Option (PsaPkCtx × MdType × List UInt8)
  | signFunc pxPsaCtx xMdAlg pucHash _ => some (pxPsaCtx, xMdAlg, pucHash)
  | checkPair (some xPubCtx) (some xPrvCtx) =>
    if comparePair xPubCtx xPrvCtx = 0 then some (xPrvCtx, .sha256, pucTestHash) else none
  | checkPair _ _ => none

/-- The memory of the call from `pucSig` on. -/
def memory (mem : List UInt8) : SignCaller → List UInt8
  | signFunc _ _ _ _ => mem
  | checkPair _ _ => blit mem 0 (List.replicate testSignatureSize 0)

/-- What the caller does from its buffer on. -/
def events (env : EcdsaEnv) (mem : List UInt8) : SignCaller → List BufEvent
  | signFunc pxPsaCtx xMdAlg pucHash _ => (psaEcdsaSign env pxPsaCtx xMdAlg pucHash mem).log
  | checkPair pvPub pvPrv => (psaEcdsaCheckPair env pvPub pvPrv mem).log

end SignCaller

/-- Every write of the caller is inside its buffer, and the DER signature that it gets fits there. -/
structure CallerLaw (env : EcdsaEnv) (mem : List UInt8) (c : SignCaller) : Prop where
  inside : ∀ e ∈ c.events env mem, e.Inside c.bufferSize
  length : ∀ ctx md hash, c.request = some (ctx, md, hash) → ∀ r,
    (psaEcdsaSign env ctx md hash (c.memory mem)).result = some r → r.1 = 0 → r.2.1 ≤ c.bufferSize

/-- The buffer of the caller fits what PSA answers to its request. -/
def CallerOk (env : EcdsaEnv) (c : SignCaller) : Prop :=
  ∀ ctx md hash, c.request = some (ctx, md, hash) → BufferOk c.bufferSize (signed env ctx md hash)

/-- A caller does what the call of `psa_ecdsa_sign` does, if it makes one. -/
theorem caller_events (env : EcdsaEnv) (mem : List UInt8) (c : SignCaller) :
    c.events env mem = match c.request with
      | none => []
      | some (ctx, md, hash) => (psaEcdsaSign env ctx md hash (c.memory mem)).log := by
  cases c with
  | signFunc ctx md hash size => rfl
  | checkPair pvPub pvPrv =>
    rcases pvPub with - | pub
    · rfl
    rcases pvPrv with - | prv
    · rfl
    unfold SignCaller.events SignCaller.request psaEcdsaCheckPair
    by_cases hpair : comparePair pub prv = 0
    · simp only [if_pos hpair]
      refine Traced.log_bind_of_nil fun r => ?_
      split
      · rfl
      · rfl
    · simp only [if_neg hpair]
      rfl

/-- **The buffer of a signature**: every write of a caller is inside its buffer, and the DER signature fits,
exactly when the buffer has `PSA_SIGNATURE_MAX_SIZE` bytes or the caller encodes no signature in it. -/
theorem sign_buffer_iff (env : EcdsaEnv) (mem : List UInt8) (c : SignCaller) (ha : env.asn1.Documented)
    (hr : env.asn1.InRoom) (hfits : env.SignFits) : CallerLaw env mem c ↔ CallerOk env c := by
  have hevents := caller_events env mem c
  constructor
  · intro law ctx md hash hreq
    rw [hreq] at hevents
    have hsign : SignLaw c.bufferSize (psaEcdsaSign env ctx md hash (c.memory mem)) :=
      ⟨fun e he => law.inside e (hevents ▸ he), law.length ctx md hash hreq⟩
    exact (sign_law_iff ha hr hfits _).1 hsign
  · intro hok
    have hlaw : ∀ ctx md hash, c.request = some (ctx, md, hash) →
        SignLaw c.bufferSize (psaEcdsaSign env ctx md hash (c.memory mem)) :=
      fun ctx md hash hreq => (sign_law_iff ha hr hfits _).2 (hok ctx md hash hreq)
    refine ⟨fun e he => ?_, fun ctx md hash hreq => (hlaw ctx md hash hreq).length⟩
    rw [hevents] at he
    rcases hreq : c.request with - | ⟨ctx, md, hash⟩
    · rw [hreq] at he
      cases he
    · rw [hreq] at he
      exact (hlaw ctx md hash hreq).inside e he

/-! ### A pair -/

/-- PSA signs with the bytes `sig`, or has no such key. -/
def signingEnv (sig : List UInt8) : EcdsaEnv where
  signHash id _ _ n := if id = 1 ∧ sig.length ≤ n then (psaSuccess, sig) else (psaErrorInvalidHandle, [])
  asn1 := .whole
  mdEnabled _ := true
  readSignature _ _ _ := 0

theorem signingEnv_fits (sig : List UInt8) : (signingEnv sig).SignFits := by
  intro id alg hash n
  show (ite _ _ _ : Status × List UInt8).2.length ≤ n
  by_cases h : id = 1 ∧ sig.length ≤ n
  · rw [if_pos h]
    exact h.2
  · rw [if_neg h]
    exact Nat.zero_le n

/-- A key of P-256. -/
def p256Key : EcpKeypair := ⟨.secp256r1, 5, 7, 1⟩

/-- A session with a buffer of `PSA_SIGNATURE_MAX_SIZE` bytes. -/
def sessionSign : SignCaller := .signFunc ⟨p256Key, 1⟩ .sha256 pucTestHash 512

theorem sign_buffer_session : CallerLaw (signingEnv (List.replicate 64 1)) [] sessionSign ↔
    CallerOk (signingEnv (List.replicate 64 1)) sessionSign :=
  sign_buffer_iff _ _ _ Asn1Write.whole_documented Asn1Write.whole_inRoom (signingEnv_fits _)

/-- The check of a matching pair of P-256 writes an integer at the bytes from 480 to 511 of a buffer of 72
bytes. -/
theorem sign_buffer_missed :
    BufEvent.write 480 32 ∈ (psaEcdsaCheckPair (signingEnv (List.replicate 64 1)) (some p256Key)
      (some ⟨p256Key, 1⟩) (List.replicate 512 0)).log ∧ testSignatureSize = 72 ∧
    ¬CallerLaw (signingEnv (List.replicate 64 1)) (List.replicate 512 0)
      (.checkPair (some p256Key) (some ⟨p256Key, 1⟩)) := by
  have hwrite : BufEvent.write 480 32 ∈ (psaEcdsaCheckPair (signingEnv (List.replicate 64 1)) (some p256Key)
      (some ⟨p256Key, 1⟩) (List.replicate 512 0)).log := by
    decide +kernel
  refine ⟨hwrite, testSignatureSize_eq, fun law => ?_⟩
  have hlast := (law.inside _ hwrite 31 (by omega)).2
  have hsize : (SignCaller.checkPair (some p256Key) (some ⟨p256Key, 1⟩)).bufferSize = 72 :=
    testSignatureSize_eq
  omega

end Crypto
