import TrustZone.Crypto.PkiServices
import TrustZone.Pkcs11.AttributeWrites

/-!
# The bounds of what `C_GetAttributeValue` writes

* `getObjectValue_eq`, `getAttributes_eq`: the calls of `GetAttributeValue` are the writes, applied to
  the memory.
* `capacity_law_iff`: when the value of an object stays inside the buffer.
* `attributeWrites_iff`: a condition on every attribute that the loop reaches, from one attribute to the
  template.
* `write_law_iff`: when every attribute is written inside the bytes that the caller declared.
* `secrecy_law_iff`: when nothing of the buffer is seen by the caller, if the value was refused.
-/

namespace Pkcs11

open Lib Psa Crypto

variable {env : ValueEnv} {c : P11KeyConfig} {s : State} {xSession : SessionHandle}
  {xObject xHandle : ObjectHandle} {capacity : Nat}

/-! ## The writes and the memory -/

/-- `convert_pem_to_der` writes no more than the size it is given. -/
def RespectsSize (env : ValueEnv) : Prop :=
  ∀ pem size der, env.convertPemToDer pem size = some der → der.length ≤ size

theorem psaGetCertificateValue_eq (henv : RespectsSize env) (uid : Nat) :
    psaGetCertificateValue env uid =
      match copyCertificateValue env pkcs11ObjectMaxSize uid with
      | .error e => some (.error e)
      | .ok w => if w.written.length ≤ pkcs11ObjectMaxSize then some (.ok w.value) else none := by
  obtain ⟨getKeyAttributes, exportKey, psGetInfo, psGet, malloc, convert, ucGetData, ecp⟩ := env
  unfold psaGetCertificateValue copyCertificateValue
  dsimp only
  rcases psGetInfo uid with ⟨infoStatus, size⟩
  dsimp only
  rcases psGet uid size with ⟨getStatus, pucBuffer⟩
  dsimp only
  cases hconv : convert pucBuffer pkcs11ObjectMaxSize with
  | none => split_ifs <;> simp [*]
  | some der => split_ifs <;> simp [henv _ _ _ hconv]

theorem psaGetKeyValue_eq (env : ValueEnv) (uxKey : KeyHandle) :
    psaGetKeyValue env uxKey =
      match copyKeyValue env uxKey with
      | .error e => some (.error e)
      | .ok w => if w.written.length ≤ pkcs11ObjectMaxSize then some (.ok w.value) else none := by
  obtain ⟨getKeyAttributes, exportKey, psGetInfo, psGet, malloc, convert, ucGetData, ecp⟩ := env
  unfold psaGetKeyValue copyKeyValue
  dsimp only
  rcases getKeyAttributes uxKey with ⟨uxStatus, attributes, alg⟩
  dsimp only
  rcases exportKey uxKey (psaExportKeyOutputSize attributes.type attributes.bits.toNat) with
    ⟨exportStatus, data⟩
  dsimp only
  split_ifs <;> simp [*]

/-- **The value of an object** is the one that was copied, as long as it fits into the array. -/
theorem getObjectValue_eq (henv : RespectsSize env) (c : P11KeyConfig) (xHandle : ObjectHandle) :
    pkcs11PsaGetObjectValue env c xHandle =
      match copyObjectValue env pkcs11ObjectMaxSize c xHandle with
      | .error e => some (.error e)
      | .ok w => if w.written.length ≤ pkcs11ObjectMaxSize then some (.ok w.value) else none := by
  unfold pkcs11PsaGetObjectValue copyObjectValue objectSource ifMarked
  split_ifs
  all_goals first
    | rfl
    | exact psaGetCertificateValue_eq henv _
    | exact psaGetKeyValue_eq env _

/-- The bytes of a write are stored, if there are any. -/
def CkAttribute.apply (a : CkAttribute) (w : AttributeWrite) : Option CkAttribute :=
  let a := { a with ulValueLen := w.ulValueLen }
  if w.copied = [] then some a else a.store w.copied

@[simp] theorem CkAttribute.apply_nil (a : CkAttribute) (rv : CkRv) (n : Nat) :
    a.apply ⟨rv, n, []⟩ = some { a with ulValueLen := n } := by
  simp [CkAttribute.apply]

theorem CkAttribute.apply_store {a : CkAttribute} {v : List UInt8} (h : a.pValue = some v) (rv : CkRv)
    (n : Nat) (bytes : List UInt8) :
    a.apply ⟨rv, n, bytes⟩ = { a with ulValueLen := n }.store bytes := by
  obtain ⟨type, pValue, len⟩ := a
  obtain rfl : pValue = some v := h
  cases bytes with
  | nil => simp [CkAttribute.apply, CkAttribute.store]
  | cons b bytes => rfl

theorem ulongAttribute_eq (a : CkAttribute) (value : Except CkRv Nat) :
    ulongAttribute a value =
      (a.apply (ulongWrite a value)).map ((ulongWrite a value).rv, ·) := by
  unfold ulongAttribute ulongWrite
  split_ifs with hnull hlen
  · simp
  · simp
  · obtain ⟨v, hv⟩ := Option.ne_none_iff_exists'.1 hnull
    cases value with
    | error e => simp
    | ok n => rw [CkAttribute.apply_store hv]

/-- **An attribute** is what its write leaves of it. -/
theorem getAttribute_eq (env : ValueEnv) (c : P11KeyConfig) (o : QueriedObject) (a : CkAttribute) :
    getAttribute env c o.xPalHandle o.pcLabel o.value a =
      (a.apply (attributeWrite env c o a)).map ((attributeWrite env c o a).rv, ·) := by
  obtain ⟨type, pValue, len⟩ := a
  cases type with
  | ckaClass => exact ulongAttribute_eq _ _
  | ckaKeyType => exact ulongAttribute_eq _ _
  | ckaValue =>
    cases pValue with
    | none => simp only [getAttribute, attributeWrite]; split_ifs <;> simp
    | some v =>
      simp only [getAttribute, attributeWrite, reduceCtorEq, if_false]
      split_ifs with hprivate hlen
      · simp
      · simp
      · rw [CkAttribute.apply_store rfl]
  | ckaEcParams =>
    cases pValue with
    | none => simp [getAttribute, attributeWrite]
    | some v => simp [getAttribute, attributeWrite, CkAttribute.apply_store]
  | ckaEcPoint =>
    cases pValue with
    | none => simp [getAttribute, attributeWrite]
    | some v =>
      simp only [getAttribute, attributeWrite, reduceCtorEq, if_false]
      split_ifs with hlen
      · simp
      · rw [CkAttribute.apply_store rfl]
  | _ => simp [getAttribute, attributeWrite]

/-- The template after the writes of a loop. -/
def applyWrites : List CkAttribute → List AttributeWrite → Option (List CkAttribute)
  | a :: as, w :: ws =>
    match a.apply w with
    | none => none
    | some a => (applyWrites as ws).map (a :: ·)
  | as, _ => some as

/-- **The loop** is the writes, one attribute after the other. -/
theorem getAttributes_eq (env : ValueEnv) (c : P11KeyConfig) (o : QueriedObject)
    (template : List CkAttribute) :
    getAttributes env c o.xPalHandle o.pcLabel o.value template =
      (applyWrites template (attributeWrites env c o template).2).map
        ((attributeWrites env c o template).1, ·) := by
  induction template with
  | nil => rfl
  | cons a as ih =>
    unfold getAttributes attributeWrites
    rw [getAttribute_eq, ih]
    generalize attributeWrite env c o a = w
    cases happly : a.apply w with
    | none =>
      have hnone : ∀ ws, applyWrites (a :: as) (w :: ws) = none := by simp [applyWrites, happly]
      by_cases hrv : w.rv = .ok
      · simp [hrv, hnone]
      · simp [hrv, hnone]
    | some a' =>
      obtain ⟨rv, len, copied⟩ := w
      by_cases hrv : rv = .ok
      · subst hrv
        obtain ⟨rv, ws⟩ := attributeWrites env c o as
        simp only [Option.map_some, if_true, applyWrites, happly]
        cases applyWrites as ws <;> rfl
      · simp only [Option.map_some, if_neg hrv, applyWrites, happly]

/-! ## The capacity of the buffer -/

/-- What is asked of `PKCS11PSAGetObjectValue`: it writes no more than the buffer takes, and a value that
is longer is an error. -/
def CapacityLaw (env : ValueEnv) (capacity : Nat) (c : P11KeyConfig) (xHandle : ObjectHandle) : Prop :=
  ∀ w, copyObjectValue env capacity c xHandle = .ok w →
    w.written.length ≤ capacity ∧
      (w.value.isPrivate = false → w.value.pucData.length ≤ capacity)

/-- What is stored under a certificate's uid is no longer than the buffer, unless it is a PEM whose DER
is. -/
def CertificateFits (env : ValueEnv) (capacity uid : Nat) : Prop :=
  ∀ size blob, env.psGetInfo uid = (psaSuccess, size) → env.malloc size = true →
    env.psGet uid size = (psaSuccess, blob) →
      env.convertPemToDer blob capacity = none → blob.length ≤ capacity

/-- What PSA exports of a key is no longer than the buffer. -/
def KeyFits (env : ValueEnv) (capacity : Nat) (uxKey : KeyHandle) : Prop :=
  ∀ attributes alg data, env.getKeyAttributes uxKey = (psaSuccess, attributes, alg) →
    env.exportKey uxKey (psaExportKeyOutputSize attributes.type attributes.bits.toNat) =
      (psaSuccess, data) → data.length ≤ capacity

def ObjectSource.Fits (env : ValueEnv) (capacity : Nat) : ObjectSource → Prop
  | .certificate uid => CertificateFits env capacity uid
  | .key uxKey => KeyFits env capacity uxKey

theorem copyCertificateValue_iff (henv : RespectsSize env) (uid : Nat) :
    (∀ w, copyCertificateValue env capacity uid = .ok w → w.written.length ≤ capacity ∧
      (w.value.isPrivate = false → w.value.pucData.length ≤ capacity)) ↔
    CertificateFits env capacity uid := by
  constructor
  · intro h size blob hinfo hmalloc hget hconv
    have hcopy : copyCertificateValue env capacity uid = .ok ⟨blob, blob, false⟩ := by
      simp [copyCertificateValue, hinfo, hmalloc, hget, hconv]
    exact (h _ hcopy).1
  · intro h w hw
    unfold copyCertificateValue at hw
    cases hinfo : env.psGetInfo uid with
    | mk infoStatus size =>
      cases hget : env.psGet uid size with
      | mk getStatus blob =>
        simp only [hinfo, hget] at hw
        split_ifs at hw with hok hmalloc hread
        cases hw
        subst hok hread
        have hlen : ((env.convertPemToDer blob capacity).getD blob).length ≤ capacity := by
          cases hconv : env.convertPemToDer blob capacity with
          | none => exact h size blob hinfo hmalloc hget hconv
          | some der => exact henv _ _ _ hconv
        exact ⟨hlen, fun _ => hlen⟩

theorem copyKeyValue_iff (uxKey : KeyHandle) :
    (∀ w, copyKeyValue env uxKey = .ok w → w.written.length ≤ capacity ∧
      (w.value.isPrivate = false → w.value.pucData.length ≤ capacity)) ↔
    KeyFits env capacity uxKey := by
  constructor
  · intro h attributes alg data hattr hexport
    have hcopy : copyKeyValue env uxKey = .ok ⟨data, data, false⟩ := by
      have hne : psaSuccess ≠ psaErrorNotPermitted := by decide
      simp [copyKeyValue, hattr, hexport, hne]
    exact (h _ hcopy).1
  · intro h w hw
    unfold copyKeyValue at hw
    cases hattr : env.getKeyAttributes uxKey with
    | mk uxStatus rest =>
      obtain ⟨attributes, alg⟩ := rest
      cases hexport : env.exportKey uxKey
          (psaExportKeyOutputSize attributes.type attributes.bits.toNat) with
      | mk exportStatus data =>
        simp only [hattr, hexport] at hw
        split_ifs at hw with hok hrefused hread
        · cases hw
          exact ⟨Nat.zero_le _, nofun⟩
        · cases hw
          subst hok hread
          have hlen := h attributes alg data hattr hexport
          exact ⟨hlen, fun _ => hlen⟩

/-- **When the buffer is never overrun**: when what is stored or exported fits into it, or is a PEM whose
DER does. -/
theorem capacity_law_iff (henv : RespectsSize env) :
    CapacityLaw env capacity c xHandle ↔
      ∀ source, objectSource c xHandle = some source → source.Fits env capacity := by
  unfold CapacityLaw copyObjectValue
  cases hsource : objectSource c xHandle with
  | none => simp
  | some source =>
    cases source with
    | certificate uid => simp [copyCertificateValue_iff henv, ObjectSource.Fits]
    | key uxKey => simp [copyKeyValue_iff, ObjectSource.Fits]

/-- PSA with one certificate of `n` zeros. -/
def zerosStored (n : Nat) : ValueEnv :=
  PkiStores.valueEnv
    ⟨fun _ => none, fun _ => none, fun uid =>
      if uid = psaDeviceCertificateUid then some (List.replicate n 0) else none⟩
    ⟨fun _ => 0, fun _ => true, fun _ _ => none, [], 36⟩

/-- The module knows the certificate of the device. -/
def certificateMarked : P11KeyConfig := { P11KeyConfig.zero with xDeviceCertificateMark := true }

theorem copyObjectValue_zeros (n capacity : Nat) :
    copyObjectValue (zerosStored n) capacity certificateMarked eAwsDeviceCertificate =
      .ok ⟨List.replicate n 0, List.replicate n 0, false⟩ := by
  simp [copyObjectValue, objectSource, copyCertificateValue, certificateMarked, zerosStored,
    PkiStores.valueEnv]

/-- A certificate of two bytes. -/
theorem capacity_law_two :
    CapacityLaw (zerosStored 2) pkcs11ObjectMaxSize certificateMarked eAwsDeviceCertificate := by
  refine (capacity_law_iff (by intro _ _ _ h; cases h)).2 ?_
  intro source hsource
  obtain rfl : ObjectSource.certificate psaDeviceCertificateUid = source := Option.some.inj hsource
  intro size blob hinfo _ hget _
  obtain ⟨-, rfl⟩ := Prod.mk.inj hget
  exact (List.length_take_le' ..).trans (by simp [pkcs11ObjectMaxSize])

/-- **A certificate of `pkcs11OBJECT_MAX_SIZE` + 1 bytes** overruns the array. -/
theorem capacity_law_overrun :
    ¬CapacityLaw (zerosStored 1301) pkcs11ObjectMaxSize certificateMarked eAwsDeviceCertificate := by
  intro h
  have hle := (h _ (copyObjectValue_zeros 1301 pkcs11ObjectMaxSize)).1
  rw [List.length_replicate] at hle
  exact absurd hle (by decide)

/-! ## Every attribute that the loop reaches -/

/-- The loop goes on behind the attribute. -/
def Answered (env : ValueEnv) (c : P11KeyConfig) (o : QueriedObject) (a : CkAttribute) : Prop :=
  match a.type with
  | .ckaClass => a.pValue = none ∨ 4 ≤ a.ulValueLen ∧ palClass o.xPalHandle ≠ none
  | .ckaValue =>
    o.value.isPrivate = false ∧ (a.pValue = none ∨ o.value.pucData.length ≤ a.ulValueLen)
  | .ckaKeyType =>
    a.pValue = none ∨ 4 ≤ a.ulValueLen ∧ ∃ xPkcsKeyType, keyTypeOf env c o.pcLabel = .ok xPkcsKeyType
  | .ckaEcParams => True
  | .ckaEcPoint => a.pValue = none ∨ env.ecpPointSize ≤ a.ulValueLen
  | _ => False

theorem keyTypeOf_error_ne {label : List UInt8} {e : CkRv} (h : keyTypeOf env c label = .error e) :
    e ≠ .ok := by
  unfold keyTypeOf at h
  split at h
  · rename_i key _
    rcases hattr : env.getKeyAttributes key with ⟨uxStatus, attributes, alg⟩
    simp only [hattr] at h
    split_ifs at h <;> cases h <;> decide
  · rename_i hne _
    cases h
    exact hne

theorem ulongWrite_ok_iff (a : CkAttribute) {value : Except CkRv Nat}
    (hne : ∀ e, value = .error e → e ≠ .ok) :
    (ulongWrite a value).rv = .ok ↔
      a.pValue = none ∨ 4 ≤ a.ulValueLen ∧ ∃ n, value = .ok n := by
  unfold ulongWrite
  split_ifs with hnull hlen
  · simp [hnull]
  · simp [hnull, hlen]
  · cases value with
    | error e => simp [hnull, hne e rfl]
    | ok n => simp [hnull, Nat.not_lt.1 hlen]

theorem attributeWrite_ok_iff (o : QueriedObject) (a : CkAttribute) :
    (attributeWrite env c o a).rv = .ok ↔ Answered env c o a := by
  obtain ⟨type, pValue, len⟩ := a
  cases type with
  | ckaClass =>
    refine (ulongWrite_ok_iff _ ?_).trans ?_
    · intro e he
      cases hclass : palClass o.xPalHandle <;> simp [hclass] at he
      subst he
      decide
    · cases hclass : palClass o.xPalHandle <;> simp [Answered, hclass]
  | ckaKeyType => exact ulongWrite_ok_iff _ fun e he => keyTypeOf_error_ne he
  | ckaValue =>
    simp only [attributeWrite, Answered]
    split_ifs with hprivate hnull hlen <;> simp_all
  | ckaEcParams =>
    simp only [attributeWrite, Answered]
    split_ifs <;> simp
  | ckaEcPoint =>
    simp only [attributeWrite, Answered]
    split_ifs with hnull hlen
    · simp [hnull]
    · simp [hnull, hlen]
    · simp [hnull, Nat.not_lt.1 hlen]
  | _ => simp [attributeWrite, Answered]

/-- The loop reaches the attribute: every one before it is answered. -/
def Reached (env : ValueEnv) (c : P11KeyConfig) (o : QueriedObject) (template : List CkAttribute)
    (a : CkAttribute) : Prop :=
  ∃ before after, template = before ++ a :: after ∧ ∀ b ∈ before, Answered env c o b

theorem reached_cons (o : QueriedObject) (a b : CkAttribute) (as : List CkAttribute) :
    Reached env c o (a :: as) b ↔ b = a ∨ Answered env c o a ∧ Reached env c o as b := by
  constructor
  · rintro ⟨before, after, heq, hbefore⟩
    cases before with
    | nil => exact .inl (List.cons.inj heq).1.symm
    | cons x before =>
      obtain ⟨rfl, htail⟩ := List.cons.inj heq
      obtain ⟨hx, hrest⟩ := List.forall_mem_cons.1 hbefore
      exact .inr ⟨hx, before, after, htail, hrest⟩
  · rintro (rfl | ⟨ha, before, after, rfl, hbefore⟩)
    · exact ⟨[], as, rfl, by simp⟩
    · exact ⟨a :: before, after, rfl, List.forall_mem_cons.2 ⟨ha, hbefore⟩⟩

/-- **From an attribute to the template**: what holds of every write of the loop. -/
theorem attributeWrites_iff {P : CkAttribute → AttributeWrite → Prop} (o : QueriedObject)
    (template : List CkAttribute) :
    (∀ aw ∈ template.zip (attributeWrites env c o template).2, P aw.1 aw.2) ↔
      ∀ a, Reached env c o template a → P a (attributeWrite env c o a) := by
  induction template with
  | nil =>
    refine iff_of_true (by simp) ?_
    rintro a ⟨before, after, heq, -⟩
    simp at heq
  | cons a as ih =>
    have hcons : (∀ b, Reached env c o (a :: as) b → P b (attributeWrite env c o b)) ↔
        P a (attributeWrite env c o a) ∧ (Answered env c o a →
          ∀ b, Reached env c o as b → P b (attributeWrite env c o b)) := by
      simp only [reached_cons]
      constructor
      · intro h
        exact ⟨h a (.inl rfl), fun ha b hb => h b (.inr ⟨ha, hb⟩)⟩
      · rintro ⟨h1, h2⟩ b (rfl | ⟨ha, hb⟩)
        · exact h1
        · exact h2 ha b hb
    rw [hcons, ← ih, attributeWrites]
    by_cases hok : (attributeWrite env c o a).rv = .ok
    · have ha := (attributeWrite_ok_iff o a).1 hok
      simp [hok, ha]
    · have ha : ¬Answered env c o a := fun ha => hok ((attributeWrite_ok_iff o a).2 ha)
      simp [hok, ha]

/-- An attribute that is refused decides the result. -/
theorem attributeWrites_rv (o : QueriedObject) (template : List CkAttribute) :
    ∀ w ∈ (attributeWrites env c o template).2, w.rv ≠ .ok →
      (attributeWrites env c o template).1 = w.rv := by
  induction template with
  | nil => simp [attributeWrites]
  | cons a as ih =>
    rw [attributeWrites]
    by_cases hok : (attributeWrite env c o a).rv = .ok
    · simpa [hok] using ih
    · simp [hok]

theorem cGetAttributeWrites_eq {h : Nat} {o : QueriedObject} (hs : sessionCheck s xSession = .ok h)
    (ho : queriedObject env s xObject = .ok o) {template : List CkAttribute} (hne : template ≠ []) :
    cGetAttributeWrites env s xSession xObject template =
      attributeWrites env s.p11KeyConfig o template := by
  simp [cGetAttributeWrites, hs, ho, hne]

/-- The call gets to its loop, or no attribute is written. -/
theorem cGetAttributeWrites_cases (env : ValueEnv) (s : State) (xSession : SessionHandle)
    (xObject : ObjectHandle) (template : List CkAttribute) :
    (∃ h o, sessionCheck s xSession = .ok h ∧ queriedObject env s xObject = .ok o ∧
      template ≠ [] ∧ cGetAttributeWrites env s xSession xObject template =
        attributeWrites env s.p11KeyConfig o template) ∨
    ((∀ h o, sessionCheck s xSession = .ok h → queriedObject env s xObject = .ok o →
      template = []) ∧ (cGetAttributeWrites env s xSession xObject template).2 = []) := by
  unfold cGetAttributeWrites
  cases hs : sessionCheck s xSession with
  | error e => exact .inr ⟨nofun, rfl⟩
  | ok h =>
    by_cases ht : template = []
    · exact .inr ⟨fun _ _ _ _ => ht, by simp [ht]⟩
    · cases ho : queriedObject env s xObject with
      | error e => exact .inr ⟨nofun, by simp [ht]⟩
      | ok o => exact .inl ⟨h, o, rfl, rfl, ht, by simp [ht]⟩

/-! ## Inside the declared bytes -/

/-- The value of an attribute. -/
def attributeValue (env : ValueEnv) (c : P11KeyConfig) (o : QueriedObject) :
    AttributeType → Option (List UInt8)
  | .ckaClass => (palClass o.xPalHandle).map (leBytes 4)
  | .ckaValue => if o.value.isPrivate then none else some o.value.pucData
  | .ckaKeyType =>
    match keyTypeOf env c o.pcLabel with
    | .ok xPkcsKeyType => some (leBytes 4 xPkcsKeyType)
    | .error _ => none
  | .ckaEcParams => some pkcs11DerEncodedOidP256
  | .ckaEcPoint => some (0x04 :: UInt8.ofNat o.value.pucData.length :: o.value.pucData)
  | _ => none

/-- What is asked of the writes of a call: an attribute is written inside the bytes that the caller
declared, and one whose value is longer is not written and ends the call. -/
def WriteLaw (env : ValueEnv) (s : State) (xSession : SessionHandle) (xObject : ObjectHandle)
    (template : List CkAttribute) : Prop :=
  ∀ aw ∈ template.zip (cGetAttributeWrites env s xSession xObject template).2, aw.1.pValue ≠ none →
    aw.2.copied.length ≤ aw.1.ulValueLen ∧
      ∀ o value, queriedObject env s xObject = .ok o →
        attributeValue env s.p11KeyConfig o aw.1.type = some value →
        aw.1.ulValueLen < value.length →
          (cGetAttributeWrites env s xSession xObject template).1 = .bufferTooSmall ∧
            aw.2.copied = []

/-- The attribute is written beyond what was declared: the parameters of the curve whatever was declared,
a point when it is long enough for an `mbedtls_ecp_point`. -/
def Overruns (env : ValueEnv) (o : QueriedObject) (a : CkAttribute) : Prop :=
  a.pValue ≠ none ∧
    match a.type with
    | .ckaEcParams => a.ulValueLen < pkcs11DerEncodedOidP256.length
    | .ckaEcPoint =>
      env.ecpPointSize ≤ a.ulValueLen ∧ a.ulValueLen < o.value.pucData.length + 2
    | _ => False

/-- What is asked of one write. -/
def BoundedWrite (env : ValueEnv) (c : P11KeyConfig) (o : QueriedObject) (a : CkAttribute)
    (w : AttributeWrite) : Prop :=
  a.pValue ≠ none → w.copied.length ≤ a.ulValueLen ∧
    ∀ value, attributeValue env c o a.type = some value → a.ulValueLen < value.length →
      w.rv = .bufferTooSmall ∧ w.copied = []

theorem ulongWrite_bounded {a : CkAttribute} {value : Except CkRv Nat} {bytes : List UInt8}
    (hnull : a.pValue ≠ none) (hbytes : bytes.length = 4) :
    (ulongWrite a value).copied.length ≤ a.ulValueLen ∧
      (a.ulValueLen < bytes.length →
        (ulongWrite a value).rv = .bufferTooSmall ∧ (ulongWrite a value).copied = []) := by
  unfold ulongWrite
  rw [if_neg hnull, hbytes]
  split_ifs with hlen
  · exact ⟨Nat.zero_le _, fun _ => ⟨rfl, rfl⟩⟩
  · refine ⟨?_, fun h => absurd h hlen⟩
    cases value with
    | error e => exact Nat.zero_le _
    | ok n =>
      rw [leBytes_length]
      exact Nat.le_of_not_lt hlen

theorem Overruns.lt {o : QueriedObject} {a : CkAttribute} (h : Overruns env o a) :
    a.ulValueLen < (attributeWrite env c o a).copied.length := by
  obtain ⟨type, pValue, len⟩ := a
  obtain ⟨hnull, hover⟩ := h
  cases type with
  | ckaEcParams => simpa [attributeWrite, if_neg hnull] using hover
  | ckaEcPoint =>
    simpa [attributeWrite, if_neg hnull, Nat.not_lt.2 hover.1, Nat.lt_succ_iff] using hover.2
  | _ => exact hover.elim

theorem attributeWrite_bounded {o : QueriedObject} {a : CkAttribute} (h : ¬Overruns env o a) :
    BoundedWrite env c o a (attributeWrite env c o a) := by
  obtain ⟨type, pValue, len⟩ := a
  intro hnull
  cases type with
  | ckaClass =>
    refine ⟨(ulongWrite_bounded hnull (leBytes_length 4 0)).1, ?_⟩
    intro value hvalue hlt
    obtain ⟨n, -, rfl⟩ := Option.map_eq_some_iff.1 hvalue
    exact (ulongWrite_bounded hnull (leBytes_length 4 n)).2 hlt
  | ckaKeyType =>
    refine ⟨(ulongWrite_bounded hnull (leBytes_length 4 0)).1, ?_⟩
    intro value hvalue hlt
    simp only [attributeValue] at hvalue
    split at hvalue
    · obtain rfl := Option.some.inj hvalue
      exact (ulongWrite_bounded hnull (leBytes_length 4 _)).2 hlt
    · cases hvalue
  | ckaValue =>
    simp only [attributeWrite, attributeValue, if_neg hnull]
    split_ifs with hprivate hlen
    · exact ⟨Nat.zero_le _, nofun⟩
    · exact ⟨Nat.zero_le _, fun _ _ _ => ⟨rfl, rfl⟩⟩
    · refine ⟨Nat.le_of_not_lt hlen, ?_⟩
      intro value hvalue hlt
      obtain rfl := Option.some.inj hvalue
      exact absurd hlt hlen
  | ckaEcParams =>
    have hle := Nat.le_of_not_lt fun hlt => h ⟨hnull, hlt⟩
    simp only [attributeWrite, if_neg hnull]
    refine ⟨hle, ?_⟩
    intro value hvalue hlt
    obtain rfl := Option.some.inj hvalue
    exact absurd hle (Nat.not_le.2 hlt)
  | ckaEcPoint =>
    simp only [attributeWrite, if_neg hnull]
    split_ifs with hshort
    · exact ⟨Nat.zero_le _, fun _ _ _ => ⟨rfl, rfl⟩⟩
    · have hle := Nat.le_of_not_lt fun hlt => h ⟨hnull, Nat.le_of_not_lt hshort, hlt⟩
      refine ⟨hle, ?_⟩
      intro value hvalue hlt
      obtain rfl := Option.some.inj hvalue
      exact absurd hle (Nat.not_le.2 hlt)
  | _ => exact ⟨Nat.zero_le _, nofun⟩

/-- **When every attribute is written inside the bytes declared for it**: when the loop reaches none that
is written beyond them. -/
theorem write_law_iff (env : ValueEnv) (s : State) (xSession : SessionHandle) (xObject : ObjectHandle)
    (template : List CkAttribute) :
    WriteLaw env s xSession xObject template ↔
      ∀ h o, sessionCheck s xSession = .ok h → queriedObject env s xObject = .ok o →
        ∀ a, Reached env s.p11KeyConfig o template a → ¬Overruns env o a := by
  obtain ⟨h, o, hs, ho, -, hcall⟩ | ⟨hnone, hcall⟩ :=
    cGetAttributeWrites_cases env s xSession xObject template
  · unfold WriteLaw
    rw [hcall]
    constructor
    · intro hlaw h' o' _ ho' a ha hover
      obtain rfl := Except.ok.inj (ho.symm.trans ho')
      have hlen := (attributeWrites_iff (P := fun a w => a.pValue ≠ none →
        w.copied.length ≤ a.ulValueLen) o template).1 (fun aw haw hv => (hlaw aw haw hv).1)
        a ha hover.1
      exact Nat.not_le.2 hover.lt hlen
    · intro hlaw aw haw hv
      have hbound := (attributeWrites_iff o template).2
        (fun a ha => attributeWrite_bounded (hlaw h o hs ho a ha)) aw haw hv
      refine ⟨hbound.1, ?_⟩
      intro o' value ho' hvalue hlt
      obtain rfl := Except.ok.inj (ho.symm.trans ho')
      obtain ⟨hsmall, hcopied⟩ := hbound.2 value hvalue hlt
      have hrv := attributeWrites_rv o template aw.2 (List.of_mem_zip haw).2
      exact ⟨(hrv (by rw [hsmall]; decide)).trans hsmall, hcopied⟩
  · refine iff_of_true ?_ ?_
    · intro aw haw
      rw [hcall] at haw
      simp at haw
    · intro h o hs ho a ha
      obtain ⟨before, after, heq, -⟩ := ha
      rw [hnone h o hs ho] at heq
      simp at heq

/-- An open session, and the private key of the device as the first object of the list. -/
def deviceState : State where
  xIsInitialized := true
  xObjectList := ⟨fun _ => ⟨eAwsDevicePrivateKey, labelDevicePrivateKeyForTls ++ [0]⟩,
    fun _ => P11Object.zero⟩
  p11KeyConfig :=
    { P11KeyConfig.zero with
      uxDevicePrivateKey := psaDevicePrivateKeyId, xDevicePrivateKeyMark := true }
  sessions _ := ⟨true, none, 0, pkcs11NoOperation, 0, 0, pkcs11NoOperation, 0⟩

/-- PSA with a key pair on P-256 that is not exported; a refusal leaves the length of the buffer. -/
def refusingEnv : ValueEnv where
  getKeyAttributes _ := (psaSuccess, ⟨eccKeyPairSecpR1, 256⟩, psaAlgEcdsa psaAlgSha256)
  exportKey _ _ := (psaErrorNotPermitted, [])
  psGetInfo _ := (psaErrorDoesNotExist, 0)
  psGet _ _ := (psaErrorDoesNotExist, [])
  malloc _ := true
  convertPemToDer _ _ := none
  ucGetData := List.replicate 32 0
  ecpPointSize := 36

/-- **Four bytes for the parameters of the curve**: ten are written. -/
theorem write_law_overrun :
    ¬WriteLaw refusingEnv deviceState (some 0) 1 [⟨.ckaEcParams, some [0, 0, 0, 0], 4⟩] := by
  intro h
  have hle := (h ⟨⟨.ckaEcParams, some [0, 0, 0, 0], 4⟩, .ok, 10, pkcs11DerEncodedOidP256⟩
    List.mem_cons_self nofun).1
  exact absurd hle (by decide)

/-! ## What a refused value shows -/

/-- A private key that PSA does not export. -/
structure NonExportable (env : ValueEnv) (s : State) (xObject : ObjectHandle) : Prop where
  handle : (prvFindObjectInListByHandle s.xObjectList xObject).1 = eAwsDevicePrivateKey
  mark : s.p11KeyConfig.xDevicePrivateKeyMark = true
  attributes : (env.getKeyAttributes s.p11KeyConfig.uxDevicePrivateKey).1 = psaSuccess
  refused : ∀ size, (env.exportKey s.p11KeyConfig.uxDevicePrivateKey size).1 = psaErrorNotPermitted

/-- What is asked of a call: the answer and what is stored for the caller do not depend on what the array
for the value held before. -/
def SecrecyLaw (env : ValueEnv) (s : State) (xSession : SessionHandle) (xObject : ObjectHandle)
    (template : List CkAttribute) : Prop :=
  ∀ ucGetData : List UInt8, ucGetData.length = env.ucGetData.length →
    cGetAttributeWrites { env with ucGetData := ucGetData } s xSession xObject template =
      cGetAttributeWrites env s xSession xObject template

/-- The private key as the call finds it: its value is what lies in the array. -/
def refusedObject (env : ValueEnv) (s : State) (xObject : ObjectHandle) : QueriedObject :=
  ⟨eAwsDevicePrivateKey, (prvFindObjectInListByHandle s.xObjectList xObject).2.getD [],
    env.ucGetData, true⟩

theorem NonExportable.object (h : NonExportable env s xObject) :
    queriedObject env s xObject = .ok (refusedObject env s xObject) := by
  obtain ⟨hhandle, hmark, hattr, hrefused⟩ := h
  have hcopy : copyKeyValue env s.p11KeyConfig.uxDevicePrivateKey =
      .ok ⟨[], env.ucGetData, true⟩ := by
    unfold copyKeyValue
    cases hkey : env.getKeyAttributes s.p11KeyConfig.uxDevicePrivateKey with
    | mk uxStatus rest =>
      rw [hkey] at hattr
      obtain rfl : uxStatus = psaSuccess := hattr
      simp only [if_true, hrefused]
  have hvalue : copyObjectValue env pkcs11ObjectMaxSize s.p11KeyConfig eAwsDevicePrivateKey =
      .ok ⟨[], env.ucGetData, true⟩ := by
    have hsource : objectSource s.p11KeyConfig eAwsDevicePrivateKey =
        some (.key s.p11KeyConfig.uxDevicePrivateKey) := by
      simp [objectSource, hmark, eAwsDevicePrivateKey, eAwsDeviceCertificate, eAwsJitpCertificate,
        eAwsRootCertificate]
    rw [copyObjectValue, hsource]
    exact hcopy
  unfold queriedObject
  have hne : eAwsDevicePrivateKey ≠ ckInvalidHandle := by decide
  cases hfind : prvFindObjectInListByHandle s.xObjectList xObject with
  | mk xPalHandle pcLabel =>
    rw [hfind] at hhandle
    obtain rfl : xPalHandle = eAwsDevicePrivateKey := hhandle
    simp only [ne_eq, hne, not_false_eq_true, if_true, hvalue, refusedObject, hfind]

/-- The attribute copies the array: a point, when there is memory for an `mbedtls_ecp_point`. -/
def Discloses (env : ValueEnv) (a : CkAttribute) : Prop :=
  a.type = .ckaEcPoint ∧ a.pValue ≠ none ∧ env.ecpPointSize ≤ a.ulValueLen

section Twice

variable {ucGetData : List UInt8} {o o' : QueriedObject}

theorem answered_congr (s : State) (xObject : ObjectHandle) (a : CkAttribute) :
    Answered { env with ucGetData := ucGetData } c
      (refusedObject { env with ucGetData := ucGetData } s xObject) a ↔
    Answered env c (refusedObject env s xObject) a := by
  obtain ⟨type, pValue, len⟩ := a
  cases type with
  | ckaValue => simp [Answered, refusedObject]
  | _ => rfl

theorem reached_congr (template : List CkAttribute) (a : CkAttribute) :
    Reached { env with ucGetData := ucGetData } c
      (refusedObject { env with ucGetData := ucGetData } s xObject) template a ↔
    Reached env c (refusedObject env s xObject) template a := by
  simp only [Reached, answered_congr]

theorem attributeWrite_congr {a : CkAttribute} (ha : ¬Discloses env a) :
    attributeWrite { env with ucGetData := ucGetData } c
      (refusedObject { env with ucGetData := ucGetData } s xObject) a =
    attributeWrite env c (refusedObject env s xObject) a := by
  obtain ⟨type, pValue, len⟩ := a
  cases type with
  | ckaEcPoint =>
    simp only [attributeWrite]
    split_ifs with hnull hshort
    · rfl
    · rfl
    · exact absurd ⟨rfl, hnull, Nat.le_of_not_lt hshort⟩ ha
  | _ => rfl

theorem attributeWrites_congr {env' : ValueEnv} (template : List CkAttribute)
    (h : ∀ a, Reached env c o template a → attributeWrite env' c o' a = attributeWrite env c o a) :
    attributeWrites env' c o' template = attributeWrites env c o template := by
  induction template with
  | nil => rfl
  | cons a as ih =>
    have hhead := h a ((reached_cons o a a as).2 (.inl rfl))
    rw [attributeWrites, attributeWrites, hhead]
    by_cases hok : (attributeWrite env c o a).rv = .ok
    · have ha := (attributeWrite_ok_iff o a).1 hok
      simp only [hok, if_true]
      rw [ih fun b hb => h b ((reached_cons o a b as).2 (.inr ⟨ha, hb⟩))]
    · simp only [hok, if_false]

/-- Writes that agree are the same at every attribute that the loop reaches. -/
theorem attributeWrite_eq_of {env' : ValueEnv} {template : List CkAttribute}
    (h : attributeWrites env' c o' template = attributeWrites env c o template) {a : CkAttribute}
    (ha : Reached env' c o' template a) : attributeWrite env' c o' a = attributeWrite env c o a := by
  have hall : ∀ aw ∈ template.zip (attributeWrites env' c o' template).2,
      aw.2 = attributeWrite env c o aw.1 := by
    rw [h]
    exact (attributeWrites_iff (P := fun a w => w = attributeWrite env c o a) o template).2
      fun _ _ => rfl
  exact (attributeWrites_iff (P := fun a w => w = attributeWrite env c o a) o' template).1 hall a ha

end Twice

theorem NonExportable.again (h : NonExportable env s xObject) (ucGetData : List UInt8) :
    NonExportable { env with ucGetData := ucGetData } s xObject :=
  ⟨h.handle, h.mark, h.attributes, h.refused⟩

theorem map_succ_ne {l : List UInt8} (h : l ≠ []) : l.map (· + 1) ≠ l := by
  cases l with
  | nil => exact absurd rfl h
  | cons b l =>
    intro heq
    have hb : b + 1 = b := (List.cons.inj heq).1
    exact absurd hb (by simp)

/-- **When nothing of the array is seen**: when PSA left no length, or the loop reaches no point that it
copies. -/
theorem secrecy_law_iff (hkey : NonExportable env s xObject) (template : List CkAttribute) :
    SecrecyLaw env s xSession xObject template ↔
      env.ucGetData = [] ∨ ∀ h, sessionCheck s xSession = .ok h →
        ∀ a, Reached env s.p11KeyConfig (refusedObject env s xObject) template a →
          ¬Discloses env a := by
  have hcall : ∀ (ucGetData : List UInt8) {h : Nat}, sessionCheck s xSession = .ok h →
      template ≠ [] →
      cGetAttributeWrites { env with ucGetData := ucGetData } s xSession xObject template =
        attributeWrites { env with ucGetData := ucGetData } s.p11KeyConfig
          (refusedObject { env with ucGetData := ucGetData } s xObject) template :=
    fun ucGetData _ hs hne => cGetAttributeWrites_eq hs (hkey.again ucGetData).object hne
  constructor
  · intro hlaw
    by_cases hnil : env.ucGetData = []
    · exact .inl hnil
    · refine .inr fun h hs a ha hdis => map_succ_ne hnil ?_
      have hne : template ≠ [] := by
        rintro rfl
        obtain ⟨before, after, heq, -⟩ := ha
        simp at heq
      -- the point is a copy of the array
      have heq := hlaw (env.ucGetData.map (· + 1)) (by simp)
      rw [hcall _ hs hne, cGetAttributeWrites_eq hs hkey.object hne] at heq
      have hwrite := attributeWrite_eq_of heq ((reached_congr template a).2 ha)
      obtain ⟨type, pValue, len⟩ := a
      obtain ⟨htype, hnull, hsize⟩ := hdis
      obtain rfl : type = .ckaEcPoint := htype
      have hcopied := congrArg AttributeWrite.copied hwrite
      simp only [attributeWrite, if_neg hnull, if_neg (Nat.not_lt.2 hsize), refusedObject] at hcopied
      exact (List.cons.inj (List.cons.inj hcopied).2).2
  · intro hcond ucGetData hlen
    obtain hnil | hreach := hcond
    · rw [hnil, List.length_nil, List.length_eq_zero_iff] at hlen
      subst hlen
      rw [← hnil]
    · cases hs : sessionCheck s xSession with
      | error e => simp only [cGetAttributeWrites, hs]
      | ok h =>
        by_cases hne : template = []
        · simp only [cGetAttributeWrites, hs, hne, if_true]
        · rw [hcall _ hs hne, cGetAttributeWrites_eq hs hkey.object hne]
          exact attributeWrites_congr template fun a ha => attributeWrite_congr (hreach h hs a ha)

/-- The key type and the class of the private key. -/
theorem secrecy_law_class : SecrecyLaw refusingEnv deviceState (some 0) 1
    [⟨.ckaClass, some [0, 0, 0, 0], 4⟩, ⟨.ckaValue, none, 0⟩] := by
  refine (secrecy_law_iff ⟨rfl, rfl, rfl, fun _ => rfl⟩ _).2 (.inr ?_)
  rintro h - a ⟨before, after, heq, -⟩ hdis
  have hmem : a ∈ [(⟨.ckaClass, some [0, 0, 0, 0], 4⟩ : CkAttribute), ⟨.ckaValue, none, 0⟩] := by
    rw [heq]
    simp
  obtain rfl | rfl := List.mem_pair.1 hmem <;> exact absurd hdis.1 nofun

/-- **A point of the private key** is a copy of the array. -/
theorem secrecy_law_point :
    ¬SecrecyLaw refusingEnv deviceState (some 0) 1
      [⟨.ckaEcPoint, some (List.replicate 67 0), 67⟩] := by
  intro h
  have heq := h (List.replicate 32 1) rfl
  have hwrites := congrArg (fun r => r.2.map AttributeWrite.copied) heq
  exact absurd hwrites (by decide)

end Pkcs11
