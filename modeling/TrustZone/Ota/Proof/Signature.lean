import TrustZone.Crypto.Proof.EcdsaSig

/-!
# The signatures that `otaPal_CheckSignature` takes

`prvConvertToRawECDSASignature` looks at the two length octets of a signature and at nothing else: not at
the tags, not at the length of the sequence, and not at the declared size.

* `prvConvertToRawECDSASignature_congr`: its result depends on the bytes it reads only.
* `conversion_law_iff`: when it accepts DER signatures only, and reads no byte beyond the declared size.
-/

namespace Ota

open Psa Lib Crypto

/-! ## What is read -/

theorem slice_congr {m m' : Nat → UInt8} {off n : Nat}
    (h : ∀ i ∈ List.range' off n, m i = m' i) : slice m off n = slice m' off n := by
  unfold slice
  apply List.map_congr_left
  intro i hi
  apply h
  rw [List.mem_range'_1]
  have := List.mem_range.1 hi
  omega

theorem mem_componentReads_lt {contents len i : Nat} (h : i ∈ componentReads contents len) :
    i < contents + len ∧ len ≤ 33 := by
  unfold componentReads at h
  split_ifs at h with h33 h32
  · have := List.mem_range'_1.1 h
    omega
  · have := List.mem_range'_1.1 h
    omega
  · cases h

theorem prvConvertToRawECDSASignatureReads_congr {enc enc' : Nat → UInt8}
    (h : ∀ i ∈ prvConvertToRawECDSASignatureReads enc, enc i = enc' i) :
    prvConvertToRawECDSASignatureReads enc = prvConvertToRawECDSASignatureReads enc' := by
  simp only [prvConvertToRawECDSASignatureReads, List.forall_mem_cons, List.forall_mem_append] at h ⊢
  obtain ⟨h3, -, hnext⟩ := h
  rw [← h3]
  split_ifs at hnext ⊢
  · rw [← (List.forall_mem_cons.1 hnext).1]
  · rfl

/-- **What is read decides**: another memory with the same bytes there gives the same result. -/
theorem prvConvertToRawECDSASignature_congr {enc enc' : Nat → UInt8}
    (h : ∀ i ∈ prvConvertToRawECDSASignatureReads enc, enc i = enc' i) :
    prvConvertToRawECDSASignature enc = prvConvertToRawECDSASignature enc' := by
  simp only [prvConvertToRawECDSASignatureReads, List.forall_mem_cons, List.forall_mem_append] at h
  obtain ⟨h3, hr, hnext⟩ := h
  unfold prvConvertToRawECDSASignature
  rw [← h3]
  generalize (enc 3).toNat = rLen at hr hnext
  -- the S component, once the R component has been read
  have hs : ∀ raw : List UInt8, rLen ≤ 33 →
      (let sLen := (enc (4 + rLen + 1)).toNat
        if sLen = 33 then (true, blit raw 32 (slice enc (4 + rLen + 1 + 2) 32))
        else if sLen ≤ 32 then (true, blit raw (64 - sLen) (slice enc (4 + rLen + 1 + 1) sLen))
        else (false, raw)) =
      (let sLen := (enc' (4 + rLen + 1)).toNat
        if sLen = 33 then (true, blit raw 32 (slice enc' (4 + rLen + 1 + 2) 32))
        else if sLen ≤ 32 then (true, blit raw (64 - sLen) (slice enc' (4 + rLen + 1 + 1) sLen))
        else (false, raw)) := by
    intro raw hle
    rw [if_pos hle, List.forall_mem_cons] at hnext
    obtain ⟨hlen, hreads⟩ := hnext
    rw [← hlen]
    generalize (enc (4 + rLen + 1)).toNat = sLen at hreads
    unfold componentReads at hreads
    simp only
    split_ifs at hreads ⊢ with h33 h32
    · rw [slice_congr hreads]
    · rw [slice_congr hreads]
    · rfl
  unfold componentReads at hr
  simp only
  split_ifs at hr ⊢ with h33 h32
  · subst h33
    rw [slice_congr hr]
    exact hs _ (le_refl 33)
  · rw [slice_congr hr]
    exact hs _ (by omega)
  · rfl

/-! ## The law -/

/-- What is asked of a conversion: it succeeds for DER signatures of 32-byte numbers only, with the two
numbers, and reads nothing beyond the declared size. -/
structure ConversionLaw (pSignature : Sig256) : Prop where
  accepts : (prvConvertToRawECDSASignature pSignature.data).1 = true → ∃ r s,
    r < 256 ^ 32 ∧ s < 256 ^ 32 ∧ slice pSignature.data 0 pSignature.size = derSignature r s ∧
      (prvConvertToRawECDSASignature pSignature.data).2 = bigEndian 32 r ++ bigEndian 32 s
  bounds : ∀ i ∈ prvConvertToRawECDSASignatureReads pSignature.data, i < pSignature.size

/-- The declared bytes are a DER signature. -/
def IsDer (pSignature : Sig256) : Prop :=
  ∃ r s, r < 256 ^ 32 ∧ s < 256 ^ 32 ∧
    slice pSignature.data 0 pSignature.size = derSignature r s

/-- A length octet above 33 is among the declared bytes: that of the first component, or that of the
second, where the first one says it is. -/
def HasLongComponent (pSignature : Sig256) : Prop :=
  3 < pSignature.size ∧ (33 < (pSignature.data 3).toNat ∨
    4 + (pSignature.data 3).toNat + 1 < pSignature.size ∧
      33 < (pSignature.data (4 + (pSignature.data 3).toNat + 1)).toNat)

theorem prvConvertToRawECDSASignature_false_iff (enc : Nat → UInt8) :
    (prvConvertToRawECDSASignature enc).1 = false ↔
      33 < (enc 3).toNat ∨ 33 < (enc (4 + (enc 3).toNat + 1)).toNat ∧ (enc 3).toNat ≤ 33 := by
  unfold prvConvertToRawECDSASignature
  generalize (enc 3).toNat = rLen
  by_cases h33 : rLen = 33
  · subst h33
    simp only [if_true]
    simp only [Nat.reduceAdd]
    split_ifs <;> simp <;> omega
  · by_cases h32 : rLen ≤ 32
    · simp only [if_neg h33, if_pos h32]
      split_ifs <;> simp <;> omega
    · simp only [if_neg h33, if_neg h32, true_iff]
      omega

/-- The bytes of a DER signature are enough for what is read of it. -/
theorem derSignature_reads {r s : Nat} (hr : r < 256 ^ 32) (hs : s < 256 ^ 32) :
    ∀ i ∈ prvConvertToRawECDSASignatureReads (memOf (derSignature r s)),
      i < (derSignature r s).length := by
  obtain ⟨x, hder⟩ := derSignature_eq hr hs
  have hbr := Der.intBody_length_le hr
  have hbs := Der.intBody_length_le hs
  have henc3 : (memOf (derSignature r s) 3).toNat = (Der.intBody r).length := by
    rw [← component_length hr, hder]
    rfl
  have hdrop : (derSignature r s).drop (4 + (Der.intBody r).length + 1) =
      UInt8.ofNat (Der.intBody s).length :: Der.intBody s := by
    rw [hder, ← List.drop_drop, ← List.drop_drop]
    simp
  have hencs : (memOf (derSignature r s) (4 + (Der.intBody r).length + 1)).toNat =
      (Der.intBody s).length := by
    rw [← component_length hs]
    exact congrArg UInt8.toNat (getD_of_drop hdrop)
  have hlen : (derSignature r s).length =
      4 + (Der.intBody r).length + 2 + (Der.intBody s).length := by
    rw [hder]
    simp only [List.length_cons, List.length_append]
    omega
  intro i hi
  simp only [prvConvertToRawECDSASignatureReads, henc3, if_pos hbr, hencs, List.mem_cons,
    List.mem_append] at hi
  obtain rfl | hi | rfl | hi := hi
  · omega
  · have := (mem_componentReads_lt hi).1
    omega
  · omega
  · have := (mem_componentReads_lt hi).1
    omega

theorem IsDer.law {pSignature : Sig256} (h : IsDer pSignature) : ConversionLaw pSignature := by
  obtain ⟨r, s, hr, hs, hder⟩ := h
  have hsize : pSignature.size = (derSignature r s).length := by
    rw [← hder, slice_length]
  have hbyte : ∀ i < pSignature.size, memOf (derSignature r s) i = pSignature.data i := by
    intro i hi
    rw [← hder, memOf, List.getD_eq_getElem?_getD, slice_getElem?, if_pos hi, Nat.zero_add]
    rfl
  have hreads := derSignature_reads hr hs
  have hread : ∀ i ∈ prvConvertToRawECDSASignatureReads (memOf (derSignature r s)),
      memOf (derSignature r s) i = pSignature.data i := by
    intro i hi
    exact hbyte i (hsize ▸ hreads i hi)
  have hconvert : prvConvertToRawECDSASignature pSignature.data =
      (true, bigEndian 32 r ++ bigEndian 32 s) := by
    rw [← prvConvertToRawECDSASignature_congr hread,
      ← prvConvertToRawECDSASignature_der hr hs [], List.append_nil]
  refine ⟨fun _ => ⟨r, s, hr, hs, hder, congrArg Prod.snd hconvert⟩, ?_⟩
  rw [← prvConvertToRawECDSASignatureReads_congr hread, hsize]
  exact hreads

theorem HasLongComponent.law {pSignature : Sig256} (h : HasLongComponent pSignature) :
    ConversionLaw pSignature := by
  obtain ⟨h3, hlong⟩ := h
  constructor
  · intro htrue
    have hfalse : (prvConvertToRawECDSASignature pSignature.data).1 = false := by
      rw [prvConvertToRawECDSASignature_false_iff]
      omega
    rw [hfalse] at htrue
    cases htrue
  · intro i hi
    simp only [prvConvertToRawECDSASignatureReads, List.mem_cons, List.mem_append] at hi
    obtain rfl | hi | hi := hi
    · exact h3
    · have := mem_componentReads_lt hi
      omega
    · split_ifs at hi with h33
      · have hsize : 4 + (pSignature.data 3).toNat + 1 < pSignature.size := by omega
        obtain rfl | hi := List.mem_cons.1 hi
        · exact hsize
        · have := mem_componentReads_lt hi
          omega
      · cases hi

/-- **When the conversion is right**: for the DER signatures, and for what a length octet rules out that
lies among the declared bytes. -/
theorem conversion_law_iff (pSignature : Sig256) :
    ConversionLaw pSignature ↔ IsDer pSignature ∨ HasLongComponent pSignature := by
  constructor
  · intro h
    cases hc : (prvConvertToRawECDSASignature pSignature.data).1 with
    | true =>
      obtain ⟨r, s, hr, hs, hder, -⟩ := h.accepts hc
      exact .inl ⟨r, s, hr, hs, hder⟩
    | false =>
      have h3 := h.bounds 3 List.mem_cons_self
      refine .inr ⟨h3, ?_⟩
      obtain hlong | ⟨hlong, h33⟩ := (prvConvertToRawECDSASignature_false_iff _).1 hc
      · exact .inl hlong
      · refine .inr ⟨h.bounds _ ?_, hlong⟩
        simp [prvConvertToRawECDSASignatureReads, h33]
  · intro h
    exact h.elim IsDer.law HasLongComponent.law

/-- A signature of two small numbers, with the tag of a set in place of that of a sequence. -/
def mistagged : Sig256 := ⟨8, memOf [0x31, 6, 2, 1, 1, 2, 1, 1]⟩

/-- A signature of two small numbers, with the declared size of its first three bytes. -/
def cutShort : Sig256 := ⟨3, memOf [0x30, 6, 2, 1, 1, 2, 1, 1]⟩

/-- **A wrong tag is accepted**, and bytes beyond the declared size are read. -/
theorem conversion_of_mistagged : ¬ConversionLaw mistagged ∧ ¬ConversionLaw cutShort := by
  constructor
  · intro h
    obtain ⟨r, s, hr, hs, hder, -⟩ := h.accepts rfl
    obtain ⟨x, hseq⟩ := derSignature_eq hr hs
    rw [hseq] at hder
    exact absurd (List.cons.inj hder).1 (by decide)
  · intro h
    exact absurd (h.bounds 3 List.mem_cons_self) (by decide)

end Ota
