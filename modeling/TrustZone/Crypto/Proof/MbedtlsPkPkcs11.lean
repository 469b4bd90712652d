import TrustZone.Crypto.MbedtlsPkPkcs11
import TrustZone.Crypto.Proof.EcdsaSig

/-!
# Two encoders of a signature

`prvEcdsaSigToASN1InPlace` writes each component as it stands, with a sign octet where one is missing;
`pk_ecdsa_sig_asn1_from_psa` drops leading zeros first. They agree on the signatures whose components
have no leading zero octet to drop (`ecdsa_encoders_agree`).

* `prvEcdsaSigToASN1InPlace_spec`: what the first one leaves, for every signature.
* `rawInt_eq_iff`: where a component is the integer.
-/

namespace Crypto

open Lib

variable {a : Asn1Write} {buf b w o : List UInt8} {p : Nat}

/-- A component as `prvASN1WriteBigIntFromOctetStr` writes it. -/
def rawInt (o : List UInt8) : List UInt8 := Der.tlv Der.tagInteger (Der.nonneg o)

/-- A signature as `prvEcdsaSigToASN1InPlace` writes it. -/
def rawSignature (r s : List UInt8) : List UInt8 := Der.sequence (rawInt r ++ rawInt s)

/-- A component, where there is room for it. -/
theorem prvASN1WriteBigIntFromOctetStr_spec (ha : a.Documented) (ho : o.length < 2 ^ 32 - 1)
    (h : Written buf 0 w p b) (hfit : (rawInt o).length + w.length ≤ buf.length) :
    (prvASN1WriteBigIntFromOctetStr a b 0 p o).ret = (rawInt o).length ∧
      Written buf 0 (rawInt o ++ w) (prvASN1WriteBigIntFromOctetStr a b 0 p o).p
        (prvASN1WriteBigIntFromOctetStr a b 0 p o).buf := by
  have hpos := h.pos
  have hlen := Der.tlv_length Der.tagInteger (Der.nonneg o)
  have hle := Der.nonneg_length_le o
  have hge := Der.length_le_nonneg o
  rw [← rawInt] at hlen
  have hreq : (if o.getD 0 0 > 0x7F then o.length + 1 else o.length) = (Der.nonneg o).length := by
    unfold Der.nonneg
    split <;> rfl
  -- the octets, and the sign octet
  obtain ⟨p', b', hbody, hput⟩ : ∃ p' b', Written buf 0 (Der.nonneg o ++ w) p' b' ∧
      (if o.getD 0 0 > 0x7F then
        (p - o.length - 1, blit (blit b (p - o.length) o) (p - o.length - 1) [0])
      else (p - o.length, blit b (p - o.length) o)) = (p', b') := by
    have hocts : Written buf 0 (o ++ w) (p - o.length) (blit b (p - o.length) o) :=
      h.step (by omega)
    unfold Der.nonneg at hle hge hlen ⊢
    split
    · rename_i hsign
      rw [if_pos hsign] at hlen
      rw [List.length_cons] at hlen
      have hone : 0 + [(0 : UInt8)].length ≤ p - o.length := by
        rw [List.length_singleton]
        omega
      exact ⟨_, _, hocts.step hone, rfl⟩
    · exact ⟨_, _, hocts, rfl⟩
  have hw := ha.writeLen b' 0 p' (Der.nonneg o).length (by omega)
  obtain ⟨hret, hcount⟩ := hw.written hbody (by rw [List.length_append]; omega)
  have hpos' := List.length_pos_iff.2 (Der.lenOctets_ne_nil (Der.nonneg o).length)
  have hw' := ha.writeTag (a.writeLen b' 0 p' (Der.nonneg o).length).buf 0
    (a.writeLen b' 0 p' (Der.nonneg o).length).p Der.tagInteger
  obtain ⟨hret', htag⟩ := hw'.written hcount (by
    rw [List.length_append, List.length_append, List.length_singleton]
    omega)
  unfold prvASN1WriteBigIntFromOctetStr
  rw [hreq, if_pos (by omega)]
  simp only [hput]
  rw [if_pos (by omega), if_pos (by rw [hret']; exact Int.zero_lt_one)]
  refine ⟨?_, ?_⟩
  · show _ + _ = _
    rw [hret', hret, hlen, List.length_singleton]
    push_cast
    omega
  · have hassoc : rawInt o ++ w = [Der.tagInteger] ++
        (Der.lenOctets (Der.nonneg o).length ++ (Der.nonneg o ++ w)) := by
      rw [rawInt, Der.tlv]
      simp
    rw [hassoc]
    exact htag

theorem rawInt_length_le (ho : o.length = 32) : (rawInt o).length ≤ 35 := by
  have hle := Der.nonneg_length_le o
  have hlen : (Der.lenOctets (Der.nonneg o).length).length = 1 := by
    rw [Der.lenOctets_short (by omega)]
    rfl
  rw [rawInt, Der.tlv_length]
  omega

theorem ifCounted_pos {x : BackWrite} {n : Nat} (hx : x.ret = n) (hn : 0 < n) (uxLen : Nat)
    (k : Nat → Nat → List UInt8 → BackWrite × Nat) :
    ifCounted x uxLen k = k (uxLen + n) x.p x.buf := by
  have hnat : x.ret.toNat = n := by omega
  rw [ifCounted, if_pos (by omega), hnat]

/-- The two components and their header. -/
theorem writeRawSignature_spec (ha : a.Documented) {maxLen : Nat} (hmax : 72 ≤ maxLen)
    {r s : List UInt8} (hr : r.length = 32) (hs : s.length = 32) :
    0 < (writeRawSignature a maxLen r s).1.ret ∧
      (writeRawSignature a maxLen r s).2 = (rawSignature r s).length ∧
      (writeRawSignature a maxLen r s).1.buf.drop (writeRawSignature a maxLen r s).1.p =
        rawSignature r s := by
  have hrlen := rawInt_length_le hr
  have hslen := rawInt_length_le hs
  have hlen := Der.tlv_length Der.tagSequence (rawInt r ++ rawInt s)
  rw [List.length_append, Der.lenOctets_short (by omega)] at hlen
  have hzeros : (List.replicate maxLen (0 : UInt8)).length = maxLen := List.length_replicate
  have hinit : Written (List.replicate maxLen (0 : UInt8)) 0 [] maxLen (List.replicate maxLen 0) := by
    have h := @Written.init (List.replicate maxLen (0 : UInt8)) 0 (Nat.zero_le _)
    rwa [hzeros] at h
  obtain ⟨hret_s, hw_s⟩ := prvASN1WriteBigIntFromOctetStr_spec (o := s) ha (by omega) hinit
    (by rw [hzeros, List.length_nil]; omega)
  unfold writeRawSignature
  rw [ifCounted_pos hret_s (Nat.succ_pos _)]
  generalize prvASN1WriteBigIntFromOctetStr a (List.replicate maxLen 0) 0 maxLen s = x at hw_s
  obtain ⟨hret_r, hw_r⟩ := prvASN1WriteBigIntFromOctetStr_spec (o := r) ha (by omega) hw_s
    (by rw [hzeros, List.length_append, List.length_nil]; omega)
  rw [ifCounted_pos hret_r (Nat.succ_pos _)]
  generalize prvASN1WriteBigIntFromOctetStr a x.buf 0 x.p r = y at hw_r
  generalize hbody : rawInt r ++ (rawInt s ++ []) = body at hw_r
  have hblen : body.length = 0 + (rawInt s).length + (rawInt r).length := by
    rw [← hbody, List.append_nil, List.length_append]
    omega
  rw [← hblen]
  obtain ⟨hret_l, hw_l⟩ := (ha.writeLen y.buf 0 y.p body.length (by omega)).written hw_r (by
    rw [hzeros, Der.lenOctets_short (by omega), List.length_singleton]
    omega)
  rw [ifCounted_pos hret_l (List.length_pos_iff.2 (Der.lenOctets_ne_nil _))]
  generalize a.writeLen y.buf 0 y.p body.length = z at hw_l
  obtain ⟨hret_t, hw_t⟩ := (ha.writeTag z.buf 0 z.p Der.tagSequence).written hw_l (by
    rw [hzeros, List.length_append, Der.lenOctets_short (by omega)]
    simp only [List.length_singleton]
    omega)
  have hder : rawSignature r s = [Der.tagSequence] ++ (Der.lenOctets body.length ++ body) := by
    rw [rawSignature, Der.sequence, Der.tlv, ← hbody, List.append_nil]
    rfl
  rw [hder]
  dsimp only
  rw [ifCounted_pos hret_t (Nat.succ_pos _)]
  refine ⟨by rw [hret_t]; exact Int.zero_lt_one, ?_, hw_t.tail⟩
  simp only [List.length_append, List.length_singleton]
  omega

/-- `prvEcdsaSigToASN1InPlace` succeeds, with the components as they stand. -/
theorem prvEcdsaSigToASN1InPlace_spec (ha : a.Documented) {maxLen : Nat} (hmax : 72 ≤ maxLen)
    {r s : List UInt8} (hr : r.length = 32) (hs : s.length = 32) (hlen : 72 ≤ buf.length)
    (hbuf : buf.take 64 = r ++ s) :
    ∃ rest, prvEcdsaSigToASN1InPlace a maxLen buf buf.length 64 =
      some (0, (rawSignature r s).length, rawSignature r s ++ rest) := by
  have htake := congrArg (List.take 32) hbuf
  have hdrop := congrArg (List.drop 32) hbuf
  rw [List.take_take, List.take_left' hr] at htake
  rw [List.drop_take, List.drop_left' hr] at hdrop
  obtain ⟨hret, hcount, htail⟩ := writeRawSignature_spec ha hmax hr hs
  have hrlen := rawInt_length_le hr
  have hslen := rawInt_length_le hs
  have hsig := Der.tlv_length Der.tagSequence (rawInt r ++ rawInt s)
  rw [List.length_append, Der.lenOctets_short (by omega), List.length_singleton, ← Der.sequence,
    ← rawSignature] at hsig
  unfold prvEcdsaSigToASN1InPlace
  rw [if_pos (by omega)]
  have hr' : buf.take (64 / 2) = r := htake
  have hs' : (buf.drop (64 / 2)).take (64 / 2) = s := hdrop
  simp only [hr', hs']
  rw [if_pos ⟨hret, by omega⟩, htail, hcount, List.take_length, blit_zero]
  exact ⟨_, rfl⟩

/-! ## Where they agree -/

/-- The octets of a component are the contents of the integer where none is to be dropped. -/
theorem nonneg_eq_intBody_iff {n : Nat} (hn : n < 256 ^ 32) :
    Der.nonneg (bigEndian 32 n) = Der.intBody n ↔ 2 ^ 247 ≤ n := by
  have hwidth := Der.intBody_length_le_iff 30 n
  rw [show 128 * 256 ^ 30 = 2 ^ 247 by norm_num] at hwidth
  rw [Der.nonneg_eq_iff (by decide) hn]
  omega

theorem rawSignature_eq_iff {r s : Nat} (hr : r < 256 ^ 32) (hs : s < 256 ^ 32) :
    rawSignature (bigEndian 32 r) (bigEndian 32 s) = derSignature r s ↔
      2 ^ 247 ≤ r ∧ 2 ^ 247 ≤ s := by
  rw [← nonneg_eq_intBody_iff hr, ← nonneg_eq_intBody_iff hs]
  have hrlen := rawInt_length_le (bigEndian_length 32 r)
  have hslen := rawInt_length_le (bigEndian_length 32 s)
  have hbody : ∀ n, (Der.nonneg (bigEndian 32 n)).length < 128 := by
    intro n
    have hle := Der.nonneg_length_le (bigEndian 32 n)
    rw [bigEndian_length] at hle
    omega
  have hint : ∀ {n}, n < 256 ^ 32 → (Der.intBody n).length < 128 := by
    intro n hn
    have hle := Der.intBody_length_le hn
    omega
  constructor
  · intro h
    have hrlen' := int_length_le hr
    have hslen' := int_length_le hs
    have hseq := congrArg (· ++ []) h
    obtain ⟨hrow, -⟩ := Der.tlv_append_inj (by rw [List.length_append]; omega)
      (by rw [List.length_append]; omega) hseq
    obtain ⟨hr', htail⟩ := Der.tlv_append_inj (hbody r) (hint hr) hrow
    have hlast := congrArg (· ++ []) htail
    obtain ⟨hs', -⟩ := Der.tlv_append_inj (hbody s) (hint hs) hlast
    exact ⟨hr', hs'⟩
  · intro ⟨hr', hs'⟩
    rw [rawSignature, rawInt, rawInt, hr', hs']
    rfl

/-- **Two encoders**: both succeed on every signature, and leave the same bytes and length, those of
the minimal DER form, exactly when no component has a leading zero octet that the form drops. -/
theorem ecdsa_encoders_agree (ha : a.Documented) {maxLen : Nat} (hmax : 72 ≤ maxLen) {r s : Nat}
    (hr : 0 < r ∧ r < 2 ^ 256) (hs : 0 < s ∧ s < 2 ^ 256) (hlen : 72 ≤ buf.length)
    (hbuf : buf.take 64 = bigEndian 32 r ++ bigEndian 32 s) :
    ∃ len len' out out',
      prvEcdsaSigToASN1InPlace a maxLen buf buf.length 64 = some (0, len, out) ∧
      pkEcdsaSigAsn1FromPsa a buf 64 buf.length = (0, len', out') ∧
      (len = len' ∧ out.take len = out'.take len' ∧ out.take len = derSignature r s ↔
        2 ^ 247 ≤ r ∧ 2 ^ 247 ≤ s) := by
  rw [show 2 ^ 256 = 256 ^ 32 by norm_num] at hr hs
  obtain ⟨rest, hprv⟩ := prvEcdsaSigToASN1InPlace_spec ha hmax (bigEndian_length 32 r)
    (bigEndian_length 32 s) hlen hbuf
  rcases pkEcdsaSigAsn1FromPsa_spec ha hr hs (by omega) hbuf with ⟨-, hshort⟩ | ⟨rest', hpk, -⟩
  · omega
  · refine ⟨_, _, _, _, hprv, hpk, ?_⟩
    rw [List.take_left' rfl, List.take_left' rfl, ← rawSignature_eq_iff hr.2 hs.2]
    constructor
    · intro ⟨_, _, h⟩
      exact h
    · intro h
      exact ⟨congrArg List.length h, h, h⟩

/-- A signature whose components have their first bit set. -/
def evenSignature : List UInt8 :=
  bigEndian 32 (2 ^ 255) ++ bigEndian 32 (2 ^ 255) ++ List.replicate 8 0

theorem ecdsa_encoders_agree_even :
    ∃ len len' out out',
      prvEcdsaSigToASN1InPlace .whole 72 evenSignature evenSignature.length 64 =
        some (0, len, out) ∧
      pkEcdsaSigAsn1FromPsa .whole evenSignature 64 evenSignature.length = (0, len', out') ∧
      (len = len' ∧ out.take len = out'.take len' ∧
          out.take len = derSignature (2 ^ 255) (2 ^ 255) ↔
        2 ^ 247 ≤ 2 ^ 255 ∧ 2 ^ 247 ≤ 2 ^ 255) := by
  have hlen : evenSignature.length = 72 := by simp [evenSignature]
  exact ecdsa_encoders_agree Asn1Write.whole_documented (le_refl 72) (by norm_num) (by norm_num)
    (by omega) (List.take_left' (by simp))

/-- With `r = 1` and `s = 2 ^ 255` the one leaves 71 bytes, the other the 40 of the DER form. -/
theorem ecdsa_encoders_differ :
    Asn1Write.whole.Documented ∧ unevenSignature.length = 72 ∧
      unevenSignature.take 64 = bigEndian 32 1 ++ bigEndian 32 (2 ^ 255) ∧
      (derSignature 1 (2 ^ 255)).length = 40 ∧
      (prvEcdsaSigToASN1InPlace .whole 72 unevenSignature unevenSignature.length 64).map
        (fun x => (x.1, x.2.1)) = some (0, 71) ∧
      (pkEcdsaSigAsn1FromPsa .whole unevenSignature 64 unevenSignature.length).1 = 0 ∧
      (pkEcdsaSigAsn1FromPsa .whole unevenSignature 64 unevenSignature.length).2.1 = 40 := by
  refine ⟨Asn1Write.whole_documented, by simp [unevenSignature], List.take_left' (by simp), ?_⟩
  decide +kernel

end Crypto
