import TrustZone.Crypto.PsaUtil
import TrustZone.Ota.Pal

/-!
# ECDSA signatures between the raw and the DER form

`asn1WriteMpibuf_spec`: the integer at the start of the room moves to the position, in its DER form.
`pkEcdsaSigAsn1FromPsa_spec`: two of them and their header make the DER signature at the start of the
buffer. `prvConvertToRawECDSASignature_der` reads it back.
-/

namespace Crypto

open Lib

variable {a : Asn1Write} {buf b w bytes : List UInt8} {start p : Nat}

/-! ## Writing -/

/-- The digits that leading zeros hide. -/
theorem skipZeros_spec {d rest : List UInt8} (hd : ∀ x ∈ d.head?, x ≠ 0) (hne : d ≠ []) (z q : Nat)
    (h : b.drop q = List.replicate z 0 ++ (d ++ rest)) :
    skipZeros b q (z + d.length) = (q + z, d.length) := by
  induction z generalizing q with
  | zero =>
    obtain ⟨x, l, rfl⟩ := List.exists_cons_of_ne_nil hne
    have hx : b.getD q 0 = x := getD_of_drop h
    rw [Nat.zero_add, List.length_cons, skipZeros, if_neg]
    · rfl
    · rw [hx]
      exact hd x rfl
  | succ z ih =>
    have hx : b.getD q 0 = 0 := getD_of_drop h
    have hnext : b.drop (q + 1) = List.replicate z 0 ++ (d ++ rest) := by
      rw [← List.drop_drop, h, List.replicate_succ]
      rfl
    rw [Nat.succ_add, skipZeros, if_pos hx, ih (q + 1) hnext, Nat.add_right_comm]
    rfl

/-- The sign bit. -/
theorem and_0x80 (x : UInt8) : x &&& 0x80 ≠ 0 ↔ ¬x < 128 := by
  cases x with
  | ofBitVec v =>
    revert v
    decide +kernel

theorem writeIntegerHead_spec (ha : a.Documented) {body : List UInt8} (hlen : body.length < 128)
    (h : Written buf start (body ++ w) p b) :
    Puts buf start (body ++ w) p body.length (Der.tagInteger :: Der.lenOctets body.length) 2
      (writeIntegerHead a b start p body.length) := by
  have hshort := Der.lenOctets_short hlen
  have hrow : Puts buf start (body ++ w) p body.length
      ([] ++ [Der.tagInteger] ++ Der.lenOctets body.length)
      (max (Der.lenOctets body.length).length
        (max [Der.tagInteger].length (0 + [Der.tagInteger].length) +
          (Der.lenOctets body.length).length))
      (writeIntegerHead a b start p body.length) := by
    unfold writeIntegerHead
    refine Puts.andThen h ((ha.writeLen b start p body.length (by omega)).puts h)
      fun p1 b1 _ h1 => ?_
    refine Puts.andThen h1 ((ha.writeTag b1 start p1 Der.tagInteger).puts h1) fun p2 b2 _ h2 => ?_
    exact Puts.done h2 _
  simpa [hshort] using hrow

/-- The contents of an integer, once they are written, get their head. -/
theorem writeIntegerHead_int (ha : a.Documented) {n : Nat} {body : List UInt8}
    (hbody : Der.intBody n = body) (hlen : body.length < 128) {q : Nat}
    (h : Written buf start (body ++ w) q b) (hq : q + body.length = p) :
    Puts buf start w p 0 (Der.int n) (body.length + 2) (writeIntegerHead a b start q body.length) := by
  have hhead := (writeIntegerHead_spec ha hlen h).behind hq
  have hint : Der.int n = Der.tagInteger :: Der.lenOctets body.length ++ body := by
    rw [Der.int, Der.tlv, hbody]
    rfl
  rw [hint]
  exact hhead.weaken (by omega)

/-- **An integer** of fixed width at the start of the room moves to the position, in its DER form. -/
theorem asn1WriteMpibuf_spec (ha : a.Documented) {nLen n : Nat} (hn : n < 256 ^ nLen) (h0 : n ≠ 0)
    (hlen : nLen < 127) (h : Written buf start w p b)
    (hsrc : (b.drop start).take nLen = bigEndian nLen n) :
    Puts buf start w p 0 (Der.int n) (nLen + 3) (asn1WriteMpibuf a b p start nLen) := by
  unfold asn1WriteMpibuf
  by_cases hroom : p - start < nLen
  · rw [if_pos hroom]
    exact .inl ⟨(by decide : mbedtlsErrAsn1BufTooSmall < 0), by omega⟩
  rw [if_neg hroom, hsrc]
  have hroom' := h.room
  have hle := Der.digits_length_le hn
  obtain ⟨x, l, hd⟩ := List.exists_cons_of_ne_nil (Der.digits_ne_nil h0)
  -- the number is moved, and its zeros are skipped
  have hmoved : Written buf start (bigEndian nLen n ++ w) (p - nLen)
      (blit b (p - nLen) (bigEndian nLen n)) := by
    have hstep : Written buf start (bigEndian nLen n ++ w) _ _ :=
      h.step (by rw [bigEndian_length]; omega)
    rwa [bigEndian_length] at hstep
  rw [Der.bigEndian_eq hn] at hmoved ⊢
  generalize hm : blit b (p - nLen) _ = moved at hmoved ⊢
  rw [List.append_assoc] at hmoved
  have hskip := skipZeros_spec (fun y hy => Der.digits_head?_ne hy) (Der.digits_ne_nil h0) _ _
    hmoved.tail
  have hdigits := hmoved.skip
  rw [List.length_replicate] at hdigits
  rw [Nat.sub_add_cancel hle] at hskip
  generalize hq : p - nLen + (nLen - (Der.digits n).length) = q at hskip hdigits
  have hqp : q + (Der.digits n).length = p := by omega
  have hx : moved.getD q 0 = x := by
    have htail : moved.drop q = x :: (l ++ w) := by
      rw [hdigits.tail, hd]
      rfl
    exact getD_of_drop htail
  have hpos : (Der.digits n).length ≠ 0 := by rw [hd]; exact Nat.succ_ne_zero _
  simp only [hskip, hx, and_0x80, if_neg hpos]
  by_cases hsign : x < 128
  · rw [if_neg (not_not.2 hsign)]
    have hbody : Der.intBody n = Der.digits n := by
      rw [Der.intBody, hd]
      exact if_pos hsign
    exact (writeIntegerHead_int ha hbody (by omega) hdigits hqp).weaken (by omega)
  · rw [if_pos hsign]
    by_cases hq1 : q - start < 1
    · rw [if_pos hq1]
      exact .inl ⟨(by decide : mbedtlsErrAsn1BufTooSmall < 0), by omega⟩
    · rw [if_neg hq1]
      have hbody : Der.intBody n = 0 :: Der.digits n := by
        rw [Der.intBody, hd]
        exact if_neg hsign
      have hzero : Written buf start (0 :: Der.digits n ++ w) (q - 1) (blit moved (q - 1) [0]) := by
        have hone : start + [(0 : UInt8)].length ≤ q := by simp only [List.length_singleton]; omega
        exact hdigits.step hone
      have hlen1 : (0 :: Der.digits n).length = (Der.digits n).length + 1 := rfl
      exact (writeIntegerHead_int ha hbody (by omega) hzero (by omega)).weaken (by omega)

/-- The DER form of a signature. -/
def derSignature (r s : Nat) : List UInt8 := Der.sequence (Der.int r ++ Der.int s)

theorem int_length_le {n : Nat} (hn : n < 256 ^ 32) : (Der.int n).length ≤ 35 := by
  have hbody := Der.intBody_length_le hn
  have hlen : (Der.lenOctets (Der.intBody n).length).length = 1 := by
    rw [Der.lenOctets_short (by omega)]
    rfl
  rw [Der.int, Der.tlv_length]
  omega

/-- The writes of `pk_ecdsa_sig_asn1_from_psa`. -/
def writeSignature (a : Asn1Write) (sig : List UInt8) (rsLen bufLen : Nat) : BackWrite :=
  (asn1WriteMpibuf a sig bufLen rsLen rsLen).andThen 0 fun len p buf =>
    (asn1WriteMpibuf a buf p 0 rsLen).andThen len fun len p buf =>
      (a.writeLen buf 0 p len).andThen len fun len p buf =>
        (a.writeTag buf 0 p Der.tagSequence).andThen len fun len p buf => ⟨len, p, buf⟩

/-- The two integers and their header. -/
theorem writeSignature_spec (ha : a.Documented) {r s : Nat} (hr : 0 < r ∧ r < 256 ^ 32)
    (hs : 0 < s ∧ s < 256 ^ 32) (hlen : 64 ≤ buf.length)
    (hread_r : buf.take 32 = bigEndian 32 r) (hread_s : (buf.drop 32).take 32 = bigEndian 32 s) :
    Puts buf 0 [] buf.length 0 (derSignature r s) 72 (writeSignature a buf 32 buf.length) := by
  have hrlen := int_length_le hr.2
  have hslen := int_length_le hs.2
  have hmpi_s := asn1WriteMpibuf_spec ha hs.2 (by omega) (by omega) (.init (by omega)) hread_s
  generalize hlo : Der.lenOctets (0 + (Der.int s).length + (Der.int r).length) = lo
  have hlolen : lo.length = 1 := by rw [← hlo, Der.lenOctets_short (by omega)]; rfl
  have hrow : Puts buf 0 [] buf.length 0
      ([] ++ [Der.tagSequence] ++ lo ++ Der.int r ++ Der.int s)
      (max (32 - 0 + (32 + 3)) (max (32 + 3) (max lo.length
        (max [Der.tagSequence].length (0 + [Der.tagSequence].length) + lo.length) +
          (Der.int r).length) + (Der.int s).length)) (writeSignature a buf 32 buf.length) := by
    refine Puts.andThen_le (.init (by omega)) (Nat.zero_le 32) hmpi_s fun p1 b1 _ h1 => ?_
    -- `r` is still there
    have hr1 : (b1.drop 0).take 32 = bigEndian 32 r := by rw [List.drop_zero, h1.head, hread_r]
    have h1' := h1.mono (Nat.zero_le 32)
    have hmpi_r := asn1WriteMpibuf_spec ha hr.2 (by omega) (by omega) h1' hr1
    refine Puts.andThen h1' hmpi_r fun p2 b2 _ h2 => ?_
    have hwlen := ha.writeLen b2 0 p2 (0 + (Der.int s).length + (Der.int r).length) (by omega)
    rw [hlo] at hwlen
    refine Puts.andThen h2 (hwlen.puts h2) fun p3 b3 _ h3 => ?_
    refine Puts.andThen h3 ((ha.writeTag b3 0 p3 Der.tagSequence).puts h3) fun p4 b4 _ h4 => ?_
    exact Puts.done h4 _
  have hder : derSignature r s = [] ++ [Der.tagSequence] ++ lo ++ Der.int r ++ Der.int s := by
    rw [derSignature, Der.sequence, Der.tlv, List.length_append, Nat.add_comm, ← hlo]
    simp
  rw [hder]
  refine hrow.weaken ?_
  simp only [List.length_singleton]
  omega

/-! ## Reading -/

theorem int_eq {n : Nat} (hn : n < 256 ^ 32) :
    Der.int n = 0x02 :: UInt8.ofNat (Der.intBody n).length :: Der.intBody n := by
  have hbody := Der.intBody_length_le hn
  rw [Der.int, Der.tlv, Der.lenOctets_short (by omega)]
  rfl

theorem derSignature_eq {r s : Nat} (hr : r < 256 ^ 32) (hs : s < 256 ^ 32) :
    ∃ l, derSignature r s = 0x30 :: l :: 0x02 :: UInt8.ofNat (Der.intBody r).length ::
      (Der.intBody r ++ 0x02 :: UInt8.ofNat (Der.intBody s).length :: Der.intBody s) := by
  have hr' := int_length_le hr
  have hs' := int_length_le hs
  have hlen : (Der.int r ++ Der.int s).length < 128 := by
    rw [List.length_append]
    omega
  refine ⟨UInt8.ofNat (Der.int r ++ Der.int s).length, ?_⟩
  rw [derSignature, Der.sequence, Der.tlv, Der.lenOctets_short hlen, int_eq hr, int_eq hs]
  rfl

/-- The length octet of a component. -/
theorem component_length {n : Nat} (hn : n < 256 ^ 32) :
    (UInt8.ofNat (Der.intBody n).length).toNat = (Der.intBody n).length := by
  have hbody := Der.intBody_length_le hn
  rw [UInt8.toNat_ofNat']
  exact Nat.mod_eq_of_lt (by omega)

/-- A component of 32 bytes at most, put behind zeros. -/
theorem blit_short {n : Nat} (hn : n < 256 ^ 32) (hle : (Der.intBody n).length ≤ 32)
    (t : List UInt8) :
    blit (List.replicate 32 0 ++ t) (32 - (Der.intBody n).length) (Der.intBody n) =
      bigEndian 32 n ++ t := by
  have hsum : 32 - (Der.intBody n).length + (Der.intBody n).length = 32 := by omega
  rw [blit, hsum, List.drop_left' (by simp), List.take_append_of_le_length (by simp),
    List.take_replicate, Der.intBody_pad hn hle]
  congr 3
  omega

/-- A component of 33 bytes, put without its sign. -/
theorem blit_sign {n : Nat} (hn : n < 256 ^ 32) (hlen : (Der.intBody n).length = 33)
    (t : List UInt8) :
    blit (List.replicate 32 0 ++ t) 0 ((Der.intBody n).drop 1) = bigEndian 32 n ++ t := by
  rw [Der.intBody_sign hn hlen, List.drop_one, List.tail_cons, blit_zero, bigEndian_length,
    List.drop_left' (by simp)]

/-- One component of the signature, read at the offset of its contents. -/
def readComponent (enc : Nat → UInt8) (zeroed : List UInt8) (off len : Nat) : List UInt8 :=
  if len = 33 then blit zeroed 0 (slice enc (off + 1) 32)
  else blit zeroed (32 - len) (slice enc off len)

theorem readComponent_eq {n : Nat} (hn : n < 256 ^ 32) {l rest : List UInt8} {off : Nat}
    (h : l.drop off = Der.intBody n ++ rest) (t : List UInt8) :
    readComponent (memOf l) (List.replicate 32 0 ++ t) off (Der.intBody n).length =
      bigEndian 32 n ++ t := by
  have hle := Der.intBody_length_le hn
  have hlen : off + (Der.intBody n).length ≤ l.length := by
    have hl := congrArg List.length h
    have hpos := Der.intBody_length_pos n
    rw [List.length_drop, List.length_append] at hl
    omega
  unfold readComponent
  by_cases h33 : (Der.intBody n).length = 33
  · have hslice : slice (memOf l) (off + 1) 32 = (Der.intBody n).drop 1 := by
      rw [slice_memOf _ _ _ (by omega), ← List.drop_drop, h, List.drop_append_of_le_length (by omega),
        List.take_left' (by rw [List.length_drop]; omega)]
    rw [if_pos h33, hslice, blit_sign hn h33]
  · have hslice : slice (memOf l) off (Der.intBody n).length = Der.intBody n := by
      rw [slice_memOf _ _ _ hlen, h, List.take_left' rfl]
    rw [if_neg h33, hslice, blit_short hn (by omega)]

/-- **Reading**: the converter gives the two numbers back, whatever follows the signature. -/
theorem prvConvertToRawECDSASignature_der {r s : Nat} (hr : r < 256 ^ 32) (hs : s < 256 ^ 32)
    (rest : List UInt8) :
    Ota.prvConvertToRawECDSASignature (memOf (derSignature r s ++ rest)) =
      (true, bigEndian 32 r ++ bigEndian 32 s) := by
  obtain ⟨x, hder⟩ := derSignature_eq hr hs
  generalize hl : derSignature r s ++ rest = l
  have hbr := Der.intBody_length_le hr
  have hbs := Der.intBody_length_le hs
  -- where the components are
  have hdrop4 : l.drop 4 = Der.intBody r ++ (0x02 :: UInt8.ofNat (Der.intBody s).length ::
      (Der.intBody s ++ rest)) := by
    rw [← hl, hder]
    simp
  have hdrop : l.drop (4 + (Der.intBody r).length + 1) =
      UInt8.ofNat (Der.intBody s).length :: (Der.intBody s ++ rest) := by
    rw [← List.drop_drop, ← List.drop_drop, hdrop4, List.drop_left' rfl]
    rfl
  have hdrop' : l.drop (4 + (Der.intBody r).length + 1 + 1) = Der.intBody s ++ rest := by
    rw [← List.drop_drop, hdrop]
    rfl
  have henc3 : (memOf l 3).toNat = (Der.intBody r).length := by
    rw [← component_length hr, ← hl, hder]
    rfl
  have hencs : (memOf l (4 + (Der.intBody r).length + 1)).toNat = (Der.intBody s).length := by
    rw [← component_length hs]
    exact congrArg UInt8.toNat (getD_of_drop hdrop)
  have hread_r := readComponent_eq hr hdrop4 (List.replicate 32 0)
  have hread_s := readComponent_eq hs hdrop' []
  rw [List.append_nil, List.append_nil] at hread_s
  unfold readComponent at hread_r hread_s
  have hzero : List.replicate Ota.ecdsaSha256RawSignatureLength (0 : UInt8) =
      List.replicate 32 0 ++ List.replicate 32 0 := rfl
  have hcomponent_r : (if (Der.intBody r).length = 33 then
        some (blit (List.replicate 32 0 ++ List.replicate 32 0) 0 (slice (memOf l) 5 32), 5 + 32 + 1)
      else if (Der.intBody r).length ≤ 32 then
        some (blit (List.replicate 32 0 ++ List.replicate 32 0) (32 - (Der.intBody r).length)
          (slice (memOf l) 4 (Der.intBody r).length), 4 + (Der.intBody r).length + 1)
      else none) =
      some (bigEndian 32 r ++ List.replicate 32 0, 4 + (Der.intBody r).length + 1) := by
    by_cases h33 : (Der.intBody r).length = 33
    · rw [if_pos h33] at hread_r ⊢
      rw [hread_r, h33]
    · rw [if_neg h33] at hread_r ⊢
      rw [if_pos (by omega), hread_r]
  unfold Ota.prvConvertToRawECDSASignature
  simp only [hzero, henc3, hcomponent_r, hencs]
  have hr32 : (bigEndian 32 r).length ≤ 32 := (bigEndian_length 32 r).le
  by_cases h33 : (Der.intBody s).length = 33
  · rw [if_pos h33] at hread_s ⊢
    rw [blit_append_right hr32, bigEndian_length, Nat.sub_self, hread_s]
  · rw [if_neg h33] at hread_s ⊢
    have hoff : 64 - (Der.intBody s).length - (bigEndian 32 r).length =
        32 - (Der.intBody s).length := by rw [bigEndian_length]; omega
    rw [if_pos (by omega), blit_append_right (by rw [bigEndian_length]; omega), hoff, hread_s]

/-- The two components in a buffer that starts with the raw form. -/
theorem raw_components {r s : Nat} (hbuf : buf.take 64 = bigEndian 32 r ++ bigEndian 32 s) :
    buf.take 32 = bigEndian 32 r ∧ (buf.drop 32).take 32 = bigEndian 32 s := by
  have htake := congrArg (List.take 32) hbuf
  have hdrop := congrArg (List.drop 32) hbuf
  rw [List.take_take, List.take_left' (by simp)] at htake
  rw [List.drop_take, List.drop_left' (by simp)] at hdrop
  exact ⟨htake, hdrop⟩

/-- The encoder fails, for want of 72 bytes, or leaves the DER form at the start of the buffer. -/
theorem pkEcdsaSigAsn1FromPsa_spec (ha : a.Documented) {r s : Nat} (hr : 0 < r ∧ r < 256 ^ 32)
    (hs : 0 < s ∧ s < 256 ^ 32) (hlen : 64 ≤ buf.length)
    (hbuf : buf.take 64 = bigEndian 32 r ++ bigEndian 32 s) :
    (pkEcdsaSigAsn1FromPsa a buf 64 buf.length).1 < 0 ∧ buf.length < 72 ∨
      ∃ rest, pkEcdsaSigAsn1FromPsa a buf 64 buf.length =
        (0, (derSignature r s).length, derSignature r s ++ rest) ∧
        (derSignature r s).length + rest.length = buf.length := by
  obtain ⟨hread_r, hread_s⟩ := raw_components hbuf
  have hw := writeSignature_spec ha hr hs hlen hread_r hread_s
  have hpk : pkEcdsaSigAsn1FromPsa a buf 64 buf.length =
      if (writeSignature a buf 32 buf.length).ret < 0 then
        ((writeSignature a buf 32 buf.length).ret, 64, (writeSignature a buf 32 buf.length).buf)
      else (0, (writeSignature a buf 32 buf.length).ret.toNat,
        blit (writeSignature a buf 32 buf.length).buf 0
          (((writeSignature a buf 32 buf.length).buf.drop
            (writeSignature a buf 32 buf.length).p).take
              (writeSignature a buf 32 buf.length).ret.toNat)) := rfl
  rw [hpk]
  generalize writeSignature a buf 32 buf.length = x at hw
  rcases hw with ⟨hneg, hp⟩ | ⟨hret, hwritten⟩
  · rw [if_pos hneg]
    exact .inl ⟨hneg, by omega⟩
  · have hnat : x.ret.toNat = (derSignature r s).length := by omega
    have htail : (x.buf.drop x.p).take (derSignature r s).length = derSignature r s := by
      rw [hwritten.tail, List.append_nil, List.take_length]
    rw [if_neg (by omega), hnat, htail, blit_zero]
    refine .inr ⟨_, rfl, ?_⟩
    have hpos := hwritten.pos
    have hbl := hwritten.length
    rw [List.append_nil] at hpos
    rw [List.length_drop]
    omega

/-- **The signature, there and back**: in a buffer that starts with the raw form, the encoder fails, or
leaves the minimal DER form at the start of the buffer, of the length it tells; the converter
then gives back the raw form. It does not fail when there are 72 bytes. When the encoder comes to
read `r`, `r` is still there. -/
theorem ecdsa_sig_roundtrip (ha : a.Documented) {r s : Nat} (hr : 0 < r ∧ r < 2 ^ 256)
    (hs : 0 < s ∧ s < 2 ^ 256) (hlen : 64 ≤ buf.length)
    (hbuf : buf.take 64 = bigEndian 32 r ++ bigEndian 32 s) :
    ((pkEcdsaSigAsn1FromPsa a buf 64 buf.length).1 < 0 ∧ buf.length < 72 ∨
      ∃ rest, pkEcdsaSigAsn1FromPsa a buf 64 buf.length =
        (0, (derSignature r s).length, derSignature r s ++ rest) ∧
        (derSignature r s).length + rest.length = buf.length ∧
        Ota.prvConvertToRawECDSASignature (memOf (derSignature r s ++ rest)) =
          (true, bigEndian 32 r ++ bigEndian 32 s)) ∧
    (0 ≤ (asn1WriteMpibuf a buf buf.length 32 32).ret →
      (asn1WriteMpibuf a buf buf.length 32 32).buf.take 32 = bigEndian 32 r) := by
  rw [show 2 ^ 256 = 256 ^ 32 by norm_num] at hr hs
  constructor
  · rcases pkEcdsaSigAsn1FromPsa_spec ha hr hs hlen hbuf with hshort | ⟨rest, hpk, hrest⟩
    · exact .inl hshort
    · exact .inr ⟨rest, hpk, hrest, prvConvertToRawECDSASignature_der hr.2 hs.2 _⟩
  · obtain ⟨hread_r, hread_s⟩ := raw_components hbuf
    intro hret
    have hmpi := asn1WriteMpibuf_spec ha hs.2 (by omega) (by omega)
      (.init (by omega)) hread_s
    rcases hmpi with ⟨hneg, -⟩ | ⟨-, hwritten⟩
    · omega
    · rw [hwritten.head, hread_r]

/-- A component of one byte and one whose first bit is set, in a buffer of 72 bytes. -/
def unevenSignature : List UInt8 :=
  bigEndian 32 1 ++ bigEndian 32 (2 ^ 255) ++ List.replicate 8 0

theorem ecdsa_sig_roundtrip_uneven :
    ∃ rest, pkEcdsaSigAsn1FromPsa .whole unevenSignature 64 unevenSignature.length =
      (0, (derSignature 1 (2 ^ 255)).length, derSignature 1 (2 ^ 255) ++ rest) ∧
      Ota.prvConvertToRawECDSASignature (memOf (derSignature 1 (2 ^ 255) ++ rest)) =
        (true, bigEndian 32 1 ++ bigEndian 32 (2 ^ 255)) := by
  have hlen : unevenSignature.length = 72 := by simp [unevenSignature]
  have hbuf : unevenSignature.take 64 = bigEndian 32 1 ++ bigEndian 32 (2 ^ 255) :=
    List.take_left' (by simp)
  obtain ⟨⟨-, hshort⟩ | ⟨rest, hpk, -, hraw⟩, -⟩ := ecdsa_sig_roundtrip
    Asn1Write.whole_documented (by norm_num) (by norm_num) (by omega) hbuf
  · omega
  · exact ⟨rest, hpk, hraw⟩

end Crypto
