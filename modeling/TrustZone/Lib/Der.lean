import Mathlib.Data.Nat.Digits.Lemmas
import TrustZone.Lib.Bytes

/-!
# DER values

The encodings of the DER rules that key and signature formats use: length octets, the values made of
a tag, a length and contents, and non-negative integers. Lengths and integers are minimal: they have
no leading zero octet but the one that keeps an integer non-negative.

* `bigEndian_eq`: a fixed-width number is the digits of the minimal one behind zeros.
* `intBody_pad`, `intBody_sign`: so is it the contents of an integer, or these without their sign.
* `nonneg_eq_iff`: a fixed-width number, with a sign octet where one is missing, is the contents of the
  integer where it has no leading zero octet to drop.
-/

namespace Lib

/-- The low `w` bytes of `n`, most significant first. -/
def bigEndian (w n : Nat) : List UInt8 := (leBytes w n).reverse

@[simp] theorem bigEndian_length (w n : Nat) : (bigEndian w n).length = w := by
  simp [bigEndian]

/-- The first octet of a fixed-width number. -/
theorem bigEndian_succ (w n : Nat) :
    bigEndian (w + 1) n = UInt8.ofNat (n / 256 ^ w) :: bigEndian w n := by
  induction w generalizing n with
  | zero => simp [bigEndian, leBytes]
  | succ w ih =>
    have hlast : ∀ w n, bigEndian (w + 1) n = bigEndian w (n / 256) ++ [UInt8.ofNat n] := by
      intro w n
      rw [bigEndian, leBytes, List.reverse_cons]
      rfl
    rw [hlast, ih, hlast w n, Nat.div_div_eq_div_mul, Nat.pow_succ, Nat.mul_comm 256]
    rfl

namespace Der

/-- The digits of a number to the base 256, most significant first, without leading zeros. -/
def digits (n : Nat) : List UInt8 := ((Nat.digits 256 n).map UInt8.ofNat).reverse

/-- The length octets: one octet below 128, else the digits behind their number. -/
def lenOctets (n : Nat) : List UInt8 :=
  if n < 128 then [UInt8.ofNat n] else UInt8.ofNat (128 + (digits n).length) :: digits n

/-- A value: tag, length and contents. -/
def tlv (tag : UInt8) (body : List UInt8) : List UInt8 := tag :: (lenOctets body.length ++ body)

def tagInteger : UInt8 := 0x02
def tagBitString : UInt8 := 0x03
def tagNull : UInt8 := 0x05
def tagOid : UInt8 := 0x06
def tagSequence : UInt8 := 0x30

/-- The contents of a non-negative integer: its digits, behind a zero octet where the first one would
make it negative. -/
def intBody (n : Nat) : List UInt8 :=
  match digits n with
  | [] => [0]
  | b :: l => if b < 128 then b :: l else 0 :: b :: l

def int (n : Nat) : List UInt8 := tlv tagInteger (intBody n)

def oid (o : List UInt8) : List UInt8 := tlv tagOid o

def null : List UInt8 := tlv tagNull []

def sequence (body : List UInt8) : List UInt8 := tlv tagSequence body

/-- A bit string of whole octets. -/
def bitString (o : List UInt8) : List UInt8 := tlv tagBitString (0 :: o)

/-! ## Lengths -/

theorem lenOctets_short {n : Nat} (h : n < 128) : lenOctets n = [UInt8.ofNat n] := if_pos h

theorem lenOctets_ne_nil (n : Nat) : lenOctets n ≠ [] := by
  unfold lenOctets
  split
  · exact List.cons_ne_nil _ _
  · exact List.cons_ne_nil _ _

theorem tlv_length (tag : UInt8) (body : List UInt8) :
    (tlv tag body).length = 1 + (lenOctets body.length).length + body.length := by
  simp only [tlv, List.length_cons, List.length_append]
  omega

/-- Values with short contents can be told from what follows them. -/
theorem tlv_append_inj {tag : UInt8} {b b' l l' : List UInt8} (hb : b.length < 128)
    (hb' : b'.length < 128) (h : tlv tag b ++ l = tlv tag b' ++ l') : b = b' ∧ l = l' := by
  rw [tlv, tlv, lenOctets_short hb, lenOctets_short hb'] at h
  obtain ⟨-, htail⟩ := List.cons.inj h
  obtain ⟨hlen, hrest⟩ := List.cons.inj htail
  apply List.append_inj hrest
  have hnat := congrArg UInt8.toNat hlen
  rw [UInt8.toNat_ofNat', UInt8.toNat_ofNat', Nat.mod_eq_of_lt (by omega),
    Nat.mod_eq_of_lt (by omega)] at hnat
  exact hnat

theorem digits_length (n : Nat) : (digits n).length = (Nat.digits 256 n).length := by
  simp [digits]

/-- A number below `256 ^ w` has `w` digits at most. -/
theorem digits_length_le {w n : Nat} (h : n < 256 ^ w) : (digits n).length ≤ w := by
  rw [digits_length]
  exact Nat.digits_length_le_iff (by decide) n |>.2 h

theorem lenOctets_length_le {w n : Nat} (h : n < 256 ^ w) : (lenOctets n).length ≤ w + 1 := by
  unfold lenOctets
  split
  · simp
  · have := digits_length_le h
    simpa using this

/-! ## Integers -/

/-- A number of fixed width is its digits, behind zeros. -/
theorem bigEndian_eq {w n : Nat} (h : n < 256 ^ w) :
    bigEndian w n = List.replicate (w - (digits n).length) 0 ++ digits n := by
  have hle : leBytes w n =
      (Nat.digits 256 n).map UInt8.ofNat ++ List.replicate (w - (Nat.digits 256 n).length) 0 := by
    induction w generalizing n with
    | zero =>
      have hn : n = 0 := by simpa using h
      subst hn
      rfl
    | succ w ih =>
      have hdiv : n / 256 < 256 ^ w := by
        apply Nat.div_lt_of_lt_mul
        rwa [Nat.pow_succ, Nat.mul_comm] at h
      rcases Nat.eq_zero_or_pos n with rfl | hpos
      · have ih0 := ih (n := 0) (Nat.pow_pos (by decide))
        simp only [Nat.digits_zero, List.map_nil, List.nil_append, List.length_nil,
          Nat.sub_zero] at ih0 ⊢
        simp only [leBytes, Nat.zero_div, ih0]
        rfl
      · rw [Nat.digits_def' (by decide) hpos]
        have hmod : UInt8.ofNat (n % 256) = UInt8.ofNat n := by
          apply UInt8.toNat_inj.1
          simp
        simp only [leBytes, ih hdiv, List.map_cons, List.length_cons, List.cons_append, hmod]
        congr 3
        omega
  rw [bigEndian, hle, List.reverse_append, List.reverse_replicate, digits_length, digits]

/-- The first digit is not zero. -/
theorem digits_head_ne {n : Nat} {b : UInt8} {l : List UInt8} (h : digits n = b :: l) : b ≠ 0 := by
  intro hb
  have hn : n ≠ 0 := by
    rintro rfl
    simp [digits] at h
  have hne : Nat.digits 256 n ≠ [] := Nat.digits_ne_nil_iff_ne_zero.2 hn
  have hlast := Nat.getLast_digit_ne_zero 256 hn
  have hlt := Nat.digits_lt_base (show 1 < 256 by decide) (List.getLast_mem hne)
  have hmap : ((Nat.digits 256 n).map UInt8.ofNat).reverse.head? = some b := by
    rw [← digits, h]
    rfl
  rw [List.head?_reverse, List.getLast?_map, List.getLast?_eq_some_getLast hne] at hmap
  have hof : UInt8.ofNat ((Nat.digits 256 n).getLast hne) = b := by simpa using hmap
  rw [hb] at hof
  have htoNat := congrArg UInt8.toNat hof
  rw [UInt8.toNat_ofNat'] at htoNat
  exact hlast (by simpa [Nat.mod_eq_of_lt hlt] using htoNat)

theorem digits_head?_ne {n : Nat} {b : UInt8} (h : b ∈ (digits n).head?) : b ≠ 0 := by
  cases hd : digits n with
  | nil => rw [hd] at h; cases h
  | cons x l =>
    rw [hd] at h
    obtain rfl := Option.some.inj h
    exact digits_head_ne hd

theorem digits_ne_nil {n : Nat} (h : n ≠ 0) : digits n ≠ [] := by
  simp [digits, Nat.digits_ne_nil_iff_ne_zero.2 h]

/-- The contents of an integer are its digits, behind zeros and a zero octet at most. -/
theorem intBody_eq (n : Nat) : ∃ z, intBody n = List.replicate z 0 ++ digits n ∧ z ≤ 1 := by
  unfold intBody
  split
  · rename_i h
    exact ⟨1, by rw [h]; rfl, le_refl 1⟩
  · rename_i b l h
    split
    · exact ⟨0, by rw [h]; rfl, Nat.zero_le 1⟩
    · exact ⟨1, by rw [h]; rfl, le_refl 1⟩

theorem intBody_length_pos (n : Nat) : 0 < (intBody n).length := by
  unfold intBody
  split
  · exact Nat.one_pos
  · split <;> exact Nat.succ_pos _

theorem intBody_length_le {w n : Nat} (h : n < 256 ^ w) : (intBody n).length ≤ w + 1 := by
  obtain ⟨z, hz, hle⟩ := intBody_eq n
  have := digits_length_le h
  rw [hz, List.length_append, List.length_replicate]
  omega

/-- Contents that fit: the number of fixed width is zeros and the contents. -/
theorem intBody_pad {w n : Nat} (h : n < 256 ^ w) (hle : (intBody n).length ≤ w) :
    bigEndian w n = List.replicate (w - (intBody n).length) 0 ++ intBody n := by
  obtain ⟨z, hz, -⟩ := intBody_eq n
  rw [bigEndian_eq h]
  rw [hz, List.length_append, List.length_replicate] at hle ⊢
  rw [← List.append_assoc, List.replicate_append_replicate]
  congr 2
  omega

/-- Contents that do not: they are the number behind a zero octet. -/
theorem intBody_sign {w n : Nat} (h : n < 256 ^ w) (hlen : (intBody n).length = w + 1) :
    intBody n = 0 :: bigEndian w n := by
  obtain ⟨z, hz, hle⟩ := intBody_eq n
  have hd := digits_length_le h
  rw [hz, List.length_append, List.length_replicate] at hlen
  obtain rfl : z = 1 := by omega
  have hw : w - (digits n).length = 0 := by omega
  rw [hz, bigEndian_eq h, hw]
  rfl

/-! ## Integers of fixed width -/

/-- Octets that stand for a non-negative integer: a zero octet before them where the first one would
make it negative. -/
def nonneg (o : List UInt8) : List UInt8 := if o.getD 0 0 > 0x7F then 0 :: o else o

theorem sign_iff {b : UInt8} : b > 0x7F ↔ ¬b < 128 := by
  rw [gt_iff_lt, UInt8.lt_iff_toNat_lt, UInt8.lt_iff_toNat_lt]
  show 127 < b.toNat ↔ ¬b.toNat < 128
  omega

theorem nonneg_length_le (o : List UInt8) : (nonneg o).length ≤ o.length + 1 := by
  unfold nonneg
  split
  · exact le_refl _
  · exact Nat.le_succ _

theorem length_le_nonneg (o : List UInt8) : o.length ≤ (nonneg o).length := by
  unfold nonneg
  split
  · exact Nat.le_succ _
  · exact le_refl _

/-- With the digits of a full width, the first one is the number over the rest. -/
theorem digits_head {k n : Nat} {b : UInt8} {l : List UInt8} (h : digits n = b :: l)
    (hlen : l.length = k) (hn : n < 256 ^ (k + 1)) : b.toNat = n / 256 ^ k := by
  have hbig := bigEndian_eq hn
  have hzero : k + 1 - (digits n).length = 0 := by
    rw [h, List.length_cons, hlen]
    omega
  rw [hzero, List.replicate_zero, List.nil_append, bigEndian_succ, h] at hbig
  obtain ⟨hb, -⟩ := List.cons.inj hbig
  have hdiv : n / 256 ^ k < 256 := Nat.div_lt_of_lt_mul (by rwa [Nat.pow_succ] at hn)
  rw [← hb, UInt8.toNat_ofNat']
  exact Nat.mod_eq_of_lt hdiv

/-- How long the contents of an integer are: the sign takes a bit. -/
theorem intBody_length_le_iff (k n : Nat) : (intBody n).length ≤ k + 1 ↔ n < 128 * 256 ^ k := by
  have hpow : 0 < 256 ^ k := Nat.pow_pos (by decide)
  have hwidth : (digits n).length ≤ k ↔ n < 256 ^ k := by
    rw [digits_length]
    exact Nat.digits_length_le_iff (by decide) n
  have hwidth' : (digits n).length ≤ k + 1 ↔ n < 256 * 256 ^ k := by
    rw [digits_length, ← Nat.pow_succ']
    exact Nat.digits_length_le_iff (by decide) n
  unfold intBody
  cases hd : digits n with
  | nil =>
    rw [hd] at hwidth
    have hn := hwidth.1 (Nat.zero_le k)
    exact iff_of_true (Nat.succ_le_succ (Nat.zero_le k)) (by omega)
  | cons b l =>
    rw [hd, List.length_cons] at hwidth hwidth'
    -- only a first digit of the full width decides
    rcases Nat.lt_trichotomy l.length k with hlt | heq | hgt
    · have hn := hwidth.1 hlt
      refine iff_of_true ?_ (by omega)
      dsimp only
      split <;> simp only [List.length_cons] <;> omega
    · have hn := hwidth'.1 (by omega)
      have hb := digits_head hd heq (by rw [Nat.pow_succ']; exact hn)
      have hsign : b < 128 ↔ n < 128 * 256 ^ k := by
        rw [UInt8.lt_iff_toNat_lt, hb, Nat.div_lt_iff_lt_mul hpow]
        rfl
      rw [← hsign]
      dsimp only
      split
      · rename_i h
        exact iff_of_true (by rw [List.length_cons]; omega) h
      · rename_i h
        exact iff_of_false (by simp only [List.length_cons]; omega) h
    · have hn : ¬n < 256 * 256 ^ k := fun h => by have := hwidth'.2 h; omega
      refine iff_of_false ?_ (by omega)
      dsimp only
      split <;> simp only [List.length_cons] <;> omega

/-- The first octet of the contents leaves the integer non-negative. -/
theorem intBody_head (n : Nat) : ¬(intBody n).getD 0 0 > 0x7F := by
  unfold intBody
  split
  · decide
  · rename_i b l _
    split
    · rename_i hb
      exact fun h => sign_iff.1 h hb
    · exact (by decide : ¬(0 : UInt8) > 0x7F)

/-- **Integers of fixed width**: the octets of a number, with a sign octet where one is missing, are
the contents of the integer exactly when these are no shorter. -/
theorem nonneg_eq_iff {w n : Nat} (hw : 0 < w) (hn : n < 256 ^ w) :
    nonneg (bigEndian w n) = intBody n ↔ w ≤ (intBody n).length := by
  constructor
  · intro h
    have hle := length_le_nonneg (bigEndian w n)
    rwa [h, bigEndian_length] at hle
  · intro hle
    have hle' := intBody_length_le hn
    rcases Nat.lt_or_ge w (intBody n).length with hlt | hge
    · -- the contents have a sign octet, so the first digit needs one
      have hsign := intBody_sign hn (by omega)
      have hhead : (bigEndian w n).getD 0 0 > 0x7F := by
        have hbody := hsign
        unfold intBody at hbody
        cases hd : digits n with
        | nil =>
          rw [hd] at hbody
          have hnil := congrArg List.length hbody
          simp only [List.length_cons, bigEndian_length, List.length_nil] at hnil
          omega
        | cons b l =>
          rw [hd] at hbody
          dsimp only at hbody
          split at hbody
          · exact absurd (List.cons.inj hbody).1 (digits_head_ne hd)
          · rename_i hb
            rw [← (List.cons.inj hbody).2]
            exact sign_iff.2 hb
      rw [nonneg, if_pos hhead, hsign]
    · have hpad := intBody_pad hn hge
      rw [show w - (intBody n).length = 0 by omega, List.replicate_zero, List.nil_append] at hpad
      rw [hpad, nonneg, if_neg (intBody_head n)]

end Der

end Lib
