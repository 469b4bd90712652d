import Mathlib.Data.List.TakeWhile
import TrustZone.Lib.Bytes

/-!
# Decimal numerals

`strtol` and `strtoul` in base ten, with a `long` of 32 bits, and the text of a number. A complete numeral is
an optional sign with one digit or more.

* `scan_numeral`: the whole of a numeral is scanned.
* `strtol_numeral`, `strtoul_numeral`: its number is read when the type has it.
* `decimalText_digit`: the text of a number is made of digits and a sign.
-/

namespace Lib

/-- A digit. -/
def IsDigit (c : UInt8) : Prop := 48 ≤ c ∧ c ≤ 57

instance (c : UInt8) : Decidable (IsDigit c) := inferInstanceAs (Decidable (_ ∧ _))

instance (ds : List UInt8) : Decidable (∀ c ∈ ds, IsDigit c) := List.decidableBAll _ _

/-- A character that `isspace` accepts: a blank, or one from TAB to CR. -/
def IsSpace (c : UInt8) : Prop := c = 32 ∨ 9 ≤ c ∧ c ≤ 13

instance (c : UInt8) : Decidable (IsSpace c) := inferInstanceAs (Decidable (_ ∨ _))

/-- The number of a string of digits. -/
def digitsVal (ds : List UInt8) : Nat := ds.foldl (fun v c => 10 * v + (c.toNat - 48)) 0

/-- An optional sign: whether it is a minus, how many characters it has, and the rest. -/
def signOf : List UInt8 → Bool × Nat × List UInt8
  | [] => (false, 0, [])
  | c :: s => if c = 45 then (true, 1, s) else if c = 43 then (false, 1, s) else (false, 0, c :: s)

/-- A number with its sign. -/
def signed (neg : Bool) (v : Nat) : Int := if neg then -(v : Int) else v

/-- The number of a complete numeral. -/
def numeral (s : List UInt8) : Option Int :=
  let (neg, _, ds) := signOf s
  if ds ≠ [] ∧ ∀ c ∈ ds, IsDigit c then some (signed neg (digitsVal ds)) else none

/-- What `strtol` and `strtoul` find: a minus, the number of the digits, and the end pointer, which is the
start when there is no digit. -/
structure Scan where
  neg : Bool
  val : Nat
  endPtr : Nat

def scan (nptr : List UInt8) : Scan :=
  let blanks := nptr.takeWhile (IsSpace ·)
  let (neg, n, s) := signOf (nptr.drop blanks.length)
  let ds := s.takeWhile (IsDigit ·)
  if ds = [] then ⟨false, 0, 0⟩ else ⟨neg, digitsVal ds, blanks.length + n + ds.length⟩

def LONG_MAX : Int := 2 ^ 31 - 1
def LONG_MIN : Int := -2 ^ 31
def ULONG_MAX : Nat := 2 ^ 32 - 1

/-- `strtol( nptr, &endptr, 10 )`: the number, or the limit that it exceeds. -/
def strtol (nptr : List UInt8) : Int × Nat :=
  let r := scan nptr
  (max LONG_MIN (min LONG_MAX (signed r.neg r.val)), r.endPtr)

/-- `strtoul( nptr, &endptr, 10 )`: a minus negates the number in `unsigned long`. -/
def strtoul (nptr : List UInt8) : Nat × Nat :=
  let r := scan nptr
  (if ULONG_MAX < r.val then ULONG_MAX else if r.neg then (2 ^ 32 - r.val) % 2 ^ 32 else r.val, r.endPtr)

/-- `%lu` -/
def decimalText (n : Nat) : List UInt8 := (Nat.toDigits 10 n).map fun c => UInt8.ofNat c.toNat

/-- `%ld` -/
def signedText (n : Int) : List UInt8 := if n < 0 then 45 :: decimalText n.natAbs else decimalText n.natAbs

variable {s ds : List UInt8} {n : Int} {c : UInt8}

/-! ## Numerals are read whole -/

theorem not_isSpace_of_isDigit (h : IsDigit c) : ¬IsSpace c := by
  intro hs
  have hlo := UInt8.le_iff_toNat_le.1 h.1
  rcases hs with rfl | ⟨-, hhi⟩
  · exact absurd hlo (by decide)
  · have hle := UInt8.le_iff_toNat_le.1 hhi
    exact absurd (Nat.le_trans hlo hle) (by decide)

theorem signOf_length (s : List UInt8) : (signOf s).2.1 + (signOf s).2.2.length = s.length := by
  cases s with
  | nil => rfl
  | cons c s =>
    rw [signOf]
    split_ifs
    · exact Nat.add_comm ..
    · exact Nat.add_comm ..
    · exact Nat.zero_add _

/-- A numeral does not start with a blank. -/
theorem numeral_start (h : numeral s = some n) : ∃ c t, s = c :: t ∧ ¬IsSpace c := by
  cases s with
  | nil => cases h
  | cons c t =>
    refine ⟨c, t, rfl, ?_⟩
    rw [numeral, signOf] at h
    by_cases hm : c = 45
    · rw [hm]
      decide
    · by_cases hp : c = 43
      · rw [hp]
        decide
      · simp only [if_neg hm, if_neg hp] at h
        split_ifs at h with hd
        exact not_isSpace_of_isDigit (hd.2 c List.mem_cons_self)

/-- A numeral is scanned to its end. -/
theorem scan_numeral (h : numeral s = some n) : ∃ neg val, scan s = ⟨neg, val, s.length⟩ ∧ signed neg val = n := by
  obtain ⟨c, t, rfl, hc⟩ := numeral_start h
  have hlen := signOf_length (c :: t)
  have hblanks : (c :: t).takeWhile (IsSpace ·) = [] := List.takeWhile_cons_of_neg (by simpa using hc)
  rw [numeral] at h
  simp only [scan, hblanks, List.length_nil, List.drop_zero, Nat.zero_add]
  generalize signOf (c :: t) = r at h hlen ⊢
  obtain ⟨neg, k, ds⟩ := r
  simp only at h hlen ⊢
  split_ifs at h with hds
  obtain ⟨hne, hall⟩ := hds
  have hdigits : ds.takeWhile (IsDigit ·) = ds :=
    List.takeWhile_eq_self_iff.2 fun d hd => decide_eq_true (hall d hd)
  rw [hdigits, if_neg hne, hlen]
  exact ⟨neg, digitsVal ds, rfl, Option.some.inj h⟩

/-- **`strtol`** reads a numeral whose number a `long` has. -/
theorem strtol_numeral (h : numeral s = some n) (hlo : LONG_MIN ≤ n) (hhi : n ≤ LONG_MAX) :
    strtol s = (n, s.length) := by
  obtain ⟨neg, val, hscan, rfl⟩ := scan_numeral h
  rw [strtol, hscan]
  simp only [min_eq_right hhi, max_eq_right hlo]

/-- **`strtoul`** reads a numeral whose number an `unsigned long` has. -/
theorem strtoul_numeral (h : numeral s = some n) (hlo : 0 ≤ n) (hhi : n ≤ ULONG_MAX) :
    strtoul s = (n.toNat, s.length) := by
  obtain ⟨neg, val, hscan, rfl⟩ := scan_numeral h
  rw [strtoul, hscan]
  cases neg with
  | false =>
    have hval : signed false val = val := rfl
    rw [hval] at hhi ⊢
    simp only [if_neg (show ¬ULONG_MAX < val by omega), Bool.false_eq_true, if_false, Int.toNat_natCast]
  | true =>
    -- the only number with a minus is zero
    have hval : signed true val = -(val : Int) := rfl
    rw [hval] at hlo
    obtain rfl : val = 0 := by omega
    simp [signed]

/-- Without a digit nothing is read. -/
theorem scan_start (h : (scan s).endPtr = 0) : scan s = ⟨false, 0, 0⟩ := by
  simp only [scan] at h ⊢
  split_ifs at h ⊢ with hds
  · rfl
  · exact absurd (List.eq_nil_of_length_eq_zero (Nat.eq_zero_of_add_eq_zero_left h)) hds

/-- Where `strtol` and `strtoul` stay at the start they return 0. -/
theorem strtol_start (h : (strtol s).2 = 0) : (strtol s).1 = 0 := by
  rw [strtol, scan_start h]
  rfl

theorem strtoul_start (h : (strtoul s).2 = 0) : (strtoul s).1 = 0 := by
  rw [strtoul, scan_start h]
  rfl

/-! ## The text of a number -/

theorem decimalText_digit {n : Nat} (h : c ∈ decimalText n) : IsDigit c := by
  obtain ⟨d, hd, rfl⟩ := List.mem_map.1 h
  have hdigit := Nat.isDigit_of_mem_toDigits (by decide) (by decide) hd
  rw [Char.isDigit, Bool.and_eq_true, decide_eq_true_eq, decide_eq_true_eq] at hdigit
  have hlo : 48 ≤ d.toNat := UInt32.le_iff_toNat_le.1 hdigit.1
  have hhi : d.toNat ≤ 57 := UInt32.le_iff_toNat_le.1 hdigit.2
  have hmod : (UInt8.ofNat d.toNat).toNat = d.toNat := by
    rw [UInt8.toNat_ofNat']
    omega
  refine ⟨UInt8.le_iff_toNat_le.2 ?_, UInt8.le_iff_toNat_le.2 ?_⟩
  · rw [hmod]
    exact hlo
  · rw [hmod]
    exact hhi

theorem decimalText_length {n k : Nat} (hk : 0 < k) (h : n < 10 ^ k) : (decimalText n).length ≤ k := by
  rw [decimalText, List.length_map]
  exact (Nat.length_toDigits_le_iff (by decide) hk).2 h

theorem signedText_length {n : Int} {k : Nat} (hk : 0 < k) (h : n.natAbs < 10 ^ k) :
    (signedText n).length ≤ k + 1 := by
  have hlen := decimalText_length hk h
  rw [signedText]
  split_ifs
  · exact Nat.succ_le_succ hlen
  · omega

theorem signedText_char {n : Int} (h : c ∈ signedText n) : c = 45 ∨ IsDigit c := by
  rw [signedText] at h
  split_ifs at h
  · rcases List.mem_cons.1 h with h | h
    · exact .inl h
    · exact .inr (decimalText_digit h)
  · exact .inr (decimalText_digit h)

end Lib
