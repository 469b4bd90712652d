import Mathlib.Data.List.Basic

/-!
# Base64

The text of a byte string over the 64-character alphabet, three bytes to four characters, the
last group padded with `=`, and the decoder of such texts.

* `decode_encode`: the decoder gives the bytes back.
* `encode_length`: four characters for every group of three bytes begun.
* `decode_length`: a text is not shorter than its bytes.
* `encode_mem`: the text is letters, digits, `+`, `/` and `=` only.
-/

namespace Lib.Base64

/-- The character of a six-bit value. -/
def symbol (k : Nat) : UInt8 :=
  if k < 26 then UInt8.ofNat (65 + k)
  else if k < 52 then UInt8.ofNat (97 + (k - 26))
  else if k < 62 then UInt8.ofNat (48 + (k - 52))
  else if k = 62 then 43
  else 47

/-- The padding character `=`. -/
def pad : UInt8 := 61

/-- The six-bit value of a character of the alphabet. -/
def value (c : UInt8) : Option Nat :=
  if 65 ≤ c ∧ c ≤ 90 then some (c.toNat - 65)
  else if 97 ≤ c ∧ c ≤ 122 then some (c.toNat - 97 + 26)
  else if 48 ≤ c ∧ c ≤ 57 then some (c.toNat - 48 + 52)
  else if c = 43 then some 62
  else if c = 47 then some 63
  else none

/-- A character that a base64 text is made of. -/
def IsChar (c : UInt8) : Prop := c = pad ∨ (value c).isSome

instance (c : UInt8) : Decidable (IsChar c) := inferInstanceAs (Decidable (_ ∨ _))

theorem value_symbol {k : Nat} (h : k < 64) : value (symbol k) = some k := by
  have table : ∀ k < 64, value (symbol k) = some k := by decide
  exact table k h

theorem symbol_ne_pad {k : Nat} (h : k < 64) : symbol k ≠ pad := by
  have table : ∀ k < 64, symbol k ≠ pad := by decide
  exact table k h

/-- The bytes of a 24-bit group, most significant first. -/
def groupBytes (n : Nat) : List UInt8 :=
  [UInt8.ofNat (n / 65536), UInt8.ofNat (n / 256), UInt8.ofNat n]

/-- The four characters of a 24-bit group. -/
def groupChars (n : Nat) : List UInt8 :=
  [symbol (n / 262144 % 64), symbol (n / 4096 % 64), symbol (n / 64 % 64), symbol (n % 64)]

/-- The text of a byte string. -/
def encode : List UInt8 → List UInt8
  | [] => []
  | [a] => (groupChars (a.toNat * 65536)).take 2 ++ [pad, pad]
  | [a, b] => (groupChars (a.toNat * 65536 + b.toNat * 256)).take 3 ++ [pad]
  | a :: b :: c :: rest =>
    groupChars (a.toNat * 65536 + b.toNat * 256 + c.toNat) ++ encode rest

/-- The 24-bit group of four characters. -/
def group? (c₀ c₁ c₂ c₃ : UInt8) : Option Nat :=
  match value c₀, value c₁, value c₂, value c₃ with
  | some v₀, some v₁, some v₂, some v₃ => some (v₀ * 262144 + v₁ * 4096 + v₂ * 64 + v₃)
  | _, _, _, _ => none

/-- The bytes of a text: padding in the last group only, nothing outside the alphabet. -/
def decode : List UInt8 → Option (List UInt8)
  | [] => some []
  | c₀ :: c₁ :: c₂ :: c₃ :: rest =>
    if c₃ = pad then
      if rest ≠ [] then none
      else if c₂ = pad then (group? c₀ c₁ (symbol 0) (symbol 0)).map fun n => (groupBytes n).take 1
      else (group? c₀ c₁ c₂ (symbol 0)).map fun n => (groupBytes n).take 2
    else
      match group? c₀ c₁ c₂ c₃, decode rest with
      | some n, some bytes => some (groupBytes n ++ bytes)
      | _, _ => none
  | _ => none

/-! ## The round trip -/

theorem group?_symbol {k₀ k₁ k₂ k₃ : Nat} (h₀ : k₀ < 64) (h₁ : k₁ < 64) (h₂ : k₂ < 64)
    (h₃ : k₃ < 64) : group? (symbol k₀) (symbol k₁) (symbol k₂) (symbol k₃) =
      some (k₀ * 262144 + k₁ * 4096 + k₂ * 64 + k₃) := by
  simp only [group?, value_symbol h₀, value_symbol h₁, value_symbol h₂, value_symbol h₃]

theorem ofNat_eq_of_mod {n : Nat} {b : UInt8} (h : n % 256 = b.toNat) : UInt8.ofNat n = b := by
  apply UInt8.toNat_inj.1
  rw [UInt8.toNat_ofNat', ← h]

theorem decode_encode (l : List UInt8) : decode (encode l) = some l := by
  induction l using encode.induct with
  | case1 => rfl
  | case2 a =>
    have ha := a.toNat_lt
    have hg := group?_symbol (show a.toNat * 65536 / 262144 % 64 < 64 by omega)
      (show a.toNat * 65536 / 4096 % 64 < 64 by omega) (show 0 < 64 by omega)
      (show 0 < 64 by omega)
    show ((group? _ _ (symbol 0) (symbol 0)).map fun n => (groupBytes n).take 1) = _
    rw [hg]
    refine congrArg some (List.singleton_inj.2 (ofNat_eq_of_mod ?_))
    omega
  | case3 a b =>
    have ha := a.toNat_lt
    have hb := b.toNat_lt
    have hk : (a.toNat * 65536 + b.toNat * 256) / 64 % 64 < 64 := by omega
    have hg := group?_symbol
      (show (a.toNat * 65536 + b.toNat * 256) / 262144 % 64 < 64 by omega)
      (show (a.toNat * 65536 + b.toNat * 256) / 4096 % 64 < 64 by omega) hk
      (show 0 < 64 by omega)
    simp only [encode, groupChars, List.take_succ_cons, List.take_zero, List.cons_append,
      List.nil_append, decode, symbol_ne_pad hk, hg, if_true, if_false, ne_eq, not_true_eq_false,
      Option.map_some, groupBytes, Option.some.injEq, List.cons.injEq, and_true]
    exact ⟨ofNat_eq_of_mod (by omega), ofNat_eq_of_mod (by omega)⟩
  | case4 a b c rest ih =>
    have ha := a.toNat_lt
    have hb := b.toNat_lt
    have hc := c.toNat_lt
    generalize hn : a.toNat * 65536 + b.toNat * 256 + c.toNat = n at *
    have hk : n % 64 < 64 := by omega
    have hg := group?_symbol (show n / 262144 % 64 < 64 by omega)
      (show n / 4096 % 64 < 64 by omega) (show n / 64 % 64 < 64 by omega) hk
    simp only [encode, hn, groupChars, List.cons_append, List.nil_append, decode,
      symbol_ne_pad hk, hg, ih, if_false, groupBytes, Option.some.injEq, List.cons.injEq, and_true]
    exact ⟨ofNat_eq_of_mod (by omega), ofNat_eq_of_mod (by omega), ofNat_eq_of_mod (by omega)⟩

theorem encode_length (l : List UInt8) : (encode l).length = 4 * ((l.length + 2) / 3) := by
  induction l using encode.induct with
  | case1 => rfl
  | case2 a => simp [encode, groupChars]
  | case3 a b => simp [encode, groupChars]
  | case4 a b c rest ih =>
    simp only [encode, groupChars, List.length_append, List.length_cons, List.length_nil, ih]
    omega

theorem decode_length {s bytes : List UInt8} (h : decode s = some bytes) : bytes.length ≤ s.length := by
  induction s using decode.induct generalizing bytes with
  | case1 =>
    obtain rfl := Option.some.inj h
    exact Nat.le_refl _
  | case2 c₀ c₁ c₂ rest hrest => simp [decode, hrest] at h
  | case3 c₀ c₁ rest hrest =>
    simp only [decode, if_true, if_neg hrest] at h
    obtain ⟨n, -, rfl⟩ := Option.map_eq_some_iff.1 h
    simp [groupBytes]
  | case4 c₀ c₁ c₂ rest hrest hpad =>
    simp only [decode, if_true, if_neg hrest, if_neg hpad] at h
    obtain ⟨n, -, rfl⟩ := Option.map_eq_some_iff.1 h
    simp [groupBytes]
  | case5 c₀ c₁ c₂ c₃ rest hpad n more hrest hg ih =>
    have hle := ih hrest
    simp only [decode, if_neg hpad, hg, hrest] at h
    obtain rfl := Option.some.inj h
    simp only [groupBytes, List.length_append, List.length_cons, List.length_nil]
    omega
  | case6 c₀ c₁ c₂ c₃ rest hpad hno ih =>
    simp only [decode, if_neg hpad] at h
    cases h
  | case7 s h0 h4 =>
    rw [decode.eq_def] at h
    split at h
    · exact absurd rfl h0
    · exact absurd rfl (h4 _ _ _ _ _)
    · cases h

theorem isChar_of_groupChars {n : Nat} {c : UInt8} (h : c ∈ groupChars n) : IsChar c := by
  have hs : ∀ k, IsChar (symbol (k % 64)) := fun k =>
    .inr (by rw [value_symbol (Nat.mod_lt _ (by decide))]; rfl)
  simp only [groupChars, List.mem_cons, List.not_mem_nil, or_false] at h
  rcases h with rfl | rfl | rfl | rfl <;> exact hs _

theorem encode_mem {l : List UInt8} {c : UInt8} (h : c ∈ encode l) : IsChar c := by
  induction l using encode.induct with
  | case1 => cases h
  | case2 a =>
    rcases List.mem_append.1 h with h | h
    · exact isChar_of_groupChars (List.mem_of_mem_take h)
    · exact .inl (by simpa using h)
  | case3 a b =>
    rcases List.mem_append.1 h with h | h
    · exact isChar_of_groupChars (List.mem_of_mem_take h)
    · exact .inl (by simpa using h)
  | case4 a b c rest ih =>
    rcases List.mem_append.1 h with h | h
    · exact isChar_of_groupChars h
    · exact ih h

end Lib.Base64
