import TrustZone.Cli.Console

/-!
# The string functions of the command line

* `strncmpEq_iff`: comparing over the length of a string asks whether it starts the other one.
* `strnstr_isSome`: `strnstr` finds what is in the first characters of the C string.
-/

namespace Cli

open Lib

variable {a b s find : List UInt8} {c : UInt8}

/-- `strncmp( a, b, strlen( a ) ) == 0`. -/
theorem strncmpEq_iff (h : 0 ∉ a) : strncmpEq a b a.length = true ↔ a <+: b := by
  induction a generalizing b with
  | nil => exact iff_of_true rfl List.nil_prefix
  | cons x a ih =>
    have hx : x ≠ 0 := fun he => h (by simp [he])
    have ih := @ih b.tail fun hm => h (List.mem_cons_of_mem _ hm)
    cases b with
    | nil => simp [strncmpEq, hx]
    | cons y b =>
      rw [List.cons_prefix_cons]
      by_cases hxy : x = y
      · subst hxy
        simpa [strncmpEq, hx] using ih
      · simp [strncmpEq, hxy]

/-- `strncmp( b, a, strlen( a ) ) == 0`. -/
theorem strncmpEq_comm (a b : List UInt8) (n : Nat) : strncmpEq a b n = strncmpEq b a n := by
  induction n generalizing a b with
  | zero => rfl
  | succ n ih =>
    simp only [strncmpEq]
    by_cases h : a.headD 0 = b.headD 0
    · rw [h, ih]
    · rw [if_pos h, if_pos (Ne.symm h)]

theorem cstr_take (s : List UInt8) (n : Nat) : cstr (s.take n) = (cstr s).take n := by
  induction s generalizing n with
  | nil => simp [cstr]
  | cons x s ih =>
    cases n with
    | zero => rfl
    | succ n =>
      by_cases hx : x = 0
      · rw [List.take_succ_cons, hx, cstr_nul, cstr_nul]
        rfl
      · rw [List.take_succ_cons, cstr_cons hx, cstr_cons hx, ih, List.take_succ_cons]

theorem strnstrLoop_isSome (hfind : 0 ∉ find) (n : Nat) :
    (strnstrLoop c find s n).isSome ↔ c :: find <:+: (cstr s).take n := by
  induction s generalizing n with
  | nil =>
    cases n <;> simp [strnstrLoop, cstr]
  | cons x s ih =>
    cases n with
    | zero => simp [strnstrLoop]
    | succ n =>
      by_cases hx : x = 0
      · simp [strnstrLoop, hx, cstr_nul]
      · -- the rest is searched when the find does not start here
        rw [cstr_cons hx, List.take_succ_cons, List.infix_cons_iff, List.cons_prefix_cons, ← ih]
        have hstart : find <+: (cstr s).take n ↔ find.length ≤ n ∧ strncmpEq s find find.length = true := by
          rw [strncmpEq_comm, strncmpEq_iff hfind, prefix_cstr (b := s) hfind]
          constructor
          · intro h
            have hlen := h.length_le
            rw [List.length_take] at hlen
            exact ⟨by omega, h.trans (List.take_prefix _ _)⟩
          · rintro ⟨hn, h⟩
            exact List.prefix_take_iff.2 ⟨h, hn⟩
        rw [hstart]
        simp only [strnstrLoop, if_neg hx]
        by_cases hxc : x = c
        · rw [if_neg (not_not.2 hxc)]
          by_cases hn : n < find.length
          · rw [if_pos hn]
            refine iff_of_false (by simp) ?_
            rintro (⟨-, hle, -⟩ | hrest)
            · omega
            · have hlen := ((ih n).1 hrest).length_le
              rw [List.length_take, List.length_cons] at hlen
              omega
          · rw [if_neg hn]
            by_cases hcmp : strncmpEq s find find.length = true
            · rw [if_pos hcmp]
              exact iff_of_true rfl (.inl ⟨hxc.symm, by omega, hcmp⟩)
            · rw [if_neg hcmp]
              exact ⟨.inr, fun h => h.resolve_left fun hstart => hcmp hstart.2.2⟩
        · rw [if_pos hxc]
          exact ⟨.inr, fun h => h.resolve_left fun hstart => hxc hstart.1.symm⟩

theorem strnstr_isSome (hfind : 0 ∉ find) (hne : find ≠ []) (n : Nat) :
    (strnstr s find n).isSome ↔ find <:+: (cstr s).take n := by
  cases find with
  | nil => exact absurd rfl hne
  | cons c find =>
    unfold strnstr
    rw [cstr_of_notMem hfind]
    exact strnstrLoop_isSome (fun hm => hfind (List.mem_cons_of_mem _ hm)) n

end Cli
