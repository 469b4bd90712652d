import TrustZone.Lib.Bytes

/-!
# Writing backwards into a buffer

An encoder that writes from the end of a buffer to its start keeps a position: what is behind it is
written. A function of such an encoder gets a buffer, the start of the room and the position, and
leaves a count or a negative error, the position and the buffer (`BackWrite`).

* `Writes`: a function writes given bytes where there is room for them, and fails where there is not.
* `Written`: the position and the buffer after a row of writes; `Written.step` adds one.
* `BackWrite.andThen`: go on with the length so far, when a write succeeded. `Puts` is what rows of
  such writes do, and `Puts.andThen` its rule.
-/

namespace Lib

/-- What a write leaves: its result, the position and the buffer. -/
structure BackWrite where
  ret : Int
  p : Nat
  buf : List UInt8

/-- Writing `bytes` before the position `p`, in the room from `start` on: it succeeds if they fit, with
their number, else it fails. -/
structure Writes (bytes : List UInt8) (buf : List UInt8) (start p : Nat) (w : BackWrite) : Prop where
  fits : start + bytes.length ≤ p →
    w = ⟨bytes.length, p - bytes.length, blit buf (p - bytes.length) bytes⟩
  full : p < start + bytes.length → w.ret < 0

/-- `MBEDTLS_ASN1_CHK_ADD`: go on with the sum of the lengths, unless the write failed. -/
def BackWrite.andThen (w : BackWrite) (len : Nat) (k : Nat → Nat → List UInt8 → BackWrite) :
    BackWrite :=
  if w.ret < 0 then w else k (len + w.ret.toNat) w.p w.buf

/-- The buffer `b` is `buf` with the bytes `w` written at its end, from the position `p` on, which is
not before `start`. -/
structure Written (buf : List UInt8) (start : Nat) (w : List UInt8) (p : Nat) (b : List UInt8) :
    Prop where
  length : b.length = buf.length
  pos : p + w.length = buf.length
  room : start ≤ p
  head : b.take start = buf.take start
  tail : b.drop p = w

variable {buf b w bytes : List UInt8} {start p : Nat}

theorem Written.init (h : start ≤ buf.length) : Written buf start [] buf.length buf :=
  ⟨rfl, rfl, h, rfl, List.drop_length⟩

/-- A write puts its bytes before those so far. -/
theorem Written.step (h : Written buf start w p b) (hfit : start + bytes.length ≤ p) :
    Written buf start (bytes ++ w) (p - bytes.length) (blit b (p - bytes.length) bytes) := by
  have hle : p ≤ b.length := by
    have := h.pos
    have := h.length
    omega
  have hsum : p - bytes.length + bytes.length = p := by omega
  have htake : (b.take (p - bytes.length)).length = p - bytes.length := by
    rw [List.length_take]
    omega
  refine ⟨?_, ?_, by omega, ?_, ?_⟩
  · rw [blit_length (by omega), h.length]
  · have := h.pos
    rw [List.length_append]
    omega
  · rw [blit, List.append_assoc, List.take_append_of_le_length (by omega), List.take_take, ← h.head]
    congr 1
    omega
  · rw [blit, List.append_assoc, List.drop_append_of_le_length (by omega), hsum, h.tail]
    rw [List.drop_of_length_le (by omega), List.nil_append]

/-- Bytes at the front are given up. -/
theorem Written.skip {u : List UInt8} (h : Written buf start (u ++ w) p b) :
    Written buf start w (p + u.length) b := by
  have hp := h.pos
  rw [List.length_append] at hp
  refine ⟨h.length, by omega, h.room.trans (Nat.le_add_right _ _), h.head, ?_⟩
  rw [← List.drop_drop, h.tail, List.drop_left]

/-- A smaller start. -/
theorem Written.mono {start' : Nat} (h : Written buf start w p b) (hs : start' ≤ start) :
    Written buf start' w p b := by
  refine ⟨h.length, h.pos, hs.trans h.room, ?_, h.tail⟩
  have := congrArg (List.take start') h.head
  rwa [List.take_take, List.take_take, Nat.min_eq_left hs] at this

/-- A row of writes that puts `bytes` before those so far, with a result that counts from `len`, and
fails only where there is room for less than `need` bytes. -/
def Puts (buf : List UInt8) (start : Nat) (w : List UInt8) (p len : Nat) (bytes : List UInt8)
    (need : Nat) (x : BackWrite) : Prop :=
  (x.ret < 0 ∧ p < start + need) ∨
    (x.ret = len + bytes.length ∧ Written buf start (bytes ++ w) x.p x.buf)

theorem Writes.puts {x : BackWrite} (hx : Writes bytes b start p x) (h : Written buf start w p b) :
    Puts buf start w p 0 bytes bytes.length x := by
  by_cases hfit : start + bytes.length ≤ p
  · rw [hx.fits hfit]
    exact .inr ⟨(Int.zero_add _).symm, h.step hfit⟩
  · exact .inl ⟨hx.full (by omega), by omega⟩

/-- A write that there is room for. -/
theorem Writes.written {x : BackWrite} (hx : Writes bytes b 0 p x) (h : Written buf 0 w p b)
    (hfit : bytes.length + w.length ≤ buf.length) :
    x.ret = bytes.length ∧ Written buf 0 (bytes ++ w) x.p x.buf := by
  have hpos := h.pos
  rcases hx.puts h with ⟨hneg, hp⟩ | ⟨hret, hw⟩
  · omega
  · exact ⟨by omega, hw⟩

/-- Nothing more is written. -/
theorem Puts.done (h : Written buf start w p b) (len : Nat) :
    Puts buf start w p len [] 0 ⟨len, p, b⟩ :=
  .inr ⟨rfl, h⟩

/-- One write, and then others with a smaller start. -/
theorem Puts.andThen_le {x : BackWrite} {k : Nat → Nat → List UInt8 → BackWrite}
    {start' len n n' : Nat} {bytes' : List UInt8} (h : Written buf start w p b)
    (hs : start' ≤ start) (hx : Puts buf start w p 0 bytes n x)
    (hk : ∀ p' b', p' + bytes.length = p → Written buf start (bytes ++ w) p' b' →
      Puts buf start' (bytes ++ w) p' (len + bytes.length) bytes' n' (k (len + bytes.length) p' b')) :
    Puts buf start' w p len (bytes' ++ bytes) (max (start - start' + n) (n' + bytes.length))
      (x.andThen len k) := by
  unfold BackWrite.andThen
  rcases hx with ⟨hneg, hp⟩ | ⟨hret, hw⟩
  · rw [if_pos hneg]
    exact .inl ⟨hneg, by omega⟩
  · have hpos : x.p + bytes.length = p := by
      have h1 := h.pos
      have h2 := hw.pos
      rw [List.length_append] at h2
      omega
    have hnat : x.ret.toNat = bytes.length := by omega
    rw [if_neg (by omega), hnat]
    rcases hk x.p x.buf hpos hw with ⟨hneg, hp⟩ | ⟨hret', hw'⟩
    · exact .inl ⟨hneg, by omega⟩
    · refine .inr ⟨?_, by rwa [List.append_assoc]⟩
      rw [hret', List.length_append]
      push_cast
      omega

/-- One write, and then others. -/
theorem Puts.andThen {x : BackWrite} {k : Nat → Nat → List UInt8 → BackWrite} {len n n' : Nat}
    {bytes' : List UInt8} (h : Written buf start w p b) (hx : Puts buf start w p 0 bytes n x)
    (hk : ∀ p' b', p' + bytes.length = p → Written buf start (bytes ++ w) p' b' →
      Puts buf start (bytes ++ w) p' (len + bytes.length) bytes' n' (k (len + bytes.length) p' b')) :
    Puts buf start w p len (bytes' ++ bytes) (max n (n' + bytes.length)) (x.andThen len k) := by
  have hle := Puts.andThen_le h (le_refl start) hx hk
  rwa [Nat.sub_self, Nat.zero_add] at hle

theorem Puts.weaken {len n n' : Nat} {x : BackWrite} (h : Puts buf start w p len bytes n x)
    (hn : n ≤ n') : Puts buf start w p len bytes n' x := by
  rcases h with ⟨hneg, hp⟩ | h
  · exact .inl ⟨hneg, by omega⟩
  · exact .inr h

/-- Bytes that are there already count as put. -/
theorem Puts.behind {u : List UInt8} {q n : Nat} {x : BackWrite}
    (h : Puts buf start (u ++ w) q u.length bytes n x) (hq : q + u.length = p) :
    Puts buf start w p 0 (bytes ++ u) (n + u.length) x := by
  rcases h with ⟨hneg, hp⟩ | ⟨hret, hw⟩
  · exact .inl ⟨hneg, by omega⟩
  · refine .inr ⟨?_, by rwa [List.append_assoc]⟩
    rw [hret, List.length_append]
    push_cast
    omega

end Lib
