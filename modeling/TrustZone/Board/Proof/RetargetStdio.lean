import Mathlib.Algebra.GroupWithZero.Nat
import Mathlib.Data.List.Infix
import TrustZone.Board.RetargetStdio

/-!
# Every byte is returned once, in order

The two counters run on past 2^32; what they count is known from the run: the bytes that the callbacks reported
and those that were returned.

* `UartInv`: the counters, the armed reception, the bytes in the buffer and the event flag, for a run.
* `UartInv.step`: every step keeps it as long as the buffer has room.
* `uart_run`: **`stdin_getchar` returns what came in**, every reception is inside the buffer, and it waits for
  the flag only when there is nothing to read.
-/

namespace Board

open Lib Machine

variable {tr : List (Entry Uart UartStep (Option UInt8))} {u u' : Uart}
  {e : Entry Uart UartStep (Option UInt8)}

/-! ## What happened in a run -/

/-- The bytes that the UART stored. -/
def received (tr : List (Entry Uart UartStep (Option UInt8))) : List UInt8 :=
  tr.filterMap fun e =>
    match e.inp with
    | .receive byte => some byte
    | _ => none

/-- The bytes that were returned. -/
def returned (tr : List (Entry Uart UartStep (Option UInt8))) : List UInt8 := tr.filterMap (·.out)

/-- How many bytes a callback reports. -/
def Entry.num (e : Entry Uart UartStep (Option UInt8)) : Nat :=
  match e.inp, e.pre.reception with
  | .callback, some r => r.count
  | _, _ => 0

/-- How many bytes the callbacks reported. -/
def reported (tr : List (Entry Uart UartStep (Option UInt8))) : Nat := (tr.map Entry.num).sum

/-- How many bytes were read out of the buffer. -/
def taken (tr : List (Entry Uart UartStep (Option UInt8))) : Nat :=
  tr.countP fun e =>
    match e.inp with
    | .run => e.pre.thread = .read
    | _ => false

@[simp] theorem received_snoc : received (tr ++ [e]) = received tr ++ received [e] :=
  List.filterMap_append

@[simp] theorem returned_snoc : returned (tr ++ [e]) = returned tr ++ returned [e] :=
  List.filterMap_append

@[simp] theorem reported_snoc : reported (tr ++ [e]) = reported tr + Entry.num e := by
  simp [reported]

@[simp] theorem taken_snoc : taken (tr ++ [e]) = taken tr + taken [e] := List.countP_append

/-- There is room for what came in and was not read yet, at any time. -/
def Room (tr : List (Entry Uart UartStep (Option UInt8))) : Prop :=
  ∀ tr₁, tr₁ <+: tr → (received tr₁).length ≤ taken tr₁ + UART_BUFFER_SIZE

theorem Room.init (h : Room (tr ++ [e])) : Room tr :=
  fun tr₁ htr₁ => h tr₁ (htr₁.trans (List.prefix_append _ _))

/-! ## The counters -/

theorem maskIdx_ofNat (n : Nat) : maskIdx (BitVec.ofNat 32 n) = n % UART_BUFFER_SIZE := by
  have hmask : (BitVec.ofNat 32 (UART_BUFFER_SIZE - 1)).toNat = 2 ^ 11 - 1 := rfl
  have hsize : UART_BUFFER_SIZE = 2 ^ 11 := rfl
  rw [maskIdx, BitVec.toNat_and, hmask, Nat.and_two_pow_sub_one_eq_mod, BitVec.toNat_ofNat, hsize]
  exact Nat.mod_mod_of_dvd n (by decide)

/-- The difference of the counters is positive when bytes are unread. -/
theorem cnt_pos {i o : Nat} (hle : o ≤ i) (hroom : i ≤ o + UART_BUFFER_SIZE) :
    0 < BitVec.ofNat 32 i - BitVec.ofNat 32 o ↔ o < i := by
  have hsize : UART_BUFFER_SIZE = 2048 := rfl
  have hzero : (0 : BitVec 32).toNat = 0 := rfl
  rw [BitVec.lt_def, BitVec.toNat_sub, BitVec.toNat_ofNat, BitVec.toNat_ofNat, hzero]
  omega

/-! ## Places in the buffer -/

/-- A reception does not wrap around. -/
theorem place_eq {n count : Nat} (h : count < UART_BUFFER_SIZE - n % UART_BUFFER_SIZE) :
    n % UART_BUFFER_SIZE + count = (n + count) % UART_BUFFER_SIZE := by
  unfold UART_BUFFER_SIZE at *
  omega

/-- Bytes that are unread at the same time have different places. -/
theorem place_ne {k n : Nat} (hlt : k < n) (hn : n < k + UART_BUFFER_SIZE) :
    k % UART_BUFFER_SIZE ≠ n % UART_BUFFER_SIZE := by
  unfold UART_BUFFER_SIZE at *
  omega

/-! ## The invariant -/

/-- The reception that is armed after `n` bytes were reported, when `len` bytes came in. -/
structure ReceptionOk (n len : Nat) (r : Reception) : Prop where
  pData : r.pData = n % UART_BUFFER_SIZE
  Size : r.Size = UART_BUFFER_SIZE - n % UART_BUFFER_SIZE
  count_le : r.count ≤ r.Size
  count : len = n + r.count

/-- What has happened: the bytes that came in, how many of them were reported and read, and what was
returned. -/
structure Past where
  received : List UInt8
  reported : Nat
  taken : Nat
  returned : List UInt8

/-- What the thread knows. -/
def ThreadOk (p : Past) (uart_rx_event : Bool) : Thread → Prop
  | .idle => p.taken = p.returned.length
  | .count => p.taken = p.returned.length
  | .read => p.taken = p.returned.length ∧ p.taken < p.reported
  | .advance ch => p.taken = p.returned.length + 1 ∧ p.received[p.returned.length]? = some ch
  | .wait => p.taken = p.returned.length ∧ (uart_rx_event = false → p.reported = p.taken)

/-- **The invariant**: nothing has happened, or a reception is armed. -/
structure UartInv (p : Past) (u : Uart) : Prop where
  idx_i : u.uart_rx_idx_i = BitVec.ofNat 32 p.reported
  idx_o : u.uart_rx_idx_o = BitVec.ofNat 32 p.returned.length
  taken_le : p.taken ≤ p.reported
  unarmed : u.reception = none → p = ⟨[], 0, 0, []⟩ ∧ u.thread = .idle
  initialized : u.uart_rx_initialized = u.reception.isSome
  armed : ∀ r, u.reception = some r → ReceptionOk p.reported p.received.length r
  memory : ∀ k, p.taken ≤ k → k < p.received.length →
    p.received[k]? = some (u.uart_rx_buf (k % UART_BUFFER_SIZE))
  inOrder : p.returned <+: p.received
  thread : ThreadOk p u.uart_rx_event u.thread

variable {p : Past} {r : Reception}

theorem uartInv_boot (buf : Nat → UInt8) : UartInv ⟨[], 0, 0, []⟩ (Uart.boot buf) where
  idx_i := rfl
  idx_o := rfl
  taken_le := Nat.le_refl 0
  unarmed _ := ⟨rfl, rfl⟩
  initialized := rfl
  armed _ h := nomatch h
  memory k _ h := absurd h (Nat.not_lt_zero k)
  inOrder := List.prefix_refl []
  thread := rfl

/-! ## One step -/

/-- The byte goes behind those that came in, and over none that is unread. -/
theorem UartInv.receive (h : UartInv p u) (hr : u.reception = some r) (hlt : r.count < r.Size) {byte : UInt8}
    (hroom : p.received.length < p.taken + UART_BUFFER_SIZE) :
    UartInv { p with received := p.received ++ [byte] } { u with
      uart_rx_buf := Function.update u.uart_rx_buf (r.pData + r.count) byte
      reception := some { r with count := r.count + 1 } } := by
  have hok := h.armed r hr
  have hcount := hok.count
  have hplace : r.pData + r.count = p.received.length % UART_BUFFER_SIZE := by
    rw [hok.pData, hcount]
    exact place_eq (hok.Size ▸ hlt)
  refine ⟨h.idx_i, h.idx_o, h.taken_le, nofun, h.initialized.trans (by rw [hr]; rfl), ?_, ?_, ?_, ?_⟩
  · intro r' hr'
    obtain rfl := Option.some.inj hr'
    refine ⟨hok.pData, hok.Size, hlt, ?_⟩
    rw [List.length_append, hcount, List.length_singleton, Nat.add_assoc]
  · intro k hk hlen
    dsimp only at hk hlen ⊢
    rw [List.length_append, List.length_singleton] at hlen
    rw [hplace]
    rcases Nat.lt_or_eq_of_le (Nat.lt_succ_iff.1 hlen) with hlt' | rfl
    · rw [Function.update_of_ne (place_ne hlt' (by omega)), List.getElem?_append_left hlt']
      exact h.memory k hk hlt'
    · rw [Function.update_self, List.getElem?_concat_length]
  · exact h.inOrder.trans (List.prefix_append _ _)
  · have hthread := h.thread
    show ThreadOk _ u.uart_rx_event u.thread
    cases ht : u.thread with
    | advance ch =>
      rw [ht] at hthread
      refine ⟨hthread.1, ?_⟩
      rw [List.getElem?_append_left (List.getElem?_eq_some_iff.1 hthread.2).1]
      exact hthread.2
    | _ =>
      rw [ht] at hthread
      exact hthread

/-- The bytes that came in are reported, and the next reception is armed behind them. -/
theorem UartInv.callback (h : UartInv p u) (hr : u.reception = some r) :
    UartInv { p with reported := p.reported + r.count } (uart_rx_callback u r.count) := by
  have hcount := (h.armed r hr).count
  have hle : p.taken ≤ p.reported + r.count := h.taken_le.trans (Nat.le_add_right _ _)
  have hidx : u.uart_rx_idx_i + BitVec.ofNat 32 r.count = BitVec.ofNat 32 (p.reported + r.count) := by
    rw [h.idx_i, BitVec.ofNat_add]
  refine ⟨hidx, h.idx_o, hle, nofun, h.initialized.trans (by rw [hr]; rfl), ?_, h.memory, h.inOrder, ?_⟩
  · intro r' hr'
    obtain rfl := Option.some.inj hr'
    have hsmall : UART_BUFFER_SIZE - (p.reported + r.count) % UART_BUFFER_SIZE < 2 ^ 16 :=
      (Nat.sub_le _ _).trans_lt (by decide)
    rw [hidx, maskIdx_ofNat, Nat.mod_eq_of_lt hsmall]
    exact ⟨rfl, rfl, Nat.zero_le _, hcount⟩
  · have hthread := h.thread
    show ThreadOk _ true u.thread
    cases ht : u.thread with
    | read =>
      rw [ht] at hthread
      exact ⟨hthread.1, hthread.2.trans_le (Nat.le_add_right _ _)⟩
    | wait =>
      rw [ht] at hthread
      exact ⟨hthread.1, nofun⟩
    | _ =>
      rw [ht] at hthread
      exact hthread

/-- The thread goes on, and the event flag changes. -/
theorem UartInv.setThread (h : UartInv p u) (hr : u.reception ≠ none) {uart_rx_event : Bool} {thread : Thread}
    (hthread : ThreadOk p uart_rx_event thread) :
    UartInv p { u with uart_rx_event := uart_rx_event, thread := thread } :=
  ⟨h.idx_i, h.idx_o, h.taken_le, fun hnone => absurd hnone hr, h.initialized, h.armed, h.memory, h.inOrder,
    hthread⟩

theorem UartInv.armed_of_thread (h : UartInv p u) (hthread : u.thread ≠ .idle) : u.reception ≠ none :=
  fun hnone => hthread (h.unarmed hnone).2

/-- The first call arms the first reception. -/
theorem UartInv.call (h : UartInv p u) (hidle : u.thread = .idle) : UartInv p (stdin_getchar u) := by
  have htaken : p.taken = p.returned.length := by
    have hthread := h.thread
    rwa [hidle] at hthread
  unfold stdin_getchar
  split_ifs with hinit
  · have hr : u.reception ≠ none := by
      rw [h.initialized] at hinit
      exact Option.ne_none_iff_isSome.2 hinit
    exact h.setThread hr htaken
  · have hr : u.reception = none := by
      rw [h.initialized] at hinit
      exact Option.not_isSome_iff_eq_none.1 hinit
    obtain ⟨rfl, -⟩ := h.unarmed hr
    refine ⟨rfl, rfl, Nat.le_refl 0, nofun, rfl, ?_, fun k _ hk => absurd hk (Nat.not_lt_zero k),
      List.prefix_refl [], rfl⟩
    intro r' hr'
    obtain rfl := Option.some.inj hr'
    exact ⟨rfl, rfl, Nat.zero_le _, rfl⟩

theorem UartInv.reported_le (h : UartInv p u) : p.reported ≤ p.received.length := by
  cases hr : u.reception with
  | none =>
    obtain ⟨rfl, -⟩ := h.unarmed hr
    exact Nat.le_refl 0
  | some r =>
    rw [(h.armed r hr).count]
    exact Nat.le_add_right _ _

/-- The counters are compared. -/
theorem UartInv.count (h : UartInv p u) (hthread : u.thread = .count)
    (hroom : p.received.length ≤ p.taken + UART_BUFFER_SIZE) :
    UartInv p { u with
      thread := if 0 < u.uart_rx_idx_i - u.uart_rx_idx_o then .read else .wait } := by
  have htaken : p.taken = p.returned.length := by
    have hok := h.thread
    rwa [hthread] at hok
  have hr := h.armed_of_thread (by rw [hthread]; exact nofun)
  apply h.setThread hr
  rw [h.idx_i, h.idx_o, ← htaken]
  split_ifs with hpos
  · exact ⟨htaken, (cnt_pos h.taken_le (h.reported_le.trans hroom)).1 hpos⟩
  · refine ⟨htaken, fun _ => ?_⟩
    exact Nat.le_antisymm (Nat.not_lt.1 fun hlt => hpos ((cnt_pos h.taken_le (h.reported_le.trans hroom)).2 hlt))
      h.taken_le

/-- The next byte is read. -/
theorem UartInv.read (h : UartInv p u) (hthread : u.thread = .read) :
    UartInv { p with taken := p.taken + 1 }
      { u with thread := .advance (u.uart_rx_buf (maskIdx u.uart_rx_idx_o)) } := by
  have hok := h.thread
  rw [hthread] at hok
  obtain ⟨htaken, hlt⟩ := hok
  have hr := h.armed_of_thread (by rw [hthread]; exact nofun)
  refine ⟨h.idx_i, h.idx_o, hlt, fun hnone => absurd hnone hr, h.initialized, h.armed, ?_, h.inOrder, ?_⟩
  · exact fun k hk hlen => h.memory k (Nat.le_of_succ_le hk) hlen
  · refine ⟨congrArg (· + 1) htaken, ?_⟩
    rw [h.idx_o, maskIdx_ofNat, ← htaken]
    exact h.memory p.taken (Nat.le_refl _) (hlt.trans_le h.reported_le)

/-- It is returned. -/
theorem UartInv.advance (h : UartInv p u) {ch : UInt8} (hthread : u.thread = .advance ch) :
    UartInv { p with returned := p.returned ++ [ch] }
      { u with uart_rx_idx_o := u.uart_rx_idx_o + 1, thread := .idle } := by
  have hok := h.thread
  rw [hthread] at hok
  obtain ⟨htaken, hch⟩ := hok
  have hr := h.armed_of_thread (by rw [hthread]; exact nofun)
  refine ⟨h.idx_i, ?_, h.taken_le, fun hnone => absurd hnone hr, h.initialized, h.armed, h.memory, ?_, ?_⟩
  · show u.uart_rx_idx_o + 1 = _
    rw [h.idx_o, List.length_append, BitVec.ofNat_add]
    rfl
  · obtain ⟨rest, hrest⟩ := h.inOrder
    rw [← hrest, List.getElem?_append_right (Nat.le_refl _), Nat.sub_self] at hch
    obtain ⟨c, rest, rfl⟩ : ∃ c t, rest = c :: t := List.exists_cons_of_ne_nil (by rintro rfl; cases hch)
    obtain rfl := Option.some.inj hch
    exact ⟨rest, by rw [← hrest, List.append_assoc, List.singleton_append]⟩
  · show p.taken = (p.returned ++ [ch]).length
    rw [htaken, List.length_append, List.length_singleton]

/-! ## Every run -/

def past (tr : List (Entry Uart UartStep (Option UInt8))) : Past :=
  ⟨received tr, reported tr, taken tr, returned tr⟩

theorem past_receive (byte : UInt8) : past (tr ++ [⟨u, .receive byte, none, u'⟩]) =
    { past tr with received := received tr ++ [byte] } := by
  simp [past, received, reported, taken, returned, Entry.num]

theorem past_callback (hr : u.reception = some r) : past (tr ++ [⟨u, .callback, none, u'⟩]) =
    { past tr with reported := reported tr + r.count } := by
  simp [past, received, reported, taken, returned, Entry.num, hr]

theorem past_call : past (tr ++ [⟨u, .call, none, u'⟩]) = past tr := by
  simp [past, received, reported, taken, returned, Entry.num]

/-- The thread goes on. -/
theorem past_run (o : Option UInt8) : past (tr ++ [⟨u, .run, o, u'⟩]) =
    { past tr with
      taken := taken tr + if u.thread = .read then 1 else 0
      returned := returned tr ++ o.toList } := by
  cases o <;> by_cases hthread : u.thread = .read <;>
    simp [past, received, reported, taken, returned, Entry.num, hthread]

/-- **Every step** keeps the invariant as long as the buffer has room. -/
theorem UartInv.step {i : UartStep} {o : Option UInt8} (h : UartInv (past tr) u)
    (hroom : Room (tr ++ [⟨u, i, o, u'⟩])) (hstep : u.step i = some (u', o)) :
    UartInv (past (tr ++ [⟨u, i, o, u'⟩])) u' := by
  cases i with
  | receive byte =>
    simp only [Uart.step] at hstep
    split at hstep
    · cases hstep
    · rename_i r hr
      split_ifs at hstep with hlt
      obtain ⟨rfl, rfl⟩ := Prod.mk.inj (Option.some.inj hstep)
      have hlen := hroom _ (List.prefix_refl _)
      simp only [received_snoc, taken_snoc, List.length_append] at hlen
      rw [past_receive]
      exact h.receive hr hlt hlen
  | callback =>
    simp only [Uart.step] at hstep
    split at hstep
    · cases hstep
    · rename_i r hr
      split_ifs at hstep
      obtain ⟨rfl, rfl⟩ := Prod.mk.inj (Option.some.inj hstep)
      rw [past_callback hr]
      exact h.callback hr
  | call =>
    simp only [Uart.step] at hstep
    split_ifs at hstep with hidle
    obtain ⟨rfl, rfl⟩ := Prod.mk.inj (Option.some.inj hstep)
    rw [past_call]
    exact h.call hidle
  | run =>
    have hlen := hroom _ (List.prefix_append tr _)
    rw [past_run]
    simp only [Uart.step, Uart.run] at hstep
    split at hstep
    · cases hstep
    · rename_i hthread
      obtain ⟨rfl, rfl⟩ := Prod.mk.inj (Option.some.inj hstep)
      rw [if_neg (by rw [hthread]; decide), Option.toList_none, List.append_nil]
      exact h.count hthread hlen
    · rename_i hthread
      obtain ⟨rfl, rfl⟩ := Prod.mk.inj (Option.some.inj hstep)
      rw [if_pos hthread, Option.toList_none, List.append_nil]
      exact h.read hthread
    · rename_i ch hthread
      obtain ⟨rfl, rfl⟩ := Prod.mk.inj (Option.some.inj hstep)
      rw [if_neg (by rw [hthread]; exact nofun)]
      exact h.advance hthread
    · rename_i hthread
      split_ifs at hstep
      obtain ⟨rfl, rfl⟩ := Prod.mk.inj (Option.some.inj hstep)
      rw [if_neg (by rw [hthread]; decide), Option.toList_none, List.append_nil]
      have hok := h.thread
      rw [hthread] at hok
      exact h.setThread (h.armed_of_thread (by rw [hthread]; exact nofun)) hok.1

theorem uartInv_run {buf : Nat → UInt8} (hrun : Exec uartMachine (Uart.boot buf) tr u) (hroom : Room tr) :
    UartInv (past tr) u := by
  induction hrun with
  | nil => exact uartInv_boot buf
  | snoc _ hstep ih => exact (ih hroom.init).step hroom hstep

/-- **What a run shows**: the bytes are returned in order, each once; a reception is inside the buffer and not
empty; and when a byte that was reported is unread, the thread goes on. -/
structure UartLaw (tr : List (Entry Uart UartStep (Option UInt8))) (u : Uart) : Prop where
  inOrder : returned tr <+: received tr
  counted : (returned tr).length ≤ taken tr ∧ taken tr ≤ reported tr ∧ reported tr ≤ (received tr).length
  inside : ∀ r, u.reception = some r → r.pData + r.Size ≤ UART_BUFFER_SIZE ∧ 0 < r.Size
  awake : u.thread = .wait → u.uart_rx_event = false → reported tr = taken tr
  goesOn : u.thread ≠ .idle → taken tr < reported tr → (u.step .run).isSome

/-- **`stdin_getchar` returns what comes in**, in every run that leaves no more bytes unread than the buffer
has. -/
theorem uart_run {buf : Nat → UInt8} (hrun : Exec uartMachine (Uart.boot buf) tr u) (hroom : Room tr) :
    UartLaw tr u := by
  have h := uartInv_run hrun hroom
  have hawake : u.thread = .wait → u.uart_rx_event = false → reported tr = taken tr := by
    intro hthread
    have hok := h.thread
    rw [hthread] at hok
    exact hok.2
  have hreturned : (returned tr).length ≤ taken tr := by
    have hok := h.thread
    cases hthread : u.thread with
    | idle | count =>
      rw [hthread] at hok
      exact Nat.le_of_eq hok.symm
    | read | wait =>
      rw [hthread] at hok
      exact Nat.le_of_eq hok.1.symm
    | advance ch =>
      rw [hthread] at hok
      exact (Nat.le_succ _).trans (Nat.le_of_eq hok.1.symm)
  refine ⟨h.inOrder, ⟨hreturned, h.taken_le, h.reported_le⟩, ?_, hawake, ?_⟩
  · intro r hr
    have hok := h.armed r hr
    have hlt : reported tr % UART_BUFFER_SIZE < UART_BUFFER_SIZE := Nat.mod_lt _ (by decide)
    rw [hok.pData, hok.Size]
    exact ⟨Nat.le_of_eq (Nat.add_sub_cancel' hlt.le), Nat.sub_pos_of_lt hlt⟩
  · intro hthread hlt
    simp only [Uart.step, Uart.run]
    split
    · contradiction
    · rfl
    · rfl
    · rfl
    · rename_i hwait
      cases hevent : u.uart_rx_event with
      | true => rfl
      | false => exact absurd (hawake hwait hevent) (Nat.ne_of_gt hlt)

/-- A run whose bytes all fit has room. -/
theorem room_of_length (h : (received tr).length ≤ UART_BUFFER_SIZE) : Room tr := by
  rintro tr₁ ⟨tr₂, rfl⟩
  rw [received, List.filterMap_append, List.length_append] at h
  exact (Nat.le_of_add_right_le h).trans (Nat.le_add_left _ _)

/-- A call that waits for two bytes, and returns the first. -/
def twoBytes : List UartStep :=
  [.call, .run, .receive 0x61, .receive 0x62, .callback, .run, .run, .run, .run]

theorem uart_run_two : ∃ tr u, Exec uartMachine (Uart.boot fun _ => 0) tr u ∧ returned tr = [0x61] ∧
    UartLaw tr u := by
  have hrun : (uartMachine.exec? (Uart.boot fun _ => 0) twoBytes).map
      (fun r => (returned r.1, received r.1)) = some ([0x61], [0x61, 0x62]) := by decide +kernel
  obtain ⟨⟨tr, u⟩, hexec, hbytes⟩ := Option.map_eq_some_iff.1 hrun
  obtain ⟨hreturned, hreceived⟩ := Prod.mk.inj hbytes
  have hroom : Room tr := room_of_length (by rw [hreceived]; decide)
  exact ⟨tr, u, exec?_exec hexec, hreturned, uart_run (exec?_exec hexec) hroom⟩

end Board
