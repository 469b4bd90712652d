import TrustZone.KvStore.Proof.StringGetters
import TrustZone.Cli.Proof.ConfSet

/-!
# Printing a text

`conf get` for strings and blobs. `pcCliScratchBuffer` gets the key, `="`, the value, and the end of the line
where it fits.

* `getConfig_text`: what is printed, from the buffer with the value in it.
* `valueText_string`, `valueText_blob`: what is in the buffer; a blob is not read.
* `conf_get_iff`: the line is right exactly for a string that leaves room for its end and a NUL.
-/

namespace Cli

open Lib KvStore

variable {al : Allocator} {keys : Keys} {st : Nat → Psa.Status} {cs : List CLI_Command_Definition_t}
  {sh sh' : Shell} {line junk key buf v : List UInt8} {ty : KVStoreValueType} {xKey : Nat} {L : Int}

/-! ## The work pointer -/

theorem Work.put_ok {s : List UInt8} {p : Nat} (h : p + s.length ≤ buf.length) :
    Work.put ⟨buf, p, L⟩ s = some ⟨blit buf p s, p + s.length, L⟩ := by
  induction s generalizing buf p with
  | nil => simp [Work.put]
  | cons c s ih =>
    rw [List.length_cons] at h
    have hfirst : (blit buf p [c]).length = buf.length := blit_length (by rw [List.length_singleton]; omega)
    have hblit : blit (blit buf p [c]) (p + 1) s = blit buf p (c :: s) := by
      have htake : (buf.take p ++ [c]).length = p + 1 := by
        rw [List.length_append, List.length_take, List.length_singleton]
        omega
      rw [blit, blit, ← htake, List.take_left, htake]
      rw [show blit buf p (c :: s) = buf.take p ++ [c] ++ s ++ buf.drop (p + (s.length + 1)) by simp [blit]]
      congr 1
      rw [List.drop_append, List.drop_of_length_le (by omega), List.nil_append, htake, List.length_singleton,
        List.drop_drop]
      congr 1
      omega
    rw [Work.put, if_pos (by simp only; omega)]
    simp only [Int.toNat_natCast]
    rw [← Int.natCast_succ, ih (by omega), hblit, List.length_cons]
    congr 2
    push_cast
    omega

theorem Work.put_below {c : UInt8} {s : List UInt8} {p : Int} (h : p < 0) :
    Work.put ⟨buf, p, L⟩ (c :: s) = none := by
  rw [Work.put, if_neg (by simp only; omega)]

theorem Work.count_small {buf : List UInt8} {p : Int} {l n : Nat} (h : l + n < 2 ^ 31) :
    Work.count ⟨buf, p, l⟩ n = ⟨buf, p, (l + n : Nat)⟩ := by
  have hmod : ((l : Int) + n).bmod (2 ^ 32) = (l + n : Nat) := by
    rw [← Int.natCast_add]
    exact Int.bmod_eq_of_le (by omega) (by omega)
  rw [Work.count, hmod]

/-! ## The end of the line -/

/-- The line that is printed when its end is put behind `p` bytes of the buffer. In the last three bytes the
NUL takes the place of LF. -/
def ended (buf : List UInt8) (p : Nat) : List UInt8 :=
  buf.take p ++ if p < CLI_OUTPUT_SCRATCH_BUF_LEN - 3 then ascii "\"" ++ CRLF else ascii "\"" ++ [CR]

/-- Where the end of the line is put. -/
def endAt (n : Nat) : Nat := min n (CLI_OUTPUT_SCRATCH_BUF_LEN - 3)

theorem endAt_fits {n : Nat} (hbuf : buf.length = CLI_OUTPUT_SCRATCH_BUF_LEN) :
    endAt n + (ascii "\"" ++ CRLF).length ≤ buf.length := by
  have hend : (ascii "\"" ++ CRLF).length = 3 := rfl
  rw [hbuf, hend, endAt, CLI_OUTPUT_SCRATCH_BUF_LEN]
  omega

theorem endText_ok {n : Nat} (hbuf : buf.length = CLI_OUTPUT_SCRATCH_BUF_LEN) (hmax : n + 3 < 2 ^ 31) :
    endText ⟨buf, n, n⟩ =
      some ⟨blit buf (endAt n) (ascii "\"" ++ CRLF), (endAt n + 3 : Nat), (endAt n + 3 : Nat)⟩ := by
  have hfit := endAt_fits (n := n) hbuf
  have hat : (if (CLI_OUTPUT_SCRATCH_BUF_LEN : Int) < n + 3 then
      (⟨buf, CLI_OUTPUT_SCRATCH_BUF_LEN - 3, CLI_OUTPUT_SCRATCH_BUF_LEN - 3⟩ : Work) else ⟨buf, n, n⟩) =
      ⟨buf, endAt n, endAt n⟩ := by
    have hsize : CLI_OUTPUT_SCRATCH_BUF_LEN = 512 := rfl
    rcases Nat.lt_or_ge 512 (n + 3) with hlong | hshort
    · have hat : endAt n = 509 := Nat.min_eq_right (by omega)
      rw [hat, if_pos (by omega)]
      rfl
    · have hat : endAt n = n := Nat.min_eq_left (by omega)
      rw [hat, if_neg (by omega)]
  rw [endText, if_pos (by simp only; omega)]
  simp only [hat, Work.put_ok hfit]
  rw [Work.count_small (by simp only [endAt, CLI_OUTPUT_SCRATCH_BUF_LEN]; omega)]
  rfl

theorem endText_none (h : L < 0 ∨ 2 ^ 31 ≤ L + 3) : endText ⟨buf, L, L⟩ = none := by
  rw [endText]
  split_ifs with hmax hlong
  · simp only [CLI_OUTPUT_SCRATCH_BUF_LEN] at hlong
    simp only at hmax
    omega
  · have hbelow : Work.put ⟨buf, L, L⟩ (ascii "\"" ++ CRLF) = none :=
      Work.put_below (by simp only at hmax; omega)
    simp only [hbelow]
  · rfl

/-- The NUL behind the line. -/
theorem ended_nul {p : Nat} (hbuf : buf.length = CLI_OUTPUT_SCRATCH_BUF_LEN)
    (hp : p ≤ CLI_OUTPUT_SCRATCH_BUF_LEN - 3) : ∃ rest,
    blit (blit buf p (ascii "\"" ++ CRLF)) (min (p + 3) (CLI_OUTPUT_SCRATCH_BUF_LEN - 1)) [0] =
      ended buf p ++ 0 :: rest := by
  have htake : (buf.take p).length = p := by rw [List.length_take]; omega
  simp only [CLI_OUTPUT_SCRATCH_BUF_LEN] at hbuf hp ⊢
  unfold ended
  rcases Nat.lt_or_ge p (CLI_OUTPUT_SCRATCH_BUF_LEN - 3) with hlt | hge
  · have hline : (buf.take p ++ (ascii "\"" ++ CRLF)).length = p + 3 := by
      rw [List.length_append, htake]
      rfl
    rw [if_pos hlt]
    simp only [CLI_OUTPUT_SCRATCH_BUF_LEN] at hlt
    have hblit : blit buf p (ascii "\"" ++ CRLF) =
        buf.take p ++ (ascii "\"" ++ CRLF) ++ buf.drop (p + (ascii "\"" ++ CRLF).length) := rfl
    rw [Nat.min_eq_left (by omega), hblit, blit_append_right (Nat.le_of_eq hline), hline, Nat.sub_self, blit_zero]
    exact ⟨_, rfl⟩
  · have hline : (buf.take p ++ (ascii "\"" ++ [CR])).length = p + 2 := by
      rw [List.length_append, htake]
      rfl
    have hsplit : blit buf p (ascii "\"" ++ CRLF) =
        buf.take p ++ (ascii "\"" ++ [CR]) ++ LF :: buf.drop (p + (ascii "\"" ++ CRLF).length) := by
      simp [blit, CRLF]
    rw [if_neg (by omega)]
    simp only [CLI_OUTPUT_SCRATCH_BUF_LEN] at hge
    rw [Nat.min_eq_right (by omega), hsplit, blit_append_right (by omega), hline]
    exact ⟨_, by rw [show 512 - 1 - (p + 2) = 0 by omega, blit_zero]; rfl⟩

/-! ## The command -/

theorem getValue_text (hty : kvStoreGetType keys.cfg xKey = ty) (htext : ty = kvTypeString ∨ ty = kvTypeBlob) :
    getValue keys sh xKey key = getText keys sh xKey key := by
  have hnumber : ∀ ty', ty' ≠ kvTypeString → ty' ≠ kvTypeBlob → ty ≠ ty' := by
    intro ty' hstring hblob h
    rcases htext with rfl | rfl
    · exact hstring h.symm
    · exact hblob h.symm
  simp only [getValue, hty]
  rw [if_neg (hnumber _ (by decide) (by decide)), if_neg (hnumber _ (by decide) (by decide)),
    if_neg (hnumber _ (by decide) (by decide)), if_neg (hnumber _ (by decide) (by decide)), if_pos htext]

/-- A string or a blob is printed as `ended` says. -/
theorem getConfig_text {w : Work} {n : Nat}
    (hty : kvStoreGetType keys.cfg (kvStringToKey keys key) = ty) (htext : ty = kvTypeString ∨ ty = kvTypeBlob)
    (hstart : startText sh.pcCliScratchBuffer key = some w)
    (hvalue : valueText keys.cfg sh.kv (kvStringToKey keys key) w = some ⟨buf, n, n⟩)
    (hbuf : buf.length = CLI_OUTPUT_SCRATCH_BUF_LEN) (hmax : n + 3 < 2 ^ 31) :
    ∃ sh', vSubCommand_GetConfig keys sh key = some sh' ∧
      sh'.con.out = sh.con.out ++ cstr (ended buf (endAt n)) ∧ 0 ∈ sh'.pcCliScratchBuffer ∧
      sh'.kv = sh.kv ∧ sh'.pcCliScratchBuffer.length = CLI_OUTPUT_SCRATCH_BUF_LEN := by
  have hle : endAt n ≤ CLI_OUTPUT_SCRATCH_BUF_LEN - 3 := Nat.min_le_right _ _
  obtain ⟨rest, hrest⟩ := ended_nul hbuf hle
  have hend : (blit buf (endAt n) (ascii "\"" ++ CRLF)).length = CLI_OUTPUT_SCRATCH_BUF_LEN := by
    rw [blit_length (endAt_fits hbuf), hbuf]
  have hget : getValue keys sh (kvStringToKey keys key) key =
      some ({ sh with pcCliScratchBuffer := blit buf (endAt n) (ascii "\"" ++ CRLF) },
        ((endAt n + 3 : Nat) : Int)) := by
    rw [getValue_text hty htext, getText, hstart, Option.bind_some, hvalue, Option.bind_some,
      endText_ok hbuf hmax, Option.map_some]
  have hnul : (if ((endAt n + 3 : Nat) : Int) < CLI_OUTPUT_SCRATCH_BUF_LEN then ((endAt n + 3 : Nat) : Int)
      else CLI_OUTPUT_SCRATCH_BUF_LEN - 1) =
      (min (endAt n + 3) (CLI_OUTPUT_SCRATCH_BUF_LEN - 1) : Nat) := by
    simp only [CLI_OUTPUT_SCRATCH_BUF_LEN] at hle ⊢
    split_ifs with hlt
    · omega
    · omega
  have hput : min (endAt n + 3) (CLI_OUTPUT_SCRATCH_BUF_LEN - 1) + ([0] : List UInt8).length ≤
      (blit buf (endAt n) (ascii "\"" ++ CRLF)).length := by
    rw [hend, List.length_singleton]
    simp only [CLI_OUTPUT_SCRATCH_BUF_LEN]
    omega
  have hpos : (0 : Int) < (endAt n + 3 : Nat) := by omega
  have hsame := blit_length hput
  rw [hrest, hend] at hsame
  simp only [vSubCommand_GetConfig, hget, hnul, Work.put_ok hput, if_pos hpos, hrest]
  refine ⟨_, rfl, ?_, ?_, rfl, hsame⟩
  · simp only [Shell.print, io_print, cstr_append_nul]
  · exact List.mem_append_right _ List.mem_cons_self

theorem getConfig_none {w : Work} (hty : kvStoreGetType keys.cfg (kvStringToKey keys key) = ty)
    (htext : ty = kvTypeString ∨ ty = kvTypeBlob)
    (hstart : startText sh.pcCliScratchBuffer key = some w)
    (hvalue : valueText keys.cfg sh.kv (kvStringToKey keys key) w = some ⟨buf, L, L⟩)
    (h : L < 0 ∨ 2 ^ 31 ≤ L + 3) : vSubCommand_GetConfig keys sh key = none := by
  have hget : getValue keys sh (kvStringToKey keys key) key = none := by
    rw [getValue_text hty htext, getText, hstart, Option.bind_some, hvalue, Option.bind_some, endText_none h,
      Option.map_none]
  simp only [vSubCommand_GetConfig, hget]

/-! ## The value -/

/-- The start of the line. -/
def textStart (key : List UInt8) : List UInt8 := key ++ ascii "=\""

theorem textStart_length (key : List UInt8) : (textStart key).length = key.length + 2 := List.length_append

theorem startText_ok (hsize : sh.pcCliScratchBuffer.length = CLI_OUTPUT_SCRATCH_BUF_LEN) (hkey : 0 ∉ key)
    (hlen : key.length < CLI_INPUT_LINE_LEN_MAX) : ∃ tail,
    startText sh.pcCliScratchBuffer key =
      some ⟨textStart key ++ tail, (textStart key).length, (textStart key).length⟩ ∧
    (textStart key).length + tail.length = CLI_OUTPUT_SCRATCH_BUF_LEN := by
  have hmax : CLI_OUTPUT_SCRATCH_BUF_LEN = 512 := rfl
  have hline : CLI_INPUT_LINE_LEN_MAX = 128 := rfl
  have hcopy : blit sh.pcCliScratchBuffer 0 (strncpy key CLI_OUTPUT_SCRATCH_BUF_LEN) =
      key ++ List.replicate (CLI_OUTPUT_SCRATCH_BUF_LEN - key.length) 0 := by
    have hall : key.take CLI_OUTPUT_SCRATCH_BUF_LEN = key := List.take_of_length_le (by omega)
    rw [strncpy, hall, cstr_of_notMem hkey, blit_zero, List.drop_of_length_le, List.append_nil]
    simp only [List.length_append, List.length_replicate]
    omega
  have hput : Work.put ⟨key ++ List.replicate (CLI_OUTPUT_SCRATCH_BUF_LEN - key.length) 0, key.length,
      key.length⟩ (ascii "=\"") =
      some ⟨textStart key ++ (List.replicate (CLI_OUTPUT_SCRATCH_BUF_LEN - key.length) 0).drop 2,
        (textStart key).length, key.length⟩ := by
    have htwo : (ascii "=\"").length = 2 := rfl
    rw [Work.put_ok, blit_append_right (Nat.le_refl _), Nat.sub_self, blit_zero, ← List.append_assoc, htwo,
      textStart_length]
    · rfl
    · simp only [List.length_append, List.length_replicate, htwo]
      omega
  refine ⟨(List.replicate (CLI_OUTPUT_SCRATCH_BUF_LEN - key.length) 0).drop 2, ?_, ?_⟩
  · have hmin : min key.length CLI_OUTPUT_SCRATCH_BUF_LEN = key.length := Nat.min_eq_left (by omega)
    unfold startText
    rw [cstr_of_notMem hkey, hmin, hcopy]
    simp only
    rw [if_pos (by omega), hput]
    simp only [Option.some.injEq]
    rw [Work.count_small (by omega), textStart_length]
  · rw [textStart_length, List.length_drop, List.length_replicate]
    omega

theorem valueText_ok {start tail value : List UInt8} {n : Nat}
    (hget : kvStoreGetString keys.cfg sh.kv xKey (some tail) = some (n, some value))
    (hvalue : value.length = tail.length) (hm : start.length + tail.length = CLI_OUTPUT_SCRATCH_BUF_LEN)
    (hpos : 0 < tail.length) :
    valueText keys.cfg sh.kv xKey ⟨start ++ tail, start.length, start.length⟩ =
      some ⟨start ++ value, ((start.length : Int) + n).bmod (2 ^ 32),
        ((start.length : Int) + n).bmod (2 ^ 32)⟩ := by
  have hrest : ((start ++ tail).drop start.length).take (CLI_OUTPUT_SCRATCH_BUF_LEN - start.length) = tail := by
    rw [List.drop_left]
    exact List.take_of_length_le (by omega)
  have hblit : blit (start ++ tail) start.length value = start ++ value := by
    rw [blit_append_right (Nat.le_refl _), Nat.sub_self, blit_zero, hvalue, List.drop_length, List.append_nil]
  unfold valueText
  simp only [Int.toNat_natCast, hrest, hget]
  rw [if_pos (by omega), hblit, Work.count]

/-- The buffer takes a string as far as it fits. -/
theorem valueText_string {start tail : List UInt8} {ty' : KVStoreValueType} (hs : MemOk sh.kv)
    (hx : sh.kv.xKvMutex = true) (hty : KvStore.Matches keys.cfg xKey kvTypeString)
    (hcur : sh.kv.current xKey = some (ty', v ++ [0]))
    (hm : start.length + tail.length = CLI_OUTPUT_SCRATCH_BUF_LEN) (hpos : 0 < tail.length) :
    valueText keys.cfg sh.kv xKey ⟨start ++ tail, start.length, start.length⟩ =
      some ⟨start ++ terminated tail (v ++ [0]), ((start.length : Int) + v.length).bmod (2 ^ 32),
        ((start.length : Int) + v.length).bmod (2 ^ 32)⟩ := by
  have hget := kvStoreGetString_of (kvStoreGet_set hs hty hx hcur tail) (List.length_pos_iff.1 hpos)
  rw [List.length_append, List.length_singleton, Nat.add_sub_cancel] at hget
  refine valueText_ok hget ?_ hm hpos
  rw [terminated, blit_length (by rw [filled_length, List.length_singleton]; omega), filled_length]

/-- A blob is not read. -/
theorem valueText_blob (sh : Shell) {start tail : List UInt8} (hty : kvStoreGetType keys.cfg xKey = kvTypeBlob)
    (hm : start.length + tail.length = CLI_OUTPUT_SCRATCH_BUF_LEN) (hpos : 0 < tail.length) :
    valueText keys.cfg sh.kv xKey ⟨start ++ tail, start.length, start.length⟩ =
      some ⟨start ++ tail, start.length, start.length⟩ := by
  have hrefused : ¬KvStore.Matches keys.cfg xKey kvTypeString := by
    rintro ⟨hk, hstring⟩
    rw [kvStoreGetType, if_pos hk, hstring] at hty
    exact absurd hty (by decide)
  rw [valueText_ok (kvStoreGetString_refused hrefused) rfl hm hpos]
  have hsmall : ((start.length : Int) + (0 : Nat)).bmod (2 ^ 32) = start.length := by
    simp only [CLI_OUTPUT_SCRATCH_BUF_LEN] at hm
    rw [Int.natCast_zero, Int.add_zero]
    exact Int.bmod_eq_of_le (by omega) (by omega)
  rw [hsmall]

/-! ## The law -/

/-- The line of a key with this value, cut where the buffer with its NUL ends. -/
def getLine (key v : List UInt8) : List UInt8 :=
  textStart key ++ v.take (CLI_OUTPUT_SCRATCH_BUF_LEN - 1 - (key.length + 5)) ++ (ascii "\"" ++ CRLF)

/-- The line is printed, from a text in the buffer that ends in a NUL, and nothing is written outside. -/
def GetLaw (sh : Shell) (key v : List UInt8) (res : Option Shell) : Prop :=
  ∃ sh', res = some sh' ∧ sh'.con.out = sh.con.out ++ getLine key v ∧ 0 ∈ sh'.pcCliScratchBuffer

/-- The key holds the string `v`, which is stored with its NUL, or the blob `v`. -/
structure HoldsText (s : KvStore.State) (xKey : Nat) (ty : KVStoreValueType) (v : List UInt8) : Prop where
  current : ∃ ty', s.current xKey = some (ty', if ty = kvTypeString then v ++ [0] else v)
  noNul : ty = kvTypeString → 0 ∉ v

/-- The end of the line and a NUL fit behind the value. -/
def LineFits (key v : List UInt8) : Prop := key.length + v.length + 5 < CLI_OUTPUT_SCRATCH_BUF_LEN

instance (key v : List UInt8) : Decidable (LineFits key v) := inferInstanceAs (Decidable (_ < _))

theorem getLine_length (key v : List UInt8) : (getLine key v).length =
    key.length + 2 + min (CLI_OUTPUT_SCRATCH_BUF_LEN - 1 - (key.length + 5)) v.length + 3 := by
  rw [getLine, List.length_append, List.length_append, textStart_length, List.length_take]
  rfl

theorem cstr_length_le (b : List UInt8) : (cstr b).length ≤ b.length := (cstr_start b).length_le

theorem ended_length_le (buf : List UInt8) (p : Nat) : (ended buf p).length ≤ p + 3 := by
  have hend : (ascii "\"" ++ CRLF).length = 3 := rfl
  have hcut : (ascii "\"" ++ [CR]).length = 2 := rfl
  unfold ended
  split_ifs
  · rw [List.length_append, List.length_take, hend]
    omega
  · rw [List.length_append, List.length_take, hcut]
    omega

/-- A line that ends in the last bytes of the buffer has no LF. -/
theorem ended_last (hlong : ¬LineFits key v) (hlen : key.length < CLI_INPUT_LINE_LEN_MAX) :
    cstr (ended buf (CLI_OUTPUT_SCRATCH_BUF_LEN - 3)) ≠ getLine key v := by
  intro h
  have hwhole : (ended buf (CLI_OUTPUT_SCRATCH_BUF_LEN - 3)).length ≤ (getLine key v).length := by
    have hle : (ended buf (CLI_OUTPUT_SCRATCH_BUF_LEN - 3)).length ≤ CLI_OUTPUT_SCRATCH_BUF_LEN - 3 + 2 := by
      rw [ended, if_neg (Nat.lt_irrefl _), List.length_append, List.length_take]
      exact Nat.add_le_add_right (Nat.min_le_left _ _) 2
    rw [getLine_length]
    simp only [LineFits, CLI_OUTPUT_SCRATCH_BUF_LEN, CLI_INPUT_LINE_LEN_MAX] at hlong hlen hle ⊢
    omega
  have heq := (cstr_start (ended buf (CLI_OUTPUT_SCRATCH_BUF_LEN - 3))).eq_of_length_le (by rw [h]; exact hwhole)
  rw [h, ended, if_neg (Nat.lt_irrefl _)] at heq
  have hlast := congrArg List.getLast? heq
  simp [getLine, CRLF] at hlast
  exact absurd hlast (by decide)

/-- The whole line of a string that fits. -/
theorem ended_fits {rest : List UInt8} (hkey : 0 ∉ key) (hv : 0 ∉ v) (hfits : LineFits key v) :
    cstr (ended (textStart key ++ v ++ rest) (endAt (key.length + 2 + v.length))) = getLine key v := by
  have hlt : key.length + 2 + v.length < CLI_OUTPUT_SCRATCH_BUF_LEN - 3 := by
    simp only [LineFits, CLI_OUTPUT_SCRATCH_BUF_LEN] at hfits ⊢
    omega
  have hstart : (textStart key ++ v).length = key.length + 2 + v.length := by
    rw [List.length_append, textStart_length]
  have hall : v.take (CLI_OUTPUT_SCRATCH_BUF_LEN - 1 - (key.length + 5)) = v := List.take_of_length_le (by omega)
  rw [endAt, Nat.min_eq_left (Nat.le_of_lt hlt), ended, if_pos hlt, ← hstart, List.take_left, getLine, hall]
  refine cstr_of_notMem ?_
  simp only [textStart, List.mem_append, not_or]
  exact ⟨⟨⟨hkey, by decide⟩, hv⟩, by decide, by decide⟩

/-- What `lResponseLen` counts, in an `int32_t`. -/
theorem responseLen_cases {m n : Nat} (hm : m + 3 < 2 ^ 31) (hn : n < 2 ^ 32) :
    (((m : Int) + n).bmod (2 ^ 32) < 0 ∨ 2 ^ 31 ≤ ((m : Int) + n).bmod (2 ^ 32) + 3) ∨
      ∃ k : Nat, ((m : Int) + n).bmod (2 ^ 32) = k ∧ k + 3 < 2 ^ 31 ∧ (k = m + n ∨ k < m) := by
  rcases Nat.lt_or_ge (m + n) (2 ^ 31) with hlt | hge
  · have hL : ((m : Int) + n).bmod (2 ^ 32) = (m + n : Nat) := by
      rw [← Int.natCast_add]
      exact Int.bmod_eq_of_le (by omega) (by omega)
    rw [hL]
    rcases Nat.lt_or_ge (m + n + 3) (2 ^ 31) with hlt | hge
    · exact .inr ⟨m + n, rfl, hlt, .inl rfl⟩
    · exact .inl (.inr (by omega))
  · have hL : ((m : Int) + n).bmod (2 ^ 32) = m + n - 2 ^ 32 := by
      rw [← Int.sub_bmod_right]
      exact Int.bmod_eq_of_le (by omega) (by omega)
    rw [hL]
    rcases Nat.lt_or_ge (m + n) (2 ^ 32) with hlt | hge
    · exact .inl (.inl (by omega))
    · exact .inr ⟨m + n - 2 ^ 32, by omega, by omega, .inr (by omega)⟩

/-- **Printing a text**: after any run of the store the line is printed as it should be exactly for a string
whose line fits with its NUL. -/
theorem conf_get_iff {its : Psa.Its} (hits : ∀ k < keys.cfg.csNumKeys, NvOk its k) {tr : List Event}
    (hrun : Machine.Exec (kvStore al keys.cfg) (.boot its) tr sh.kv) (hx : sh.kv.xKvMutex = true)
    (hsize : sh.pcCliScratchBuffer.length = CLI_OUTPUT_SCRATCH_BUF_LEN)
    (hcs : ∀ c ∈ cs, Word c.pcCommand) (hline : 0 ∉ line) (hhead : line.head? ≠ some SPACE)
    {rest : List (List UInt8)} (hw : words SPACE line = ascii "conf" :: ascii "get" :: key :: rest)
    (hlen : key.length < CLI_INPUT_LINE_LEN_MAX)
    (hty : kvStoreGetType keys.cfg (kvStringToKey keys key) = ty) (htext : ty = kvTypeString ∨ ty = kvTypeBlob)
    (hv : HoldsText sh.kv (kvStringToKey keys key) ty v) (junk : List UInt8) :
    GetLaw sh key v (enterConf al keys st cs sh (line ++ 0 :: junk)) ↔
      ty = kvTypeString ∧ LineFits key v := by
  have hs := (Exec.storeOk_any hits hrun).mem
  have hkey : Word key := word_of_mem hline (by rw [hw]; simp)
  have hmax : CLI_OUTPUT_SCRATCH_BUF_LEN = 512 := rfl
  have hmaxline : CLI_INPUT_LINE_LEN_MAX = 128 := rfl
  obtain ⟨tail, hstart, htail⟩ := startText_ok hsize hkey.noNul hlen
  have hm := textStart_length key
  obtain ⟨ty', hcur⟩ := hv.current
  have hmatch : KvStore.Matches keys.cfg (kvStringToKey keys key) ty := by
    refine matches_of_getType hty ?_
    rcases htext with rfl | rfl
    · decide
    · decide
  have hbounds := hs.current_length hcur
  have hget : enterConf al keys st cs sh (line ++ 0 :: junk) = vSubCommand_GetConfig keys sh key := by
    obtain ⟨argv, hcall, hargv⟩ := conf_call hcs hline (matches_of_words hw hhead) junk
    have hmode : argv.string 1 = some (ascii "get") := by rw [hargv.string, hw]; rfl
    have harg : argv.string 2 = some key := by rw [hargv.string, hw]; rfl
    have hargc : 2 < (words SPACE line).length := by rw [hw]; simp
    simp only [enterConf, hcall, if_true, vCommand_Configure, if_pos (Nat.lt_of_succ_lt hargc), hmode,
      if_pos hargc, harg]
  rw [hget]
  rcases htext with rfl | rfl
  · rw [if_pos rfl] at hcur hbounds
    rw [List.length_append, List.length_singleton] at hbounds
    have hvalue := valueText_string hs hx hmatch hcur htail (by omega)
    have hbuf : (textStart key ++ terminated tail (v ++ [0])).length = CLI_OUTPUT_SCRATCH_BUF_LEN := by
      rw [List.length_append, terminated, blit_length, filled_length, htail]
      rw [filled_length, List.length_singleton]
      omega
    constructor
    · rintro ⟨sh₂, hrun₂, hout₂, -⟩
      refine ⟨rfl, ?_⟩
      by_contra hlong
      simp only [sizeMax] at hbounds
      rcases responseLen_cases (m := (textStart key).length) (n := v.length) (by omega) (by omega) with
        hL | ⟨n, hL, hmax, hn⟩
      · rw [getConfig_none hty (.inl rfl) hstart hvalue hL] at hrun₂
        cases hrun₂
      · rw [hL] at hvalue
        obtain ⟨sh', hrun, hout, -⟩ := getConfig_text hty (.inl rfl) hstart hvalue hbuf hmax
        obtain rfl := Option.some.inj (hrun.symm.trans hrun₂)
        have hline := List.append_cancel_left (hout.symm.trans hout₂)
        rcases hn with rfl | hn
        · have hat : endAt ((textStart key).length + v.length) = CLI_OUTPUT_SCRATCH_BUF_LEN - 3 := by
            simp only [LineFits] at hlong
            exact Nat.min_eq_right (by omega)
          rw [hat] at hline
          exact ended_last hlong hlen hline
        · -- `lResponseLen` has wrapped, and the line is short
          have hshort := (cstr_length_le _).trans
            (ended_length_le (textStart key ++ terminated tail (v ++ [0])) (endAt n))
          have hat : endAt n ≤ n := Nat.min_le_left _ _
          rw [hline, getLine_length] at hshort
          simp only [LineFits] at hlong
          omega
    · rintro ⟨-, hfits⟩
      simp only [LineFits] at hfits
      have hL : ((textStart key).length + v.length : Int).bmod (2 ^ 32) =
          ((textStart key).length + v.length : Nat) := by
        rw [← Int.natCast_add]
        exact Int.bmod_eq_of_le (by omega) (by omega)
      rw [hL] at hvalue
      obtain ⟨sh', hrun, hout, hnul, -⟩ := getConfig_text hty (.inl rfl) hstart hvalue hbuf (by omega)
      refine ⟨sh', hrun, ?_, hnul⟩
      have hroom : (v ++ [0]).length < tail.length := by
        rw [List.length_append, List.length_singleton]
        omega
      rw [hout, terminated_short hroom, List.append_assoc v, ← List.append_assoc, hm,
        ended_fits hkey.noNul (hv.noNul rfl) hfits]
  · rw [if_neg (by decide)] at hcur hbounds
    have hvalue := valueText_blob sh hty htail (by omega)
    obtain ⟨sh', hrun, hout, -⟩ := getConfig_text hty (.inr rfl) hstart hvalue
      (by rw [List.length_append, htail]) (by omega)
    -- the line has no value between its quotes
    refine iff_of_false (fun hget => ?_) fun h => absurd h.1 (by decide)
    obtain ⟨sh₂, hrun₂, hout₂, -⟩ := hget
    obtain rfl := Option.some.inj (hrun.symm.trans hrun₂)
    have hline := congrArg List.length (List.append_cancel_left (hout.symm.trans hout₂))
    have hshort := (cstr_length_le _).trans (ended_length_le (textStart key ++ tail) (endAt (textStart key).length))
    have hat : endAt (textStart key).length ≤ (textStart key).length := Nat.min_le_left _ _
    rw [hline, getLine_length] at hshort
    omega

/-- A console with nothing shown, over a store. -/
def shellOf (kv : KvStore.State) : Shell := ⟨⟨[], []⟩, List.replicate CLI_OUTPUT_SCRATCH_BUF_LEN 0, kv⟩

/-- The store after `KVStore_init` and one setter. -/
def setOnce (cfg : KvStore.Config) (c : KvStore.Call) : Option (KvStore.State × Ret) :=
  (KvStore.step .granting cfg (.boot fun _ => none) .init).bind fun p => KvStore.step .granting cfg p.1 c

theorem setOnce_exec {cfg : KvStore.Config} {c : KvStore.Call} {kv : KvStore.State} {r : Ret}
    (h : setOnce cfg c = some (kv, r)) :
    ∃ tr, Machine.Exec (kvStore .granting cfg) (.boot fun _ => none) tr kv := by
  obtain ⟨⟨kv₁, r₁⟩, hinit, hset⟩ := Option.bind_eq_some_iff.1 h
  have h0 : Machine.Exec (kvStore .granting cfg) (.boot fun _ => none) [] (.boot fun _ => none) := .nil
  have h1 : (kvStore .granting cfg).step (.boot fun _ => none) .init = some (kv₁, r₁) := hinit
  have h2 : (kvStore .granting cfg).step kv₁ c = some (kv, r) := hset
  exact ⟨_, (h0.snoc h1).snoc h2⟩

/-- The store that `setOnce` leaves. -/
def storeOf (cfg : KvStore.Config) (c : KvStore.Call) : KvStore.State :=
  ((setOnce cfg c).map Prod.fst).getD (.boot fun _ => none)

theorem storeOf_exec (cfg : KvStore.Config) (c : KvStore.Call) (h : (setOnce cfg c).isSome = true) :
    ∃ tr, Machine.Exec (kvStore .granting cfg) (.boot fun _ => none) tr (storeOf cfg c) := by
  obtain ⟨⟨kv, r⟩, hset⟩ := Option.isSome_iff_exists.1 h
  rw [storeOf, hset]
  exact setOnce_exec hset

/-- `KVStore_setString( CS_CORE_THING_NAME, .. )` -/
def setName (name : List UInt8) (noNul : 0 ∉ name) (fits : sizeofKVStoreHeader + (name.length + 1) < sizeMax) :
    KvStore.Call := .setString 0 (some ⟨name, noNul, fits⟩)

/-- A name that was set is printed. -/
theorem conf_get_name : ∃ tr kv,
    Machine.Exec (kvStore .granting kvStoreConfig.cfg) (.boot fun _ => none) tr kv ∧
    HoldsText kv 0 kvTypeString (ascii "sensor") ∧
    GetLaw (shellOf kv) (ascii "thing_name") (ascii "sensor")
      (enterConf .granting kvStoreConfig (fun _ => 0) [] (shellOf kv) (ascii "conf get thing_name" ++ 0 :: [])) := by
  obtain ⟨tr, hrun⟩ := storeOf_exec kvStoreConfig.cfg
    (setName (ascii "sensor") (by decide) (by decide)) (by decide +kernel)
  have hw : words SPACE (ascii "conf" ++ SPACE :: (ascii "get" ++ SPACE :: ascii "thing_name")) =
      [ascii "conf", ascii "get", ascii "thing_name"] := by
    rw [words_append (by decide) (by decide), words_append (by decide) (by decide),
      words_word (by decide) (by decide)]
  have hv : HoldsText (storeOf kvStoreConfig.cfg (setName (ascii "sensor") (by decide) (by decide))) 0
      kvTypeString (ascii "sensor") := ⟨⟨kvTypeString, by decide +kernel⟩, fun _ => by decide⟩
  refine ⟨_, _, hrun, hv, ?_⟩
  exact (conf_get_iff (fun k _ data hd => by cases hd) hrun (by decide +kernel) List.length_replicate (by simp)
    (by decide) (by decide) hw (by decide) rfl (.inl rfl) hv []).2 ⟨rfl, by decide⟩

theorem getLaw_missed {res : Option Shell} {out : List UInt8} (hout : res.map (·.con.out) = some out)
    (hne : out ≠ sh.con.out ++ getLine key v) : ¬GetLaw sh key v res := by
  rintro ⟨sh', rfl, hline, -⟩
  exact hne ((Option.some.inj hout).symm.trans hline)

/-- One blob key, `cert`. -/
def certKeys : Keys := ⟨blobTable, fun _ => ascii "cert"⟩

/-- A name of 497 characters. -/
def longName : List UInt8 := List.replicate 497 97

theorem longName_noNul : 0 ∉ longName := fun h => absurd (List.eq_of_mem_replicate h) (by decide)

/-- A blob is printed as if it were empty; a long name loses its LF. -/
theorem conf_get_missed :
    (∃ tr kv, Machine.Exec (kvStore .granting blobTable) (.boot fun _ => none) tr kv ∧
      HoldsText kv 0 kvTypeBlob [0x30, 0x82] ∧
      (enterConf .granting certKeys (fun _ => 0) [] (shellOf kv) (ascii "conf get cert" ++ 0 :: [])).map
        (·.con.out) = some (ascii "cert=\"\"\r\n") ∧
      ¬GetLaw (shellOf kv) (ascii "cert") [0x30, 0x82]
        (enterConf .granting certKeys (fun _ => 0) [] (shellOf kv) (ascii "conf get cert" ++ 0 :: []))) ∧
    ∃ tr kv, Machine.Exec (kvStore .granting kvStoreConfig.cfg) (.boot fun _ => none) tr kv ∧
      HoldsText kv 0 kvTypeString longName ∧
      (enterConf .granting kvStoreConfig (fun _ => 0) [] (shellOf kv)
        (ascii "conf get thing_name" ++ 0 :: [])).map (·.con.out) =
          some (textStart (ascii "thing_name") ++ longName ++ ascii "\"\r") ∧
      ¬GetLaw (shellOf kv) (ascii "thing_name") longName
        (enterConf .granting kvStoreConfig (fun _ => 0) [] (shellOf kv)
          (ascii "conf get thing_name" ++ 0 :: [])) := by
  refine ⟨?_, ?_⟩
  · obtain ⟨tr, hrun⟩ := storeOf_exec blobTable (.setBlob 0 (some ⟨[0x30, 0x82], by decide⟩))
      (by decide +kernel)
    have hout : (enterConf .granting certKeys (fun _ => 0) []
        (shellOf (storeOf blobTable (.setBlob 0 (some ⟨[0x30, 0x82], by decide⟩))))
        (ascii "conf get cert" ++ 0 :: [])).map (·.con.out) = some (ascii "cert=\"\"\r\n") := by
      decide +kernel
    exact ⟨tr, _, hrun, ⟨⟨kvTypeBlob, by decide +kernel⟩, nofun⟩, hout, getLaw_missed hout (by decide)⟩
  · obtain ⟨tr, hrun⟩ := storeOf_exec kvStoreConfig.cfg
      (setName longName longName_noNul (by decide +kernel)) (by decide +kernel)
    have hout : (enterConf .granting kvStoreConfig (fun _ => 0) []
        (shellOf (storeOf kvStoreConfig.cfg (setName longName longName_noNul (by decide +kernel))))
        (ascii "conf get thing_name" ++ 0 :: [])).map (·.con.out) =
          some (textStart (ascii "thing_name") ++ longName ++ ascii "\"\r") := by
      decide +kernel
    exact ⟨tr, _, hrun, ⟨⟨kvTypeString, by decide +kernel⟩, fun _ => longName_noNul⟩, hout,
      getLaw_missed hout (by decide +kernel)⟩

end Cli
