import TrustZone.Cli.ReadLine

/-!
# The line that is read

* `getchar_editing`: count, pointer and buffer stay those of one line (`Editing`).
* `readlineLoop_line`: so the buffer holds the line of `Cli.io_readline`, and no write is outside it.
* `editLine`: the editor that discards the line at Ctrl-C; `editLine_iff`: when it reads the same.
* `readline_law_iff`: `io_readline` reads what this editor reads if and only if no line is completed while
  something typed before a Ctrl-C is left (`Discarded`).
-/

namespace Cli.Driver

open Lib

variable {e : Editor} {line fresh : List UInt8} {c : UInt8} {kept : Nat}

/-! ## Count, pointer and buffer -/

/-- The editor holds the line, and the line fits. -/
structure Editing (e : Editor) (line : List UInt8) : Prop where
  cnt : e.cnt = line.length
  pointer : e.line = line.length
  size : e.pcInputBuffer.length = CLI_INPUT_LINE_LEN_MAX
  data : e.pcInputBuffer.take line.length = line
  room : line.length < CLI_INPUT_LINE_LEN_MAX

theorem store_eq {buf : List UInt8} {i : Nat} (h : i < buf.length) (c : UInt8) :
    store buf i c = some (blit buf i [c]) := by
  rw [store, if_pos ⟨Int.natCast_nonneg i, Int.ofNat_lt.2 h⟩, Int.toNat_natCast]

theorem Editing.append (he : Editing e line) (hline : line.length < CLI_INPUT_LINE_LEN_MAX - 1) (c : UInt8)
    (out : List UInt8) : Editing ⟨e.eol, e.cnt + 1, e.line + 1, blit e.pcInputBuffer line.length [c], out⟩
      (line ++ [c]) := by
  have hsize := he.size
  have hlen : (line ++ [c]).length = line.length + 1 := List.length_append
  refine ⟨?_, ?_, ?_, ?_, ?_⟩
  · show e.cnt + 1 = (line ++ [c]).length
    rw [hlen, he.cnt]
  · show e.line + 1 = ((line ++ [c]).length : Int)
    rw [hlen, he.pointer]
    omega
  · show (blit e.pcInputBuffer line.length [c]).length = CLI_INPUT_LINE_LEN_MAX
    rw [blit_length (by rw [List.length_singleton]; omega), hsize]
  · show (blit e.pcInputBuffer line.length [c]).take (line ++ [c]).length = line ++ [c]
    rw [hlen, take_blit (by omega) (Nat.le_refl 1), he.data]
    rfl
  · rw [hlen]
    omega

theorem Editing.dropLast (he : Editing e line) (hne : line ≠ []) (out : List UInt8) :
    Editing ⟨e.eol, e.cnt - 1, e.line - 1, e.pcInputBuffer, out⟩ line.dropLast := by
  have hpos := List.length_pos_iff.2 hne
  have hroom := he.room
  have hlen : line.dropLast.length = line.length - 1 := List.length_dropLast
  refine ⟨?_, ?_, he.size, ?_, by omega⟩
  · show e.cnt - 1 = line.dropLast.length
    rw [hlen, he.cnt]
  · show e.line - 1 = (line.dropLast.length : Int)
    rw [hlen, he.pointer]
    omega
  · show e.pcInputBuffer.take line.dropLast.length = line.dropLast
    have htake := congrArg (List.take (line.length - 1)) he.data
    rw [List.take_take, Nat.min_eq_left (Nat.sub_le _ _)] at htake
    rw [hlen, htake, List.dropLast_eq_take]

/-- **One character** keeps them together. -/
theorem getchar_editing (he : Editing e line) (hline : line.length < CLI_INPUT_LINE_LEN_MAX - 1)
    (heol : e.eol = false) (c : UInt8) : ∃ e', e.getchar c = some e' ∧
      Editing e' (io_getchar line c).1 ∧ e'.eol = (io_getchar line c).2 := by
  have hcnt : e.cnt = 0 ↔ line = [] := by rw [he.cnt, List.length_eq_zero_iff]
  rw [Editor.getchar, io_getchar]
  by_cases hc : c = CNTLC
  · rw [if_pos hc, if_pos hc]
    exact ⟨_, rfl, ⟨he.cnt, he.pointer, he.size, he.data, he.room⟩, heol⟩
  · rw [if_neg hc, if_neg hc]
    by_cases hback : c = BACKSPACE ∨ c = DEL
    · rw [if_pos hback, if_pos hback]
      by_cases hnil : line = []
      · subst hnil
        rw [if_pos (hcnt.2 rfl)]
        exact ⟨e, rfl, he, heol⟩
      · rw [if_neg (mt hcnt.1 hnil)]
        exact ⟨_, rfl, he.dropLast hnil _, heol⟩
    · rw [if_neg hback, if_neg hback]
      by_cases hend : c = LF ∨ c = CR
      · rw [if_pos hend, if_pos hend]
        by_cases hnil : line = []
        · rw [if_pos (hcnt.2 hnil)]
          exact ⟨e, rfl, he, by simp [hnil, heol]⟩
        · rw [if_neg (mt hcnt.1 hnil)]
          exact ⟨_, rfl, ⟨he.cnt, he.pointer, he.size, he.data, he.room⟩, by simp [hnil]⟩
      · rw [if_neg hend, if_neg hend, he.pointer]
        have hlt : line.length < e.pcInputBuffer.length := by
          rw [he.size]
          omega
        rw [store_eq hlt]
        refine ⟨_, rfl, ?_, heol⟩
        rw [← he.pointer]
        exact he.append hline c _

/-! ## The loop -/

/-- What the call does when `Cli.io_readline` reads this. -/
def Reads (r : Option (List UInt8 × List UInt8)) (res : Option ReadLine) : Prop :=
  match r with
  | none => ∃ e, res = some (.waits e)
  | some (l, rest) => ∃ buf out, res = some (.returns l.length buf out rest) ∧
      buf.length = CLI_INPUT_LINE_LEN_MAX ∧ l ++ [0] <+: buf

/-- The NUL is stored behind the line. -/
theorem Editing.store_nul (he : Editing e line) : ∃ buf, store e.pcInputBuffer e.line 0 = some buf ∧
    buf.length = CLI_INPUT_LINE_LEN_MAX ∧ line ++ [0] <+: buf := by
  have hlt : line.length < e.pcInputBuffer.length := by
    rw [he.size]
    exact he.room
  refine ⟨blit e.pcInputBuffer line.length [0], ?_, ?_, ?_⟩
  · rw [he.pointer, store_eq hlt]
  · rw [blit_length (by rw [List.length_singleton]; omega), he.size]
  · have htake := @take_blit e.pcInputBuffer [0] line.length 1 (Nat.le_of_lt hlt) (Nat.le_refl 1)
    rw [he.data] at htake
    exact List.prefix_iff_eq_take.2 (by rw [List.length_append]; exact htake.symm)

/-- **The loop reads the line**, and writes in the buffer only. -/
theorem readlineLoop_line (he : Editing e line) (hline : line.length < CLI_INPUT_LINE_LEN_MAX - 1)
    (heol : e.eol = false) (cs : List UInt8) : Reads (Cli.io_readline line cs) (readlineLoop e cs) := by
  induction cs generalizing e line with
  | nil => exact ⟨e, rfl⟩
  | cons c cs ih =>
    obtain ⟨e', hget, he', heol'⟩ := getchar_editing he hline heol c
    rw [readlineLoop, Cli.io_readline]
    simp only [hget, heol', he'.cnt]
    by_cases hmore : (io_getchar line c).1.length < CLI_INPUT_LINE_LEN_MAX - 1 ∧
        (io_getchar line c).2 = false
    · rw [if_pos hmore, if_pos hmore]
      exact ih he' hmore.1 (heol'.trans hmore.2)
    · rw [if_neg hmore, if_neg hmore]
      obtain ⟨buf, hstore, hsize, hdata⟩ := he'.store_nul
      simp only [hstore]
      exact ⟨buf, e'.out, rfl, hsize, hdata⟩

/-- The call reads one thing only. -/
theorem Reads.unique {r r' : Option (List UInt8 × List UInt8)} {res : Option ReadLine} (h : Reads r res)
    (h' : Reads r' res) : r = r' := by
  cases r with
  | none =>
    obtain ⟨e, rfl⟩ := h
    cases r' with
    | none => rfl
    | some x =>
      obtain ⟨buf, out, heq, -⟩ := h'
      cases heq
  | some x =>
    obtain ⟨l, rest⟩ := x
    obtain ⟨buf, out, rfl, -, hl⟩ := h
    cases r' with
    | none =>
      obtain ⟨e, heq⟩ := h'
      cases heq
    | some x' =>
      obtain ⟨l', rest'⟩ := x'
      obtain ⟨buf', out', heq, -, hl'⟩ := h'
      obtain ⟨hlen, rfl, rfl, rfl⟩ := ReadLine.returns.inj (Option.some.inj heq)
      have hle : (l ++ [0]).length = (l' ++ [0]).length := by
        rw [List.length_append, List.length_append, hlen]
      have heq := (List.prefix_of_prefix_length_le hl hl' (Nat.le_of_eq hle)).eq_of_length hle
      rw [List.append_cancel_right heq]

/-! ## The editor that discards the line -/

/-- A line editor: Ctrl-C discards the line, BACKSPACE and DEL its last character, CR and LF complete it
unless it is empty, and every other byte is appended and completes the line when that is full. -/
def editLine (line : List UInt8) : List UInt8 → Option (List UInt8 × List UInt8)
  | [] => none
  | c :: cs =>
    if c = CNTLC then editLine [] cs
    else if c = BACKSPACE ∨ c = DEL then editLine line.dropLast cs
    else if c = LF ∨ c = CR then if line = [] then editLine [] cs else some (line, cs)
    else if line.length + 1 = CLI_INPUT_LINE_LEN_MAX - 1 then some (line ++ [c], cs)
    else editLine (line ++ [c]) cs

theorem editLine_rest {cs l rest : List UInt8} (h : editLine line cs = some (l, rest)) :
    rest.length < cs.length := by
  induction cs generalizing line with
  | nil => cases h
  | cons c cs ih =>
    rw [List.length_cons]
    rw [editLine] at h
    split_ifs at h
    all_goals first
      | exact Nat.lt_succ_of_lt (ih h)
      | cases h; exact Nat.lt_succ_self _

/-- Nothing typed before a Ctrl-C is left when a line is completed: `kept` such characters are in the line, and
`fresh` typed since. -/
def Discarded (kept fresh : Nat) : List UInt8 → Prop
  | [] => True
  | c :: cs =>
    if c = CNTLC then Discarded (kept + fresh) 0 cs
    else if c = BACKSPACE ∨ c = DEL then
      if fresh = 0 then Discarded (kept - 1) 0 cs else Discarded kept (fresh - 1) cs
    else if c = LF ∨ c = CR then if kept + fresh = 0 then Discarded 0 0 cs else kept = 0
    else if kept + fresh + 1 = CLI_INPUT_LINE_LEN_MAX - 1 then kept = 0
    else Discarded kept (fresh + 1) cs

theorem io_readline_goes {line' : List UInt8} (h : io_getchar line c = (line', false))
    (hlt : line'.length < CLI_INPUT_LINE_LEN_MAX - 1) (cs : List UInt8) :
    Cli.io_readline line (c :: cs) = Cli.io_readline line' cs := by
  rw [Cli.io_readline, h]
  exact if_pos ⟨hlt, rfl⟩

theorem io_readline_ends {line' : List UInt8} {eol : Bool} (h : io_getchar line c = (line', eol))
    (hend : ¬(line'.length < CLI_INPUT_LINE_LEN_MAX - 1 ∧ eol = false)) (cs : List UInt8) :
    Cli.io_readline line (c :: cs) = some (line', cs) := by
  rw [Cli.io_readline, h]
  exact if_neg hend

/-- An editor that goes on completes no line here. -/
theorem some_ne_editLine (l cs : List UInt8) (line : List UInt8) : some (l, cs) ≠ editLine line cs := by
  intro h
  exact Nat.lt_irrefl _ (editLine_rest h.symm)

/-- **Both editors read the same** if and only if nothing discarded is left in the line. -/
theorem editLine_iff (kept fresh cs : List UInt8)
    (hroom : (kept ++ fresh).length < CLI_INPUT_LINE_LEN_MAX - 1) :
    Cli.io_readline (kept ++ fresh) cs = editLine fresh cs ↔ Discarded kept.length fresh.length cs := by
  induction cs generalizing kept fresh with
  | nil => exact iff_of_true rfl trivial
  | cons c cs ih =>
    have hlen : (kept ++ fresh).length = kept.length + fresh.length := List.length_append
    have hnil : kept ++ fresh = [] ↔ kept.length + fresh.length = 0 := by
      rw [← hlen, List.length_eq_zero_iff]
    rw [editLine, Discarded]
    by_cases hc : c = CNTLC
    · rw [if_pos hc, if_pos hc, io_readline_goes (by rw [io_getchar, if_pos hc]) hroom]
      have h := ih (kept ++ fresh) [] (by rwa [List.append_nil])
      rwa [List.append_nil, hlen] at h
    · rw [if_neg hc, if_neg hc]
      by_cases hback : c = BACKSPACE ∨ c = DEL
      · have hlt : (kept ++ fresh).dropLast.length < CLI_INPUT_LINE_LEN_MAX - 1 := by
          rw [List.length_dropLast]
          omega
        rw [if_pos hback, if_pos hback,
          io_readline_goes (by rw [io_getchar, if_neg hc, if_pos hback]) hlt]
        by_cases hf : fresh = []
        · subst hf
          rw [List.append_nil] at hlt ⊢
          have h := ih kept.dropLast [] (by rwa [List.append_nil])
          rwa [List.append_nil, List.length_dropLast] at h
        · rw [List.dropLast_append_of_ne_nil hf] at hlt ⊢
          have h := ih kept fresh.dropLast hlt
          rw [List.length_dropLast] at h
          rw [if_neg (mt List.length_eq_zero_iff.1 hf)]
          exact h
      · rw [if_neg hback, if_neg hback]
        by_cases hend : c = LF ∨ c = CR
        · have hget : io_getchar (kept ++ fresh) c = (kept ++ fresh, decide (kept ++ fresh ≠ [])) := by
            rw [io_getchar, if_neg hc, if_neg hback, if_pos hend]
          rw [if_pos hend, if_pos hend]
          by_cases hempty : kept ++ fresh = []
          · -- an empty line is not completed
            obtain ⟨rfl, rfl⟩ := List.append_eq_nil_iff.1 hempty
            exact (io_readline_goes hget hroom cs ▸ ih [] [] hroom)
          · rw [if_neg (mt hnil.2 hempty), io_readline_ends hget (by simp [hempty])]
            by_cases hf : fresh = []
            · subst hf
              rw [List.append_nil] at hempty
              rw [if_pos rfl]
              exact iff_of_false (some_ne_editLine _ _ _) (mt List.length_eq_zero_iff.1 hempty)
            · rw [if_neg hf, Option.some_inj, Prod.mk.injEq, List.length_eq_zero_iff]
              simp
        · have hget : io_getchar (kept ++ fresh) c = (kept ++ (fresh ++ [c]), false) := by
            rw [io_getchar, if_neg hc, if_neg hback, if_neg hend, List.append_assoc]
          have hlen' : (kept ++ (fresh ++ [c])).length = kept.length + fresh.length + 1 := by
            rw [← List.append_assoc, List.length_append, hlen, List.length_singleton]
          rw [if_neg hend, if_neg hend]
          by_cases hfull : kept.length + fresh.length + 1 = CLI_INPUT_LINE_LEN_MAX - 1
          · rw [if_pos hfull, io_readline_ends hget (by omega)]
            by_cases hk : kept.length = 0
            · obtain rfl := List.length_eq_zero_iff.1 hk
              rw [if_pos (by omega), List.nil_append]
              exact iff_of_true rfl hk
            · rw [if_neg (by omega)]
              exact iff_of_false (some_ne_editLine _ _ _) hk
          · rw [if_neg hfull, if_neg (by omega), io_readline_goes hget (by omega)]
            have h := ih kept (fresh ++ [c]) (by omega)
            rwa [List.length_append, List.length_singleton] at h

/-! ## The law -/

/-- `io_readline` reads what the editor reads: the line in the buffer with a NUL behind it, its length as the
count, and no write outside the buffer. -/
def ReadLineLaw (pcInputBuffer cs : List UInt8) : Prop :=
  Reads (editLine [] cs) (io_readline pcInputBuffer cs)

theorem io_readline_reads {pcInputBuffer : List UInt8} (hsize : pcInputBuffer.length = CLI_INPUT_LINE_LEN_MAX)
    (cs : List UInt8) : Reads (Cli.io_readline [] cs) (io_readline pcInputBuffer cs) :=
  readlineLoop_line ⟨rfl, rfl, hsize, rfl, by decide⟩ (by decide) rfl cs

/-- **What `io_readline` reads** is what the editor reads, if and only if no line is completed while something
typed before a Ctrl-C is left in it. -/
theorem readline_law_iff {pcInputBuffer : List UInt8} (hsize : pcInputBuffer.length = CLI_INPUT_LINE_LEN_MAX)
    (cs : List UInt8) : ReadLineLaw pcInputBuffer cs ↔ Discarded 0 0 cs := by
  have hreads := io_readline_reads hsize cs
  have hiff := editLine_iff [] [] cs (by decide)
  rw [List.append_nil, List.length_nil] at hiff
  rw [← hiff]
  constructor
  · intro hlaw
    exact hreads.unique hlaw
  · intro heq
    rw [ReadLineLaw, ← heq]
    exact hreads

/-- The law for `help` typed with a mistake. -/
theorem readline_law_help :
    ReadLineLaw (List.replicate 128 0) (ascii "helq" ++ [DEL] ++ ascii "p\r") ↔
      Discarded 0 0 (ascii "helq" ++ [DEL] ++ ascii "p\r") :=
  readline_law_iff (List.length_replicate ..) _

/-- Ctrl-C shows a new prompt and leaves the line as it is. -/
theorem readline_missed :
    ¬ReadLineLaw (List.replicate 128 0) (ascii "pki" ++ [CNTLC] ++ ascii "help\r") := by
  intro hlaw
  have heq := (io_readline_reads (List.length_replicate ..) _).unique hlaw
  exact absurd heq (by decide)

end Cli.Driver
