import TrustZone.Cli.Proof.ConfList
import TrustZone.Provision.ReadConfig

/-!
# The listing and its reader

The target prints a string between quotes as it is, and the script takes the quotes out of the line, splits it at
`=`, and looks for the spelling of an error.

* `configLine_eq`: what is read from a line.
* `config_read_iff`: **the script** reads the values that are stored exactly when no string has one of these in it.
-/

namespace Provision

open Lib Cli KvStore

variable {line key body received : List UInt8} {lines : List (List UInt8)} {conf : Dict}

/-! ## The response -/

theorem readLines_line (h : LF ∉ line) (rest : List UInt8) :
    readLines (line ++ LF :: rest) = (line ++ [LF]) :: readLines rest := by
  induction line with
  | nil => simp [readLines]
  | cons c line ih =>
    have hc : c ≠ LF := fun hc => h (by simp [hc])
    have hrest : LF ∉ line := fun hmem => h (List.mem_cons_of_mem _ hmem)
    simp only [List.cons_append, readLines, ih hrest, if_neg hc]

/-- A line that ends in its only LF. -/
def EndsLine (line : List UInt8) : Prop := ∃ text, line = text ++ [LF] ∧ LF ∉ text

theorem readLines_prompt : readLines prompt = [prompt] := by decide

theorem readLines_lines (h : ∀ line ∈ lines, EndsLine line) :
    readLines (lines.flatten ++ prompt) = lines ++ [prompt] := by
  induction lines with
  | nil => exact readLines_prompt
  | cons line lines ih =>
    obtain ⟨text, rfl, htext⟩ := h line List.mem_cons_self
    rw [List.flatten_cons, List.append_assoc, List.append_assoc, List.singleton_append, readLines_line htext,
      ih fun line hline => h line (List.mem_cons_of_mem _ hline)]
    rfl

/-- The spelling of an error is in the line. -/
def IsError (line : List UInt8) : Prop := ∃ errStr ∈ errorBstr, errStr <:+: line

theorem EndsLine.ne_prompt (h : EndsLine line) : line ≠ prompt := by
  rintro rfl
  obtain ⟨text, htext, -⟩ := h
  have hmem : LF ∈ prompt := by rw [htext]; simp
  exact absurd hmem (by decide)

theorem readResponseLoop_ok {response resp : List (List UInt8)} {errorFlag : Bool}
    (h : ∀ line ∈ lines, EndsLine line) : readResponseLoop errorFlag response (lines ++ [prompt]) = .ok resp ↔
      errorFlag = false ∧ (∀ line ∈ lines, ¬IsError line) ∧ response ++ lines = resp := by
  induction lines generalizing response errorFlag with
  | nil => cases errorFlag <;> simp [readResponseLoop]
  | cons line lines ih =>
    have hne := (h line List.mem_cons_self).ne_prompt
    have hany : (errorBstr.any fun errStr => decide (errStr <:+: line)) = false ↔ ¬IsError line := by
      simp [IsError]
    rw [List.cons_append, readResponseLoop, if_neg hne, ih fun line hline => h line (List.mem_cons_of_mem _ hline),
      Bool.or_eq_false_iff, hany, List.forall_mem_cons, and_assoc, and_assoc, List.append_assoc]
    rfl

theorem readResponse_ok {resp : List (List UInt8)} (h : ∀ line ∈ lines, EndsLine line) :
    readResponse (lines.flatten ++ prompt) = .ok resp ↔ (∀ line ∈ lines, ¬IsError line) ∧ lines = resp := by
  rw [readResponse, readLines_lines h, readResponseLoop_ok h]
  simp

/-! ## A line -/

theorem removeCrlf_line (h : CR ∉ line) : removeCrlf (line ++ CRLF) = line := by
  induction line with
  | nil => rfl
  | cons c line ih =>
    have hc : c ≠ 0x0D := fun hc => h (by simp [hc, CR])
    have hrest : CR ∉ line := fun hmem => h (List.mem_cons_of_mem _ hmem)
    rw [List.cons_append, removeCrlf, ih hrest]
    rintro s rfl
    exact absurd rfl hc

/-- A text with the separator in it is split into two at least. -/
theorem splitOn_mem (h : EQUALS ∈ body) : ∃ first second rest, body.splitOn EQUALS = first :: second :: rest := by
  obtain ⟨pre, post, rfl⟩ := List.append_of_mem h
  rw [List.splitOn_append_cons_self]
  cases hpre : pre.splitOn EQUALS with
  | nil => exact absurd hpre (List.splitOn_ne_nil _ _)
  | cons first rest =>
    cases hpost : post.splitOn EQUALS with
    | nil => exact absurd hpost (List.splitOn_ne_nil _ _)
    | cons second rest' =>
      cases rest with
      | nil => exact ⟨first, second, rest', rfl⟩
      | cons second rest => exact ⟨first, second, _, rfl⟩

/-- What is read from a line. -/
theorem configLine_eq (hkey : CR ∉ key) (hequals : EQUALS ∉ key) (hquote : QUOTE ∉ key) (hbody : CR ∉ body) :
    configLine conf (key ++ ascii "=" ++ body ++ CRLF) =
      if EQUALS ∈ body then .error .valueError else .ok (conf.insert key (body.filter (· ≠ QUOTE))) := by
  have hcr : CR ∉ key ++ ascii "=" ++ body := by
    simp only [List.mem_append, not_or]
    exact ⟨⟨hkey, by decide⟩, hbody⟩
  have hfilter : (key ++ ascii "=" ++ body).filter (· ≠ QUOTE) = key ++ EQUALS :: body.filter (· ≠ QUOTE) := by
    have hwhole : key.filter (· ≠ QUOTE) = key := by
      apply List.filter_eq_self.2
      intro c hc
      exact decide_eq_true fun he => hquote (he ▸ hc)
    rw [List.filter_append, List.filter_append, hwhole, List.append_assoc]
    rfl
  have hmem : EQUALS ∈ body.filter (· ≠ QUOTE) ↔ EQUALS ∈ body := by
    rw [List.mem_filter, and_iff_left (by decide)]
  unfold configLine
  simp only [removeCrlf_line hcr, hfilter, List.mem_append, List.mem_cons, true_or, or_true, if_true,
    List.splitOn_append_cons_self_of_not_mem hequals]
  split_ifs with h
  · obtain ⟨first, second, rest, hsplit⟩ := splitOn_mem (hmem.2 h)
    rw [hsplit]
  · rw [List.splitOn_eq_singleton fun hin => h (hmem.1 hin)]

/-! ## The listing -/

section
variable {n : Nat} {name : Nat → List UInt8} {body : Nat → List UInt8}

/-- The line of a key. -/
def lineOf (name body : Nat → List UInt8) (i : Nat) : List UInt8 := name i ++ ascii "=" ++ body i ++ CRLF

/-- The names and the texts behind them: the names are different, and no quote or `=` is in them. -/
structure Lines (n : Nat) (name body : Nat → List UInt8) : Prop where
  distinct : ∀ i < n, ∀ j < n, name i = name j → i = j
  name : ∀ i < n, CR ∉ name i ∧ EQUALS ∉ name i ∧ QUOTE ∉ name i
  body : ∀ i < n, CR ∉ body i

theorem Lines.less (h : Lines (n + 1) name body) : Lines n name body :=
  ⟨fun i hi j hj => h.distinct i (Nat.lt_succ_of_lt hi) j (Nat.lt_succ_of_lt hj),
    fun i hi => h.name i (Nat.lt_succ_of_lt hi), fun i hi => h.body i (Nat.lt_succ_of_lt hi)⟩

/-- What is read from the lines: every text, without its quotes, and no `=` in one. -/
theorem configLines_ok (h : Lines n name body) :
    (∃ conf, ((List.range n).map (lineOf name body)).foldlM configLine ∅ = .ok conf ∧
      ∀ i < n, conf.lookup (name i) = some ((body i).filter (· ≠ QUOTE))) ∧ (∀ i < n, EQUALS ∉ body i) ∨
    (∃ e, ((List.range n).map (lineOf name body)).foldlM configLine ∅ = .error e) ∧ ¬∀ i < n, EQUALS ∉ body i := by
  induction n with
  | zero => exact .inl ⟨⟨∅, rfl, by simp⟩, by simp⟩
  | succ n ih =>
    obtain ⟨hcr, hequals, hquote⟩ := h.name n (Nat.lt_succ_self n)
    have hline : ∀ conf, configLine conf (lineOf name body n) = if EQUALS ∈ body n then .error .valueError
        else .ok (conf.insert (name n) ((body n).filter (· ≠ QUOTE))) := fun conf =>
      configLine_eq hcr hequals hquote (h.body n (Nat.lt_succ_self n))
    simp only [List.range_succ, List.map_append, List.map_singleton, List.foldlM_append]
    rcases ih h.less with ⟨⟨conf, hrun, hconf⟩, hfree⟩ | ⟨⟨e, hrun⟩, hsome⟩
    · simp only [hrun, bind, Except.bind, List.foldlM_cons, List.foldlM_nil, hline]
      by_cases hmem : EQUALS ∈ body n
      · rw [if_pos hmem]
        exact .inr ⟨⟨_, rfl⟩, fun hall => hall n (Nat.lt_succ_self n) hmem⟩
      · rw [if_neg hmem]
        refine .inl ⟨⟨_, rfl, ?_⟩, ?_⟩
        · intro i hi
          rcases Nat.lt_succ_iff_lt_or_eq.1 hi with hlt | rfl
          · rw [AList.lookup_insert_ne, hconf i hlt]
            intro heq
            exact absurd (h.distinct i hi n (Nat.lt_succ_self n) heq) (Nat.ne_of_lt hlt)
          · exact AList.lookup_insert _
        · intro i hi
          rcases Nat.lt_succ_iff_lt_or_eq.1 hi with hlt | rfl
          · exact hfree i hlt
          · exact hmem
    · rw [hrun]
      exact .inr ⟨⟨e, rfl⟩, fun hall => hsome fun i hi => hall i (Nat.lt_succ_of_lt hi)⟩

end

/-! ## Errors -/

/-- Across a character that is not in it, nothing is found. -/
theorem infix_append_cons {w a b : List UInt8} {c : UInt8} (hc : c ∉ w) :
    w <:+: a ++ c :: b ↔ w <:+: a ∨ w <:+: b := by
  constructor
  · rintro ⟨s, t, h⟩
    rcases List.append_eq_append_iff.1 h with ⟨x, rfl, -⟩ | ⟨x, hsw, hb⟩
    · exact .inl ⟨s, x, rfl⟩
    · cases x with
      | nil => exact .inl ⟨s, [], by simpa using hsw⟩
      | cons c' x =>
        obtain ⟨rfl, rfl⟩ := List.cons.inj hb
        rcases List.append_eq_append_iff.1 hsw with ⟨y, -, hw⟩ | ⟨y, -, hx⟩
        · exact absurd (hw ▸ by simp) hc
        · cases y with
          | nil =>
            rw [List.nil_append] at hx
            exact absurd (hx ▸ List.mem_cons_self) hc
          | cons c' y =>
            obtain ⟨-, rfl⟩ := List.cons.inj hx
            exact .inr ⟨y, t, by simp⟩
  · rintro (h | h)
    · exact h.trans (List.prefix_append _ _).isInfix
    · exact h.trans ((List.suffix_cons c b).trans (List.suffix_append a _)).isInfix

/-- No spelling has one of the characters that a line is put together with, or a digit, only. -/
theorem errorBstr_chars : ∀ errStr ∈ errorBstr, EQUALS ∉ errStr ∧ QUOTE ∉ errStr ∧ CR ∉ errStr ∧
    ¬errStr <:+: [LF] ∧ ¬errStr <:+: [] ∧ ∃ c ∈ errStr, ¬IsDigit c := by
  decide

theorem keyName_noError : ∀ i < kvStoreConfig.cfg.csNumKeys, ∀ errStr ∈ errorBstr, ¬errStr <:+: keyName i := by
  decide +kernel

theorem keyName_plain : ∀ i < kvStoreConfig.cfg.csNumKeys, CR ∉ keyName i ∧ EQUALS ∉ keyName i ∧ QUOTE ∉ keyName i ∧
    LF ∉ keyName i := by
  decide +kernel

theorem keyName_distinct : ∀ i < kvStoreConfig.cfg.csNumKeys, ∀ j < kvStoreConfig.cfg.csNumKeys,
    keyName i = keyName j → i = j := by
  decide +kernel

/-! ## The values -/

section
variable {kv : KvStore.State} {i : Nat}

/-- A value of the listing has printable characters only. -/
theorem listed_printable (hfit : TextsFit kv) : IsPrintable (listed kv i) ∧
    (keyType i ≠ kvTypeString → ∀ c ∈ listed kv i, IsDigit c) := by
  by_cases hty : keyType i = kvTypeString
  · exact ⟨hfit.printable i hty, fun hne => absurd hty hne⟩
  · have hdigit : ∀ c ∈ listed kv i, IsDigit c := by
      rw [listed, if_neg hty]
      split
      next v ok hget => exact fun c hc => decimalText_digit hc
      next => simp
    refine ⟨fun c hc => ?_, fun _ => hdigit⟩
    obtain ⟨hlow, hhigh⟩ := hdigit c hc
    exact ⟨UInt8.le_trans (by decide) hlow, UInt8.le_trans hhigh (by decide)⟩

theorem listed_noEnd (hfit : TextsFit kv) : CR ∉ listed kv i ∧ LF ∉ listed kv i := by
  constructor
  · exact fun h => absurd ((listed_printable hfit).1 _ h).1 (by decide)
  · exact fun h => absurd ((listed_printable hfit).1 _ h).1 (by decide)

theorem listedBody_noEnd (hfit : TextsFit kv) : CR ∉ listedBody kv i ∧ LF ∉ listedBody kv i := by
  obtain ⟨hcr, hlf⟩ := listed_noEnd (i := i) hfit
  unfold listedBody
  split
  · simp only [List.mem_append, not_or]
    exact ⟨⟨⟨by decide, hcr⟩, by decide⟩, ⟨by decide, hlf⟩, by decide⟩
  · exact ⟨hcr, hlf⟩

theorem equals_mem_body : EQUALS ∈ listedBody kv i ↔ EQUALS ∈ listed kv i := by
  have hquote : EQUALS ∉ ascii "\"" := by decide
  unfold listedBody
  split
  · simp [hquote]
  · rfl

theorem filter_body : (listedBody kv i).filter (· ≠ QUOTE) = (listed kv i).filter (· ≠ QUOTE) := by
  have hquote : (ascii "\"").filter (· ≠ QUOTE) = [] := by decide
  unfold listedBody
  split
  · rw [List.filter_append, List.filter_append, hquote, List.append_nil, List.nil_append]
  · rfl

theorem isError_line (hfit : TextsFit kv) (hi : i < kvStoreConfig.cfg.csNumKeys) :
    IsError (listedLine kv i) ↔ keyType i = kvTypeString ∧ IsError (listed kv i) := by
  have hline : ∀ errStr ∈ errorBstr, errStr <:+: listedLine kv i ↔ errStr <:+: listedBody kv i := by
    intro errStr hmem
    obtain ⟨hequals, -, hcr, hlf, -⟩ := errorBstr_chars errStr hmem
    have hsplit : listedLine kv i = keyName i ++ EQUALS :: (listedBody kv i ++ CR :: [LF]) := by
      simp [listedLine, CRLF]
      rfl
    rw [hsplit, infix_append_cons hequals, infix_append_cons hcr, or_iff_left hlf,
      or_iff_right (keyName_noError i hi errStr hmem)]
  have hbody : ∀ errStr ∈ errorBstr, errStr <:+: listedBody kv i ↔
      keyType i = kvTypeString ∧ errStr <:+: listed kv i := by
    intro errStr hmem
    obtain ⟨-, hquote, -, -, hnil, c, hc, hletter⟩ := errorBstr_chars errStr hmem
    by_cases hty : keyType i = kvTypeString
    · have hsplit : listedBody kv i = [] ++ QUOTE :: (listed kv i ++ QUOTE :: []) := by
        rw [listedBody, if_pos hty]
        rfl
      rw [hsplit, infix_append_cons hquote, infix_append_cons hquote, or_iff_left hnil, or_iff_right hnil,
        and_iff_right hty]
    · rw [listedBody, if_neg hty]
      refine iff_of_false (fun hin => ?_) fun h => hty h.1
      exact hletter ((listed_printable hfit).2 hty c (hin.subset hc))
  constructor
  · rintro ⟨errStr, hmem, hin⟩
    obtain ⟨hty, hin⟩ := (hbody errStr hmem).1 ((hline errStr hmem).1 hin)
    exact ⟨hty, errStr, hmem, hin⟩
  · rintro ⟨hty, errStr, hmem, hin⟩
    exact ⟨errStr, hmem, (hline errStr hmem).2 ((hbody errStr hmem).2 ⟨hty, hin⟩)⟩

/-- The script has read every value as it is stored. -/
def ReadLaw (kv : KvStore.State) (res : Except PyError Dict) : Prop :=
  ∃ conf, res = .ok conf ∧ ∀ i < kvStoreConfig.cfg.csNumKeys, conf.lookup (keyName i) = some (listed kv i)

/-- A string that is read as it is. -/
structure PlainText (v : List UInt8) : Prop where
  noEquals : EQUALS ∉ v
  noQuote : QUOTE ∉ v
  noError : ¬IsError v

/-- What the target sends back. -/
def response (kv : KvStore.State) : List UInt8 :=
  ((List.range kvStoreConfig.cfg.csNumKeys).map (listedLine kv)).flatten ++ prompt

/-- A numeral is plain. -/
theorem plain_number (hfit : TextsFit kv) (hty : keyType i ≠ kvTypeString) :
    EQUALS ∉ listed kv i ∧ QUOTE ∉ listed kv i := by
  constructor
  · exact fun h => absurd ((listed_printable hfit).2 hty _ h) (by decide)
  · exact fun h => absurd ((listed_printable hfit).2 hty _ h) (by decide)

theorem readLaw_iff (hfit : TextsFit kv) : ReadLaw kv (configReadFromTarget (response kv)) ↔
    ∀ i < kvStoreConfig.cfg.csNumKeys, keyType i = kvTypeString → PlainText (listed kv i) := by
  have hends : ∀ line ∈ (List.range kvStoreConfig.cfg.csNumKeys).map (listedLine kv), EndsLine line := by
    intro line hline
    obtain ⟨i, hi, rfl⟩ := List.mem_map.1 hline
    refine ⟨keyName i ++ ascii "=" ++ listedBody kv i ++ [CR], by simp [listedLine, CRLF]; rfl, ?_⟩
    simp only [List.mem_append, not_or]
    exact ⟨⟨⟨(keyName_plain i (List.mem_range.1 hi)).2.2.2, by decide⟩, (listedBody_noEnd hfit).2⟩, by decide⟩
  have hlines : Lines kvStoreConfig.cfg.csNumKeys keyName (listedBody kv) :=
    ⟨keyName_distinct, fun i hi => ⟨(keyName_plain i hi).1, (keyName_plain i hi).2.1, (keyName_plain i hi).2.2.1⟩,
      fun i _ => (listedBody_noEnd hfit).1⟩
  have herrors : (∀ line ∈ (List.range kvStoreConfig.cfg.csNumKeys).map (listedLine kv), ¬IsError line) ↔
      ∀ i < kvStoreConfig.cfg.csNumKeys, keyType i = kvTypeString → ¬IsError (listed kv i) := by
    rw [List.forall_mem_map]
    refine forall_congr' fun i => ?_
    rw [List.mem_range]
    refine forall_congr' fun hi => ?_
    rw [isError_line hfit hi, not_and]
  constructor
  · rintro ⟨conf, hread, hconf⟩ i hi hty
    unfold configReadFromTarget at hread
    cases hresp : readResponse (response kv) with
    | error e =>
      rw [hresp] at hread
      cases hread
    | ok resp =>
      obtain ⟨hnone, rfl⟩ := (readResponse_ok hends).1 hresp
      rw [hresp] at hread
      rcases configLines_ok hlines with ⟨⟨conf', hrun, hconf'⟩, hfree⟩ | ⟨⟨e, hrun⟩, -⟩
      · obtain rfl : conf' = conf := Except.ok.inj (hrun.symm.trans hread)
        refine ⟨fun hmem => hfree i hi (equals_mem_body.2 hmem), fun hmem => ?_, herrors.1 hnone i hi hty⟩
        have hfilter := (hconf' i hi).symm.trans (hconf i hi)
        rw [filter_body, Option.some_inj] at hfilter
        rw [← hfilter] at hmem
        exact absurd rfl (of_decide_eq_true (List.mem_filter.1 hmem).2)
      · cases hrun.symm.trans hread
  · intro hplain
    have hresp := (readResponse_ok hends).2 ⟨herrors.2 fun i hi hty => (hplain i hi hty).noError, rfl⟩
    have hfree : ∀ i < kvStoreConfig.cfg.csNumKeys, EQUALS ∉ listed kv i ∧ QUOTE ∉ listed kv i := by
      intro i hi
      by_cases hty : keyType i = kvTypeString
      · exact ⟨(hplain i hi hty).noEquals, (hplain i hi hty).noQuote⟩
      · exact plain_number hfit hty
    rcases configLines_ok hlines with ⟨⟨conf, hrun, hconf⟩, -⟩ | ⟨-, hsome⟩
    · refine ⟨conf, ?_, ?_⟩
      · rw [configReadFromTarget, response, hresp]
        exact hrun
      · intro i hi
        rw [hconf i hi, filter_body]
        congr 1
        apply List.filter_eq_self.2
        intro c hc
        exact decide_eq_true fun he => (hfree i hi).2 (he ▸ hc)
    · exact absurd (fun i hi hmem => (hfree i hi).1 (equals_mem_body.1 hmem)) hsome

end

/-! ## The listing is read -/

section
variable {al : Allocator} {sh : Shell}

theorem getConfigAll_response (hs : MemOk sh.kv) (hx : sh.kv.xKvMutex = true) (hfit : TextsFit sh.kv)
    (hsize : sh.pcCliScratchBuffer.length = CLI_OUTPUT_SCRATCH_BUF_LEN) : ∃ sh' text,
    vSubCommand_GetConfigAll kvStoreConfig sh = some sh' ∧ sh'.con.out = sh.con.out ++ text ∧
      text ++ prompt = response sh.kv := by
  obtain ⟨sh', hrun, hout, -⟩ := getAllLoop_lines hs hx hfit hsize (Nat.le_refl _)
  exact ⟨sh', _, hrun, hout, rfl⟩

/-- **The listing is read** as it is stored exactly when no string has a `=`, a quote or the spelling of an error in
it. -/
theorem config_read_iff {its : Psa.Its} (hits : ∀ k < kvStoreConfig.cfg.csNumKeys, NvOk its k)
    {tr : List KvStore.Event} (hrun : Machine.Exec (kvStore al kvStoreConfig.cfg) (.boot its) tr sh.kv)
    (hx : sh.kv.xKvMutex = true) (hsize : sh.pcCliScratchBuffer.length = CLI_OUTPUT_SCRATCH_BUF_LEN)
    (hfit : TextsFit sh.kv) : ∃ sh' text,
    vSubCommand_GetConfigAll kvStoreConfig sh = some sh' ∧ sh'.con.out = sh.con.out ++ text ∧
      (ReadLaw sh.kv (configReadFromTarget (text ++ prompt)) ↔
        ∀ i < kvStoreConfig.cfg.csNumKeys, keyType i = kvTypeString → PlainText (listed sh.kv i)) := by
  have hs := (Exec.storeOk_any hits hrun).mem
  obtain ⟨sh', text, hall, hout, htext⟩ := getConfigAll_response hs hx hfit hsize
  exact ⟨sh', text, hall, hout, by rw [htext]; exact readLaw_iff hfit⟩

end

/-- The store after `KVStore_setString( CS_CORE_THING_NAME, .. )`. -/
def named (name : CString) : KvStore.State := storeOf kvStoreConfig.cfg (.setString 0 (some name))

/-- Only this name is stored. -/
structure OnlyName (name : CString) : Prop where
  exec : (setOnce kvStoreConfig.cfg (.setString 0 (some name))).isSome = true
  mutex : (named name).xKvMutex = true
  value : (named name).current 0 = some (kvTypeString, name.bytes ++ [0])
  other : ∀ i < kvStoreConfig.cfg.csNumKeys, i ≠ 0 → (named name).current i = none

theorem OnlyName.listed {name : CString} (h : OnlyName name) {i : Nat} (hty : keyType i = kvTypeString) :
    Cli.listed (named name) i = if i = 0 then name.bytes else [] := by
  rw [Cli.listed, if_pos hty]
  split_ifs with hi
  · subst hi
    simp only [h.value, List.dropLast_concat]
  · simp only [h.other i (keyType_matches hty (by decide)).1 hi]

theorem OnlyName.fits {name : CString} (h : OnlyName name) (hprintable : IsPrintable name.bytes)
    (hfits : LineFits (keyName 0) name.bytes) : TextsFit (named name) := by
  have hempty : ∀ i < kvStoreConfig.cfg.csNumKeys, LineFits (keyName i) [] := by decide +kernel
  refine ⟨?_, ?_, ?_⟩
  · intro i hty ty w hcur
    by_cases hi : i = 0
    · subst hi
      obtain ⟨-, rfl⟩ := Prod.mk.inj (Option.some.inj (hcur.symm.trans h.value))
      exact ⟨_, rfl⟩
    · rw [h.other i (keyType_matches hty (by decide)).1 hi] at hcur
      cases hcur
  · intro i hty
    rw [h.listed hty]
    split_ifs
    · exact hprintable
    · simp [IsPrintable]
  · intro i hty
    rw [h.listed hty]
    split_ifs with hi
    · subst hi
      exact hfits
    · exact hempty i (keyType_matches hty (by decide)).1

/-- A plain name. -/
def sensor : CString := ⟨ascii "sensor", by decide, by decide⟩

theorem sensor_only : OnlyName sensor :=
  ⟨by decide +kernel, by decide +kernel, by decide +kernel, by decide +kernel⟩

theorem config_read_sensor : ∃ tr, Machine.Exec (kvStore .granting kvStoreConfig.cfg) (.boot fun _ => none) tr
    (named sensor) ∧ ∃ sh' text, vSubCommand_GetConfigAll kvStoreConfig (shellOf (named sensor)) = some sh' ∧
      sh'.con.out = text ∧ (ReadLaw (named sensor) (configReadFromTarget (text ++ prompt)) ↔
        ∀ i < kvStoreConfig.cfg.csNumKeys, keyType i = kvTypeString → PlainText (listed (named sensor) i)) := by
  obtain ⟨tr, hrun⟩ := storeOf_exec kvStoreConfig.cfg _ sensor_only.exec
  exact ⟨tr, hrun, config_read_iff (fun k _ data hd => by cases hd) hrun sensor_only.mutex List.length_replicate
    (sensor_only.fits (by decide +kernel) (by decide +kernel))⟩

/-- A name with a `=`. -/
def equation : CString := ⟨ascii "a=b", by decide, by decide⟩

theorem equation_only : OnlyName equation :=
  ⟨by decide +kernel, by decide +kernel, by decide +kernel, by decide +kernel⟩

/-- The line is split into three: `ValueError`. -/
theorem config_read_missed : ∃ tr, Machine.Exec (kvStore .granting kvStoreConfig.cfg) (.boot fun _ => none) tr
    (named equation) ∧ TextsFit (named equation) ∧
    ∃ sh', vSubCommand_GetConfigAll kvStoreConfig (shellOf (named equation)) = some sh' ∧
      ¬ReadLaw (named equation) (configReadFromTarget (sh'.con.out ++ prompt)) := by
  obtain ⟨tr, hrun⟩ := storeOf_exec kvStoreConfig.cfg _ equation_only.exec
  have hfit := equation_only.fits (by decide +kernel) (by decide +kernel)
  have hs := (Exec.storeOk_any (fun k _ data hd => by cases hd) hrun).mem
  have hsize : (shellOf (named equation)).pcCliScratchBuffer.length = CLI_OUTPUT_SCRATCH_BUF_LEN :=
    List.length_replicate
  obtain ⟨sh', text, hall, hout, htext⟩ := getConfigAll_response hs equation_only.mutex hfit hsize
  refine ⟨tr, hrun, hfit, sh', hall, ?_⟩
  rw [hout, shellOf, List.nil_append, htext]
  intro hlaw
  have hname := ((readLaw_iff hfit).1 hlaw 0 (by decide) (by decide)).noEquals
  rw [equation_only.listed (by decide), if_pos rfl] at hname
  exact hname (by decide)

end Provision
