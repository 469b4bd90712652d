import TrustZone.Lib.Words
import TrustZone.Cli.CommandLine
import TrustZone.Cli.Proof.Strings

/-!
# The words of a command

`prvGetNumberOfArgs`, `strtok_r` and `FreeRTOS_CLIGetParameter` read a command each in their own way; each of
them is compared with the words of the line (`wordsAt`).

* `countLoop_words`: the count is the number of words.
* `Yields`: what calls of `strtok_r` yield until it returns `NULL`; `yields_words`: the words, which stay in the
  buffer where they were.
* `tokenize_yields`: reading as many tokens as there are fails no assertion.
-/

namespace Cli

open Lib

variable {q : UInt8 → Bool} {w s t pre junk buffer : List UInt8} {d : UInt8} {off n : Nat}

/-! ## Loops over characters -/

theorem skip_stop (h : d = 0 ∨ q d = false) (off : Nat) (t : List UInt8) :
    skip q off (d :: t) = some ⟨off, d :: t⟩ := by
  rw [skip, if_neg]
  rintro ⟨h0, hq⟩
  rcases h with h | h
  · exact h0 h
  · rw [h] at hq
    cases hq

theorem skip_run (hw : ∀ c ∈ w, c ≠ 0 ∧ q c = true) (h : d = 0 ∨ q d = false) (off : Nat)
    (t : List UInt8) : skip q off (w ++ d :: t) = some ⟨off + w.length, d :: t⟩ := by
  induction w generalizing off with
  | nil => exact skip_stop h off t
  | cons c w ih =>
    rw [List.cons_append, skip, if_pos (hw c List.mem_cons_self)]
    rw [ih fun c' hc' => hw c' (List.mem_cons_of_mem _ hc')]
    rw [List.length_cons, Nat.add_assoc, Nat.add_comm 1]

/-- A word of a command. -/
structure Word (w : List UInt8) : Prop where
  nonempty : w ≠ []
  noSpace : SPACE ∉ w
  noNul : 0 ∉ w

theorem word_of_mem (hs : 0 ∉ s) (hw : w ∈ words SPACE s) : Word w := by
  obtain ⟨hne, hspace, hsub⟩ := mem_words hw
  exact ⟨hne, hspace, fun h => hs (hsub h)⟩

/-- What may stand behind a word. -/
def Ends (d : UInt8) : Prop := d = SPACE ∨ d = 0

theorem skip_word (hspace : SPACE ∉ w) (hnul : 0 ∉ w) (hd : Ends d) (off : Nat) (t : List UInt8) :
    skip (· ≠ SPACE) off (w ++ d :: t) = some ⟨off + w.length, d :: t⟩ := by
  refine skip_run (fun c hc => ⟨fun h => hnul (h ▸ hc), ?_⟩) ?_ off t
  · exact decide_eq_true fun h : c = SPACE => hspace (h ▸ hc)
  rcases hd with rfl | rfl
  · exact .inr rfl
  · exact .inl rfl

theorem space_ne_zero : SPACE ≠ 0 := by decide

/-! ## Counting -/

theorem countLoop_nul (n : Nat) (t : List UInt8) : countLoop n (0 :: t) = some n := by
  rw [countLoop.eq_def]
  exact if_pos rfl

theorem countLoop_space (n : Nat) (s : List UInt8) : countLoop n (SPACE :: s) = countLoop n s := by
  rw [countLoop.eq_def]
  exact (if_neg space_ne_zero).trans (if_neg (not_not_intro rfl))

theorem countLoop_char {c : UInt8} (h0 : c ≠ 0) (hc : c ≠ SPACE) (n : Nat) (t : List UInt8) :
    countLoop n (c :: d :: t) = countLoop (if d = SPACE ∨ d = 0 then n + 1 else n) (d :: t) := by
  rw [countLoop.eq_def]
  exact (if_neg h0).trans (if_pos hc)

theorem countLoop_word (hw : Word w) (hd : Ends d) (n : Nat) (t : List UInt8) :
    countLoop n (w ++ d :: t) = countLoop (n + 1) (d :: t) := by
  obtain ⟨hne, hspace, hnul⟩ := hw
  induction w with
  | nil => exact absurd rfl hne
  | cons c w ih =>
    obtain ⟨hc, hspace⟩ := not_or.1 (mt List.mem_cons.2 hspace)
    obtain ⟨hc0, hnul⟩ := not_or.1 (mt List.mem_cons.2 hnul)
    cases w with
    | nil => rw [List.singleton_append, countLoop_char (Ne.symm hc0) (Ne.symm hc),
        if_pos (show d = SPACE ∨ d = 0 from hd)]
    | cons c' w =>
      obtain ⟨hc', -⟩ := not_or.1 (mt List.mem_cons.2 hspace)
      obtain ⟨hc0', -⟩ := not_or.1 (mt List.mem_cons.2 hnul)
      rw [List.cons_append, List.cons_append, countLoop_char (Ne.symm hc0) (Ne.symm hc),
        if_neg (not_or.2 ⟨Ne.symm hc', Ne.symm hc0'⟩)]
      exact ih (List.cons_ne_nil _ _) hspace hnul

/-- `prvGetNumberOfArgs` counts the words. -/
theorem countLoop_words (hs : 0 ∉ s) (n : Nat) (junk : List UInt8) :
    countLoop n (s ++ 0 :: junk) = some (n + (words SPACE s).length) := by
  induction s using words_induction SPACE generalizing n with
  | nil =>
    rw [words_nil, List.nil_append, countLoop_nul]
    rfl
  | sep_cons s ih =>
    rw [words_sep, List.cons_append, countLoop_space]
    exact ih (fun h => hs (List.mem_cons_of_mem _ h)) n
  | word w hw hsep =>
    rw [words_word hw hsep, countLoop_word ⟨hw, hsep, hs⟩ (.inr rfl), countLoop_nul]
    rfl
  | append w s hw hsep ih =>
    rw [List.mem_append, List.mem_cons, not_or, not_or] at hs
    rw [words_append hw hsep, List.append_assoc, List.cons_append,
      countLoop_word ⟨hw, hsep, hs.1⟩ (.inl rfl), countLoop_space, ih hs.2.2, List.length_cons,
      Nat.add_assoc, Nat.add_comm 1]

theorem prvGetNumberOfArgs_words (hs : 0 ∉ s) (junk : List UInt8) :
    prvGetNumberOfArgs (s ++ 0 :: junk) = some (words SPACE s).length := by
  rw [prvGetNumberOfArgs, countLoop_words hs, Nat.zero_add]

/-! ## Tokens -/

/-- The next token is the one at the pointer that was kept. -/
theorem strtok_r_str (buffer : List UInt8) (p : Nat) (delim : List UInt8) (saveptr : Option Nat) :
    strtok_r buffer (some p) delim saveptr = strtok_r buffer none delim (some p) := rfl

theorem strtok_r_null (buffer delim : List UInt8) :
    strtok_r buffer none delim none = some ⟨none, none, buffer⟩ := rfl

/-- No token is left. -/
theorem strtok_r_nul (pre t : List UInt8) : strtok_r (pre ++ 0 :: t) none [SPACE] (some pre.length) =
    some ⟨none, none, pre ++ 0 :: t⟩ := by
  simp only [strtok_r, Option.none_or, List.drop_left, skip_stop (.inl rfl)]
  exact if_pos rfl

/-- A space in front of the token is stepped over. -/
theorem strtok_r_space (pre t : List UInt8) :
    strtok_r (pre ++ SPACE :: t) none [SPACE] (some pre.length) =
      strtok_r (pre ++ [SPACE] ++ t) none [SPACE] (some (pre ++ [SPACE]).length) := by
  have hskip : skip (· ∈ [SPACE]) pre.length (SPACE :: t) = skip (· ∈ [SPACE]) (pre.length + 1) t := by
    rw [skip]
    exact if_pos ⟨space_ne_zero, rfl⟩
  simp only [strtok_r, Option.none_or, List.drop_left, hskip, List.length_append,
    List.length_singleton, List.append_assoc, List.singleton_append]
  rw [show pre ++ SPACE :: t = (pre ++ [SPACE]) ++ t by simp]
  rw [show pre.length + 1 = (pre ++ [SPACE]).length by simp, List.drop_left]

theorem blit_at (a t : List UInt8) (c d : UInt8) : blit (a ++ d :: t) a.length [c] = a ++ c :: t := by
  rw [blit_append_right (Nat.le_refl _), Nat.sub_self, blit_zero]
  rfl

/-- The token at the pointer; the space behind it becomes a NUL. -/
theorem strtok_r_word (hw : Word w) (hd : Ends d) (pre t : List UInt8) :
    strtok_r (pre ++ (w ++ d :: t)) none [SPACE] (some pre.length) =
      if d = 0 then some ⟨some pre.length, none, pre ++ (w ++ d :: t)⟩
      else some ⟨some pre.length, some (pre ++ (w ++ [0])).length, pre ++ (w ++ [0]) ++ t⟩ := by
  obtain ⟨hne, hspace, hnul⟩ := hw
  have hstart : skip (· ∈ [SPACE]) pre.length (w ++ d :: t) = some ⟨pre.length, w ++ d :: t⟩ ∧
      ¬CharPtr.atNul ⟨pre.length, w ++ d :: t⟩ := by
    cases w with
    | nil => exact absurd rfl hne
    | cons c w =>
      obtain ⟨hc, -⟩ := not_or.1 (mt List.mem_cons.2 hspace)
      obtain ⟨hc0, -⟩ := not_or.1 (mt List.mem_cons.2 hnul)
      refine ⟨skip_stop (.inr (decide_eq_false fun h => hc (List.mem_singleton.1 h).symm)) _ _, ?_⟩
      exact fun h => hc0 (Option.some.inj h).symm
  have hend : skip (· ∉ [SPACE]) pre.length (w ++ d :: t) = some ⟨pre.length + w.length, d :: t⟩ := by
    refine skip_run (fun c hc => ⟨fun h => hnul (h ▸ hc), ?_⟩) ?_ _ _
    · exact decide_eq_true fun h => hspace (List.mem_singleton.1 h ▸ hc)
    · rcases hd with rfl | rfl
      · exact .inr rfl
      · exact .inl rfl
  have hnul' : CharPtr.atNul ⟨pre.length + w.length, d :: t⟩ ↔ d = 0 := Option.some_inj
  have hblit : blit (pre ++ (w ++ d :: t)) (pre.length + w.length) [0] = pre ++ (w ++ [0]) ++ t := by
    rw [← List.append_assoc, ← List.length_append, blit_at]
    simp
  simp only [strtok_r, Option.none_or, List.drop_left, hstart.1, if_neg hstart.2, hend, hnul', hblit,
    List.length_append, List.length_singleton, Nat.add_assoc]

/-- The tokens that calls of `strtok_r` yield until it returns `NULL`, and the buffer then. -/
inductive Yields : List UInt8 → Option Nat → Option Nat → List Nat → List UInt8 → Prop
  | done {buffer : List UInt8} {str saveptr : Option Nat} {t : Token}
    (h : strtok_r buffer str [SPACE] saveptr = some t) (ht : t.token = none) :
    Yields buffer str saveptr [] t.buffer
  | next {buffer buffer' : List UInt8} {str saveptr : Option Nat} {t : Token} {p : Nat} {ps : List Nat}
    (h : strtok_r buffer str [SPACE] saveptr = some t) (ht : t.token = some p)
    (hps : Yields t.buffer none t.saveptr ps buffer') : Yields buffer str saveptr (p :: ps) buffer'

theorem Yields.congr {str str' saveptr saveptr' : Option Nat} {buffer₁ buffer₂ buffer' : List UInt8}
    {ps : List Nat} (h : Yields buffer₁ str saveptr ps buffer')
    (heq : strtok_r buffer₂ str' [SPACE] saveptr' = strtok_r buffer₁ str [SPACE] saveptr) :
    Yields buffer₂ str' saveptr' ps buffer' := by
  cases h with
  | done h ht => exact .done (heq.trans h) ht
  | next h ht hps => exact .next (heq.trans h) ht hps

/-- The words are found where they are, and nothing in front of them is touched. -/
structure WordsKept (ws : List (Nat × List UInt8)) (pre buffer : List UInt8) : Prop where
  front : pre <+: buffer
  words : ∀ x ∈ ws, cstr (buffer.drop x.1) = x.2

/-- **`strtok_r` yields the words** and leaves each in the buffer where it was. -/
theorem yields_words (hs : 0 ∉ s) (pre junk : List UInt8) : ∃ buffer',
    Yields (pre ++ (s ++ 0 :: junk)) none (some pre.length)
      ((wordsAt SPACE pre.length s).map Prod.fst) buffer' ∧
    WordsKept (wordsAt SPACE pre.length s) pre buffer' := by
  induction s using words_induction SPACE generalizing pre with
  | nil =>
    rw [wordsAt_nil]
    exact ⟨_, .done (strtok_r_nul pre junk) rfl, List.prefix_append _ _, nofun⟩
  | sep_cons s ih =>
    obtain ⟨buffer', hy, hfront, hwords⟩ := ih (fun h => hs (List.mem_cons_of_mem _ h)) (pre ++ [SPACE])
    rw [wordsAt_sep]
    rw [List.length_append, List.length_singleton] at hy hwords
    refine ⟨buffer', hy.congr ?_, (List.prefix_append _ _).trans hfront, hwords⟩
    rw [List.cons_append, strtok_r_space, List.length_append, List.length_singleton]
  | word w hw hsep =>
    rw [wordsAt_word hw hsep]
    have hstep := strtok_r_word ⟨hw, hsep, hs⟩ (.inr rfl) pre junk
    rw [if_pos rfl] at hstep
    refine ⟨_, .next hstep rfl (.done (strtok_r_null _ _) rfl), List.prefix_append _ _, fun x hx => ?_⟩
    obtain rfl := List.mem_singleton.1 hx
    show cstr (List.drop pre.length (pre ++ (w ++ 0 :: junk))) = w
    rw [List.drop_left, cstr_append_nul, cstr_of_notMem hs]
  | append w s hw hsep ih =>
    rw [List.mem_append, List.mem_cons, not_or, not_or] at hs
    obtain ⟨buffer', hy, hfront, hwords⟩ := ih hs.2.2 (pre ++ (w ++ [0]))
    have hlen : (pre ++ (w ++ [0])).length = pre.length + w.length + 1 := by
      rw [List.length_append, List.length_append, List.length_singleton, Nat.add_assoc]
    have hstep := strtok_r_word ⟨hw, hsep, hs.1⟩ (.inl rfl) pre (s ++ 0 :: junk)
    rw [if_neg space_ne_zero] at hstep
    rw [wordsAt_append hw hsep, List.append_assoc, List.cons_append]
    rw [← hlen]
    refine ⟨buffer', .next hstep rfl hy, (List.prefix_append _ _).trans hfront, fun x hx => ?_⟩
    rcases List.mem_cons.1 hx with rfl | hx
    · obtain ⟨t, rfl⟩ := hfront
      show cstr (List.drop pre.length (pre ++ (w ++ [0]) ++ t)) = w
      rw [List.append_assoc, List.drop_left, List.append_assoc, List.singleton_append, cstr_append_nul,
        cstr_of_notMem hs.1]
    · exact hwords x hx

/-! ## `pcArgv` -/

theorem readArgs_yields {str ctx : Option Nat} {ps : List Nat} {buffer' : List UInt8}
    (h : Yields buffer str ctx ps buffer') (hstr : str = none) : ∃ buffer₁ ctx' last,
    readArgs buffer ctx ps.length = some (⟨ps.map some, buffer₁⟩, ctx') ∧
    strtok_r buffer₁ none [SPACE] ctx' = some last ∧ last.token = none ∧ last.buffer = buffer' := by
  induction h with
  | @done buffer str ctx t h ht =>
    subst hstr
    exact ⟨_, _, t, rfl, h, ht, rfl⟩
  | @next buffer buffer' str ctx t p ps h ht _ ih =>
    subst hstr
    obtain ⟨buffer₁, ctx', last, hread, hlast⟩ := ih rfl
    refine ⟨buffer₁, ctx', last, ?_, hlast⟩
    simp only [List.length_cons, readArgs, h, ht, hread, List.map_cons]
    rfl

/-- Reading as many tokens as there are, and there is one, fails no assertion. -/
theorem tokenize_yields {p : Nat} {ps : List Nat} {buffer' : List UInt8}
    (h : Yields buffer (some 0) none (p :: ps) buffer') :
    tokenize buffer (p :: ps).length = some ⟨(p :: ps).map some, buffer'⟩ := by
  cases h with
  | next h ht hps =>
    obtain ⟨buffer₁, ctx', last, hread, hlast, htok, rfl⟩ := readArgs_yields hps rfl
    simp only [tokenize, List.length_cons, Nat.add_sub_cancel, h, hread, hlast, htok, ht, List.map_cons,
      if_neg (Nat.succ_ne_zero _), if_true]

/-- What `tokenize` makes of a line with words. -/
structure Tokenized (line : List UInt8) (buffer : List UInt8) (argv : Argv) : Prop where
  yields : Yields buffer (some 0) none ((wordsAt SPACE 0 line).map Prod.fst) argv.buffer
  pcArgv : argv.pcArgv = (wordsAt SPACE 0 line).map fun x => some x.1
  kept : ∀ x ∈ wordsAt SPACE 0 line, cstr (argv.buffer.drop x.1) = x.2

theorem tokenize_words (hs : 0 ∉ s) (hne : words SPACE s ≠ []) (junk : List UInt8) : ∃ argv,
    tokenize (s ++ 0 :: junk) (words SPACE s).length = some argv ∧ Tokenized s (s ++ 0 :: junk) argv := by
  obtain ⟨buffer', hy, -, hwords⟩ := yields_words hs [] junk
  have hy' : Yields (s ++ 0 :: junk) (some 0) none ((wordsAt SPACE 0 s).map Prod.fst) buffer' :=
    hy.congr (strtok_r_str _ 0 [SPACE] none)
  refine ⟨⟨(wordsAt SPACE 0 s).map fun x => some x.1, buffer'⟩, ?_, hy', rfl, hwords⟩
  rw [← map_snd_wordsAt SPACE 0] at hne
  rw [← length_wordsAt SPACE 0]
  cases hws : wordsAt SPACE 0 s with
  | nil =>
    rw [hws] at hne
    exact absurd rfl hne
  | cons x xs =>
    rw [hws, List.map_cons] at hy'
    have htok := tokenize_yields hy'
    rw [List.length_cons, List.length_map] at htok
    rw [List.length_cons, htok, List.map_cons, List.map_cons, List.map_map]
    rfl

theorem Tokenized.string {line : List UInt8} {argv : Argv} (h : Tokenized line buffer argv) (i : Nat) :
    argv.string i = (words SPACE line)[i]? := by
  rw [Argv.string, h.pcArgv, List.getElem?_map, words, List.getElem?_map]
  cases hi : (wordsAt SPACE 0 line)[i]? with
  | none => rfl
  | some x =>
    have hx := h.kept x (List.mem_of_getElem? hi)
    simp only [Option.map_some, hx]

/-- An entry of `pcArgv` points to its word. -/
theorem Tokenized.pointer {line : List UInt8} {argv : Argv} (h : Tokenized line buffer argv) {i : Nat}
    (hi : (words SPACE line)[i]? = some w) :
    ∃ p, argv.pcArgv[i]? = some (some p) ∧ cstr (argv.buffer.drop p) = w := by
  have hs := h.string i
  rw [hi, Argv.string] at hs
  split at hs
  · rename_i p hp
    exact ⟨p, hp, Option.some.inj hs⟩
  · cases hs

/-! ## Parameters -/

/-- The answer of `FreeRTOS_CLIGetParameter` for a word. -/
def parameterOf : Option (Nat × List UInt8) → Option Nat × Nat
  | some (p, w) => (some p, w.length)
  | none => (none, 0)

theorem skip_spaces_word (hw : Word w) (off : Nat) (t : List UInt8) :
    skip (· = SPACE) off (SPACE :: (w ++ t)) = some ⟨off + 1, w ++ t⟩ := by
  obtain ⟨hne, hspace, -⟩ := hw
  cases w with
  | nil => exact absurd rfl hne
  | cons c w =>
    obtain ⟨hc, -⟩ := not_or.1 (mt List.mem_cons.2 hspace)
    exact skip_run (w := [SPACE]) (fun c' hc' => by
      rw [List.mem_singleton.1 hc']
      exact ⟨space_ne_zero, rfl⟩) (.inr (decide_eq_false (Ne.symm hc))) off _

theorem Word.not_atNul (hw : Word w) (off : Nat) (t : List UInt8) : ¬CharPtr.atNul ⟨off, w ++ t⟩ := by
  obtain ⟨hne, -, hnul⟩ := hw
  cases w with
  | nil => exact absurd rfl hne
  | cons c w => exact fun h => hnul (Option.some.inj h ▸ List.mem_cons_self)

/-- From the space in front of a word. -/
theorem getParameterLoop_word {uxWantedParameter uxParametersFound : Nat} (hw : Word w) (hd : Ends d)
    (hlt : uxParametersFound < uxWantedParameter) (off : Nat) (t : List UInt8) :
    getParameterLoop uxWantedParameter uxParametersFound ⟨off, SPACE :: (w ++ d :: t)⟩ =
      if uxParametersFound + 1 = uxWantedParameter then some (some (off + 1), w.length)
      else getParameterLoop uxWantedParameter (uxParametersFound + 1) ⟨off + 1, w ++ d :: t⟩ := by
  have hstart : skip (· ≠ SPACE) off (SPACE :: (w ++ d :: t)) = some ⟨off, SPACE :: (w ++ d :: t)⟩ :=
    skip_stop (.inr rfl) off _
  have hend := skip_word hw.noSpace hw.noNul hd (off + 1) t
  have hlen : off + 1 + w.length - (off + 1) = w.length := Nat.add_sub_cancel_left _ _
  have hpos : w.length ≠ 0 := mt List.length_eq_zero_iff.1 hw.nonempty
  rw [getParameterLoop]
  simp only [if_pos hlt, hstart, skip_spaces_word hw, if_neg (hw.not_atNul _ _), hend, hlen, if_neg hpos]

/-- The word at the pointer is stepped over. -/
theorem getParameterLoop_skip {uxWantedParameter uxParametersFound : Nat} (hspace : SPACE ∉ w)
    (hnul : 0 ∉ w) (hd : Ends d) (off : Nat) (t : List UInt8) :
    getParameterLoop uxWantedParameter uxParametersFound ⟨off, w ++ d :: t⟩ =
      getParameterLoop uxWantedParameter uxParametersFound ⟨off + w.length, d :: t⟩ := by
  have hskip := skip_word hspace hnul hd off t
  have hstay := skip_word List.not_mem_nil List.not_mem_nil hd (off + w.length) t
  rw [getParameterLoop, getParameterLoop]
  simp only [hskip]
  simp only [List.nil_append, List.length_nil, Nat.add_zero] at hstay
  simp only [hstay]

theorem getParameterLoop_nul {uxWantedParameter uxParametersFound : Nat} (off : Nat) (t : List UInt8) :
    getParameterLoop uxWantedParameter uxParametersFound ⟨off, 0 :: t⟩ = some (none, 0) := by
  rw [getParameterLoop]
  simp only [skip_stop (.inl rfl)]
  split_ifs <;> first | rfl | simp_all [CharPtr.atNul]

theorem getParameterLoop_space {uxWantedParameter uxParametersFound : Nat} (off : Nat) (t : List UInt8) :
    getParameterLoop uxWantedParameter uxParametersFound ⟨off, SPACE :: SPACE :: t⟩ =
      getParameterLoop uxWantedParameter uxParametersFound ⟨off + 1, SPACE :: t⟩ := by
  have hstay : ∀ off t, skip (· ≠ SPACE) off (SPACE :: t) = some ⟨off, SPACE :: t⟩ := fun off t =>
    skip_stop (.inr rfl) off t
  have hskip : skip (· = SPACE) off (SPACE :: SPACE :: t) = skip (· = SPACE) (off + 1) (SPACE :: t) :=
    if_pos ⟨space_ne_zero, rfl⟩
  rw [getParameterLoop, getParameterLoop]
  simp only [hstay, hskip]

theorem getParameterLoop_end {uxWantedParameter uxParametersFound : Nat} (off : Nat) (t : List UInt8) :
    getParameterLoop uxWantedParameter uxParametersFound ⟨off, SPACE :: 0 :: t⟩ = some (none, 0) := by
  have hstay : skip (· ≠ SPACE) off (SPACE :: 0 :: t) = some ⟨off, SPACE :: 0 :: t⟩ :=
    skip_stop (.inr rfl) off _
  have hskip : skip (· = SPACE) off (SPACE :: 0 :: t) = some ⟨off + 1, 0 :: t⟩ :=
    (if_pos ⟨space_ne_zero, rfl⟩).trans (skip_stop (.inl rfl) _ _)
  rw [getParameterLoop]
  simp only [hstay, hskip, if_pos (show CharPtr.atNul ⟨off + 1, 0 :: t⟩ from rfl), ite_self]

/-- From a space on the parameters are the words behind it. -/
theorem getParameterLoop_words {uxWantedParameter uxParametersFound : Nat} (hs : 0 ∉ s)
    (hlt : uxParametersFound < uxWantedParameter) (off : Nat) (junk : List UInt8) :
    getParameterLoop uxWantedParameter uxParametersFound ⟨off, SPACE :: (s ++ 0 :: junk)⟩ =
      some (parameterOf (wordsAt SPACE (off + 1) s)[uxWantedParameter - uxParametersFound - 1]?) := by
  induction s using words_induction SPACE generalizing off uxParametersFound with
  | nil =>
    rw [wordsAt_nil, List.nil_append, getParameterLoop_end]
    rfl
  | sep_cons s ih =>
    rw [List.cons_append, getParameterLoop_space, wordsAt_sep]
    exact ih (fun h => hs (List.mem_cons_of_mem _ h)) hlt (off + 1)
  | word w hw hsep =>
    rw [getParameterLoop_word ⟨hw, hsep, hs⟩ (.inr rfl) hlt, wordsAt_word hw hsep]
    by_cases heq : uxParametersFound + 1 = uxWantedParameter
    · rw [if_pos heq, show uxWantedParameter - uxParametersFound - 1 = 0 by omega]
      rfl
    · rw [if_neg heq, getParameterLoop_skip hsep hs (.inr rfl), getParameterLoop_nul]
      rw [List.getElem?_eq_none (by rw [List.length_singleton]; omega)]
      rfl
  | append w s hw hsep ih =>
    rw [List.mem_append, List.mem_cons, not_or, not_or] at hs
    rw [List.append_assoc, List.cons_append]
    rw [getParameterLoop_word ⟨hw, hsep, hs.1⟩ (.inl rfl) hlt, wordsAt_append hw hsep]
    by_cases heq : uxParametersFound + 1 = uxWantedParameter
    · rw [if_pos heq, show uxWantedParameter - uxParametersFound - 1 = 0 by omega]
      rfl
    · rw [if_neg heq, getParameterLoop_skip hsep hs.1 (.inl rfl)]
      rw [ih hs.2.2 (by omega)]
      rw [show uxWantedParameter - uxParametersFound - 1 =
        uxWantedParameter - (uxParametersFound + 1) - 1 + 1 by omega, List.getElem?_cons_succ]

/-- **The parameters of a command** are the words behind its first. -/
theorem FreeRTOS_CLIGetParameter_words (hs : 0 ∉ s) (hspace : s.head? ≠ some SPACE) {k : Nat} (hk : 0 < k)
    (junk : List UInt8) : FreeRTOS_CLIGetParameter (s ++ 0 :: junk) k =
      some (parameterOf (wordsAt SPACE 0 s)[k]?) := by
  rw [FreeRTOS_CLIGetParameter]
  induction s using words_induction SPACE with
  | nil =>
    rw [List.nil_append, getParameterLoop_nul, wordsAt_nil]
    rfl
  | sep_cons s => exact absurd rfl hspace
  | word w hw hsep =>
    rw [getParameterLoop_skip hsep hs (.inr rfl), getParameterLoop_nul, wordsAt_word hw hsep]
    rw [List.getElem?_eq_none (by rw [List.length_singleton]; omega)]
    rfl
  | append w s hw hsep =>
    rw [List.mem_append, List.mem_cons, not_or, not_or] at hs
    rw [List.append_assoc, List.cons_append, getParameterLoop_skip hsep hs.1 (.inl rfl)]
    rw [getParameterLoop_words hs.2.2 hk, wordsAt_append hw hsep]
    obtain ⟨k, rfl⟩ := Nat.exists_eq_succ_of_ne_zero (Nat.ne_of_gt hk)
    rfl

end Cli
