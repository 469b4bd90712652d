import TrustZone.Cli.Proof.CommandLine

/-!
# The command that a line runs

* `prvFindMatchingCommand_eq`: the first command whose name is the line's first word.
* `processCommand_matched`: a line that matches is passed to its command, word by word, and no assertion
  fails.
* `registered_call`: the same for a command that is among those that were registered.
* `getParameter_agrees`: `FreeRTOS_CLIGetParameter` finds the same parameters.
-/

namespace Cli

open Lib

variable {name line junk : List UInt8} {cs : List CLI_Command_Definition_t}
  {cmd : CLI_Command_Definition_t}

theorem foldl_registerCommand (reg cs : List CLI_Command_Definition_t) :
    cs.foldl FreeRTOS_CLIRegisterCommand reg = reg ++ cs := by
  induction cs generalizing reg with
  | nil => rw [List.foldl_nil, List.append_nil]
  | cons c cs ih =>
    rw [List.foldl_cons, ih, FreeRTOS_CLIRegisterCommand, List.append_assoc, List.singleton_append]

theorem xRegisteredCommands_eq (cs : List CLI_Command_Definition_t) :
    xRegisteredCommands cs = xHelpCommand :: cs := foldl_registerCommand [xHelpCommand] cs

theorem xHelpCommand_word : Word xHelpCommand.pcCommand :=
  ⟨by decide, by decide, by decide⟩

/-! ## Matching -/

/-- The line is for the command of this name: the name alone, or with a space behind it. -/
def Matches (name line : List UInt8) : Prop := line = name ∨ name ++ [SPACE] <+: line

instance (name line : List UInt8) : Decidable (Matches name line) := inferInstanceAs (Decidable (_ ∨ _))

theorem matches_iff (hname : 0 ∉ name) (hline : 0 ∉ line) (junk : List UInt8) :
    Matches name line ↔ strncmpEq (line ++ 0 :: junk) name name.length = true ∧
      ∃ c, (line ++ 0 :: junk)[name.length]? = some c ∧ (c = SPACE ∨ c = 0) := by
  rw [strncmpEq_comm, strncmpEq_iff hname, prefix_cstr hname, cstr_append_nul, cstr_of_notMem hline]
  constructor
  · intro h
    rcases h with rfl | ⟨t, rfl⟩
    · exact ⟨List.prefix_rfl, 0, by simp, .inr rfl⟩
    · exact ⟨⟨SPACE :: t, by simp⟩, SPACE, by simp, .inl rfl⟩
  · intro ⟨⟨t, ht⟩, c, hc, hend⟩
    subst ht
    cases t with
    | nil => exact .inl (List.append_nil _)
    | cons d t =>
      obtain rfl : d = c := by simpa using hc
      rcases hend with rfl | rfl
      · exact .inr ⟨t, by simp⟩
      · exact absurd hline (by simp)

/-- The lookup stays in the buffer, and finds the first command that matches. -/
theorem prvFindMatchingCommand_eq (hcs : ∀ c ∈ cs, 0 ∉ c.pcCommand) (hline : 0 ∉ line)
    (junk : List UInt8) : prvFindMatchingCommand (line ++ 0 :: junk) cs =
      some (cs.dropWhile fun c => ¬Matches c.pcCommand line) := by
  induction cs with
  | nil => rfl
  | cons c cs ih =>
    have hc := hcs c List.mem_cons_self
    have ih := ih fun c' hc' => hcs c' (List.mem_cons_of_mem _ hc')
    have hiff := matches_iff hc hline junk
    rw [prvFindMatchingCommand, cstr_of_notMem hc]
    by_cases hm : Matches c.pcCommand line
    · obtain ⟨hcmp, d, hd, hend⟩ := hiff.1 hm
      rw [List.dropWhile_cons_of_neg (by simpa using hm)]
      simp only [hcmp, if_true, hd, if_pos hend]
    · rw [List.dropWhile_cons_of_pos (by simpa using hm), ← ih]
      by_cases hcmp : strncmpEq (line ++ 0 :: junk) c.pcCommand c.pcCommand.length = true
      · have hpre := hcmp
        rw [strncmpEq_comm, strncmpEq_iff hc, prefix_cstr hc, cstr_append_nul,
          cstr_of_notMem hline] at hpre
        have hlt : c.pcCommand.length < (line ++ 0 :: junk).length := by
          have hle := hpre.length_le
          rw [List.length_append, List.length_cons]
          omega
        have hd := List.getElem?_eq_getElem hlt
        have hno := fun hend => hm (hiff.2 ⟨hcmp, _, hd, hend⟩)
        simp only [hcmp, if_true, hd, if_neg hno]
      · simp only [if_neg hcmp]

/-- A line that matches starts with the name. -/
theorem Matches.words (hname : Word name) (hm : Matches name line) :
    (∃ ws, words SPACE line = name :: ws) ∧ line.head? ≠ some SPACE := by
  obtain ⟨hne, hspace, -⟩ := hname
  have hhead : ∀ t, (name ++ t).head? ≠ some SPACE := by
    intro t
    cases name with
    | nil => exact absurd rfl hne
    | cons c name => exact fun h => hspace (Option.some.inj h ▸ List.mem_cons_self)
  rcases hm with rfl | ⟨t, rfl⟩
  · exact ⟨⟨[], words_word hne hspace⟩, List.append_nil line ▸ hhead []⟩
  · rw [List.append_assoc, List.singleton_append]
    exact ⟨⟨_, words_append hne hspace t⟩, hhead _⟩

theorem prvFindMatchingCommand_matches (hcs : ∀ c ∈ cs, 0 ∉ c.pcCommand) (hline : 0 ∉ line)
    {rest : List CLI_Command_Definition_t}
    (h : prvFindMatchingCommand (line ++ 0 :: junk) cs = some (cmd :: rest)) :
    cmd ∈ cs ∧ Matches cmd.pcCommand line := by
  rw [prvFindMatchingCommand_eq hcs hline] at h
  have hdrop := Option.some.inj h
  have hmem : cmd ∈ cs.dropWhile fun c => ¬Matches c.pcCommand line := hdrop ▸ List.mem_cons_self
  have hfirst := List.head?_dropWhile_not (fun c => decide ¬Matches c.pcCommand line) cs
  rw [hdrop] at hfirst
  exact ⟨(List.dropWhile_sublist _).subset hmem, by simpa using hfirst⟩

theorem matches_of_words {w : List UInt8} {ws : List (List UInt8)} (hw : words SPACE line = w :: ws)
    (hhead : line.head? ≠ some SPACE) : Matches w line := by
  induction line using words_induction SPACE with
  | nil =>
    rw [words_nil] at hw
    cases hw
  | sep_cons s => exact absurd rfl hhead
  | word v hv hsep =>
    rw [words_word hv hsep] at hw
    exact .inl (List.cons.inj hw).1
  | append v s hv hsep =>
    rw [words_append hv hsep] at hw
    obtain rfl := (List.cons.inj hw).1
    exact .inr ⟨s, by simp⟩

/-! ## Running the command -/

/-- The command is called with the words of the line: as many as `strtok_r` yields, each of them there, the
first the command's name, and together the line with its gaps closed. -/
structure Dispatched (cmd : CLI_Command_Definition_t) (line junk : List UInt8) (ulArgC : Nat)
    (argv : Argv) : Prop where
  count : prvGetNumberOfArgs (line ++ 0 :: junk) = some ulArgC
  tokens : ∃ ps, Yields (line ++ 0 :: junk) (some 0) none ps argv.buffer ∧ ps.length = ulArgC ∧
    argv.pcArgv = ps.map some
  name : argv.string 0 = some cmd.pcCommand
  joined : ∃ ws, (∀ i, argv.string i = ws[i]?) ∧
    [SPACE].intercalate ws = collapse SPACE (trimEnd SPACE line)

/-- **A line that matches runs its command** with the words of the line, and no assertion fails. -/
theorem processCommand_matched (hcs : ∀ c ∈ cs, Word c.pcCommand) (hline : 0 ∉ line) (junk : List UInt8)
    {rest : List CLI_Command_Definition_t}
    (hm : prvFindMatchingCommand (line ++ 0 :: junk) (xRegisteredCommands cs) = some (cmd :: rest)) :
    ∃ ulArgC argv,
      FreeRTOS_CLIProcessCommand (xRegisteredCommands cs) (line ++ 0 :: junk) =
        some (.call cmd ulArgC argv) ∧ Dispatched cmd line junk ulArgC argv := by
  have hwords : ∀ c ∈ xRegisteredCommands cs, Word c.pcCommand := by
    rw [xRegisteredCommands_eq]
    intro c hc
    rcases List.mem_cons.1 hc with rfl | hc
    · exact xHelpCommand_word
    · exact hcs c hc
  obtain ⟨hmem, hmatch⟩ := prvFindMatchingCommand_matches (fun c hc => (hwords c hc).noNul) hline hm
  obtain ⟨⟨ws, hws⟩, hhead⟩ := hmatch.words (hwords cmd hmem)
  have hcount := prvGetNumberOfArgs_words hline junk
  obtain ⟨argv, htok, hargv⟩ := tokenize_words hline (hws ▸ List.cons_ne_nil _ _) junk
  refine ⟨(words SPACE line).length, argv, ?_, hcount, ⟨_, hargv.yields, ?_, ?_⟩, ?_, words SPACE line,
    hargv.string, intercalate_words hhead⟩
  · simp only [FreeRTOS_CLIProcessCommand, hm, hcount, htok]
  · rw [List.length_map, length_wordsAt]
  · rw [hargv.pcArgv, List.map_map]
    rfl
  · rw [hargv.string, hws]
    rfl

/-- **A registered command is called** with the words of the line, when no command before it has its name. -/
theorem registered_call (before : List CLI_Command_Definition_t) {after : List CLI_Command_Definition_t}
    (hbefore : ∀ c ∈ before, Word c.pcCommand ∧ c.pcCommand ≠ cmd.pcCommand) (hcmd : Word cmd.pcCommand)
    (hafter : ∀ c ∈ after, Word c.pcCommand) (hhelp : xHelpCommand.pcCommand ≠ cmd.pcCommand)
    (hline : 0 ∉ line) (hm : Matches cmd.pcCommand line) (junk : List UInt8) : ∃ argv,
    FreeRTOS_CLIProcessCommand (xRegisteredCommands (before ++ cmd :: after)) (line ++ 0 :: junk) =
      some (.call cmd (words SPACE line).length argv) ∧ Tokenized line (line ++ 0 :: junk) argv := by
  obtain ⟨ws, hws⟩ := (hm.words hcmd).1
  obtain ⟨argv, htok, hargv⟩ := tokenize_words hline (hws ▸ List.cons_ne_nil _ _) junk
  -- a line is for one name only
  have hother : ∀ c ∈ xHelpCommand :: before, ¬Matches c.pcCommand line := by
    intro c hc hmc
    have hword : Word c.pcCommand ∧ c.pcCommand ≠ cmd.pcCommand := by
      rcases List.mem_cons.1 hc with rfl | hc
      · exact ⟨xHelpCommand_word, hhelp⟩
      · exact hbefore c hc
    obtain ⟨vs, hvs⟩ := (hmc.words hword.1).1
    exact hword.2 (List.cons.inj (hvs.symm.trans hws)).1
  have hnoNul : ∀ c ∈ xHelpCommand :: (before ++ cmd :: after), 0 ∉ c.pcCommand := by
    intro c hc
    rcases List.mem_cons.1 hc with rfl | hc
    · exact xHelpCommand_word.noNul
    rcases List.mem_append.1 hc with hc | hc
    · exact (hbefore c hc).1.noNul
    rcases List.mem_cons.1 hc with rfl | hc
    · exact hcmd.noNul
    · exact (hafter c hc).noNul
  have hfind := prvFindMatchingCommand_eq hnoNul hline junk
  rw [← List.cons_append, List.dropWhile_append_of_pos fun c hc => by simpa using hother c hc,
    List.dropWhile_cons_of_neg (by simpa using hm)] at hfind
  refine ⟨argv, ?_, hargv⟩
  rw [List.cons_append] at hfind
  simp only [FreeRTOS_CLIProcessCommand, xRegisteredCommands_eq, hfind, prvGetNumberOfArgs_words hline junk,
    htok]

/-- `conf`, with the first line of its help. -/
def confCommand : CLI_Command_Definition_t := ⟨ascii "conf", ascii "conf:\r\n", .other 0⟩

/-- `conf get  thing_name ` is passed on word by word. -/
theorem processCommand_conf : ∃ ulArgC argv,
    FreeRTOS_CLIProcessCommand (xRegisteredCommands [confCommand])
        (ascii "conf get  thing_name " ++ 0 :: []) = some (.call confCommand ulArgC argv) ∧
    Dispatched confCommand (ascii "conf get  thing_name ") [] ulArgC argv :=
  processCommand_matched (by
    intro c hc
    obtain rfl := List.mem_singleton.1 hc
    exact ⟨by decide, by decide, by decide⟩) (by decide) [] rfl

/-! ## Parameters -/

/-- The parameter `k` is the entry `k` of `pcArgv`, at the same place and of the same length. -/
structure ParameterAgrees (line junk : List UInt8) (k ulArgC : Nat) : Prop where
  parameter : k < ulArgC → ∃ argv p w, tokenize (line ++ 0 :: junk) ulArgC = some argv ∧
    argv.pcArgv[k]? = some (some p) ∧ argv.string k = some w ∧ w <+: line.drop p ∧
    FreeRTOS_CLIGetParameter (line ++ 0 :: junk) k = some (some p, w.length) ∧
    ∀ commands cmd rest,
      prvFindMatchingCommand (line ++ 0 :: junk) commands = some (cmd :: rest) →
      FreeRTOS_CLIProcessCommand commands (line ++ 0 :: junk) = some (.call cmd ulArgC argv)
  none : ulArgC ≤ k → FreeRTOS_CLIGetParameter (line ++ 0 :: junk) k = some (none, 0)

/-- **Both parsers agree**: what `FreeRTOS_CLIGetParameter` finds is what a command is called with. -/
theorem getParameter_agrees (hline : 0 ∉ line) (hhead : line.head? ≠ some SPACE) {k : Nat} (hk : 1 ≤ k)
    (junk : List UInt8) : ∃ ulArgC, prvGetNumberOfArgs (line ++ 0 :: junk) = some ulArgC ∧
      ParameterAgrees line junk k ulArgC := by
  have hcount := prvGetNumberOfArgs_words hline junk
  have hparam := FreeRTOS_CLIGetParameter_words hline hhead hk junk
  have hlen := length_wordsAt SPACE 0 line
  refine ⟨_, hcount, fun hlt => ?_, fun hge => ?_⟩
  · have hne : words SPACE line ≠ [] := List.length_pos_iff.1 (by omega)
    obtain ⟨argv, htok, hargv⟩ := tokenize_words hline hne junk
    have hstring := hargv.string k
    rw [words, List.getElem?_map] at hstring
    cases hget : (wordsAt SPACE 0 line)[k]? with
    | none => exact absurd (List.getElem?_eq_none_iff.1 hget) (by omega)
    | some x =>
      obtain ⟨p, w⟩ := x
      obtain ⟨i, hi, hstart⟩ := mem_wordsAt (List.mem_of_getElem? hget)
      obtain rfl : p = i := by omega
      rw [hget] at hstring hparam
      refine ⟨argv, p, w, htok, ?_, hstring, hstart, hparam, fun commands cmd rest hfind => ?_⟩
      · rw [hargv.pcArgv, List.getElem?_map, hget]
        rfl
      · simp only [FreeRTOS_CLIProcessCommand, hfind, hcount, htok]
  · rw [hparam, List.getElem?_eq_none (by omega)]
    rfl

/-- The key of `conf get  thing_name `. -/
theorem getParameter_conf : ∃ ulArgC,
    prvGetNumberOfArgs (ascii "conf get  thing_name " ++ 0 :: []) = some ulArgC ∧
      ParameterAgrees (ascii "conf get  thing_name ") [] 2 ulArgC :=
  getParameter_agrees (by decide) (by decide) (by decide) []

example : FreeRTOS_CLIGetParameter (ascii "conf get  thing_name " ++ [0]) 2 = some (some 10, 10) := by
  decide +kernel

end Cli
