import TrustZone.Cli.Proof.Dispatch

/-!
# What `help` answers

* `enterHelp_eq`: `help` shows the command that its static `pxCommand` points to, or all of them.
* `helpOf`: the answer that depends on the argument and the registered commands only.
* `helpOk_iff`: when one answer is this one (`HelpOk`).
* `help_law_iff`: the answers of a history are these if and only if every command of it meets its condition
  (`HelpsOk`).
-/

namespace Cli

open Lib

variable {cs commands pxCommand : List CLI_Command_Definition_t} {arg : List UInt8}
  {args : List (Option (List UInt8))}

/-! ## One `help` -/

/-- The commands from the first one on whose name starts the argument. -/
def startedBy (arg : List UInt8) (commands : List CLI_Command_Definition_t) :
    List CLI_Command_Definition_t :=
  commands.dropWhile fun c => ¬c.pcCommand <+: arg

theorem findHelp_eq (hcs : ∀ c ∈ commands, 0 ∉ c.pcCommand) (arg : List UInt8) :
    findHelp arg commands = startedBy arg commands := by
  induction commands with
  | nil => rfl
  | cons c commands ih =>
    have hc := hcs c List.mem_cons_self
    rw [findHelp, cstr_of_notMem hc, ih fun c' hc' => hcs c' (List.mem_cons_of_mem _ hc')]
    by_cases hp : c.pcCommand <+: arg
    · rw [if_pos ((strncmpEq_iff hc).2 hp), startedBy, List.dropWhile_cons_of_neg (by simpa using hp)]
    · rw [if_neg (fun h => hp ((strncmpEq_iff hc).1 h)), startedBy, startedBy,
        List.dropWhile_cons_of_pos (by simpa using hp)]

/-- The static `pxCommand` when `help` has looked for its argument. -/
def pxCommandAfter (commands pxCommand : List CLI_Command_Definition_t) :
    Option (List UInt8) → List CLI_Command_Definition_t
  | none => pxCommand
  | some arg => startedBy arg commands

/-- What is printed for a `pxCommand`: its help, or that of all commands. -/
def helpTexts (commands : List CLI_Command_Definition_t) : List CLI_Command_Definition_t → List (List UInt8)
  | item :: _ => [item.pcHelpString]
  | [] => commands.map (·.pcHelpString)

theorem prvHelpCommand_eq (hcs : ∀ c ∈ commands, 0 ∉ c.pcCommand)
    (pxCommand : List CLI_Command_Definition_t) {ulArgc : Nat} {argv : Argv}
    (hargc : argv.string 1 ≠ none → 1 < ulArgc) :
    prvHelpCommand commands pxCommand ulArgc argv =
      (helpTexts commands (pxCommandAfter commands pxCommand (argv.string 1)),
        pxCommandAfter commands pxCommand (argv.string 1)) := by
  rw [prvHelpCommand]
  cases hs : argv.string 1 with
  | none => cases pxCommand <;> rfl
  | some w =>
    have hlt := hargc (by rw [hs]; nofun)
    simp only [if_pos hlt, findHelp_eq hcs, pxCommandAfter]
    cases startedBy w commands <;> rfl

/-- An argument of `help`, when there is one. -/
def IsArg (arg : Option (List UInt8)) : Prop := ∀ w, arg = some w → Word w

theorem helpLine_noNul {arg : Option (List UInt8)} (harg : IsArg arg) : 0 ∉ helpLine arg := by
  cases arg with
  | none => decide
  | some w =>
    rw [helpLine, List.mem_append, List.mem_cons, not_or, not_or]
    exact ⟨by decide, by decide, (harg w rfl).noNul⟩

theorem helpLine_matches (arg : Option (List UInt8)) : Matches xHelpCommand.pcCommand (helpLine arg) := by
  cases arg with
  | none => exact .inl rfl
  | some w => exact .inr ⟨w, by rw [helpLine, List.append_assoc]; rfl⟩

theorem helpLine_words {arg : Option (List UInt8)} (harg : IsArg arg) :
    words SPACE (helpLine arg) = ascii "help" :: arg.toList := by
  obtain ⟨hne, hspace, -⟩ := xHelpCommand_word
  cases arg with
  | none => exact words_word hne hspace
  | some w =>
    have hw := harg w rfl
    exact (words_append hne hspace w).trans (congrArg _ (words_word hw.nonempty hw.noSpace))

theorem registered_noNul (hcs : ∀ c ∈ cs, 0 ∉ c.pcCommand) : ∀ c ∈ xHelpCommand :: cs, 0 ∉ c.pcCommand := by
  intro c hc
  rcases List.mem_cons.1 hc with rfl | hc
  · exact xHelpCommand_word.noNul
  · exact hcs c hc

/-- One `help`, and the static `pxCommand` behind it. -/
theorem enterHelp_eq (hcs : ∀ c ∈ cs, 0 ∉ c.pcCommand) (pxCommand : List CLI_Command_Definition_t)
    {arg : Option (List UInt8)} (harg : IsArg arg) :
    enterHelp (xHelpCommand :: cs) pxCommand (helpLine arg) =
      some (helpTexts (xHelpCommand :: cs) (pxCommandAfter (xHelpCommand :: cs) pxCommand arg),
        pxCommandAfter (xHelpCommand :: cs) pxCommand arg) := by
  have hall := registered_noNul hcs
  have hline := helpLine_noNul harg
  have hwords := helpLine_words harg
  have hfind := prvFindMatchingCommand_eq hall hline []
  rw [List.dropWhile_cons_of_neg (by simpa using helpLine_matches arg)] at hfind
  obtain ⟨argv, htok, hargv⟩ := tokenize_words hline (hwords ▸ List.cons_ne_nil _ _) []
  have hcall : FreeRTOS_CLIProcessCommand (xHelpCommand :: cs) (helpLine arg ++ [0]) =
      some (.call xHelpCommand (words SPACE (helpLine arg)).length argv) := by
    simp only [FreeRTOS_CLIProcessCommand, hfind, prvGetNumberOfArgs_words hline, htok]
  have hstring : argv.string 1 = arg := by
    rw [hargv.string, hwords]
    cases arg <;> rfl
  simp only [enterHelp, hcall]
  show some (prvHelpCommand _ _ _ _) = _
  rw [prvHelpCommand_eq hall pxCommand, hstring]
  rw [hstring, hwords]
  intro hne
  cases arg with
  | none => exact absurd rfl hne
  | some w => exact Nat.le_refl 2

/-! ## The answer that is expected -/

/-- The help of every command, or that of the command that entering the argument alone would run. -/
def helpOf (commands : List CLI_Command_Definition_t) : Option (List UInt8) → List (List UInt8)
  | none => commands.map (·.pcHelpString)
  | some arg =>
    match prvFindMatchingCommand (arg ++ [0]) commands with
    | some (item :: _) => [item.pcHelpString]
    | _ => commands.map (·.pcHelpString)

/-- The commands from the first one on that has this name. -/
def named (arg : List UInt8) (commands : List CLI_Command_Definition_t) : List CLI_Command_Definition_t :=
  commands.dropWhile fun c => c.pcCommand ≠ arg

/-- A word is for the command of its name. -/
theorem Word.matches_iff {name : List UInt8} (hw : Word arg) : Matches name arg ↔ name = arg := by
  constructor
  · intro h
    rcases h with h | ⟨t, rfl⟩
    · exact h.symm
    · exact absurd (by simp) hw.noSpace
  · exact fun h => .inl h.symm

theorem helpOf_some (hcs : ∀ c ∈ commands, 0 ∉ c.pcCommand) (hw : Word arg) :
    helpOf commands (some arg) = helpTexts commands (named arg commands) := by
  have hdec : (fun c : CLI_Command_Definition_t => decide ¬Matches c.pcCommand arg) =
      fun c => decide (c.pcCommand ≠ arg) := by
    funext c
    exact decide_eq_decide.2 (not_congr hw.matches_iff)
  have hfind := prvFindMatchingCommand_eq hcs hw.noNul []
  rw [hdec] at hfind
  rw [helpOf, hfind, named]
  cases commands.dropWhile fun c => decide (c.pcCommand ≠ arg) <;> rfl

/-- The condition under which one `help` gives this answer: without an argument, its static `pxCommand` is
`NULL`; with one, the first command whose name starts the argument is as good as the one of that name. When
nothing but `help` is registered there is only one answer. -/
def HelpOk (cs pxCommand : List CLI_Command_Definition_t) : Option (List UInt8) → Prop
  | none => pxCommand = [] ∨ cs = []
  | some arg => ∀ item rest, startedBy arg (xHelpCommand :: cs) = item :: rest →
    (∃ item' rest', named arg (xHelpCommand :: cs) = item' :: rest' ∧
      item'.pcHelpString = item.pcHelpString) ∨ (named arg (xHelpCommand :: cs) = [] ∧ cs = [])

/-- One help is that of all commands when there is only one. -/
theorem helpTexts_all_iff {item : CLI_Command_Definition_t} {rest : List CLI_Command_Definition_t}
    (hsuffix : item :: rest <:+ xHelpCommand :: cs) :
    [item.pcHelpString] = (xHelpCommand :: cs).map (·.pcHelpString) ↔ cs = [] := by
  constructor
  · intro h
    have hlen := congrArg List.length h
    simp only [List.length_map, List.length_cons, List.length_nil] at hlen
    exact List.length_eq_zero_iff.1 (by omega)
  · rintro rfl
    rcases List.suffix_cons_iff.1 hsuffix with h | h
    · obtain ⟨rfl, -⟩ := List.cons_eq_cons.1 h
      rfl
    · cases List.suffix_nil.1 h

/-- **One answer** is as expected if and only if its condition holds. -/
theorem helpOk_iff (hcs : ∀ c ∈ cs, 0 ∉ c.pcCommand) (hpx : pxCommand <:+ xHelpCommand :: cs)
    {arg : Option (List UInt8)} (harg : IsArg arg) :
    helpTexts (xHelpCommand :: cs) (pxCommandAfter (xHelpCommand :: cs) pxCommand arg) =
      helpOf (xHelpCommand :: cs) arg ↔ HelpOk cs pxCommand arg := by
  cases arg with
  | none =>
    cases pxCommand with
    | nil => exact iff_of_true rfl (.inl rfl)
    | cons item rest =>
      rw [pxCommandAfter, helpTexts, helpOf, helpTexts_all_iff hpx, HelpOk]
      exact ⟨.inr, fun h => h.resolve_left (List.cons_ne_nil _ _)⟩
  | some arg =>
    have hall := registered_noNul hcs
    rw [helpOf_some hall (harg arg rfl), pxCommandAfter, HelpOk]
    cases hstart : startedBy arg (xHelpCommand :: cs) with
    | nil =>
      have hnone : named arg (xHelpCommand :: cs) = [] := by
        rw [startedBy, List.dropWhile_eq_nil_iff] at hstart
        rw [named, List.dropWhile_eq_nil_iff]
        intro c hc
        have hno : ¬c.pcCommand <+: arg := by simpa using hstart c hc
        exact decide_eq_true fun h : c.pcCommand = arg => hno (h ▸ List.prefix_rfl)
      rw [hnone]
      exact iff_of_true rfl nofun
    | cons item rest =>
      have hsuffix : item :: rest <:+ xHelpCommand :: cs := hstart ▸ List.dropWhile_suffix _
      cases hnamed : named arg (xHelpCommand :: cs) with
      | nil =>
        rw [helpTexts, helpTexts, helpTexts_all_iff hsuffix]
        constructor
        · rintro rfl item' rest' -
          exact .inr ⟨rfl, rfl⟩
        · intro h
          rcases h item rest rfl with ⟨item', rest', hcons, -⟩ | ⟨-, hnil⟩
          · cases hcons
          · exact hnil
      | cons item' rest' =>
        rw [helpTexts, helpTexts, List.singleton_inj]
        constructor
        · intro h item₁ rest₁ heq
          obtain ⟨rfl, -⟩ := List.cons_eq_cons.1 heq
          exact .inl ⟨item', rest', rfl, h.symm⟩
        · intro h
          rcases h item rest rfl with ⟨item₁, rest₁, hcons, htext⟩ | ⟨hnil, -⟩
          · obtain ⟨rfl, -⟩ := List.cons_eq_cons.1 hcons
            exact htext.symm
          · cases hnil

/-! ## Histories -/

theorem pxCommandAfter_suffix (hpx : pxCommand <:+ commands) (arg : Option (List UInt8)) :
    pxCommandAfter commands pxCommand arg <:+ commands := by
  cases arg with
  | none => exact hpx
  | some arg => exact List.dropWhile_suffix _

/-- Every command of the history meets its condition, on the `pxCommand` that it finds. -/
def HelpsOk (cs pxCommand : List CLI_Command_Definition_t) : List (Option (List UInt8)) → Prop
  | [] => True
  | arg :: args =>
    HelpOk cs pxCommand arg ∧ HelpsOk cs (pxCommandAfter (xHelpCommand :: cs) pxCommand arg) args

theorem helpRun_iff (hcs : ∀ c ∈ cs, 0 ∉ c.pcCommand) (hpx : pxCommand <:+ xHelpCommand :: cs)
    (hargs : ∀ arg ∈ args, IsArg arg) :
    helpRun (xHelpCommand :: cs) pxCommand args = some (args.map (helpOf (xHelpCommand :: cs))) ↔
      HelpsOk cs pxCommand args := by
  induction args generalizing pxCommand with
  | nil => exact iff_of_true rfl trivial
  | cons arg args ih =>
    have harg := hargs arg List.mem_cons_self
    have ih := ih (pxCommandAfter_suffix hpx arg) fun a ha => hargs a (List.mem_cons_of_mem _ ha)
    rw [HelpsOk, ← ih, ← helpOk_iff hcs hpx harg]
    simp only [helpRun, enterHelp_eq hcs pxCommand harg, List.map_cons]
    cases helpRun (xHelpCommand :: cs) (pxCommandAfter (xHelpCommand :: cs) pxCommand arg) args with
    | none => simp
    | some outs => simp

/-- **What `help` answers**: in a history of `help` commands the answers are those that depend on the argument
and the registered commands only, if and only if every command of it meets its condition. -/
theorem help_law_iff (hcs : ∀ c ∈ cs, 0 ∉ c.pcCommand) (hargs : ∀ arg ∈ args, IsArg arg) :
    helpRun (xRegisteredCommands cs) [] args = some (args.map (helpOf (xRegisteredCommands cs))) ↔
      HelpsOk cs [] args := by
  rw [xRegisteredCommands_eq]
  exact helpRun_iff hcs List.nil_suffix hargs

/-- `reset`, with the first line of its help. -/
def resetCommand : CLI_Command_Definition_t := ⟨ascii "reset", ascii "reset:\r\n", .other 1⟩

/-- The law for `help` and `help conf`. -/
theorem help_law_conf :
    helpRun (xRegisteredCommands [confCommand]) [] [none, some (ascii "conf")] =
        some ([none, some (ascii "conf")].map (helpOf (xRegisteredCommands [confCommand]))) ↔
      HelpsOk [confCommand] [] [none, some (ascii "conf")] :=
  help_law_iff (by
    intro c hc
    obtain rfl := List.mem_singleton.1 hc
    decide) (by
    intro arg harg w hw
    subst hw
    obtain rfl : w = ascii "conf" := by simpa using harg
    exact ⟨by decide, by decide, by decide⟩)

/-- `help` shows what `help conf` asked for, and `help confetti` the help of a command that `confetti` does not
run. -/
theorem help_missed :
    (helpRun (xRegisteredCommands [confCommand, resetCommand]) [] [some (ascii "conf"), none] =
        some [[confCommand.pcHelpString], [confCommand.pcHelpString]] ∧
      helpOf (xRegisteredCommands [confCommand, resetCommand]) none ≠ [confCommand.pcHelpString]) ∧
    (helpRun (xRegisteredCommands [confCommand, resetCommand]) [] [some (ascii "confetti")] =
        some [[confCommand.pcHelpString]] ∧
      helpOf (xRegisteredCommands [confCommand, resetCommand]) (some (ascii "confetti")) ≠
        [confCommand.pcHelpString]) :=
  ⟨⟨by decide +kernel, by decide +kernel⟩, by decide +kernel, by decide +kernel⟩

end Cli
