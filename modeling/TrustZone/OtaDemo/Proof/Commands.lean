import TrustZone.OtaDemo.Commands

/-!
# What a command returns, and what a late completion does

The result of a call is the result of its own command, a wait ends with the command or at the timeout, and
no completion touches the frame of a call that has returned (`CommandLaw`). `commands_lawful` proves it of
every run in which a call returns when its command has completed and starts with no notification left
(`CommandFine`); `unfine_breaks`: any other step can be followed by one that breaks the law.
-/

namespace OtaDemo

open Lib Machine

variable {matchTopic : List UInt8 → List UInt8 → Bool}

/-! ## What is to hold -/

/-- **The law** of an event, after the events `h`. -/
def CommandLaw (h : List CommandEvent) : CommandEvent → Prop
  | .returned i xOtaMqttStatus => xOtaMqttStatus = .success ↔ .completed i .success ∈ h
  | .stopped i timedOut => timedOut = true ∨ ∃ returnCode, .completed i returnCode ∈ h
  | .accessed i _ => ∀ xOtaMqttStatus, .returned i xOtaMqttStatus ∉ h
  | .called _ => True
  | .completed _ _ => True

/-- The law holds of every event of a run. -/
def Lawful (events : List CommandEvent) : Prop :=
  ∀ h e h', events = h ++ e :: h' → CommandLaw h e

/-- **The condition**: a call starts with no notification pending, and returns when its command is neither
queued nor completing. -/
def CommandFine (s : CommandState) : CommandStep → Prop
  | .call _ _ => s.notification = none
  | .ret => ∀ i, s.caller = .woken i → i ∉ s.queue ∧ ∀ rest, s.running ≠ some (i, rest)
  | _ => True

theorem Lawful.nil : Lawful [] := by
  intro h e h' heq
  simp at heq

theorem Lawful.snoc {h : List CommandEvent} {e : CommandEvent} (hlaw : Lawful h)
    (he : CommandLaw h e) : Lawful (h ++ [e]) := by
  intro h₁ e₁ h₂ heq
  rcases List.eq_nil_or_concat h₂ with rfl | ⟨h₂, e₂, rfl⟩
  · obtain ⟨rfl, hlast⟩ := List.append_inj' heq rfl
    obtain rfl := List.singleton_inj.1 hlast
    exact he
  · have heq' : h ++ [e] = (h₁ ++ e₁ :: h₂) ++ [e₂] := by simpa using heq
    obtain ⟨hpre, -⟩ := List.append_inj' heq' rfl
    exact hlaw h₁ e₁ h₂ hpre

theorem Lawful.last {h : List CommandEvent} {e : CommandEvent} (hlaw : Lawful (h ++ [e])) :
    CommandLaw h e :=
  hlaw h e [] rfl

/-! ## A callback -/

/-- What can be left of a callback that completes a command with `returnCode`. -/
inductive Remaining (returnCode : MqttStatus) (c : MQTTAgentCommandContext) : List Access → Prop
  | args {a : Access} (ha : a = .registerCallback ∨ a = .removeSubscription)
      (hargs : c.pArgs ≠ none) : Remaining returnCode c [a, .storeStatus returnCode, .notify]
  | status : Remaining returnCode c [.storeStatus returnCode, .notify]
  | notify (hstatus : c.xReturnStatus = returnCode) : Remaining returnCode c [.notify]

theorem OtaCall.remaining (c : OtaCall) (returnCode : MqttStatus) :
    Remaining returnCode c.command.xCommandContext (c.command.cmdCompleteCallback returnCode) := by
  cases c with
  | subscribe pcTopicFilter =>
    show Remaining _ _ (prvMQTTSubscribeCompleteCallback returnCode)
    unfold prvMQTTSubscribeCompleteCallback
    split
    · exact .args (.inl rfl) (Option.some_ne_none _)
    · exact .status
  | publish => exact .status
  | unsubscribe pcTopicFilter =>
    show Remaining _ _ (prvMQTTUnsubscribeCompleteCallback returnCode)
    unfold prvMQTTUnsubscribeCompleteCallback
    split
    · exact .args (.inr rfl) (Option.some_ne_none _)
    · exact .status

theorem Frame.success_iff (f : Frame) :
    f.xOtaMqttStatus = .success ↔ f.xCommandContext.xReturnStatus = .success := by
  unfold Frame.xOtaMqttStatus
  split_ifs with hstatus
  · refine iff_of_false ?_ hstatus
    cases f.call <;> exact OtaMqttStatus.noConfusion
  · exact iff_of_true rfl (not_not.1 hstatus)

/-- **One access** of a callback: the last one leaves the status of the command, the others leave the
notification alone. -/
theorem Remaining.run (matchTopic : List UInt8 → List UInt8 → Bool) {returnCode : MqttStatus}
    {c : MQTTAgentCommandContext} {a : Access} {rest : List Access}
    (hrem : Remaining returnCode c (a :: rest)) (l : GlobalSubscriptionList)
    (notification : Option UInt32) :
    ∃ c' l' notification',
      a.run matchTopic c l notification = some (c', l', notification') ∧
        ((rest = [] ∧ c'.xReturnStatus = returnCode) ∨
          (rest ≠ [] ∧ notification' = notification ∧ Remaining returnCode c' rest)) := by
  cases hrem with
  | args ha hargs =>
    obtain ⟨pTopicFilter, hargs⟩ := Option.ne_none_iff_exists'.1 hargs
    obtain rfl | rfl := ha
    · exact ⟨c, _, notification, by unfold Access.run; rw [hargs],
        .inr ⟨List.cons_ne_nil _ _, rfl, .status⟩⟩
    · exact ⟨c, _, notification, by unfold Access.run; rw [hargs],
        .inr ⟨List.cons_ne_nil _ _, rfl, .status⟩⟩
  | status =>
    exact ⟨{ c with xReturnStatus := returnCode }, l, notification, rfl,
      .inr ⟨List.cons_ne_nil _ _, rfl, .notify rfl⟩⟩
  | notify hstatus => exact ⟨c, l, _, rfl, .inl ⟨rfl, hstatus⟩⟩

/-! ## The invariant -/

/-- The call that an event is about. -/
def CommandEvent.callOf : CommandEvent → Nat
  | .called i => i
  | .stopped i _ => i
  | .returned i _ => i
  | .completed i _ => i
  | .accessed i _ => i

/-- Where the command of call `i` is. -/
inductive Stage (h : List CommandEvent) (s : CommandState) (i : Nat) (f : Frame) : Prop
  | queued (hqueue : s.queue = [i]) (hrunning : s.running = none)
      (hnotification : s.notification = none)
      (hframe : f.xCommandContext = f.call.command.xCommandContext)
      (hnew : ∀ returnCode, .completed i returnCode ∉ h)
  | completing {returnCode : MqttStatus} {rest : List Access} (hqueue : s.queue = [])
      (hrunning : s.running = some (i, rest)) (hnotification : s.notification = none)
      (hrem : Remaining returnCode f.xCommandContext rest)
      (hdone : ∀ rc, .completed i rc ∈ h ↔ rc = returnCode)
  | done {returnCode : MqttStatus} (hqueue : s.queue = []) (hrunning : s.running = none)
      (hstatus : f.xCommandContext.xReturnStatus = returnCode)
      (hdone : ∀ rc, .completed i rc ∈ h ↔ rc = returnCode)

/-- A call is under way, the only one with a command. -/
structure Busy (h : List CommandEvent) (s : CommandState) (i : Nat) (f : Frame) : Prop where
  caller : s.caller = .waiting i ∨ s.caller = .woken i
  frame : s.frames[i]? = some f
  stage : Stage h s i f
  open_ : ∀ xOtaMqttStatus, .returned i xOtaMqttStatus ∉ h

/-- No call is under way, and the MQTT agent has no command. -/
structure Idle (s : CommandState) : Prop where
  caller : s.caller = .idle
  queue : s.queue = []
  running : s.running = none

/-- **The invariant**, after the events `h`. -/
structure CommandInv (h : List CommandEvent) (s : CommandState) : Prop where
  bound : ∀ e ∈ h, e.callOf < s.frames.length
  phase : Idle s ∨ ∃ i f, Busy h s i f

theorem commandStart_inv (l : GlobalSubscriptionList) : CommandInv [] (commandStart l) :=
  ⟨by simp, .inl ⟨rfl, rfl, rfl⟩⟩

theorem Stage.snoc {h : List CommandEvent} {s s' : CommandState} {i : Nat} {f : Frame}
    {e : CommandEvent} (hstage : Stage h s i f) (hqueue : s'.queue = s.queue)
    (hrunning : s'.running = s.running) (hnotification : s'.notification = s.notification)
    (he : ∀ rc, e ≠ .completed i rc) : Stage (h ++ [e]) s' i f := by
  have hmem : ∀ rc, .completed i rc ∈ h ++ [e] ↔ .completed i rc ∈ h := by
    intro rc
    simp [Ne.symm (he rc)]
  cases hstage with
  | queued hq hr hn hframe hnew =>
    exact .queued (hqueue.trans hq) (hrunning.trans hr) (hnotification.trans hn) hframe
      fun rc hrc => hnew rc ((hmem rc).1 hrc)
  | completing hq hr hn hrem hdone =>
    exact .completing (hqueue.trans hq) (hrunning.trans hr) (hnotification.trans hn) hrem
      fun rc => (hmem rc).trans (hdone rc)
  | done hq hr hstatus hdone =>
    exact .done (hqueue.trans hq) (hrunning.trans hr) hstatus fun rc => (hmem rc).trans (hdone rc)

theorem bound_snoc {h : List CommandEvent} {e : CommandEvent} {n n' : Nat}
    (hbound : ∀ e ∈ h, e.callOf < n) (hn : n ≤ n') (he : e.callOf < n') :
    ∀ e' ∈ h ++ [e], e'.callOf < n' := by
  intro e' he'
  rcases List.mem_append.1 he' with hmem | hmem
  · exact Nat.lt_of_lt_of_le (hbound e' hmem) hn
  · rw [List.mem_singleton.1 hmem]
    exact he

theorem Busy.lt {h : List CommandEvent} {s : CommandState} {i : Nat} {f : Frame}
    (hbusy : Busy h s i f) : i < s.frames.length :=
  (List.getElem?_eq_some_iff.1 hbusy.frame).1

theorem CommandInv.busy {h : List CommandEvent} {s : CommandState} {i : Nat}
    (hinv : CommandInv h s) (hcaller : s.caller = .waiting i ∨ s.caller = .woken i) :
    ∃ f, Busy h s i f := by
  obtain hidle | ⟨j, f, hbusy⟩ := hinv.phase
  · rw [hidle.caller] at hcaller
    simp at hcaller
  · have hij : i = j := by
      obtain hi | hi := hcaller
      · obtain hj | hj := hbusy.caller
        · exact Caller.waiting.inj (hi.symm.trans hj)
        · rw [hi] at hj
          cases hj
      · obtain hj | hj := hbusy.caller
        · rw [hi] at hj
          cases hj
        · exact Caller.woken.inj (hi.symm.trans hj)
    exact ⟨f, hij ▸ hbusy⟩

/-- With no call under way the MQTT agent has nothing to do. -/
theorem CommandInv.idle {h : List CommandEvent} {s : CommandState} (hinv : CommandInv h s)
    (hcaller : s.caller = .idle) : Idle s := by
  obtain hidle | ⟨j, f, hbusy⟩ := hinv.phase
  · exact hidle
  · have hbusy := hbusy.caller
    simp [hcaller] at hbusy

/-! ## One step -/

theorem call_step {h : List CommandEvent} {s s' : CommandState} {c : OtaCall} {accepted : Bool}
    {e : CommandEvent} (hinv : CommandInv h s) (hfine : CommandFine s (.call c accepted))
    (hstep : commandStep matchTopic s (.call c accepted) = some (s', e)) :
    CommandLaw h e ∧ CommandInv (h ++ [e]) s' := by
  unfold commandStep at hstep
  dsimp only at hstep
  split_ifs at hstep with hidle
  obtain ⟨rfl, rfl⟩ := Prod.mk.inj (Option.some.inj hstep)
  have hsettled := hinv.idle hidle.1
  have hfresh : ∀ e ∈ h, e.callOf ≠ s.frames.length := fun e he => Nat.ne_of_lt (hinv.bound e he)
  refine ⟨trivial, bound_snoc hinv.bound ?_ ?_, .inr ⟨s.frames.length, ⟨c, c.command.xCommandContext⟩, ?_⟩⟩
  · simp
  · simp [CommandEvent.callOf]
  · refine ⟨.inl rfl, by simp, .queued ?_ hsettled.running hfine rfl ?_, ?_⟩
    · show s.queue ++ [s.frames.length] = [s.frames.length]
      rw [hsettled.queue, List.nil_append]
    · intro rc hrc
      exact hfresh _ (by simpa using hrc) rfl
    · intro st hst
      exact hfresh _ (by simpa using hst) rfl

theorem wake_step {h : List CommandEvent} {s s' : CommandState} {e : CommandEvent}
    (hinv : CommandInv h s) (hstep : commandStep matchTopic s .wake = some (s', e)) :
    CommandLaw h e ∧ CommandInv (h ++ [e]) s' := by
  unfold commandStep at hstep
  dsimp only at hstep
  split at hstep
  · rename_i i v hcaller hnotification
    obtain ⟨rfl, rfl⟩ := Prod.mk.inj (Option.some.inj hstep)
    obtain ⟨f, hbusy⟩ := hinv.busy (.inl hcaller)
    cases hbusy.stage with
    | queued _ _ hnone => rw [hnone] at hnotification; cases hnotification
    | completing _ _ hnone => rw [hnone] at hnotification; cases hnotification
    | done hqueue hrunning hstatus hdone =>
      refine ⟨.inr ⟨_, (hdone _).2 rfl⟩, bound_snoc hinv.bound (le_refl _) hbusy.lt,
        .inr ⟨i, f, .inr rfl, hbusy.frame, .done hqueue hrunning hstatus fun rc => ?_, fun st => ?_⟩⟩
      · simpa using hdone rc
      · simpa using hbusy.open_ st
  · cases hstep

theorem timeout_step {h : List CommandEvent} {s s' : CommandState} {e : CommandEvent}
    (hinv : CommandInv h s) (hstep : commandStep matchTopic s .timeout = some (s', e)) :
    CommandLaw h e ∧ CommandInv (h ++ [e]) s' := by
  unfold commandStep at hstep
  dsimp only at hstep
  split at hstep
  · rename_i i hcaller hnotification
    obtain ⟨rfl, rfl⟩ := Prod.mk.inj (Option.some.inj hstep)
    obtain ⟨f, hbusy⟩ := hinv.busy (.inl hcaller)
    refine ⟨.inl rfl, bound_snoc hinv.bound (le_refl _) hbusy.lt, .inr ⟨i, f, .inr rfl, hbusy.frame,
      hbusy.stage.snoc rfl rfl rfl fun rc => CommandEvent.noConfusion, fun st => ?_⟩⟩
    simpa using hbusy.open_ st
  · cases hstep

/-- A call returns, with its command completed: the result is that of the command. -/
theorem ret_step {h : List CommandEvent} {s s' : CommandState} {e : CommandEvent}
    (hinv : CommandInv h s) (hfine : CommandFine s .ret)
    (hstep : commandStep matchTopic s .ret = some (s', e)) :
    CommandLaw h e ∧ CommandInv (h ++ [e]) s' := by
  unfold commandStep at hstep
  dsimp only at hstep
  split at hstep
  · rename_i i hcaller
    split at hstep
    · cases hstep
    · rename_i f hframe
      obtain ⟨rfl, rfl⟩ := Prod.mk.inj (Option.some.inj hstep)
      obtain ⟨hqueued, hcompleting⟩ := hfine i hcaller
      obtain ⟨g, hbusy⟩ := hinv.busy (.inr hcaller)
      obtain rfl : f = g := Option.some.inj (hframe.symm.trans hbusy.frame)
      cases hbusy.stage with
      | queued hqueue => exact absurd (hqueue ▸ List.mem_singleton.2 rfl) hqueued
      | completing _ hrunning => exact absurd hrunning (hcompleting _)
      | done hqueue hrunning hstatus hdone =>
        refine ⟨?_, bound_snoc hinv.bound (le_refl _) hbusy.lt, .inl ⟨rfl, hqueue, hrunning⟩⟩
        show f.xOtaMqttStatus = .success ↔ _
        rw [f.success_iff, hdone, hstatus]
        exact eq_comm
  · cases hstep

theorem complete_step {h : List CommandEvent} {s s' : CommandState} {k : Nat}
    {returnCode : MqttStatus} {e : CommandEvent} (hinv : CommandInv h s)
    (hstep : commandStep matchTopic s (.complete k returnCode) = some (s', e)) :
    CommandLaw h e ∧ CommandInv (h ++ [e]) s' := by
  unfold commandStep at hstep
  dsimp only at hstep
  split_ifs at hstep with hready
  split at hstep
  · cases hstep
  · rename_i g hframe
    obtain ⟨rfl, rfl⟩ := Prod.mk.inj (Option.some.inj hstep)
    obtain hsettled | ⟨i, f, hbusy⟩ := hinv.phase
    · rw [hsettled.queue] at hready
      cases hready.2
    · cases hbusy.stage with
      | queued hqueue _ hnotification hinit hnew =>
        obtain rfl : k = i := by simpa [hqueue] using hready.2
        obtain rfl : g = f := Option.some.inj (hframe.symm.trans hbusy.frame)
        have hrem := g.call.remaining returnCode
        rw [← hinit] at hrem
        refine ⟨trivial, bound_snoc hinv.bound (le_refl _) hbusy.lt,
          .inr ⟨k, g, hbusy.caller, hframe, .completing ?_ rfl hnotification hrem fun rc => ?_, fun st => ?_⟩⟩
        · show s.queue.erase k = []
          rw [hqueue, List.erase_cons_head]
        · simp [hnew rc]
        · simpa using hbusy.open_ st
      | completing hqueue => rw [hqueue] at hready; cases hready.2
      | done hqueue => rw [hqueue] at hready; cases hready.2

theorem access_step {h : List CommandEvent} {s s' : CommandState} {e : CommandEvent}
    (hinv : CommandInv h s) (hstep : commandStep matchTopic s .access = some (s', e)) :
    CommandLaw h e ∧ CommandInv (h ++ [e]) s' := by
  unfold commandStep at hstep
  dsimp only at hstep
  split at hstep
  · rename_i k a rest hrunning
    obtain hsettled | ⟨i, f, hbusy⟩ := hinv.phase
    · rw [hsettled.running] at hrunning
      cases hrunning
    · cases hbusy.stage with
      | queued _ hnone => rw [hnone] at hrunning; cases hrunning
      | done _ hnone => rw [hnone] at hrunning; cases hrunning
      | @completing returnCode _ hqueue hsome hnotification hrem hdone =>
        obtain ⟨rfl, rfl⟩ := Prod.mk.inj (Option.some.inj (hsome.symm.trans hrunning))
        obtain ⟨c, l, notification, hrun, hnext⟩ :=
          hrem.run matchTopic s.pxGlobalSubscriptionList s.notification
        rw [hbusy.frame] at hstep
        dsimp only at hstep
        rw [hrun] at hstep
        obtain ⟨rfl, rfl⟩ := Prod.mk.inj (Option.some.inj hstep)
        refine ⟨hbusy.open_, bound_snoc hinv.bound (by simp) (by simpa [CommandEvent.callOf] using hbusy.lt),
          .inr ⟨i, { f with xCommandContext := c }, hbusy.caller, by simp [hbusy.lt], ?_, fun st => ?_⟩⟩
        · obtain ⟨hlast, hstatus⟩ | ⟨hmore, hsame, hrem⟩ := hnext
          · refine .done hqueue (if_pos hlast) hstatus fun rc => ?_
            simpa using hdone rc
          · refine .completing hqueue (if_neg hmore) (hsame.trans hnotification) hrem fun rc => ?_
            simpa using hdone rc
        · simpa using hbusy.open_ st
  · cases hstep

/-- **One step** that is fine: its event obeys the law, and the invariant is kept. -/
theorem command_step {h : List CommandEvent} {s s' : CommandState} {c : CommandStep}
    {e : CommandEvent} (hinv : CommandInv h s) (hfine : CommandFine s c)
    (hstep : commandStep matchTopic s c = some (s', e)) :
    CommandLaw h e ∧ CommandInv (h ++ [e]) s' := by
  cases c with
  | call c accepted => exact call_step hinv hfine hstep
  | wake => exact wake_step hinv hstep
  | timeout => exact timeout_step hinv hstep
  | ret => exact ret_step hinv hfine hstep
  | complete k returnCode => exact complete_step hinv hstep
  | access => exact access_step hinv hstep

/-! ## Runs -/

variable {tr : List (Entry CommandState CommandStep CommandEvent)} {l : GlobalSubscriptionList}
  {s : CommandState}

theorem fine_run (hrun : Exec (otaCommands matchTopic) (commandStart l) tr s)
    (hfine : ∀ e ∈ tr, CommandFine e.pre e.inp) :
    CommandInv (tr.map Entry.out) s ∧ Lawful (tr.map Entry.out) := by
  refine hrun.hist (I := fun tr s => (∀ e ∈ tr, CommandFine e.pre e.inp) →
    CommandInv (tr.map Entry.out) s ∧ Lawful (tr.map Entry.out)) ?_ ?_ hfine
  · intro tr s c s' e ih hstep hfine
    obtain ⟨hinv, hlaw⟩ := ih fun e he => hfine e (List.mem_append_left _ he)
    have hc := hfine ⟨s, c, e, s'⟩ (List.mem_append_right _ (List.mem_singleton.2 rfl))
    obtain ⟨he, hinv'⟩ := command_step hinv hc hstep
    rw [List.map_append]
    exact ⟨hinv', hlaw.snoc he⟩
  · intro _
    exact ⟨commandStart_inv l, .nil⟩

theorem access_possible (matchTopic : List UInt8 → List UInt8 → Bool) {returnCode : MqttStatus}
    {i : Nat} {f : Frame} {rest : List Access}
    (hrunning : s.running = some (i, rest)) (hframe : s.frames[i]? = some f)
    (hrem : Remaining returnCode f.xCommandContext rest) :
    ∃ s' a, (otaCommands matchTopic).step s .access = some (s', .accessed i a) := by
  cases rest with
  | nil => cases hrem
  | cons a rest =>
    obtain ⟨c, l, notification, hrun, -⟩ :=
      hrem.run matchTopic s.pxGlobalSubscriptionList s.notification
    refine ⟨{ s with
      frames := s.frames.set i { f with xCommandContext := c }
      notification := notification
      running := if rest = [] then none else some (i, rest)
      pxGlobalSubscriptionList := l }, a, ?_⟩
    unfold otaCommands commandStep
    dsimp only
    rw [hrunning]
    dsimp only
    rw [hframe]
    dsimp only
    rw [hrun]

/-- A call that returns while its command is with the MQTT agent: the completion accesses its frame. -/
theorem ret_breaks {h : List CommandEvent} {i : Nat} {f : Frame} {xOtaMqttStatus : OtaMqttStatus}
    (hstage : Stage h s i f) (hframe : s.frames[i]? = some f)
    (hout : i ∈ s.queue ∨ ∃ rest, s.running = some (i, rest)) :
    ∃ tr' s'', Exec (otaCommands matchTopic) { s with caller := .idle } tr' s'' ∧
      ¬Lawful (h ++ .returned i xOtaMqttStatus :: tr'.map Entry.out) := by
  have hbreaks : ∀ events a, ¬Lawful (h ++ .returned i xOtaMqttStatus :: (events ++ [.accessed i a])) := by
    intro events a hlaw
    have hlast := hlaw (h ++ .returned i xOtaMqttStatus :: events) (.accessed i a) [] (by simp)
    exact hlast xOtaMqttStatus (by simp)
  cases hstage with
  | done hqueue hrunning =>
    rw [hqueue, hrunning] at hout
    simp at hout
  | completing hqueue hrunning _ hrem =>
    obtain ⟨s', a, hstep⟩ := access_possible matchTopic
      (s := { s with caller := .idle }) hrunning hframe hrem
    exact ⟨_, s', Exec.snoc .nil hstep, hbreaks [] a⟩
  | queued hqueue hrunning _ hinit =>
    have hrem := f.call.remaining .sendFailed
    rw [← hinit] at hrem
    have hcomplete : (otaCommands matchTopic).step { s with caller := .idle }
        (.complete i .sendFailed) =
        some ({ s with
          caller := .idle
          queue := s.queue.erase i
          running := some (i, f.call.command.cmdCompleteCallback .sendFailed) },
          .completed i .sendFailed) := by
      unfold otaCommands commandStep
      dsimp only
      rw [if_pos ⟨hrunning, by rw [hqueue]; exact List.mem_singleton.2 rfl⟩, hframe]
    obtain ⟨s', a, hstep⟩ := access_possible matchTopic
      (s := { s with
        caller := .idle
        queue := s.queue.erase i
        running := some (i, f.call.command.cmdCompleteCallback .sendFailed) }) rfl hframe hrem
    exact ⟨_, s', Exec.snoc (Exec.snoc .nil hcomplete) hstep, hbreaks [.completed i .sendFailed] a⟩

/-- **A step that is not fine** can be followed by one that breaks the law. -/
theorem unfine_breaks {h : List CommandEvent} {s' : CommandState} {c : CommandStep}
    {e : CommandEvent} (hinv : CommandInv h s) (hstep : commandStep matchTopic s c = some (s', e))
    (hunfine : ¬CommandFine s c) :
    ∃ tr' s'', Exec (otaCommands matchTopic) s' tr' s'' ∧
      ¬Lawful (h ++ e :: tr'.map Entry.out) := by
  cases c with
  | call c accepted =>
    obtain ⟨v, hv⟩ := Option.ne_none_iff_exists'.1 hunfine
    unfold commandStep at hstep
    dsimp only at hstep
    split_ifs at hstep with hidle
    obtain ⟨rfl, rfl⟩ := Prod.mk.inj (Option.some.inj hstep)
    -- the notification that is left ends the wait of the new call
    refine ⟨_, _, Exec.snoc .nil (i := .wake) (o := .stopped s.frames.length false)
      (by simp [otaCommands, commandStep, hv]; rfl), fun hlaw => ?_⟩
    obtain hfalse | ⟨rc, hrc⟩ := hlaw (h ++ [.called s.frames.length])
      (.stopped s.frames.length false) [] (by simp)
    · cases hfalse
    · have hmem : CommandEvent.completed s.frames.length rc ∈ h := by simpa using hrc
      exact Nat.lt_irrefl _ (hinv.bound _ hmem)
  | ret =>
    unfold commandStep at hstep
    dsimp only at hstep
    split at hstep
    · rename_i i hcaller
      split at hstep
      · cases hstep
      · rename_i f hframe
        obtain ⟨rfl, rfl⟩ := Prod.mk.inj (Option.some.inj hstep)
        obtain ⟨g, hbusy⟩ := hinv.busy (.inr hcaller)
        obtain rfl : f = g := Option.some.inj (hframe.symm.trans hbusy.frame)
        apply ret_breaks hbusy.stage hframe
        by_contra hout
        refine hunfine fun j hj => ?_
        obtain rfl : i = j := Caller.woken.inj (hcaller.symm.trans hj)
        exact ⟨fun hmem => hout (.inl hmem), fun rest hrest => hout (.inr ⟨rest, hrest⟩)⟩
    · cases hstep
  | wake => exact absurd trivial hunfine
  | timeout => exact absurd trivial hunfine
  | complete i returnCode => exact absurd trivial hunfine
  | access => exact absurd trivial hunfine

/-- **The commands**: a run in which every call starts with no notification pending, and returns when its
command is neither queued nor completing, obeys the law. Any other step after such a run can be followed by
one that breaks it. -/
theorem commands_lawful (hrun : Exec (otaCommands matchTopic) (commandStart l) tr s)
    (hfine : ∀ e ∈ tr, CommandFine e.pre e.inp) :
    Lawful (tr.map Entry.out) ∧
      ∀ c s' e, (otaCommands matchTopic).step s c = some (s', e) → ¬CommandFine s c →
        ∃ tr' s'', Exec (otaCommands matchTopic) s' tr' s'' ∧
          ¬Lawful (tr.map Entry.out ++ e :: tr'.map Entry.out) := by
  obtain ⟨hinv, hlaw⟩ := fine_run hrun hfine
  exact ⟨hlaw, fun c s' e hstep hunfine => unfine_breaks hinv hstep hunfine⟩

/-- A publish whose command completes before the wait ends. -/
theorem commands_lawful_publish : ∃ tr s,
    (otaCommands fun _ _ => false).exec? (commandStart [])
      [.call .publish true, .complete 0 .success, .access, .access, .wake, .ret] = some (tr, s) ∧
        Lawful (tr.map Entry.out) := by
  obtain ⟨tr, s, hrun, htr⟩ : ∃ tr s, (otaCommands fun _ _ => false).exec? (commandStart [])
      [.call .publish true, .complete 0 .success, .access, .access, .wake, .ret] = some (tr, s) ∧
        ∀ e ∈ tr, CommandFine e.pre e.inp := by
    refine ⟨_, _, rfl, ?_⟩
    intro e he
    simp only [List.mem_cons, List.not_mem_nil, or_false] at he
    obtain rfl | rfl | rfl | rfl | rfl | rfl := he
    · exact rfl
    · exact trivial
    · exact trivial
    · exact trivial
    · exact trivial
    · exact fun i _ => ⟨List.not_mem_nil, by simp⟩
  exact ⟨tr, s, hrun, (commands_lawful (exec?_exec hrun) htr).1⟩

/-- A publish that times out and completes later ends the wait of the next one. -/
theorem late_completion : ∃ tr s,
    (otaCommands fun _ _ => false).exec? (commandStart [])
      [.call .publish true, .timeout, .ret, .call .publish true, .complete 0 .success, .access,
        .access, .wake] = some (tr, s) ∧ ¬Lawful (tr.map Entry.out) := by
  refine ⟨_, _, rfl, fun hlaw => ?_⟩
  obtain hfalse | ⟨rc, hrc⟩ := hlaw [.called 0, .stopped 0 true, .returned 0 .publishFailed, .called 1,
    .completed 0 .success, .accessed 0 (.storeStatus .success), .accessed 0 .notify]
    (.stopped 1 false) [] rfl
  · cases hfalse
  · simp at hrc

/-! ## Runs without a timeout -/

/-- With no timeout so far, a notification is only for a call that waits. -/
structure Timely (s : CommandState) : Prop where
  idle : s.caller = .idle → s.notification = none
  woken : ∀ i, s.caller = .woken i → s.queue = [] ∧ s.running = none ∧ s.notification = none

theorem Timely.fine {c : CommandStep} {s' : CommandState} {e : CommandEvent} (htimely : Timely s)
    (hstep : commandStep matchTopic s c = some (s', e)) : CommandFine s c := by
  cases c with
  | call c accepted =>
    unfold commandStep at hstep
    dsimp only at hstep
    split_ifs at hstep with hidle
    exact htimely.idle hidle.1
  | ret =>
    intro i hi
    obtain ⟨hqueue, hrunning, -⟩ := htimely.woken i hi
    exact ⟨by simp [hqueue], by simp [hrunning]⟩
  | wake => exact trivial
  | timeout => exact trivial
  | complete i returnCode => exact trivial
  | access => exact trivial

theorem Timely.step {h : List CommandEvent} {c : CommandStep} {s' : CommandState}
    {e : CommandEvent} (htimely : Timely s) (hinv : CommandInv h s)
    (hstep : commandStep matchTopic s c = some (s', e)) (htime : ∀ i, e ≠ .stopped i true) :
    Timely s' := by
  cases c with
  | call c accepted =>
    unfold commandStep at hstep
    dsimp only at hstep
    split_ifs at hstep
    obtain ⟨rfl, -⟩ := Prod.mk.inj (Option.some.inj hstep)
    exact ⟨Caller.noConfusion, fun i => Caller.noConfusion⟩
  | wake =>
    unfold commandStep at hstep
    dsimp only at hstep
    split at hstep
    · rename_i i v hcaller hnotification
      obtain ⟨rfl, -⟩ := Prod.mk.inj (Option.some.inj hstep)
      obtain ⟨f, hbusy⟩ := hinv.busy (.inl hcaller)
      cases hbusy.stage with
      | queued _ _ hnone => rw [hnone] at hnotification; cases hnotification
      | completing _ _ hnone => rw [hnone] at hnotification; cases hnotification
      | done hqueue hrunning => exact ⟨Caller.noConfusion, fun _ _ => ⟨hqueue, hrunning, rfl⟩⟩
    · cases hstep
  | timeout =>
    unfold commandStep at hstep
    dsimp only at hstep
    split at hstep
    · rename_i i hcaller hnotification
      obtain ⟨-, rfl⟩ := Prod.mk.inj (Option.some.inj hstep)
      exact absurd rfl (htime i)
    · cases hstep
  | ret =>
    unfold commandStep at hstep
    dsimp only at hstep
    split at hstep
    · rename_i i hcaller
      split at hstep
      · cases hstep
      · obtain ⟨rfl, -⟩ := Prod.mk.inj (Option.some.inj hstep)
        exact ⟨fun _ => (htimely.woken i hcaller).2.2, fun i => Caller.noConfusion⟩
    · cases hstep
  | complete k returnCode =>
    unfold commandStep at hstep
    dsimp only at hstep
    split_ifs at hstep with hready
    split at hstep
    · cases hstep
    · obtain ⟨rfl, -⟩ := Prod.mk.inj (Option.some.inj hstep)
      refine ⟨htimely.idle, fun i hi => ?_⟩
      have hmem := hready.2
      rw [(htimely.woken i hi).1] at hmem
      cases hmem
  | access =>
    unfold commandStep at hstep
    dsimp only at hstep
    split at hstep
    · rename_i k a rest hrunning
      split at hstep
      · cases hstep
      · split at hstep
        · cases hstep
        · obtain ⟨rfl, -⟩ := Prod.mk.inj (Option.some.inj hstep)
          refine ⟨fun hidle => ?_, fun i hi => ?_⟩
          · rw [(hinv.idle hidle).running] at hrunning
            cases hrunning
          · rw [(htimely.woken i hi).2.1] at hrunning
            cases hrunning
    · cases hstep

/-- **Runs without a timeout** have only steps that are fine. -/
theorem fine_of_no_timeout (hrun : Exec (otaCommands matchTopic) (commandStart l) tr s)
    (htime : ∀ e ∈ tr, ∀ i, e.out ≠ .stopped i true) :
    (∀ e ∈ tr, CommandFine e.pre e.inp) ∧ Timely s := by
  refine hrun.hist (I := fun tr s => (∀ e ∈ tr, ∀ i, e.out ≠ .stopped i true) →
    (Exec (otaCommands matchTopic) (commandStart l) tr s ∧
      ∀ e ∈ tr, CommandFine e.pre e.inp) ∧ Timely s) ?_ ?_ htime |>.imp And.right id
  · intro tr s c s' e ih hstep htime
    obtain ⟨⟨hrun, hfine⟩, htimely⟩ := ih fun e he => htime e (List.mem_append_left _ he)
    refine ⟨⟨hrun.snoc hstep, fun e' he' => ?_⟩, ?_⟩
    · rcases List.mem_append.1 he' with hmem | hmem
      · exact hfine e' hmem
      · rw [List.mem_singleton.1 hmem]
        exact htimely.fine hstep
    · exact htimely.step (fine_run hrun hfine).1 hstep
        (htime ⟨s, c, e, s'⟩ (List.mem_append_right _ (List.mem_singleton.2 rfl)))
  · intro _
    exact ⟨⟨.nil, by simp⟩, fun _ => rfl, fun i => Caller.noConfusion⟩

end OtaDemo
