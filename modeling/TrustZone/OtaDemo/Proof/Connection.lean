import TrustZone.OtaDemo.Connection

/-!
# When the OTA agent runs

The OTA agent is resumed, and the tasks are created and the agent is started, only while the transport is
connected and `MQTT_Connect` has succeeded on it (`ConnectionLaw`). A failed `MQTT_Connect` is only logged, and
either task can disconnect while the other one needs the connection. `connection_lawful`: runs without such
a step (`DemoFine`) keep the law, and such a step can be followed by one that breaks it.
-/

namespace OtaDemo

open Lib Machine

/-! ## What is to hold -/

/-- The transport is connected, and `MQTT_Connect` has succeeded on it. -/
def Connection.Established (c : Connection) : Prop := c.transport = true ∧ c.session = true

/-- **The law** of a step. -/
def ConnectionLaw (e : Entry DemoState DemoStep DemoEvent) : Prop :=
  e.out ≠ .other → e.pre.connection.Established

/-- What a task between the calls of `prvConnectToMQTTBroker` needs. -/
def ConnectPc.Needs (c : Connection) : ConnectPc → Prop
  | .connect => True
  | .backoff => True
  | .agentInit => c.transport = true
  | .mqttConnect => c.transport = true

def DemoPc.Needs (c : Connection) : DemoPc → Prop
  | .connecting pc => pc.Needs c
  | .createAgentTask => c.Established
  | .otaInit => c.Established
  | .createOtaTask => c.Established
  | .start => c.Established
  | _ => True

def AgentPc.Needs (c : Connection) : AgentPc → Prop
  | .connecting pc => pc.Needs c
  | .resume => c.Established
  | _ => True

/-- **The condition**: `MQTT_Connect` succeeds, and a task that disconnects leaves the other one what it
needs. -/
def DemoFine (s : DemoState) : DemoStep → Prop
  | .demo (.mqttConnect status) => status = .success
  | .agent (.mqttConnect status) => status = .success
  | .demo .disconnect => ∀ pc, s.agent = some pc → pc.Needs ⟨false, false⟩
  | .agent .disconnect => s.demo.Needs ⟨false, false⟩
  | _ => True

/-- The task of the MQTT agent has been created, or never will be. -/
def DemoPc.Late : DemoPc → Prop
  | .createMutex => False
  | .connecting _ => False
  | .createAgentTask => False
  | _ => True

/-- **The invariant**: both tasks have what they need, and while the agent connects the demo needs nothing. -/
structure DemoInv (s : DemoState) : Prop where
  demo : s.demo.Needs s.connection
  agent : ∀ pc, s.agent = some pc → pc.Needs s.connection ∧ s.demo.Late
  connecting : ∀ pc, s.agent = some (.connecting pc) → s.demo.Needs ⟨false, false⟩

theorem demoStart_inv : DemoInv demoStart :=
  ⟨trivial, nofun, nofun⟩

theorem not_established : ¬Connection.Established ⟨false, false⟩ := fun h => Bool.noConfusion h.1

theorem DemoPc.Needs.mono {pc : DemoPc} (h : pc.Needs ⟨false, false⟩) (c : Connection) :
    pc.Needs c := by
  cases pc with
  | connecting pc =>
    cases pc with
    | connect => exact trivial
    | backoff => exact trivial
    | agentInit => exact Bool.noConfusion h
    | mqttConnect => exact Bool.noConfusion h
  | createAgentTask => exact absurd h not_established
  | otaInit => exact absurd h not_established
  | createOtaTask => exact absurd h not_established
  | start => exact absurd h not_established
  | createMutex => exact trivial
  | running => exact trivial
  | sendDisconnect _ => exact trivial
  | disconnect _ => exact trivial
  | finished _ => exact trivial
  | asserted => exact trivial

/-! ## One call -/

/-- A call while connecting, when an `MQTT_Connect` succeeds: what it leads to has what it needs. -/
theorem connect_needs {pc : ConnectPc} {call : DemoCall} {next : ConnectPc ⊕ Bool} {c : Connection}
    (hcall : prvConnectToMQTTBroker pc call = some next) (hneeds : pc.Needs c)
    (hfine : ∀ status, call = .mqttConnect status → status = .success) :
    (∀ pc', next = .inl pc' → pc'.Needs (c.after call)) ∧
      (next = .inr true → (c.after call).Established) := by
  unfold prvConnectToMQTTBroker at hcall
  split at hcall
  · obtain rfl := Option.some.inj hcall
    exact ⟨fun pc' h => Sum.inl.inj h ▸ rfl, nofun⟩
  · obtain rfl := Option.some.inj hcall
    exact ⟨fun pc' h => Sum.inl.inj h ▸ trivial, nofun⟩
  · obtain rfl := Option.some.inj hcall
    exact ⟨fun pc' h => Sum.inl.inj h ▸ trivial, nofun⟩
  · obtain rfl := Option.some.inj hcall
    exact ⟨nofun, nofun⟩
  · split_ifs at hcall
    · obtain rfl := Option.some.inj hcall
      exact ⟨nofun, nofun⟩
    · obtain rfl := Option.some.inj hcall
      exact ⟨fun pc' h => Sum.inl.inj h ▸ hneeds, nofun⟩
  · rename_i status
    obtain rfl := Option.some.inj hcall
    obtain rfl := hfine status rfl
    have htransport : c.transport = true := hneeds
    refine ⟨nofun, fun _ => ⟨htransport, ?_⟩⟩
    simp [Connection.after, htransport]
  · cases hcall

theorem DemoPc.Needs.ite {c : Connection} {p : Prop} [Decidable p] {a b : DemoPc}
    (ha : p → a.Needs c) (hb : ¬p → b.Needs c) : (if p then a else b).Needs c := by
  split_ifs with hp
  · exact ha hp
  · exact hb hp

theorem AgentPc.Needs.ite {c : Connection} {p : Prop} [Decidable p] {a b : AgentPc}
    (ha : p → a.Needs c) (hb : ¬p → b.Needs c) : (if p then a else b).Needs c := by
  split_ifs with hp
  · exact ha hp
  · exact hb hp

theorem demo_needs {pc pc' : DemoPc} {call : DemoCall} {e : DemoEvent} {c : Connection}
    (hcall : runOtaCoreMqttDemo pc call = some (pc', e)) (hneeds : pc.Needs c)
    (hfine : ∀ status, call = .mqttConnect status → status = .success) :
    (e ≠ .other → c.Established) ∧ pc'.Needs (c.after call) := by
  unfold runOtaCoreMqttDemo at hcall
  split at hcall
  -- connecting
  case h_2 pc =>
    split at hcall
    · cases hcall
    · rename_i next hnext
      obtain ⟨rfl, rfl⟩ := Prod.mk.inj (Option.some.inj hcall)
      exact ⟨fun h => absurd rfl h, (connect_needs hnext hneeds hfine).1 next rfl⟩
    · rename_i xStatus hnext
      obtain ⟨rfl, rfl⟩ := Prod.mk.inj (Option.some.inj hcall)
      refine ⟨fun h => absurd rfl h, .ite (fun hstatus => ?_) fun _ => trivial⟩
      exact (connect_needs hnext hneeds hfine).2 (congrArg Sum.inr hstatus)
  case h_10 => cases hcall
  all_goals obtain ⟨rfl, rfl⟩ := Prod.mk.inj (Option.some.inj hcall)
  · exact ⟨fun h => absurd rfl h, .ite (fun _ => trivial) fun _ => trivial⟩
  · exact ⟨fun _ => hneeds, .ite (fun _ => hneeds) fun _ => trivial⟩
  · exact ⟨fun h => absurd rfl h, .ite (fun _ => hneeds) fun _ => trivial⟩
  · exact ⟨fun _ => hneeds, .ite (fun _ => hneeds) fun _ => trivial⟩
  · exact ⟨fun _ => hneeds, trivial⟩
  · exact ⟨fun h => absurd rfl h, .ite (fun _ => trivial) fun _ => trivial⟩
  · exact ⟨fun h => absurd rfl h, .ite (fun _ => trivial) fun _ => trivial⟩
  · exact ⟨fun h => absurd rfl h, trivial⟩

theorem agent_needs {pc pc' : AgentPc} {call : DemoCall} {e : DemoEvent} {c : Connection}
    (hcall : prvMQTTAgentTask pc call = some (pc', e)) (hneeds : pc.Needs c)
    (hfine : ∀ status, call = .mqttConnect status → status = .success) :
    (e ≠ .other → c.Established) ∧ pc'.Needs (c.after call) := by
  unfold prvMQTTAgentTask at hcall
  split at hcall
  -- connecting
  case h_6 pc =>
    split at hcall
    · cases hcall
    · rename_i next hnext
      obtain ⟨rfl, rfl⟩ := Prod.mk.inj (Option.some.inj hcall)
      exact ⟨fun h => absurd rfl h, (connect_needs hnext hneeds hfine).1 next rfl⟩
    · rename_i xResult hnext
      obtain ⟨rfl, rfl⟩ := Prod.mk.inj (Option.some.inj hcall)
      refine ⟨fun h => absurd rfl h, .ite (fun hresult => ?_) fun _ => trivial⟩
      exact (connect_needs hnext hneeds hfine).2 (congrArg Sum.inr hresult)
  case h_10 => cases hcall
  all_goals obtain ⟨rfl, rfl⟩ := Prod.mk.inj (Option.some.inj hcall)
  · exact ⟨fun h => absurd rfl h, .ite (fun _ => trivial) fun _ => trivial⟩
  · exact ⟨fun h => absurd rfl h, .ite (fun _ => trivial) fun _ => trivial⟩
  · exact ⟨fun h => absurd rfl h, .ite (fun _ => trivial) fun _ => trivial⟩
  · exact ⟨fun h => absurd rfl h, .ite (fun _ => trivial) fun _ => trivial⟩
  · exact ⟨fun h => absurd rfl h, trivial⟩
  · exact ⟨fun _ => hneeds, .ite (fun _ => trivial) fun _ => trivial⟩
  · exact ⟨fun h => absurd rfl h, .ite (fun _ => trivial) fun _ => trivial⟩
  · exact ⟨fun h => absurd rfl h, .ite (fun _ => trivial) fun _ => trivial⟩

/-! ## What a call leaves alone -/

/-- Once the agent's task is there, the demo changes the connection only when it disconnects. -/
theorem late_after {pc pc' : DemoPc} {call : DemoCall} {e : DemoEvent}
    (hcall : runOtaCoreMqttDemo pc call = some (pc', e)) (hlate : pc.Late) :
    pc'.Late ∧ (call = .disconnect ∨ ∀ c : Connection, c.after call = c) := by
  unfold runOtaCoreMqttDemo at hcall
  split at hcall
  case h_1 => exact hlate.elim
  case h_2 => exact hlate.elim
  case h_3 => exact hlate.elim
  case h_10 => cases hcall
  all_goals obtain ⟨rfl, rfl⟩ := Prod.mk.inj (Option.some.inj hcall)
  · exact ⟨by split_ifs <;> exact trivial, .inr fun _ => rfl⟩
  · exact ⟨by split_ifs <;> exact trivial, .inr fun _ => rfl⟩
  · exact ⟨trivial, .inr fun _ => rfl⟩
  · exact ⟨by split_ifs <;> exact trivial, .inr fun _ => rfl⟩
  · exact ⟨by split_ifs <;> exact trivial, .inr fun _ => rfl⟩
  · exact ⟨trivial, .inl rfl⟩

/-- The agent's task begins to connect when it disconnects, and changes the connection only then and while
it connects. -/
theorem agent_after {pc pc' : AgentPc} {call : DemoCall} {e : DemoEvent}
    (hcall : prvMQTTAgentTask pc call = some (pc', e)) :
    call = .disconnect ∨ (∃ pc₁, pc = .connecting pc₁) ∨
      ((∀ c : Connection, c.after call = c) ∧ ∀ pc₁, pc' ≠ .connecting pc₁) := by
  unfold prvMQTTAgentTask at hcall
  split at hcall
  case h_5 => exact .inl rfl
  case h_6 pc₁ => exact .inr (.inl ⟨pc₁, rfl⟩)
  case h_10 => cases hcall
  all_goals obtain ⟨rfl, -⟩ := Prod.mk.inj (Option.some.inj hcall)
  · exact .inr (.inr ⟨fun _ => rfl, fun pc₁ => by split_ifs <;> nofun⟩)
  · exact .inr (.inr ⟨fun _ => rfl, fun pc₁ => by split_ifs <;> nofun⟩)
  · exact .inr (.inr ⟨fun _ => rfl, fun pc₁ => by split_ifs <;> nofun⟩)
  · exact .inr (.inr ⟨fun _ => rfl, fun pc₁ => by split_ifs <;> nofun⟩)
  · exact .inr (.inr ⟨fun _ => rfl, fun pc₁ => by split_ifs <;> nofun⟩)
  · exact .inr (.inr ⟨fun _ => rfl, fun pc₁ => by split_ifs <;> nofun⟩)
  · exact .inr (.inr ⟨fun _ => rfl, fun pc₁ => by split_ifs <;> nofun⟩)

theorem created_late {pc pc' : DemoPc} {call : DemoCall} {e : DemoEvent}
    (hcall : runOtaCoreMqttDemo pc call = some (pc', e)) (he : e = .agentTaskCreated) : pc'.Late := by
  unfold runOtaCoreMqttDemo at hcall
  split at hcall
  case h_2 => split at hcall <;> simp_all
  case h_3 => obtain ⟨rfl, -⟩ := Prod.mk.inj (Option.some.inj hcall); split_ifs <;> exact trivial
  case h_10 => cases hcall
  all_goals obtain ⟨-, rfl⟩ := Prod.mk.inj (Option.some.inj hcall); cases he

/-! ## One step -/

theorem demo_step {s s' : DemoState} {call : DemoCall} {e : DemoEvent} (hinv : DemoInv s)
    (hfine : DemoFine s (.demo call)) (hstep : demoStep s (.demo call) = some (s', e)) :
    (e ≠ .other → s.connection.Established) ∧ DemoInv s' := by
  unfold demoStep at hstep
  dsimp only at hstep
  split at hstep
  · cases hstep
  · rename_i pc e hcall
    obtain ⟨rfl, rfl⟩ := Prod.mk.inj (Option.some.inj hstep)
    have hconnect : ∀ status, call = .mqttConnect status → status = .success := by
      intro status heq
      rw [heq] at hfine
      exact hfine
    obtain ⟨hlaw, hneeds⟩ := demo_needs hcall hinv.demo hconnect
    refine ⟨hlaw, hneeds, fun pc₁ hagent => ?_, fun pc₁ hagent => ?_⟩
    · dsimp only at hagent
      split_ifs at hagent with hnew
      · obtain rfl := Option.some.inj hagent
        exact ⟨trivial, created_late hcall hnew.1⟩
      · obtain ⟨hpc, hlate⟩ := hinv.agent pc₁ hagent
        obtain ⟨hlate', heq | heq⟩ := late_after hcall hlate
        · rw [heq] at hfine ⊢
          exact ⟨hfine pc₁ hagent, hlate'⟩
        · dsimp only
          rw [heq]
          exact ⟨hpc, hlate'⟩
    · dsimp only at hagent
      split_ifs at hagent with hnew
      · cases hagent
      · obtain ⟨-, hlate⟩ := hinv.agent _ hagent
        have hnext := (demo_needs hcall (hinv.connecting pc₁ hagent) hconnect).2
        obtain ⟨-, heq | heq⟩ := late_after hcall hlate
        · rw [heq] at hnext
          exact hnext
        · rw [heq] at hnext
          exact hnext

theorem agent_step {s s' : DemoState} {call : DemoCall} {e : DemoEvent} (hinv : DemoInv s)
    (hfine : DemoFine s (.agent call)) (hstep : demoStep s (.agent call) = some (s', e)) :
    (e ≠ .other → s.connection.Established) ∧ DemoInv s' := by
  unfold demoStep at hstep
  dsimp only at hstep
  split at hstep
  · cases hstep
  · rename_i pc hagent
    obtain ⟨hpc, hlate⟩ := hinv.agent pc hagent
    split at hstep
    · cases hstep
    · rename_i pc' e hcall
      obtain ⟨rfl, rfl⟩ := Prod.mk.inj (Option.some.inj hstep)
      have hconnect : ∀ status, call = .mqttConnect status → status = .success := by
        intro status heq
        rw [heq] at hfine
        exact hfine
      obtain ⟨hlaw, hneeds⟩ := agent_needs hcall hpc hconnect
      -- the demo needs nothing while the agent changes the connection
      have hdemo : s.demo.Needs ⟨false, false⟩ ∨
          ((∀ c : Connection, c.after call = c) ∧ ∀ pc₁, pc' ≠ .connecting pc₁) := by
        obtain heq | ⟨pc₁, rfl⟩ | hsame := agent_after hcall
        · rw [heq] at hfine
          exact .inl hfine
        · exact .inl (hinv.connecting pc₁ hagent)
        · exact .inr hsame
      refine ⟨hlaw, ?_, fun pc₁ hagent' => ?_, fun pc₁ hagent' => ?_⟩
      · obtain hfree | ⟨hsame, -⟩ := hdemo
        · exact hfree.mono _
        · show s.demo.Needs (s.connection.after call)
          rw [hsame]
          exact hinv.demo
      · obtain rfl := Option.some.inj hagent'
        exact ⟨hneeds, hlate⟩
      · obtain hfree | ⟨-, hno⟩ := hdemo
        · exact hfree
        · exact absurd (Option.some.inj hagent') (hno pc₁)

/-- **One step** that is fine keeps the law and the invariant. -/
theorem demoStep_fine {s s' : DemoState} {i : DemoStep} {e : DemoEvent} (hinv : DemoInv s)
    (hfine : DemoFine s i) (hstep : otaDemo.step s i = some (s', e)) :
    ConnectionLaw ⟨s, i, e, s'⟩ ∧ DemoInv s' := by
  cases i with
  | demo call => exact demo_step hinv hfine hstep
  | agent call => exact agent_step hinv hfine hstep

/-! ## Steps that are not fine -/

/-- Some run from here breaks the law. -/
def Breaks (s : DemoState) : Prop :=
  ∃ tr s', Exec otaDemo s tr s' ∧ ∃ e ∈ tr, ¬ConnectionLaw e

theorem Breaks.now {s s' : DemoState} {i : DemoStep} {e : DemoEvent}
    (hstep : otaDemo.step s i = some (s', e)) (he : e ≠ .other)
    (hnot : ¬s.connection.Established) : Breaks s :=
  ⟨_, s', Exec.snoc .nil hstep, ⟨s, i, e, s'⟩, List.mem_singleton.2 rfl, fun hlaw => hnot (hlaw he)⟩

theorem Breaks.later {s s' : DemoState} {i : DemoStep} {e : DemoEvent}
    (hstep : otaDemo.step s i = some (s', e)) (hbreaks : Breaks s') : Breaks s := by
  obtain ⟨tr, s'', hrun, e', hmem, hnot⟩ := hbreaks
  exact ⟨_, s'', (Exec.snoc .nil hstep).append hrun, e', List.mem_append_right _ hmem, hnot⟩

theorem resume_breaks {c : Connection} {pc : DemoPc} (hsession : c.session = false) :
    Breaks ⟨c, pc, some .resume⟩ :=
  .now (i := .agent (.resume true)) rfl nofun fun h => by
    rw [h.2] at hsession
    cases hsession

theorem mqttConnect_breaks {c : Connection} {pc : DemoPc} (htransport : c.transport = false) :
    Breaks ⟨c, pc, some (.connecting .mqttConnect)⟩ :=
  .later (i := .agent (.mqttConnect .success)) rfl (resume_breaks (by simp [Connection.after, htransport]))

theorem agentInit_breaks {c : Connection} {pc : DemoPc} (htransport : c.transport = false) :
    Breaks ⟨c, pc, some (.connecting .agentInit)⟩ :=
  .later (i := .agent (.agentInit .success)) rfl (mqttConnect_breaks htransport)

/-- What a task needs is taken from it. -/
theorem AgentPc.breaks {c : Connection} {pc : DemoPc} {pc' : AgentPc}
    (hneeds : ¬pc'.Needs ⟨false, false⟩) (htransport : c.transport = false)
    (hsession : c.session = false) : Breaks ⟨c, pc, some pc'⟩ := by
  cases pc' with
  | connecting pc' =>
    cases pc' with
    | connect => exact absurd trivial hneeds
    | backoff => exact absurd trivial hneeds
    | agentInit => exact agentInit_breaks htransport
    | mqttConnect => exact mqttConnect_breaks htransport
  | resume => exact resume_breaks hsession
  | commandLoop => exact absurd trivial hneeds
  | suspend => exact absurd trivial hneeds
  | suspending _ => exact absurd trivial hneeds
  | suspendCheck => exact absurd trivial hneeds
  | disconnect => exact absurd trivial hneeds
  | resuming _ => exact absurd trivial hneeds
  | resumeCheck => exact absurd trivial hneeds
  | deleted => exact absurd trivial hneeds
  | asserted => exact absurd trivial hneeds

theorem start_breaks (a : Option AgentPc) : Breaks ⟨⟨false, false⟩, .start, a⟩ :=
  .now (i := .demo .signalStart) rfl nofun not_established

theorem createOtaTask_breaks (a : Option AgentPc) : Breaks ⟨⟨false, false⟩, .createOtaTask, a⟩ :=
  .now (i := .demo (.createTask true)) rfl nofun not_established

theorem createAgentTask_breaks {c : Connection} (hsession : c.session = false)
    (a : Option AgentPc) : Breaks ⟨c, .createAgentTask, a⟩ :=
  .now (i := .demo (.createTask true)) rfl nofun fun h => by
    rw [h.2] at hsession
    cases hsession

theorem DemoPc.breaks {pc : DemoPc} (hneeds : ¬pc.Needs ⟨false, false⟩) (hlate : pc.Late)
    (a : Option AgentPc) : Breaks ⟨⟨false, false⟩, pc, a⟩ := by
  cases pc with
  | createMutex => exact hlate.elim
  | connecting _ => exact hlate.elim
  | createAgentTask => exact hlate.elim
  | otaInit => exact .later (i := .demo (.otaInit true)) rfl (createOtaTask_breaks a)
  | createOtaTask => exact createOtaTask_breaks a
  | start => exact start_breaks a
  | running => exact absurd trivial hneeds
  | sendDisconnect _ => exact absurd trivial hneeds
  | disconnect _ => exact absurd trivial hneeds
  | finished _ => exact absurd trivial hneeds
  | asserted => exact absurd trivial hneeds

theorem connect_mqttConnect {pc : ConnectPc} {status : MqttStatus} {next : ConnectPc ⊕ Bool}
    (hcall : prvConnectToMQTTBroker pc (.mqttConnect status) = some next) : next = .inr true := by
  cases pc with
  | mqttConnect => exact (Option.some.inj hcall).symm
  | connect => cases hcall
  | backoff => cases hcall
  | agentInit => cases hcall

theorem demo_mqttConnect {pc pc' : DemoPc} {status : MqttStatus} {e : DemoEvent}
    (hcall : runOtaCoreMqttDemo pc (.mqttConnect status) = some (pc', e)) :
    pc' = .createAgentTask ∧ e = .other := by
  cases pc with
  | connecting pc =>
    unfold runOtaCoreMqttDemo at hcall
    dsimp only at hcall
    split at hcall
    · cases hcall
    · rename_i next hnext
      cases connect_mqttConnect hnext
    · rename_i xStatus hnext
      obtain rfl := Sum.inr.inj (connect_mqttConnect hnext)
      obtain ⟨rfl, rfl⟩ := Prod.mk.inj (Option.some.inj hcall)
      exact ⟨if_pos rfl, rfl⟩
  | _ => cases hcall

theorem agent_mqttConnect {pc pc' : AgentPc} {status : MqttStatus} {e : DemoEvent}
    (hcall : prvMQTTAgentTask pc (.mqttConnect status) = some (pc', e)) : pc' = .resume := by
  cases pc with
  | connecting pc =>
    unfold prvMQTTAgentTask at hcall
    dsimp only at hcall
    split at hcall
    · cases hcall
    · rename_i next hnext
      cases connect_mqttConnect hnext
    · rename_i xStatus hnext
      obtain rfl := Sum.inr.inj (connect_mqttConnect hnext)
      obtain ⟨rfl, -⟩ := Prod.mk.inj (Option.some.inj hcall)
      exact if_pos rfl
  | _ => cases hcall

theorem demo_disconnect {pc pc' : DemoPc} {e : DemoEvent}
    (hcall : runOtaCoreMqttDemo pc .disconnect = some (pc', e)) : e = .other := by
  cases pc with
  | disconnect xDemoStatus => exact (Prod.mk.inj (Option.some.inj hcall)).2.symm
  | connecting pc => cases pc <;> cases hcall
  | _ => cases hcall

theorem session_failed {status : MqttStatus} (hstatus : status ≠ .success) (c : Connection) :
    (c.after (.mqttConnect status)).session = false := by
  simp [Connection.after, hstatus]

/-- **A step that is not fine** can be followed by one that breaks the law. -/
theorem unfine_demo_breaks {s s' : DemoState} {i : DemoStep} {e : DemoEvent} (hinv : DemoInv s)
    (hstep : otaDemo.step s i = some (s', e)) (hunfine : ¬DemoFine s i) : Breaks s' := by
  unfold otaDemo demoStep at hstep
  cases i with
  | demo call =>
    dsimp only at hstep
    split at hstep
    · cases hstep
    · rename_i pc e hcall
      obtain ⟨rfl, -⟩ := Prod.mk.inj (Option.some.inj hstep)
      cases call with
      | mqttConnect status =>
        obtain ⟨rfl, rfl⟩ := demo_mqttConnect hcall
        exact createAgentTask_breaks (session_failed hunfine _) _
      | disconnect =>
        obtain rfl := demo_disconnect hcall
        -- the agent's task needs the connection
        obtain ⟨pc₁, hagent, hneeds⟩ : ∃ pc₁, s.agent = some pc₁ ∧ ¬pc₁.Needs ⟨false, false⟩ := by
          by_contra hno
          exact hunfine fun pc₁ hagent => by_contra fun hneeds => hno ⟨pc₁, hagent, hneeds⟩
        rw [hagent]
        exact AgentPc.breaks hneeds rfl rfl
      | _ => exact absurd trivial hunfine
  | agent call =>
    dsimp only at hstep
    split at hstep
    · cases hstep
    · rename_i pc hagent
      split at hstep
      · cases hstep
      · rename_i pc' e hcall
        obtain ⟨rfl, -⟩ := Prod.mk.inj (Option.some.inj hstep)
        cases call with
        | mqttConnect status =>
          obtain rfl := agent_mqttConnect hcall
          exact resume_breaks (session_failed hunfine _)
        | disconnect => exact DemoPc.breaks hunfine (hinv.agent pc hagent).2 _
        | _ => exact absurd trivial hunfine

/-! ## Runs -/

variable {tr : List (Entry DemoState DemoStep DemoEvent)} {s : DemoState}

theorem fine_demo_run (hrun : Exec otaDemo demoStart tr s)
    (hfine : ∀ e ∈ tr, DemoFine e.pre e.inp) : (∀ e ∈ tr, ConnectionLaw e) ∧ DemoInv s := by
  refine hrun.hist (I := fun tr s => (∀ e ∈ tr, DemoFine e.pre e.inp) →
    (∀ e ∈ tr, ConnectionLaw e) ∧ DemoInv s) ?_ ?_ hfine
  · intro tr s i s' e ih hstep hfine
    obtain ⟨hlaw, hinv⟩ := ih fun e he => hfine e (List.mem_append_left _ he)
    have hi := hfine ⟨s, i, e, s'⟩ (List.mem_append_right _ (List.mem_singleton.2 rfl))
    obtain ⟨he, hinv'⟩ := demoStep_fine hinv hi hstep
    refine ⟨fun e' he' => ?_, hinv'⟩
    rcases List.mem_append.1 he' with hmem | hmem
    · exact hlaw e' hmem
    · rw [List.mem_singleton.1 hmem]
      exact he
  · intro _
    exact ⟨fun e he => absurd he List.not_mem_nil, demoStart_inv⟩

/-- **The connection**: in a run in which every `MQTT_Connect` succeeds, and no task disconnects while the
other one needs the connection, the law holds of every step. Any other step after such a run can be followed
by one that breaks it. -/
theorem connection_lawful (hrun : Exec otaDemo demoStart tr s)
    (hfine : ∀ e ∈ tr, DemoFine e.pre e.inp) :
    (∀ e ∈ tr, ConnectionLaw e) ∧
      ∀ i s' e, otaDemo.step s i = some (s', e) → ¬DemoFine s i →
        ∃ tr' s'', Exec otaDemo s' tr' s'' ∧ ∃ e' ∈ tr', ¬ConnectionLaw e' := by
  obtain ⟨hlaw, hinv⟩ := fine_demo_run hrun hfine
  exact ⟨hlaw, fun i s' e hstep hunfine => unfine_demo_breaks hinv hstep hunfine⟩

/-- The demo up to the task of the MQTT agent. -/
theorem connection_lawful_start : ∃ tr s,
    otaDemo.exec? demoStart [.demo (.createMutex true), .demo (.transportConnect true),
      .demo (.agentInit .success), .demo (.mqttConnect .success), .demo (.createTask true)] =
        some (tr, s) ∧ ∀ e ∈ tr, ConnectionLaw e := by
  obtain ⟨tr, s, hrun, htr⟩ : ∃ tr s, otaDemo.exec? demoStart [.demo (.createMutex true),
      .demo (.transportConnect true), .demo (.agentInit .success), .demo (.mqttConnect .success),
      .demo (.createTask true)] = some (tr, s) ∧ ∀ e ∈ tr, DemoFine e.pre e.inp := by
    refine ⟨_, _, rfl, ?_⟩
    intro e he
    simp only [List.mem_cons, List.not_mem_nil, or_false] at he
    obtain rfl | rfl | rfl | rfl | rfl := he
    · exact trivial
    · exact trivial
    · exact trivial
    · exact rfl
    · exact trivial
  exact ⟨tr, s, hrun, (connection_lawful (exec?_exec hrun) htr).1⟩

/-- `MQTT_Connect` fails: the task of the MQTT agent is created all the same. -/
theorem connection_without_session : ∃ tr s,
    otaDemo.exec? demoStart [.demo (.createMutex true), .demo (.transportConnect true),
      .demo (.agentInit .success), .demo (.mqttConnect .sendFailed), .demo (.createTask true)] =
        some (tr, s) ∧ ∃ e ∈ tr, ¬ConnectionLaw e := by
  refine ⟨_, _, rfl, _, by simp only [List.mem_cons]; exact .inr (.inr (.inr (.inr (.inl rfl)))), ?_⟩
  intro hlaw
  exact Bool.noConfusion (hlaw nofun).2

end OtaDemo
