import TrustZone.Lib.Runs
import TrustZone.OtaDemo.Routing

/-!
# The connection of the OTA demo (`ota_demo_core_mqtt.c`)

`RunOtaCoreMqttDemo` and `prvMQTTAgentTask`, the two tasks that connect, use and close the connection to the
broker, each as the sequence of its calls: of the transport, of the libraries and of the kernel. Every call
takes its answer from the step. `otaDemo` is the machine of both.
-/

namespace OtaDemo

open Lib

/-- `OtaState_t`, the states that the program names. -/
inductive OtaState
  | stopped | suspended | other
  deriving DecidableEq

/-- The calls, with their answers. -/
inductive DemoCall
  /-- `SecureSocketsTransport_Connect`. -/
  | transportConnect (success : Bool)
  /-- `prvBackoffForRetry`. -/
  | backoff (pass : Bool)
  /-- `prvMqttAgentInit`. -/
  | agentInit (status : MqttStatus)
  /-- `MQTT_Connect`, by `prvMQTTConnect`. -/
  | mqttConnect (status : MqttStatus)
  /-- `SecureSocketsTransport_Disconnect`. -/
  | disconnect
  /-- `MQTTAgent_CommandLoop`, and `MQTTAgent_CancelAll` after it. -/
  | commandLoop (status : MqttStatus)
  /-- `OTA_Suspend`. -/
  | suspend (accepted : Bool)
  /-- `OTA_Resume`. -/
  | resume (accepted : Bool)
  /-- `OTA_GetState`. -/
  | getState (state : OtaState)
  /-- `xSemaphoreCreateMutex`. -/
  | createMutex (created : Bool)
  /-- `xTaskCreate`, of either task. -/
  | createTask (pass : Bool)
  /-- `OTA_Init`. -/
  | otaInit (success : Bool)
  /-- `OTA_SignalEvent`, of the start event. -/
  | signalStart
  /-- `MQTTAgent_Disconnect`, and the wait for it. -/
  | agentDisconnect (status : MqttStatus)
  deriving DecidableEq

/-! ## Connecting -/

/-- Where `prvConnectToMQTTBroker` is. -/
inductive ConnectPc
  | connect | backoff | agentInit | mqttConnect
  deriving DecidableEq

/-- A call of `prvCreateSocketConnectionToMQTTBroker` or of `prvConnectToMQTTBroker`: what is next, or
whether the status it returns is `pdPASS`. -/
def prvConnectToMQTTBroker : ConnectPc → DemoCall → Option (ConnectPc ⊕ Bool)
  | .connect, .transportConnect true => some (.inl .agentInit)
  | .connect, .transportConnect false => some (.inl .backoff)
  | .backoff, .backoff true => some (.inl .connect)
  | .backoff, .backoff false => some (.inr false)
  | .agentInit, .agentInit status =>
    if status ≠ .success then some (.inr false) else some (.inl .mqttConnect)
  -- a session that is not created is only logged
  | .mqttConnect, .mqttConnect _ => some (.inr true)
  | _, _ => none

/-! ## The tasks -/

def otaexampleSuspendTimeoutMs : Nat := 10000

def otaexampleExampleTaskDelayMs : Nat := 1000

/-- What a call of a task can be that matters here: it resumes the OTA agent, creates a task or starts the
OTA agent. -/
inductive DemoEvent
  | other | resumed | agentTaskCreated | otaTaskCreated | otaStarted
  deriving DecidableEq

/-- Where `prvMQTTAgentTask` is; `asserted`: at an assertion that failed. -/
inductive AgentPc
  | commandLoop
  | suspend
  | suspending (ulSuspendTimeout : Nat)
  | suspendCheck
  | disconnect
  | connecting (pc : ConnectPc)
  | resume
  | resuming (ulSuspendTimeout : Nat)
  | resumeCheck
  | deleted
  | asserted
  deriving DecidableEq

/-- `prvMQTTAgentTask`, with `prvSuspendOTA` and `prvResumeOTA`. -/
def prvMQTTAgentTask : AgentPc → DemoCall → Option (AgentPc × DemoEvent)
  | .commandLoop, .commandLoop status =>
    some (if status ≠ .success then .suspend else .deleted, .other)
  | .suspend, .suspend accepted =>
    some (if accepted then .suspending otaexampleSuspendTimeoutMs else .asserted, .other)
  | .suspending ulSuspendTimeout, .getState state =>
    some (if state ≠ .suspended ∧ 0 < ulSuspendTimeout then
      .suspending (ulSuspendTimeout - otaexampleExampleTaskDelayMs) else .suspendCheck, .other)
  | .suspendCheck, .getState state =>
    some (if state ≠ .suspended then .asserted else .disconnect, .other)
  | .disconnect, .disconnect => some (.connecting .connect, .other)
  | .connecting pc, c =>
    match prvConnectToMQTTBroker pc c with
    | none => none
    | some (.inl pc) => some (.connecting pc, .other)
    | some (.inr xResult) => some (if xResult then .resume else .asserted, .other)
  | .resume, .resume accepted =>
    some (if accepted then .resuming otaexampleSuspendTimeoutMs else .asserted, .resumed)
  | .resuming ulSuspendTimeout, .getState state =>
    some (if state = .suspended ∧ 0 < ulSuspendTimeout then
      .resuming (ulSuspendTimeout - otaexampleExampleTaskDelayMs) else .resumeCheck, .other)
  | .resumeCheck, .getState state =>
    some (if state = .suspended then .asserted else .commandLoop, .other)
  | _, _ => none

/-- Where `RunOtaCoreMqttDemo` is, with `xDemoStatus` once it is settled. -/
inductive DemoPc
  | createMutex
  | connecting (pc : ConnectPc)
  | createAgentTask
  | otaInit
  | createOtaTask
  | start
  | running
  | sendDisconnect (xDemoStatus : Bool)
  | disconnect (xDemoStatus : Bool)
  | finished (xDemoStatus : Bool)
  | asserted
  deriving DecidableEq

/-- `RunOtaCoreMqttDemo`, with `prvRunOTADemo` and `prvDisconnectFromMQTTBroker`. -/
def runOtaCoreMqttDemo : DemoPc → DemoCall → Option (DemoPc × DemoEvent)
  | .createMutex, .createMutex created =>
    some (if created then .connecting .connect else .finished false, .other)
  | .connecting pc, c =>
    match prvConnectToMQTTBroker pc c with
    | none => none
    | some (.inl pc) => some (.connecting pc, .other)
    | some (.inr xStatus) => some (if xStatus then .createAgentTask else .finished false, .other)
  | .createAgentTask, .createTask pass =>
    some (if pass then .otaInit else .sendDisconnect false, .agentTaskCreated)
  | .otaInit, .otaInit success =>
    some (if success then .createOtaTask else .sendDisconnect false, .other)
  | .createOtaTask, .createTask pass =>
    some (if pass then .start else .sendDisconnect false, .otaTaskCreated)
  | .start, .signalStart => some (.running, .otaStarted)
  | .running, .getState state =>
    some (if state ≠ .stopped then .running else .sendDisconnect true, .other)
  | .sendDisconnect xDemoStatus, .agentDisconnect status =>
    some (if status = .success then .disconnect xDemoStatus else .asserted, .other)
  | .disconnect xDemoStatus, .disconnect => some (.finished xDemoStatus, .other)
  | _, _ => none

/-! ## The machine -/

/-- The connection: the transport is connected, and `MQTT_Connect` has succeeded on it. -/
structure Connection where
  transport : Bool
  session : Bool
  deriving DecidableEq

/-- The connection after a call. -/
def Connection.after (c : Connection) : DemoCall → Connection
  | .transportConnect success => ⟨success, false⟩
  | .mqttConnect status => { c with session := c.transport && status = .success }
  | .disconnect => ⟨false, false⟩
  | _ => c

/-- Both tasks; the agent's may not exist yet. -/
structure DemoState where
  connection : Connection
  demo : DemoPc
  agent : Option AgentPc

/-- A call of one of the tasks. -/
inductive DemoStep
  | demo (c : DemoCall)
  | agent (c : DemoCall)

/-- One step, when it is possible. -/
def demoStep (s : DemoState) : DemoStep → Option (DemoState × DemoEvent)
  | .demo c =>
    match runOtaCoreMqttDemo s.demo c with
    | none => none
    | some (pc, e) =>
      some ({ connection := s.connection.after c
              demo := pc
              agent := if e = .agentTaskCreated ∧ pc = .otaInit then some .commandLoop else s.agent }, e)
  | .agent c =>
    match s.agent with
    | none => none
    | some pc =>
      match prvMQTTAgentTask pc c with
      | none => none
      | some (pc, e) => some ({ s with connection := s.connection.after c, agent := some pc }, e)

/-- The demo. -/
def otaDemo : Machine DemoState DemoStep DemoEvent := ⟨demoStep⟩

/-- The start. -/
def demoStart : DemoState := ⟨⟨false, false⟩, .createMutex, none⟩

end OtaDemo
