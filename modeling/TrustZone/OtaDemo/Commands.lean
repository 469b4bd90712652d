import TrustZone.Lib.Runs
import TrustZone.OtaDemo.Routing

/-!
# The MQTT commands of the OTA agent (`ota_demo_core_mqtt.c`)

`prvMqttSubscribe`, `prvMqttPublish` and `prvMqttUnSubscribe`, which the task of the OTA agent runs, and the
completion callbacks, which the task of the MQTT agent runs. A callback is the list of its accesses to the
frame of the call, one after the other.

`otaCommands` is the machine of both tasks, each step one access or one call of the kernel. A frame keeps its
contents after the call has returned; that nothing reads them or writes there is what is to be shown.
-/

namespace OtaDemo

open Lib Mqtt

/-- `OtaMqttStatus_t`, the codes of the three functions. -/
inductive OtaMqttStatus
  | success | publishFailed | subscribeFailed
  deriving DecidableEq

/-- `MQTTAgentCommandContext_t`. The task to notify is the caller's or none; the arguments of a subscribe or
an unsubscribe have one topic filter. -/
structure MQTTAgentCommandContext where
  xReturnStatus : MqttStatus
  xTaskToNotify : Bool
  ulNotificationValue : UInt32
  pArgs : Option (List UInt8)

/-! ## The completion callbacks -/

/-- What a callback does with the frame of the call: the first two read the arguments. -/
inductive Access
  | registerCallback
  | removeSubscription
  | storeStatus (returnCode : MqttStatus)
  | notify
  deriving DecidableEq

def prvMQTTAgentCmdCompleteCallback (returnCode : MqttStatus) : List Access :=
  [.storeStatus returnCode, .notify]

def prvMQTTSubscribeCompleteCallback (returnCode : MqttStatus) : List Access :=
  (if returnCode = .success then [.registerCallback] else []) ++
    prvMQTTAgentCmdCompleteCallback returnCode

def prvMQTTUnsubscribeCompleteCallback (returnCode : MqttStatus) : List Access :=
  (if returnCode = .success then [.removeSubscription] else []) ++
    prvMQTTAgentCmdCompleteCallback returnCode

/-! ## The calls -/

/-- What the three functions have of their own. -/
structure Command where
  xCommandContext : MQTTAgentCommandContext
  cmdCompleteCallback : MqttStatus → List Access
  failed : OtaMqttStatus

def prvMqttSubscribe (pcTopicFilter : List UInt8) : Command :=
  ⟨⟨.sendFailed, true, 0, some pcTopicFilter⟩, prvMQTTSubscribeCompleteCallback, .subscribeFailed⟩

def prvMqttPublish : Command :=
  ⟨⟨.sendFailed, true, 0, none⟩, prvMQTTAgentCmdCompleteCallback, .publishFailed⟩

def prvMqttUnSubscribe (pcTopicFilter : List UInt8) : Command :=
  ⟨⟨.sendFailed, true, 0, some pcTopicFilter⟩, prvMQTTUnsubscribeCompleteCallback, .subscribeFailed⟩

/-- The calls of the OTA agent. -/
inductive OtaCall
  | subscribe (pcTopicFilter : List UInt8)
  | publish
  | unsubscribe (pcTopicFilter : List UInt8)

def OtaCall.command : OtaCall → Command
  | .subscribe pcTopicFilter => prvMqttSubscribe pcTopicFilter
  | .publish => prvMqttPublish
  | .unsubscribe pcTopicFilter => prvMqttUnSubscribe pcTopicFilter

/-- The frame of a call. -/
structure Frame where
  call : OtaCall
  xCommandContext : MQTTAgentCommandContext

/-- What the call returns when it does so now. -/
def Frame.xOtaMqttStatus (f : Frame) : OtaMqttStatus :=
  if f.xCommandContext.xReturnStatus ≠ .success then f.call.command.failed else .success

/-! ## The machine -/

/-- Where the OTA agent is; the calls are numbered. -/
inductive Caller
  | idle
  | waiting (i : Nat)
  | woken (i : Nat)
  deriving DecidableEq

/-- Both tasks. `notification` is the pending notification of the OTA agent's task, `queue` the commands that
the MQTT agent has accepted and not completed, and `running` the callback that it runs, with what is left
of it. -/
structure CommandState where
  frames : List Frame
  caller : Caller
  notification : Option UInt32
  queue : List Nat
  running : Option (Nat × List Access)
  pxGlobalSubscriptionList : GlobalSubscriptionList

/-- What happens next. -/
inductive CommandStep
  | call (c : OtaCall) (accepted : Bool)
  | wake
  | timeout
  | ret
  | complete (i : Nat) (returnCode : MqttStatus)
  | access

/-- What can be seen of a step. -/
inductive CommandEvent
  | called (i : Nat)
  | stopped (i : Nat) (timedOut : Bool)
  | returned (i : Nat) (xOtaMqttStatus : OtaMqttStatus)
  | completed (i : Nat) (returnCode : MqttStatus)
  | accessed (i : Nat) (a : Access)
  deriving DecidableEq

variable (matchTopic : List UInt8 → List UInt8 → Bool)

/-- One access: the context, the list of subscriptions and the notification after it. -/
def Access.run (c : MQTTAgentCommandContext) (l : GlobalSubscriptionList)
    (notification : Option UInt32) :
    Access → Option (MQTTAgentCommandContext × GlobalSubscriptionList × Option UInt32)
  | .registerCallback =>
    match c.pArgs with
    | none => none
    | some pTopicFilter => some (c, prvRegisterOTACallback matchTopic l pTopicFilter, notification)
  | .removeSubscription =>
    match c.pArgs with
    | none => none
    | some pTopicFilter => some (c, subscriptionManagerRemoveSubscription l pTopicFilter, notification)
  | .storeStatus returnCode => some ({ c with xReturnStatus := returnCode }, l, notification)
  | .notify => some (c, l, if c.xTaskToNotify then some c.ulNotificationValue else notification)

/-- One step, when it is possible. A command that is not accepted stops the task at an assertion.
`xTaskNotifyWait` returns when a notification is pending, which it clears, or at its timeout. -/
def commandStep (s : CommandState) : CommandStep → Option (CommandState × CommandEvent)
  | .call c accepted =>
    if s.caller = .idle ∧ accepted = true then
      some ({ s with
        frames := s.frames ++ [⟨c, c.command.xCommandContext⟩]
        caller := .waiting s.frames.length
        queue := s.queue ++ [s.frames.length] }, .called s.frames.length)
    else none
  | .wake =>
    match s.caller, s.notification with
    | .waiting i, some _ =>
      some ({ s with caller := .woken i, notification := none }, .stopped i false)
    | _, _ => none
  | .timeout =>
    match s.caller, s.notification with
    | .waiting i, none => some ({ s with caller := .woken i }, .stopped i true)
    | _, _ => none
  | .ret =>
    match s.caller with
    | .woken i =>
      match s.frames[i]? with
      | none => none
      | some f => some ({ s with caller := .idle }, .returned i f.xOtaMqttStatus)
    | _ => none
  | .complete i returnCode =>
    if s.running = none ∧ i ∈ s.queue then
      match s.frames[i]? with
      | none => none
      | some f =>
        some ({ s with
          queue := s.queue.erase i
          running := some (i, f.call.command.cmdCompleteCallback returnCode) },
          .completed i returnCode)
    else none
  | .access =>
    match s.running with
    | some (i, a :: rest) =>
      match s.frames[i]? with
      | none => none
      | some f =>
        match a.run matchTopic f.xCommandContext s.pxGlobalSubscriptionList s.notification with
        | none => none
        | some (c, l, notification) =>
          some ({ s with
            frames := s.frames.set i { f with xCommandContext := c }
            notification := notification
            running := if rest = [] then none else some (i, rest)
            pxGlobalSubscriptionList := l }, .accessed i a)
    | _ => none

/-- The commands. -/
def otaCommands : Machine CommandState CommandStep CommandEvent := ⟨commandStep matchTopic⟩

/-- The start. -/
def commandStart (l : GlobalSubscriptionList) : CommandState := ⟨[], .idle, none, [], none, l⟩

end OtaDemo
