import TrustZone.Mqtt.SubscriptionManager

/-!
# How the OTA demo routes messages (`ota_demo_core_mqtt.c`)

The registry of topic filters and callbacks, what the completion of a subscribe or an unsubscribe command
does to the list of subscriptions, and which callbacks a publish runs. `MQTT_MatchTopic` is a parameter; it
succeeds on the arguments it gets.
-/

namespace OtaDemo

open Lib Mqtt

/-- `MQTTStatus_t`, the codes that the program names. -/
inductive MqttStatus
  | success | badParameter | sendFailed
  | other (code : Nat)
  deriving DecidableEq

/-- The functions that are registered for publishes. -/
inductive IncomingPubCallback
  | prvMqttJobCallback
  | prvMqttDataCallback
  | prvMqttDefaultCallback
  deriving DecidableEq

def otaexampleTopicPrefix : List UInt8 := ascii "$aws/things/+/"

def otaexampleJobNotifyTopicFilter : List UInt8 := otaexampleTopicPrefix ++ ascii "jobs/notify-next"

def otaexampleJobAcceptedResponseTopicFilter : List UInt8 :=
  otaexampleTopicPrefix ++ ascii "jobs/$next/get/accepted"

def otaexampleDataStreamTopicFilter : List UInt8 := otaexampleTopicPrefix ++ ascii "streams/#"

def otaexampleDefaultTopicFilter : List UInt8 := otaexampleTopicPrefix ++ ascii "jobs/#"

/-- `xOtaTopicFilterCallbacks`. -/
def xOtaTopicFilterCallbacks : List (List UInt8 × IncomingPubCallback) :=
  [(otaexampleJobNotifyTopicFilter, .prvMqttJobCallback),
    (otaexampleDataStreamTopicFilter, .prvMqttDataCallback),
    (otaexampleDefaultTopicFilter, .prvMqttDefaultCallback)]

/-- `pxGlobalSubscriptionList`. -/
abbrev GlobalSubscriptionList := SubscriptionList IncomingPubCallback

variable (matchTopic : List UInt8 → List UInt8 → Bool)

/-- `prvRegisterOTACallback`. That a subscription does not fit is only logged. -/
def prvRegisterOTACallback (l : GlobalSubscriptionList) (pcTopicFilter : List UInt8) :
    GlobalSubscriptionList :=
  xOtaTopicFilterCallbacks.foldl
    (fun l (filter, xCallback) =>
      if matchTopic pcTopicFilter filter then
        (subscriptionManagerAddSubscription l pcTopicFilter xCallback none).2
      else l) l

/-- `prvMQTTSubscribeCompleteCallback`, the list. -/
def subscribeCompleted (l : GlobalSubscriptionList) (returnCode : MqttStatus)
    (pTopicFilter : List UInt8) : GlobalSubscriptionList :=
  if returnCode = .success then prvRegisterOTACallback matchTopic l pTopicFilter else l

/-- `prvMQTTUnsubscribeCompleteCallback`, the list. -/
def unsubscribeCompleted (l : GlobalSubscriptionList) (returnCode : MqttStatus)
    (pTopicFilter : List UInt8) : GlobalSubscriptionList :=
  if returnCode = .success then subscriptionManagerRemoveSubscription l pTopicFilter else l

/-! ## Publishes -/

/-- What is done with the message of a publish. -/
inductive Handled
  | jobDocument
  | fileBlock
  deriving DecidableEq

/-- One run of a callback: `prvMqttJobCallback` and `prvMqttDataCallback` take the message, and
`prvMqttDefaultCallback` runs the former for a response to a job request. -/
def runCallback (pTopicName : List UInt8) : IncomingPubCallback → List Handled
  | .prvMqttJobCallback => [.jobDocument]
  | .prvMqttDataCallback => [.fileBlock]
  | .prvMqttDefaultCallback =>
    if matchTopic pTopicName otaexampleJobAcceptedResponseTopicFilter then [.jobDocument] else []

/-- `prvIncomingPublishCallback`: the runs of `prvMqttJobCallback` and `prvMqttDataCallback`. A publish that
is not handled is only logged. -/
def prvIncomingPublishCallback (l : GlobalSubscriptionList) (pTopicName : List UInt8) : List Handled :=
  (subscriptionManagerHandleIncomingPublishes matchTopic l pTopicName).2.flatMap fun (xCallback, _) =>
    runCallback matchTopic pTopicName xCallback

/-! ## Histories -/

/-- The completion of a command. -/
inductive Completion (τ : Type)
  | subscribed (returnCode : MqttStatus) (topic : τ)
  | unsubscribed (returnCode : MqttStatus) (topic : τ)

/-- A completion, on the list. -/
def complete (l : GlobalSubscriptionList) : Completion (List UInt8) → GlobalSubscriptionList
  | .subscribed returnCode topic => subscribeCompleted matchTopic l returnCode topic
  | .unsubscribed returnCode topic => unsubscribeCompleted l returnCode topic

/-- The list of `n` slots after the registration of the default filter and the completions `cs`. -/
def listAfter (n : Nat) (cs : List (Completion (List UInt8))) : GlobalSubscriptionList :=
  cs.foldl (complete matchTopic)
    (prvRegisterOTACallback matchTopic (List.replicate n none) otaexampleDefaultTopicFilter)

end OtaDemo
