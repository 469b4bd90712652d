import TrustZone.Lib.Bytes

/-!
# The subscription manager (`mqtt_subscription_manager.c`)

An array of subscriptions, each a topic filter with a callback and its context. A slot whose filter has
the length zero is free. The filters are the bytes that the stored pointers point to, and do not change
while they are in the list. `MQTT_MatchTopic` is a parameter.
-/

namespace Mqtt

open Lib

/-- `SubscriptionElement_t` of a slot that is taken. The context is a pointer, or `NULL`. -/
structure SubscriptionElement (κ : Type) where
  pcSubscriptionFilterString : List UInt8
  pxIncomingPublishCallback : κ
  pvIncomingPublishCallbackContext : Option Nat
  filter_ne : pcSubscriptionFilterString ≠ []
  deriving DecidableEq

/-- `pxSubscriptionList`; `none` is a zeroed slot. -/
abbrev SubscriptionList (κ : Type) := List (Option (SubscriptionElement κ))

/-- The same length, and `strncmp` of that length is zero. -/
def sameFilter (pcTopicFilterString pcSubscriptionFilterString : List UInt8) : Bool :=
  pcTopicFilterString.length = pcSubscriptionFilterString.length ∧
    cstr pcTopicFilterString = cstr pcSubscriptionFilterString

variable {κ : Type}

/-- The subscriptions of a list. -/
def subscriptions (l : SubscriptionList κ) : List (SubscriptionElement κ) := l.filterMap id

section
variable [DecidableEq κ]

/-- A subscription that makes a new one a duplicate. -/
def SubscriptionElement.duplicates (x e : SubscriptionElement κ) : Bool :=
  sameFilter e.pcSubscriptionFilterString x.pcSubscriptionFilterString ∧
    x.pxIncomingPublishCallback = e.pxIncomingPublishCallback ∧
    x.pvIncomingPublishCallbackContext = e.pvIncomingPublishCallbackContext

/-- The loop of `SubscriptionManager_AddSubscription` over slots with their indices: a duplicate, or the
available index seen last. -/
def addScan (e : SubscriptionElement κ) :
    List (Option (SubscriptionElement κ) × Nat) → Option Nat → Unit ⊕ Option Nat
  | [], xAvailableIndex => .inr xAvailableIndex
  | (none, lIndex) :: slots, _ => addScan e slots (some lIndex)
  | (some x, _) :: slots, xAvailableIndex =>
    if x.duplicates e then .inl () else addScan e slots xAvailableIndex

/-- `SubscriptionManager_AddSubscription`, with a list and a callback that are not `NULL`. -/
def subscriptionManagerAddSubscription (pxSubscriptionList : SubscriptionList κ)
    (pcTopicFilterString : List UInt8) (pxIncomingPublishCallback : κ)
    (pvIncomingPublishCallbackContext : Option Nat) : Bool × SubscriptionList κ :=
  if h : pcTopicFilterString = [] then (false, pxSubscriptionList)
  else
    let e : SubscriptionElement κ :=
      ⟨pcTopicFilterString, pxIncomingPublishCallback, pvIncomingPublishCallbackContext, h⟩
    match addScan e pxSubscriptionList.zipIdx.reverse none with
    | .inl () => (true, pxSubscriptionList)
    | .inr none => (false, pxSubscriptionList)
    | .inr (some xAvailableIndex) => (true, pxSubscriptionList.set xAvailableIndex (some e))

end

/-- `SubscriptionManager_RemoveSubscription`. -/
def subscriptionManagerRemoveSubscription (pxSubscriptionList : SubscriptionList κ)
    (pcTopicFilterString : List UInt8) : SubscriptionList κ :=
  if pcTopicFilterString = [] then pxSubscriptionList
  else
    pxSubscriptionList.map fun
      | none => none
      | some x => if sameFilter pcTopicFilterString x.pcSubscriptionFilterString then none else some x

/-- `SubscriptionManager_HandleIncomingPublishes`: whether the publish is handled, and the callbacks that
run, with their contexts. -/
def subscriptionManagerHandleIncomingPublishes (matchTopic : List UInt8 → List UInt8 → Bool)
    (pxSubscriptionList : SubscriptionList κ) (pTopicName : List UInt8) :
    Bool × List (κ × Option Nat) :=
  let runs := pxSubscriptionList.filterMap fun
    | none => none
    | some x =>
      if matchTopic pTopicName x.pcSubscriptionFilterString then
        some (x.pxIncomingPublishCallback, x.pvIncomingPublishCallbackContext)
      else none
  (!runs.isEmpty, runs)

end Mqtt
