import Mathlib.Data.List.FinRange
import Mathlib.Logic.Function.Basic
import TrustZone.Lib.Runs
import TrustZone.OtaDemo.Routing

/-!
# The event buffers of the OTA demo (`ota_demo_core_mqtt.c`)

`pxEventBuffer`, `n` buffers with `capacity` bytes of data each (the size of `OtaEventData_t.data`), the
callbacks that fill one and signal an event with it, and the callback of the OTA agent that frees it. A
copy has the bounds of the buffer.

`otaEvents` is the machine of these callbacks. Its state has the events that `OTA_SignalEvent` accepted and
the OTA agent has not processed, in order.
-/

namespace OtaDemo

open Lib

/-- `OtaEventData_t`. -/
structure OtaEventData (capacity : Nat) where
  data : List UInt8
  dataLength : Nat
  bufferUsed : Bool
  size : data.length = capacity

/-- `pxEventBuffer`. -/
abbrev EventBuffers (n capacity : Nat) := Fin n → OtaEventData capacity

/-- The events that come with a buffer. -/
inductive OtaEvent
  | receivedJobDocument
  | receivedFileBlock
  deriving DecidableEq

/-- `OtaEventMsg_t`: `pEventData` points to a buffer. -/
structure OtaEventMsg (n : Nat) where
  eventId : OtaEvent
  pEventData : Fin n
  deriving DecidableEq

/-- `OtaJobEvent_t`. -/
inductive OtaJobEvent
  | activate | fail | startTest | processed | selfTestFailed
  deriving DecidableEq

variable {n capacity : Nat}

/-- `prvOtaEventBufferFree`, once the semaphore is taken or not. -/
def prvOtaEventBufferFree (lock : Bool) (b : EventBuffers n capacity) (pxBuffer : Fin n) :
    EventBuffers n capacity :=
  if lock then Function.update b pxBuffer { b pxBuffer with bufferUsed := false } else b

/-- `prvOtaEventBufferGet`, once the semaphore is taken or not: the first free buffer. -/
def prvOtaEventBufferGet (lock : Bool) (b : EventBuffers n capacity) :
    Option (Fin n) × EventBuffers n capacity :=
  if lock then
    match (List.finRange n).find? fun ulIndex => !(b ulIndex).bufferUsed with
    | none => (none, b)
    | some ulIndex => (some ulIndex, Function.update b ulIndex { b ulIndex with bufferUsed := true })
  else (none, b)

/-- Copy a payload into a buffer. -/
def OtaEventData.fill (d : OtaEventData capacity) (pPayload : List UInt8) :
    Except MemFault (OtaEventData capacity) :=
  match h : memcpy d.data 0 pPayload pPayload.length with
  | .error e => .error e
  | .ok data =>
    .ok { d with data := data, dataLength := pPayload.length, size := (memcpy_length h).trans d.size }

/-- A publish whose payload goes to the OTA agent: the event that is signalled, if there is a buffer for
it, and the buffers. -/
def receivePublish (eventId : OtaEvent) (lock : Bool) (b : EventBuffers n capacity)
    (pPayload : List UInt8) : Except MemFault (Option (OtaEventMsg n) × EventBuffers n capacity) :=
  match prvOtaEventBufferGet lock b with
  | (none, b) => .ok (none, b)
  | (some pxEventData, b) =>
    match (b pxEventData).fill pPayload with
    | .error e => .error e
    | .ok d => .ok (some ⟨eventId, pxEventData⟩, Function.update b pxEventData d)

/-- `prvMqttJobCallback`. -/
def prvMqttJobCallback (lock : Bool) (b : EventBuffers n capacity) (pPayload : List UInt8) :
    Except MemFault (Option (OtaEventMsg n) × EventBuffers n capacity) :=
  receivePublish .receivedJobDocument lock b pPayload

/-- `prvMqttDataCallback`. -/
def prvMqttDataCallback (lock : Bool) (b : EventBuffers n capacity) (pPayload : List UInt8) :
    Except MemFault (Option (OtaEventMsg n) × EventBuffers n capacity) :=
  receivePublish .receivedFileBlock lock b pPayload

/-- `prvOtaAppCallback`, the buffers. The other events call the OTA library. -/
def prvOtaAppCallback (lock : Bool) (b : EventBuffers n capacity) (xEvent : OtaJobEvent)
    (pData : Option (Fin n)) : EventBuffers n capacity :=
  match xEvent, pData with
  | .processed, some pData => prvOtaEventBufferFree lock b pData
  | _, _ => b

/-! ## The machine -/

structure EventState (n capacity : Nat) where
  pxEventBuffer : EventBuffers n capacity
  pending : List (OtaEventMsg n)

/-- What happens: a message of a publish, with the result of `OTA_SignalEvent`; the OTA agent has processed
an event; it calls back with another event, without a buffer. -/
inductive EventCall (n : Nat)
  | message (handled : Handled) (pPayload : List UInt8) (lock accepted : Bool)
  | processed (msg : OtaEventMsg n) (lock : Bool)
  | callback (xEvent : OtaJobEvent) (lock : Bool)

/-- The callback of a message. -/
def takeMessage : Handled → Bool → EventBuffers n capacity → List UInt8 →
    Except MemFault (Option (OtaEventMsg n) × EventBuffers n capacity)
  | .jobDocument => prvMqttJobCallback
  | .fileBlock => prvMqttDataCallback

/-- One step. The result of `OTA_SignalEvent` is not looked at. An event is processed when it is pending. -/
def eventStep (s : EventState n capacity) : EventCall n → Option (EventState n capacity × Unit)
  | .message handled pPayload lock accepted =>
    match takeMessage handled lock s.pxEventBuffer pPayload with
    | .error _ => none
    | .ok (none, b) => some ({ s with pxEventBuffer := b }, ())
    | .ok (some msg, b) =>
      some (⟨b, if accepted then s.pending ++ [msg] else s.pending⟩, ())
  | .processed msg lock =>
    if msg ∈ s.pending then
      some (⟨prvOtaAppCallback lock s.pxEventBuffer .processed (some msg.pEventData),
        s.pending.erase msg⟩, ())
    else some (s, ())
  | .callback xEvent lock =>
    some ({ s with pxEventBuffer := prvOtaAppCallback lock s.pxEventBuffer xEvent none }, ())

/-- The callbacks. -/
def otaEvents (n capacity : Nat) : Machine (EventState n capacity) (EventCall n) Unit := ⟨eventStep⟩

/-- The start: all buffers are zero. -/
def eventStart (n capacity : Nat) : EventState n capacity :=
  ⟨fun _ => ⟨List.replicate capacity 0, 0, false, List.length_replicate⟩, []⟩

end OtaDemo
