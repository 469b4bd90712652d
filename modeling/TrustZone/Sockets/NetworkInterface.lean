import Mathlib.Data.List.Basic

/-!
# The Ethernet interface (`NetworkInterface.c`)

The receive loop of `ETH_Thread`. The driver holds the frames that came in; a read with a positive result and a
dump take one out. What the driver, the pool of network buffers, the frame filter and the queue of the IP task
answer is free.
-/

namespace Sockets

/-- What `GetRxFrameSize` reports when there is a frame. -/
abbrev FrameSize := {size : BitVec 32 // 0 < size}

/-- The answers for one frame: `pxGetNetworkBufferWithDescriptor`, `ReadFrame` (an `int32_t`),
`eConsiderFrameForProcessing` and `xSendEventStructToIPTask`. -/
structure FrameAns where
  pxBufferDescriptor : Bool
  ReadFrame : BitVec 32
  eProcessBuffer : Bool
  sent : Bool

/-- What the loop does. -/
inductive EthEvent
  | pxGetNetworkBufferWithDescriptor (size : BitVec 32) (granted : Bool)
  | ReadFrame (size : BitVec 32) (rval : BitVec 32)
  | eConsiderFrameForProcessing
  | xSendEventStructToIPTask (sent : Bool)
  | dump
  | vReleaseNetworkBufferAndDescriptor
deriving DecidableEq

/-- `rval > 0U`: the `int32_t` is compared as an unsigned number. -/
def rvalPositive (rval : BitVec 32) : Bool := 0 < rval.toNat

/-- What is done with a buffer that was filled, and `dump_fbuf`. -/
def handOver (a : FrameAns) : List EthEvent × Bool :=
  if a.eProcessBuffer then
    ([.eConsiderFrameForProcessing, .xSendEventStructToIPTask a.sent], !a.sent)
  else ([.eConsiderFrameForProcessing], true)

/-- What is done with the buffer, `dump_frame` and `dump_fbuf`. -/
def readFrame (size : BitVec 32) (a : FrameAns) : List EthEvent × Bool × Bool :=
  if a.pxBufferDescriptor then
    if rvalPositive a.ReadFrame then
      let (events, dump_fbuf) := handOver a
      (.ReadFrame size a.ReadFrame :: events, false, dump_fbuf)
    else ([.ReadFrame size a.ReadFrame], true, true)
  else ([], true, true)

/-- One frame. -/
def rxFrame (size : BitVec 32) (a : FrameAns) : List EthEvent :=
  let (events, dump_frame, dump_fbuf) := readFrame size a
  .pxGetNetworkBufferWithDescriptor size a.pxBufferDescriptor :: events ++ (if dump_frame then [.dump] else []) ++
    if dump_fbuf ∧ a.pxBufferDescriptor then [.vReleaseNetworkBufferAndDescriptor] else []

/-- The event takes a frame out of the driver. -/
def EthEvent.takes : EthEvent → Bool
  | .ReadFrame _ rval => 0 < rval.toInt
  | .dump => true
  | .pxGetNetworkBufferWithDescriptor _ _ | .eConsiderFrameForProcessing | .xSendEventStructToIPTask _
  | .vReleaseNetworkBufferAndDescriptor => false

/-- The inner loop, from the `n`-th iteration of the thread on, while the driver holds `frames`: what it does for
each frame. It has not ended after `fuel` iterations: `none`. -/
def rxLoop (ans : Nat → FrameAns) : Nat → Nat → List FrameSize → Option (List (List EthEvent))
  | 0, _, _ => none
  | _ + 1, _, [] => some []
  | fuel + 1, n, size :: frames =>
    let events := rxFrame size (ans n)
    (rxLoop ans fuel (n + 1) ((size :: frames).drop (events.countP EthEvent.takes))).map (events :: ·)

/-- `ETH_Thread`, which is woken up once for each list of frames. -/
def ETH_Thread (ans : Nat → FrameAns) (fuel : Nat) : Nat → List (List FrameSize) →
    Option (List (List EthEvent))
  | _, [] => some []
  | n, frames :: wakeups =>
    match rxLoop ans fuel n frames with
    | none => none
    | some events => (ETH_Thread ans fuel (n + events.length) wakeups).map (events ++ ·)

end Sockets
