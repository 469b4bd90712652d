import TrustZone.Lib.Runs
import Mathlib.Algebra.Group.Nat.Defs
import Mathlib.Logic.Function.Basic

/-!
# Characters from the UART (`retarget_stdio.c`)

The receive callback of the driver and `stdin_getchar`, step by step: the UART stores the bytes that come in
where a reception is armed, the callback counts them and arms the next reception, and the thread that calls
`stdin_getchar` can be interrupted between any two of its accesses to the counters, the buffer and the event
flag.
-/

namespace Board

open Lib

def UART_BUFFER_SIZE : Nat := 2048

/-- A reception that is armed by `HAL_UARTEx_ReceiveToIdle_IT( &HUARTx, pData, Size )`: `pData` as an index into
`uart_rx_buf`, and how many bytes have come in. -/
structure Reception where
  pData : Nat
  Size : Nat
  count : Nat
deriving DecidableEq

/-- Where the thread is. -/
inductive Thread
  /-- Not in `stdin_getchar`. -/
  | idle
  /-- Before `cnt = uart_rx_idx_i - uart_rx_idx_o`. -/
  | count
  /-- Before `ch = uart_rx_buf[idx]`, with `cnt > 0U`. -/
  | read
  /-- Before `uart_rx_idx_o++` and the return. -/
  | advance (ch : UInt8)
  /-- In `osEventFlagsWait`. -/
  | wait
deriving DecidableEq

/-- The variables, the memory from `uart_rx_buf` on, the event flag, and what the UART and the thread do. -/
structure Uart where
  uart_rx_initialized : Bool
  uart_rx_buf : Nat → UInt8
  uart_rx_idx_i : BitVec 32
  uart_rx_idx_o : BitVec 32
  uart_rx_event : Bool
  reception : Option Reception
  thread : Thread

/-- Before the first call. -/
def Uart.boot (uart_rx_buf : Nat → UInt8) : Uart := ⟨false, uart_rx_buf, 0, 0, false, none, .idle⟩

/-- `x & ( UART_BUFFER_SIZE - 1U )` -/
def maskIdx (x : BitVec 32) : Nat := (x &&& BitVec.ofNat 32 (UART_BUFFER_SIZE - 1)).toNat

/-- `HAL_UARTEx_ReceiveToIdle_IT( &HUARTx, &uart_rx_buf[idx], cnt )`; the size is an `uint16_t`. -/
def Uart.receiveToIdle (u : Uart) (idx cnt : Nat) : Uart :=
  { u with reception := some ⟨idx, cnt % 2 ^ 16, 0⟩ }

def uart_rx_callback (u : Uart) (num : Nat) : Uart :=
  let uart_rx_idx_i := u.uart_rx_idx_i + BitVec.ofNat 32 num
  let idx := maskIdx uart_rx_idx_i
  let cnt := UART_BUFFER_SIZE - idx
  { { u with uart_rx_idx_i := uart_rx_idx_i }.receiveToIdle idx cnt with uart_rx_event := true }

def uart_rx_init (u : Uart) : Uart :=
  { u with uart_rx_idx_i := 0, uart_rx_idx_o := 0, uart_rx_event := false }.receiveToIdle 0 UART_BUFFER_SIZE

/-- What happens next. -/
inductive UartStep
  /-- The UART stores a byte. -/
  | receive (byte : UInt8)
  /-- The UART is idle or the reception full: the driver calls `uart_rx_callback`. -/
  | callback
  /-- `stdin_getchar` is called. -/
  | call
  /-- The thread goes on. -/
  | run

/-- The start of `stdin_getchar`. -/
def stdin_getchar (u : Uart) : Uart :=
  if u.uart_rx_initialized then { u with thread := .count }
  else { uart_rx_init u with uart_rx_initialized := true, thread := .count }

/-- The next step in `stdin_getchar`, with the character that it returns; a wait for a flag that is not set is
not over. -/
def Uart.run (u : Uart) : Option (Uart × Option UInt8) :=
  match u.thread with
  | .idle => none
  | .count =>
    let cnt := u.uart_rx_idx_i - u.uart_rx_idx_o
    some ({ u with thread := if 0 < cnt then .read else .wait }, none)
  | .read => some ({ u with thread := .advance (u.uart_rx_buf (maskIdx u.uart_rx_idx_o)) }, none)
  | .advance ch => some ({ u with uart_rx_idx_o := u.uart_rx_idx_o + 1, thread := .idle }, some ch)
  | .wait => if u.uart_rx_event then some ({ u with uart_rx_event := false, thread := .count }, none) else none

/-- One step: a byte goes to the next place of the reception, as long as it is not full, and the callback reports
the bytes that have come in. -/
def Uart.step (u : Uart) : UartStep → Option (Uart × Option UInt8)
  | .receive byte =>
    match u.reception with
    | none => none
    | some r =>
      if r.count < r.Size then
        some ({ u with
          uart_rx_buf := Function.update u.uart_rx_buf (r.pData + r.count) byte
          reception := some { r with count := r.count + 1 } }, none)
      else none
  | .callback =>
    match u.reception with
    | none => none
    | some r => if 0 < r.count then some (uart_rx_callback u r.count, none) else none
  | .call => if u.thread = .idle then some (stdin_getchar u, none) else none
  | .run => u.run

/-- The UART, its interrupt and the thread, in any order. -/
def uartMachine : Machine Uart UartStep (Option UInt8) := ⟨Uart.step⟩

end Board
