import TrustZone.Pkcs11.Digest

/-!
# The heap blocks of a session

The digests of a session together with its searches: `C_FindObjectsInit` takes a block for the label of
the search and keeps it in `pxFindObjectLabel`, `C_FindObjectsFinal` frees it.
-/

namespace Pkcs11

open Lib Psa

/-- The module, with the block of the label that each session searches for. -/
structure SessionState where
  digest : DigestState
  pxFindObjectLabel : Nat → Option Nat

/-- The heap. -/
def SessionState.heap (s : SessionState) : Heap := s.digest.heap

/-- Replace the heap. -/
def SessionState.setHeap (s : SessionState) (heap : Heap) : SessionState :=
  { s with digest := { s.digest with heap := heap } }

/-- Replace the label of a session. -/
def SessionState.setLabel (s : SessionState) (p : Nat) (q : Option Nat) : SessionState :=
  { s with pxFindObjectLabel := Function.update s.pxFindObjectLabel p q }

/-- The loop of `C_FindObjectsInit` over the template: copy every label into the block. -/
def copyLabelsTo (q : Nat) : List Attribute → Heap → CkRv → Option (CkRv × Heap)
  | [], heap, xResult => some (xResult, heap)
  | a :: as, heap, xResult =>
    if a.isLabel then
      match heap.write q a.value with
      | none => none
      | some heap => copyLabelsTo q as heap .ok
    else copyLabelsTo q as heap xResult

/-- `C_FindObjectsInit`, past its arguments, on the session `p`. The block is zeroed, gets the labels, and
is freed again if there is none. -/
def startSearch (al : Allocator) (s : SessionState) (p : Nat) (a : Attribute) (as : List Attribute) :
    Option (SessionState × CkRv) :=
  if s.pxFindObjectLabel p ≠ none then some (s, .operationActive)
  else
    match s.heap.malloc al (a.value.length + 1) with
    | (none, heap) => some (s.setHeap heap, .hostMemory)
    | (some q, heap) =>
      match heap.write q (List.replicate (a.value.length + 1) 0) with
      | none => none
      | some heap =>
        match copyLabelsTo q (a :: as) heap .templateIncomplete with
        | none => none
        | some (xResult, heap) =>
          if xResult = .ok then some ((s.setHeap heap).setLabel p (some q), .ok)
          else
            match heap.free q with
            | none => none
            | some heap => some (s.setHeap heap, xResult)

/-- `C_FindObjectsInit`. -/
def findObjectsInit (al : Allocator) (s : SessionState) (xSession : SessionHandle)
    (pxTemplate : Option (List Attribute)) : Option (SessionState × CkRv) :=
  match digestCheck s.digest xSession with
  | none => none
  | some check =>
    match pxTemplate with
    | none => some (s, .argumentsBad)
    | some [] => some (s, .argumentsBad)
    | some (a :: as) =>
      if as.length ≠ 0 ∧ as.length ≠ 1 then some (s, .argumentsBad)
      else
        match check with
        | .error e => some (s, e)
        | .ok (p, _) => startSearch al s p a as

/-- `C_FindObjectsFinal`. -/
def findObjectsFinal (s : SessionState) (xSession : SessionHandle) : Option (SessionState × CkRv) :=
  match digestCheck s.digest xSession with
  | none => none
  | some (.error e) => some (s, e)
  | some (.ok (p, _)) =>
    match s.pxFindObjectLabel p with
    | none => some (s, .operationNotInitialized)
    | some q =>
      match s.heap.free q with
      | none => none
      | some heap => some ((s.setHeap heap).setLabel p none, .ok)

/-- A call. -/
inductive SessionCall
  | digest (c : DigestCall)
  | cFindObjectsInit (xSession : SessionHandle) (pxTemplate : Option (List Attribute))
  | cFindObjectsFinal (xSession : SessionHandle)

/-- One call. A session that is opened is zeroed. -/
def sessionStep (al : Allocator) (sha256 : List UInt8 → List UInt8) (s : SessionState) :
    SessionCall → Option (SessionState × DigestAns)
  | .digest c =>
    match digestStep al sha256 s.digest c with
    | none => none
    | some (d, a) =>
      let s : SessionState := { s with digest := d }
      match a.xSession with
      | none => some (s, a)
      | some p => some (s.setLabel p none, a)
  | .cFindObjectsInit xSession pxTemplate =>
    (findObjectsInit al s xSession pxTemplate).map fun r => (r.1, { rv := r.2 })
  | .cFindObjectsFinal xSession =>
    (findObjectsFinal s xSession).map fun r => (r.1, { rv := r.2 })

/-- The module. -/
def sessionMachine (al : Allocator) (sha256 : List UInt8 → List UInt8) :
    Machine SessionState SessionCall DigestAns := ⟨sessionStep al sha256⟩

end Pkcs11
