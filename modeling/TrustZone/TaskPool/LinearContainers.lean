import TrustZone.Lib.Ring

/-!
# Linear containers (`iot_linear_containers.h`)

Doubly linked lists and queues of the links that objects carry in them. `next` and `prev` of a link are its
`pNext` and `pPrevious`. A list is the address of its head. What follows a null pointer is undefined, a
failed assertion does not return, and a loop over a list runs for `fuel` elements at most. Where a function
checks a pointer for `NULL` it gets an `Option`.
-/

namespace TaskPool

open Lib (Links)

variable {α : Type} [DecidableEq α]

def iotLinkIsLinked (m : Links α) : Option α → Bool
  | none => false
  | some pLink => (m pLink).next.isSome && (m pLink).prev.isSome

def iotListDoubleCreate (m : Links α) (pList : α) : Links α :=
  (m.setPrev pList (some pList)).setNext pList (some pList)

/-- The loop of `IotListDouble_Count`. -/
def countFrom (m : Links α) (pList : α) : Nat → Option α → Option Nat
  | 0, _ => none
  | fuel + 1, pCurrent =>
    if pCurrent = some pList then some 0
    else match pCurrent with
      | none => none
      | some p => (countFrom m pList fuel (m p).next).map (· + 1)

def iotListDoubleCount (fuel : Nat) (m : Links α) : Option α → Option Nat
  | none => some 0
  | some pList => countFrom m pList fuel (m pList).next

def iotListDoubleIsEmpty (m : Links α) : Option α → Bool
  | none => true
  | some pList => (m pList).next == some pList

def iotListDoublePeekHead (m : Links α) : Option α → Option α
  | none => none
  | some pList => if iotListDoubleIsEmpty m (some pList) = false then (m pList).next else none

def iotListDoublePeekTail (m : Links α) : Option α → Option α
  | none => none
  | some pList => if iotListDoubleIsEmpty m (some pList) = false then (m pList).prev else none

def iotListDoubleInsertHead (m : Links α) (pList pLink : α) : Option (Links α) :=
  match (m pList).next with
  | none => none
  | some pHead =>
    some ((((m.setNext pLink (some pHead)).setPrev pLink (some pList)).setPrev pHead (some pLink)).setNext pList
      (some pLink))

def iotListDoubleInsertTail (m : Links α) (pList pLink : α) : Option (Links α) :=
  match (m pList).prev with
  | none => none
  | some pTail =>
    some ((((m.setNext pLink (some pList)).setPrev pLink (some pTail)).setPrev pList (some pLink)).setNext pTail
      (some pLink))

def iotListDoubleInsertBefore (m : Links α) (pElement pLink : α) : Option (Links α) :=
  iotListDoubleInsertTail m pElement pLink

def iotListDoubleInsertAfter (m : Links α) (pElement pLink : α) : Option (Links α) :=
  iotListDoubleInsertHead m pElement pLink

/-- The loop of `IotListDouble_InsertSorted`, and the insertion at the tail when it has not inserted. -/
def insertSortedFrom (m : Links α) (pList pLink : α) (compare : α → α → Int) :
    Nat → Option α → Option (Links α)
  | 0, _ => none
  | fuel + 1, pCurrent =>
    if pCurrent = some pList then iotListDoubleInsertTail m pList pLink
    else match pCurrent with
      | none => none
      | some p =>
        if compare pLink p < 0 then iotListDoubleInsertBefore m p pLink
        else insertSortedFrom m pList pLink compare fuel (m p).next

def iotListDoubleInsertSorted (fuel : Nat) (m : Links α) (pList pLink : α) (compare : α → α → Int) :
    Option (Links α) :=
  if iotListDoubleIsEmpty m (some pList) = true then iotListDoubleInsertHead m pList pLink
  else insertSortedFrom m pList pLink compare fuel (m pList).next

def iotListDoubleRemove (m : Links α) (pLink : α) : Option (Links α) :=
  match (m pLink).prev, (m pLink).next with
  | some pPrevious, some pNext =>
    some ((((m.setNext pPrevious (some pNext)).setPrev pNext (some pPrevious)).setPrev pLink none).setNext pLink
      none)
  -- IotContainers_Assert( IotLink_IsLinked( pLink ) == true )
  | _, _ => none

def iotListDoubleRemoveHead (m : Links α) (pList : Option α) : Option (Option α × Links α) :=
  match iotListDoublePeekHead m pList with
  | none => some (none, m)
  | some pHead => (iotListDoubleRemove m pHead).map fun m => (some pHead, m)

def iotListDoubleRemoveTail (m : Links α) (pList : Option α) : Option (Option α × Links α) :=
  match iotListDoublePeekTail m pList with
  | none => some (none, m)
  | some pTail => (iotListDoubleRemove m pTail).map fun m => (some pTail, m)

/-- The loop of `IotListDouble_RemoveAll`, with the elements that `freeElement` gets. -/
def removeAllFrom (pList : α) : Nat → Links α → Option α → Option (List α × Links α)
  | 0, _, _ => none
  | fuel + 1, m, pCurrent =>
    if pCurrent = some pList then some ([], m)
    else match pCurrent with
      | none => none
      | some p =>
        match iotListDoubleRemove m p with
        | none => none
        | some m' => (removeAllFrom pList fuel m' (m p).next).map fun (freed, m) => (p :: freed, m)

def iotListDoubleRemoveAll (fuel : Nat) (m : Links α) (pList : α) : Option (List α × Links α) :=
  removeAllFrom pList fuel m (m pList).next

/-- The loop of `IotListDouble_FindFirstMatch`; without `isMatch` the addresses are compared. -/
def findFrom (m : Links α) (pList : α) (isMatch : α → Bool) : Nat → Option α → Option (Option α)
  | 0, _ => none
  | fuel + 1, pCurrent =>
    if pCurrent = some pList then some none
    else match pCurrent with
      | none => none
      | some p => if isMatch p then some (some p) else findFrom m pList isMatch fuel (m p).next

def iotListDoubleFindFirstMatch (fuel : Nat) (m : Links α) (pList : α) (pStartPoint : Option α)
    (isMatch : α → Bool) : Option (Option α) :=
  findFrom m pList isMatch fuel (if pStartPoint = none then (m pList).next else pStartPoint)

def iotListDoubleRemoveFirstMatch (fuel : Nat) (m : Links α) (pList : α) (pStartPoint : Option α)
    (isMatch : α → Bool) : Option (Option α × Links α) :=
  match iotListDoubleFindFirstMatch fuel m pList pStartPoint isMatch with
  | none => none
  | some none => some (none, m)
  | some (some p) => (iotListDoubleRemove m p).map fun m => (some p, m)

/-- The loop of `IotListDouble_RemoveAllMatches`, with the elements that `freeElement` gets. -/
def removeMatchesFrom (fuel : Nat) (pList : α) (isMatch : α → Bool) :
    Nat → Links α → Option α → Option (List α × Links α)
  | 0, _, _ => none
  | n + 1, m, pStartPoint =>
    match iotListDoubleFindFirstMatch fuel m pList pStartPoint isMatch with
    | none => none
    | some none => some ([], m)
    | some (some p) =>
      match iotListDoubleRemove m p with
      | none => none
      | some m' =>
        (removeMatchesFrom fuel pList isMatch n m' (m p).next).map fun (freed, m) => (p :: freed, m)

def iotListDoubleRemoveAllMatches (fuel : Nat) (m : Links α) (pList : α) (isMatch : α → Bool) :
    Option (List α × Links α) :=
  removeMatchesFrom fuel pList isMatch fuel m none

/-! ## Queues -/

def iotDeQueueCreate (m : Links α) (pQueue : α) : Links α := iotListDoubleCreate m pQueue

def iotDeQueueEnqueueHead (m : Links α) (pQueue pLink : α) : Option (Links α) :=
  iotListDoubleInsertHead m pQueue pLink

def iotDeQueueEnqueueTail (m : Links α) (pQueue pLink : α) : Option (Links α) :=
  iotListDoubleInsertTail m pQueue pLink

def iotDeQueueDequeueHead (m : Links α) (pQueue : Option α) : Option (Option α × Links α) :=
  iotListDoubleRemoveHead m pQueue

def iotDeQueueDequeueTail (m : Links α) (pQueue : Option α) : Option (Option α × Links α) :=
  iotListDoubleRemoveTail m pQueue

def iotDeQueueRemove (m : Links α) (pLink : α) : Option (Links α) := iotListDoubleRemove m pLink

/-! ## Calls -/

/-- A call of a function on lists; the functions on queues are the same ones. -/
inductive ContainerCall (α : Type)
  | create (pList : α)
  | insertHead (pList pLink : α)
  | insertTail (pList pLink : α)
  | insertBefore (pElement pLink : α)
  | insertAfter (pElement pLink : α)
  | insertSorted (pList pLink : α) (compare : α → α → Int)
  | remove (pLink : α)
  | removeHead (pList : α)
  | removeTail (pList : α)
  | removeAll (pList : α)
  | removeFirstMatch (pList : α) (pStartPoint : Option α) (isMatch : α → Bool)
  | removeAllMatches (pList : α) (isMatch : α → Bool)
  | findFirstMatch (pList : α) (pStartPoint : Option α) (isMatch : α → Bool)
  | peekHead (pList : α)
  | peekTail (pList : α)
  | count (pList : α)
  | isEmpty (pList : α)
  | isLinked (pLink : α)

/-- What a call returns. -/
inductive ContainerRet (α : Type)
  | void
  | link (pLink : Option α)
  | freed (pLinks : List α)
  | count (n : Nat)
  | bool (b : Bool)

def ContainerCall.run (fuel : Nat) (m : Links α) : ContainerCall α → Option (ContainerRet α × Links α)
  | create pList => some (.void, iotListDoubleCreate m pList)
  | insertHead pList pLink => (iotListDoubleInsertHead m pList pLink).map (.void, ·)
  | insertTail pList pLink => (iotListDoubleInsertTail m pList pLink).map (.void, ·)
  | insertBefore pElement pLink => (iotListDoubleInsertBefore m pElement pLink).map (.void, ·)
  | insertAfter pElement pLink => (iotListDoubleInsertAfter m pElement pLink).map (.void, ·)
  | insertSorted pList pLink compare => (iotListDoubleInsertSorted fuel m pList pLink compare).map (.void, ·)
  | remove pLink => (iotListDoubleRemove m pLink).map (.void, ·)
  | removeHead pList => (iotListDoubleRemoveHead m (some pList)).map fun (p, m) => (.link p, m)
  | removeTail pList => (iotListDoubleRemoveTail m (some pList)).map fun (p, m) => (.link p, m)
  | removeAll pList => (iotListDoubleRemoveAll fuel m pList).map fun (ps, m) => (.freed ps, m)
  | removeFirstMatch pList pStartPoint isMatch =>
    (iotListDoubleRemoveFirstMatch fuel m pList pStartPoint isMatch).map fun (p, m) => (.link p, m)
  | removeAllMatches pList isMatch =>
    (iotListDoubleRemoveAllMatches fuel m pList isMatch).map fun (ps, m) => (.freed ps, m)
  | findFirstMatch pList pStartPoint isMatch =>
    (iotListDoubleFindFirstMatch fuel m pList pStartPoint isMatch).map fun p => (.link p, m)
  | peekHead pList => some (.link (iotListDoublePeekHead m (some pList)), m)
  | peekTail pList => some (.link (iotListDoublePeekTail m (some pList)), m)
  | count pList => (iotListDoubleCount fuel m (some pList)).map fun n => (.count n, m)
  | isEmpty pList => some (.bool (iotListDoubleIsEmpty m (some pList)), m)
  | isLinked pLink => some (.bool (iotLinkIsLinked m (some pLink)), m)

end TaskPool
