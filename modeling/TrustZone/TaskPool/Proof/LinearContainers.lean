import Mathlib.Data.List.Sort
import TrustZone.Lib.Runs
import TrustZone.TaskPool.LinearContainers

/-!
# The containers hold lists

* `Effect L c r L'`: what a call is for, said of lists. A call that is not in it is not allowed: an element is
  linked only when it is loose, and removed only when it is in a list.
* `run_effect`: in a memory that holds the lists a call returns and does that.
* `containers_refine`: so does every run of calls.
-/

namespace TaskPool

open Lib Machine
open Lib (Links)
open Lib.Links

variable {α : Type}

/-- A search that starts there looks at the `ys` of a list `xs ++ ys`; with `NULL` it starts at the first element. -/
def StartsAt (h : α) (xs ys : List α) : Option α → Prop
  | none => xs = []
  | some pStartPoint => pStartPoint = ys.headD h

/-- What a call does to the lists, and what it returns. -/
inductive Effect [DecidableEq α] (L : Rings α) : ContainerCall α → ContainerRet α → Rings α → Prop
  | create {h : α} : Loose L h → Effect L (.create h) .void (Function.update L h (some []))
  | insertHead {h x : α} {xs : List α} : L h = some xs → Loose L x →
    Effect L (.insertHead h x) .void (Function.update L h (some (x :: xs)))
  | insertTail {h x : α} {xs : List α} : L h = some xs → Loose L x →
    Effect L (.insertTail h x) .void (Function.update L h (some (xs ++ [x])))
  | insertBefore {h x y : α} {xs ys : List α} : L h = some (xs ++ y :: ys) → Loose L x →
    Effect L (.insertBefore y x) .void (Function.update L h (some (xs ++ x :: y :: ys)))
  | insertAfter {h x y : α} {xs ys : List α} : L h = some (xs ++ y :: ys) → Loose L x →
    Effect L (.insertAfter y x) .void (Function.update L h (some (xs ++ y :: x :: ys)))
  | insertSorted {h x : α} {xs : List α} {compare : α → α → Int} : L h = some xs → Loose L x →
    Effect L (.insertSorted h x compare) .void
      (Function.update L h (some (xs.orderedInsert (fun a b => compare a b < 0) x)))
  | remove {h x : α} {xs ys : List α} : L h = some (xs ++ x :: ys) →
    Effect L (.remove x) .void (Function.update L h (some (xs ++ ys)))
  | removeHead {h : α} {xs : List α} : L h = some xs →
    Effect L (.removeHead h) (.link xs.head?) (Function.update L h (some xs.tail))
  | removeTail {h : α} {xs : List α} : L h = some xs →
    Effect L (.removeTail h) (.link xs.getLast?) (Function.update L h (some xs.dropLast))
  | removeAll {h : α} {xs : List α} : L h = some xs →
    Effect L (.removeAll h) (.freed xs) (Function.update L h (some []))
  | removeFirstMatch {h : α} {xs ys : List α} {pStartPoint : Option α} {isMatch : α → Bool} :
    L h = some (xs ++ ys) → StartsAt h xs ys pStartPoint →
    Effect L (.removeFirstMatch h pStartPoint isMatch) (.link (ys.find? isMatch))
      (Function.update L h (some (xs ++ ys.eraseP isMatch)))
  | removeAllMatches {h : α} {xs : List α} {isMatch : α → Bool} : L h = some xs →
    Effect L (.removeAllMatches h isMatch) (.freed (xs.filter isMatch))
      (Function.update L h (some (xs.filter (!isMatch ·))))
  | findFirstMatch {h : α} {xs ys : List α} {pStartPoint : Option α} {isMatch : α → Bool} :
    L h = some (xs ++ ys) → StartsAt h xs ys pStartPoint →
    Effect L (.findFirstMatch h pStartPoint isMatch) (.link (ys.find? isMatch)) L
  | peekHead {h : α} {xs : List α} : L h = some xs → Effect L (.peekHead h) (.link xs.head?) L
  | peekTail {h : α} {xs : List α} : L h = some xs → Effect L (.peekTail h) (.link xs.getLast?) L
  | count {h : α} {xs : List α} : L h = some xs → Effect L (.count h) (.count xs.length) L
  | isEmpty {h : α} {xs : List α} : L h = some xs → Effect L (.isEmpty h) (.bool xs.isEmpty) L
  | isLinked {x : α} {b : Bool} : (b = true ↔ ¬Loose L x) → Effect L (.isLinked x) (.bool b) L

variable {m : Links α} {L L' : Rings α} {h x y : α} {xs ys : List α}

/-! ## Going through a list -/

/-- The elements before and after a place are linked to each other. -/
theorem follows_at (hm : m.Represents L) (hL : L h = some (xs ++ ys)) :
    m.Follows (xs.getLastD h) (ys.headD h) :=
  (neighbours h xs ys).follows (hm.ring hL)

theorem next_head (hm : m.Represents L) (hL : L h = some xs) : (m h).next = some (xs.headD h) :=
  ((neighbours h [] xs).follows (hm.ring hL)).1

theorem prev_head (hm : m.Represents L) (hL : L h = some xs) : (m h).prev = some (xs.getLastD h) :=
  ((neighbours h xs []).follows (by rw [List.append_nil]; exact hm.ring hL)).2

theorem next_elem (hm : m.Represents L) (hL : L h = some (xs ++ y :: ys)) : (m y).next = some (ys.headD h) :=
  ((neighbours h xs ys).follows_with (hm.ring hL)).2.1

theorem prev_elem (hm : m.Represents L) (hL : L h = some (xs ++ y :: ys)) :
    (m y).prev = some (xs.getLastD h) :=
  ((neighbours h xs ys).follows_with (hm.ring hL)).1.2

theorem elem_ne (hm : m.Represents L) (hL : L h = some (xs ++ y :: ys)) : y ≠ h := by
  have hnodup := (List.nodup_cons.1 (hm.ring hL).nodup).1
  rintro rfl
  exact hnodup (by simp)

theorem first_ne (hm : m.Represents L) (hL : L h = some ([] ++ y :: ys)) : y ≠ h := elem_ne hm hL

theorem next_first (hm : m.Represents L) (hL : L h = some ([] ++ y :: ys)) :
    (m y).next = some (ys.headD h) :=
  next_elem hm hL

/-- The rest of the list moves on by an element. -/
theorem advance (hL : L h = some (xs ++ y :: ys)) : L h = some ((xs ++ [y]) ++ ys) := by
  rwa [List.append_assoc, List.singleton_append]

variable [DecidableEq α]

@[simp] theorem isEmpty_iff (hm : m.Represents L) (hL : L h = some xs) :
    iotListDoubleIsEmpty m (some h) = xs.isEmpty := by
  rw [iotListDoubleIsEmpty, next_head hm hL]
  cases xs with
  | nil => simp
  | cons y ys => simpa using first_ne hm hL

theorem peekHead_eq (hm : m.Represents L) (hL : L h = some xs) :
    iotListDoublePeekHead m (some h) = xs.head? := by
  rw [iotListDoublePeekHead, isEmpty_iff hm hL, next_head hm hL]
  cases xs <;> simp

theorem peekTail_eq (hm : m.Represents L) (hL : L h = some xs) :
    iotListDoublePeekTail m (some h) = xs.getLast? := by
  rw [iotListDoublePeekTail, isEmpty_iff hm hL, prev_head hm hL]
  obtain rfl | ⟨ys, y, rfl⟩ := List.eq_nil_or_concat xs
  · simp
  · simp

theorem countFrom_eq (hm : m.Represents L) (hL : L h = some (xs ++ ys)) {fuel : Nat} (hf : ys.length < fuel) :
    countFrom m h fuel (some (ys.headD h)) = some ys.length := by
  induction fuel generalizing xs ys with
  | zero => exact absurd hf (Nat.not_lt_zero _)
  | succ fuel ih =>
    cases ys with
    | nil => simp [countFrom]
    | cons y ys =>
      have hrest := ih (advance hL) (Nat.lt_of_succ_lt_succ hf)
      simpa [countFrom, elem_ne hm hL, next_elem hm hL] using hrest

theorem findFrom_eq (hm : m.Represents L) (hL : L h = some (xs ++ ys)) (isMatch : α → Bool) {fuel : Nat}
    (hf : ys.length < fuel) : findFrom m h isMatch fuel (some (ys.headD h)) = some (ys.find? isMatch) := by
  induction fuel generalizing xs ys with
  | zero => exact absurd hf (Nat.not_lt_zero _)
  | succ fuel ih =>
    cases ys with
    | nil => simp [findFrom]
    | cons y ys =>
      have hrest := ih (advance hL) (Nat.lt_of_succ_lt_succ hf)
      by_cases hy : isMatch y = true
      · simp [findFrom, elem_ne hm hL, hy]
      · simpa [findFrom, elem_ne hm hL, next_elem hm hL, hy] using hrest

theorem find_eq (hm : m.Represents L) (hL : L h = some (xs ++ ys)) {pStartPoint : Option α}
    (hs : StartsAt h xs ys pStartPoint) (isMatch : α → Bool) {fuel : Nat} (hf : ys.length < fuel) :
    iotListDoubleFindFirstMatch fuel m h pStartPoint isMatch = some (ys.find? isMatch) := by
  have hfind := findFrom_eq hm hL isMatch hf
  cases pStartPoint with
  | none =>
    obtain rfl : xs = [] := hs
    rw [iotListDoubleFindFirstMatch, if_pos rfl, next_head hm hL]
    exact hfind
  | some pStartPoint =>
    obtain rfl : pStartPoint = ys.headD h := hs
    exact hfind

/-! ## Linking and unlinking -/

theorem insertHead_at (hm : m.Represents L) (hL : L h = some (xs ++ ys)) :
    iotListDoubleInsertHead m (xs.getLastD h) x = some (m.splice (xs.getLastD h) x (ys.headD h)) := by
  rw [iotListDoubleInsertHead, (follows_at hm hL).1]
  rfl

theorem insertTail_at (hm : m.Represents L) (hL : L h = some (xs ++ ys)) :
    iotListDoubleInsertTail m (ys.headD h) x = some (m.splice (xs.getLastD h) x (ys.headD h)) := by
  rw [iotListDoubleInsertTail, (follows_at hm hL).2]
  rfl

/-- An element that is linked at a place of the list. -/
theorem splice_at (hm : m.Represents L) (hL : L h = some (xs ++ ys)) (hx : Loose L x) :
    (m.splice (xs.getLastD h) x (ys.headD h)).Represents (Function.update L h (some (xs ++ x :: ys))) :=
  hm.splice hL hx (neighbours h xs ys)

theorem remove_at (hm : m.Represents L) (hL : L h = some (xs ++ x :: ys)) : ∃ m',
    iotListDoubleRemove m x = some m' ∧ m'.Represents (Function.update L h (some (xs ++ ys))) := by
  refine ⟨m.unlink (xs.getLastD h) x (ys.headD h), ?_, hm.unlink hL (neighbours h xs ys)⟩
  rw [iotListDoubleRemove, prev_elem hm hL, next_elem hm hL]
  rfl

theorem insertSortedFrom_represents (hm : m.Represents L) (hL : L h = some (xs ++ ys)) (hx : Loose L x)
    (compare : α → α → Int) {fuel : Nat} (hf : ys.length < fuel) : ∃ m',
    insertSortedFrom m h x compare fuel (some (ys.headD h)) = some m' ∧
      m'.Represents (Function.update L h
        (some (xs ++ ys.orderedInsert (fun a b => compare a b < 0) x))) := by
  induction fuel generalizing xs ys with
  | zero => exact absurd hf (Nat.not_lt_zero _)
  | succ fuel ih =>
    cases ys with
    | nil =>
      refine ⟨_, ?_, splice_at hm hL hx⟩
      simpa [insertSortedFrom] using insertTail_at hm hL
    | cons y ys =>
      have hne := elem_ne hm hL
      by_cases hlt : compare x y < 0
      · have htail : iotListDoubleInsertTail m y x = some (m.splice (xs.getLastD h) x y) :=
          insertTail_at hm hL
        refine ⟨m.splice (xs.getLastD h) x y, ?_, ?_⟩
        · simpa [insertSortedFrom, hne, hlt, iotListDoubleInsertBefore] using htail
        · rw [List.orderedInsert_cons, if_pos hlt]
          exact splice_at hm hL hx
      · obtain ⟨m', hrun, hm'⟩ := ih (advance hL) (Nat.lt_of_succ_lt_succ hf)
        refine ⟨m', ?_, ?_⟩
        · simpa [insertSortedFrom, hne, hlt, next_elem hm hL] using hrun
        · rw [List.orderedInsert_cons, if_neg hlt]
          rwa [List.append_assoc, List.singleton_append] at hm'

theorem removeAllFrom_represents (hm : m.Represents L) (hL : L h = some xs) {fuel : Nat}
    (hf : xs.length < fuel) : ∃ m', removeAllFrom h fuel m (some (xs.headD h)) = some (xs, m') ∧
      m'.Represents (Function.update L h (some [])) := by
  induction fuel generalizing m L xs with
  | zero => exact absurd hf (Nat.not_lt_zero _)
  | succ fuel ih =>
    cases xs with
    | nil =>
      refine ⟨m, by simp [removeAllFrom], ?_⟩
      rwa [← hL, Function.update_eq_self]
    | cons x xs =>
      have hfirst : L h = some ([] ++ x :: xs) := hL
      obtain ⟨m₁, hrem, hm₁⟩ := remove_at hm hfirst
      obtain ⟨m', hrun, hm'⟩ := ih hm₁ (Function.update_self ..) (Nat.lt_of_succ_lt_succ hf)
      rw [Function.update_idem] at hm'
      refine ⟨m', ?_, hm'⟩
      simpa [removeAllFrom, first_ne hm hL, next_first hm hL, hrem] using hrun

/-- Without a start point the loop starts at the first element. -/
theorem removeMatches_start {isMatch : α → Bool} {fuel n : Nat} {p : α} (hp : (m h).next = some p) :
    removeMatchesFrom fuel h isMatch n m none = removeMatchesFrom fuel h isMatch n m (some p) := by
  cases n with
  | zero => rfl
  | succ n => simp [removeMatchesFrom, iotListDoubleFindFirstMatch, hp]

/-- From a place of the list on, with the loop bounded by `n`. -/
theorem removeMatchesFrom_represents (hm : m.Represents L) (hL : L h = some (xs ++ ys)) (isMatch : α → Bool)
    {fuel n : Nat} (hf : ys.length < fuel) (hn : ys.length < n) : ∃ m',
    removeMatchesFrom fuel h isMatch n m (some (ys.headD h)) = some (ys.filter isMatch, m') ∧
      m'.Represents (Function.update L h (some (xs ++ ys.filter (!isMatch ·)))) := by
  induction n generalizing m L xs ys with
  | zero => exact absurd hn (Nat.not_lt_zero _)
  | succ n ih =>
    have hfind : iotListDoubleFindFirstMatch fuel m h (some (ys.headD h)) isMatch =
        some (ys.find? isMatch) := by
      simpa [iotListDoubleFindFirstMatch] using findFrom_eq hm hL isMatch hf
    cases hys : ys.find? isMatch with
    | none =>
      have hnone : ∀ y ∈ ys, isMatch y = false := by simpa using hys
      refine ⟨m, ?_, ?_⟩
      · rw [removeMatchesFrom, hfind, hys, List.filter_eq_nil_iff.2 (by simpa using hnone)]
      · rwa [List.filter_eq_self.2 (by simpa using hnone), ← hL, Function.update_eq_self]
    | some y =>
      obtain ⟨hy, as, bs, rfl, has⟩ := List.find?_eq_some_iff_append.1 hys
      have has' : ∀ a ∈ as, isMatch a = false := by simpa using has
      have hL' : L h = some ((xs ++ as) ++ y :: bs) := by rw [hL, List.append_assoc]
      obtain ⟨m₁, hrem, hm₁⟩ := remove_at hm hL'
      have hlen : (as ++ y :: bs).length = as.length + (bs.length + 1) := by simp
      obtain ⟨m', hrun, hm'⟩ := ih hm₁ (Function.update_self h (some (xs ++ as ++ bs)) L) (by omega) (by omega)
      rw [Function.update_idem] at hm'
      refine ⟨m', ?_, ?_⟩
      · have hfreed : (as ++ y :: bs).filter isMatch = y :: bs.filter isMatch := by
          rw [List.filter_append, List.filter_eq_nil_iff.2 (by simpa using has'), List.nil_append,
            List.filter_cons_of_pos hy]
        rw [removeMatchesFrom, hfind, hys]
        simp only [hrem, next_elem hm hL', hrun, hfreed, Option.map_some]
      · have hkept : (as ++ y :: bs).filter (!isMatch ·) = as ++ bs.filter (!isMatch ·) := by
          rw [List.filter_append, List.filter_eq_self.2 (by simpa using has'),
            List.filter_cons_of_neg (by simpa using hy)]
        rwa [hkept, ← List.append_assoc]

/-! ## Calls -/

/-- **One call**, with fuel for the elements. -/
theorem run_effect {c : ContainerCall α} {r : ContainerRet α} (he : Effect L c r L') :
    ∃ n, ∀ fuel, n ≤ fuel → ∀ m : Links α, m.Represents L →
      ∃ m', c.run fuel m = some (r, m') ∧ m'.Represents L' := by
  have hkeep : ∀ {m : Links α} {h xs}, m.Represents L → L h = some xs →
      m.Represents (Function.update L h (some xs)) := by
    intro m h xs hm hL
    rwa [← hL, Function.update_eq_self]
  cases he with
  | @create h hh =>
    refine ⟨0, fun fuel _ m hm => ⟨_, rfl, ?_⟩⟩
    have hset : iotListDoubleCreate m h = Function.update m h ⟨some h, some h⟩ := by
      simp [iotListDoubleCreate, setNext, setPrev]
    rw [hset]
    exact hm.create hh
  | @insertHead h x xs hL hx =>
    have hat : L h = some ([] ++ xs) := hL
    refine ⟨0, fun fuel _ m hm => ⟨_, ?_, splice_at hm hat hx⟩⟩
    exact congrArg (Option.map _) (insertHead_at hm hat)
  | @insertTail h x xs hL hx =>
    have hat : L h = some (xs ++ []) := by rwa [List.append_nil]
    refine ⟨0, fun fuel _ m hm => ⟨_, ?_, splice_at hm hat hx⟩⟩
    exact congrArg (Option.map _) (insertTail_at hm hat)
  | @insertBefore h x y xs ys hL hx =>
    refine ⟨0, fun fuel _ m hm => ⟨_, ?_, splice_at hm hL hx⟩⟩
    exact congrArg (Option.map _) (insertTail_at hm hL)
  | @insertAfter h x y xs ys hL hx =>
    refine ⟨0, fun fuel _ m hm => ?_⟩
    have hsplice := splice_at hm (advance hL) hx
    rw [List.append_assoc, List.singleton_append] at hsplice
    refine ⟨_, ?_, hsplice⟩
    have hhead := insertHead_at (x := x) hm (advance hL)
    rw [List.getLastD_concat] at hhead ⊢
    exact congrArg (Option.map _) hhead
  | @insertSorted h x xs compare hL hx =>
    refine ⟨xs.length + 1, fun fuel hf m hm => ?_⟩
    have hat : L h = some ([] ++ xs) := hL
    cases xs with
    | nil =>
      refine ⟨m.splice h x h, ?_, splice_at hm hat hx⟩
      have hhead : iotListDoubleInsertHead m h x = some (m.splice h x h) := insertHead_at hm hat
      rw [ContainerCall.run, iotListDoubleInsertSorted, isEmpty_iff hm hL, List.isEmpty_nil, if_pos rfl, hhead]
      rfl
    | cons y ys =>
      obtain ⟨m', hrun, hm'⟩ := insertSortedFrom_represents hm hat hx compare hf
      refine ⟨m', ?_, hm'⟩
      rw [ContainerCall.run, iotListDoubleInsertSorted, isEmpty_iff hm hL, List.isEmpty_cons,
        if_neg Bool.false_ne_true, next_head hm hL, hrun]
      rfl
  | @remove h x xs ys hL =>
    refine ⟨0, fun fuel _ m hm => ?_⟩
    obtain ⟨m', hrem, hm'⟩ := remove_at hm hL
    exact ⟨m', congrArg (Option.map _) hrem, hm'⟩
  | @removeHead h xs hL =>
    refine ⟨0, fun fuel _ m hm => ?_⟩
    cases xs with
    | nil =>
      exact ⟨m, by simp [ContainerCall.run, iotListDoubleRemoveHead, peekHead_eq hm hL], hkeep hm hL⟩
    | cons x xs =>
      obtain ⟨m', hrem, hm'⟩ := remove_at hm (show L h = some ([] ++ x :: xs) from hL)
      exact ⟨m', by simp [ContainerCall.run, iotListDoubleRemoveHead, peekHead_eq hm hL, hrem], hm'⟩
  | @removeTail h xs hL =>
    refine ⟨0, fun fuel _ m hm => ?_⟩
    obtain rfl | ⟨ys, y, rfl⟩ := List.eq_nil_or_concat xs
    · exact ⟨m, by simp [ContainerCall.run, iotListDoubleRemoveTail, peekTail_eq hm hL], hkeep hm hL⟩
    · rw [List.concat_eq_append] at hL ⊢
      obtain ⟨m', hrem, hm'⟩ := remove_at hm hL
      rw [List.append_nil] at hm'
      refine ⟨m', by simp [ContainerCall.run, iotListDoubleRemoveTail, peekTail_eq hm hL, hrem], ?_⟩
      rwa [List.dropLast_concat]
  | @removeAll h xs hL =>
    refine ⟨xs.length + 1, fun fuel hf m hm => ?_⟩
    obtain ⟨m', hrun, hm'⟩ := removeAllFrom_represents hm hL hf
    refine ⟨m', ?_, hm'⟩
    rw [ContainerCall.run, iotListDoubleRemoveAll, next_head hm hL, hrun]
    rfl
  | @removeFirstMatch h xs ys pStartPoint isMatch hL hs =>
    refine ⟨ys.length + 1, fun fuel hf m hm => ?_⟩
    have hfind := find_eq hm hL hs isMatch hf
    cases hys : ys.find? isMatch with
    | none =>
      have hnone : ∀ y ∈ ys, isMatch y = false := by simpa using hys
      refine ⟨m, by simp [ContainerCall.run, iotListDoubleRemoveFirstMatch, hfind, hys], ?_⟩
      rw [List.eraseP_of_forall_not (by simpa using hnone)]
      exact hkeep hm hL
    | some y =>
      obtain ⟨hy, as, bs, rfl, has⟩ := List.find?_eq_some_iff_append.1 hys
      have hat : L h = some ((xs ++ as) ++ y :: bs) := by rw [hL, List.append_assoc]
      obtain ⟨m', hrem, hm'⟩ := remove_at hm hat
      refine ⟨m', by simp [ContainerCall.run, iotListDoubleRemoveFirstMatch, hfind, hys, hrem], ?_⟩
      rwa [List.eraseP_append_right _ (by simpa using has), List.eraseP_cons_of_pos hy, ← List.append_assoc]
  | @removeAllMatches h xs isMatch hL =>
    refine ⟨xs.length + 1, fun fuel hf m hm => ?_⟩
    obtain ⟨m', hrun, hm'⟩ :=
      removeMatchesFrom_represents hm (show L h = some ([] ++ xs) from hL) isMatch hf hf
    refine ⟨m', ?_, hm'⟩
    rw [ContainerCall.run, iotListDoubleRemoveAllMatches, removeMatches_start (next_head hm hL), hrun]
    rfl
  | @findFirstMatch h xs ys pStartPoint isMatch hL hs =>
    exact ⟨ys.length + 1, fun fuel hf m hm => ⟨m, congrArg (Option.map _) (find_eq hm hL hs isMatch hf), hm⟩⟩
  | peekHead hL => exact ⟨0, fun fuel _ m hm => ⟨m, by simp [ContainerCall.run, peekHead_eq hm hL], hm⟩⟩
  | peekTail hL => exact ⟨0, fun fuel _ m hm => ⟨m, by simp [ContainerCall.run, peekTail_eq hm hL], hm⟩⟩
  | @count h xs hL =>
    refine ⟨xs.length + 1, fun fuel hf m hm => ⟨m, ?_, hm⟩⟩
    have hcount := countFrom_eq hm (show L h = some ([] ++ xs) from hL) hf
    rw [ContainerCall.run, iotListDoubleCount, next_head hm hL, hcount]
    rfl
  | isEmpty hL => exact ⟨0, fun fuel _ m hm => ⟨m, by simp [ContainerCall.run, isEmpty_iff hm hL], hm⟩⟩
  | @isLinked x b hb =>
    refine ⟨0, fun fuel _ m hm => ⟨m, ?_, hm⟩⟩
    have hlinked : iotLinkIsLinked m (some x) = b := by
      rw [Bool.eq_iff_iff, hb, ← hm.isLinked_iff]
      simp [iotLinkIsLinked, Option.isSome_iff_ne_none]
    rw [ContainerCall.run, hlinked]

/-! ## Runs of calls -/

/-- The functions on links, with fuel for their loops. -/
def containers (α : Type) [DecidableEq α] (fuel : Nat) : Machine (Links α) (ContainerCall α) (ContainerRet α) where
  step m c := (c.run fuel m).map fun (r, m) => (m, r)

/-- What calls in order do to the lists, and what they return. -/
inductive Effects (L : Rings α) : List (ContainerCall α × ContainerRet α) → Rings α → Prop
  | nil : Effects L [] L
  | snoc {cs : List (ContainerCall α × ContainerRet α)} {L' L'' : Rings α} {c : ContainerCall α}
    {r : ContainerRet α} : Effects L cs L' → Effect L' c r L'' → Effects L (cs ++ [(c, r)]) L''

/-- Run from `m`, with enough fuel, the calls return what they should and leave the lists. -/
def Held (m : Links α) (cs : List (ContainerCall α × ContainerRet α)) (L : Rings α) : Prop :=
  ∃ n, ∀ fuel, n ≤ fuel → ∃ tr m', Exec (containers α fuel) m tr m' ∧ tr.map (fun e => (e.inp, e.out)) = cs ∧
    m'.Represents L

theorem held_nil (hm : m.Represents L) : Held m [] L := ⟨0, fun _ _ => ⟨[], m, .nil, rfl, hm⟩⟩

theorem Held.snoc {cs : List (ContainerCall α × ContainerRet α)} {c : ContainerCall α} {r : ContainerRet α}
    (h : Held m cs L) (he : Effect L c r L') : Held m (cs ++ [(c, r)]) L' := by
  obtain ⟨n, hn⟩ := h
  obtain ⟨k, hk⟩ := run_effect he
  refine ⟨max n k, fun fuel hf => ?_⟩
  obtain ⟨tr, m', hrun, hmap, hm'⟩ := hn fuel ((le_max_left n k).trans hf)
  obtain ⟨m'', hstep, hm''⟩ := hk fuel ((le_max_right n k).trans hf) m' hm'
  refine ⟨_, m'', hrun.snoc (congrArg (Option.map _) hstep), ?_, hm''⟩
  rw [List.map_append, hmap]
  rfl

/-- **The containers hold lists**: with enough fuel, a run of calls that are allowed returns what it should, and
leaves the lists that it should. -/
theorem containers_refine (hm : m.Represents L) {cs : List (ContainerCall α × ContainerRet α)}
    (he : Effects L cs L') : ∃ n, ∀ fuel, n ≤ fuel → ∃ tr m', Exec (containers α fuel) m tr m' ∧
      tr.map (fun e => (e.inp, e.out)) = cs ∧ m'.Represents L' := by
  show Held m cs L'
  induction he with
  | nil => exact held_nil hm
  | snoc _ hlast ih => exact ih.snoc hlast

/-- A queue is made, and a link goes through it. -/
theorem containers_refine_queue : ∃ n, ∀ fuel, n ≤ fuel → ∃ tr m',
    Exec (containers Nat fuel) (fun _ => Link.null) tr m' ∧ tr.map (fun e => (e.inp, e.out)) =
      [(.create 0, .void), (.insertTail 0 1, .void), (.removeHead 0, .link (some 1))] ∧
      m'.Represents (Function.update (Function.update (Function.update (fun _ => none) 0 (some [])) 0 (some [1])) 0
        (some [])) := by
  refine containers_refine .null (.snoc (.snoc (.snoc .nil (.create ?_)) (.insertTail (Function.update_self ..) ?_))
    (.removeHead (Function.update_self ..)))
  · intro h xs hL
    cases hL
  · intro h xs hL
    by_cases hh : h = 0
    · subst hh
      obtain rfl : [] = xs := by simpa using hL
      simp
    · rw [Function.update_of_ne hh] at hL
      cases hL

end TaskPool
