import TrustZone.Lib.Runs
import TrustZone.Pkcs11.Proof.ObjectList

/-!
# The object list over whole runs

Adding and deleting, in any order, on the zeroed list. A slot is its own application handle.

* `listStep_slot`: what one call can do to a slot.
* `ListUnique`: a PAL handle stands in one slot.
* `ListedSince`: the object of a slot was put there by an add, under its label, and has been there
  since.
* `CallLaw`: what holds of every call.
* `object_list_run`: all of it, in every run.
-/

namespace Pkcs11

open Lib Psa Machine

/-! ## Calls -/

/-- A call on the list, with the answer of the mutex, which is taken with `portMAX_DELAY` and so is true in the
code. A PAL handle is not zero, and the handle to delete is one of the list. -/
inductive ListCall
  | add (lock : Bool) (xPalHandle : {h : ObjectHandle // h ≠ ckInvalidHandle}) (pcLabel : List UInt8)
  | delete (lock : Bool) (i : Fin pkcs11configMaxNumObjects)

/-- One call, with its result and `*pxAppHandle` if it is written. -/
def listStep (l : P11ObjectList) : ListCall → P11ObjectList × CkRv × Option ObjectHandle
  | .add lock xPalHandle pcLabel =>
    let (rv, h, l') := prvAddObjectToList lock l xPalHandle pcLabel
    (l', rv, h)
  | .delete lock i =>
    let (rv, l') := prvDeleteObjectFromList lock l (appHandle i)
    (l', rv, none)

/-- The list alone. -/
def listMachine : Machine P11ObjectList ListCall (CkRv × Option ObjectHandle) :=
  ⟨fun l c => some (listStep l c)⟩

/-- A call of a run. -/
abbrev ListEntry := Entry P11ObjectList ListCall (CkRv × Option ObjectHandle)

/-! ## One call -/

theorem index_appHandle (i : Fin pkcs11configMaxNumObjects) :
    (appHandle i - 1).toInt = (i.val : Int) := by
  revert i
  decide

theorem P11ObjectList.at_fin (l : P11ObjectList) (i : Fin pkcs11configMaxNumObjects) :
    l.at (i.val : Int) = l.xObjects i := by
  simp [P11ObjectList.at]

theorem P11ObjectList.set_fin (l : P11ObjectList) (i : Fin pkcs11configMaxNumObjects) (o : P11Object) :
    l.set (i.val : Int) o = { l with xObjects := Function.update l.xObjects i o } := by
  simp [P11ObjectList.set]

theorem prvDeleteObjectFromList_appHandle (lock : Bool) (l : P11ObjectList)
    (i : Fin pkcs11configMaxNumObjects) : prvDeleteObjectFromList lock l (appHandle i) =
      if lock then
        if (l.xObjects i).xHandle ≠ ckInvalidHandle then
          (.ok, { l with xObjects := Function.update l.xObjects i .zero })
        else (.objectHandleInvalid, l)
      else (.cantLock, l) := by
  have hi : (i.val : Int) < (pkcs11configMaxNumObjects : Nat) := by exact_mod_cast i.isLt
  simp only [prvDeleteObjectFromList, index_appHandle, if_pos hi, P11ObjectList.at_fin,
    P11ObjectList.set_fin]

/-- The object that an add puts into a free slot. -/
def P11Object.named (pal : ObjectHandle) (label : List UInt8) : P11Object :=
  ⟨pal, label ++ 0 :: List.replicate (pkcs11configMaxLabelLength - label.length) 0⟩

/-- The call put the object into slot `i`. -/
structure Inserts (e : ListEntry) (i : Fin pkcs11configMaxNumObjects)
    (pal : {h : ObjectHandle // h ≠ ckInvalidHandle}) (label : List UInt8) : Prop where
  inp : e.inp = .add true pal label
  out : e.out = (.ok, some (appHandle i))
  length : label.length < pkcs11configMaxLabelLength
  absent : ∀ j, (e.pre.xObjects j).xHandle ≠ pal
  free : (e.pre.xObjects i).xHandle = ckInvalidHandle
  post : e.post.xObjects i = .named pal label

/-- **What one call does to a slot**: nothing, an object is put into it, or it is deleted. -/
theorem listStep_slot {l l' : P11ObjectList} {c : ListCall} {o : CkRv × Option ObjectHandle}
    (h : listStep l c = (l', o)) (hl : ListOk l) (i : Fin pkcs11configMaxNumObjects) :
    l'.xObjects i = l.xObjects i ∨ (∃ pal label, Inserts ⟨l, c, o, l'⟩ i pal label) ∨
      (∃ lock, c = .delete lock i ∧ l'.xObjects i = .zero) := by
  cases c with
  | add lock pal label =>
    have ho := prvAddObjectToList_outcome lock l pal label
    simp only [listStep] at h
    generalize prvAddObjectToList lock l pal label = r at ho h
    cases h
    cases ho with
    | inserted j habsent hfree hlen =>
      by_cases hij : i = j
      · subst hij
        refine .inr (.inl ⟨pal, label, rfl, rfl, hlen, habsent, hfree, ?_⟩)
        simp [P11Object.named, blit_free hlen (hl i) hfree]
      · simp [Function.update_of_ne hij]
    | locked | present | full | long => exact .inl rfl
  | delete lock j =>
    simp only [listStep, prvDeleteObjectFromList_appHandle] at h
    by_cases hij : i = j
    · subst hij
      split at h
      · split at h
        · cases h; exact .inr (.inr ⟨lock, rfl, by simp⟩)
        · cases h; exact .inl rfl
      · cases h; exact .inl rfl
    · refine .inl ?_
      split at h
      · split at h
        · cases h; simp [Function.update_of_ne hij]
        · cases h; rfl
      · cases h; rfl

/-! ## Every call -/

/-- What holds of every call: a slot in use stays as it is unless it is the one deleted; an object that
is listed is found, whatever the label; an add that is refused changes nothing. -/
structure CallLaw (e : ListEntry) : Prop where
  stays : ∀ i, (e.pre.xObjects i).xHandle ≠ ckInvalidHandle → (∀ lock, e.inp ≠ .delete lock i) →
    e.post.xObjects i = e.pre.xObjects i
  again : ∀ pal label i, e.inp = .add true pal label → (e.pre.xObjects i).xHandle = pal.val →
    e.out = (.ok, some (appHandle i)) ∧ e.post = e.pre
  refused : ∀ lock pal label, e.inp = .add lock pal label → e.out.1 ≠ .ok → e.post = e.pre ∧
    (lock = false ∨ (∀ i, (e.pre.xObjects i).xHandle ≠ ckInvalidHandle) ∨
      pkcs11configMaxLabelLength ≤ label.length)

/-- A PAL handle stands in one slot at most. -/
def ListUnique (l : P11ObjectList) : Prop :=
  ∀ i j, (l.xObjects i).xHandle ≠ ckInvalidHandle → (l.xObjects i).xHandle = (l.xObjects j).xHandle →
    i = j

theorem callLaw {e : ListEntry} (hl : ListOk e.pre) (hu : ListUnique e.pre)
    (h : listStep e.pre e.inp = (e.post, e.out)) : CallLaw e := by
  refine ⟨?_, ?_, ?_⟩
  · intro i hi hne
    rcases listStep_slot h hl i with hsame | ⟨pal, label, hins⟩ | ⟨lock, hdel, -⟩
    · exact hsame
    · exact absurd hins.free hi
    · exact absurd hdel (hne lock)
  · intro pal label i hadd hi
    have ho := prvAddObjectToList_outcome true e.pre pal label
    simp only [hadd, listStep] at h
    generalize prvAddObjectToList true e.pre pal label = r at ho h
    obtain ⟨h1, h2⟩ := Prod.mk.inj h
    cases ho with
    | present j hj =>
      have hij : i = j := hu i j (hi ▸ pal.property) (hi.trans hj.symm)
      exact ⟨hij ▸ h2.symm, h1.symm⟩
    | inserted _ habsent | full habsent | long habsent => exact absurd hi (habsent i)
  · intro lock pal label hadd hne
    have ho := prvAddObjectToList_outcome lock e.pre pal label
    simp only [hadd, listStep] at h
    generalize prvAddObjectToList lock e.pre pal label = r at ho h
    obtain ⟨h1, h2⟩ := Prod.mk.inj h
    rw [← h2] at hne
    cases ho with
    | present | inserted => exact absurd rfl hne
    | locked => exact ⟨h1.symm, .inl rfl⟩
    | full _ hfull => exact ⟨h1.symm, .inr (.inl hfull)⟩
    | long _ hlong => exact ⟨h1.symm, .inr (.inr hlong)⟩

-- without the mutex a short label is refused, with every slot free
example : (prvAddObjectToList false ⟨fun _ => .zero, fun _ => .zero⟩ 3 labelDeviceCertificateForTls).1 = .cantLock :=
  rfl

/-! ## Runs -/

/-- The object in slot `i` was put there under its label, and has been there since. -/
def ListedSince (tr : List ListEntry) (l : P11ObjectList) (i : Fin pkcs11configMaxNumObjects) : Prop :=
  ∃ (pal : {h : ObjectHandle // h ≠ ckInvalidHandle}) (label : List UInt8),
    l.xObjects i = .named pal label ∧
      Since (fun e => Inserts e i pal label) (fun e => e.post.xObjects i = l.xObjects i) tr

theorem ListOk.step {l l' : P11ObjectList} {c : ListCall} {o : CkRv × Option ObjectHandle}
    (h : listStep l c = (l', o)) (hl : ListOk l) : ListOk l' := by
  cases c with
  | add lock pal label => cases h; exact hl.add lock pal label
  | delete lock i => cases h; exact hl.delete lock (appHandle i)

theorem ListUnique.step {l l' : P11ObjectList} {c : ListCall} {o : CkRv × Option ObjectHandle}
    (h : listStep l c = (l', o)) (hl : ListOk l) (hu : ListUnique l) : ListUnique l' := by
  have hfree : (P11Object.zero).xHandle = ckInvalidHandle := rfl
  intro i j hi hij
  rcases listStep_slot h hl i with hsi | ⟨pal, label, hins⟩ | ⟨lock, -, hdel⟩
  · rcases listStep_slot h hl j with hsj | ⟨pal, label, hins⟩ | ⟨lock, -, hdel⟩
    · rw [hsi] at hi
      rw [hsi, hsj] at hij
      exact hu i j hi hij
    · rw [hsi, hins.post] at hij
      exact absurd hij (hins.absent i)
    · rw [hij, hdel] at hi
      exact absurd hfree hi
  · rcases listStep_slot h hl j with hsj | ⟨pal', label', hins'⟩ | ⟨lock, -, hdel⟩
    · rw [hsj, hins.post] at hij
      exact absurd hij.symm (hins.absent j)
    · -- the call answers with one slot
      have ho : some (appHandle i) = some (appHandle j) :=
        congrArg Prod.snd (hins.out.symm.trans hins'.out)
      exact appHandle_inj i j (Option.some.inj ho)
    · rw [hij, hdel] at hi
      exact absurd hfree hi
  · rw [hdel] at hi
    exact absurd hfree hi

theorem ListedSince.step {tr : List ListEntry} {l l' : P11ObjectList} {c : ListCall}
    {o : CkRv × Option ObjectHandle} (h : listStep l c = (l', o)) (hl : ListOk l)
    (hs : ∀ i, (l.xObjects i).xHandle ≠ ckInvalidHandle → ListedSince tr l i)
    (i : Fin pkcs11configMaxNumObjects) (hi : (l'.xObjects i).xHandle ≠ ckInvalidHandle) :
    ListedSince (tr ++ [⟨l, c, o, l'⟩]) l' i := by
  rcases listStep_slot h hl i with hsame | ⟨pal, label, hins⟩ | ⟨lock, -, hdel⟩
  · obtain ⟨pal, label, hobj, hsince⟩ := hs i (hsame ▸ hi)
    refine ⟨pal, label, hsame.trans hobj, Since.keep ?_ rfl⟩
    exact hsince.mono (fun _ he => he) fun e he => he.trans hsame.symm
  · exact ⟨pal, label, hins.post, Since.now hins⟩
  · rw [hdel] at hi
    exact absurd rfl hi

/-- The zeroed list, and what lies below it. -/
def P11ObjectList.zeroed (before : Int → P11Object) : P11ObjectList := ⟨fun _ => .zero, before⟩

/-- What every call keeps: the entries are well formed and their PAL handles differ. -/
def ListInv (l : P11ObjectList) : Prop := ListOk l ∧ ListUnique l

theorem ListInv.init (before : Int → P11Object) : ListInv (.zeroed before) := by
  refine ⟨fun _ => P11Object.zero_ok, ?_⟩
  intro i j hi
  exact absurd rfl hi

theorem ListInv.step (l : P11ObjectList) (c : ListCall) (l' : P11ObjectList)
    (o : CkRv × Option ObjectHandle) (hl : ListInv l) (h : listMachine.step l c = some (l', o)) :
    ListInv l' := by
  have hs : listStep l c = (l', o) := Option.some.inj h
  exact ⟨hl.1.step hs, hl.2.step hs hl.1⟩

/-- **The object list**: in every run from the zeroed list, a PAL handle stands in one slot, every
object in a slot is where its add put it, under its label, and every call obeys `CallLaw`. -/
theorem object_list_run {before : Int → P11Object} {tr : List ListEntry} {l : P11ObjectList}
    (h : Exec listMachine (.zeroed before) tr l) :
    ListUnique l ∧
    (∀ i, (l.xObjects i).xHandle ≠ ckInvalidHandle → ListedSince tr l i) ∧
    ∀ e ∈ tr, CallLaw e := by
  refine ⟨(h.inv ListInv.step (ListInv.init before)).2, ?_, ?_⟩
  · have hI := h.hist (I := fun tr l => ListInv l ∧
      ∀ i, (l.xObjects i).xHandle ≠ ckInvalidHandle → ListedSince tr l i) ?_ ⟨.init before, ?_⟩
    · exact hI.2
    · intro tr l c l' o hI hs
      exact ⟨hI.1.step l c l' o hs, ListedSince.step (Option.some.inj hs) hI.1.1 hI.2⟩
    · intro i hi
      exact absurd rfl hi
  · intro e he
    have hpre := h.mem_pre ListInv.step (ListInv.init before) he
    exact callLaw hpre.1 hpre.2 (Option.some.inj (h.mem he))

/-- Objects are listed, one is deleted, its slot is used again, and one is listed a second time. -/
def listCalls : List ListCall :=
  [.add true ⟨3, by decide⟩ labelDeviceCertificateForTls, .add true ⟨1, by decide⟩ (ascii "a"),
    .delete true 0, .add true ⟨2, by decide⟩ (ascii "b"), .add true ⟨1, by decide⟩ (ascii "c")]

theorem object_list_run_calls :
    ∃ tr l, listMachine.exec? (.zeroed fun _ => .zero) listCalls = some (tr, l) ∧
      tr.map (·.out) = [(.ok, some 1), (.ok, some 2), (.ok, none), (.ok, some 1), (.ok, some 2)] ∧
      ListUnique l ∧
      (∀ i, (l.xObjects i).xHandle ≠ ckInvalidHandle → ListedSince tr l i) ∧
      ∀ e ∈ tr, CallLaw e := by
  have hrun : (listMachine.exec? (.zeroed fun _ => .zero) listCalls).map (·.1.map (·.out)) =
      some [(.ok, some 1), (.ok, some 2), (.ok, none), (.ok, some 1), (.ok, some 2)] := by
    decide +kernel
  obtain ⟨⟨tr, l⟩, h, ho⟩ := Option.map_eq_some_iff.1 hrun
  exact ⟨tr, l, h, ho, object_list_run (exec?_exec h)⟩

end Pkcs11
