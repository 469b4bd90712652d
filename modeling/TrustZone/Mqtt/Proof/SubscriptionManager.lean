import Mathlib.Data.List.Nodup
import TrustZone.Mqtt.SubscriptionManager

/-!
# What a list of subscriptions holds

The calls of the subscription manager, by the subscriptions of the list.

* `addSubscription_mem`, `addSubscription_new`: a subscription that is there is not added again, and a new
  one is while there is a free slot.
* `removeSubscription_subscriptions`: a removal takes all subscriptions of the filter away.
* `handleIncomingPublishes_runs`: a publish runs the callback of each subscription that matches.
-/

namespace Mqtt

open Lib

variable {κ : Type}

@[simp] theorem subscriptions_cons_none (l : SubscriptionList κ) :
    subscriptions (none :: l) = subscriptions l := rfl

@[simp] theorem subscriptions_cons_some (x : SubscriptionElement κ) (l : SubscriptionList κ) :
    subscriptions (some x :: l) = x :: subscriptions l := rfl

theorem mem_subscriptions {x : SubscriptionElement κ} {l : SubscriptionList κ} :
    x ∈ subscriptions l ↔ some x ∈ l := by
  simp [subscriptions]

theorem exists_free {l : SubscriptionList κ} (h : (subscriptions l).length < l.length) :
    none ∈ l := by
  induction l with
  | nil => simp at h
  | cons slot l ih =>
    cases slot with
    | none => exact List.mem_cons_self
    | some x =>
      rw [subscriptions_cons_some, List.length_cons, List.length_cons] at h
      exact List.mem_cons_of_mem _ (ih (Nat.lt_of_succ_lt_succ h))

theorem subscriptions_set {l : SubscriptionList κ} {i : Nat} (hi : l[i]? = some none)
    (e : SubscriptionElement κ) :
    (subscriptions (l.set i (some e))).Perm (e :: subscriptions l) := by
  induction l generalizing i with
  | nil => simp at hi
  | cons slot l ih =>
    cases i with
    | zero =>
      obtain rfl : slot = none := by simpa using hi
      exact List.Perm.refl _
    | succ i =>
      have hset := ih (by simpa using hi)
      cases slot with
      | none => exact hset
      | some x => exact (hset.cons x).trans (List.Perm.swap e x _)

/-- Filters without a NUL are the same only when they are equal. -/
theorem sameFilter_iff {a b : List UInt8} (ha : 0 ∉ a) (hb : 0 ∉ b) : sameFilter a b = true ↔ a = b := by
  unfold sameFilter
  rw [decide_eq_true_iff, cstr_of_notMem ha, cstr_of_notMem hb]
  exact ⟨fun h => h.2, fun h => ⟨congrArg _ h, h⟩⟩

/-- A list of subscriptions whose filters are strings. -/
def Strings (l : SubscriptionList κ) : Prop :=
  ∀ x ∈ subscriptions l, 0 ∉ x.pcSubscriptionFilterString

section
variable [DecidableEq κ]

theorem duplicates_iff {x e : SubscriptionElement κ} (hx : 0 ∉ x.pcSubscriptionFilterString)
    (he : 0 ∉ e.pcSubscriptionFilterString) : x.duplicates e = true ↔ x = e := by
  unfold SubscriptionElement.duplicates
  rw [decide_eq_true_iff, sameFilter_iff he hx]
  constructor
  · intro ⟨hf, hcb, hctx⟩
    cases x
    cases e
    simp_all
  · intro h
    subst h
    exact ⟨rfl, rfl, rfl⟩

theorem addScan_found {e : SubscriptionElement κ} {slots : List (Option (SubscriptionElement κ) × Nat)}
    {avail : Option Nat} (h : ∃ x i, (some x, i) ∈ slots ∧ x.duplicates e = true) :
    addScan e slots avail = .inl () := by
  induction slots generalizing avail with
  | nil =>
    obtain ⟨_, _, hmem, _⟩ := h
    cases hmem
  | cons p slots ih =>
    obtain ⟨slot, i⟩ := p
    obtain ⟨x, j, hmem, hdup⟩ := h
    cases slot with
    | none =>
      obtain heq | hmem := List.mem_cons.1 hmem
      · cases heq
      · exact ih ⟨x, j, hmem, hdup⟩
    | some y =>
      unfold addScan
      split_ifs with hy
      · rfl
      · obtain heq | hmem := List.mem_cons.1 hmem
        · obtain ⟨heq, -⟩ := Prod.mk.inj heq
          rw [Option.some.inj heq] at hdup
          exact absurd hdup hy
        · exact ih ⟨x, j, hmem, hdup⟩

theorem addScan_none {e : SubscriptionElement κ} {slots : List (Option (SubscriptionElement κ) × Nat)}
    (h : ∀ x i, (some x, i) ∈ slots → x.duplicates e = false) (avail : Option Nat) :
    ∃ r, addScan e slots avail = .inr r ∧ (r = avail ∨ ∃ i, r = some i ∧ (none, i) ∈ slots) ∧
      (r = none → ∀ i, (none, i) ∉ slots) := by
  induction slots generalizing avail with
  | nil => exact ⟨avail, rfl, .inl rfl, fun _ i hi => nomatch hi⟩
  | cons p slots ih =>
    obtain ⟨slot, i⟩ := p
    have hrest := fun x j hmem => h x j (List.mem_cons_of_mem _ hmem)
    cases slot with
    | none =>
      obtain ⟨r, hr, hor, -⟩ := ih hrest (some i)
      refine ⟨r, hr, .inr ?_, ?_⟩
      · obtain rfl | ⟨j, rfl, hj⟩ := hor
        · exact ⟨i, rfl, List.mem_cons_self⟩
        · exact ⟨j, rfl, List.mem_cons_of_mem _ hj⟩
      · intro hnone
        obtain rfl | ⟨j, rfl, hj⟩ := hor
        · cases hnone
        · cases hnone
    | some y =>
      obtain ⟨r, hr, hor, hnone⟩ := ih hrest avail
      have hy := h y i List.mem_cons_self
      refine ⟨r, ?_, ?_, ?_⟩
      · rw [addScan, hy]
        exact hr
      · obtain hr' | ⟨j, hj, hmem⟩ := hor
        · exact .inl hr'
        · exact .inr ⟨j, hj, List.mem_cons_of_mem _ hmem⟩
      · intro hr' j hmem
        obtain heq | hmem := List.mem_cons.1 hmem
        · cases heq
        · exact hnone hr' j hmem

variable {l : SubscriptionList κ} {filter : List UInt8} {cb : κ} {ctx : Option Nat}

theorem addSubscription_mem (hl : Strings l) (hne : filter ≠ []) (hf : 0 ∉ filter)
    (hmem : ⟨filter, cb, ctx, hne⟩ ∈ subscriptions l) :
    subscriptionManagerAddSubscription l filter cb ctx = (true, l) := by
  have hfound : ∃ x i, (some x, i) ∈ l.zipIdx.reverse ∧
      x.duplicates ⟨filter, cb, ctx, hne⟩ = true := by
    obtain ⟨i, hi, hget⟩ := List.mem_iff_getElem.1 (mem_subscriptions.1 hmem)
    refine ⟨_, i, List.mem_reverse.2 ?_, (duplicates_iff (hl _ hmem) hf).2 rfl⟩
    rw [List.mk_mem_zipIdx_iff_getElem?, List.getElem?_eq_getElem hi, hget]
  unfold subscriptionManagerAddSubscription
  rw [dif_neg hne]
  dsimp only
  rw [addScan_found hfound]

/-- A new one is added while there is a free slot. -/
theorem addSubscription_new (hl : Strings l) (hne : filter ≠ []) (hf : 0 ∉ filter)
    (hmem : ⟨filter, cb, ctx, hne⟩ ∉ subscriptions l) (hfree : (subscriptions l).length < l.length) :
    ∃ l', subscriptionManagerAddSubscription l filter cb ctx = (true, l') ∧ l'.length = l.length ∧
      (subscriptions l').Perm (⟨filter, cb, ctx, hne⟩ :: subscriptions l) := by
  have hnodup : ∀ x i, (some x, i) ∈ l.zipIdx.reverse →
      x.duplicates ⟨filter, cb, ctx, hne⟩ = false := by
    intro x i hx
    have hx' : x ∈ subscriptions l := by
      rw [List.mem_reverse, List.mk_mem_zipIdx_iff_getElem?] at hx
      exact mem_subscriptions.2 (List.mem_of_getElem? hx)
    apply Bool.eq_false_of_not_eq_true
    intro hdup
    rw [(duplicates_iff (hl x hx') hf).1 hdup] at hx'
    exact hmem hx'
  obtain ⟨r, hscan, hor, hnone⟩ := addScan_none hnodup none
  have hsome : ∃ i, r = some i ∧ l[i]? = some none := by
    obtain rfl | ⟨i, rfl, hi⟩ := hor
    · -- some slot is free, so the loop has seen one
      obtain ⟨i, hi, hget⟩ := List.mem_iff_getElem.1 (exists_free hfree)
      refine absurd (List.mem_reverse.2 ?_) (hnone rfl i)
      rw [List.mk_mem_zipIdx_iff_getElem?, List.getElem?_eq_getElem hi, hget]
    · rw [List.mem_reverse, List.mk_mem_zipIdx_iff_getElem?] at hi
      exact ⟨i, rfl, hi⟩
  obtain ⟨i, rfl, hi⟩ := hsome
  refine ⟨_, ?_, List.length_set, subscriptions_set hi _⟩
  unfold subscriptionManagerAddSubscription
  rw [dif_neg hne]
  dsimp only
  rw [hscan]

end

/-- A removal takes away all subscriptions of the filter. -/
theorem removeSubscription_subscriptions {l : SubscriptionList κ} {filter : List UInt8}
    (hl : Strings l) (hne : filter ≠ []) (hf : 0 ∉ filter) :
    subscriptions (subscriptionManagerRemoveSubscription l filter) =
      (subscriptions l).filter fun x => x.pcSubscriptionFilterString ≠ filter := by
  unfold subscriptionManagerRemoveSubscription
  rw [if_neg hne]
  induction l with
  | nil => rfl
  | cons slot l ih =>
    cases slot with
    | none => exact ih hl
    | some x =>
      have hx : 0 ∉ x.pcSubscriptionFilterString := hl x List.mem_cons_self
      have ih := ih fun y hy => hl y (List.mem_cons_of_mem _ hy)
      rw [List.map_cons, subscriptions_cons_some]
      dsimp only
      by_cases h : filter = x.pcSubscriptionFilterString
      · rw [if_pos ((sameFilter_iff hf hx).2 h), List.filter_cons_of_neg (by simp [h])]
        exact ih
      · rw [if_neg fun hs => h ((sameFilter_iff hf hx).1 hs),
          List.filter_cons_of_pos (by simpa using Ne.symm h), subscriptions_cons_some, ih]

theorem removeSubscription_length (l : SubscriptionList κ) (filter : List UInt8) :
    (subscriptionManagerRemoveSubscription l filter).length = l.length := by
  unfold subscriptionManagerRemoveSubscription
  split_ifs
  · rfl
  · exact List.length_map _

/-- A publish runs the callback of each subscription that matches its topic. -/
theorem handleIncomingPublishes_runs (matchTopic : List UInt8 → List UInt8 → Bool)
    (l : SubscriptionList κ) (topic : List UInt8) :
    (subscriptionManagerHandleIncomingPublishes matchTopic l topic).2 =
      ((subscriptions l).filter fun x => matchTopic topic x.pcSubscriptionFilterString).map
        fun x => (x.pxIncomingPublishCallback, x.pvIncomingPublishCallbackContext) := by
  unfold subscriptionManagerHandleIncomingPublishes
  dsimp only
  induction l with
  | nil => rfl
  | cons slot l ih =>
    cases slot with
    | none => exact ih
    | some x =>
      rw [subscriptions_cons_some, List.filter_cons, List.filterMap_cons, ih]
      dsimp only
      by_cases h : matchTopic topic x.pcSubscriptionFilterString = true
      · rw [if_pos h, if_pos h, List.map_cons]
      · rw [if_neg h, if_neg h]

end Mqtt
