import Mathlib.Data.List.Chain
import Mathlib.Data.List.Nodup
import Mathlib.Logic.Function.Basic

/-!
# Circular doubly linked lists in a memory

A link holds two pointers. A ring is a head with the elements that are linked to it in a circle; a memory of
links holds many rings, and what is in none of them has two null pointers (`Represents`).

* `Ring.splice`, `Ring.unlink`: linking an element between two neighbours, and taking one out.
* `Represents.splice`, `Represents.unlink`, `Represents.create`: the same among other rings, which stay.
-/

namespace Lib

/-- A link, with the pointers to its neighbours. -/
@[ext] structure Link (α : Type) where
  next : Option α
  prev : Option α
  deriving DecidableEq

/-- A memory of links, by their addresses. -/
abbrev Links (α : Type) := α → Link α

/-- A link to nowhere. -/
def Link.null {α : Type} : Link α := ⟨none, none⟩

namespace Links

variable {α : Type} {m m' : Links α} {a b c h h' x : α} {as bs xs ys : List α}

/-- `b` comes next after `a`. -/
def Follows (m : Links α) (a b : α) : Prop := (m a).next = some b ∧ (m b).prev = some a

/-- From `h` through `xs` back to `h`. -/
structure Ring (m : Links α) (h : α) (xs : List α) : Prop where
  nodup : (h :: xs).Nodup
  chain : List.IsChain m.Follows (h :: (xs ++ [h]))

/-- A chain only uses the `next` of what is not its last and the `prev` of what is not its first. -/
theorem chain_congr {l : List α} (hl : List.IsChain m.Follows l)
    (hnext : ∀ c ∈ l.dropLast, (m' c).next = (m c).next) (hprev : ∀ c ∈ l.tail, (m' c).prev = (m c).prev) :
    List.IsChain m'.Follows l := by
  induction l with
  | nil => exact .nil
  | cons a l ih =>
    cases l with
    | nil => exact .singleton a
    | cons b l =>
      rw [List.isChain_cons_cons] at hl ⊢
      simp only [List.dropLast_cons_cons, List.mem_cons, List.tail_cons] at hnext hprev
      refine ⟨⟨?_, ?_⟩, ih hl.2 (fun c hc => hnext c (.inr hc)) fun c hc => hprev c (.inr hc)⟩
      · rw [hnext a (.inl rfl)]
        exact hl.1.1
      · rw [hprev b (.inl rfl)]
        exact hl.1.2

/-- A ring is not touched by what leaves its links alone. -/
theorem Ring.congr (hr : m.Ring h xs) (hsame : ∀ c ∈ h :: xs, m' c = m c) : m'.Ring h xs := by
  refine ⟨hr.nodup, chain_congr hr.chain ?_ ?_⟩
  · intro c hc
    rw [← List.cons_append, List.dropLast_concat] at hc
    rw [hsame c hc]
  · intro c hc
    rw [hsame c ?_]
    simpa [or_comm] using hc

/-! ## A place in a ring -/

/-- `a` is the last before a place in the ring, `b` the first after it. -/
structure Neighbours (h : α) (xs ys : List α) (a b : α) (as bs : List α) : Prop where
  before : h :: xs = as ++ [a]
  after : ys ++ [h] = b :: bs

theorem neighbours (h : α) (xs ys : List α) :
    Neighbours h xs ys (xs.getLastD h) (ys.headD h) (h :: xs).dropLast (ys ++ [h]).tail := by
  refine ⟨?_, ?_⟩
  · obtain rfl | ⟨zs, z, rfl⟩ := List.eq_nil_or_concat xs
    · rfl
    · rw [List.concat_eq_append, List.getLastD_concat, ← List.cons_append, List.dropLast_concat]
  · cases ys <;> rfl

section
variable (hn : Neighbours h xs ys a b as bs)
include hn

theorem Neighbours.mem_before : a ∈ h :: xs := by simp [hn.before]

theorem Neighbours.mem_after : b ∈ h :: ys := by
  have hb : b ∈ ys ++ [h] := by simp [hn.after]
  simpa [or_comm] using hb

theorem Neighbours.circle : h :: (xs ++ ys ++ [h]) = as ++ a :: b :: bs := by
  rw [List.append_assoc, ← List.cons_append, hn.before, hn.after, List.append_assoc]
  rfl

theorem Neighbours.circle_with (x : α) : h :: (xs ++ x :: ys ++ [h]) = as ++ a :: x :: b :: bs := by
  rw [List.append_assoc, List.cons_append, ← List.cons_append, hn.before, hn.after, List.append_assoc]
  rfl

theorem Neighbours.notMem_before (hnodup : (h :: xs).Nodup) : a ∉ as := by
  rw [hn.before, List.nodup_append] at hnodup
  exact fun ha => hnodup.2.2 a ha a (List.mem_singleton_self a) rfl

theorem Neighbours.notMem_after (hnodup : (h :: ys).Nodup) : b ∉ bs := by
  have hrot : (ys ++ [h]).Nodup := (List.perm_append_singleton h ys).nodup_iff.2 hnodup
  rw [hn.after] at hrot
  exact (List.nodup_cons.1 hrot).1

theorem Neighbours.follows (hr : m.Ring h (xs ++ ys)) : m.Follows a b := by
  have hchain := hr.chain
  rw [hn.circle, List.isChain_append_cons_cons] at hchain
  exact hchain.2.1

theorem Neighbours.follows_with (hr : m.Ring h (xs ++ x :: ys)) : m.Follows a x ∧ m.Follows x b := by
  have hchain := hr.chain
  rw [hn.circle_with, List.isChain_append_cons_cons, List.isChain_cons_cons] at hchain
  exact ⟨hchain.2.1, hchain.2.2.1⟩

/-- The parts of the ring before and after the place do not care what is between them. -/
theorem Neighbours.parts (m' : Links α) (hnodup : (h :: (xs ++ ys)).Nodup)
    (hbefore : List.IsChain m.Follows (as ++ [a])) (hafter : List.IsChain m.Follows (b :: bs))
    (hnext : ∀ c ∈ h :: (xs ++ ys), c ≠ a → (m' c).next = (m c).next)
    (hprev : ∀ c ∈ h :: (xs ++ ys), c ≠ b → (m' c).prev = (m c).prev) :
    List.IsChain m'.Follows (as ++ [a]) ∧ List.IsChain m'.Follows (b :: bs) := by
  have hxs : (h :: xs).Nodup := hnodup.sublist (List.Sublist.cons_cons h (List.sublist_append_left xs ys))
  have hys : (h :: ys).Nodup := hnodup.sublist (List.Sublist.cons_cons h (List.sublist_append_right xs ys))
  have hdisj : ∀ c ∈ xs, c ∉ h :: ys := by
    intro c hc hmem
    rw [List.nodup_cons, List.nodup_append] at hnodup
    obtain rfl | hcy := List.mem_cons.1 hmem
    · exact hnodup.1 (List.mem_append_left _ hc)
    · exact hnodup.2.2.2 c hc c hcy rfl
  refine ⟨chain_congr hbefore ?_ ?_, chain_congr hafter ?_ ?_⟩
  · intro c hc
    rw [List.dropLast_concat] at hc
    have hmem : c ∈ h :: xs := by
      rw [hn.before]
      exact List.mem_append_left _ hc
    refine hnext c ?_ ?_
    · simpa using (List.mem_cons.1 hmem).imp_right Or.inl
    · intro hca
      exact hn.notMem_before hxs (hca ▸ hc)
  · intro c hc
    rw [← hn.before, List.tail_cons] at hc
    refine hprev c (by simp [hc]) ?_
    intro hcb
    exact hdisj c hc (hcb ▸ hn.mem_after)
  · intro c hc
    rw [← hn.after, List.dropLast_concat] at hc
    refine hnext c (by simp [hc]) ?_
    intro hca
    obtain hah | hax := List.mem_cons.1 hn.mem_before
    · exact (List.nodup_cons.1 hys).1 (hah ▸ hca ▸ hc)
    · exact hdisj a hax (List.mem_cons_of_mem h (hca ▸ hc))
  · intro c hc
    have hmem : c ∈ ys ++ [h] := by
      rw [hn.after]
      exact List.mem_cons_of_mem b hc
    refine hprev c ?_ ?_
    · simp only [List.mem_append, List.mem_singleton] at hmem
      simpa using hmem.symm.imp_right Or.inr
    · intro hcb
      exact hn.notMem_after hys (hcb ▸ hc)

end

/-! ## Many rings in one memory -/

/-- The elements of each list, by its head. -/
abbrev Rings (α : Type) := α → Option (List α)

/-- Neither a head nor an element. -/
def Loose (L : Rings α) (x : α) : Prop := ∀ h xs, L h = some xs → x ∉ h :: xs

/-- The memory holds the lists, and nothing else is linked. -/
structure Represents (m : Links α) (L : Rings α) : Prop where
  ring : ∀ {h xs}, L h = some xs → m.Ring h xs
  apart : ∀ {h xs h' ys}, L h = some xs → L h' = some ys → h ≠ h' → ∀ c ∈ h :: xs, c ∉ h' :: ys
  loose : ∀ {x}, Loose L x → m x = .null

variable {L : Rings α}

/-- Nothing is linked, and there is no list. -/
theorem Represents.null : Represents (fun _ => Link.null) (fun _ : α => none) := by
  refine ⟨?_, ?_, fun _ => rfl⟩
  · intro h xs hL
    cases hL
  · intro h xs h' ys hL
    cases hL

/-- What is in a list is linked. -/
theorem Represents.isLinked_iff (hm : m.Represents L) :
    (m x).next ≠ none ∧ (m x).prev ≠ none ↔ ¬Loose L x := by
  constructor
  · intro hlinked hx
    rw [hm.loose hx] at hlinked
    exact hlinked.1 rfl
  · intro hx
    simp only [Loose, not_forall, not_not] at hx
    obtain ⟨h, xs, hL, hmem⟩ := hx
    have hr := hm.ring hL
    obtain rfl | hmem := List.mem_cons.1 hmem
    · have hback := (neighbours x xs []).follows (m := m) (by rwa [List.append_nil])
      have hto := (neighbours x [] xs).follows (m := m) hr
      refine ⟨?_, ?_⟩
      · rw [show (m x).next = _ from hto.1]
        exact Option.some_ne_none _
      · rw [show (m x).prev = _ from hback.2]
        exact Option.some_ne_none _
    · obtain ⟨ys, zs, rfl⟩ := List.append_of_mem hmem
      have hto := (neighbours h ys zs).follows_with hr
      exact ⟨by rw [hto.2.1]; exact Option.some_ne_none _, by rw [hto.1.2]; exact Option.some_ne_none _⟩

/-! ## Linking and unlinking -/

variable [DecidableEq α]

def setNext (m : Links α) (a : α) (v : Option α) : Links α := Function.update m a { m a with next := v }

def setPrev (m : Links α) (a : α) (v : Option α) : Links α := Function.update m a { m a with prev := v }

@[simp] theorem setNext_next (v : Option α) : (m.setNext a v c).next = if c = a then v else (m c).next := by
  by_cases hc : c = a
  · subst hc
    simp [setNext]
  · simp [setNext, hc]

@[simp] theorem setNext_prev (v : Option α) : (m.setNext a v c).prev = (m c).prev := by
  by_cases hc : c = a
  · subst hc
    simp [setNext]
  · simp [setNext, hc]

@[simp] theorem setPrev_prev (v : Option α) : (m.setPrev a v c).prev = if c = a then v else (m c).prev := by
  by_cases hc : c = a
  · subst hc
    simp [setPrev]
  · simp [setPrev, hc]

@[simp] theorem setPrev_next (v : Option α) : (m.setPrev a v c).next = (m c).next := by
  by_cases hc : c = a
  · subst hc
    simp [setPrev]
  · simp [setPrev, hc]

/-- `x` between `a` and `b`. -/
def splice (m : Links α) (a x b : α) : Links α :=
  (((m.setNext x (some b)).setPrev x (some a)).setPrev b (some x)).setNext a (some x)

/-- `x` out from between `a` and `b`. -/
def unlink (m : Links α) (a x b : α) : Links α :=
  (((m.setNext a (some b)).setPrev b (some a)).setPrev x none).setNext x none

@[simp] theorem splice_next : (m.splice a x b c).next =
    if c = a then some x else if c = x then some b else (m c).next := by
  simp [splice]

@[simp] theorem splice_prev : (m.splice a x b c).prev =
    if c = b then some x else if c = x then some a else (m c).prev := by
  simp [splice]

@[simp] theorem unlink_next : (m.unlink a x b c).next =
    if c = x then none else if c = a then some b else (m c).next := by
  simp [unlink]

@[simp] theorem unlink_prev : (m.unlink a x b c).prev =
    if c = x then none else if c = b then some a else (m c).prev := by
  simp [unlink]

theorem splice_other (ha : c ≠ a) (hx : c ≠ x) (hb : c ≠ b) : m.splice a x b c = m c :=
  Link.ext (by simp [ha, hx]) (by simp [hb, hx])

theorem unlink_other (ha : c ≠ a) (hx : c ≠ x) (hb : c ≠ b) : m.unlink a x b c = m c :=
  Link.ext (by simp [ha, hx]) (by simp [hb, hx])

theorem unlink_self : m.unlink a x b x = .null := Link.ext (by simp [Link.null]) (by simp [Link.null])

theorem Ring.splice (hr : m.Ring h (xs ++ ys)) (hn : Neighbours h xs ys a b as bs) (hx : x ∉ h :: (xs ++ ys)) :
    (m.splice a x b).Ring h (xs ++ x :: ys) := by
  have hperm : (h :: (xs ++ x :: ys)).Perm (x :: h :: (xs ++ ys)) :=
    (List.perm_middle.cons h).trans (.swap x h _)
  refine ⟨hperm.nodup_iff.2 (List.nodup_cons.2 ⟨hx, hr.nodup⟩), ?_⟩
  have hne : ∀ c ∈ h :: (xs ++ ys), c ≠ x := fun c hc hcx => hx (hcx ▸ hc)
  have ha : a ∈ h :: (xs ++ ys) := by simpa using (List.mem_cons.1 hn.mem_before).imp_right Or.inl
  have hb : b ∈ h :: (xs ++ ys) := by simpa using (List.mem_cons.1 hn.mem_after).imp_right Or.inr
  have hchain := hr.chain
  rw [hn.circle, List.isChain_append_cons_cons] at hchain
  obtain ⟨hbefore, hafter⟩ := hn.parts (m.splice a x b) hr.nodup hchain.1 hchain.2.2
    (fun c hc hca => by simp [hca, hne c hc]) fun c hc hcb => by simp [hcb, hne c hc]
  rw [hn.circle_with, List.isChain_append_cons_cons, List.isChain_cons_cons]
  refine ⟨hbefore, ⟨by simp, ?_⟩, ⟨?_, by simp⟩, hafter⟩
  · simp [(hne b hb).symm]
  · simp [(hne a ha).symm]

theorem Ring.unlink (hr : m.Ring h (xs ++ x :: ys)) (hn : Neighbours h xs ys a b as bs) :
    (m.unlink a x b).Ring h (xs ++ ys) := by
  have hperm : (h :: (xs ++ x :: ys)).Perm (x :: h :: (xs ++ ys)) :=
    (List.perm_middle.cons h).trans (.swap x h _)
  obtain ⟨hx, hnodup⟩ := List.nodup_cons.1 (hperm.nodup_iff.1 hr.nodup)
  refine ⟨hnodup, ?_⟩
  have hne : ∀ c ∈ h :: (xs ++ ys), c ≠ x := fun c hc hcx => hx (hcx ▸ hc)
  have ha : a ∈ h :: (xs ++ ys) := by simpa using (List.mem_cons.1 hn.mem_before).imp_right Or.inl
  have hb : b ∈ h :: (xs ++ ys) := by simpa using (List.mem_cons.1 hn.mem_after).imp_right Or.inr
  have hchain := hr.chain
  rw [hn.circle_with, List.isChain_append_cons_cons, List.isChain_cons_cons] at hchain
  obtain ⟨hbefore, hafter⟩ := hn.parts (m.unlink a x b) hnodup hchain.1 hchain.2.2.2
    (fun c hc hca => by simp [hca, hne c hc]) fun c hc hcb => by simp [hcb, hne c hc]
  rw [hn.circle, List.isChain_append_cons_cons]
  refine ⟨hbefore, ⟨?_, ?_⟩, hafter⟩
  · simp [hne a ha]
  · simp [hne b hb]

/-! ## Linking and unlinking among other lists -/

/-- One list is changed, and with it only links in it or links that were in no list. -/
theorem Represents.update (hm : m.Represents L) (hring : m'.Ring h ys)
    (hfrom : ∀ c ∈ h :: ys, Loose L c ∨ ∃ xs, L h = some xs ∧ c ∈ h :: xs)
    (hother : ∀ c, c ∉ h :: ys → (∃ xs, L h = some xs ∧ c ∈ h :: xs) → m' c = .null)
    (hsame : ∀ c, c ∉ h :: ys → (∀ xs, L h = some xs → c ∉ h :: xs) → m' c = m c) :
    m'.Represents (Function.update L h (some ys)) := by
  -- what is in another list is neither loose nor in the list that is changed
  have hapart : ∀ {h' zs}, L h' = some zs → h' ≠ h → ∀ c ∈ h' :: zs, c ∉ h :: ys ∧
      ∀ xs, L h = some xs → c ∉ h :: xs := by
    intro h' zs hz hne c hc
    refine ⟨fun hcy => ?_, fun xs hxs => hm.apart hz hxs hne c hc⟩
    obtain hloose | ⟨xs, hxs, hcx⟩ := hfrom c hcy
    · exact hloose h' zs hz hc
    · exact hm.apart hz hxs hne c hc hcx
  refine ⟨?_, ?_, ?_⟩
  · intro h' zs hz
    by_cases hne : h' = h
    · subst hne
      rw [Function.update_self, Option.some.injEq] at hz
      exact hz ▸ hring
    · rw [Function.update_of_ne hne] at hz
      refine (hm.ring hz).congr fun c hc => ?_
      exact hsame c (hapart hz hne c hc).1 (hapart hz hne c hc).2
  · intro h' zs h'' ws hz hw hne c hc
    by_cases hz' : h' = h
    · subst hz'
      rw [Function.update_self, Option.some.injEq] at hz
      rw [Function.update_of_ne hne.symm] at hw
      exact fun hcw => (hapart hw hne.symm c hcw).1 (hz ▸ hc)
    · rw [Function.update_of_ne hz'] at hz
      by_cases hw' : h'' = h
      · subst hw'
        rw [Function.update_self, Option.some.injEq] at hw
        exact hw ▸ (hapart hz hz' c hc).1
      · rw [Function.update_of_ne hw'] at hw
        exact hm.apart hz hw hne c hc
  · intro x hx
    have hxy : x ∉ h :: ys := hx h ys (Function.update_self ..)
    by_cases hold : ∃ xs, L h = some xs ∧ x ∈ h :: xs
    · exact hother x hxy hold
    · have hnot : ∀ xs, L h = some xs → x ∉ h :: xs := fun xs hxs hmem => hold ⟨xs, hxs, hmem⟩
      rw [hsame x hxy hnot]
      refine hm.loose fun h' zs hz => ?_
      by_cases hne : h' = h
      · subst hne
        exact hnot zs hz
      · exact hx h' zs (by rw [Function.update_of_ne hne, hz])

/-- A new head. -/
theorem Represents.create (hm : m.Represents L) (hh : Loose L h) :
    Represents (Function.update m h ⟨some h, some h⟩) (Function.update L h (some [])) := by
  have hnone : ∀ xs, L h ≠ some xs := fun xs hxs => hh h xs hxs List.mem_cons_self
  refine hm.update ⟨List.nodup_singleton h, ?_⟩ ?_ ?_ ?_
  · exact List.isChain_pair.2 ⟨by rw [Function.update_self], by rw [Function.update_self]⟩
  · intro c hc
    obtain rfl := List.mem_singleton.1 hc
    exact .inl hh
  · rintro c - ⟨xs, hxs, -⟩
    exact absurd hxs (hnone xs)
  · intro c hc _
    exact Function.update_of_ne (List.ne_of_not_mem_cons hc) ..

/-- A loose element between two neighbours. -/
theorem Represents.splice (hm : m.Represents L) (hL : L h = some (xs ++ ys)) (hx : Loose L x)
    (hn : Neighbours h xs ys a b as bs) :
    (m.splice a x b).Represents (Function.update L h (some (xs ++ x :: ys))) := by
  have hsub : ∀ c, c ∈ h :: (xs ++ x :: ys) ↔ c = x ∨ c ∈ h :: (xs ++ ys) := by
    intro c
    simp only [List.mem_cons, List.mem_append]
    tauto
  refine hm.update ((hm.ring hL).splice hn (hx h _ hL)) ?_ ?_ ?_
  · intro c hc
    obtain rfl | hc := (hsub c).1 hc
    · exact .inl hx
    · exact .inr ⟨_, hL, hc⟩
  · rintro c hc ⟨zs, hzs, hmem⟩
    obtain rfl := Option.some.inj (hL.symm.trans hzs)
    exact absurd ((hsub c).2 (.inr hmem)) hc
  · intro c hc _
    have ha := hn.mem_before
    have hb := hn.mem_after
    refine splice_other ?_ ?_ ?_
    · rintro rfl
      exact hc ((hsub c).2 (.inr (by simpa using (List.mem_cons.1 ha).imp_right Or.inl)))
    · rintro rfl
      exact hc ((hsub c).2 (.inl rfl))
    · rintro rfl
      exact hc ((hsub c).2 (.inr (by simpa using (List.mem_cons.1 hb).imp_right Or.inr)))

/-- An element out from between its neighbours. -/
theorem Represents.unlink (hm : m.Represents L) (hL : L h = some (xs ++ x :: ys))
    (hn : Neighbours h xs ys a b as bs) :
    (m.unlink a x b).Represents (Function.update L h (some (xs ++ ys))) := by
  have hsub : ∀ c, c ∈ h :: (xs ++ x :: ys) ↔ c = x ∨ c ∈ h :: (xs ++ ys) := by
    intro c
    simp only [List.mem_cons, List.mem_append]
    tauto
  refine hm.update ((hm.ring hL).unlink hn) ?_ ?_ ?_
  · exact fun c hc => .inr ⟨_, hL, (hsub c).2 (.inr hc)⟩
  · rintro c hc ⟨zs, hzs, hmem⟩
    obtain rfl := Option.some.inj (hL.symm.trans hzs)
    obtain rfl | hc' := (hsub c).1 hmem
    · exact unlink_self
    · exact absurd hc' hc
  · intro c hc hnot
    have ha := hn.mem_before
    have hb := hn.mem_after
    refine unlink_other ?_ ?_ ?_
    · rintro rfl
      exact hc (by simpa using (List.mem_cons.1 ha).imp_right Or.inl)
    · rintro rfl
      exact hnot _ hL ((hsub c).2 (.inl rfl))
    · rintro rfl
      exact hc (by simpa using (List.mem_cons.1 hb).imp_right Or.inr)

end Links

end Lib
