import Mathlib.Data.Multiset.OrderedMonoid
import Mathlib.Data.Multiset.Replicate
import TrustZone.Lib.Traced

/-!
# Resources that are taken and given back

A ledger over what a computation records (`Traced`): each record stands for `Deed`s on named resources.
`settle` gives what is held after them, and fails where something is given back that is not held.

* `Holds`: what a computation holds where it starts, and what it holds for each result; `holds_pure`,
  `holds_bind`, `Holds.map`, `holds_record`, `holds_takes`, `holds_gives`.
* `Holds.frame`: what else is held stays held.
* `Settled`: nothing is given back twice, and nothing is held at the end; `Holds.settled_iff`.
* `Leaves`: what is held turns to what the result owns, and to nothing else exactly when the result is fine;
  `leaves_bind`, `Leaves.drop`, `Leaves.settle_iff`.
-/

namespace Lib

/-- What is done with a resource. -/
inductive Deed (ι : Type)
  | take (x : ι)
  | give (x : ι)

variable {ι : Type} [DecidableEq ι]

/-- What is held after a deed. -/
def Deed.apply (held : Multiset ι) : Deed ι → Option (Multiset ι)
  | .take x => some (x ::ₘ held)
  | .give x => if x ∈ held then some (held.erase x) else none

/-- What is held after deeds, in order. -/
def settle (held : Multiset ι) (l : List (Deed ι)) : Option (Multiset ι) := l.foldlM Deed.apply held

variable {held rest : Multiset ι} {x : ι} {l l' : List (Deed ι)}

@[simp] theorem settle_nil : settle held [] = some held := rfl

@[simp] theorem settle_take : settle held (.take x :: l) = settle (x ::ₘ held) l := rfl

@[simp] theorem settle_give_cons : settle (x ::ₘ held) (.give x :: l) = settle held l := by
  simp [settle, Deed.apply]

@[simp] theorem settle_give_singleton : settle {x} (.give x :: l) = settle 0 l :=
  settle_give_cons

@[simp] theorem settle_takes (x : ι) (n : Nat) :
    settle held (.replicate n (.take x)) = some (.replicate n x + held) := by
  induction n generalizing held with
  | zero => simp
  | succ n ih => simp [List.replicate_succ, ih, Multiset.replicate_succ]

@[simp] theorem settle_gives (x : ι) (n : Nat) :
    settle (.replicate n x + held) (.replicate n (.give x)) = some held := by
  induction n with
  | zero => simp
  | succ n ih => simpa [List.replicate_succ, Multiset.replicate_succ] using ih

theorem settle_append : settle held (l ++ l') = (settle held l).bind fun held' => settle held' l' := by
  simp [settle, List.foldlM_append]

theorem Deed.apply_frame (d : Deed ι) (h : d.apply held = some rest) (frame : Multiset ι) :
    d.apply (held + frame) = some (rest + frame) := by
  cases d with
  | take x =>
    obtain rfl := Option.some.inj h
    exact congrArg some (Multiset.cons_add x held frame).symm
  | give x =>
    by_cases hx : x ∈ held
    · obtain rfl : held.erase x = rest := by simpa [Deed.apply, hx] using h
      simp [Deed.apply, hx, Multiset.erase_add_left_pos]
    · simp [Deed.apply, hx] at h

/-- What else is held stays held. -/
theorem settle_frame (h : settle held l = some rest) (frame : Multiset ι) :
    settle (held + frame) l = some (rest + frame) := by
  induction l generalizing held with
  | nil =>
    obtain rfl := Option.some.inj h
    rfl
  | cons d l ih =>
    obtain ⟨mid, hd, hl⟩ := Option.bind_eq_some_iff.1 h
    exact Option.bind_eq_some_iff.2 ⟨mid + frame, d.apply_frame hd frame, ih hl⟩

namespace Traced

variable {τ α β : Type} {deeds : τ → List (Deed ι)} {P : τ → Prop}

/-- From `held` on nothing is given back that is not held, and `post a` is held when `a` is returned. -/
def Holds (deeds : τ → List (Deed ι)) (held : Multiset ι) (x : Traced τ α) (post : α → Multiset ι) :
    Prop :=
  ∃ held', settle held (x.log.flatMap deeds) = some held' ∧ ∀ a, x.result = some a → held' = post a

/-- Nothing is given back that is not held, and nothing is held on return. -/
def Settled (deeds : τ → List (Deed ι)) (x : Traced τ α) : Prop := x.Holds deeds 0 fun _ => 0

theorem holds_pure (a : α) {post : α → Multiset ι} (h : post a = held) :
    (pure a : Traced τ α).Holds deeds held post := by
  refine ⟨held, rfl, ?_⟩
  intro b hb
  obtain rfl := Option.some.inj hb
  exact h.symm

theorem holds_fail {post : α → Multiset ι} : (fail : Traced τ α).Holds deeds held post :=
  ⟨held, rfl, nofun⟩

/-- A computation that records one thing. -/
theorem holds_record {t : τ} {r : Option α} {held' : Multiset ι}
    (h : settle held (deeds t) = some held') :
    (⟨[t], r⟩ : Traced τ α).Holds deeds held fun _ => held' := by
  refine ⟨held', ?_, fun _ _ => rfl⟩
  simpa using h

theorem Holds.of_log {log : List τ} {a : α} {post : α → Multiset ι} (hlog : log.flatMap deeds = l)
    (h : settle held l = some (post a)) : (⟨log, some a⟩ : Traced τ α).Holds deeds held post := by
  refine ⟨post a, hlog ▸ h, ?_⟩
  intro b hb
  rw [Option.some.inj hb]

/-- A computation that takes `n` of a kind. -/
theorem holds_takes {t : τ} {x : ι} (ht : deeds t = [.take x]) (n : Nat) (a : α) :
    (⟨.replicate n t, some a⟩ : Traced τ α).Holds deeds held fun _ => .replicate n x + held :=
  .of_log (by rw [List.flatMap_replicate, ht, List.flatten_replicate_singleton]) (settle_takes x n)

/-- A computation that gives `n` of a kind back. -/
theorem holds_gives {t : τ} {x : ι} (ht : deeds t = [.give x]) (n : Nat) (a : α) :
    (⟨.replicate n t, some a⟩ : Traced τ α).Holds deeds (.replicate n x + held) fun _ => held :=
  .of_log (by rw [List.flatMap_replicate, ht, List.flatten_replicate_singleton]) (settle_gives x n)

theorem Holds.settle_eq {x : Traced τ α} {post : α → Multiset ι} {a : α}
    (h : x.Holds deeds held post) (ha : x.result = some a) :
    settle held (x.log.flatMap deeds) = some (post a) := by
  obtain ⟨held', hs, hr⟩ := h
  rw [hs, hr a ha]

theorem Holds.imp {x : Traced τ α} {post post' : α → Multiset ι} (h : x.Holds deeds held post)
    (hpost : ∀ a, x.result = some a → post a = post' a) : x.Holds deeds held post' := by
  obtain ⟨held', hs, hr⟩ := h
  refine ⟨held', hs, ?_⟩
  intro a ha
  rw [hr a ha, hpost a ha]

theorem Holds.frame {x : Traced τ α} {post : α → Multiset ι} (h : x.Holds deeds held post)
    (frame : Multiset ι) : x.Holds deeds (held + frame) fun a => post a + frame := by
  obtain ⟨held', hs, hr⟩ := h
  refine ⟨held' + frame, settle_frame hs frame, ?_⟩
  intro a ha
  rw [hr a ha]

theorem holds_bind {x : Traced τ α} {f : α → Traced τ β} {mid : α → Multiset ι}
    {post : β → Multiset ι} (hx : x.Holds deeds held mid)
    (hf : ∀ a, x.result = some a → (f a).Holds deeds (mid a) post) :
    (x >>= f).Holds deeds held post := by
  obtain ⟨held', hs, hr⟩ := hx
  cases ha : x.result with
  | none =>
    have hbind : x >>= f = ⟨x.log, none⟩ := by
      obtain ⟨log, result⟩ := x
      obtain rfl : result = none := ha
      rfl
    exact ⟨held', by rw [hbind]; exact hs, by rw [hbind]; exact nofun⟩
  | some a =>
    obtain ⟨held'', hs', hr'⟩ := hf a ha
    rw [bind_of_some ha]
    refine ⟨held'', ?_, hr'⟩
    rw [List.flatMap_append, settle_append, hs, hr a ha]
    exact hs'

theorem Holds.map {x : Traced τ α} {post : β → Multiset ι} {g : α → β}
    (hx : x.Holds deeds held fun a => post (g a)) : (g <$> x).Holds deeds held post :=
  holds_bind hx fun a _ => holds_pure (g a) rfl

/-- What is done without the resources. -/
theorem holds_of_all {x : Traced τ α} (hx : x.All fun t => deeds t = []) :
    x.Holds deeds held fun _ => held := by
  refine ⟨held, ?_, fun _ _ => rfl⟩
  rw [List.flatMap_eq_nil_iff.2 hx]
  rfl

/-- What is held at the end is known: it is settled when that is nothing. -/
theorem Holds.settled_iff {x : Traced τ α} {post : α → Multiset ι} (h : x.Holds deeds 0 post) :
    x.Settled deeds ↔ ∀ a, x.result = some a → post a = 0 := by
  obtain ⟨held', hs, hr⟩ := h
  constructor
  · intro ⟨held'', hs', hr'⟩ a ha
    obtain rfl := Option.some.inj (hs'.symm.trans hs)
    rw [← hr a ha, hr' a ha]
  · intro hpost
    refine ⟨held', hs, ?_⟩
    intro a ha
    rw [hr a ha, hpost a ha]

/-! ## What nobody owns -/

/-- What is held turns to what the result owns, and to what is left besides; that is nothing exactly when
the result is fine. -/
def Leaves (deeds : τ → List (Deed ι)) (held : Multiset ι) (x : Traced τ α) (owned : α → Multiset ι)
    (fine : α → Prop) : Prop :=
  ∃ held', settle held (x.log.flatMap deeds) = some held' ∧
    ∀ a, x.result = some a → ∃ left, held' = left + owned a ∧ (left = 0 ↔ fine a)

variable {x : Traced τ α} {owned owned' : α → Multiset ι} {fine fine' : α → Prop}

theorem Holds.leaves (h : x.Holds deeds held owned) : x.Leaves deeds held owned fun _ => True := by
  obtain ⟨held', hs, hr⟩ := h
  refine ⟨held', hs, ?_⟩
  intro a ha
  exact ⟨0, by rw [hr a ha, zero_add], iff_of_true rfl trivial⟩

theorem leaves_pure (a : α) (h : owned a = held) (hfine : fine a) :
    (pure a : Traced τ α).Leaves deeds held owned fine := by
  refine ⟨held, rfl, ?_⟩
  intro b hb
  obtain rfl := Option.some.inj hb
  exact ⟨0, by rw [h, zero_add], iff_of_true rfl hfine⟩

theorem leaves_fail : (fail : Traced τ α).Leaves deeds held owned fine :=
  ⟨held, rfl, nofun⟩

theorem Leaves.imp (h : x.Leaves deeds held owned fine)
    (howned : ∀ a, x.result = some a → owned a = owned' a)
    (hfine : ∀ a, x.result = some a → (fine a ↔ fine' a)) : x.Leaves deeds held owned' fine' := by
  obtain ⟨held', hs, hr⟩ := h
  refine ⟨held', hs, ?_⟩
  intro a ha
  obtain ⟨left, hleft, hzero⟩ := hr a ha
  exact ⟨left, by rw [hleft, howned a ha], hzero.trans (hfine a ha)⟩

/-- What else is held stays held. -/
theorem Leaves.frame (h : x.Leaves deeds held owned fine) (frame : Multiset ι) :
    x.Leaves deeds (held + frame) (fun a => owned a + frame) fine := by
  obtain ⟨held', hs, hr⟩ := h
  refine ⟨held' + frame, settle_frame hs frame, ?_⟩
  intro a ha
  obtain ⟨left, hleft, hzero⟩ := hr a ha
  exact ⟨left, by rw [hleft, add_assoc], hzero⟩

theorem Leaves.framed (h : x.Leaves deeds 0 owned fine) (frame : Multiset ι) :
    x.Leaves deeds frame (fun a => owned a + frame) fine := by
  simpa using h.frame frame

theorem Leaves.inside (h : x.Leaves deeds 0 (fun _ => 0) fine) (frame : Multiset ι) :
    x.Leaves deeds frame (fun _ => frame) fine := by
  simpa using h.framed frame

/-- Some of what the result owns is given up. -/
theorem Leaves.drop {lost : α → Multiset ι} (h : x.Leaves deeds held (fun a => lost a + owned a) fine) :
    x.Leaves deeds held owned fun a => fine a ∧ lost a = 0 := by
  obtain ⟨held', hs, hr⟩ := h
  refine ⟨held', hs, ?_⟩
  intro a ha
  obtain ⟨left, hleft, hzero⟩ := hr a ha
  refine ⟨left + lost a, by rw [hleft, add_assoc], ?_⟩
  rw [add_eq_zero, hzero]

/-- The second of two computations starts with what the result of the first one owns. -/
theorem leaves_bind {f : α → Traced τ β} {mid : α → Multiset ι} {post : β → Multiset ι}
    {good : β → Prop} (fineOf : α → β → Prop) (hx : x.Leaves deeds held mid fine)
    (hf : ∀ a, x.result = some a → (f a).Leaves deeds (mid a) post (fineOf a))
    (hgood : ∀ a b, x.result = some a → (f a).result = some b → (good b ↔ fine a ∧ fineOf a b)) :
    (x >>= f).Leaves deeds held post good := by
  obtain ⟨held', hs, hr⟩ := hx
  cases ha : x.result with
  | none =>
    have hbind : x >>= f = ⟨x.log, none⟩ := by
      obtain ⟨log, result⟩ := x
      obtain rfl : result = none := ha
      rfl
    exact ⟨held', by rw [hbind]; exact hs, by rw [hbind]; exact nofun⟩
  | some a =>
    obtain ⟨left, rfl, hzero⟩ := hr a ha
    obtain ⟨held'', hs', hr'⟩ := hf a ha
    rw [bind_of_some ha]
    refine ⟨held'' + left, ?_, ?_⟩
    · rw [List.flatMap_append, settle_append, hs, add_comm left]
      exact settle_frame hs' left
    · intro b hb
      obtain ⟨left', rfl, hzero'⟩ := hr' b hb
      refine ⟨left' + left, by rw [add_right_comm], ?_⟩
      rw [add_eq_zero, hzero, hzero', hgood a b ha hb, and_comm]

/-- After a computation that leaves nothing, the second one says what is left. -/
theorem Leaves.bind {f : α → Traced τ β} {mid : α → Multiset ι} {post : β → Multiset ι}
    {good : β → Prop} (hx : x.Leaves deeds held mid fun _ => True)
    (hf : ∀ a, x.result = some a → (f a).Leaves deeds (mid a) post good) :
    (x >>= f).Leaves deeds held post good :=
  leaves_bind (fun _ => good) hx hf fun _ _ _ _ => (iff_of_eq (true_and _)).symm

theorem Leaves.map {g : α → β} {post : β → Multiset ι} {good : β → Prop}
    (h : x.Leaves deeds held (fun a => post (g a)) fun a => good (g a)) :
    (g <$> x).Leaves deeds held post good := by
  refine leaves_bind (fun _ _ => True) h (fun a _ => leaves_pure (g a) rfl trivial) ?_
  intro a b _ hb
  obtain rfl := Option.some.inj hb
  exact (iff_of_eq (and_true _)).symm

/-- With nothing held at first and nothing owned, what is held is what is left. -/
theorem Leaves.settle_iff {a : α} (h : x.Leaves deeds 0 (fun _ => 0) fine) (ha : x.result = some a) :
    settle 0 (x.log.flatMap deeds) = some 0 ↔ fine a := by
  obtain ⟨held', hs, hr⟩ := h
  obtain ⟨left, rfl, hzero⟩ := hr a ha
  rw [hs, add_zero, Option.some.injEq, hzero]

end Traced
end Lib
