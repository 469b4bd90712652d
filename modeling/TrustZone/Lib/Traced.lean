import Mathlib.Data.List.Basic

/-!
# Computations that record what they do

`Traced τ α`: a computation that may not return, with what it has done until then, in order. A loop is a
`List.foldlM`.

* `result_bind`, `result_foldlM`: without the record, it is the plain computation.
* `all_bind_iff`: everything done in a sequence is right when the parts are, the second for what the
  first returns.
* `all_foldlM_iff`: everything done in a loop is right when it is for each item that the loop reaches,
  where a control state that the items move says how far it comes (`Reaches`); `all_foldlM_total`: for
  each item, when nothing stops it.
-/

namespace Lib

/-- What a computation has done, and its result, if it returns. -/
structure Traced (τ α : Type) where
  log : List τ
  result : Option α

namespace Traced

variable {τ α β σ γ ι : Type} {P : τ → Prop}

instance : Monad (Traced τ) where
  pure a := ⟨[], some a⟩
  bind x f :=
    match x.result with
    | none => ⟨x.log, none⟩
    | some a => ⟨x.log ++ (f a).log, (f a).result⟩

@[simp] theorem pure_bind_eq (a : α) (f : α → Traced τ β) : pure a >>= f = f a := rfl

theorem bind_assoc (x : Traced τ α) (f : α → Traced τ β) (g : β → Traced τ γ) :
    x >>= f >>= g = x >>= fun a => f a >>= g := by
  obtain ⟨log, result⟩ := x
  cases result with
  | none => rfl
  | some a =>
    show (⟨log ++ (f a).log, (f a).result⟩ : Traced τ β) >>= g =
      ⟨log ++ (f a >>= g).log, (f a >>= g).result⟩
    obtain ⟨log', result'⟩ := f a
    cases result' with
    | none => rfl
    | some b => exact congrArg (Traced.mk · (g b).result) (List.append_assoc log log' (g b).log)

/-- A computation that does not return. -/
def fail : Traced τ α := ⟨[], none⟩

/-- Everything that was done is right. -/
def All (P : τ → Prop) (x : Traced τ α) : Prop := ∀ t ∈ x.log, P t

/-! ## The plain computation -/

@[simp] theorem result_pure (a : α) : (pure a : Traced τ α).result = some a := rfl

@[simp] theorem result_fail : (fail : Traced τ α).result = none := rfl

@[simp] theorem result_bind (x : Traced τ α) (f : α → Traced τ β) :
    (x >>= f).result = x.result.bind fun a => (f a).result := by
  obtain ⟨log, result⟩ := x
  cases result <;> rfl

@[simp] theorem result_map (f : α → β) (x : Traced τ α) : (f <$> x).result = x.result.map f := by
  obtain ⟨log, result⟩ := x
  cases result <;> rfl

theorem result_foldlM {f : σ → ι → Traced τ σ} {g : σ → ι → Option σ}
    (h : ∀ s i, (f s i).result = g s i) (l : List ι) (s : σ) :
    (l.foldlM f s).result = l.foldlM g s := by
  induction l generalizing s with
  | nil => rfl
  | cons i l ih =>
    rw [List.foldlM_cons, List.foldlM_cons, result_bind, h]
    apply Option.bind_congr
    intro s' _
    exact ih s'

/-! ## What was done -/

@[simp] theorem all_pure (a : α) : (pure a : Traced τ α).All P := by
  intro t ht
  cases ht

@[simp] theorem all_fail : (fail : Traced τ α).All P := by
  intro t ht
  cases ht

@[simp] theorem all_single (t : τ) (r : Option α) : (⟨[t], r⟩ : Traced τ α).All P ↔ P t := by
  simp [All]

theorem all_bind_iff (x : Traced τ α) (f : α → Traced τ β) :
    (x >>= f).All P ↔ x.All P ∧ ∀ a, x.result = some a → (f a).All P := by
  obtain ⟨log, result⟩ := x
  cases result with
  | none =>
    constructor
    · exact fun h => ⟨h, nofun⟩
    · exact fun h => h.1
  | some a =>
    have hlog : ((⟨log, some a⟩ : Traced τ α) >>= f).log = log ++ (f a).log := rfl
    simp only [All, hlog, List.mem_append, or_imp, forall_and, Option.some.injEq, forall_eq']

theorem bind_of_some {x : Traced τ α} {a : α} (h : x.result = some a) (f : α → Traced τ β) :
    x >>= f = ⟨x.log ++ (f a).log, (f a).result⟩ := by
  obtain ⟨log, result⟩ := x
  obtain rfl : result = some a := h
  rfl

theorem log_bind_of_some {x : Traced τ α} {a : α} (h : x.result = some a) (f : α → Traced τ β) :
    (x >>= f).log = x.log ++ (f a).log := by
  rw [bind_of_some h]

/-- What comes after does nothing. -/
theorem log_bind_of_nil {x : Traced τ α} {f : α → Traced τ β} (h : ∀ a, (f a).log = []) :
    (x >>= f).log = x.log := by
  obtain ⟨log, result⟩ := x
  cases result with
  | none => rfl
  | some a =>
    show log ++ (f a).log = log
    rw [h, List.append_nil]

@[simp] theorem all_map_iff (f : α → β) (x : Traced τ α) : (f <$> x).All P ↔ x.All P := by
  refine (all_bind_iff x (pure ∘ f)).trans (and_iff_left ?_)
  intro a _
  exact all_pure (f a)

/-! ## Loops -/

/-- The loop comes to `i`: the items before it let the control state through. -/
def Reaches (go : γ → ι → Option γ) (c : γ) (l : List ι) (i : ι) : Prop :=
  ∃ before after, l = before ++ i :: after ∧ (before.foldlM go c).isSome

variable {go : γ → ι → Option γ} {c : γ} {i j : ι} {l : List ι}

theorem not_reaches_nil : ¬Reaches go c [] i := by
  rintro ⟨before, after, h, -⟩
  cases before <;> cases h

theorem reaches_cons : Reaches go c (j :: l) i ↔
    i = j ∨ ∃ c', go c j = some c' ∧ Reaches go c' l i := by
  constructor
  · rintro ⟨before, after, h, hgo⟩
    cases before with
    | nil => exact .inl (List.cons.inj h).1.symm
    | cons k before =>
      obtain ⟨rfl, rfl⟩ := List.cons.inj h
      rw [List.foldlM_cons] at hgo
      cases hc : go c j with
      | none => simp [hc] at hgo
      | some c' =>
        rw [hc] at hgo
        exact .inr ⟨c', rfl, before, after, rfl, hgo⟩
  · rintro (rfl | ⟨c', hc, before, after, rfl, hgo⟩)
    · exact ⟨[], l, rfl, rfl⟩
    · refine ⟨j :: before, after, rfl, ?_⟩
      rw [List.foldlM_cons, hc]
      exact hgo

theorem Reaches.mem (h : Reaches go c l i) : i ∈ l := by
  obtain ⟨before, after, rfl, -⟩ := h
  exact List.mem_append_right before List.mem_cons_self

theorem forall_reaches_cons {Q : ι → Prop} : (∀ i, Reaches go c (j :: l) i → Q i) ↔
    Q j ∧ ∀ c', go c j = some c' → ∀ i, Reaches go c' l i → Q i := by
  constructor
  · intro h
    exact ⟨h j (reaches_cons.2 (.inl rfl)),
      fun c' hc i hi => h i (reaches_cons.2 (.inr ⟨c', hc, hi⟩))⟩
  · rintro ⟨hj, h⟩ i hi
    obtain rfl | ⟨c', hc, hi⟩ := reaches_cons.1 hi
    · exact hj
    · exact h c' hc i hi

/-- A loop that nothing stops reaches every item. -/
theorem reaches_iff_mem (h : ∀ c i, (go c i).isSome) : Reaches go c l i ↔ i ∈ l := by
  refine ⟨Reaches.mem, ?_⟩
  intro hi
  induction l generalizing c with
  | nil => cases hi
  | cons j l ih =>
    obtain ⟨c', hc⟩ := Option.isSome_iff_exists.1 (h c j)
    obtain rfl | hi := List.mem_cons.1 hi
    · exact reaches_cons.2 (.inl rfl)
    · exact reaches_cons.2 (.inr ⟨c', hc, ih hi⟩)

/-- A loop returns when each of its items does, in the states that it comes to. -/
theorem isSome_foldlM_iff {f : σ → ι → Option σ} {I : σ → Prop} {Q : ι → Prop}
    (hone : ∀ s i, I s → ((f s i).isSome ↔ Q i)) (hkeep : ∀ s i s', I s → f s i = some s' → I s')
    (l : List ι) {s : σ} (hs : I s) : (l.foldlM f s).isSome ↔ ∀ i ∈ l, Q i := by
  induction l generalizing s with
  | nil => exact iff_of_true rfl nofun
  | cons i l ih =>
    rw [List.foldlM_cons, List.forall_mem_cons, ← hone s i hs]
    cases h : f s i with
    | none => simp
    | some s' => simpa using ih (hkeep s i s' hs h)

/-- **The rule of a loop**: `Q` says when what is done with an item is right, and `go` how the control
state of the loop moves where it is. -/
theorem all_foldlM_iff {f : σ → ι → Traced τ σ} {Q : ι → Prop} (go : γ → ι → Option γ)
    (ctrl : σ → γ)
    (hone : ∀ i ∈ l, ∀ s, (f s i).All P ↔ Q i)
    (hgo : ∀ i ∈ l, ∀ s, Q i → (f s i).result.map ctrl = go (ctrl s) i) (s : σ) :
    (l.foldlM f s).All P ↔ ∀ i, Reaches go (ctrl s) l i → Q i := by
  induction l generalizing s with
  | nil => exact iff_of_true (all_pure s) fun i hi => absurd hi not_reaches_nil
  | cons j l ih =>
    have ih := ih (fun i hi => hone i (List.mem_cons_of_mem j hi))
      fun i hi => hgo i (List.mem_cons_of_mem j hi)
    rw [List.foldlM_cons, all_bind_iff, forall_reaches_cons, hone j List.mem_cons_self s]
    apply and_congr_right
    intro hj
    have hmap := hgo j List.mem_cons_self s hj
    constructor
    · intro h c' hc
      rw [hc, Option.map_eq_some_iff] at hmap
      obtain ⟨s', hs, rfl⟩ := hmap
      exact (ih s').1 (h s' hs)
    · intro h s' hs
      rw [hs] at hmap
      exact (ih s').2 (h _ hmap.symm)

/-- A loop that comes to its end where everything is right. -/
theorem all_foldlM_total {f : σ → ι → Traced τ σ} {Q : ι → Prop}
    (hone : ∀ i ∈ l, ∀ s, (f s i).All P ↔ Q i)
    (hgo : ∀ i ∈ l, ∀ s, Q i → (f s i).result.isSome) (s : σ) :
    (l.foldlM f s).All P ↔ ∀ i ∈ l, Q i := by
  have hctrl : ∀ i ∈ l, ∀ s, Q i → (f s i).result.map (fun _ => ()) = some () := by
    intro i hi s hQ
    obtain ⟨s', hs⟩ := Option.isSome_iff_exists.1 (hgo i hi s hQ)
    rw [hs]
    rfl
  rw [all_foldlM_iff (fun _ _ => some ()) (fun _ => ()) hone hctrl s]
  apply forall_congr'
  intro i
  rw [reaches_iff_mem fun _ _ => rfl]

end Traced
end Lib
