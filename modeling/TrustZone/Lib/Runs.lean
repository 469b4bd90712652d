import Mathlib.Data.List.Basic

/-!
# Runs of a component that is called step after step

A `Machine` answers each call from a state with an answer and a next state, or does not return
(`none`: a failed assertion, a dereferenced `NULL`, a loop that is still waiting). `Exec m s₀ tr s`:
the calls recorded in `tr` lead from `s₀` to `s`. The rules:

* `Exec.hist`, `Exec.inv`: what every step keeps holds after every run.
* `exec?_total`: every list of calls runs, when every call returns and keeps an invariant.
* `exec?_still`: so does one whose calls leave the state alone.
* `Exec.mem_pre`: an invariant holds before every step of the run.
* `Exec.length_le`: a run whose steps all lower a rank is no longer than the rank.
* `Exec.split`: a run around one of its steps.
* `keeps_iff`: when a step keeps an invariant just under a condition, a list of calls does just when
  every call meets the condition in the state that it finds.
* `Since P Q tr`: a step of the run was a `P`, and every later one a `Q` (`Since.now`, `Since.keep`,
  `since_snoc`).
* `Exec.proj`: a component that some calls leave alone and the others change as a function of the
  component (`Steps f`) ends as those calls alone say, with the answers they say. Two runs with
  the same such calls then agree (`Exec.proj_eq`).
-/

namespace Lib

/-- One step of a run: the state before, the call, the answer and the state after. -/
structure Entry (σ ι ο : Type) where
  pre : σ
  inp : ι
  out : ο
  post : σ

/-- A component: each call answers and moves on, or does not return. -/
structure Machine (σ ι ο : Type) where
  step : σ → ι → Option (σ × ο)

namespace Machine

variable {σ ι ο κ : Type}

/-- `tr` records a run of `m` from `s₀` to the last index. -/
inductive Exec (m : Machine σ ι ο) (s₀ : σ) : List (Entry σ ι ο) → σ → Prop
  | nil : Exec m s₀ [] s₀
  | snoc {tr : List (Entry σ ι ο)} {s s' : σ} {i : ι} {o : ο} : Exec m s₀ tr s →
      m.step s i = some (s', o) → Exec m s₀ (tr ++ [⟨s, i, o, s'⟩]) s'

/-- The run of a list of calls, as long as every call returns. -/
def exec? (m : Machine σ ι ο) : σ → List ι → Option (List (Entry σ ι ο) × σ)
  | s, [] => some ([], s)
  | s, i :: is =>
    match m.step s i with
    | none => none
    | some (s', o) =>
      match m.exec? s' is with
      | none => none
      | some (tr, s'') => some (⟨s, i, o, s'⟩ :: tr, s'')

variable {m : Machine σ ι ο} {s₀ s : σ} {tr : List (Entry σ ι ο)}

theorem Exec.append {tr' : List (Entry σ ι ο)} {s' : σ} (h : Exec m s₀ tr s)
    (h' : Exec m s tr' s') : Exec m s₀ (tr ++ tr') s' := by
  induction h' with
  | nil => simpa using h
  | snoc _ hs ih => rw [← List.append_assoc]; exact .snoc ih hs

theorem exec?_exec {is : List ι} {s : σ} {tr : List (Entry σ ι ο)} {s' : σ}
    (h : m.exec? s is = some (tr, s')) : Exec m s tr s' := by
  induction is generalizing s tr with
  | nil =>
    simp only [exec?, Option.some.injEq, Prod.mk.injEq] at h
    obtain ⟨rfl, rfl⟩ := h
    exact .nil
  | cons i is ih =>
    simp only [exec?] at h
    split at h
    · cases h
    · rename_i s1 o hs
      split at h
      · cases h
      · rename_i tr1 s2 hr
        simp only [Option.some.injEq, Prod.mk.injEq] at h
        obtain ⟨rfl, rfl⟩ := h
        have h1 : Exec m s [⟨s, i, o, s1⟩] s1 := Exec.snoc .nil hs
        exact h1.append (ih hr)

/-- The calls of a run are recorded in order. -/
theorem exec?_inp {is : List ι} {s : σ} {tr : List (Entry σ ι ο)} {s' : σ}
    (h : m.exec? s is = some (tr, s')) : tr.map (·.inp) = is := by
  induction is generalizing s tr with
  | nil =>
    simp only [exec?, Option.some.injEq, Prod.mk.injEq] at h
    rw [← h.1, List.map_nil]
  | cons i is ih =>
    simp only [exec?] at h
    split at h
    · cases h
    · split at h
      · cases h
      · rename_i tr₁ s₁ hr
        simp only [Option.some.injEq, Prod.mk.injEq] at h
        obtain ⟨rfl, rfl⟩ := h
        rw [List.map_cons, ih hr]

/-- The run of a list of calls that all return. -/
theorem exec?_getD {is : List ι} {s : σ} (h : (m.exec? s is).isSome = true) :
    Exec m s ((m.exec? s is).getD ([], s)).1 ((m.exec? s is).getD ([], s)).2 := by
  obtain ⟨r, hr⟩ := Option.isSome_iff_exists.1 h
  rw [hr]
  exact exec?_exec hr

/-- Every recorded step is a step of the machine. -/
theorem Exec.mem (h : Exec m s₀ tr s) {e : Entry σ ι ο} (he : e ∈ tr) :
    m.step e.pre e.inp = some (e.post, e.out) := by
  induction h with
  | nil => cases he
  | snoc _ hs ih =>
    rcases List.mem_append.1 he with he | he
    · exact ih he
    · rw [List.mem_singleton.1 he]; exact hs

/-- **History invariants**: what holds of the empty run and every step keeps holds of every run. -/
theorem Exec.hist {I : List (Entry σ ι ο) → σ → Prop}
    (hI : ∀ tr s i s' o, I tr s → m.step s i = some (s', o) → I (tr ++ [⟨s, i, o, s'⟩]) s')
    (h : Exec m s₀ tr s) (h₀ : I [] s₀) : I tr s := by
  induction h with
  | nil => exact h₀
  | snoc _ hs ih => exact hI _ _ _ _ _ ih hs

/-- **Invariants**: what every step keeps holds after every run. -/
theorem Exec.inv {I : σ → Prop} (hI : ∀ s i s' o, I s → m.step s i = some (s', o) → I s')
    (h : Exec m s₀ tr s) (h₀ : I s₀) : I s :=
  Exec.hist (fun _ => hI) h h₀

theorem Exec.mem_pre {I : σ → Prop} (hI : ∀ s i s' o, I s → m.step s i = some (s', o) → I s')
    (h : Exec m s₀ tr s) (h₀ : I s₀) {e : Entry σ ι ο} (he : e ∈ tr) : I e.pre := by
  induction h with
  | nil => cases he
  | snoc hr _ ih =>
    rcases List.mem_append.1 he with he | he
    · exact ih he
    · rw [List.mem_singleton.1 he]; exact hr.inv hI h₀

/-- What every recorded step keeps holds at the end. -/
theorem Exec.along {I : σ → Prop} (h : Exec m s₀ tr s)
    (hI : ∀ e ∈ tr, I e.pre → I e.post) (h₀ : I s₀) : I s := by
  induction h with
  | nil => exact h₀
  | snoc _ _ ih =>
    have hpre := ih fun e he => hI e (List.mem_append_left _ he)
    exact hI _ (List.mem_append_right _ (List.mem_singleton.2 rfl)) hpre

/-- **Ranks**: a run whose steps all lower a rank ends. -/
theorem Exec.length_le {rank : σ → Nat} (h : Exec m s₀ tr s) (hrank : ∀ e ∈ tr, rank e.post < rank e.pre) :
    tr.length + rank s ≤ rank s₀ := by
  induction h with
  | nil => exact Nat.le_of_eq (Nat.zero_add _)
  | snoc hr _ ih =>
    have hlast := hrank _ (List.mem_append_right _ (List.mem_singleton.2 rfl))
    have hpre := ih fun e he => hrank e (List.mem_append_left _ he)
    dsimp only at hlast
    rw [List.length_append, List.length_singleton]
    omega

/-- **Progress**: when every call that satisfies `P` returns and keeps `I`, a list of them runs. -/
theorem exec?_total {I : σ → Prop} {P : ι → Prop}
    (hI : ∀ s i, I s → P i → ∃ s' o, m.step s i = some (s', o) ∧ I s') {is : List ι}
    (hP : ∀ i ∈ is, P i) {s : σ} (hs : I s) : ∃ tr s', m.exec? s is = some (tr, s') ∧ I s' := by
  induction is generalizing s with
  | nil => exact ⟨[], s, rfl, hs⟩
  | cons i is ih =>
    obtain ⟨s1, o, h1, hs1⟩ := hI s i hs (hP i List.mem_cons_self)
    obtain ⟨tr, s2, h2, hs2⟩ := ih (fun j hj => hP j (List.mem_cons_of_mem _ hj)) hs1
    exact ⟨⟨s, i, o, s1⟩ :: tr, s2, by simp only [exec?, h1, h2], hs2⟩

/-- Calls that answer and leave the state alone, all with `O`. -/
theorem exec?_still {O : ι → ο → Prop} {is : List ι} {s : σ}
    (h : ∀ i ∈ is, ∃ o, m.step s i = some (s, o) ∧ O i o) :
    ∃ tr, m.exec? s is = some (tr, s) ∧ tr.map (·.inp) = is ∧ ∀ e ∈ tr, O e.inp e.out := by
  induction is with
  | nil => exact ⟨[], rfl, rfl, by simp⟩
  | cons i is ih =>
    obtain ⟨o, hstep, ho⟩ := h i List.mem_cons_self
    obtain ⟨tr, hrun, hinp, htr⟩ := ih fun j hj => h j (List.mem_cons_of_mem _ hj)
    refine ⟨⟨s, i, o, s⟩ :: tr, by simp only [exec?, hstep, hrun], by simp [hinp], ?_⟩
    intro e he
    obtain rfl | he := List.mem_cons.1 he
    · exact ho
    · exact htr e he

theorem Exec.split {tr₁ tr₂ : List (Entry σ ι ο)} {e : Entry σ ι ο}
    (h : Exec m s₀ (tr₁ ++ e :: tr₂) s) : Exec m s₀ tr₁ e.pre ∧ Exec m e.post tr₂ s := by
  generalize ht : tr₁ ++ e :: tr₂ = tr at h
  induction h generalizing tr₂ with
  | nil => simp at ht
  | @snoc tr s s' i o hr hs ih =>
    rcases List.eq_nil_or_concat tr₂ with rfl | ⟨tr₂, e', rfl⟩
    · obtain ⟨h1, h2⟩ := List.append_inj' ht rfl
      obtain rfl := List.singleton_inj.1 h2
      exact ⟨h1 ▸ hr, .nil⟩
    · have ht' : (tr₁ ++ e :: tr₂) ++ [e'] = tr ++ [⟨s, i, o, s'⟩] := by simpa using ht
      obtain ⟨hpre, hlast⟩ := List.append_inj' ht' rfl
      obtain rfl := List.singleton_inj.1 hlast
      obtain ⟨h1, h2⟩ := ih hpre
      exact ⟨h1, by simpa using Exec.snoc h2 hs⟩

/-! ## Runs under a condition -/

/-- Every call of the list returns, and leads to a state with `I`. -/
def Keeps (m : Machine σ ι ο) (I : σ → Prop) : σ → List ι → Prop
  | _, [] => True
  | s, i :: is => ∃ s' o, m.step s i = some (s', o) ∧ I s' ∧ m.Keeps I s' is

/-- Every call of the list meets `P` in the state that it finds. -/
def Meets (m : Machine σ ι ο) (P : σ → ι → Prop) : σ → List ι → Prop
  | _, [] => True
  | s, i :: is => P s i ∧ ∀ s' o, m.step s i = some (s', o) → m.Meets P s' is

/-- **Exact conditions**, from one step to a list of calls. -/
theorem keeps_iff {I : σ → Prop} {P : σ → ι → Prop}
    (hI : ∀ s i, I s → ((∃ s' o, m.step s i = some (s', o) ∧ I s') ↔ P s i)) {is : List ι} {s : σ}
    (hs : I s) : m.Keeps I s is ↔ m.Meets P s is := by
  induction is generalizing s with
  | nil => exact Iff.rfl
  | cons i is ih =>
    constructor
    · intro ⟨s', o, hstep, hs', hkeeps⟩
      refine ⟨(hI s i hs).1 ⟨s', o, hstep, hs'⟩, fun s'' o' hstep' => ?_⟩
      obtain ⟨rfl, -⟩ := Prod.mk.inj (Option.some.inj (hstep.symm.trans hstep'))
      exact (ih hs').1 hkeeps
    · intro ⟨hP, hmeets⟩
      obtain ⟨s', o, hstep, hs'⟩ := (hI s i hs).2 hP
      exact ⟨s', o, hstep, hs', (ih hs').2 (hmeets s' o hstep)⟩

/-! ## Since -/

/-- Some step of the run was a `P`, and every step after it a `Q`. -/
def Since (P Q : Entry σ ι ο → Prop) (tr : List (Entry σ ι ο)) : Prop :=
  ∃ a e b, tr = a ++ e :: b ∧ P e ∧ ∀ e' ∈ b, Q e'

theorem Since.now {P Q : Entry σ ι ο → Prop} {e : Entry σ ι ο} (h : P e) : Since P Q (tr ++ [e]) :=
  ⟨tr, e, [], rfl, h, by simp⟩

theorem Since.keep {P Q : Entry σ ι ο → Prop} {e : Entry σ ι ο} (h : Since P Q tr) (he : Q e) :
    Since P Q (tr ++ [e]) := by
  obtain ⟨a, e', b, rfl, hP, hQ⟩ := h
  refine ⟨a, e', b ++ [e], by simp, hP, ?_⟩
  intro x hx
  rcases List.mem_append.1 hx with hx | hx
  · exact hQ x hx
  · rw [List.mem_singleton.1 hx]; exact he

/-- The last step is a `P`, or it is a `Q` and the steps before it were since a `P`. -/
theorem since_snoc {P Q : Entry σ ι ο → Prop} {e : Entry σ ι ο} :
    Since P Q (tr ++ [e]) ↔ P e ∨ Since P Q tr ∧ Q e := by
  constructor
  · intro ⟨a, e', b, he, hP, hQ⟩
    rcases List.eq_nil_or_concat b with rfl | ⟨b, y, rfl⟩
    · obtain ⟨-, hlast⟩ := List.append_inj' he rfl
      obtain rfl := List.singleton_inj.1 hlast
      exact .inl hP
    · have he' : tr ++ [e] = (a ++ e' :: b) ++ [y] := by simpa using he
      obtain ⟨rfl, hlast⟩ := List.append_inj' he' rfl
      obtain rfl := List.singleton_inj.1 hlast
      exact .inr ⟨⟨a, e', b, rfl, hP, fun x hx => hQ x (by simp [hx])⟩, hQ e (by simp)⟩
  · rintro (h | ⟨h, he⟩)
    · exact .now h
    · exact h.keep he

theorem Since.mono {P Q P' Q' : Entry σ ι ο → Prop} (h : Since P Q tr) (hP : ∀ e, P e → P' e)
    (hQ : ∀ e, Q e → Q' e) : Since P' Q' tr := by
  obtain ⟨a, e, b, rfl, h1, h2⟩ := h
  exact ⟨a, e, b, rfl, hP e h1, fun e' he' => hQ e' (h2 e' he')⟩

/-! ## A component that some calls leave alone -/

/-- The calls `is`, one after the other, on a component that `f` describes. -/
def steps (f : κ → ι → κ × ο) : κ → List ι → κ × List ο
  | k, [] => (k, [])
  | k, i :: is => let (k', o) := f k i; let (k'', os) := steps f k' is; (k'', o :: os)

theorem steps_append (f : κ → ι → κ × ο) (k : κ) (is js : List ι) :
    steps f k (is ++ js) =
      ((steps f (steps f k is).1 js).1, (steps f k is).2 ++ (steps f (steps f k is).1 js).2) := by
  induction is generalizing k with
  | nil => simp [steps]
  | cons i is ih => simp [steps, ih]

/-- The calls of a run that `low` selects. -/
def lowInputs (low : ι → Bool) (tr : List (Entry σ ι ο)) : List ι :=
  (tr.map (·.inp)).filter low

/-- The answers to the calls that `low` selects. -/
def lowOutputs (low : ι → Bool) (tr : List (Entry σ ι ο)) : List ο :=
  (tr.filter fun e => low e.inp).map (·.out)

/-- **Projection**: calls outside `low` leave `π` alone, calls in `low` act on it as `f`. -/
theorem Exec.proj {low : ι → Bool} {π : σ → κ} {f : κ → ι → κ × ο} (h : Exec m s₀ tr s)
    (hHigh : ∀ e ∈ tr, low e.inp = false → π e.post = π e.pre)
    (hLow : ∀ e ∈ tr, low e.inp = true → (π e.post, e.out) = f (π e.pre) e.inp) :
    steps f (π s₀) (lowInputs low tr) = (π s, lowOutputs low tr) := by
  induction h with
  | nil => rfl
  | @snoc tr s s' i o _ _ ih =>
    have ih := ih (fun e he => hHigh e (List.mem_append_left _ he))
      (fun e he => hLow e (List.mem_append_left _ he))
    have hm : (⟨s, i, o, s'⟩ : Entry σ ι ο) ∈ tr ++ [⟨s, i, o, s'⟩] := by simp
    have hH := hHigh _ hm
    have hL := hLow _ hm
    simp only [lowInputs, lowOutputs] at ih
    simp only [lowInputs, lowOutputs, List.map_append, List.filter_append, List.map_cons,
      List.map_nil]
    rw [steps_append, ih]
    cases hl : low i with
    | false => simp [hl, steps, hH hl]
    | true => simp [hl, steps, ← hL hl]

/-- Two runs with the same `low` calls give them the same answers. -/
theorem Exec.proj_eq {low : ι → Bool} {π : σ → κ} {f : κ → ι → κ × ο} {s₁ t₁ : σ}
    {tr tr' : List (Entry σ ι ο)} (h : Exec m s₀ tr s) (h' : Exec m s₁ tr' t₁)
    (hπ : π s₀ = π s₁) (hi : lowInputs low tr = lowInputs low tr')
    (hHigh : ∀ e ∈ tr ++ tr', low e.inp = false → π e.post = π e.pre)
    (hLow : ∀ e ∈ tr ++ tr', low e.inp = true → (π e.post, e.out) = f (π e.pre) e.inp) :
    lowOutputs low tr = lowOutputs low tr' := by
  have h1 := h.proj (fun e he => hHigh e (List.mem_append_left _ he))
    (fun e he => hLow e (List.mem_append_left _ he))
  have h2 := h'.proj (fun e he => hHigh e (List.mem_append_right _ he))
    (fun e he => hLow e (List.mem_append_right _ he))
  rw [hπ, hi, h2] at h1
  exact (congrArg Prod.snd h1).symm

end Machine

end Lib
