import TrustZone.Lib.Heap
import TrustZone.Lib.Runs

/-!
# Who owns the blocks of a heap

Owners hold at most one block each. `Exchange leak h o h' o'` is what an operation of one owner may do:
it holds `o` before and `o'` after, the blocks of the others are kept, and its old block is freed,
kept, or lost (`leak`). The rules:

* `Exchange.inPlace`, `Exchange.write`, `Exchange.malloc`, `Exchange.drop`, `Exchange.free`,
  `Exchange.of_free`, `Exchange.trans`.
* `HeldBy.exchange`, `Covered.exchange`: blocks are held by one owner each, and as long as nothing is
  lost every live block is held; `HeldBy.lost`: not so, when something is.
* `Moves P leak h own h' own'`: the same for an operation of a group `P` of owners (`Moves.exchange`,
  `Moves.same`, `Moves.lost`, `Moves.trans`), and `held_of_taken`: in a run in which the group loses
  nothing, it holds each live block that it took.
* `timesFreed_since`, `timesFreed_eq`: a name that was given out is freed once exactly when its block is
  not live.
-/

namespace Lib

namespace Heap

/-- An operation of one owner, which holds `o` before it and `o'` after it. -/
structure Exchange (leak : Prop) (h : Heap) (o : Option Nat) (h' : Heap) (o' : Option Nat) :
    Prop where
  wf : h'.Wf
  next : h.next ≤ h'.next
  keeps : ∀ p, o ≠ some p → h.mem p ≠ none → h'.mem p = h.mem p
  fresh : ∀ p, o' = some p → o = some p ∨ h.next ≤ p
  live : ∀ p, h'.mem p ≠ none ↔ o' = some p ∨ h.mem p ≠ none ∧ (o ≠ some p ∨ leak)
  loses : leak → ∀ p, o = some p → o' ≠ some p

variable {leak : Prop} {h h' h'' : Heap} {o o' o'' : Option Nat} {p n : Nat} {b : List UInt8}

theorem Wf.live_lt (hw : h.Wf) (hp : h.mem p ≠ none) : p < h.next := by
  by_contra hge
  exact hp (hw p (Nat.le_of_not_lt hge))

/-- A name is passed over. -/
theorem Wf.mono {k : Nat} (hw : h.Wf) (hk : h.next ≤ k) : Wf ⟨k, h.mem⟩ :=
  fun q hq => hw q (hk.trans hq)

namespace Exchange

/-- Nothing is lost where nothing was held. -/
theorem congr {leak' : Prop} (hx : Exchange leak h o h' o')
    (hl : ∀ p, o = some p → (leak ↔ leak')) : Exchange leak' h o h' o' where
  wf := hx.wf
  next := hx.next
  keeps := hx.keeps
  fresh := hx.fresh
  live p := by
    rw [hx.live p]
    by_cases ho : o = some p
    · rw [hl p ho]
    · simp [ho]
  loses hleak p ho := hx.loses ((hl p ho).2 hleak) p ho

/-- The owner keeps its block, whose bytes may change. -/
theorem inPlace (hw : h'.Wf) (hn : h'.next = h.next) (hlive : ∀ p, o = some p → h.mem p ≠ none)
    (hmem : ∀ p, h'.mem p ≠ none ↔ h.mem p ≠ none)
    (hkeep : ∀ p, o ≠ some p → h'.mem p = h.mem p) : Exchange False h o h' o where
  wf := hw
  next := Nat.le_of_eq hn.symm
  keeps p hp _ := hkeep p hp
  fresh p ho := .inl ho
  live p := by
    rw [hmem p, or_false]
    by_cases ho : o = some p
    · simp [ho, hlive p ho]
    · simp [ho]
  loses hf := hf.elim

theorem refl (hw : h.Wf) (hlive : ∀ p, o = some p → h.mem p ≠ none) : Exchange False h o h o :=
  inPlace hw rfl hlive (fun _ => Iff.rfl) (fun _ _ => rfl)

/-- The pointer is overwritten. -/
theorem drop (hw : h.Wf) : Exchange True h o h none where
  wf := hw
  next := Nat.le_refl _
  keeps _ _ _ := rfl
  fresh p ho := by cases ho
  live p := by simp
  loses _ p _ ho := by cases ho

/-- A new block, in place of what was held. -/
theorem malloc (hw : h.Wf) (hlive : ∀ p, o = some p → h.mem p ≠ none) (b : List UInt8) :
    Exchange True h o ⟨h.next + 1, Function.update h.mem h.next (some b)⟩ (some h.next) where
  wf := hw.push _
  next := Nat.le_succ _
  keeps p _ hp := Function.update_of_ne (Nat.ne_of_lt (hw.live_lt hp)) _ _
  fresh p ho := .inr (Nat.le_of_eq (Option.some.inj ho))
  live p := by
    simp only [or_true, and_true, Option.some.injEq]
    by_cases hp : h.next = p
    · subst hp
      simp
    · rw [Function.update_of_ne (Ne.symm hp)]
      simp [hp]
  loses _ p ho hp := by
    obtain rfl := Option.some.inj hp
    exact hlive _ ho (hw _ (Nat.le_refl _))

/-- The block is freed. -/
theorem free (hw : h.Wf) (hp : h.mem p ≠ none) :
    Exchange False h (some p) ⟨h.next, Function.update h.mem p none⟩ none where
  wf := hw.update (hw.live_lt hp) none
  next := Nat.le_refl _
  keeps q hq _ := Function.update_of_ne (fun he => hq (congrArg some he.symm)) _ _
  fresh q ho := by cases ho
  live q := by
    by_cases hq : q = p
    · subst hq
      simp
    · show Function.update h.mem p none q ≠ none ↔ _
      rw [Function.update_of_ne hq]
      simp [Ne.symm hq]
  loses hf := hf.elim

/-- A write to the block that returns. -/
theorem write {src : List UInt8} (hw : h.Wf) (hwr : h.write p src = some h') :
    Exchange False h (some p) h' (some p) := by
  cases hp : h.mem p with
  | none => simp [Heap.write, hp] at hwr
  | some blk =>
    simp only [Heap.write, hp] at hwr
    split_ifs at hwr
    obtain rfl := Option.some.inj hwr
    refine .inPlace (hw.update (hw.lt hp) _) rfl ?_ ?_ ?_
    · rintro q ⟨⟩
      simp [hp]
    · intro q
      by_cases hq : q = p
      · subst hq
        simp [hp]
      · show Function.update h.mem p _ q ≠ none ↔ _
        rw [Function.update_of_ne hq]
    · intro q hq
      exact Function.update_of_ne (fun he => hq (congrArg some he.symm)) _ _

/-- A free that returns. -/
theorem of_free (hw : h.Wf) (hfr : h.free p = some h') : Exchange False h (some p) h' none := by
  unfold Heap.free at hfr
  split_ifs at hfr with hp
  obtain rfl := Option.some.inj hfr
  exact free hw (by simpa [Option.ne_none_iff_isSome] using hp)

/-- One operation after the other. -/
theorem trans (hw : h.Wf) (hlive : ∀ p, o = some p → h.mem p ≠ none)
    (h1 : Exchange leak h o h' o') (h2 : Exchange False h' o' h'' o'') :
    Exchange leak h o h'' o'' := by
  -- a block that the first leaves alone is not held after it
  have hother : ∀ p, h.mem p ≠ none → (o ≠ some p ∨ leak) → o' ≠ some p := by
    intro p hp hol ho'
    obtain ho | hge := h1.fresh p ho'
    · obtain hne | hleak := hol
      · exact hne ho
      · exact h1.loses hleak p ho ho'
    · exact absurd (hw.live_lt hp) (Nat.not_lt.2 hge)
  refine ⟨h2.wf, h1.next.trans h2.next, ?_, ?_, ?_, ?_⟩
  · intro p ho hp
    have hk := h1.keeps p ho hp
    rw [h2.keeps p (hother p hp (.inl ho)) (by rwa [hk]), hk]
  · intro p ho
    obtain ho | hge := h2.fresh p ho
    · exact h1.fresh p ho
    · exact .inr (h1.next.trans hge)
  · intro p
    rw [h2.live p, h1.live p, or_false]
    constructor
    · intro hc
      obtain ho | ⟨ho | hold, hne⟩ := hc
      · exact .inl ho
      · exact absurd ho hne
      · exact .inr hold
    · intro hc
      obtain ho | ⟨hp, hol⟩ := hc
      · exact .inl ho
      · exact .inr ⟨.inr ⟨hp, hol⟩, hother p hp hol⟩
  · intro hleak p ho ho''
    obtain ho' | hge := h2.fresh p ho''
    · exact h1.loses hleak p ho ho'
    · exact absurd (hw.live_lt (hlive p ho)) (Nat.not_lt.2 (h1.next.trans hge))

end Exchange

/-! ## All owners -/

/-- What is held is live, and held by one owner. -/
structure HeldBy {κ : Type} (h : Heap) (own : κ → Option Nat) : Prop where
  live : ∀ k p, own k = some p → h.mem p ≠ none
  unique : ∀ j k p, own j = some p → own k = some p → j = k

/-- What is live is held. -/
def Covered {κ : Type} (h : Heap) (own : κ → Option Nat) : Prop :=
  ∀ p, h.mem p ≠ none → ∃ k, own k = some p

section Owners

variable {κ : Type} {own own' : κ → Option Nat} {k : κ}

/-- What is held now by the owner that moved, nobody else held. -/
theorem HeldBy.fresh (hown : h.HeldBy own) (hw : h.Wf) (hx : Exchange leak h (own k) h' (own' k))
    {j : κ} (hj : j ≠ k) (hp : own j = some p) : own' k ≠ some p := by
  intro hp'
  obtain ho | hge := hx.fresh p hp'
  · exact hj (hown.unique j k p hp ho)
  · exact absurd (hw.live_lt (hown.live j p hp)) (Nat.not_lt.2 hge)

/-- **An operation of one owner** keeps what the others hold. -/
theorem HeldBy.exchange (hown : h.HeldBy own) (hw : h.Wf)
    (hx : Exchange leak h (own k) h' (own' k)) (hoth : ∀ j, j ≠ k → own' j = own j) :
    h'.HeldBy own' := by
  constructor
  · intro j p hp
    by_cases hj : j = k
    · subst hj
      exact (hx.live p).2 (.inl hp)
    · rw [hoth j hj] at hp
      exact (hx.live p).2 (.inr ⟨hown.live j p hp, .inl fun ho => hj (hown.unique j k p hp ho)⟩)
  · intro i j p hi hj
    by_cases hik : i = k
    · by_cases hjk : j = k
      · rw [hik, hjk]
      · subst hik
        rw [hoth j hjk] at hj
        exact absurd hi (hown.fresh hw hx hjk hj)
    · rw [hoth i hik] at hi
      by_cases hjk : j = k
      · subst hjk
        exact absurd hj (hown.fresh hw hx hik hi)
      · rw [hoth j hjk] at hj
        exact hown.unique i j p hi hj

/-- **Nothing is lost** by an operation that does not lose its own block. -/
theorem Covered.exchange (hc : h.Covered own) (hx : Exchange leak h (own k) h' (own' k))
    (hoth : ∀ j, j ≠ k → own' j = own j) (hno : ∀ p, own k = some p → ¬leak) :
    h'.Covered own' := by
  intro p hp
  obtain ho | ⟨hold, hor⟩ := (hx.live p).1 hp
  · exact ⟨k, ho⟩
  · obtain ⟨j, hj⟩ := hc p hold
    have hjk : j ≠ k := by
      intro he
      rw [he] at hj
      exact hor.elim (fun hne => hne hj) (hno p hj)
    exact ⟨j, (hoth j hjk).trans hj⟩

/-- **A block that is lost** is live and nobody's. -/
theorem HeldBy.lost (hown : h.HeldBy own) (hx : Exchange leak h (own k) h' (own' k))
    (hoth : ∀ j, j ≠ k → own' j = own j) (hk : own k = some p) (hleak : leak) :
    h'.mem p ≠ none ∧ ∀ j, own' j ≠ some p := by
  refine ⟨(hx.live p).2 (.inr ⟨hown.live k p hk, .inr hleak⟩), ?_⟩
  intro j hj
  by_cases hjk : j = k
  · subst hjk
    exact hx.loses hleak p hk hj
  · rw [hoth j hjk] at hj
    exact hjk (hown.unique j k p hj hk)

end Owners

/-! ## How often a block is freed -/

/-- The block is freed between two heaps: it was live, or was given out in between, and is not live. -/
def frees (h h' : Heap) (p : Nat) : Bool :=
  ((h.mem p).isSome || decide (h.next ≤ p ∧ p < h'.next)) && (h'.mem p).isNone

/-- A later heap: names are given out in order, and none is used again. -/
structure Later (h h' : Heap) : Prop where
  wf : h'.Wf
  next : h.next ≤ h'.next
  dead : ∀ p, p < h.next → h.mem p = none → h'.mem p = none

theorem Exchange.later (hx : Exchange leak h o h' o') (hlive : ∀ p, o = some p → h.mem p ≠ none) :
    h.Later h' where
  wf := hx.wf
  next := hx.next
  dead p hp hd := by
    by_contra hne
    obtain ho | ⟨hl, -⟩ := (hx.live p).1 hne
    · obtain ho | hge := hx.fresh p ho
      · exact hlive p ho hd
      · exact absurd hp (Nat.not_lt.2 hge)
    · exact hl hd

theorem Later.trans (h1 : h.Later h') (h2 : h'.Later h'') : h.Later h'' where
  wf := h2.wf
  next := h1.next.trans h2.next
  dead p hp hd := h2.dead p (Nat.lt_of_lt_of_le hp h1.next) (h1.dead p hp hd)

theorem Later.frees_iff (hl : h.Later h') (hw : h.Wf) :
    h.frees h' p = true ↔ p < h'.next ∧ h'.mem p = none ∧
      ¬(p < h.next ∧ h.mem p = none) := by
  unfold frees
  by_cases hp : p < h.next
  · have hlt : p < h'.next := Nat.lt_of_lt_of_le hp hl.next
    cases hm : h.mem p <;> simp [hp, hlt, Nat.not_le.2 hp]
  · have hle : h.next ≤ p := Nat.le_of_not_lt hp
    simp [hw p hle, hp, hle]

/-! ## A group of owners -/

/-- An operation of the owners in `P`. Unless it loses a block, what is live after it is held by one of
them, or was live and held by none of them. -/
structure Moves {κ : Type} (P : κ → Prop) (leak : Prop) (h : Heap) (own : κ → Option Nat) (h' : Heap)
    (own' : κ → Option Nat) : Prop where
  held : h'.HeldBy own'
  later : h.Later h'
  others : ∀ j, ¬P j → own' j = own j
  kept : ¬leak → ∀ p, h'.mem p ≠ none →
    (∃ k, P k ∧ own' k = some p) ∨ h.mem p ≠ none ∧ ∀ k, P k → own k ≠ some p

namespace Moves

variable {κ : Type} {P : κ → Prop} {leak' : Prop} {own own' own'' : κ → Option Nat} {k : κ}

/-- An operation of one of them. -/
theorem exchange (hw : h.Wf) (hown : h.HeldBy own) (hk : P k)
    (hx : Exchange leak h (own k) h' (own' k)) (hoth : ∀ j, j ≠ k → own' j = own j) :
    Moves P leak h own h' own' where
  held := hown.exchange hw hx hoth
  later := hx.later (hown.live k)
  others j hj := hoth j fun he => hj (he ▸ hk)
  kept hno p hp := by
    obtain ho | ⟨hold, hor⟩ := (hx.live p).1 hp
    · exact .inl ⟨k, hk, ho⟩
    · by_cases hheld : ∃ j, P j ∧ own j = some p
      · obtain ⟨j, hj, hjp⟩ := hheld
        have hjk : j ≠ k := by
          intro he
          rw [he] at hjp
          exact hor.elim (fun hne => hne hjp) hno
        exact .inl ⟨j, hj, (hoth j hjk).trans hjp⟩
      · exact .inr ⟨hold, fun j hj hjp => hheld ⟨j, hj, hjp⟩⟩

/-- A request that gives out a block which nobody takes. -/
theorem lost (hown : h.HeldBy own) (hl : h.Later h')
    (hlive : ∀ p, h.mem p ≠ none → h'.mem p ≠ none) : Moves P True h own h' own where
  held := ⟨fun k p hp => hlive p (hown.live k p hp), hown.unique⟩
  later := hl
  others _ _ := rfl
  kept hno := absurd trivial hno

/-- The same blocks are live, and held by the same owners. -/
theorem same (hown : h.HeldBy own) (hw : h'.Wf) (hn : h.next ≤ h'.next) (hmem : h'.mem = h.mem) :
    Moves P False h own h' own where
  held := ⟨fun k p hp => hmem ▸ hown.live k p hp, hown.unique⟩
  later := ⟨hw, hn, fun p _ hd => hmem ▸ hd⟩
  others _ _ := rfl
  kept _ p hp := by
    by_cases hheld : ∃ j, P j ∧ own j = some p
    · exact .inl hheld
    · exact .inr ⟨hmem ▸ hp, fun j hj hjp => hheld ⟨j, hj, hjp⟩⟩

theorem imp (hleak : leak → leak') (hm : Moves P leak h own h' own') : Moves P leak' h own h' own' where
  held := hm.held
  later := hm.later
  others := hm.others
  kept hno := hm.kept fun hl => hno (hleak hl)

/-- One operation after the other. -/
theorem trans (h1 : Moves P leak h own h' own') (h2 : Moves P leak' h' own' h'' own'') :
    Moves P (leak ∨ leak') h own h'' own'' where
  held := h2.held
  later := h1.later.trans h2.later
  others j hj := (h2.others j hj).trans (h1.others j hj)
  kept hno p hp := by
    rw [not_or] at hno
    obtain hheld | ⟨hmid, hnone⟩ := h2.kept hno.2 p hp
    · exact .inl hheld
    · obtain ⟨k, hk, hkp⟩ | hold := h1.kept hno.1 p hmid
      · exact absurd hkp (hnone k hk)
      · exact .inr hold

end Moves

end Heap

open Machine

variable {σ ι ο : Type} {m : Machine σ ι ο} {s₀ s : σ} {tr : List (Entry σ ι ο)}

/-- How often a block is freed in a run. -/
def timesFreed (heap : σ → Heap) (p : Nat) (tr : List (Entry σ ι ο)) : Nat :=
  tr.countP fun e => (heap e.pre).frees (heap e.post) p

/-- **Freed once**: in a run, exactly the names that were given out in it and whose blocks are not
live. -/
theorem timesFreed_since {heap : σ → Heap} (h : Exec m s₀ tr s)
    (hl : ∀ e ∈ tr, (heap e.pre).Later (heap e.post)) (hw₀ : (heap s₀).Wf) :
    (heap s).Wf ∧ ∀ p, (heap s₀).next ≤ p → timesFreed heap p tr =
      if p < (heap s).next ∧ (heap s).mem p = none then 1 else 0 := by
  induction h with
  | nil =>
    refine ⟨hw₀, ?_⟩
    intro p hp
    rw [if_neg (by omega)]
    rfl
  | @snoc tr s s' i o _ _ ih =>
    obtain ⟨hw, ih⟩ := ih fun e he => hl e (List.mem_append_left _ he)
    have hstep : (heap s).Later (heap s') := hl ⟨s, i, o, s'⟩ (by simp)
    refine ⟨hstep.wf, ?_⟩
    intro p hp
    have hcount : timesFreed heap p (tr ++ [⟨s, i, o, s'⟩]) =
        timesFreed heap p tr + if (heap s).frees (heap s') p = true then 1 else 0 := by
      simp [timesFreed, List.countP_append, List.countP_cons]
    rw [hcount, ih p hp]
    by_cases hd : p < (heap s).next ∧ (heap s).mem p = none
    · have hd' : p < (heap s').next ∧ (heap s').mem p = none :=
        ⟨Nat.lt_of_lt_of_le hd.1 hstep.next, hstep.dead p hd.1 hd.2⟩
      have hf : ¬(heap s).frees (heap s') p = true := by
        rw [hstep.frees_iff hw]
        exact fun hf => hf.2.2 hd
      rw [if_pos hd, if_pos hd', if_neg hf]
    · have hf : (heap s).frees (heap s') p = true ↔ p < (heap s').next ∧ (heap s').mem p = none := by
        rw [hstep.frees_iff hw]
        simp [hd]
      rw [if_neg hd, zero_add]
      simp only [hf]

/-- The same for a run from an empty heap. -/
theorem timesFreed_eq {heap : σ → Heap} (h : Exec m s₀ tr s)
    (hl : ∀ e ∈ tr, (heap e.pre).Later (heap e.post)) (hw₀ : (heap s₀).Wf)
    (h₀ : (heap s₀).next = 0) :
    (heap s).Wf ∧ ∀ p, timesFreed heap p tr =
      if p < (heap s).next ∧ (heap s).mem p = none then 1 else 0 := by
  obtain ⟨hw, hfreed⟩ := timesFreed_since h hl hw₀
  exact ⟨hw, fun p => hfreed p (h₀ ▸ Nat.zero_le p)⟩

/-! ## What a group took in a run -/

/-- The name is given out in a step of the run that `mine` selects. -/
def TakenIn (heap : σ → Heap) (mine : Entry σ ι ο → Prop) (tr : List (Entry σ ι ο)) (p : Nat) : Prop :=
  ∃ e ∈ tr, mine e ∧ (heap e.pre).next ≤ p ∧ p < (heap e.post).next

section Taken

variable {κ : Type} {P : κ → Prop} {heap : σ → Heap} {own : σ → κ → Option Nat}
  {mine : Entry σ ι ο → Prop}

theorem TakenIn.bounds (h : Exec m s₀ tr s) (hl : ∀ e ∈ tr, (heap e.pre).Later (heap e.post)) {p : Nat}
    (hp : TakenIn heap mine tr p) : (heap s₀).next ≤ p ∧ p < (heap s).next := by
  have hmono : ∀ {tr s}, Exec m s₀ tr s → (∀ e ∈ tr, (heap e.pre).Later (heap e.post)) →
      (heap s₀).next ≤ (heap s).next := by
    intro tr s h hl
    exact h.along (I := fun s => (heap s₀).next ≤ (heap s).next)
      (fun e he hn => hn.trans (hl e he).next) (Nat.le_refl _)
  induction h with
  | nil =>
    obtain ⟨e, he, -⟩ := hp
    cases he
  | @snoc tr s s' i o hr hst ih =>
    have hpre := fun e he => hl e (List.mem_append_left _ he)
    have hlast : (heap s).Later (heap s') := hl ⟨s, i, o, s'⟩ (by simp)
    obtain ⟨e, he, hmine, hge, hlt⟩ := hp
    obtain he | he := List.mem_append.1 he
    · obtain ⟨h1, h2⟩ := ih hpre ⟨e, he, hmine, hge, hlt⟩
      exact ⟨h1, Nat.lt_of_lt_of_le h2 hlast.next⟩
    · obtain rfl := List.mem_singleton.1 he
      exact ⟨(hmono hr hpre).trans hge, hlt⟩

/-- **A group that loses nothing** holds each live block that it took. -/
theorem held_of_taken (h : Exec m s₀ tr s) (hw₀ : (heap s₀).Wf)
    (hmine : ∀ e ∈ tr, mine e →
      (heap e.pre).Moves P False (own e.pre) (heap e.post) (own e.post))
    (hother : ∀ e ∈ tr, ¬mine e →
      (heap e.pre).Later (heap e.post) ∧ ∀ k, P k → own e.post k = own e.pre k)
    {p : Nat} (hp : TakenIn heap mine tr p) (hlive : (heap s).mem p ≠ none) :
    ∃ k, P k ∧ own s k = some p := by
  have hl : ∀ e ∈ tr, (heap e.pre).Later (heap e.post) := by
    intro e he
    by_cases hm : mine e
    · exact (hmine e he hm).later
    · exact (hother e he hm).1
  induction h with
  | nil =>
    obtain ⟨e, he, -⟩ := hp
    cases he
  | @snoc tr s s' i o hr hst ih =>
    have hprel := fun e he => hl e (List.mem_append_left _ he)
    have ih := ih (fun e he => hmine e (List.mem_append_left _ he))
      (fun e he => hother e (List.mem_append_left _ he))
    have hlast : (⟨s, i, o, s'⟩ : Entry σ ι ο) ∈ tr ++ [⟨s, i, o, s'⟩] := by simp
    have hw : (heap s).Wf := (timesFreed_since hr hprel hw₀).1
    -- a name that the last step gives out was not live before it
    have hsplit : TakenIn heap mine tr p ∨ mine ⟨s, i, o, s'⟩ ∧ (heap s).mem p = none := by
      obtain ⟨e, he, hm, hge, hlt⟩ := hp
      obtain he | he := List.mem_append.1 he
      · exact .inl ⟨e, he, hm, hge, hlt⟩
      · obtain rfl := List.mem_singleton.1 he
        exact .inr ⟨hm, hw p hge⟩
    by_cases hm : mine ⟨s, i, o, s'⟩
    · obtain hheld | ⟨hold, hnone⟩ := (hmine _ hlast hm).kept not_false p hlive
      · exact hheld
      · obtain htaken | ⟨-, hdead⟩ := hsplit
        · obtain ⟨k, hk, hkp⟩ := ih htaken hold hprel
          exact absurd hkp (hnone k hk)
        · exact absurd hdead hold
    · obtain ⟨hlater, hsame⟩ := hother _ hlast hm
      have htaken := hsplit.resolve_right fun hc => hm hc.1
      have hold : (heap s).mem p ≠ none := by
        intro hd
        exact hlive (hlater.dead p (htaken.bounds hr hprel).2 hd)
      obtain ⟨k, hk, hkp⟩ := ih htaken hold hprel
      exact ⟨k, hk, (hsame k hk).trans hkp⟩

end Taken

end Lib
