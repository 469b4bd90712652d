import Mathlib.Logic.Relation
import TrustZone.Pkcs11.Lifecycle

/-!
# The keys that the module has recorded

What the calls do to `P11KeyConfig` and to the key store is a chain of `Move`s. Two of them do harm and
are labelled with what has to be the case for them: a volatile key is created and no slot records it,
or one that records it is written over (`lost`); `psa_destroy_key` fails and the key is gone (`erased`).

* `Move.slots`, `Move.marks`, `Move.reachable`: what a move keeps.
* `removeKey_moves`, `save_moves`, `find_moves`, `generate_moves`: the moves of each function.
* `tokenStep_moves`: the moves of each call, with the condition under which nothing is lost.
* `key_marks`: the keys in every run.
-/

namespace Pkcs11

open Lib Psa Crypto Machine Relation

variable {κ ρ ε : Type} {lost erased : Prop}

/-! ## Slots -/

/-- The handles that a slot can record: the fixed id, and for the code verification key the id of a
volatile key. -/
def SlotId (k : DeviceKey) (h : KeyHandle) : Prop :=
  h = k.keyId ∨ k = .codeVerify ∧ psaKeyIdUserMax < h.toNat

theorem keyId_bounds (k : DeviceKey) : k.keyId ≠ 0 ∧ k.keyId.toNat ≤ psaKeyIdUserMax := by
  cases k <;> decide

theorem keyId_inj {j k : DeviceKey} (h : j.keyId.toNat = k.keyId.toNat) : j = k := by
  revert h
  cases j <;> cases k <;> decide

theorem SlotId.ne_zero {k : DeviceKey} {h : KeyHandle} (hs : SlotId k h) : h ≠ 0 := by
  rcases hs with rfl | ⟨-, hv⟩
  · exact (keyId_bounds k).1
  · intro h0
    rw [h0] at hv
    exact absurd hv (by decide)

/-- Two slots record different keys. -/
theorem SlotId.inj {j k : DeviceKey} {h h' : KeyHandle} (hj : SlotId j h) (hk : SlotId k h')
    (he : h.toNat = h'.toNat) : j = k := by
  have bj := (keyId_bounds j).2
  have bk := (keyId_bounds k).2
  rcases hj with rfl | ⟨rfl, hv⟩ <;> rcases hk with rfl | ⟨rfl, hv'⟩
  · exact keyId_inj he
  · omega
  · omega
  · rfl

/-! ## Moves -/

/-- The key configuration and the stores. -/
abbrev KeyState (κ : Type) := P11KeyConfig × PsaStores κ

/-- A created key. -/
def PsaStores.addKey (p : PsaStores κ) (h : KeyHandle) (key : StoredKey κ) : PsaStores κ :=
  { p with
    keys := Function.update p.keys h.toNat (some key)
    created := Function.update p.created h.toNat true }

/-- A key that is closed: a volatile one is gone. -/
def PsaStores.dropKey (p : PsaStores κ) (h : KeyHandle) (gone : Prop) [Decidable gone] : PsaStores κ :=
  { p with
    keys := if gone then Function.update p.keys h.toNat none else p.keys
    created := Function.update p.created h.toNat false }

/-- A key that is gone. -/
def PsaStores.eraseKey (p : PsaStores κ) (h : KeyHandle) : PsaStores κ :=
  { p with keys := Function.update p.keys h.toNat none }

section
variable {p : PsaStores κ} {h : KeyHandle} {key : StoredKey κ} {id : Nat} {gone : Prop} [Decidable gone]

theorem PsaStores.addKey_self : (p.addKey h key).keys h.toNat = some key := Function.update_self _ _ _

theorem PsaStores.addKey_keys (hid : id ≠ h.toNat) : (p.addKey h key).keys id = p.keys id :=
  Function.update_of_ne hid _ _

theorem PsaStores.addKey_created (hid : id ≠ h.toNat) : (p.addKey h key).created id = p.created id :=
  Function.update_of_ne hid _ _

theorem PsaStores.dropKey_self : (p.dropKey h gone).created h.toNat = false :=
  Function.update_self _ _ _

theorem PsaStores.dropKey_keys (hid : id ≠ h.toNat) : (p.dropKey h gone).keys id = p.keys id := by
  show (if gone then Function.update p.keys h.toNat none else p.keys) id = _
  split
  · exact Function.update_of_ne hid _ _
  · rfl

theorem PsaStores.dropKey_created (hid : id ≠ h.toNat) :
    (p.dropKey h gone).created id = p.created id := Function.update_of_ne hid _ _

theorem PsaStores.eraseKey_self : (p.eraseKey h).keys h.toNat = none := Function.update_self _ _ _

theorem PsaStores.eraseKey_keys (hid : id ≠ h.toNat) : (p.eraseKey h).keys id = p.keys id :=
  Function.update_of_ne hid _ _

end

/-- What one step can do to the key slots. -/
inductive Move (lost erased : Prop) : KeyState κ → KeyState κ → Prop
  | frame {c c' : P11KeyConfig} {p p' : PsaStores κ} : c'.handle = c.handle → c'.mark = c.mark →
      p'.keys = p.keys → p'.created = p.created → Move lost erased (c, p) (c', p')
  | create {c : P11KeyConfig} {p : PsaStores κ} {k : DeviceKey} {h : KeyHandle} {key : StoredKey κ} :
      SlotId k h → p.keys h.toNat = none →
      (¬lost → k = .codeVerify → c.mark k = true → c.handle k = k.keyId) →
      Move lost erased (c, p) (c.setKey h true k, p.addKey h key)
  | unrecorded {c : P11KeyConfig} {p : PsaStores κ} {h : KeyHandle} {key : StoredKey κ} :
      p.keys h.toNat = none → (¬lost → ∃ k : DeviceKey, h = k.keyId) →
      Move lost erased (c, p) (c, p.addKey h key)
  | record {c : P11KeyConfig} {p : PsaStores κ} {k : DeviceKey} : p.keys k.keyId.toNat ≠ none →
      (¬lost → k = .codeVerify → c.mark k = true → c.handle k = k.keyId) →
      Move lost erased (c, p) (c.setKey k.keyId true k, p)
  | remove {c : P11KeyConfig} {p : PsaStores κ} {k : DeviceKey} (gone : Prop) [Decidable gone] :
      c.mark k = true → Move lost erased (c, p) (c.setKey 0 false k, p.dropKey (c.handle k) gone)
  | erase {c : P11KeyConfig} {p : PsaStores κ} {k : DeviceKey} : erased → c.mark k = true →
      Move lost erased (c, p) (c, p.eraseKey (c.handle k))

/-- A chain of moves. -/
abbrev Moves (lost erased : Prop) : KeyState κ → KeyState κ → Prop := ReflTransGen (Move lost erased)

theorem Move.imp {lost' erased' : Prop} (hl : lost → lost') (he : erased → erased')
    {x y : KeyState κ} (h : Move lost erased x y) : Move lost' erased' x y := by
  cases h with
  | frame h1 h2 h3 h4 => exact .frame h1 h2 h3 h4
  | create hs hn hk => exact .create hs hn fun h => hk fun h' => h (hl h')
  | unrecorded hn hk => exact .unrecorded hn fun h => hk fun h' => h (hl h')
  | record hn hk => exact .record hn fun h => hk fun h' => h (hl h')
  | remove gone hm => exact .remove gone hm
  | erase h hm => exact .erase (he h) hm

theorem Moves.imp {lost' erased' : Prop} (hl : lost → lost') (he : erased → erased')
    {x y : KeyState κ} (h : Moves lost erased x y) : Moves lost' erased' x y :=
  ReflTransGen.mono (fun _ _ => Move.imp hl he) _ _ h

/-! ## What a move keeps -/

/-- Every recorded handle is one of its slot. -/
def Slots (x : KeyState κ) : Prop := ∀ k, x.1.mark k = true → SlotId k (x.1.handle k)

/-- Every recorded handle is that of a key in PSA. -/
def MarksLive (x : KeyState κ) : Prop :=
  ∀ k, x.1.mark k = true → x.2.keys (x.1.handle k).toNat ≠ none

/-- The key is recorded in a slot. -/
def Recorded (c : P11KeyConfig) (id : Nat) : Prop := ∃ k, c.mark k = true ∧ (c.handle k).toNat = id

/-- The key is opened again by a search. -/
def Reopenable (p : PsaStores κ) (id : Nat) : Prop :=
  ∃ k : DeviceKey, id = k.keyId.toNat ∧ p.openKey none k.keyId = (psaSuccess, k.keyId)

/-- Every key that was created and is there is recorded or can be opened again. -/
def AllReachable (x : KeyState κ) : Prop :=
  ∀ id, x.2.created id = true → x.2.keys id ≠ none → Recorded x.1 id ∨ Reopenable x.2 id

theorem reopenable_iff {p : PsaStores κ} {id : Nat} (h : p.keys id ≠ none) :
    Reopenable p id ↔ ∃ k : DeviceKey, id = k.keyId.toNat := by
  constructor
  · rintro ⟨k, hk, -⟩
    exact ⟨k, hk⟩
  · rintro ⟨k, rfl⟩
    exact ⟨k, rfl, if_neg h⟩

theorem Move.slots {x y : KeyState κ} (h : Move lost erased x y) (hx : Slots x) : Slots y := by
  have hset : ∀ {c : P11KeyConfig} {h : KeyHandle} {m : Bool} {k : DeviceKey},
      (m = true → SlotId k h) → (∀ j, c.mark j = true → SlotId j (c.handle j)) →
      ∀ j, (c.setKey h m k).mark j = true → SlotId j ((c.setKey h m k).handle j) := by
    intro c h m k hk hc j hj
    by_cases hjk : j = k
    · subst hjk
      rw [P11KeyConfig.mark_setKey_self] at hj
      rw [P11KeyConfig.handle_setKey_self]
      exact hk hj
    · rw [P11KeyConfig.mark_setKey_of_ne _ _ _ hjk] at hj
      rw [P11KeyConfig.handle_setKey_of_ne _ _ _ hjk]
      exact hc j hj
  cases h with
  | frame hh hm _ _ =>
    intro k hk
    show SlotId k (P11KeyConfig.handle _ k)
    rw [hh]
    exact hx k (hm ▸ hk)
  | create hs _ _ => exact hset (fun _ => hs) hx
  | unrecorded _ _ => exact hx
  | record _ _ => exact hset (fun _ => .inl rfl) hx
  | remove _ _ => exact hset (fun h => absurd h Bool.false_ne_true) hx
  | erase _ _ => exact hx

theorem Move.marks {x y : KeyState κ} (h : Move lost False x y) (hs : Slots x)
    (hx : MarksLive x) : MarksLive y := by
  cases h with
  | frame hh hm hk _ =>
    intro k h
    show PsaStores.keys _ (P11KeyConfig.handle _ k).toNat ≠ none
    rw [hk, hh]
    exact hx k (hm ▸ h)
  | @create c p k h key _ hn _ =>
    intro j hj
    by_cases hjk : j = k
    · subst hjk
      rw [P11KeyConfig.handle_setKey_self, PsaStores.addKey_self]
      exact Option.some_ne_none _
    · rw [P11KeyConfig.mark_setKey_of_ne _ _ _ hjk] at hj
      rw [P11KeyConfig.handle_setKey_of_ne _ _ _ hjk]
      have hid : (c.handle j).toNat ≠ h.toNat := fun he => hx j hj (he ▸ hn)
      rw [PsaStores.addKey_keys hid]
      exact hx j hj
  | @unrecorded c p h key hn _ =>
    intro j hj
    have hid : (c.handle j).toNat ≠ h.toNat := fun he => hx j hj (he ▸ hn)
    rw [PsaStores.addKey_keys hid]
    exact hx j hj
  | @record c p k hn _ =>
    intro j hj
    by_cases hjk : j = k
    · subst hjk
      simpa using hn
    · rw [P11KeyConfig.mark_setKey_of_ne _ _ _ hjk] at hj
      show p.keys ((c.setKey _ true k).handle j).toNat ≠ none
      rw [P11KeyConfig.handle_setKey_of_ne _ _ _ hjk]
      exact hx j hj
  | @remove c p k gone _ hm =>
    intro j hj
    by_cases hjk : j = k
    · subst hjk
      exact absurd ((P11KeyConfig.mark_setKey_self _ _ _ _).symm.trans hj) Bool.false_ne_true
    · rw [P11KeyConfig.mark_setKey_of_ne _ _ _ hjk] at hj
      rw [P11KeyConfig.handle_setKey_of_ne _ _ _ hjk]
      -- the key of another slot is another key
      have hid : (c.handle j).toNat ≠ (c.handle k).toNat :=
        fun he => hjk ((hs j hj).inj (hs k hm) he)
      rw [PsaStores.dropKey_keys hid]
      exact hx j hj
  | erase h _ => exact h.elim

theorem Move.reachable {x y : KeyState κ} (h : Move False erased x y) (hs : Slots x)
    (hx : AllReachable x) : AllReachable y := by
  -- a slot that still records its key, and a fixed id, stay what they are
  have hkeep : ∀ {c c' : P11KeyConfig} {p p' : PsaStores κ} {id : Nat}, p'.keys id ≠ none →
      (∀ k, c.mark k = true → (c.handle k).toNat = id →
        Recorded c' id ∨ ∃ k : DeviceKey, id = k.keyId.toNat) →
      Recorded c id ∨ Reopenable p id → Recorded c' id ∨ Reopenable p' id := by
    rintro c c' p p' id hp hc (⟨k, hm, hk⟩ | ⟨k, hk, -⟩)
    · exact (hc k hm hk).imp_right (reopenable_iff hp).2
    · exact .inr ((reopenable_iff hp).2 ⟨k, hk⟩)
  -- a slot that is written over records a key with a fixed id
  have hwrite : ∀ {c : P11KeyConfig} {p : PsaStores κ} {k : DeviceKey} {h : KeyHandle} {id : Nat},
      Slots (c, p) →
      (¬False → k = .codeVerify → c.mark k = true → c.handle k = k.keyId) →
      ∀ j, c.mark j = true → (c.handle j).toNat = id →
        Recorded (c.setKey h true k) id ∨ ∃ k : DeviceKey, id = k.keyId.toNat := by
    intro c p k h id hs hover j hj hjid
    by_cases hjk : j = k
    · subst hjk
      have hfix : c.handle j = j.keyId := by
        rcases hs j hj with hfix | ⟨hcv, -⟩
        · exact hfix
        · exact hover not_false hcv hj
      exact .inr ⟨j, by rw [← hjid, hfix]⟩
    · refine .inl ⟨j, ?_, ?_⟩
      · rwa [P11KeyConfig.mark_setKey_of_ne _ _ _ hjk]
      · rwa [P11KeyConfig.handle_setKey_of_ne _ _ _ hjk]
  cases h with
  | @frame c c' p p' hh hm hk hc =>
    intro id h1 h2
    refine hkeep h2 (fun k hmk hid => .inl ⟨k, hm ▸ hmk, by rw [hh]; exact hid⟩) (hx id ?_ ?_)
    · exact hc ▸ h1
    · exact hk ▸ h2
  | @create c p k h key _ _ hover =>
    intro id h1 h2
    by_cases hid : id = h.toNat
    · exact .inl ⟨k, by simp, by simp [hid]⟩
    · refine hkeep h2 (hwrite hs hover) (hx id ?_ ?_)
      · rwa [PsaStores.addKey_created hid] at h1
      · rwa [PsaStores.addKey_keys hid] at h2
  | @unrecorded c p h key _ hfix =>
    intro id h1 h2
    obtain ⟨k, rfl⟩ := hfix not_false
    by_cases hid : id = k.keyId.toNat
    · exact .inr ((reopenable_iff h2).2 ⟨k, hid⟩)
    · refine hkeep h2 (fun j hj hjid => .inl ⟨j, hj, hjid⟩) (hx id ?_ ?_)
      · rwa [PsaStores.addKey_created hid] at h1
      · rwa [PsaStores.addKey_keys hid] at h2
  | @record c p k _ hover =>
    intro id h1 h2
    exact hkeep h2 (hwrite hs hover) (hx id h1 h2)
  | @remove c p k gone _ hm =>
    intro id h1 h2
    have hid : id ≠ (c.handle k).toNat := by
      rintro rfl
      rw [PsaStores.dropKey_self] at h1
      cases h1
    have hne : ∀ j, (c.handle j).toNat = id → j ≠ k := by
      rintro j hj rfl
      exact hid hj.symm
    refine hkeep h2 (fun j hj hjid => .inl ⟨j, ?_, ?_⟩) (hx id ?_ ?_)
    · rwa [P11KeyConfig.mark_setKey_of_ne _ _ _ (hne j hjid)]
    · rwa [P11KeyConfig.handle_setKey_of_ne _ _ _ (hne j hjid)]
    · rwa [PsaStores.dropKey_created hid] at h1
    · rwa [PsaStores.dropKey_keys hid] at h2
  | @erase c p k _ _ =>
    intro id h1 h2
    have hid : id ≠ (c.handle k).toNat := by
      rintro rfl
      exact h2 PsaStores.eraseKey_self
    refine hkeep h2 (fun j hj hjid => .inl ⟨j, hj, hjid⟩) (hx id h1 ?_)
    rwa [PsaStores.eraseKey_keys hid] at h2

theorem Moves.slots {x y : KeyState κ} (h : Moves lost erased x y) (hx : Slots x) : Slots y := by
  induction h with
  | refl => exact hx
  | tail _ hm ih => exact hm.slots ih

theorem Moves.marks {x y : KeyState κ} (h : Moves lost False x y) (hs : Slots x)
    (hx : MarksLive x) : MarksLive y := by
  induction h with
  | refl => exact hx
  | tail hms hm ih => exact hm.marks (Moves.slots hms hs) ih

theorem Moves.reachable {x y : KeyState κ} (h : Moves False erased x y) (hs : Slots x)
    (hx : AllReachable x) : AllReachable y := by
  induction h with
  | refl => exact hx
  | tail hms hm ih => exact hm.reachable (Moves.slots hms hs) ih

/-! ## The calls of PSA -/

/-- A key is created, or the store stays as it is. -/
theorem newKey_cases (p : PsaStores κ) (id : KeyHandle) (key : StoredKey κ)
    (a : PsaStores.NewKeyAns) :
    (∃ st, st ≠ psaSuccess ∧ p.newKey id key a = (p, st, 0)) ∨
    ∃ h, h = (if id = 0 then a.volatileId.val else id) ∧ a.fault = none ∧ p.keys h.toNat = none ∧
      p.newKey id key a = (p.addKey h key, psaSuccess, h) := by
  unfold PsaStores.newKey psaCreateKey
  cases hf : a.fault with
  | some e => exact .inl ⟨e.1, e.2, if_neg e.2⟩
  | none =>
    by_cases hn : p.keys (if id = 0 then a.volatileId.val else id).toNat = none
    · exact .inr ⟨_, rfl, rfl, hn, by simp only [hn, if_true]; rfl⟩
    · exact .inl ⟨psaErrorAlreadyExists, by decide, by simp only [hn, if_false]; rfl⟩

theorem closeKey_cases (p : PsaStores κ) {h : KeyHandle} (h0 : h ≠ 0) (fault : Option PsaError) :
    (∃ st, st ≠ psaSuccess ∧ p.closeKey h fault = (p, st)) ∨
      p.closeKey h fault = (p.dropKey h (¬h.toNat ≤ psaKeyIdUserMax), psaSuccess) := by
  unfold PsaStores.closeKey
  rw [if_neg h0]
  cases fault with
  | some e => exact .inl ⟨e.1, e.2, rfl⟩
  | none =>
    by_cases hn : p.keys h.toNat = none
    · exact .inl ⟨psaErrorInvalidHandle, by decide, by simp only [hn, if_true]⟩
    · refine .inr ?_
      simp only [hn, if_false, PsaStores.dropKey, ite_not]

theorem destroyKey_cases (p : PsaStores κ) {h : KeyHandle} (h0 : h ≠ 0)
    (fault : Option (PsaError × Bool)) :
    (∃ st, st ≠ psaSuccess ∧ p.destroyKey h fault = (p, st)) ∨
    (∃ st e, st ≠ psaSuccess ∧ fault = some (e, true) ∧ p.destroyKey h fault = (p.eraseKey h, st)) ∨
      p.destroyKey h fault = (p.dropKey h True, psaSuccess) := by
  unfold PsaStores.destroyKey psaDestroyKey
  rw [if_neg h0]
  cases fault with
  | some f =>
    obtain ⟨e, erased⟩ := f
    cases erased with
    | false => exact .inl ⟨e.1, e.2, by simp only [e.2, if_false, Bool.false_eq_true]⟩
    | true => exact .inr (.inl ⟨e.1, e, e.2, rfl, by simp only [e.2, if_false, if_true]; rfl⟩)
  | none =>
    by_cases hn : p.keys h.toNat = none
    · refine .inl ⟨psaErrorInvalidHandle, by decide, ?_⟩
      simp only [hn, if_true, (by decide : psaErrorInvalidHandle ≠ psaSuccess), if_false]
    · exact .inr (.inr (by simp only [hn, if_false, if_true, PsaStores.dropKey]))

theorem psRemove_cases (p : PsaStores κ) (uid : Nat) (fault : Option PsaError) :
    (∃ st, st ≠ psaSuccess ∧ p.psRemove uid fault = (p, st)) ∨
      ∃ o, p.psRemove uid fault = ({ p with objects := o }, psaSuccess) := by
  unfold PsaStores.psRemove
  cases fault with
  | some e => exact .inl ⟨e.1, e.2, rfl⟩
  | none =>
    by_cases hn : p.objects uid = none
    · exact .inl ⟨psaErrorDoesNotExist, by decide, if_pos hn⟩
    · exact .inr ⟨_, if_neg hn⟩

/-! ## Removing -/

/-- The call of `psa_destroy_key` fails and the key is gone. -/
def RemoveAns.Erases (a : RemoveAns) : Prop := ∃ e, a.destroyKey = some (e, true)

theorem removeKey_moves {c : P11KeyConfig} {p : PsaStores κ} (hs : Slots (c, p)) (permanent : Bool)
    (a : RemoveAns) (k : DeviceKey) :
    Moves lost (permanent = true ∧ a.Erases) (c, p) (removeKey p c permanent a k).2 := by
  unfold removeKey
  by_cases hm : c.mark k = true
  · have h0 : c.handle k ≠ 0 := (hs k hm).ne_zero
    rw [if_pos hm]
    cases permanent with
    | false =>
      rcases closeKey_cases p h0 a.closeKey with ⟨st, hst, hc⟩ | hc
      · simp only [hc, Bool.false_eq_true, if_false, hst, ne_eq, not_false_eq_true, if_true]
        exact .refl
      · simp only [hc, Bool.false_eq_true, if_false, ne_eq, not_true_eq_false]
        exact .single (.remove _ hm)
    | true =>
      rcases destroyKey_cases p h0 a.destroyKey with ⟨st, hst, hc⟩ | ⟨st, e, hst, he, hc⟩ | hc
      · simp only [hc, if_true, hst, ne_eq, not_false_eq_true]
        exact .refl
      · simp only [hc, if_true, hst, ne_eq, not_false_eq_true]
        exact .single (.erase ⟨trivial, e, he⟩ hm)
      · simp only [hc, if_true, ne_eq, not_true_eq_false, if_false]
        exact .single (.remove _ hm)
  · rw [if_neg hm]

theorem removeCertificate_moves {c cleared : P11KeyConfig} {p : PsaStores κ} {mark : Bool} {uid : Nat}
    {a : RemoveAns} (hh : cleared.handle = c.handle) (hm : cleared.mark = c.mark) :
    Moves lost erased (c, p) (removeCertificate p c mark uid cleared a).2 := by
  unfold removeCertificate
  cases mark with
  | false => exact .refl
  | true =>
    rcases psRemove_cases p uid a.psRemove with ⟨st, hst, hr⟩ | ⟨o, hr⟩
    · simp only [hr, if_true, hst, ne_eq, not_false_eq_true]
      exact .refl
    · simp only [hr, if_true, ne_eq, not_true_eq_false, if_false]
      exact .single (.frame hh hm rfl rfl)

theorem removeObject_moves {c : P11KeyConfig} {p : PsaStores κ} (hs : Slots (c, p))
    (pcLabel : List UInt8) (permanent : Bool) (a : RemoveAns) :
    Moves lost (permanent = true ∧ a.Erases) (c, p)
      (pkcs11PsaRemoveObject p c pcLabel permanent a).2 := by
  unfold pkcs11PsaRemoveObject
  split_ifs
  · exact removeKey_moves hs _ _ _
  · exact removeKey_moves hs _ _ _
  · exact removeKey_moves hs _ _ _
  · exact removeCertificate_moves (by funext k; cases k <;> rfl) (by funext k; cases k <;> rfl)
  · exact removeCertificate_moves (by funext k; cases k <;> rfl) (by funext k; cases k <;> rfl)
  · exact removeCertificate_moves (by funext k; cases k <;> rfl) (by funext k; cases k <;> rfl)
  · exact .refl

/-! ## Recording -/

theorem label_inj : ∀ {j k : DeviceKey}, j.label = k.label → j = k := by
  intro j k
  cases j <;> cases k <;> decide

theorem import_key (c : P11KeyConfig) (k : DeviceKey) (h : KeyHandle) :
    pkcs11PsaContextImportObject c k.label h = c.setKey h true k := by
  have h1 : labelDevicePublicKeyForTls ≠ labelDevicePrivateKeyForTls := by decide
  have h2 : labelCodeVerificationKey ≠ labelDevicePrivateKeyForTls := by decide
  have h3 : labelCodeVerificationKey ≠ labelDevicePublicKeyForTls := by decide
  cases k with
  | devicePrivate => exact if_pos rfl
  | devicePublic => exact (if_neg h1).trans (if_pos rfl)
  | codeVerify => exact (if_neg h2).trans ((if_neg h3).trans (if_pos rfl))

/-- A label of no key changes no slot of one. -/
theorem import_other (c : P11KeyConfig) {label : List UInt8} (hl : ∀ k : DeviceKey, label ≠ k.label)
    (h : KeyHandle) :
    (pkcs11PsaContextImportObject c label h).handle = c.handle ∧
      (pkcs11PsaContextImportObject c label h).mark = c.mark := by
  have h1 : label ≠ labelDevicePrivateKeyForTls := hl .devicePrivate
  have h2 : label ≠ labelDevicePublicKeyForTls := hl .devicePublic
  have h3 : label ≠ labelCodeVerificationKey := hl .codeVerify
  unfold pkcs11PsaContextImportObject
  rw [if_neg h1, if_neg h2, if_neg h3]
  split_ifs <;> exact ⟨by funext k; cases k <;> rfl, by funext k; cases k <;> rfl⟩

/-! ## Saving -/

/-- A certificate has the label of no key. -/
theorem saveObject_certificate {mbed : Mbed ρ ε κ} {xClass : Nat} {label data : List UInt8}
    {pk : Option (PkContext ρ ε)} {uid : Nat} {pal : ObjectHandle}
    (h : saveObject mbed xClass label data pk = some (.certificate uid pal)) (k : DeviceKey) :
    label ≠ k.label := by
  unfold saveObject at h
  split_ifs at h with h1 h2 h3
  · rw [h1.2]
    cases k <;> decide
  · rw [h2.2]
    cases k <;> decide
  · rw [h3.2]
    cases k <;> decide
  all_goals
    obtain ⟨_, -, h⟩ := Option.map_eq_some_iff.1 h
    cases h

/-- A device key is saved under its id, the code verification key under none. -/
theorem saveObject_key {mbed : Mbed ρ ε κ} {xClass : Nat} {label data : List UInt8}
    {pk : Option (PkContext ρ ε)} {k : DeviceKey} {id : KeyHandle} {key : StoredKey κ}
    {pal : ObjectHandle} (h : saveObject mbed xClass label data pk = some (.key k id key pal)) :
    label = k.label ∧ (k ≠ .codeVerify ∧ id = k.keyId ∨ k = .codeVerify ∧ id = 0) := by
  unfold saveObject at h
  split_ifs at h with h1 h2 h3 h4 h5 h6
  · cases h
  · cases h
  · cases h
  · obtain ⟨_, -, h⟩ := Option.map_eq_some_iff.1 h
    cases h
    exact ⟨h4.2, .inl ⟨by decide, rfl⟩⟩
  · obtain ⟨_, -, h⟩ := Option.map_eq_some_iff.1 h
    cases h
    exact ⟨h5.2, .inr ⟨rfl, rfl⟩⟩
  · obtain ⟨_, -, h⟩ := Option.map_eq_some_iff.1 h
    cases h
    exact ⟨h6.2, .inl ⟨by decide, rfl⟩⟩

/-- A code verification key is not saved over one that no id opens again. -/
def SaveKeeps (mbed : Mbed ρ ε κ) (c : P11KeyConfig) (xClass : Nat) (label data : List UInt8)
    (pk : Option (PkContext ρ ε)) (a : SaveAns) : Prop :=
  ∀ id key pal, saveObject mbed xClass label data pk = some (.key .codeVerify id key pal) →
    a.importKey.fault = none → c.xCodeVerifyKeyMark = true →
    c.uxCodeVerifyKey = psaCodeVerificationKeyId

theorem save_moves {mbed : Mbed ρ ε κ} {c c' : P11KeyConfig} {p p' : PsaStores κ} {xClass : Nat}
    {pxLabel : Option (List UInt8)} {data : List UInt8} {size : Nat} {pk : Option (PkContext ρ ε)}
    {a : SaveAns} {pal : ObjectHandle}
    (h : pkcs11PsaSaveObject mbed p c xClass pxLabel data size pk a = some (pal, c', p')) :
    Moves (¬∀ label, pxLabel = some label → SaveKeeps mbed c xClass label data pk a) False
      (c, p) (c', p') := by
  unfold pkcs11PsaSaveObject at h
  split at h
  swap
  · cases h
    exact .refl
  cases hl : pxLabel with
  | none =>
    simp only [hl] at h
    split at h
    · cases h
    · cases h
      exact .refl
  | some label =>
    simp only [hl] at h
    cases ho : saveObject mbed xClass label data pk with
    | none =>
      simp only [ho] at h
      cases h
      exact .refl
    | some o =>
      cases o with
      | certificate uid pal =>
        simp only [ho, PsaStores.psSet] at h
        cases hf : a.psSet with
        | some e =>
          simp only [hf, e.2, if_false] at h
          cases h
          exact .refl
        | none =>
          simp only [hf, if_true] at h
          cases h
          obtain ⟨hh, hm⟩ := import_other c (saveObject_certificate ho) pkcs11ObjectHandleNa
          exact .single (.frame hh hm rfl rfl)
      | key k id key pal =>
        obtain ⟨rfl, hid⟩ := saveObject_key ho
        rcases newKey_cases p id key a.importKey with ⟨st, hst, hn⟩ | ⟨kh, rfl, hf, hn, hk⟩
        · simp only [ho, hn, hst, if_false] at h
          cases h
          exact .refl
        · simp only [ho, hk, if_true] at h
          cases h
          rw [import_key]
          refine .single (.create ?_ hn ?_)
          · rcases hid with ⟨-, rfl⟩ | ⟨rfl, rfl⟩
            · rw [if_neg (keyId_bounds k).1]
              exact .inl rfl
            · exact .inr ⟨rfl, a.importKey.volatileId.2.1⟩
          · rintro hkeep rfl hm
            rw [not_not] at hkeep
            exact hkeep _ rfl id key _ ho hf hm

/-! ## Finding -/

theorem label_prefix (j k : DeviceKey) :
    j.label.isPrefixOf (k.label ++ [0]) = if j = k then true else false := by
  cases j <;> cases k <;> decide

/-- The slot of a label answers exactly when its mark is set. -/
theorem getKeyHandle_ok (c : P11KeyConfig) (k : DeviceKey) :
    (pkcs11PsaGetKeyHandle c k.label).1 = .ok ↔ c.mark k = true := by
  have h1 : k.label.isPrefixOf (labelDevicePrivateKeyForTls ++ [0]) =
      if k = .devicePrivate then true else false := label_prefix k .devicePrivate
  have h2 : k.label.isPrefixOf (labelDevicePublicKeyForTls ++ [0]) =
      if k = .devicePublic then true else false := label_prefix k .devicePublic
  have h3 : k.label.isPrefixOf (labelCodeVerificationKey ++ [0]) =
      if k = .codeVerify then true else false := label_prefix k .codeVerify
  unfold pkcs11PsaGetKeyHandle
  rw [h1, h2, h3]
  cases k with
  | devicePrivate => by_cases hm : c.xDevicePrivateKeyMark = true <;> simp [P11KeyConfig.mark, hm]
  | devicePublic => by_cases hm : c.xDevicePublicKeyMark = true <;> simp [P11KeyConfig.mark, hm]
  | codeVerify => by_cases hm : c.xCodeVerifyKeyMark = true <;> simp [P11KeyConfig.mark, hm]

theorem findKeyObjects_moves (env : FindEnv) (k : DeviceKey) (pal : ObjectHandle) (r : Found)
    (p : PsaStores κ) (fault : Option PsaError) (henv : env.openKey = p.openKey fault) :
    Moves lost erased (r.post.p11KeyConfig, p)
      ((findKeyObjects env k.label k.keyId pal r).post.p11KeyConfig, p) := by
  -- whatever the list does, the configuration is the one that was read
  have hcfg : (findKeyObjects env k.label k.keyId pal r).post.p11KeyConfig = r.post.p11KeyConfig ∨
      (pkcs11PsaGetKeyHandle r.post.p11KeyConfig k.label).1 ≠ .ok ∧
      (env.openKey k.keyId).1 = psaSuccess ∧
      (findKeyObjects env k.label k.keyId pal r).post.p11KeyConfig =
        pkcs11PsaContextImportObject r.post.p11KeyConfig k.label (env.openKey k.keyId).2 := by
    unfold findKeyObjects
    by_cases hg : (pkcs11PsaGetKeyHandle r.post.p11KeyConfig k.label).1 = .ok
    · simp only [hg, if_true, and_self]
      exact .inl (by split <;> rfl)
    · by_cases ho : (env.openKey k.keyId).1 = psaSuccess
      · simp only [hg, ho, if_true, if_false, and_self]
        exact .inr ⟨hg, trivial, by split <;> rfl⟩
      · left
        by_cases hd : (env.openKey k.keyId).1 = psaErrorDoesNotExist
        · simp only [hg, hd, if_false, ne_eq, not_true_eq_false, and_false,
            (by decide : psaErrorDoesNotExist ≠ psaSuccess)]
        · simp only [hg, ho, hd, if_false, ne_eq, not_false_eq_true, if_true, and_false]
  rcases hcfg with hcfg | ⟨hg, ho, hcfg⟩
  · rw [hcfg]
  · have hopen : p.keys k.keyId.toNat ≠ none ∧ (env.openKey k.keyId).2 = k.keyId := by
      rw [henv] at ho ⊢
      unfold PsaStores.openKey at ho ⊢
      cases fault with
      | some e => exact absurd ho e.2
      | none =>
        by_cases hn : p.keys k.keyId.toNat = none
        · simp only [hn, if_true] at ho
          exact absurd ho (by decide)
        · exact ⟨hn, by simp only [hn, if_false]⟩
    rw [hcfg, hopen.2, import_key]
    refine .single (.record hopen.1 fun _ _ hm => ?_)
    exact absurd ((getKeyHandle_ok _ k).2 hm) hg

theorem findCertificate_moves (env : FindEnv) {label : List UInt8}
    (hl : ∀ k : DeviceKey, label ≠ k.label) (uid : Nat) (pal : ObjectHandle) (r : Found)
    (p : PsaStores κ) :
    Moves lost erased (r.post.p11KeyConfig, p)
      ((findCertificate env label uid pal r).post.p11KeyConfig, p) := by
  obtain ⟨hh, hm⟩ := import_other r.post.p11KeyConfig hl pkcs11ObjectHandleNa
  unfold findCertificate
  dsimp only
  split
  · split
    · exact .single (.frame hh hm rfl rfl)
    · exact .refl
  · split
    · exact .refl
    · exact .refl

theorem findByLabel_moves (env : FindEnv) (s : State) (rv : CkRv) (label : List UInt8) (count : Nat)
    (p : PsaStores κ) (fault : Option PsaError) (henv : env.openKey = p.openKey fault) :
    Moves lost erased (s.p11KeyConfig, p) ((findByLabel env s rv label count).post.p11KeyConfig, p) := by
  unfold findByLabel
  dsimp only
  split_ifs with h0 h1 h2 h3 h4 h5 h6
  · exact .refl
  · subst h1
    exact findKeyObjects_moves env .devicePrivate _ ⟨rv, _, count, s⟩ p fault henv
  · subst h2
    exact findKeyObjects_moves env .devicePublic _ ⟨rv, _, count, s⟩ p fault henv
  · subst h3
    exact findKeyObjects_moves env .codeVerify _ ⟨rv, _, count, s⟩ p fault henv
  · subst h4
    exact findCertificate_moves env (fun k => by cases k <;> decide) _ _ ⟨rv, _, count, s⟩ p
  · subst h5
    exact findCertificate_moves env (fun k => by cases k <;> decide) _ _ ⟨rv, _, count, s⟩ p
  · subst h6
    exact findCertificate_moves env (fun k => by cases k <;> decide) _ _ ⟨rv, _, count, s⟩ p
  · exact .refl

theorem find_moves {env : FindEnv} {s : State} {xSession : SessionHandle} {pxObject : ObjectHandle}
    {max count : Nat} {r : Found} (p : PsaStores κ) (fault : Option PsaError)
    (henv : env.openKey = p.openKey fault)
    (h : cFindObjects env s xSession pxObject max count = some r) :
    Moves lost erased (s.p11KeyConfig, p) (r.post.p11KeyConfig, p) := by
  unfold cFindObjects at h
  split at h
  · split at h
    · cases h
    · cases h
      exact findByLabel_moves env s _ _ _ p fault henv
  · split at h
    · cases h
      exact .refl
    · split at h
      · cases h
        exact .refl
      · cases h
        exact findByLabel_moves env s _ _ _ p fault henv

/-! ## Generating -/

/-- No key of a pair is generated under a label that is not the one of its slot: PSA creates the
private key under the private label only, and imports the public key under the public label only. -/
def GenerateKeeps (publicKey : κ → List UInt8) (d : Device κ) (args : KeyPairArgs)
    (a : KeyPairAns κ) : Prop :=
  ∀ labels prv, checkKeyPair d.p11 args a.malloc = some (.ok labels) →
    labels.privateLabel.string = some prv →
    ((d.psa.newKey (keyIdOf .devicePrivate prv) (.keyPair a.key) a.generateKey).2.1 = psaSuccess →
      prv = labelDevicePrivateKeyForTls) ∧
    ∀ pub, labels.publicLabel.string = some pub →
      (generatePrivateKey publicKey d.psa prv a).1.uxStatus = psaSuccess →
      (importPublicKey (generatePrivateKey publicKey d.psa prv a).1 pub
        (generatePrivateKey publicKey d.psa prv a).2 a).uxStatus = psaSuccess →
      pub = labelDevicePublicKeyForTls

/-- A key created for a slot: nothing happens, or it is there under its handle, which is the fixed id
if the label is that of the slot. -/
theorem newKey_moves {c : P11KeyConfig} {p : PsaStores κ} {k : DeviceKey} {label : List UInt8}
    {key : StoredKey κ} {a : PsaStores.NewKeyAns}
    (hlost : ¬lost → (p.newKey (keyIdOf k label) key a).2.1 = psaSuccess → label = k.label) :
    (∃ st, st ≠ psaSuccess ∧ p.newKey (keyIdOf k label) key a = (p, st, 0)) ∨
    ∃ h, p.keys h.toNat = none ∧ p.newKey (keyIdOf k label) key a = (p.addKey h key, psaSuccess, h) ∧
      (label = k.label → h = k.keyId) ∧ Moves lost erased (c, p) (c, p.addKey h key) := by
  rcases newKey_cases p (keyIdOf k label) key a with ⟨st, hst, hn⟩ | ⟨h, hh, -, hn, hk⟩
  · exact .inl ⟨st, hst, hn⟩
  · have hfix : label = k.label → h = k.keyId := by
      intro hl
      rw [hh, keyIdOf, if_pos hl, if_neg (keyId_bounds k).1]
    refine .inr ⟨h, hn, hk, hfix, .single (.unrecorded hn fun hl => ⟨k, hfix (hlost hl ?_)⟩)⟩
    rw [hk]

theorem recordKey_moves (lost erased : Prop) (d : Device κ) {k : DeviceKey} (pal : ObjectHandle) {label : List UInt8}
    (bytes : List UInt8) {h : KeyHandle} (lock : Bool) (hk : k ≠ .codeVerify)
    (hh : label = k.label → h = k.keyId ∧ d.psa.keys k.keyId.toNat ≠ none) :
    (recordKey d k pal label bytes h lock).2.2.psa = d.psa ∧
    Moves lost erased (d.p11.p11KeyConfig, d.psa)
      ((recordKey d k pal label bytes h lock).2.2.p11.p11KeyConfig, d.psa) := by
  unfold recordKey
  by_cases hl : label = k.label
  · obtain ⟨rfl, hn⟩ := hh hl
    subst hl
    simp only [if_true, import_key]
    exact ⟨trivial, .single (.record hn fun _ he => absurd he hk)⟩
  · simp only [hl, if_false]
    exact ⟨trivial, .refl⟩

/-- The public key is recorded after the private one, if that was. -/
theorem recordKeys_post (d : Device κ) (g : GeneratedKeys κ) (prv pub prvBytes pubBytes : List UInt8)
    (a : KeyPairAns κ) (hPub hPrv : ObjectHandle) :
    let r := recordKey ⟨d.p11, g.psa⟩ .devicePrivate eAwsDevicePrivateKey prv prvBytes g.hPrivate
      a.lockPrivate
    (recordKeys d g prv pub prvBytes pubBytes a hPub hPrv).post =
      if r.1 = .ok then
        (recordKey r.2.2 .devicePublic eAwsDevicePublicKey pub pubBytes g.hPublic a.lockPublic).2.2
      else r.2.2 := by
  dsimp only [recordKeys]
  generalize recordKey (κ := κ) _ .devicePrivate _ _ _ _ _ = r
  obtain ⟨rv, o, d'⟩ := r
  cases rv <;> rfl

theorem recordKeys_moves (d : Device κ) {g : GeneratedKeys κ} {prv pub : List UInt8}
    (prvBytes pubBytes : List UInt8) (a : KeyPairAns κ) (hPub hPrv : ObjectHandle)
    (h1 : prv = labelDevicePrivateKeyForTls →
      g.hPrivate = psaDevicePrivateKeyId ∧ g.psa.keys psaDevicePrivateKeyId.toNat ≠ none)
    (h2 : pub = labelDevicePublicKeyForTls →
      g.hPublic = psaDevicePublicKeyId ∧ g.psa.keys psaDevicePublicKeyId.toNat ≠ none) :
    Moves lost erased (d.p11.p11KeyConfig, g.psa)
      ((recordKeys d g prv pub prvBytes pubBytes a hPub hPrv).post.p11.p11KeyConfig,
        (recordKeys d g prv pub prvBytes pubBytes a hPub hPrv).post.psa) := by
  have hprv := recordKey_moves lost erased ⟨d.p11, g.psa⟩ eAwsDevicePrivateKey prvBytes
    a.lockPrivate (by decide : DeviceKey.devicePrivate ≠ .codeVerify) h1
  rw [recordKeys_post]
  generalize recordKey (κ := κ) _ .devicePrivate _ _ _ _ _ = r at hprv ⊢
  obtain ⟨rv, o, d'⟩ := r
  obtain ⟨hpsa, hm⟩ := hprv
  simp only at hpsa hm
  dsimp only
  split
  · have hpub := recordKey_moves lost erased d' eAwsDevicePublicKey pubBytes
      a.lockPublic (by decide : DeviceKey.devicePublic ≠ .codeVerify) (hpsa ▸ h2)
    rw [hpub.1]
    rw [hpsa] at hpub ⊢
    exact hm.trans hpub.2
  · rw [hpsa]
    exact hm

theorem generatePrivateKey_moves (lost erased : Prop) (publicKey : κ → List UInt8)
    (c : P11KeyConfig) (p : PsaStores κ) {prv : List UInt8} (a : KeyPairAns κ)
    (hlost : ¬lost → (p.newKey (keyIdOf .devicePrivate prv) (.keyPair a.key) a.generateKey).2.1 =
      psaSuccess → prv = labelDevicePrivateKeyForTls) :
    Moves lost erased (c, p) (c, (generatePrivateKey publicKey p prv a).1.psa) ∧
    ((generatePrivateKey publicKey p prv a).1.uxStatus = psaSuccess →
      prv = labelDevicePrivateKeyForTls →
      (generatePrivateKey publicKey p prv a).1.hPrivate = psaDevicePrivateKeyId ∧
      (generatePrivateKey publicKey p prv a).1.psa.keys psaDevicePrivateKeyId.toNat ≠ none) := by
  unfold generatePrivateKey
  rcases newKey_moves (c := c) hlost with ⟨st, hst, hn⟩ | ⟨h, hn, hk, hfix, hm⟩
  · simp only [hn, hst, if_false]
    exact ⟨.refl, fun h => absurd h id⟩
  · simp only [hk, if_true]
    refine ⟨hm, fun _ hl => ?_⟩
    obtain rfl := hfix hl
    refine ⟨rfl, ?_⟩
    show (p.addKey DeviceKey.devicePrivate.keyId _).keys DeviceKey.devicePrivate.keyId.toNat ≠ none
    rw [PsaStores.addKey_self]
    exact Option.some_ne_none _

theorem importPublicKey_moves (lost erased : Prop) (c : P11KeyConfig) (g : GeneratedKeys κ)
    {pub : List UInt8} (point : List UInt8) (a : KeyPairAns κ)
    (hlost : ¬lost → (importPublicKey g pub point a).uxStatus = psaSuccess →
      pub = labelDevicePublicKeyForTls) :
    Moves lost erased (c, g.psa) (c, (importPublicKey g pub point a).psa) ∧
    (∀ id, g.psa.keys id ≠ none → (importPublicKey g pub point a).psa.keys id ≠ none) ∧
    ((importPublicKey g pub point a).uxStatus = psaSuccess → pub = labelDevicePublicKeyForTls →
      (importPublicKey g pub point a).hPublic = psaDevicePublicKeyId ∧
      (importPublicKey g pub point a).psa.keys psaDevicePublicKeyId.toNat ≠ none) := by
  unfold importPublicKey at hlost ⊢
  rcases newKey_moves (c := c) hlost with ⟨st, hst, hn⟩ | ⟨h, hn, hk, hfix, hm⟩
  · simp only [hn]
    exact ⟨.refl, fun _ h => h, fun h => absurd h hst⟩
  · simp only [hk]
    refine ⟨hm, fun id hid => ?_, fun _ hl => ?_⟩
    · have hne : id ≠ h.toNat := fun he => hid (he ▸ hn)
      rwa [PsaStores.addKey_keys hne]
    · obtain rfl := hfix hl
      refine ⟨rfl, ?_⟩
      show (g.psa.addKey DeviceKey.devicePublic.keyId _).keys DeviceKey.devicePublic.keyId.toNat ≠ none
      rw [PsaStores.addKey_self]
      exact Option.some_ne_none _

/-- How `C_GenerateKeyPair` ends: a check fails, a call of PSA fails, or both keys are there and are
recorded. -/
inductive GenerateOutcome (publicKey : κ → List UInt8) (d : Device κ) (args : KeyPairArgs)
    (a : KeyPairAns κ) : KeyPairResult κ → Prop
  | refused (e : CkRv) : checkKeyPair d.p11 args a.malloc = some (.error e) →
      GenerateOutcome publicKey d args a
        ⟨e, args.pxPublicKey, args.pxPrivateKey, if a.malloc then [.malloc] else [], d⟩
  | privateFails {labels : KeyPairLabels} {prv : List UInt8} :
      checkKeyPair d.p11 args a.malloc = some (.ok labels) → labels.privateLabel.string = some prv →
      (generatePrivateKey publicKey d.psa prv a).1.uxStatus ≠ psaSuccess →
      GenerateOutcome publicKey d args a
        ⟨.functionFailed, args.pxPublicKey, args.pxPrivateKey, if a.malloc then [.malloc] else [],
          ⟨d.p11, (generatePrivateKey publicKey d.psa prv a).1.psa⟩⟩
  | publicFails {labels : KeyPairLabels} {prv pub : List UInt8} :
      checkKeyPair d.p11 args a.malloc = some (.ok labels) → labels.privateLabel.string = some prv →
      (generatePrivateKey publicKey d.psa prv a).1.uxStatus = psaSuccess →
      labels.publicLabel.string = some pub →
      (importPublicKey (generatePrivateKey publicKey d.psa prv a).1 pub
        (generatePrivateKey publicKey d.psa prv a).2 a).uxStatus ≠ psaSuccess →
      GenerateOutcome publicKey d args a
        ⟨.functionFailed, args.pxPublicKey, args.pxPrivateKey, if a.malloc then [.malloc] else [],
          ⟨d.p11, (importPublicKey (generatePrivateKey publicKey d.psa prv a).1 pub
            (generatePrivateKey publicKey d.psa prv a).2 a).psa⟩⟩
  | recorded {labels : KeyPairLabels} {prv prvBytes pub pubBytes : List UInt8} :
      checkKeyPair d.p11 args a.malloc = some (.ok labels) →
      labels.privateLabel.string = some prv → labels.privateLabel.bytes = some prvBytes →
      (generatePrivateKey publicKey d.psa prv a).1.uxStatus = psaSuccess →
      labels.publicLabel.string = some pub → labels.publicLabel.bytes = some pubBytes →
      (importPublicKey (generatePrivateKey publicKey d.psa prv a).1 pub
        (generatePrivateKey publicKey d.psa prv a).2 a).uxStatus = psaSuccess →
      GenerateOutcome publicKey d args a
        (recordKeys d (importPublicKey (generatePrivateKey publicKey d.psa prv a).1 pub
          (generatePrivateKey publicKey d.psa prv a).2 a) prv pub prvBytes pubBytes a
          labels.publicKey labels.privateKey)

theorem generate_outcome {publicKey : κ → List UInt8} {d : Device κ} {args : KeyPairArgs}
    {a : KeyPairAns κ} {r : KeyPairResult κ} (h : cGenerateKeyPair publicKey d args a = some r) :
    GenerateOutcome publicKey d args a r := by
  unfold cGenerateKeyPair at h
  cases hc : checkKeyPair d.p11 args a.malloc with
  | none =>
    simp only [hc] at h
    cases h
  | some res =>
    cases res with
    | error e =>
      simp only [hc] at h
      cases h
      exact .refused e hc
    | ok labels =>
      simp only [hc] at h
      split at h
      swap
      · cases h
      rename_i prv prvBytes hprv hprvBytes
      split at h
      swap
      · cases h
        exact .privateFails hc hprv ‹_›
      rename_i hst
      split at h
      swap
      · cases h
      rename_i pub pubBytes hpub hpubBytes
      split at h
      swap
      · cases h
        exact .publicFails hc hprv hst hpub ‹_›
      rename_i hst'
      cases h
      exact .recorded hc hprv hprvBytes hst hpub hpubBytes hst'

theorem generate_moves {publicKey : κ → List UInt8} {d : Device κ} {args : KeyPairArgs}
    {a : KeyPairAns κ} {r : KeyPairResult κ} (h : cGenerateKeyPair publicKey d args a = some r) :
    Moves (¬GenerateKeeps publicKey d args a) False (d.p11.p11KeyConfig, d.psa)
      (r.post.p11.p11KeyConfig, r.post.psa) := by
  have hgen : ∀ {labels : KeyPairLabels} {prv : List UInt8},
      checkKeyPair d.p11 args a.malloc = some (.ok labels) → labels.privateLabel.string = some prv →
      _ := fun {labels prv} hc hp =>
    generatePrivateKey_moves (¬GenerateKeeps publicKey d args a) False
      publicKey d.p11.p11KeyConfig d.psa a fun hn => (not_not.1 hn labels prv hc hp).1
  have himp : ∀ {labels : KeyPairLabels} {prv pub : List UInt8},
      checkKeyPair d.p11 args a.malloc = some (.ok labels) → labels.privateLabel.string = some prv →
      (generatePrivateKey publicKey d.psa prv a).1.uxStatus = psaSuccess →
      labels.publicLabel.string = some pub → _ := fun {labels prv pub} hc hp hst hq =>
    importPublicKey_moves (¬GenerateKeeps publicKey d args a) False d.p11.p11KeyConfig
      (generatePrivateKey publicKey d.psa prv a).1 (generatePrivateKey publicKey d.psa prv a).2 a
      fun hn => (not_not.1 hn labels prv hc hp).2 pub hq hst
  cases generate_outcome h with
  | refused e hc => exact .refl
  | privateFails hc hp hst => exact (hgen hc hp).1
  | publicFails hc hp hst hq hst' => exact (hgen hc hp).1.trans (himp hc hp hst hq).1
  | recorded hc hp hpb hst hq hqb hst' =>
    obtain ⟨himp, hkeep, hpubkey⟩ := himp hc hp hst hq
    obtain ⟨hgen, hkey⟩ := hgen hc hp
    refine hgen.trans (himp.trans ?_)
    refine recordKeys_moves d _ _ a _ _ (fun hl => ?_) (hpubkey hst')
    obtain ⟨h1, h2⟩ := hkey hst hl
    exact ⟨h1, hkeep _ h2⟩

/-! ## The calls -/

def Device.keyState (d : Device κ) : KeyState κ := (d.p11.p11KeyConfig, d.psa)

/-- A code verification key is not created over a volatile one. -/
def CreateKeeps (mbed : Mbed ρ ε κ) (d : Device κ) (pxTemplate : Option (List CkAttribute))
    (a : CreateAns) : Prop :=
  ∀ template plan heap xClass label, pxTemplate = some template →
    createPlan mbed template a = some ⟨.ok plan, heap⟩ →
    plan.pxClass.bind (·.readUlong) = some xClass → plan.pxLabel.bind (·.string) = some label →
    SaveKeeps mbed d.p11.p11KeyConfig xClass label plan.pucData plan.pvContext a.save

theorem create_moves {mbed : Mbed ρ ε κ} {d : Device κ} {xSession : SessionHandle}
    {pxTemplate : Option (List CkAttribute)} {pxObject : Option ObjectHandle} {a : CreateAns}
    {r : CreateResult κ} (h : cCreateObject mbed d xSession pxTemplate pxObject a = some r) :
    Moves (¬CreateKeeps mbed d pxTemplate a) False d.keyState r.post.keyState := by
  unfold cCreateObject at h
  split at h
  swap
  · cases h
    exact .refl
  rename_i template o
  split at h
  · cases h
    exact .refl
  cases hp : createPlan mbed template a with
  | none =>
    simp only [hp] at h
    cases h
  | some prepared =>
    obtain ⟨plan, heap⟩ := prepared
    cases plan with
    | error e =>
      simp only [hp] at h
      cases h
      exact .refl
    | ok plan =>
      simp only [hp] at h
      split at h
      · cases h
      rename_i rv o' d' hsave
      cases h
      unfold saveAndAdd at hsave
      split at hsave
      · cases hsave
      rename_i xClass hclass
      split at hsave
      · cases hsave
      rename_i pal cfg psa hso
      have hm : Moves (¬CreateKeeps mbed d (some template) a) False d.keyState (cfg, psa) := by
        refine (save_moves hso).imp (fun hn hk => hn fun label hl => ?_) id
        exact hk template plan heap xClass label rfl hp hclass hl
      dsimp only at hsave
      split at hsave
      · cases hsave
        exact hm
      · split at hsave
        · cases hsave
        · cases hsave
          exact hm

theorem destroy_moves {d : Device κ} (hs : Slots d.keyState) (xSession : SessionHandle)
    (xObject : ObjectHandle) (a : RemoveAns) (lock : Bool) :
    Moves lost a.Erases d.keyState (cDestroyObject d xSession xObject a lock).2.keyState := by
  unfold cDestroyObject
  split
  · exact .refl
  split
  · rename_i pcLabel _
    have hm : Moves lost a.Erases d.keyState (removeObject d pcLabel true a).2.keyState :=
      (removeObject_moves hs pcLabel true a).imp id And.right
    split
    · rename_i d' hr
      rw [hr] at hm
      exact hm
    · rename_i rv d' _ hr
      rw [hr] at hm
      exact hm
  · exact .refl

theorem finalize_moves {d : Device κ} (hs : Slots d.keyState) (pvReserved : Bool)
    (before : Int → P11Object) (aPrivate aPublic : RemoveAns) :
    Moves lost False d.keyState (cFinalize d pvReserved before aPrivate aPublic).2.keyState := by
  have hclose : ∀ (d : Device κ) (label : List UInt8) (a : RemoveAns), Slots d.keyState →
      Moves lost False d.keyState (removeObject d label false a).2.keyState :=
    fun d label a hs =>
      (removeObject_moves hs label false a).imp id fun h => Bool.false_ne_true h.1
  unfold cFinalize
  split
  · exact .refl
  split
  · have h1 := hclose ⟨{ d.p11 with xObjectList := ⟨fun _ => .zero, before⟩, xIsInitialized := false },
      d.psa⟩ (labelDevicePrivateKeyForTls ++ [0]) aPrivate hs
    dsimp only
    split
    · rename_i d' hr
      rw [hr] at h1
      exact h1.trans (hclose d' _ aPublic (h1.slots hs))
    · rename_i rv d' _ hr
      rw [hr] at h1
      exact h1
  · exact .refl

theorem cInitialize_keyState (d : Device κ) (before : Int → P11Object) (mutex : Bool) :
    (cInitialize d before mutex).2.keyState = d.keyState := by
  unfold cInitialize
  split <;> rfl

/-- The condition on a call: no key is generated under a label that is not its slot's, and no code
verification key is created over a volatile one. -/
def CallKeeps (mbed : Mbed ρ ε κ) (publicKey : κ → List UInt8) (d : Device κ) : TokenCall κ → Prop
  | .cCreateObject _ pxTemplate _ a => CreateKeeps mbed d pxTemplate a
  | .cGenerateKeyPair args a => GenerateKeeps publicKey d args a
  | _ => True

/-- A `psa_destroy_key` of the call fails and the key is gone. -/
def CallErases : TokenCall κ → Prop
  | .cDestroyObject _ _ a _ => a.Erases
  | _ => False

/-- **One call** is a chain of moves. -/
theorem tokenStep_moves {mbed : Mbed ρ ε κ} {publicKey : κ → List UInt8} {d d' : Device κ}
    {c : TokenCall κ} {rv : CkRv} (hs : Slots d.keyState)
    (h : tokenStep mbed publicKey d c = some (d', rv)) :
    Moves (¬CallKeeps mbed publicKey d c) (CallErases c) d.keyState d'.keyState := by
  cases c with
  | cInitialize before mutex =>
    have hd : d' = (cInitialize d before mutex).2 := by cases h; rfl
    rw [hd, cInitialize_keyState]
  | cFinalize pvReserved before aPrivate aPublic =>
    cases h
    exact finalize_moves hs pvReserved before aPrivate aPublic
  | cCreateObject xSession pxTemplate pxObject a =>
    obtain ⟨r, hr, h⟩ := Option.map_eq_some_iff.1 h
    cases h
    exact create_moves hr
  | cGenerateKeyPair args a =>
    obtain ⟨r, hr, h⟩ := Option.map_eq_some_iff.1 h
    cases h
    exact generate_moves hr
  | cFindObjects xSession pxObject max count a =>
    obtain ⟨r, hr, h⟩ := Option.map_eq_some_iff.1 h
    cases h
    exact find_moves d.psa a.openKey rfl hr
  | cDestroyObject xSession xObject a lock =>
    cases h
    exact destroy_moves hs xSession xObject a lock
  | sessions sessions =>
    cases h
    exact .refl

/-! ## Runs -/

theorem Device.Fresh.slots {d : Device κ} (h : d.Fresh) (k : DeviceKey) :
    d.p11.p11KeyConfig.mark k ≠ true := by
  rw [h.keyConfig]
  cases k <;> decide

theorem run_slots {mbed : Mbed ρ ε κ} {publicKey : κ → List UInt8} {d₀ d : Device κ}
    {tr : List (Entry (Device κ) (TokenCall κ) CkRv)} (hfresh : d₀.Fresh)
    (h : Exec (tokenMachine mbed publicKey) d₀ tr d) : Slots d.keyState :=
  Exec.inv (I := fun d => Slots d.keyState)
    (fun _ _ _ _ hs hstep => (tokenStep_moves hs hstep).slots hs) h
    (fun k hk => absurd hk (hfresh.slots k))

/-- **The recorded keys** in a run from a module that has not been used. As long as no call of
`psa_destroy_key` fails with the key gone, every marked handle is that of a key in PSA. As long as
every call meets `CallKeeps`, every key that the module created and that is there is recorded, or can
be opened again under its fixed id. -/
theorem key_marks {mbed : Mbed ρ ε κ} {publicKey : κ → List UInt8} {d₀ d : Device κ}
    {tr : List (Entry (Device κ) (TokenCall κ) CkRv)} (hfresh : d₀.Fresh)
    (h : Exec (tokenMachine mbed publicKey) d₀ tr d) :
    ((∀ e ∈ tr, ¬CallErases e.inp) → MarksLive d.keyState) ∧
    ((∀ e ∈ tr, CallKeeps mbed publicKey e.pre e.inp) → AllReachable d.keyState) := by
  induction h with
  | nil =>
    refine ⟨fun _ k hk => absurd hk (hfresh.slots k), fun _ id hid _ => ?_⟩
    exact absurd ((hfresh.created id).symm.trans hid) Bool.false_ne_true
  | snoc hr hstep ih =>
    have hs := run_slots hfresh hr
    have hm := tokenStep_moves hs hstep
    refine ⟨fun herase => ?_, fun hkeep => ?_⟩
    · have hlast := herase _ (List.mem_append_right _ List.mem_cons_self)
      exact (hm.imp id hlast).marks hs (ih.1 fun e he => herase e (List.mem_append_left _ he))
    · have hlast := hkeep _ (List.mem_append_right _ List.mem_cons_self)
      exact (hm.imp (absurd hlast) id).reachable hs
        (ih.2 fun e he => hkeep e (List.mem_append_left _ he))

/-! ## Two runs -/

/-- A module before its first call, with one open session and empty stores. -/
def freshDevice : Device Unit where
  p11 :=
    { xIsInitialized := false
      xObjectList := ⟨fun _ => .zero, fun _ => .zero⟩
      p11KeyConfig := .zero
      sessions := fun _ =>
        ⟨true, none, 0, pkcs11NoOperation, 0, 0, pkcs11NoOperation, 0⟩ }
  psa := ⟨fun _ => none, fun _ => false, fun _ => none⟩

theorem freshDevice_fresh : freshDevice.Fresh := ⟨rfl, fun _ => rfl⟩

/-- An mbedTLS that takes every key. -/
def unitMbed : Mbed Unit Unit Unit where
  rsaInit := ()
  rsaRead := fun _ _ _ _ => (0, ())
  rsaPadding := fun _ => .pkcsV15
  ecpKeypairInit := ()
  mpiReadBinary := fun _ _ _ => (0, ())
  ecpPointReadBinary := fun _ _ _ => (0, ())
  mpiWriteBinary := fun _ => .ok []
  pkWriteKeyDer := fun _ => .ok []
  pkWritePubkeyDer := fun _ => .ok []
  getPublicKeyECPoint := fun _ => .ok []
  importKeyPair := fun _ _ => ()

/-- A public key of 65 bytes. -/
def unitPublicKey : Unit → List UInt8 := fun _ => List.replicate pkcs11KeyEcpointLength 4

/-- The arguments of `C_GenerateKeyPair` for two labels. -/
def keyPairArgs (prv pub : List UInt8) : KeyPairArgs where
  xSession := some 0
  pxMechanism := some ckmEcKeyPairGen
  pxPublicKeyTemplate := some
    [⟨.ckaLabel, some (pub ++ [0]), pub.length⟩,
     ⟨.ckaEcParams, some pkcs11DerEncodedOidP256, pkcs11DerEncodedOidP256.length⟩,
     ⟨.ckaVerify, some [ckTrue], 1⟩]
  pxPrivateKeyTemplate := some
    [⟨.ckaLabel, some (prv ++ [0]), prv.length⟩, ⟨.ckaPrivate, some [ckTrue], 1⟩,
     ⟨.ckaSign, some [ckTrue], 1⟩]
  pxPublicKey := some 0
  pxPrivateKey := some 0

/-- Nothing fails. -/
def keyPairAns : KeyPairAns Unit where
  malloc := true
  key := ()
  generateKey := ⟨none, 0x40000000, by decide⟩
  exportPublicKey := none
  importKey := ⟨none, 0x40000001, by decide⟩
  lockPrivate := true
  lockPublic := true

/-- `C_Initialize`, then `C_GenerateKeyPair`. -/
def generateCalls (prv pub : List UInt8) : List (TokenCall Unit) :=
  [.cInitialize (fun _ => .zero) true, .cGenerateKeyPair (keyPairArgs prv pub) keyPairAns]

/-- The labels of such a call are those it is given. -/
theorem checkKeyPair_tls {s : State} {labels : KeyPairLabels}
    (h : checkKeyPair s (keyPairArgs labelDevicePrivateKeyForTls labelDevicePublicKeyForTls) true =
      some (.ok labels)) :
    labels.privateLabel.string = some labelDevicePrivateKeyForTls ∧
      labels.publicLabel.string = some labelDevicePublicKeyForTls := by
  unfold checkKeyPair at h
  rw [if_pos rfl] at h
  split at h
  · cases h
  · obtain rfl := Except.ok.inj (Option.some.inj h)
    decide +kernel

/-- The pair of keys for TLS is generated: both marks are of keys in PSA, and both keys are recorded. -/
theorem key_marks_generated : ∃ tr d,
    exec? (tokenMachine unitMbed unitPublicKey) freshDevice
      (generateCalls labelDevicePrivateKeyForTls labelDevicePublicKeyForTls) = some (tr, d) ∧
    MarksLive d.keyState ∧ AllReachable d.keyState := by
  have hrun : (exec? (tokenMachine unitMbed unitPublicKey) freshDevice
      (generateCalls labelDevicePrivateKeyForTls labelDevicePublicKeyForTls)).isSome = true := by
    decide +kernel
  obtain ⟨⟨tr, d⟩, hr⟩ := Option.isSome_iff_exists.1 hrun
  have hcalls : ∀ e ∈ tr, e.inp = .cInitialize (fun _ => .zero) true ∨
      e.inp = .cGenerateKeyPair (keyPairArgs labelDevicePrivateKeyForTls labelDevicePublicKeyForTls) keyPairAns := by
    intro e he
    have hmem : e.inp ∈ tr.map (·.inp) := List.mem_map_of_mem he
    rw [exec?_inp hr, generateCalls, List.mem_cons, List.mem_singleton] at hmem
    exact hmem
  obtain ⟨hmarks, hreach⟩ := key_marks freshDevice_fresh (exec?_exec hr)
  refine ⟨tr, d, hr, hmarks fun e he => ?_, hreach fun e he => ?_⟩
  · rcases hcalls e he with hinp | hinp
    · rw [hinp]
      exact id
    · rw [hinp]
      exact id
  · rcases hcalls e he with hinp | hinp
    · rw [hinp]
      exact trivial
    · rw [hinp]
      intro labels prv hlabels hprv
      obtain ⟨hprivate, hpublic⟩ := checkKeyPair_tls hlabels
      refine ⟨fun _ => Option.some.inj (hprv.symm.trans hprivate), fun pub hpub _ _ => ?_⟩
      exact Option.some.inj (hpub.symm.trans hpublic)

/-- A private label that the module has no slot for: the key is generated, and no handle of it is
left. -/
theorem generate_loses_key : freshDevice.Fresh ∧ ∃ tr d,
    Exec (tokenMachine unitMbed unitPublicKey) freshDevice tr d ∧ ¬AllReachable d.keyState := by
  have hrun : (exec? (tokenMachine unitMbed unitPublicKey) freshDevice
      (generateCalls (ascii "my_key") labelDevicePublicKeyForTls)).map
        (fun r => (r.2.psa.created 0x40000000, (r.2.psa.keys 0x40000000).isSome,
          r.2.p11.p11KeyConfig)) = some (true, true, .zero) := by
    decide +kernel
  obtain ⟨⟨tr, d⟩, hr, hd⟩ := Option.map_eq_some_iff.1 hrun
  simp only [Prod.mk.injEq] at hd
  obtain ⟨hcreated, hkeys, hcfg⟩ := hd
  refine ⟨freshDevice_fresh, tr, d, exec?_exec hr, fun hreach => ?_⟩
  have hne : d.psa.keys 0x40000000 ≠ none := Option.isSome_iff_ne_none.1 hkeys
  rcases hreach _ hcreated hne with ⟨k, hm, -⟩ | ⟨k, hk, -⟩
  · have hm : P11KeyConfig.zero.mark k = true := hcfg ▸ hm
    exact Bool.false_ne_true (by cases k <;> exact hm)
  · revert hk
    cases k <;> decide

end Pkcs11
