import TrustZone.Pkcs11.Find

/-!
# The label that a search is started with

`C_FindObjectsInit` allocates the length of the first attribute plus one and copies every label of the
template there.

* `cFindObjectsInit_refused`, `cFindObjectsInit_copies`: the call ends before it copies, or does what
  `copyLabels` says.
* `copyLabels_one`, `copyLabels_two`: the copies of the templates that are taken.
* `search_init_law_iff`: when the buffer holds the label and its NUL, and an error changes nothing.
-/

namespace Pkcs11

open Lib Psa

variable {env : FindEnv} {s : State} {xSession : SessionHandle} {h : Nat} {a b : Attribute}

/-! ## The call -/

/-- The call gets as far as the copies. -/
structure StartsSearch (env : FindEnv) (s : State) (xSession : SessionHandle) (h : Nat) : Prop where
  session : sessionCheck s xSession = .ok h
  idle : (s.sessions h).pxFindObjectLabel = none
  malloc : env.malloc = true

/-- The session with a buffer for its search. -/
def State.search (s : State) (h : Nat) (buf : List UInt8) : State :=
  s.setSession h { s.sessions h with pxFindObjectLabel := some buf }

theorem cFindObjectsInit_copies (hstart : StartsSearch env s xSession h) {as : List Attribute}
    (hlen : as.length = 0 ∨ as.length = 1) :
    cFindObjectsInit env s xSession (some (a :: as)) =
      (copyLabels (a :: as) (List.replicate (a.value.length + 1) 0) .templateIncomplete).map
        fun (rv, buf) => (rv, if rv = .ok then s.search h buf else s) := by
  have hcount : ¬(as.length ≠ 0 ∧ as.length ≠ 1) := by omega
  unfold cFindObjectsInit
  simp only [if_neg hcount, hstart.session, hstart.idle, hstart.malloc, ne_eq, not_true_eq_false,
    if_false, if_true]
  cases copyLabels (a :: as) (List.replicate (a.value.length + 1) 0) .templateIncomplete with
  | none => rfl
  | some r =>
    obtain ⟨rv, buf⟩ := r
    cases rv <;> rfl

/-- A call that does not get so far is an error, and changes nothing. -/
theorem cFindObjectsInit_refused (template : List Attribute)
    (hno : ∀ h, StartsSearch env s xSession h → template.length ≠ 1 ∧ template.length ≠ 2) :
    ∃ e, cFindObjectsInit env s xSession (some template) = some (e, s) ∧ e ≠ .ok := by
  unfold cFindObjectsInit
  cases template with
  | nil => exact ⟨_, rfl, by decide⟩
  | cons a as =>
    by_cases hcount : as.length ≠ 0 ∧ as.length ≠ 1
    · simp only [if_pos hcount]
      exact ⟨_, rfl, by decide⟩
    · simp only [if_neg hcount]
      cases hs : sessionCheck s xSession with
      | error e => exact ⟨e, rfl, sessionCheck_error_ne hs⟩
      | ok h =>
        simp only
        split_ifs with hidle hmalloc
        · exact ⟨_, rfl, by decide⟩
        · have hlen := hno h ⟨hs, Decidable.not_not.1 hidle, hmalloc⟩
          simp only [List.length_cons] at hlen
          omega
        · exact ⟨_, rfl, by decide⟩

/-! ## The copies -/

theorem copyLabels_one (a : Attribute) :
    copyLabels [a] (List.replicate (a.value.length + 1) 0) .templateIncomplete =
      if a.isLabel then some (.ok, a.value ++ [0])
      else some (.templateIncomplete, List.replicate (a.value.length + 1) 0) := by
  have hblit : blit (List.replicate (a.value.length + 1) 0) 0 a.value = a.value ++ [0] := by
    rw [blit_zero, List.drop_replicate, Nat.add_sub_cancel_left]
    rfl
  cases ha : a.isLabel with
  | true => simp [copyLabels, ha, hblit]
  | false => simp [copyLabels, ha]

/-- What the second of two attributes finds in the buffer. -/
def firstCopy (a : Attribute) : CkRv × List UInt8 :=
  if a.isLabel then (.ok, a.value ++ [0])
  else (.templateIncomplete, List.replicate (a.value.length + 1) 0)

theorem firstCopy_length (a : Attribute) : (firstCopy a).2.length = a.value.length + 1 := by
  unfold firstCopy
  split <;> simp

theorem copyLabels_two (a b : Attribute) :
    copyLabels [a, b] (List.replicate (a.value.length + 1) 0) .templateIncomplete =
      if b.isLabel then
        if b.value.length ≤ a.value.length + 1 then some (.ok, blit (firstCopy a).2 0 b.value) else none
      else some (firstCopy a) := by
  have hcons : copyLabels [a, b] (List.replicate (a.value.length + 1) 0) .templateIncomplete =
      copyLabels [b] (firstCopy a).2 (firstCopy a).1 := by
    have hblit : blit (List.replicate (a.value.length + 1) 0) 0 a.value = a.value ++ [0] := by
      rw [blit_zero, List.drop_replicate, Nat.add_sub_cancel_left]
      rfl
    rw [copyLabels]
    unfold firstCopy
    split_ifs with ha hlen
    · rw [hblit]
    · simp at hlen
    · rfl
  rw [hcons]
  simp only [copyLabels, firstCopy_length]

/-! ## The law -/

/-- The label of a template: the last one, which is copied over those before it. -/
def lastLabel (template : List Attribute) : Option (List UInt8) :=
  (template.filter (·.isLabel)).getLast?.map (·.value)

/-- What is asked of `C_FindObjectsInit`: it stays inside its buffer; an error changes nothing; a success
leaves the label and its NUL at the start of the buffer, and `C_FindObjects` then searches for it. -/
def SearchInitLaw (env : FindEnv) (s : State) (xSession : SessionHandle)
    (template : List Attribute) : Prop :=
  ∃ rv s', cFindObjectsInit env s xSession (some template) = some (rv, s') ∧
    (rv ≠ .ok → s' = s) ∧
    (rv = .ok → ∃ h label buf, xSession = some h ∧ lastLabel template = some label ∧
      s' = s.search h buf ∧ label ++ [0] <+: buf ∧
      ∀ env' pxObject ulMaxObjectCount count, ulMaxObjectCount ≠ 0 →
        cFindObjects env' s' xSession pxObject ulMaxObjectCount count =
          some (findByLabel env' s' .ok (cstr label) count))

/-- A label behind another attribute is no longer than that, and where that is a label too, it ends where
the second one does. -/
def LabelsFit : List Attribute → Prop
  | [a, b] => b.isLabel = true → b.value.length ≤ a.value.length ∧
      (a.isLabel = true → (a.value ++ [0])[b.value.length]? = some 0)
  | _ => True

theorem cFindObjects_searching (hstart : StartsSearch env s xSession h) {label buf : List UInt8}
    (hbuf : label ++ [0] <+: buf) (env' : FindEnv) (pxObject : ObjectHandle)
    {ulMaxObjectCount : Nat} (count : Nat) (hmax : ulMaxObjectCount ≠ 0) :
    cFindObjects env' (s.search h buf) xSession pxObject ulMaxObjectCount count =
      some (findByLabel env' (s.search h buf) .ok (cstr label) count) := by
  obtain ⟨rest, rfl⟩ := hbuf
  obtain ⟨rfl, hinit, hopened⟩ := sessionCheck_ok hstart.session
  have hcheck : ∀ buf, sessionCheck (s.search h buf) (some h) = .ok h := by
    intro buf
    simp [sessionCheck, State.search, State.setSession, hinit, hopened]
  have hcstr : cstr (label ++ [0] ++ rest) = cstr label := by
    rw [List.append_assoc]
    exact cstr_append_nul label rest
  unfold cFindObjects
  rw [hcheck]
  simp only [State.search, State.setSession, Function.update_self, if_neg hmax, hcstr]

/-- The label and its NUL are at the start of the buffer when the buffer has the NUL there. -/
theorem prefix_blit_iff (buf label : List UInt8) :
    label ++ [0] <+: blit buf 0 label ↔ buf[label.length]? = some 0 := by
  rw [blit_zero, List.prefix_append_right_inj]
  have hdrop : (buf.drop label.length)[0]? = buf[label.length]? := by simp
  rw [← hdrop]
  cases buf.drop label.length with
  | nil => simp
  | cons x rest => simp [List.cons_prefix_cons, eq_comm]

theorem searchInitLaw_iff (hstart : StartsSearch env s xSession h) {as : List Attribute}
    (hlen : as.length = 0 ∨ as.length = 1) :
    SearchInitLaw env s xSession (a :: as) ↔
      ∃ rv buf, copyLabels (a :: as) (List.replicate (a.value.length + 1) 0) .templateIncomplete =
          some (rv, buf) ∧
        (rv = .ok → ∃ label, lastLabel (a :: as) = some label ∧ label ++ [0] <+: buf) := by
  have hcall := cFindObjectsInit_copies hstart (a := a) hlen
  have hsession : xSession = some h := (sessionCheck_ok hstart.session).1
  constructor
  · rintro ⟨rv, s', hinit, -, hok⟩
    rw [hcall, Option.map_eq_some_iff] at hinit
    obtain ⟨⟨rv, buf⟩, hcopies, hpost⟩ := hinit
    obtain ⟨rfl, rfl⟩ := Prod.mk.inj hpost
    refine ⟨rv, buf, hcopies, ?_⟩
    rintro rfl
    obtain ⟨h', label, buf', hs, hlabel, hpost, hbuf, -⟩ := hok rfl
    obtain rfl : h = h' := Option.some.inj (hsession.symm.trans hs)
    have hsame : some buf = some buf' := by
      have := congrArg (fun s => (s.sessions h).pxFindObjectLabel) hpost
      simpa [State.search, State.setSession] using this
    exact ⟨label, hlabel, Option.some.inj hsame ▸ hbuf⟩
  · rintro ⟨rv, buf, hcopies, hok⟩
    rw [hcopies] at hcall
    refine ⟨rv, _, hcall, fun hne => if_neg hne, ?_⟩
    rintro rfl
    obtain ⟨label, hlabel, hbuf⟩ := hok rfl
    exact ⟨h, label, buf, hsession, hlabel, rfl, hbuf, fun env' pxObject _ count hmax =>
      cFindObjects_searching hstart hbuf env' pxObject count hmax⟩

theorem lastLabel_two (a : Attribute) (hb : b.isLabel = true) : lastLabel [a, b] = some b.value := by
  cases ha : a.isLabel <;> simp [lastLabel, ha, hb]

/-- The second label fits when the buffer has its NUL where the label ends. -/
theorem labelsFit_two (hb : b.isLabel = true) :
    LabelsFit [a, b] ↔ (firstCopy a).2[b.value.length]? = some 0 := by
  have hle : ∀ {x : UInt8}, (firstCopy a).2[b.value.length]? = some x →
      b.value.length ≤ a.value.length := by
    intro x hx
    have hlt := (List.getElem?_eq_some_iff.1 hx).1
    rw [firstCopy_length] at hlt
    exact Nat.lt_succ_iff.1 hlt
  unfold firstCopy at hle ⊢
  cases ha : a.isLabel with
  | true =>
    simp only [ha, if_true] at hle ⊢
    exact ⟨fun hfit => (hfit hb).2 ha, fun hnul _ => ⟨hle hnul, fun _ => hnul⟩⟩
  | false =>
    simp only [ha, Bool.false_eq_true, if_false] at hle ⊢
    constructor
    · intro hfit
      have hlen := (hfit hb).1
      simp only [List.getElem?_replicate]
      exact if_pos (by omega)
    · exact fun hnul _ => ⟨hle hnul, fun hlabel => absurd (ha.symm.trans hlabel) (by decide)⟩

/-- **When a search starts with the label of its template**: when the call ends before it copies, or the
labels fit. -/
theorem search_init_law_iff (env : FindEnv) (s : State) (xSession : SessionHandle)
    (template : List Attribute) :
    SearchInitLaw env s xSession template ↔
      ∀ h, StartsSearch env s xSession h → LabelsFit template := by
  by_cases hgo : ∃ h, StartsSearch env s xSession h ∧ (template.length = 1 ∨ template.length = 2)
  · obtain ⟨h, hstart, hlen⟩ := hgo
    have hfit : (∀ h, StartsSearch env s xSession h → LabelsFit template) ↔ LabelsFit template :=
      ⟨fun hall => hall h hstart, fun hfit _ _ => hfit⟩
    rw [hfit]
    match template with
    | [] => simp at hlen
    | [a] =>
      rw [searchInitLaw_iff hstart (.inl rfl), copyLabels_one]
      refine iff_of_true ?_ trivial
      cases ha : a.isLabel with
      | true => exact ⟨_, _, rfl, fun _ => ⟨a.value, by simp [lastLabel, ha], List.prefix_rfl⟩⟩
      | false => exact ⟨_, _, rfl, nofun⟩
    | [a, b] =>
      rw [searchInitLaw_iff hstart (.inr rfl), copyLabels_two]
      cases hb : b.isLabel with
      | true =>
        rw [labelsFit_two hb, ← prefix_blit_iff, if_pos rfl]
        constructor
        · rintro ⟨rv, buf, hcopies, hok⟩
          split_ifs at hcopies
          obtain ⟨rfl, rfl⟩ := Prod.mk.inj (Option.some.inj hcopies)
          obtain ⟨label, hlabel, hbuf⟩ := hok rfl
          rw [lastLabel_two a hb] at hlabel
          exact Option.some.inj hlabel ▸ hbuf
        · intro hbuf
          have hle : b.value.length ≤ a.value.length + 1 := by
            have hlt := (List.getElem?_eq_some_iff.1 ((prefix_blit_iff _ _).1 hbuf)).1
            rw [firstCopy_length] at hlt
            exact Nat.le_of_lt hlt
          rw [if_pos hle]
          exact ⟨_, _, rfl, fun _ => ⟨b.value, lastLabel_two a hb, hbuf⟩⟩
      | false =>
        refine iff_of_true ?_ fun hlabel => absurd (hb.symm.trans hlabel) (by decide)
        unfold firstCopy
        cases ha : a.isLabel with
        | true =>
          exact ⟨_, _, rfl, fun _ => ⟨a.value, by simp [lastLabel, ha, hb], List.prefix_rfl⟩⟩
        | false => exact ⟨_, _, rfl, nofun⟩
    | _ :: _ :: _ :: _ => simp at hlen
  · have hno : ∀ h, StartsSearch env s xSession h → template.length ≠ 1 ∧ template.length ≠ 2 :=
      fun h hstart => not_or.1 fun hlen => hgo ⟨h, hstart, hlen⟩
    refine iff_of_true ?_ fun h hstart => ?_
    · obtain ⟨e, hcall, he⟩ := cFindObjectsInit_refused template hno
      exact ⟨e, s, hcall, fun _ => rfl, fun hok => absurd hok he⟩
    · have hne := (hno h hstart).2
      match template with
      | [] => trivial
      | [_] => trivial
      | [_, _] => exact absurd rfl hne
      | _ :: _ :: _ :: _ => trivial

/-- An initialised module with an open session. -/
def idleState : State where
  xIsInitialized := true
  xObjectList := ⟨fun _ => .zero, fun _ => .zero⟩
  p11KeyConfig := ⟨0, 0, 0, false, false, false, false, false, false⟩
  sessions _ := ⟨true, none, 0, pkcs11NoOperation, 0, 0, pkcs11NoOperation, 0⟩

/-- PSA without objects, and memory. -/
def emptyPsa : FindEnv where
  openKey _ := (psaErrorDoesNotExist, 0)
  psGetInfo _ := psaErrorDoesNotExist
  malloc := true
  lock := true

/-- **A class of four bytes, then a label of six**: the label is copied into five bytes. And a label that
is shorter than the one before it is not what is searched for. -/
theorem search_init_overrun :
    ¬SearchInitLaw emptyPsa idleState (some 0)
        [⟨false, [2, 0, 0, 0]⟩, ⟨true, [116, 108, 115, 95, 107, 101]⟩] ∧
      ¬SearchInitLaw emptyPsa idleState (some 0) [⟨true, [116, 108, 115]⟩, ⟨true, [116]⟩] := by
  constructor
  · rintro ⟨rv, s', hinit, -⟩
    cases hinit
  · rintro ⟨rv, s', hinit, -, hok⟩
    obtain ⟨rfl, rfl⟩ := Prod.mk.inj (Option.some.inj hinit)
    obtain ⟨h, label, buf, hs, hlabel, hpost, hbuf, -⟩ := hok rfl
    obtain rfl : 0 = h := Option.some.inj hs
    obtain rfl : [116] = label := Option.some.inj hlabel
    have hsame : some [116, 108, 115, 0] = some buf :=
      congrArg (fun s : State => (s.sessions 0).pxFindObjectLabel) hpost
    obtain rfl := Option.some.inj hsame
    exact absurd hbuf (by decide)

end Pkcs11
