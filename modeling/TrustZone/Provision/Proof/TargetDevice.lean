import TrustZone.Provision.TargetDevice

/-!
# The staged configuration

The script should keep one configuration: what was read, with the values that were set since (`Call.wanted`).

* `Inv`: the staged configuration over the running one is that configuration.
* `runLaw_iff`: **the script** does what it should exactly when no key is set back to its running value while
  another one is staged, and nothing is listed or committed before something is staged.
-/

namespace Provision

/-! ## Texts -/

/-- What `bytes(s, "ascii")` takes. -/
def IsAscii (s : String) : Prop := ∀ c ∈ s.toList, c.toNat < 128

theorem utf8_inj {s s' : String} : utf8 s = utf8 s' ↔ s = s' := by
  constructor
  · intro h
    apply String.toByteArray_inj.1
    exact ByteArray.ext (Array.toList_inj.1 h)
  · rintro rfl
    rfl

theorem decodeUtf8_ok {b : List UInt8} {s : String} : decodeUtf8 b = .ok s ↔ utf8 s = b := by
  unfold decodeUtf8 String.fromUTF8?
  constructor
  · intro h
    split at h
    next s' hs =>
      cases h
      split at hs
      next hvalid =>
        cases hs
        rfl
      next => cases hs
    next => cases h
  · rintro rfl
    have hbytes : (⟨(utf8 s).toArray⟩ : ByteArray) = s.toByteArray := rfl
    have hvalid : (⟨(utf8 s).toArray⟩ : ByteArray).IsValidUTF8 := hbytes ▸ s.isValidUTF8
    rw [dif_pos hvalid]
    rfl

theorem encodeAscii_ok {s : String} {b : List UInt8} : encodeAscii s = .ok b ↔ IsAscii s ∧ utf8 s = b := by
  unfold encodeAscii
  split
  next h =>
    have hascii : IsAscii s := h
    simp [hascii]
  next h =>
    have hascii : ¬IsAscii s := h
    simp [hascii]

/-! ## What the script should do -/

/-- One configuration: the value of each key. -/
abbrev Wanted := List UInt8 → Option (List UInt8)

/-- The configuration after a call: a value is what was last set. -/
def Call.wanted (want : Wanted) : Call → Wanted
  | .confSet key value => Function.update want (utf8 key) (some (utf8 value))
  | .confGet _ | .confGetAll | .confCommit => want

/-- Every key can be read. -/
def StateLaw (t : TargetDevice) (want : Wanted) : Prop :=
  ∀ key, IsAscii key → ∃ r, t.confGet key = .ok r ∧ r.map utf8 = want (utf8 key)

/-- What a call returns, and what it leaves: a commit leaves the configuration in the storage of the target, and
is nothing when nothing is staged. -/
def CallLaw (t t' : TargetDevice) (want : Wanted) : Call → Ret → Prop
  | .confSet _ _, .none => True
  | .confGet key, .value r => r.map utf8 = want (utf8 key)
  | .confGetAll, .all cfg => ∀ key, (cfg.lookup key).map utf8 = want (utf8 key)
  | .confCommit, .none => (∀ key, t'.target.committed key = want key) ∧ (t.stagedConfig = ∅ → t' = t)
  | _, _ => False

/-- **What the script should do** over a run: no call raises, each returns what it should, and every key can be read
in every state. -/
def RunLaw : TargetDevice → Wanted → List Call → Prop
  | t, want, [] => StateLaw t want
  | t, want, c :: calls => StateLaw t want ∧ ∃ ret t', t.call c = .ok (ret, t') ∧
      CallLaw t t' (c.wanted want) c ret ∧ RunLaw t' (c.wanted want) calls

/-- When a call does it. -/
def CallFine (t : TargetDevice) : Call → Prop
  | .confSet key value => IsAscii key ∧ IsAscii value ∧
      ¬(t.runningConfig.lookup (utf8 key) = some (utf8 value) ∧ utf8 key ∈ t.stagedConfig)
  | .confGet key => IsAscii key
  | .confGetAll | .confCommit => t.stagedConfig ≠ ∅

/-- Every call of the run is one. -/
def RunFine : TargetDevice → List Call → Prop
  | _, [] => True
  | t, c :: calls => CallFine t c ∧ ∀ ret t', t.call c = .ok (ret, t') → RunFine t' calls

/-- A configuration that was read: not empty, under names in ASCII. -/
structure RunningConfig where
  dict : Dict
  nonempty : dict ≠ ∅
  names : ∀ key ∈ dict, ∃ s, IsAscii s ∧ utf8 s = key

/-- Its values are texts. -/
def RunningConfig.Decodes (conf : RunningConfig) : Prop :=
  ∀ key value, conf.dict.lookup key = some value → ∃ s, utf8 s = value

/-! ## The calls -/

variable {conf : RunningConfig} {t t' : TargetDevice} {want : Wanted} {key value : String}

/-- The staged configuration over the running one. -/
def TargetDevice.merged (t : TargetDevice) : Wanted :=
  fun key => (t.stagedConfig.lookup key).or (t.runningConfig.lookup key)

theorem encodeAscii_of (h : IsAscii key) : encodeAscii key = .ok (utf8 key) :=
  encodeAscii_ok.2 ⟨h, rfl⟩

theorem encodeAscii_raises (h : ¬IsAscii key) : ∃ e, encodeAscii key = .error e :=
  ⟨_, if_neg h⟩

theorem confSet_eq (hrunning : t.runningConfig ≠ ∅) (hkey : IsAscii key) (hvalue : IsAscii value) :
    t.confSet key value = .ok (if t.runningConfig.lookup (utf8 key) = some (utf8 value) then t
      else { t with stagedConfig := t.stagedConfig.insert (utf8 key) (utf8 value) }) := by
  unfold TargetDevice.confSet assertion
  rw [if_pos hrunning, encodeAscii_of hkey, encodeAscii_of hvalue]
  by_cases hsame : t.runningConfig.lookup (utf8 key) = some (utf8 value)
  · rw [if_pos hsame]
    exact if_neg (not_not.2 hsame)
  · rw [if_neg hsame]
    exact if_pos hsame

theorem confSet_ascii (h : t.confSet key value = .ok t') : IsAscii key ∧ IsAscii value := by
  unfold TargetDevice.confSet assertion at h
  split at h
  next =>
    by_cases hkey : IsAscii key
    · by_cases hvalue : IsAscii value
      · exact ⟨hkey, hvalue⟩
      · obtain ⟨e, he⟩ := encodeAscii_raises hvalue
        rw [encodeAscii_of hkey, he] at h
        cases h
    · obtain ⟨e, he⟩ := encodeAscii_raises hkey
      rw [he] at h
      cases h
  next => cases h

theorem confGet_ascii {r : Option String} (h : t.confGet key = .ok r) : IsAscii key := by
  by_contra hkey
  obtain ⟨e, he⟩ := encodeAscii_raises hkey
  rw [TargetDevice.confGet, he] at h
  cases h

/-- What is read is the staged value over the running one, if it is a text. -/
theorem confGet_eq (hrunning : t.runningConfig ≠ ∅) (hkey : IsAscii key) :
    t.confGet key = match t.merged (utf8 key) with
      | some value => (decodeUtf8 value).map some
      | none => .ok none := by
  unfold TargetDevice.confGet TargetDevice.merged
  rw [encodeAscii_of hkey]
  cases hstaged : t.stagedConfig.lookup (utf8 key) with
  | some value =>
    simp only [bind, Except.bind, hstaged, Option.some_or]
    cases decodeUtf8 value <;> rfl
  | none =>
    simp only [bind, Except.bind, hstaged, Option.none_or, hrunning, if_false]
    cases t.runningConfig.lookup (utf8 key) with
    | none => rfl
    | some value => cases decodeUtf8 value <;> rfl

theorem confGet_text (hrunning : t.runningConfig ≠ ∅) (hkey : IsAscii key)
    (htext : ∀ value, t.merged (utf8 key) = some value → ∃ s, utf8 s = value) :
    ∃ r, t.confGet key = .ok r ∧ r.map utf8 = t.merged (utf8 key) := by
  rw [confGet_eq hrunning hkey]
  cases hmerged : t.merged (utf8 key) with
  | none => exact ⟨none, rfl, rfl⟩
  | some value =>
    obtain ⟨s, hs⟩ := htext value hmerged
    refine ⟨some s, ?_, by rw [Option.map_some, hs]⟩
    simp only [decodeUtf8_ok.2 hs, Except.map]

theorem confGetKey_eq {cfg : AList fun _ : String => String} {k : List UInt8} {s v : String} (hk : utf8 s = k)
    (hv : t.merged k = some (utf8 v)) : t.confGetKey cfg k = .ok (cfg.insert s v) := by
  have hkey : decodeUtf8 k = .ok s := decodeUtf8_ok.2 hk
  have hvalue : decodeUtf8 (utf8 v) = .ok v := decodeUtf8_ok.2 rfl
  unfold TargetDevice.confGetKey
  unfold TargetDevice.merged at hv
  cases hstaged : t.stagedConfig.lookup k with
  | some value =>
    rw [hstaged, Option.some_or] at hv
    cases hv
    simp only [hkey, hvalue, bind, Except.bind, pure, Except.pure]
  | none =>
    rw [hstaged, Option.none_or] at hv
    simp only [hv, hkey, hvalue, bind, Except.bind, pure, Except.pure]

/-- The loop of `conf_get_all`, when every key and every value is a text. -/
theorem confGetAll_fold {keys : List (List UInt8)}
    (hkeys : ∀ k ∈ keys, ∃ s v, utf8 s = k ∧ t.merged k = some (utf8 v)) (cfg : AList fun _ : String => String) :
    ∃ cfg', keys.foldlM t.confGetKey cfg = .ok cfg' ∧ ∀ s, (cfg'.lookup s).map utf8 =
      if utf8 s ∈ keys then t.merged (utf8 s) else (cfg.lookup s).map utf8 := by
  induction keys generalizing cfg with
  | nil => exact ⟨cfg, rfl, fun s => by simp⟩
  | cons k keys ih =>
    obtain ⟨s, v, hs, hv⟩ := hkeys k List.mem_cons_self
    obtain ⟨cfg', hrun, hcfg'⟩ := ih (fun k hk => hkeys k (List.mem_cons_of_mem _ hk)) (cfg.insert s v)
    refine ⟨cfg', ?_, ?_⟩
    · rw [List.foldlM_cons, confGetKey_eq hs hv]
      exact hrun
    · intro s'
      rw [hcfg' s']
      by_cases hmem : utf8 s' ∈ keys
      · simp [hmem]
      · by_cases hss : s' = s
        · subst hss
          rw [AList.lookup_insert, ← hs, if_neg hmem, if_pos List.mem_cons_self, hs, hv]
          rfl
        · have hne : utf8 s' ≠ k := fun he => hss (utf8_inj.1 (he.trans hs.symm))
          rw [AList.lookup_insert_ne hss]
          simp [hmem, hne]

@[simp] theorem confSet_value_self (d : Target) (k v : List UInt8) : (d.confSet k v).value k = some v :=
  Function.update_self ..

theorem confSet_value_ne {d : Target} {k k' v : List UInt8} (h : k' ≠ k) : (d.confSet k v).value k' = d.value k' :=
  Function.update_of_ne h _ _

/-- The loop of `conf_commit`, when every value that is staged differs from the one in use. -/
theorem commit_fold {es : List (Sigma fun _ : List UInt8 => List UInt8)} (hnodup : es.NodupKeys)
    (hes : ∀ e ∈ es, t.runningConfig.lookup e.1 ≠ some e.2) (d : Target) (k : List UInt8) :
    (es.foldl (fun d e => t.commitKey d e.1 e.2) d).value k = (es.dlookup k).or (d.value k) := by
  induction es generalizing d with
  | nil => rfl
  | cons e es ih =>
    obtain ⟨hfresh, hnodup⟩ := List.nodupKeys_cons.1 hnodup
    have hsent : t.commitKey d e.1 e.2 = d.confSet e.1 e.2 := by
      have hne := hes e List.mem_cons_self
      unfold TargetDevice.commitKey
      split
      next running hrunning =>
        apply if_pos
        rintro rfl
        exact hne hrunning
      next => rfl
    rw [List.foldl_cons, ih hnodup (fun e' he' => hes e' (List.mem_cons_of_mem _ he')), hsent]
    by_cases hk : k = e.1
    · subst hk
      have hnone : es.dlookup e.1 = none := List.dlookup_eq_none.2 hfresh
      rw [hnone, List.dlookup_cons_eq, confSet_value_self]
      rfl
    · rw [List.dlookup_cons_ne _ _ hk, confSet_value_ne hk]

theorem confGetAll_unstaged (hrunning : t.runningConfig ≠ ∅) (h : t.stagedConfig = ∅) :
    t.confGetAll = .error .assertionError := by
  simp only [TargetDevice.confGetAll, assertion, hrunning, h, ne_eq, not_true_eq_false, not_false_eq_true, if_true,
    if_false]
  rfl

theorem confCommit_unstaged (hrunning : t.runningConfig ≠ ∅) (h : t.stagedConfig = ∅) :
    t.confCommit = .error .assertionError := by
  simp only [TargetDevice.confCommit, assertion, hrunning, h, ne_eq, not_true_eq_false, not_false_eq_true, if_true,
    if_false]
  rfl

/-! ## A run -/

/-- The staged configuration over the running one is the configuration there should be. -/
structure Inv (conf : RunningConfig) (t : TargetDevice) (want : Wanted) : Prop where
  running : t.runningConfig = conf.dict
  wanted : want = t.merged
  other : ∀ key value, t.stagedConfig.lookup key = some value → conf.dict.lookup key ≠ some value
  text : ∀ key value, t.stagedConfig.lookup key = some value → (∃ s, IsAscii s ∧ utf8 s = key) ∧ ∃ s, utf8 s = value
  target : ∀ key, key ∉ t.stagedConfig → t.target.value key = conf.dict.lookup key

theorem Inv.init (conf : RunningConfig) : Inv conf (.init conf.dict) fun key => conf.dict.lookup key := by
  refine ⟨rfl, ?_, ?_, ?_, fun _ _ => rfl⟩
  · funext key
    simp [TargetDevice.merged, TargetDevice.init]
  · intro key value h
    simp [TargetDevice.init] at h
  · intro key value h
    simp [TargetDevice.init] at h

theorem Inv.nonempty (h : Inv conf t want) : t.runningConfig ≠ ∅ := by
  rw [h.running]
  exact conf.nonempty

theorem Inv.merged_text (h : Inv conf t want) (hconf : conf.Decodes) {key value : List UInt8}
    (hvalue : t.merged key = some value) : ∃ s, utf8 s = value := by
  unfold TargetDevice.merged at hvalue
  rcases Option.or_eq_some_iff.1 hvalue with hstaged | ⟨-, hrunning⟩
  · exact (h.text key value hstaged).2
  · rw [h.running] at hrunning
    exact hconf key value hrunning

theorem Inv.state (h : Inv conf t want) (hconf : conf.Decodes) : StateLaw t want := by
  intro key hkey
  rw [h.wanted]
  exact confGet_text h.nonempty hkey fun value hvalue => h.merged_text hconf hvalue

/-- At the start, reading every key is reading every value. -/
theorem decodes_of_state (h : StateLaw (.init conf.dict) fun key => conf.dict.lookup key) : conf.Decodes := by
  intro key value hvalue
  obtain ⟨s, hs, rfl⟩ := conf.names key (AList.lookup_isSome.1 (by rw [hvalue]; rfl))
  obtain ⟨r, -, hr⟩ := h s hs
  simp only [hvalue] at hr
  obtain ⟨s', -, hs'⟩ := Option.map_eq_some_iff.1 hr
  exact ⟨s', hs'⟩

theorem Inv.confSet (h : Inv conf t want) (hkey : IsAscii key) (hvalue : IsAscii value)
    (hfine : ¬(t.runningConfig.lookup (utf8 key) = some (utf8 value) ∧ utf8 key ∈ t.stagedConfig)) :
    ∃ t', t.confSet key value = .ok t' ∧ Inv conf t' (Function.update want (utf8 key) (some (utf8 value))) := by
  refine ⟨_, confSet_eq h.nonempty hkey hvalue, ?_⟩
  by_cases hsame : t.runningConfig.lookup (utf8 key) = some (utf8 value)
  · -- the running value again, and nothing is staged
    rw [if_pos hsame]
    have hstaged : t.stagedConfig.lookup (utf8 key) = none := AList.lookup_eq_none.2 fun hmem => hfine ⟨hsame, hmem⟩
    have hwant : want (utf8 key) = some (utf8 value) := by
      rw [h.wanted, TargetDevice.merged, hstaged, Option.none_or, hsame]
    rw [← hwant, Function.update_eq_self]
    exact h
  · rw [if_neg hsame]
    refine ⟨h.running, ?_, ?_, ?_, ?_⟩
    · funext k
      by_cases hk : k = utf8 key
      · subst hk
        simp [TargetDevice.merged, AList.lookup_insert]
      · rw [Function.update_of_ne hk, h.wanted]
        simp only [TargetDevice.merged, AList.lookup_insert_ne hk]
    · intro k v hv
      by_cases hk : k = utf8 key
      · subst hk
        rw [AList.lookup_insert] at hv
        cases hv
        rw [← h.running]
        exact hsame
      · exact h.other k v (by rwa [AList.lookup_insert_ne hk] at hv)
    · intro k v hv
      by_cases hk : k = utf8 key
      · subst hk
        rw [AList.lookup_insert] at hv
        cases hv
        exact ⟨⟨key, hkey, rfl⟩, value, rfl⟩
      · exact h.text k v (by rwa [AList.lookup_insert_ne hk] at hv)
    · intro k hk
      exact h.target k fun hmem => hk ((AList.mem_insert _).2 (.inr hmem))

theorem Inv.confGetAll (h : Inv conf t want) (hconf : conf.Decodes) (hfine : t.stagedConfig ≠ ∅) :
    ∃ cfg, t.confGetAll = .ok cfg ∧ ∀ key, (cfg.lookup key).map utf8 = want (utf8 key) := by
  have hkeys : ∀ k ∈ t.runningConfig.keys ∪ t.stagedConfig.keys,
      ∃ s v, utf8 s = k ∧ t.merged k = some (utf8 v) := by
    intro k hk
    have hsome : ∃ value, t.merged k = some value := by
      rw [← Option.isSome_iff_exists, TargetDevice.merged, Option.isSome_or, Bool.or_eq_true, AList.lookup_isSome,
        AList.lookup_isSome]
      exact (List.mem_union_iff.1 hk).symm
    obtain ⟨value, hvalue⟩ := hsome
    obtain ⟨v, rfl⟩ := h.merged_text hconf hvalue
    have hname : ∃ s, IsAscii s ∧ utf8 s = k := by
      rcases Option.or_eq_some_iff.1 hvalue with hstaged | ⟨-, hrunning⟩
      · exact (h.text k _ hstaged).1
      · rw [h.running] at hrunning
        exact conf.names k (AList.lookup_isSome.1 (by rw [hrunning]; rfl))
    obtain ⟨s, -, hs⟩ := hname
    exact ⟨s, v, hs, hvalue⟩
  obtain ⟨cfg, hrun, hcfg⟩ := confGetAll_fold hkeys ∅
  refine ⟨cfg, ?_, ?_⟩
  · simp only [TargetDevice.confGetAll, assertion, h.nonempty, hfine, ne_eq, not_false_eq_true, if_true]
    exact hrun
  · intro key
    rw [hcfg, h.wanted]
    split
    · rfl
    next hmem =>
      rw [List.mem_union_iff, not_or] at hmem
      have hrunning : t.runningConfig.lookup (utf8 key) = none := AList.lookup_eq_none.2 hmem.1
      have hstaged : t.stagedConfig.lookup (utf8 key) = none := AList.lookup_eq_none.2 hmem.2
      rw [TargetDevice.merged, hrunning, hstaged]
      rfl

theorem Inv.confCommit (h : Inv conf t want) (hfine : t.stagedConfig ≠ ∅) :
    ∃ t', t.confCommit = .ok t' ∧ (∀ key, t'.target.committed key = want key) ∧ Inv conf t' want := by
  have hother : ∀ e ∈ t.stagedConfig.entries, t.runningConfig.lookup e.1 ≠ some e.2 := by
    intro e he
    rw [h.running]
    exact h.other e.1 e.2 (AList.mem_lookup_iff.2 he)
  have hvalue : ∀ k, (t.stagedConfig.entries.foldl (fun d e => t.commitKey d e.1 e.2) t.target).value k =
      (t.stagedConfig.lookup k).or (t.target.value k) := commit_fold t.stagedConfig.nodupKeys hother _
  have hlen : t.stagedConfig.entries.length > 0 := by
    apply List.length_pos_iff.2
    intro hnil
    exact hfine (AList.ext hnil)
  have hrun : t.confCommit = .ok { t with target :=
      (t.stagedConfig.entries.foldl (fun d e => t.commitKey d e.1 e.2) t.target).confCommit } := by
    simp only [TargetDevice.confCommit, assertion, h.nonempty, hfine, ne_eq, not_false_eq_true, if_true, hlen]
    rfl
  refine ⟨_, hrun, ?_, h.running, h.wanted, h.other, h.text, ?_⟩
  · intro k
    simp only [Target.confCommit, hvalue, h.wanted, TargetDevice.merged, h.running]
    cases hstaged : t.stagedConfig.lookup k with
    | none => rw [Option.none_or, Option.none_or, h.target k (AList.lookup_eq_none.1 hstaged)]
    | some value => rw [Option.some_or, Option.some_or]
  · intro k hk
    simp only [Target.confCommit, hvalue, AList.lookup_eq_none.2 hk, Option.none_or]
    exact h.target k hk

theorem Inv.call (h : Inv conf t want) (hconf : conf.Decodes) {c : Call} (hfine : CallFine t c) :
    ∃ ret t', t.call c = .ok (ret, t') ∧ CallLaw t t' (c.wanted want) c ret ∧ Inv conf t' (c.wanted want) := by
  cases c with
  | confSet key value =>
    obtain ⟨t', hrun, hinv⟩ := h.confSet hfine.1 hfine.2.1 hfine.2.2
    exact ⟨.none, t', by simp only [TargetDevice.call, hrun]; rfl, trivial, hinv⟩
  | confGet key =>
    obtain ⟨r, hrun, hr⟩ := h.state hconf key hfine
    exact ⟨.value r, t, by simp only [TargetDevice.call, hrun]; rfl, hr, h⟩
  | confGetAll =>
    obtain ⟨cfg, hrun, hcfg⟩ := h.confGetAll hconf hfine
    exact ⟨.all cfg, t, by simp only [TargetDevice.call, hrun]; rfl, hcfg, h⟩
  | confCommit =>
    obtain ⟨t', hrun, hcommitted, hinv⟩ := h.confCommit hfine
    exact ⟨.none, t', by simp only [TargetDevice.call, hrun]; rfl, ⟨hcommitted, fun hnone => absurd hnone hfine⟩, hinv⟩

theorem callFine_of_state (h : Inv conf t want) (hconf : conf.Decodes) {c : Call} {ret : Ret}
    (hrun : t.call c = .ok (ret, t')) (hlaw : StateLaw t' (c.wanted want)) : CallFine t c := by
  cases c with
  | confSet key value =>
    cases hset : t.confSet key value with
    | error e =>
      simp only [TargetDevice.call, hset] at hrun
      cases hrun
    | ok t'' =>
      simp only [TargetDevice.call, hset] at hrun
      cases hrun
      obtain ⟨hkey, hvalue⟩ := confSet_ascii hset
      refine ⟨hkey, hvalue, ?_⟩
      rintro ⟨hsame, hmem⟩
      -- the call did nothing: what is read is still the value that was staged
      rw [confSet_eq h.nonempty hkey hvalue, if_pos hsame] at hset
      cases hset
      obtain ⟨staged, hstaged⟩ := Option.isSome_iff_exists.1 (AList.lookup_isSome.2 hmem)
      obtain ⟨r, hget, hr⟩ := hlaw key hkey
      obtain ⟨r', hget', hr'⟩ := h.state hconf key hkey
      rw [hget] at hget'
      cases hget'
      rw [hr, h.wanted, TargetDevice.merged, hstaged, Option.some_or, Call.wanted, Function.update_self] at hr'
      cases hr'
      rw [h.running] at hsame
      exact h.other _ _ hstaged hsame
  | confGet key =>
    cases hget : t.confGet key with
    | error e =>
      simp only [TargetDevice.call, hget] at hrun
      cases hrun
    | ok r => exact confGet_ascii hget
  | confGetAll =>
    intro hnone
    rw [TargetDevice.call, confGetAll_unstaged h.nonempty hnone] at hrun
    cases hrun
  | confCommit =>
    intro hnone
    rw [TargetDevice.call, confCommit_unstaged h.nonempty hnone] at hrun
    cases hrun

theorem RunLaw.state {calls : List Call} (h : RunLaw t want calls) : StateLaw t want := by
  cases calls with
  | nil => exact h
  | cons c calls => exact h.1

theorem Inv.lawful_iff (h : Inv conf t want) (hconf : conf.Decodes) {calls : List Call} :
    RunLaw t want calls ↔ RunFine t calls := by
  induction calls generalizing t want with
  | nil => exact iff_of_true (h.state hconf) trivial
  | cons c calls ih =>
    constructor
    · rintro ⟨-, ret, t', hrun, -, hrest⟩
      have hfine := callFine_of_state h hconf hrun hrest.state
      obtain ⟨ret', t'', hrun', -, hinv⟩ := h.call hconf hfine
      rw [hrun] at hrun'
      cases hrun'
      refine ⟨hfine, ?_⟩
      intro ret' t'' hrun'
      rw [hrun] at hrun'
      cases hrun'
      exact (ih hinv).1 hrest
    · rintro ⟨hfine, hrest⟩
      obtain ⟨ret, t', hrun, hlaw, hinv⟩ := h.call hconf hfine
      exact ⟨h.state hconf, ret, t', hrun, hlaw, (ih hinv).2 (hrest ret t' hrun)⟩

/-- **The script** does what it should in a run exactly when the values that were read are texts, the arguments are
ASCII, no key is set back to its running value while another value is staged for it, and nothing is listed or
committed while nothing is staged. -/
theorem runLaw_iff (conf : RunningConfig) (calls : List Call) :
    RunLaw (.init conf.dict) (fun key => conf.dict.lookup key) calls ↔
      conf.Decodes ∧ RunFine (.init conf.dict) calls := by
  constructor
  · intro h
    have hconf := decodes_of_state h.state
    exact ⟨hconf, ((Inv.init conf).lawful_iff hconf).1 h⟩
  · rintro ⟨hconf, hfine⟩
    exact ((Inv.init conf).lawful_iff hconf).2 hfine

/-- A target with one name and one value. -/
def oneName : RunningConfig where
  dict := AList.singleton (utf8 "thing_name") (utf8 "a")
  nonempty h := absurd (congrArg AList.keys h) (by simp)
  names key hkey := by
    rw [AList.mem_keys, AList.keys_singleton, List.mem_singleton] at hkey
    exact ⟨"thing_name", by simp [IsAscii], hkey.symm⟩

/-- The name is set to another value and back: the other value stays. -/
theorem set_back_missed : ¬RunLaw (.init oneName.dict) (fun key => oneName.dict.lookup key)
    [.confSet "thing_name" "b", .confSet "thing_name" "a"] := by
  intro h
  have hconf := decodes_of_state h.state
  obtain ⟨hfirst, hsecond⟩ := ((Inv.init oneName).lawful_iff hconf).1 h
  have hrunning : oneName.dict.lookup (utf8 "thing_name") = some (utf8 "a") := by
    have hdict : oneName.dict = AList.insert (utf8 "thing_name") (utf8 "a") ∅ := (AList.insert_empty _ _).symm
    rw [hdict]
    exact AList.lookup_insert _
  have hother : (TargetDevice.init oneName.dict).runningConfig.lookup (utf8 "thing_name") ≠ some (utf8 "b") := by
    rw [TargetDevice.init, hrunning, ne_eq, Option.some_inj, utf8_inj]
    decide
  have hset := confSet_eq (t := .init oneName.dict) oneName.nonempty hfirst.1 hfirst.2.1
  rw [if_neg hother] at hset
  have hfine := (hsecond .none _ (by simp only [TargetDevice.call, hset]; rfl)).1
  exact hfine.2.2 ⟨hrunning, (AList.mem_insert _).2 (.inl rfl)⟩

end Provision
