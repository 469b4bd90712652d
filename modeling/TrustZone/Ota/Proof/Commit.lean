import TrustZone.Ota.Pal

/-!
# Committing the image that is queried

After a restart `otaPal_GetPlatformImageState` tells the agent that an image waits to be committed, and
`otaPal_SetPlatformImageState` commits it. The first has a case for a path that is missing, the second
has not; both take a path for the name that it begins with.

* `imageType_iff`: the path begins with the name of an image.
* `set_path`, `get_path`, `set_noPath`, `get_noPath`: what the two functions do.
* `commit_law_iff`: when the second commits what the first reports, and both know the same paths.
-/

namespace Ota

open Psa Lib

/-- The names of the images and their types. -/
def imageNames : List (List UInt8 × BitVec 32) :=
  [(secureImage, fwuImageTypeSecure), (nonSecureImage, fwuImageTypeNonsecure),
    (fullImage, fwuImageTypeFull)]

/-- The id of an image in the active slot. -/
def activeImage (type : BitVec 32) : ImageId := fwuCalculateImageId fwuImageIdSlotActive type 0

/-- PSA reports the image as pending install. -/
def PendingInstall (psa : Fwu) (id : ImageId) : Prop :=
  (psa.query id).1 = psaSuccess ∧ (psa.query id).2.state = psaImagePendingInstall

/-- The path is absent or empty. -/
def OtaFileContext.NoPath (ctx : OtaFileContext) : Prop :=
  ctx.pFilePath = none ∨ ctx.pFilePath = some []

/-! ## Paths -/

/-- The names are not prefixes of each other. -/
theorem imageNames_incomparable : ∀ n ∈ imageNames, ∀ m ∈ imageNames, n.1 <+: m.1 → n = m := by decide

theorem imageNames_comparable {n m : List UInt8 × BitVec 32} {path : List UInt8} (hn : n ∈ imageNames)
    (hm : m ∈ imageNames) (hnp : n.1 <+: path) (hmp : m.1 <+: path) : n = m := by
  rcases List.prefix_or_prefix_of_prefix hnp hmp with h | h
  · exact imageNames_incomparable n hn m hm h
  · exact (imageNames_incomparable m hm n hn h).symm

theorem imageType_none {path : List UInt8} :
    imageType? path = none ↔ ∀ n ∈ imageNames, ¬n.1 <+: path := by
  unfold imageType? imageNames
  simp only [List.isPrefixOf_iff_prefix, List.forall_mem_cons]
  split_ifs <;> simp [*]

/-- The type that is read off a path is that of the name that it begins with. -/
theorem imageType_iff {path : List UInt8} {t : BitVec 32} :
    imageType? path = some t ↔ ∃ n ∈ imageNames, n.1 <+: path ∧ t = n.2 := by
  have hsome : ∀ {t}, imageType? path = some t → ∃ n ∈ imageNames, n.1 <+: path ∧ t = n.2 := by
    intro t h
    unfold imageType? at h
    split_ifs at h with h1 h2 h3
    · obtain rfl := Option.some.inj h
      exact ⟨(secureImage, fwuImageTypeSecure), .head _, List.isPrefixOf_iff_prefix.1 h1, rfl⟩
    · obtain rfl := Option.some.inj h
      exact ⟨(nonSecureImage, fwuImageTypeNonsecure), .tail _ (.head _),
        List.isPrefixOf_iff_prefix.1 h2, rfl⟩
    · obtain rfl := Option.some.inj h
      exact ⟨(fullImage, fwuImageTypeFull), .tail _ (.tail _ (.head _)),
        List.isPrefixOf_iff_prefix.1 h3, rfl⟩
  refine ⟨hsome, fun ⟨n, hn, hp, ht⟩ => ?_⟩
  cases h : imageType? path with
  | none => exact absurd hp (imageType_none.1 h n hn)
  | some t' =>
    obtain ⟨m, hm, hmp, rfl⟩ := hsome h
    rw [ht, imageNames_comparable hn hm hp hmp]

/-- When the names that a path begins with are the path, the path stands for the image of its name. -/
theorem imageType_exact {path : List UInt8} {t : BitVec 32}
    (hexact : ∀ n ∈ imageNames, n.1 <+: path → path = n.1) :
    imageType? path = some t ↔ ∃ n ∈ imageNames, path = n.1 ∧ t = n.2 := by
  rw [imageType_iff]
  constructor
  · rintro ⟨n, hn, hp, ht⟩
    exact ⟨n, hn, hexact n hn hp, ht⟩
  · rintro ⟨n, hn, hp, ht⟩
    exact ⟨n, hn, hp ▸ List.prefix_rfl, ht⟩

/-! ## The two functions -/

variable {psa psa' : Fwu} {s : State} {p : CtxPtr} {path : List UInt8}

/-- The image that a path stands for, in the active slot. -/
def pathImage (path : List UInt8) : Option ImageId := (imageType? path).map activeImage

/-- What `otaPal_SetPlatformImageState` answers when it is told to accept. -/
def acceptReply (psa : Fwu) (id : Option ImageId) : Reply :=
  match id with
  | none => ⟨.status (otaPalCombineErr .commitFailed 0), []⟩
  | some id =>
    if psa.accept = psaSuccess then ⟨.status (otaPalCombineErr .success 0), [.accept id]⟩
    else ⟨.status (otaPalCombineErr .commitFailed (otaPalSubErr psa.accept)), [.accept id]⟩

theorem set_path (hidle : s.pal.pxSystemContext = none) (hpath : (s.ctxs p).pFilePath = some path) :
    (otaPalSetPlatformImageState psa s (some p) .accepted).2 = acceptReply psa (pathImage path) := by
  unfold otaPalSetPlatformImageState calculatePSAImageID pathImage
  simp only [hidle, if_true, State.ctx, Option.map_some, Option.bind_some, hpath]
  cases imageType? path with
  | none => rfl
  | some t =>
    simp only [not_true_eq_false, ne_eq, if_false, ite_not, Option.map_some, acceptReply]
    split <;> rfl

theorem set_noPath (hidle : s.pal.pxSystemContext = none) (hno : (s.ctxs p).NoPath) :
    (otaPalSetPlatformImageState psa s (some p) .accepted).2 = acceptReply psa none := by
  rcases hno with h | h
  · unfold otaPalSetPlatformImageState calculatePSAImageID
    simp only [hidle, if_true, State.ctx, Option.map_some, Option.bind_some, h]
    rfl
  · rw [set_path hidle h]
    rfl

/-- What `otaPal_GetPlatformImageState` makes of a state. -/
def stateOf (psa : Fwu) (id : ImageId) : OtaPalImageState :=
  if (psa.query id).1 ≠ psaSuccess then .invalid
  else if (psa.query id).2.state = psaImagePendingInstall then .pendingCommit
  else if (psa.query id).2.state = psaImageInstalled then .valid
  else .invalid

theorem stateOf_pending {id : ImageId} : stateOf psa id = .pendingCommit ↔ PendingInstall psa id := by
  unfold stateOf PendingInstall
  by_cases hq : (psa.query id).1 = psaSuccess
  · by_cases hp : (psa.query id).2.state = psaImagePendingInstall
    · simp [hq, hp]
    · simp only [hq, hp, ne_eq, not_true_eq_false, if_false, and_false, iff_false]
      split <;> nofun
  · simp [hq]

theorem get_path (hidle : s.pal.pxSystemContext = none) (hpath : (s.ctxs p).pFilePath = some path)
    (hne : path ≠ []) : otaPalGetPlatformImageState psa s (some p) = some (s,
      match pathImage path with
      | none => ⟨.imageState .invalid, []⟩
      | some id => ⟨.imageState (stateOf psa id), [.query id]⟩) := by
  unfold otaPalGetPlatformImageState calculatePSAImageID pathImage
  have hno : ¬(some path = none ∨ some path = some []) := by simp [hne]
  simp only [State.ctx, Option.map_some, hidle, if_true, Option.bind_some, hpath]
  rw [if_neg hno]
  cases imageType? path with
  | none => rfl
  | some t => rfl

/-- Without a path both images are looked at. -/
theorem get_noPath (hidle : s.pal.pxSystemContext = none) (hno : (s.ctxs p).NoPath) :
    ∃ st, otaPalGetPlatformImageState psa s (some p) = some (s, ⟨.imageState st,
        [.query (activeImage fwuImageTypeSecure), .query (activeImage fwuImageTypeNonsecure)]⟩) ∧
      (st = .pendingCommit ↔ PendingInstall psa (activeImage fwuImageTypeSecure) ∨
        PendingInstall psa (activeImage fwuImageTypeNonsecure)) := by
  have hstate : ∀ type, (prvGetImageState psa fwuImageIdSlotActive type).1 = psaImagePendingInstall ↔
      PendingInstall psa (activeImage type) := by
    intro type
    show (if (psa.query (activeImage type)).1 = psaSuccess then (psa.query (activeImage type)).2.state
      else psaImageUndefined) = psaImagePendingInstall ↔ _
    unfold PendingInstall
    split <;> simp [*, psaImageUndefined, psaImagePendingInstall]
  unfold otaPalGetPlatformImageState
  simp only [State.ctx, Option.map_some, hidle, if_true]
  refine ⟨_, if_pos hno, ?_⟩
  rw [← hstate, ← hstate]
  split_ifs with hpending hvalid
  · exact iff_of_true rfl hpending
  · exact iff_of_false nofun hpending
  · exact iff_of_false nofun hpending

/-! ## The law -/

/-- An accept commits what a query has found: some image that is pending, every one when no path says
which, and it fails only if `psa_fwu_accept` does. -/
structure Commits (psa psa' : Fwu) (ctx : OtaFileContext) (set : Reply) : Prop where
  pending : ∃ id, .accept id ∈ set.calls ∧ PendingInstall psa id
  every : ctx.NoPath → ∀ type ∈ [fwuImageTypeSecure, fwuImageTypeNonsecure],
    PendingInstall psa (activeImage type) → .accept (activeImage type) ∈ set.calls
  fails : set.ret ≠ .status (otaPalCombineErr .success 0) → psa'.accept ≠ psaSuccess

/-- The two functions know a path when it is the name of an image, and take it for that image. -/
structure KnowsNames (path : List UInt8) (get set : Reply) : Prop where
  get : ∀ id, get.calls = [.query id] ↔ ∃ n ∈ imageNames, path = n.1 ∧ id = activeImage n.2
  set : ∀ id, .accept id ∈ set.calls ↔ ∃ n ∈ imageNames, path = n.1 ∧ id = activeImage n.2

/-- **Query and commit agree** on the context `p`: PSA answers the query with `psa` and the accept with
`psa'`. -/
def CommitLaw (psa psa' : Fwu) (s : State) (p : CtxPtr) : Prop :=
  ∃ get, otaPalGetPlatformImageState psa s (some p) = some (s, get) ∧
    (get.ret = .imageState .pendingCommit → Commits psa psa' (s.ctxs p)
      (otaPalSetPlatformImageState psa' s (some p) .accepted).2) ∧
    ∀ path, (s.ctxs p).pFilePath = some path → KnowsNames path get
      (otaPalSetPlatformImageState psa' s (some p) .accepted).2

/-- Without a path nothing is pending; a path that begins with a name is the name. -/
def CommitsQueried (psa : Fwu) (ctx : OtaFileContext) : Prop :=
  (ctx.NoPath → ∀ type ∈ [fwuImageTypeSecure, fwuImageTypeNonsecure],
    ¬PendingInstall psa (activeImage type)) ∧
  ∀ path, ctx.pFilePath = some path → ∀ n ∈ imageNames, n.1 <+: path → path = n.1

/-- What is accepted is the image that the path stands for. -/
theorem acceptReply_accepts {id : ImageId} {image : Option ImageId} :
    .accept id ∈ (acceptReply psa image).calls ↔ image = some id := by
  cases image with
  | none => simp [acceptReply]
  | some j =>
    have hcalls : (acceptReply psa (some j)).calls = [.accept j] := by
      simp only [acceptReply]
      split <;> rfl
    simp [hcalls, eq_comm]

theorem acceptReply_fails {id : ImageId}
    (h : (acceptReply psa (some id)).ret ≠ .status (otaPalCombineErr .success 0)) :
    psa.accept ≠ psaSuccess := by
  intro hok
  exact h (by simp [acceptReply, hok])

/-- The one image that is queried is the one that the path stands for. -/
theorem get_queries (hidle : s.pal.pxSystemContext = none)
    (hpath : (s.ctxs p).pFilePath = some path) :
    ∃ get, otaPalGetPlatformImageState psa s (some p) = some (s, get) ∧
      ∀ id, get.calls = [.query id] ↔ pathImage path = some id := by
  by_cases hne : path = []
  · obtain ⟨st, hget, -⟩ := @get_noPath psa s p hidle (.inr (hne ▸ hpath))
    have hnone : pathImage path = none := by rw [hne]; rfl
    exact ⟨_, hget, fun id => by simp [hnone]⟩
  · refine ⟨_, get_path hidle hpath hne, fun id => ?_⟩
    cases pathImage path with
    | none => simp
    | some j => simp

/-- A pending commit that is reported for a path is that of the image it stands for. -/
theorem get_pending (hidle : s.pal.pxSystemContext = none)
    (hpath : (s.ctxs p).pFilePath = some path) (hne : path ≠ []) {get : Reply}
    (hget : otaPalGetPlatformImageState psa s (some p) = some (s, get))
    (hret : get.ret = .imageState .pendingCommit) :
    ∃ id, pathImage path = some id ∧ PendingInstall psa id := by
  rw [get_path hidle hpath hne] at hget
  obtain rfl := congrArg Prod.snd (Option.some.inj hget)
  cases himage : pathImage path with
  | none => simp [himage] at hret
  | some id =>
    simp only [himage, Ret.imageState.injEq] at hret
    exact ⟨id, rfl, stateOf_pending.1 hret⟩

theorem pathImage_iff {id : ImageId} :
    pathImage path = some id ↔ ∃ t, imageType? path = some t ∧ id = activeImage t := by
  simp [pathImage, eq_comm]

/-- When the names that the path begins with are the path, it stands for the image of its name. -/
theorem pathImage_exact {id : ImageId} (hexact : ∀ n ∈ imageNames, n.1 <+: path → path = n.1) :
    pathImage path = some id ↔ ∃ n ∈ imageNames, path = n.1 ∧ id = activeImage n.2 := by
  rw [pathImage_iff]
  constructor
  · rintro ⟨t, ht, rfl⟩
    obtain ⟨n, hn, hp, rfl⟩ := (imageType_exact hexact).1 ht
    exact ⟨n, hn, hp, rfl⟩
  · rintro ⟨n, hn, hp, rfl⟩
    exact ⟨n.2, (imageType_exact hexact).2 ⟨n, hn, hp, rfl⟩, rfl⟩

theorem CommitLaw.queried (hidle : s.pal.pxSystemContext = none) (h : CommitLaw psa psa' s p) :
    CommitsQueried psa (s.ctxs p) := by
  obtain ⟨get, hget, hcommits, hknows⟩ := h
  constructor
  · intro hno type htype hpending
    -- the query reports the pending image, the commit accepts none
    obtain ⟨st, hst, hiff⟩ := @get_noPath psa s p hidle hno
    obtain rfl := congrArg Prod.snd (Option.some.inj (hget.symm.trans hst))
    have hst : st = .pendingCommit := by
      rw [hiff]
      rcases List.mem_pair.1 htype with rfl | rfl
      · exact .inl hpending
      · exact .inr hpending
    obtain ⟨id, hid, -⟩ := (hcommits (congrArg _ hst)).pending
    rw [set_noPath hidle hno] at hid
    simp [acceptReply] at hid
  · intro path hpath n hn hp
    have haccepts : pathImage path = some (activeImage n.2) :=
      pathImage_iff.2 ⟨n.2, imageType_iff.2 ⟨n, hn, hp, rfl⟩, rfl⟩
    have hset := (hknows path hpath).set (activeImage n.2)
    rw [set_path hidle hpath, acceptReply_accepts] at hset
    obtain ⟨m, hm, rfl, -⟩ := hset.1 haccepts
    rw [imageNames_incomparable n hn m hm hp]

theorem CommitsQueried.law (hidle : s.pal.pxSystemContext = none)
    (h : CommitsQueried psa (s.ctxs p)) : CommitLaw psa psa' s p := by
  obtain ⟨hquiet, hexact⟩ := h
  by_cases hno : (s.ctxs p).NoPath
  · obtain ⟨st, hget, hiff⟩ := @get_noPath psa s p hidle hno
    refine ⟨_, hget, fun hret => ?_, fun path hpath => ?_⟩
    · -- nothing is pending without a path
      rcases hiff.1 (Ret.imageState.inj hret) with hp | hp
      · exact absurd hp (hquiet hno _ (.head _))
      · exact absurd hp (hquiet hno _ (.tail _ (.head _)))
    · obtain ⟨get, hget', hcalls⟩ := @get_queries psa s p _ hidle hpath
      obtain rfl := congrArg Prod.snd (Option.some.inj (hget.symm.trans hget'))
      refine ⟨fun id => ?_, fun id => ?_⟩
      · rw [hcalls, pathImage_exact (hexact path hpath)]
      · rw [set_path hidle hpath, acceptReply_accepts, pathImage_exact (hexact path hpath)]
  · cases hpath : (s.ctxs p).pFilePath with
    | none => exact absurd (.inl hpath) hno
    | some path =>
      obtain ⟨get, hget, hcalls⟩ := @get_queries psa s p _ hidle hpath
      refine ⟨get, hget, fun hret => ?_, fun path' hpath' => ?_⟩
      · have hne : path ≠ [] := fun hnil => hno (.inr (hnil ▸ hpath))
        obtain ⟨id, himage, hpending⟩ := get_pending hidle hpath hne hget hret
        rw [set_path hidle hpath, himage]
        exact ⟨⟨id, acceptReply_accepts.2 rfl, hpending⟩, fun hnone => absurd hnone hno,
          acceptReply_fails⟩
      · obtain rfl : path = path' := Option.some.inj (hpath.symm.trans hpath')
        refine ⟨fun id => ?_, fun id => ?_⟩
        · rw [hcalls, pathImage_exact (hexact path hpath)]
        · rw [set_path hidle hpath, acceptReply_accepts, pathImage_exact (hexact path hpath)]

/-- **What is queried is committed** exactly when the path, if there is one, does not just begin with
the name of an image, and nothing is pending if there is none. -/
theorem commit_law_iff (psa psa' : Fwu) (s : State) (p : CtxPtr) (hidle : s.pal.pxSystemContext = none) :
    CommitLaw psa psa' s p ↔ CommitsQueried psa (s.ctxs p) :=
  ⟨CommitLaw.queried hidle, CommitsQueried.law hidle⟩

/-- PSA with every image pending install, and the firmware service willing. -/
def pendingPsa : Fwu := ⟨⟨1024, by decide⟩, fun _ => (psaSuccess, ⟨psaImagePendingInstall, []⟩), psaSuccess,
  fun _ => psaSuccess, psaSuccess, true, psaSuccess, psaSuccess⟩

/-- The PAL at boot, with one path in every context. -/
def bootWith (path : Option (List UInt8)) : State := ⟨.boot, fun _ => ⟨path, none, .null⟩⟩

theorem commit_law_secure : CommitLaw pendingPsa pendingPsa (bootWith (some secureImage)) 0 := by
  refine (commit_law_iff _ _ _ _ rfl).2 ⟨?_, ?_⟩
  · rintro (h | h) <;> cases h
  · intro path hpath
    obtain rfl : secureImage = path := Option.some.inj hpath
    decide

/-- Without a path the pending images are reported and the commit fails; a longer path is taken for the
name that it begins with. -/
theorem commit_missed :
    (∀ path ∈ [none, some []],
      (otaPalGetPlatformImageState pendingPsa (bootWith path) (some 0)).map (·.2.ret) =
        some (.imageState .pendingCommit) ∧
      (otaPalSetPlatformImageState pendingPsa (bootWith path) (some 0) .accepted).2 =
        ⟨.status (otaPalCombineErr .commitFailed 0), []⟩ ∧
      ¬CommitLaw pendingPsa pendingPsa (bootWith path) 0) ∧
    ¬CommitLaw pendingPsa pendingPsa (bootWith (some (ascii "full image.bak"))) 0 := by
  have hmissed : ∀ path ∈ [none, some []], ¬CommitLaw pendingPsa pendingPsa (bootWith path) 0 := by
    intro path hpath h
    have hno : ((bootWith path).ctxs 0).NoPath := List.mem_pair.1 hpath
    exact (h.queried rfl).1 hno fwuImageTypeSecure (.head _) ⟨rfl, rfl⟩
  refine ⟨fun path hpath => ⟨?_, ?_, hmissed path hpath⟩, fun h => ?_⟩
  · rcases List.mem_pair.1 hpath with rfl | rfl <;> decide
  · rcases List.mem_pair.1 hpath with rfl | rfl <;> decide
  · exact absurd ((h.queried rfl).2 _ rfl (fullImage, fwuImageTypeFull) (.tail _ (.tail _ (.head _)))
      (by decide)) (by decide)

end Ota
