import TrustZone.KvStore.NvLittlefs
import TrustZone.KvStore.Proof.NvPsaIts

/-!
# The two back ends

Both are given the same writes, and a key is then read from each.

* `Stores.after_holds`: the file of a key and its object are those of the last write each back end accepted.
* `agree_iff`: **the back ends** answer the same exactly when the value fits the buffer and has a type; on an
  absent key, when the caller had already set what the trusted storage answers.
-/

namespace KvStore

open Lib Psa Lfs

variable {names : KvStoreStrings} {al : Allocator} {key xBufferSize : Nat} {ty : KVStoreValueType} {v : List UInt8}
  {fs : Fs} {its : Its}

/-! ## A file -/

section
open Littlefs

theorem vLfsSSizeToErr_self (n : Nat) : vLfsSSizeToErr (n : Int) n = errOk := by
  rw [vLfsSSizeToErr, if_pos rfl]

theorem lfsLength_absent (h : fs (names.pcFileName key) = none) :
    Littlefs.xprvGetValueLengthFromImpl names fs.reads key = 0 := by
  simp only [Littlefs.xprvGetValueLengthFromImpl, Fs.reads, h]
  rfl

theorem lfsLength_object (h : fs (names.pcFileName key) = some (nvObject ty v))
    (hf : sizeofKVStoreHeader + v.length < sizeMax) :
    Littlefs.xprvGetValueLengthFromImpl names fs.reads key = v.length := by
  have hs : sizeofKVStoreHeader + v.length + (sizeMax - sizeofKVStoreHeader) = v.length + sizeMax := by
    simp only [sizeofKVStoreHeader, sizeMax]
    omega
  simp only [Littlefs.xprvGetValueLengthFromImpl, Fs.reads, h, nvObject_length, if_true]
  rw [hs, Nat.add_mod_right, Nat.mod_eq_of_lt (by omega)]

theorem lfsRead_absent (h : fs (names.pcFileName key) = none) :
    Littlefs.xprvReadValueFromImpl names fs.reads key xBufferSize = some ⟨false, none, none, []⟩ := by
  have hvalid : xValidateFile fs.reads (names.pcFileName key) = false := by
    simp [xValidateFile, Fs.reads, h, errNoent, errOk]
  rw [Littlefs.xprvReadValueFromImpl]
  simp only [hvalid, Bool.false_eq_true, if_false]

theorem fileRead_header (h : fs (names.pcFileName key) = some (nvObject ty v)) :
    fs.reads.fileRead (names.pcFileName key) 0 sizeofKVStoreHeader =
      ((sizeofKVStoreHeader : Int), (KVStoreHeader.mk ty v.length).toBytes) := by
  simp only [Fs.reads, h, Option.getD_some, List.drop_zero, nvObject_take, KVStoreHeader.toBytes_length]

theorem fileRead_value (h : fs (names.pcFileName key) = some (nvObject ty v)) :
    fs.reads.fileRead (names.pcFileName key) sizeofKVStoreHeader v.length = ((v.length : Int), v) := by
  simp only [Fs.reads, h, Option.getD_some, nvObject_drop, List.take_length]

/-- The whole value is read, whatever the size of the buffer. -/
theorem lfsRead_object (h : fs (names.pcFileName key) = some (nvObject ty v)) (hv : v.length < kvstoreValMaxLen) :
    Littlefs.xprvReadValueFromImpl names fs.reads key xBufferSize = some ⟨true, some ty, some v.length, v⟩ := by
  have hmax : (KVStoreHeader.mk ty v.length).length < sizeMax := Nat.lt_trans hv (by decide)
  have hvalid : xValidateFile fs.reads (names.pcFileName key) = true := by
    simp [xValidateFile, Fs.reads, h, nvObject_length]
  have hopen : fs.reads.fileOpen (names.pcFileName key) = errOk := by
    simp [Fs.reads, h]
  have hheader : readHeader fs.reads (names.pcFileName key) = (errOk, (KVStoreHeader.mk ty v.length).toBytes) := by
    simp only [readHeader, hopen, if_true, fileRead_header h, vLfsSSizeToErr_self]
  rw [Littlefs.xprvReadValueFromImpl]
  simp only [hvalid, hheader, if_true, KVStoreHeader.toBytes_length, KVStoreHeader.readFrom_whole,
    KVStoreHeader.ofBytes_toBytes hmax, hv, fileRead_value h, vLfsSSizeToErr_self, Int.le_refl]

/-- The answers to a write that succeeds. -/
def WriteAns.success (data : List UInt8) : WriteAns := ⟨errOk, sizeofKVStoreHeader, data.length, errOk⟩

theorem lfsWrite_success : Littlefs.xprvWriteValueToImpl names fs (WriteAns.success v) key ty (some v) =
    (true, Function.update fs (names.pcFileName key) (some (nvObject ty v))) := by
  have hheader : (KVStoreHeader.mk ty v.length).toBytes.take sizeofKVStoreHeader =
      (KVStoreHeader.mk ty v.length).toBytes := List.take_of_length_le (by simp)
  simp [Littlefs.xprvWriteValueToImpl, WriteAns.success, vLfsSSizeToErr_self, hheader, nvObject]

end

/-! ## The writes -/

/-- A write of a value of a key: not empty, and shorter than `KVSTORE_VAL_MAX_LEN`. -/
structure NvCall (names : KvStoreStrings) where
  xKey : Nat
  xType : KVStoreValueType
  pvData : List UInt8
  key_lt : xKey < names.csNumKeys
  pos : 0 < pvData.length
  short : pvData.length < kvstoreValMaxLen

theorem NvCall.fits (c : NvCall names) : sizeofKVStoreHeader + c.pvData.length < sizeMax := by
  have h := c.short
  unfold kvstoreValMaxLen at h
  unfold sizeofKVStoreHeader sizeMax
  omega

/-- What both back ends hold. -/
structure Stores where
  heap : Heap
  its : Its
  fs : Fs

/-- A write to each, in which the storage and the file system do what they are asked. -/
def Stores.write (al : Allocator) (s : Stores) (c : NvCall names) : Option Stores :=
  (xprvWriteValueToImpl al names.csNumKeys s.heap s.its psaSuccess c.xKey c.xType (some c.pvData)).map fun w =>
    ⟨w.heap, w.its,
      (Littlefs.xprvWriteValueToImpl names s.fs (WriteAns.success c.pvData) c.xKey c.xType (some c.pvData)).2⟩

/-- What they hold after the writes, the last of which is the first of the list; nothing was there before. -/
def Stores.after (al : Allocator) : List (NvCall names) → Option Stores
  | [] => some ⟨.empty, fun _ => none, fun _ => none⟩
  | c :: calls => (Stores.after al calls).bind fun s => s.write al c

/-- The object of a write. -/
def NvCall.object (c : NvCall names) : List UInt8 := nvObject c.xType c.pvData

/-- The write a file is of. -/
def lastFile (calls : List (NvCall names)) (key : Nat) : Option (NvCall names) :=
  calls.find? fun c => c.xKey = key

/-- The write an object in the trusted storage is of: one with a type. -/
def lastObject (calls : List (NvCall names)) (key : Nat) : Option (NvCall names) :=
  calls.find? fun c => c.xKey = key ∧ c.xType ≠ kvTypeNone

/-- Each back end holds what it was last given. -/
structure Stores.Holds (s : Stores) (calls : List (NvCall names)) : Prop where
  wf : s.heap.Wf
  file : ∀ key < names.csNumKeys, s.fs (names.pcFileName key) = (lastFile calls key).map NvCall.object
  object : ∀ key, s.its (xKeyToUID key) = (lastObject calls key).map NvCall.object

theorem pcFileName_inj {i j : Nat} (hi : i < names.csNumKeys) (hj : j < names.csNumKeys) :
    names.pcFileName i = names.pcFileName j ↔ i = j := by
  constructor
  · intro h
    apply names.distinct i hi j hj
    exact (String.append_right_inj _).1 h
  · rintro rfl
    rfl

/-- What a write does to the trusted storage: one without a type is refused. -/
theorem itsWrite_object (hal : al.Succeeds) {h : Heap} (hw : h.Wf) (its : Its) (c : NvCall names) :
    ∃ w, xprvWriteValueToImpl al names.csNumKeys h its psaSuccess c.xKey c.xType (some c.pvData) = some w ∧
      w.heap.Wf ∧ w.its =
        if c.xType ≠ kvTypeNone then Function.update its (xKeyToUID c.xKey) (some c.object) else its := by
  by_cases hty : c.xType = kvTypeNone
  · refine ⟨⟨false, [], h, its⟩, ?_, hw, by simp [hty]⟩
    simp only [xprvWriteValueToImpl, hty, or_true, if_true]
  · obtain ⟨h', hwrite, hw', -⟩ := xprvWriteValueToImpl_spec hal hw its (Nat.le_of_lt c.key_lt) hty c.fits psaSuccess
    refine ⟨_, hwrite, hw', ?_⟩
    simp only [psaItsSet, if_true, ne_eq, hty, not_false_eq_true]
    rfl

theorem Stores.Holds.write (hal : al.Succeeds) {s : Stores} {calls : List (NvCall names)} (h : s.Holds calls)
    (c : NvCall names) : ∃ s', s.write al c = some s' ∧ s'.Holds (c :: calls) := by
  obtain ⟨w, hwrite, hwf, hits⟩ := itsWrite_object hal h.wf s.its c
  refine ⟨_, by rw [Stores.write, hwrite]; rfl, hwf, ?_, ?_⟩
  · intro key hkey
    simp only [lfsWrite_success, lastFile, List.find?_cons]
    by_cases hk : c.xKey = key
    · subst hk
      rw [Function.update_self]
      simp [NvCall.object]
    · have hne : names.pcFileName key ≠ names.pcFileName c.xKey :=
        fun he => hk ((pcFileName_inj hkey c.key_lt).1 he).symm
      rw [Function.update_of_ne hne, h.file key hkey]
      simp [hk, lastFile]
  · intro key
    simp only [hits, lastObject, List.find?_cons]
    by_cases hk : c.xKey = key
    · subst hk
      by_cases hty : c.xType = kvTypeNone
      · simp [hty, h.object, lastObject]
      · simp [hty, NvCall.object]
    · have hne : xKeyToUID key ≠ xKeyToUID c.xKey := fun he => hk (xKeyToUID_inj.1 he).symm
      have hsame : (if c.xType ≠ kvTypeNone then Function.update s.its (xKeyToUID c.xKey) (some c.object) else s.its)
          (xKeyToUID key) = s.its (xKeyToUID key) := by
        split
        · exact Function.update_of_ne hne _ _
        · rfl
      simp [hsame, hk, h.object, lastObject]

/-- **The writes** leave each back end with what it was last given. -/
theorem Stores.after_holds (hal : al.Succeeds) (calls : List (NvCall names)) :
    ∃ s, Stores.after al calls = some s ∧ s.Holds calls := by
  induction calls with
  | nil => exact ⟨_, rfl, fun _ _ => rfl, fun _ _ => rfl, fun _ => rfl⟩
  | cons c calls ih =>
    obtain ⟨s, hs, hholds⟩ := ih
    obtain ⟨s', hwrite, hholds'⟩ := hholds.write hal c
    exact ⟨s', by rw [Stores.after, hs, Option.bind_some, hwrite], hholds'⟩

/-! ## Reading back -/

/-- **The back ends agree** on a key: the length, and a read into a buffer of `xBufferSize` bytes by a caller that
has set `xType` and `xLength`; and neither writes past the buffer. -/
structure Agree (names : KvStoreStrings) (s : Stores) (key xBufferSize : Nat) (xType : KVStoreValueType)
    (xLength : Nat) : Prop where
  length : Littlefs.xprvGetValueLengthFromImpl names s.fs.reads key = xprvGetValueLengthFromImpl s.its.reads key
  read : ∃ r r', Littlefs.xprvReadValueFromImpl names s.fs.reads key xBufferSize = some r ∧
    xprvReadValueFromImpl s.its.reads key xBufferSize = some r' ∧ r.ok = r'.ok ∧ r.pxType.getD xType = r'.type ∧
    r.pxLength.getD xLength = r'.length ∧ r.bytes = r'.bytes ∧ r.bytes.length ≤ xBufferSize ∧
    r'.bytes.length ≤ xBufferSize

/-- What the last write of a key must be. -/
def SameRead (calls : List (NvCall names)) (key xBufferSize : Nat) (xType : KVStoreValueType) (xLength : Nat) : Prop :=
  match lastFile calls key with
  | none => xType = kvTypeNone ∧ xLength = 0
  | some c => c.xType ≠ kvTypeNone ∧ c.pvData.length ≤ xBufferSize

theorem lastObject_none {calls : List (NvCall names)} (h : lastFile calls key = none) :
    lastObject calls key = none := by
  rw [lastFile, List.find?_eq_none] at h
  rw [lastObject, List.find?_eq_none]
  intro c hc hkey
  exact h c hc (decide_eq_true (of_decide_eq_true hkey).1)

theorem lastObject_some {calls : List (NvCall names)} {c : NvCall names} (h : lastFile calls key = some c)
    (hty : c.xType ≠ kvTypeNone) : lastObject calls key = some c := by
  obtain ⟨hkey, pre, post, rfl, hpre⟩ := List.find?_eq_some_iff_append.1 h
  refine List.find?_eq_some_iff_append.2 ⟨by simp_all, pre, post, rfl, ?_⟩
  intro c' hc'
  have hne := hpre c' hc'
  simp_all

theorem lastObject_type {calls : List (NvCall names)} {c : NvCall names} (h : lastObject calls key = some c) :
    c.xType ≠ kvTypeNone := by
  have hc := List.find?_some h
  exact (of_decide_eq_true hc).2

section
variable {s : Stores} {calls : List (NvCall names)} {xType : KVStoreValueType} {xLength : Nat} {c : NvCall names}

/-- An absent key. -/
theorem agree_absent (h : s.Holds calls) (hkey : key < names.csNumKeys) (hsize : 0 < xBufferSize)
    (hlast : lastFile calls key = none) :
    Agree names s key xBufferSize xType xLength ↔ xType = kvTypeNone ∧ xLength = 0 := by
  have hfile : s.fs (names.pcFileName key) = none := by rw [h.file key hkey, hlast, Option.map_none]
  have hobject : s.its (xKeyToUID key) = none := by rw [h.object, lastObject_none hlast, Option.map_none]
  have hread := xprvReadValueFromImpl_absent hobject hsize
  constructor
  · rintro ⟨-, r, r', hr, hr', -, htype, hlength, -⟩
    rw [lfsRead_absent hfile] at hr
    rw [hread] at hr'
    cases hr
    cases hr'
    exact ⟨htype, hlength⟩
  · rintro ⟨rfl, rfl⟩
    refine ⟨?_, _, _, lfsRead_absent hfile, hread, rfl, rfl, rfl, rfl, Nat.zero_le _, Nat.zero_le _⟩
    rw [lfsLength_absent hfile, xprvGetValueLengthFromImpl_absent hobject]

/-- A value with a type. -/
theorem agree_typed (h : s.Holds calls) (hkey : key < names.csNumKeys) (hsize : 0 < xBufferSize)
    (hlast : lastFile calls key = some c) (hty : c.xType ≠ kvTypeNone) :
    Agree names s key xBufferSize xType xLength ↔ c.pvData.length ≤ xBufferSize := by
  have hfile : s.fs (names.pcFileName key) = some (nvObject c.xType c.pvData) := by
    rw [h.file key hkey, hlast]
    rfl
  have hobject : s.its (xKeyToUID key) = some (nvObject c.xType c.pvData) := by
    rw [h.object, lastObject_some hlast hty]
    rfl
  have hread := xprvReadValueFromImpl_stored hobject c.fits hsize
  constructor
  · rintro ⟨-, r, r', hr, -, -, -, -, -, hfits, -⟩
    rw [lfsRead_object hfile c.short] at hr
    cases hr
    exact hfits
  · intro hle
    rw [Nat.min_eq_right hle, List.take_of_length_le hle] at hread
    refine ⟨?_, _, _, lfsRead_object hfile c.short, hread, rfl, rfl, rfl, rfl, hle, hle⟩
    rw [lfsLength_object hfile c.fits, xprvGetValueLengthFromImpl_object hobject c.fits]

/-- A value without a type is in the file only. -/
theorem not_agree_untyped (h : s.Holds calls) (hkey : key < names.csNumKeys) (hsize : 0 < xBufferSize)
    (hlast : lastFile calls key = some c) (hty : c.xType = kvTypeNone) :
    ¬Agree names s key xBufferSize xType xLength := by
  have hfile : s.fs (names.pcFileName key) = some (nvObject c.xType c.pvData) := by
    rw [h.file key hkey, hlast]
    rfl
  rintro ⟨-, r, r', hr, hr', hok, htype, -⟩
  rw [lfsRead_object hfile c.short] at hr
  cases hr
  cases hobject : lastObject calls key with
  | none =>
    rw [xprvReadValueFromImpl_absent (by rw [h.object, hobject, Option.map_none]) hsize] at hr'
    cases hr'
    cases hok
  | some c' =>
    rw [xprvReadValueFromImpl_stored (by rw [h.object, hobject]; rfl) c'.fits hsize] at hr'
    cases hr'
    exact lastObject_type hobject (htype.symm.trans hty)

theorem Stores.Holds.same_answer_iff (h : s.Holds calls) (hkey : key < names.csNumKeys) (hsize : 0 < xBufferSize) :
    Agree names s key xBufferSize xType xLength ↔ SameRead calls key xBufferSize xType xLength := by
  unfold SameRead
  cases hlast : lastFile calls key with
  | none => exact agree_absent h hkey hsize hlast
  | some c =>
    by_cases hty : c.xType = kvTypeNone
    · exact iff_of_false (not_agree_untyped h hkey hsize hlast hty) fun hsame => hsame.1 hty
    · simpa [hty] using agree_typed h hkey hsize hlast hty

end

/-- **The back ends** agree on a key after the same writes exactly when the last write of it has a type and fits the
buffer; when there was none, when the caller has set what the trusted storage answers. -/
theorem agree_iff (hal : al.Succeeds) (calls : List (NvCall names)) (hkey : key < names.csNumKeys)
    (hsize : 0 < xBufferSize) {xType : KVStoreValueType} {xLength : Nat} :
    ∃ s, Stores.after al calls = some s ∧
      (Agree names s key xBufferSize xType xLength ↔ SameRead calls key xBufferSize xType xLength) := by
  obtain ⟨s, hs, hholds⟩ := Stores.after_holds hal calls
  exact ⟨s, hs, hholds.same_answer_iff hkey hsize⟩

/-- `thing_name` is set to a text of two bytes. -/
def setThingName : NvCall kvStoreStrings := ⟨0, kvTypeString, [0x68, 0x69], by decide, by decide, by decide⟩

theorem agree_thing_name : (0 < 6 ∧ 0 < 2) ∧ ∃ s, Stores.after .granting [setThingName] = some s ∧
    (Agree kvStoreStrings s 0 2 kvTypeNone 0 ↔ SameRead [setThingName] 0 2 kvTypeNone 0) :=
  ⟨by decide, agree_iff Allocator.granting_succeeds [setThingName] (by decide) (by decide)⟩

/-- A buffer of one byte: the file system writes two. -/
theorem buffer_overrun : ∃ s, Stores.after .granting [setThingName] = some s ∧
    ¬Agree kvStoreStrings s 0 1 kvTypeNone 0 := by
  obtain ⟨s, hs, hholds⟩ := Stores.after_holds Allocator.granting_succeeds [setThingName]
  refine ⟨s, hs, fun hagree => ?_⟩
  have hsame := (hholds.same_answer_iff (by decide) (by decide)).1 hagree
  exact absurd hsame.2 (by decide)

end KvStore
