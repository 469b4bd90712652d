import TrustZone.KvStore.NvPsaIts

/-!
# Key/value storage in littlefs (`kvstore_nv_littlefs.c`)

The file of a key holds a header and the value, as the object in the trusted storage does. The calls of littlefs
that read answer what was last written, unless they are free (`Reads`); what the calls of a write answer is free.
-/

namespace Lfs

/-- `lfs_ssize_t`: a number of bytes, or a negative error. -/
abbrev SSize := Int

def errOk : SSize := 0
def errNoent : SSize := -2
def errInval : SSize := -22
def errCorrupt : SSize := -84

def typeReg : BitVec 8 := 1

/-- `struct lfs_info`. -/
structure Info where
  type : BitVec 8
  size : Nat

/-- The regular files. -/
abbrev Fs := String → Option (List UInt8)

/-- The reading side of a file system: `lfs_stat`, `lfs_file_open` with `LFS_O_RDONLY` and `lfs_file_read` at a
position. The bytes of a read are those then in the buffer, whether it succeeded or not. -/
structure Reads where
  stat : String → SSize × Info
  fileOpen : String → SSize
  fileRead : String → Nat → Nat → SSize × List UInt8
  fits : ∀ pcFileName pos size, (fileRead pcFileName pos size).2.length ≤ size

/-- The file system that answers what was last written. -/
def Fs.reads (fs : Fs) : Reads where
  stat pcFileName :=
    match fs pcFileName with
    | none => (errNoent, ⟨0, 0⟩)
    | some data => (errOk, ⟨typeReg, data.length⟩)
  fileOpen pcFileName := if (fs pcFileName).isSome then errOk else errNoent
  fileRead pcFileName pos size :=
    let data := (((fs pcFileName).getD []).drop pos).take size
    (data.length, data)
  fits _ _ _ := List.length_take_le _ _

/-- What `lfs_file_open`, the two `lfs_file_write`s and `lfs_remove` answer to a write. -/
structure WriteAns where
  fileOpen : SSize
  writeHeader : SSize
  writeData : SSize
  remove : SSize

end Lfs

namespace KvStore

open Lfs

def kvstoreValMaxLen : Nat := 256

/-- The number of keys, and `kvStoreKeyMap`: names that are different. -/
structure KvStoreStrings where
  csNumKeys : Nat
  kvStoreKeyMap : Nat → String
  distinct : ∀ i < csNumKeys, ∀ j < csNumKeys, kvStoreKeyMap i = kvStoreKeyMap j → i = j

/-- The file of a key: `KVSTORE_PREFIX` and its name. -/
def KvStoreStrings.pcFileName (names : KvStoreStrings) (xKey : Nat) : String :=
  "/cfg/" ++ names.kvStoreKeyMap xKey

/-- `KV_STORE_STRINGS` of `kvstore_config.h`. -/
def kvStoreStrings : KvStoreStrings where
  csNumKeys := 6
  kvStoreKeyMap i :=
    ["thing_name", "mqtt_endpoint", "mqtt_port", "wifi_ssid", "wifi_credential", "time_hwm"].getD i ""
  distinct := by decide

namespace Littlefs

/-- `KVStoreTLVHeader_t`. -/
abbrev KVStoreTLVHeader := KVStoreHeader

def vLfsSSizeToErr (xReturnValue : SSize) (xExpectedLength : Nat) : SSize :=
  if xReturnValue = xExpectedLength then errOk
  else if 0 ≤ xReturnValue then errCorrupt
  else xReturnValue

def xValidateFile (rd : Reads) (pcFileName : String) : Bool :=
  let (st, xFileInfo) := rd.stat pcFileName
  st = errOk ∧ xFileInfo.type &&& typeReg = typeReg ∧ sizeofKVStoreHeader ≤ xFileInfo.size

variable (names : KvStoreStrings)

/-- `xprvGetValueLengthFromImpl`, in `size_t`. -/
def xprvGetValueLengthFromImpl (rd : Reads) (xKey : Nat) : Nat :=
  let (st, xFileInfo) := rd.stat (names.pcFileName xKey)
  if st = errOk then (xFileInfo.size + (sizeMax - sizeofKVStoreHeader)) % sizeMax else 0

/-- What `xprvReadValueFromImpl` answers: its result, what it stores at `pxType` and `pxLength`, if it does, and
the bytes it puts at the start of the buffer. -/
structure LfsRead where
  ok : Bool
  pxType : Option KVStoreValueType
  pxLength : Option Nat
  bytes : List UInt8

/-- The header of an open file: what the read comes to, and the bytes it put into the zeroed `xTlvHeader`. -/
def readHeader (rd : Reads) (pcFileName : String) : SSize × List UInt8 :=
  let lReturn := rd.fileOpen pcFileName
  if lReturn = errOk then
    let (n, header) := rd.fileRead pcFileName 0 sizeofKVStoreHeader
    (vLfsSSizeToErr n sizeofKVStoreHeader, header)
  else (lReturn, [])

/-- `xprvReadValueFromImpl`: the length is that of the header, whatever the size of the buffer. A length of
`KVSTORE_VAL_MAX_LEN` or more fails an assertion. -/
def xprvReadValueFromImpl (rd : Reads) (xKey _xBufferSize : Nat) : Option LfsRead :=
  let pcFileName := names.pcFileName xKey
  if xValidateFile rd pcFileName then
    let (lReturn, header) := readHeader rd pcFileName
    let xTlvHeader : KVStoreTLVHeader := .readFrom header
    if xTlvHeader.length < kvstoreValMaxLen then
      if errOk ≤ lReturn then
        let (n, data) := rd.fileRead pcFileName header.length xTlvHeader.length
        if vLfsSSizeToErr n xTlvHeader.length = errOk then
          some ⟨true, some xTlvHeader.type, some xTlvHeader.length, data⟩
        else some ⟨false, none, none, data⟩
      else some ⟨false, none, none, []⟩
    else none
  else some ⟨false, none, none, []⟩

/-- `xprvWriteValueToImpl` with what littlefs answers: a file that was not written whole is removed. -/
def xprvWriteValueToImpl (fs : Fs) (ans : WriteAns) (xKey : Nat) (xType : KVStoreValueType)
    (pvData : Option (List UInt8)) : Bool × Fs :=
  match pvData with
  | none => (false, fs)
  | some data =>
    let pcFileName := names.pcFileName xKey
    let xTlvHeader : KVStoreTLVHeader := ⟨xType, data.length⟩
    if ans.fileOpen ≠ errOk then (false, fs)
    else
      let header := xTlvHeader.toBytes.take ans.writeHeader.toNat
      let lReturn := vLfsSSizeToErr ans.writeHeader sizeofKVStoreHeader
      let file := if lReturn = errOk then header ++ data.take ans.writeData.toNat else header
      let lReturn := if lReturn = errOk then vLfsSSizeToErr ans.writeData data.length else lReturn
      if lReturn = errOk then (true, Function.update fs pcFileName (some file))
      else if ans.remove = errOk then (false, Function.update fs pcFileName none)
      else (false, Function.update fs pcFileName (some file))

end Littlefs

end KvStore
