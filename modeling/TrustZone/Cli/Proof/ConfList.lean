import TrustZone.Cli.Proof.ConfGet

/-!
# Listing the configuration

`conf get` without a key prints a line for every key of `kvstore_config.h`: numbers of type `KV_TYPE_UINT32`, and
strings between quotes.

* `getConfig_line`: the line of a key.
* `getConfigAll_lines`: **the listing** is the lines of the keys, one after the other.
-/

namespace Cli

open Lib KvStore

variable {al : Allocator} {sh sh' : Shell} {xKey : Nat}

/-- The name of a key of the table. -/
def keyName (xKey : Nat) : List UInt8 := kvStoreConfig.kvStoreKeyMap xKey

/-- The type of a key of the table. -/
def keyType (xKey : Nat) : KVStoreValueType := kvStoreGetType kvStoreConfig.cfg xKey

/-- The value of a key as a text: a numeral, or the string that is stored, or else the default `""`. -/
def listed (kv : KvStore.State) (xKey : Nat) : List UInt8 :=
  if keyType xKey = kvTypeString then
    match kv.current xKey with
    | some (_, w) => w.dropLast
    | none => []
  else
    match kvStoreGetUInt32 kvStoreConfig.cfg kv xKey with
    | some (ulValue, _) => textLu ulValue
    | none => []

def IsPrintable (v : List UInt8) : Prop := ∀ c ∈ v, 0x21 ≤ c ∧ c ≤ 0x7E

instance (v : List UInt8) : Decidable (IsPrintable v) := inferInstanceAs (Decidable (∀ c ∈ v, _ ∧ _))

/-- Every string that is stored ends in its NUL, has printable characters only, and fits the buffer with its key. -/
structure TextsFit (kv : KvStore.State) : Prop where
  nul : ∀ xKey, keyType xKey = kvTypeString → ∀ ty w, kv.current xKey = some (ty, w) → ∃ v, w = v ++ [0]
  printable : ∀ xKey, keyType xKey = kvTypeString → IsPrintable (listed kv xKey)
  fits : ∀ xKey, keyType xKey = kvTypeString → LineFits (keyName xKey) (listed kv xKey)

/-- What is printed behind `=`. -/
def listedBody (kv : KvStore.State) (xKey : Nat) : List UInt8 :=
  if keyType xKey = kvTypeString then ascii "\"" ++ listed kv xKey ++ ascii "\"" else listed kv xKey

/-- The line of a key. -/
def listedLine (kv : KvStore.State) (xKey : Nat) : List UInt8 :=
  keyName xKey ++ ascii "=" ++ listedBody kv xKey ++ CRLF

/-! ## The table -/

/-- The names: words, short, and each that of its own key. -/
theorem keyName_chars : ∀ i < kvStoreConfig.cfg.csNumKeys,
    keyName i ≠ [] ∧ SPACE ∉ keyName i ∧ 0 ∉ keyName i := by
  decide +kernel

theorem keyName_key : ∀ i < kvStoreConfig.cfg.csNumKeys, (keyName i).length < CLI_INPUT_LINE_LEN_MAX ∧
    kvStringToKey kvStoreConfig (keyName i) = i := by
  decide +kernel

theorem keyType_cases : ∀ i < kvStoreConfig.cfg.csNumKeys,
    (keyType i = kvTypeString ∧ (kvStoreConfig.cfg.kvStoreDefaults i).length = 0) ∨ keyType i = kvTypeUInt32 := by
  decide +kernel

theorem IsPrintable.noNul {v : List UInt8} (h : IsPrintable v) : 0 ∉ v := fun hmem => absurd (h 0 hmem).1 (by decide)

/-! ## The lines -/

/-- A line that fits is formatted, ended and printed. -/
theorem snprintf_line {line : List UInt8} (hlt : line.length < CLI_OUTPUT_SCRATCH_BUF_LEN)
    (hsize : sh.pcCliScratchBuffer.length = CLI_OUTPUT_SCRATCH_BUF_LEN) : ∃ rest,
    Work.put ⟨(sh.snprintf line).pcCliScratchBuffer, line.length, line.length⟩ [0] =
      some ⟨line ++ 0 :: rest, line.length + 1, line.length⟩ ∧
    (line ++ 0 :: rest).length = CLI_OUTPUT_SCRATCH_BUF_LEN := by
  have htext : line.take (CLI_OUTPUT_SCRATCH_BUF_LEN - 1) = line := List.take_of_length_le (by omega)
  have hbuf : (sh.snprintf line).pcCliScratchBuffer =
      line ++ 0 :: sh.pcCliScratchBuffer.drop (line.length + 1) := by
    rw [Shell.snprintf, htext, blit_zero]
    simp
  have hlen : (line ++ 0 :: sh.pcCliScratchBuffer.drop (line.length + 1)).length = CLI_OUTPUT_SCRATCH_BUF_LEN := by
    rw [List.length_append, List.length_cons, List.length_drop, hsize]
    omega
  refine ⟨sh.pcCliScratchBuffer.drop (line.length + 1), ?_, hlen⟩
  rw [hbuf, Work.put_ok (by rw [hlen, List.length_singleton]; omega), blit_append_right (Nat.le_refl _), Nat.sub_self,
    blit_zero]
  rfl

/-- A number is printed as it is read. -/
theorem getConfig_number {keys : Keys} {key : List UInt8} {v : BitVec 32} {b : Bool}
    (hty : kvStoreGetType keys.cfg (kvStringToKey keys key) = kvTypeUInt32) (hkey : Word key)
    (hlen : key.length < CLI_INPUT_LINE_LEN_MAX)
    (hget : kvStoreGetUInt32 keys.cfg sh.kv (kvStringToKey keys key) = some (v, b))
    (hsize : sh.pcCliScratchBuffer.length = CLI_OUTPUT_SCRATCH_BUF_LEN) :
    ∃ sh', vSubCommand_GetConfig keys sh key = some sh' ∧
      sh'.con.out = sh.con.out ++ numberLine key (textLu v) ∧ sh'.kv = sh.kv ∧
      sh'.pcCliScratchBuffer.length = CLI_OUTPUT_SCRATCH_BUF_LEN := by
  have hlt := numberLine_length hlen (textLu_number v)
  have hnul := (numberLine_char hkey (textLu_number v)).2
  have hpos : (0 : Int) < (numberLine key (textLu v)).length := by
    simp only [numberLine, List.length_append, CRLF, List.length_cons]
    omega
  have hint : ((numberLine key (textLu v)).length : Int) < CLI_OUTPUT_SCRATCH_BUF_LEN := by
    exact_mod_cast hlt
  have hvalue : getValue keys sh (kvStringToKey keys key) key =
      some (sh.snprintf (numberLine key (textLu v)), ((numberLine key (textLu v)).length : Int)) := by
    simp only [getValue, hty, hget, getNumber, if_true]
    rw [if_neg (by decide), if_neg (by decide), if_neg (by decide)]
  obtain ⟨rest, hput, hsame⟩ := snprintf_line hlt hsize
  simp only [vSubCommand_GetConfig, hvalue, if_pos hint, hput, if_pos hpos]
  refine ⟨_, rfl, ?_, rfl, hsame⟩
  simp only [Shell.print, io_print, cstr_append_nul, cstr_of_notMem hnul]
  rfl

/-- The getter finds the string `v`, whatever was in a buffer with room for it. -/
def Reads (cfg : KvStore.Config) (kv : KvStore.State) (xKey : Nat) (v : List UInt8) : Prop :=
  ∀ tail : List UInt8, v.length < tail.length → ∃ rest,
    kvStoreGetString cfg kv xKey (some tail) = some (v.length, some (v ++ rest)) ∧ (v ++ rest).length = tail.length

theorem reads_set {cfg : KvStore.Config} {kv : KvStore.State} {v : List UInt8} {ty : KVStoreValueType} (hs : MemOk kv)
    (hx : kv.xKvMutex = true) (hm : KvStore.Matches cfg xKey kvTypeString)
    (hcur : kv.current xKey = some (ty, v ++ [0])) : Reads cfg kv xKey v := by
  intro tail htail
  have hget := kvStoreGetString_of (kvStoreGet_set hs hm hx hcur tail) (List.length_pos_iff.1 (by omega))
  have hroom : (blit tail 0 ((v ++ [0]).take tail.length)).length = tail.length := filled_length _ _
  have hall : (v ++ [0]).take tail.length = v ++ [0] := by
    apply List.take_of_length_le
    rw [List.length_append, List.length_singleton]
    omega
  rw [List.length_append, List.length_singleton, Nat.add_sub_cancel, hall, blit_zero, List.append_assoc,
    blit_append_right (by omega)] at hget
  refine ⟨_, hget, ?_⟩
  rw [List.length_append, blit_length]
  · simp only [List.length_append, List.length_drop, List.length_singleton]
    omega
  · simp only [List.length_append, List.length_drop, List.length_singleton]
    omega

theorem reads_unset {cfg : KvStore.Config} {kv : KvStore.State} (hm : KvStore.Matches cfg xKey kvTypeString)
    (hx : kv.xKvMutex = true) (ht : (kv.kvStoreCache xKey).type = kvTypeNone)
    (hdefault : (cfg.kvStoreDefaults xKey).length = 0) : Reads cfg kv xKey [] := by
  intro tail htail
  have hbytes : (cfg.kvStoreDefaults xKey).bytes tail.length = [] := by
    apply List.eq_nil_of_length_eq_zero
    rw [KVStoreDefaultEntry.bytes_length, hdefault, Nat.min_zero]
  have hget := kvStoreGetString_of (@kvStoreGet_unset cfg kv xKey kvTypeString tail hm hx ht)
    (List.length_pos_iff.1 htail)
  rw [hbytes, hdefault, blit_nil] at hget
  refine ⟨blit tail (tail.length - 1) [0], hget, ?_⟩
  rw [List.nil_append, blit_length]
  rw [List.length_singleton]
  exact Nat.le_of_eq (Nat.sub_add_cancel htail)

/-- A string whose line fits is printed between quotes. -/
theorem getConfig_string {keys : Keys} {key v : List UInt8}
    (hty : kvStoreGetType keys.cfg (kvStringToKey keys key) = kvTypeString) (hkey : 0 ∉ key)
    (hlen : key.length < CLI_INPUT_LINE_LEN_MAX) (hread : Reads keys.cfg sh.kv (kvStringToKey keys key) v)
    (hv : 0 ∉ v) (hfits : LineFits key v)
    (hsize : sh.pcCliScratchBuffer.length = CLI_OUTPUT_SCRATCH_BUF_LEN) :
    ∃ sh', vSubCommand_GetConfig keys sh key = some sh' ∧ sh'.con.out = sh.con.out ++ getLine key v ∧
      sh'.kv = sh.kv ∧ sh'.pcCliScratchBuffer.length = CLI_OUTPUT_SCRATCH_BUF_LEN := by
  have hmax : CLI_OUTPUT_SCRATCH_BUF_LEN = 512 := rfl
  obtain ⟨tail, hstart, htail⟩ := startText_ok hsize hkey hlen
  have hm := textStart_length key
  unfold LineFits at hfits
  obtain ⟨rest, hget, hrest⟩ := hread tail (by omega)
  have hvalue := valueText_ok hget hrest htail (by omega)
  have hL : ((textStart key).length + v.length : Int).bmod (2 ^ 32) = ((textStart key).length + v.length : Nat) := by
    rw [← Int.natCast_add]
    exact Int.bmod_eq_of_le (by omega) (by omega)
  rw [hL] at hvalue
  obtain ⟨sh', hrun, hout, -, hkv, hsame⟩ := getConfig_text hty (.inl rfl) hstart hvalue
    (by rw [List.length_append, hrest, htail]) (by omega)
  refine ⟨sh', hrun, ?_, hkv, hsame⟩
  rw [hout, ← List.append_assoc, hm, ended_fits hkey hv hfits]

/-! ## The listing -/

theorem keyType_matches {ty : KVStoreValueType} (h : keyType xKey = ty) (h0 : ty ≠ kvTypeNone) :
    KvStore.Matches kvStoreConfig.cfg xKey ty := matches_of_getType h h0

/-- **The line of a key.** -/
theorem getConfig_line (hs : MemOk sh.kv) (hx : sh.kv.xKvMutex = true) (hfit : TextsFit sh.kv)
    (hkey : xKey < kvStoreConfig.cfg.csNumKeys) (hsize : sh.pcCliScratchBuffer.length = CLI_OUTPUT_SCRATCH_BUF_LEN) :
    ∃ sh', vSubCommand_GetConfig kvStoreConfig sh (keyName xKey) = some sh' ∧
      sh'.con.out = sh.con.out ++ listedLine sh.kv xKey ∧ sh'.kv = sh.kv ∧
      sh'.pcCliScratchBuffer.length = CLI_OUTPUT_SCRATCH_BUF_LEN := by
  obtain ⟨hne, hspace, hnul⟩ := keyName_chars xKey hkey
  obtain ⟨hlen, hfind⟩ := keyName_key xKey hkey
  rcases keyType_cases xKey hkey with ⟨hty, hdefault⟩ | hty
  · have hmatch := keyType_matches hty (by decide)
    have hread : Reads kvStoreConfig.cfg sh.kv xKey (listed sh.kv xKey) := by
      unfold listed
      rw [if_pos hty]
      cases hcur : sh.kv.current xKey with
      | none => exact reads_unset hmatch hx (by
          by_contra ht
          rw [State.current, entryValue_set ht] at hcur
          cases hcur) hdefault
      | some p =>
        obtain ⟨ty, w⟩ := p
        obtain ⟨v, rfl⟩ := hfit.nul xKey hty ty w hcur
        simp only [List.dropLast_concat]
        exact reads_set hs hx hmatch hcur
    have hfits := hfit.fits xKey hty
    obtain ⟨sh', hrun, hout, hkv, hsame⟩ := getConfig_string (by rw [hfind]; exact hty) hnul hlen
      (by rw [hfind]; exact hread) (hfit.printable xKey hty).noNul hfits hsize
    refine ⟨sh', hrun, ?_, hkv, hsame⟩
    have hall : (listed sh.kv xKey).take (CLI_OUTPUT_SCRATCH_BUF_LEN - 1 - ((keyName xKey).length + 5)) =
        listed sh.kv xKey := by
      apply List.take_of_length_le
      unfold LineFits at hfits
      omega
    have hquote : ascii "=\"" = ascii "=" ++ ascii "\"" := rfl
    rw [hout, getLine, hall, textStart, listedLine, listedBody, if_pos hty, hquote]
    simp only [List.append_assoc]
  · have hmatch := keyType_matches hty (by decide)
    obtain ⟨b, hget, -⟩ := kvStoreGet_any hs hmatch hx (word32 0)
    have hread : ∃ v ok, kvStoreGetUInt32 kvStoreConfig.cfg sh.kv xKey = some (v, ok) := by
      rw [kvStoreGetUInt32, kvStoreGetWord, hget]
      exact ⟨_, _, rfl⟩
    obtain ⟨v, ok, hread⟩ := hread
    have hnumber : keyType xKey ≠ kvTypeString := by
      rw [hty]
      decide
    have hlisted : listed sh.kv xKey = textLu v := by
      rw [listed, if_neg hnumber]
      simp only [hread]
    obtain ⟨sh', hrun, hout, hkv, hsame⟩ := getConfig_number (by rw [hfind]; exact hty) ⟨hne, hspace, hnul⟩ hlen
      (by rw [hfind]; exact hread) hsize
    refine ⟨sh', hrun, ?_, hkv, hsame⟩
    rw [hout, listedLine, listedBody, if_neg hnumber, hlisted]
    rfl

/-- **The listing**: the lines of the keys. -/
theorem getAllLoop_lines (hs : MemOk sh.kv) (hx : sh.kv.xKvMutex = true) (hfit : TextsFit sh.kv)
    (hsize : sh.pcCliScratchBuffer.length = CLI_OUTPUT_SCRATCH_BUF_LEN) {n : Nat}
    (hn : n ≤ kvStoreConfig.cfg.csNumKeys) : ∃ sh', getAllLoop kvStoreConfig sh n = some sh' ∧
      sh'.con.out = sh.con.out ++ ((List.range n).map (listedLine sh.kv)).flatten ∧ sh'.kv = sh.kv ∧
      sh'.pcCliScratchBuffer.length = CLI_OUTPUT_SCRATCH_BUF_LEN := by
  induction n with
  | zero => exact ⟨sh, rfl, by simp, rfl, hsize⟩
  | succ n ih =>
    obtain ⟨sh₁, hrun, hout, hkv, hsame⟩ := ih (Nat.le_of_succ_le hn)
    obtain ⟨sh', hline, hout', hkv', hsame'⟩ := getConfig_line (by rw [hkv]; exact hs : MemOk sh₁.kv)
      (by rw [hkv]; exact hx) (by rw [hkv]; exact hfit) hn hsame
    refine ⟨sh', ?_, ?_, hkv'.trans hkv, hsame'⟩
    · rw [getAllLoop, hrun]
      exact hline
    · rw [hout', hout, hkv, List.range_succ, List.map_append, List.flatten_append, List.append_assoc]
      simp

end Cli
