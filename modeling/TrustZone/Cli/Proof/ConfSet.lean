import TrustZone.KvStore.Proof.Store
import TrustZone.Cli.Conf
import TrustZone.Cli.Proof.Dispatch
import TrustZone.Cli.Proof.Pem

/-!
# Setting a number

`conf set` for the four integer types. Whatever the text is, its parser accepts it: a text without digits
gives 0, and 0 is taken for a number.

* `conf_call`: a line for `conf` calls it with the words of the line.
* `setValue_number`: the word that the parser made of the text is stored and printed.
* `conf_set_iff`: a text is treated as it should be exactly when it is a numeral of the key's type.
-/

namespace Cli

open Lib KvStore

variable {al : Allocator} {keys : Keys} {st : Nat → Psa.Status} {cs : List CLI_Command_Definition_t}
  {sh sh' : Shell} {line junk key pcValue : List UInt8} {ty : KVStoreValueType} {xKey : Nat}

/-! ## The call -/

theorem conf_call (hcs : ∀ c ∈ cs, Word c.pcCommand) (hline : 0 ∉ line)
    (hm : Matches (ascii "conf") line) (junk : List UInt8) : ∃ argv,
    FreeRTOS_CLIProcessCommand (xRegisteredCommands (xCommandDef_conf :: cs)) (line ++ 0 :: junk) =
      some (.call xCommandDef_conf (words SPACE line).length argv) ∧
    Tokenized line (line ++ 0 :: junk) argv := by
  have hconf : Word xCommandDef_conf.pcCommand := ⟨by decide, by decide, by decide⟩
  refine registered_call [] nofun hconf hcs (by decide) hline hm junk

theorem vSubCommand_SetConfig_eq {buffer : List UInt8} {argv : Argv} {w₀ w₁ : List UInt8}
    {rest : List (List UInt8)} (h : Tokenized line buffer argv)
    (hw : words SPACE line = w₀ :: w₁ :: key :: rest) :
    vSubCommand_SetConfig al keys sh (words SPACE line).length argv =
      (setValue al keys sh (kvStringToKey keys key) key (rest.headD [])).map
        (setPrinted keys (kvStringToKey keys key) key (rest.headD [])) := by
  obtain ⟨p, hp, hkey⟩ := h.pointer (i := 2) (w := key) (by rw [hw]; rfl)
  have hvalue : (if 3 < (words SPACE line).length then argv.string 3 else some []) =
      some (rest.headD []) := by
    rw [h.string, hw]
    cases rest with
    | nil => rfl
    | cons v rest => exact if_pos (by simp)
  rw [vSubCommand_SetConfig, hp, hvalue]
  simp only [hkey]
  cases setValue al keys sh (kvStringToKey keys key) key (rest.headD []) with
  | none => rfl
  | some r => rfl

/-! ## The number -/

def IsSigned (ty : KVStoreValueType) : Prop := ty = kvTypeBaseT ∨ ty = kvTypeInt32

instance (ty : KVStoreValueType) : Decidable (IsSigned ty) := inferInstanceAs (Decidable (_ ∨ _))

def IsInteger (ty : KVStoreValueType) : Prop := IsSigned ty ∨ ty = kvTypeUBaseT ∨ ty = kvTypeUInt32

/-- The text is a complete numeral, and the type has its number. -/
structure NumeralOf (ty : KVStoreValueType) (text : List UInt8) (n : Int) : Prop where
  numeral : numeral text = some n
  range : if IsSigned ty then LONG_MIN ≤ n ∧ n ≤ LONG_MAX else 0 ≤ n ∧ n ≤ ULONG_MAX

/-- The word that the parser of the type makes of a text. -/
def parsed (ty : KVStoreValueType) (text : List UInt8) : BitVec 32 :=
  if IsSigned ty then (parseLd text).2 else (parseLu text).2

theorem parsed_numeral {n : Int} (h : NumeralOf ty pcValue n) : parsed ty pcValue = BitVec.ofInt 32 n := by
  obtain ⟨hn, hrange⟩ := h
  unfold parsed
  split_ifs at hrange ⊢ with hs
  · rw [parseLd, strtol_numeral hn hrange.1 hrange.2]
  · rw [parseLu, strtoul_numeral hn hrange.1 hrange.2]
    obtain ⟨m, rfl⟩ := Int.eq_ofNat_of_zero_le hrange.1
    exact (BitVec.ofInt_natCast 32 m).symm

/-- What `%ld` and `%lu` make of a word. -/
structure NumberText (s : List UInt8) : Prop where
  chars : ∀ c ∈ s, c = 45 ∨ IsDigit c
  short : s.length ≤ 11

theorem textLd_number (v : BitVec 32) : NumberText (textLd v) where
  chars _ hc := signedText_char hc
  short := by
    refine signedText_length (by decide) ?_
    have := v.toInt_lt
    have := v.le_toInt
    omega

theorem textLu_number (v : BitVec 32) : NumberText (textLu v) where
  chars _ hc := .inr (decimalText_digit hc)
  short := by
    have := v.isLt
    have hlen : (textLu v).length ≤ 10 := decimalText_length (by decide) (by omega)
    omega

theorem matches_of_getType (h : kvStoreGetType keys.cfg xKey = ty) (h0 : ty ≠ kvTypeNone) :
    KvStore.Matches keys.cfg xKey ty := by
  unfold kvStoreGetType at h
  split_ifs at h with hk
  · exact ⟨hk, h⟩
  · exact absurd h.symm h0

/-- What a case of an integer type leaves. -/
structure NumberSet (sh : Shell) (xKey : Nat) (ty : KVStoreValueType) (key : List UInt8) (v : BitVec 32)
    (res : Option SetResult) : Prop where
  result : ∃ kv value, res = some ⟨({ sh with kv := kv }).snprintf (numberLine key value), true,
      (numberLine key value).length⟩ ∧ NumberText value ∧
    kv.current xKey = some (ty, word32 v) ∧ ∀ j ≠ xKey, kv.current j = sh.kv.current j

theorem setNumber_set {text : BitVec 32 → List UInt8} {pcEndPtr : Nat} {v : BitVec 32}
    (htext : ∀ v, NumberText (text v)) (hparse : pcEndPtr = 0 → v = 0)
    (hm : KvStore.Matches keys.cfg xKey ty) (hty : ty.toNat < kvTypeLast.toNat) (hty0 : ty ≠ kvTypeNone) :
    NumberSet sh xKey ty key v
      (setNumber sh key text pcEndPtr v fun v => kvStoreSet al keys.cfg sh.kv ty xKey (word32 v)) := by
  obtain ⟨kv, hset, hcur, hother⟩ := kvStoreSet_word al sh.kv hm hty hty0 v
  have haccept : pcEndPtr ≠ 0 ∨ v = 0 := by
    by_cases h : pcEndPtr = 0
    · exact .inr (hparse h)
    · exact .inl h
  refine ⟨kv, text v, ?_, htext v, hcur, hother⟩
  rw [setNumber, if_pos haccept, hset]
  rfl

/-- **Every text is accepted**: the word that was made of it is stored, and the new value is printed. -/
theorem setValue_number (al : Allocator) (sh : Shell) (key pcValue : List UInt8)
    (hty : kvStoreGetType keys.cfg xKey = ty) (hint : IsInteger ty) :
    NumberSet sh xKey ty key (parsed ty pcValue) (setValue al keys sh xKey key pcValue) := by
  have hld : (parseLd pcValue).1 = 0 → (parseLd pcValue).2 = 0 := fun h => by
    rw [parseLd, strtol_start h]
    rfl
  have hlu : (parseLu pcValue).1 = 0 → (parseLu pcValue).2 = 0 := fun h => by
    rw [parseLu, strtoul_start h]
    rfl
  unfold setValue
  rw [hty]
  rcases hint with (rfl | rfl) | rfl | rfl
  · exact setNumber_set textLd_number hld (matches_of_getType hty (by decide)) (by decide) (by decide)
  · exact setNumber_set textLd_number hld (matches_of_getType hty (by decide)) (by decide) (by decide)
  · exact setNumber_set textLu_number hlu (matches_of_getType hty (by decide)) (by decide) (by decide)
  · exact setNumber_set textLu_number hlu (matches_of_getType hty (by decide)) (by decide) (by decide)

/-! ## What is printed -/

theorem snprintf_take (sh : Shell) {s : List UInt8} (h : s.length < CLI_OUTPUT_SCRATCH_BUF_LEN) :
    (sh.snprintf s).pcCliScratchBuffer.take s.length = s := by
  have hs : s.take (CLI_OUTPUT_SCRATCH_BUF_LEN - 1) = s := List.take_of_length_le (by omega)
  rw [Shell.snprintf, hs, blit_zero, List.append_assoc]
  exact List.take_left

theorem numberLine_length {value : List UInt8} (hkey : key.length < CLI_INPUT_LINE_LEN_MAX)
    (hvalue : NumberText value) : (numberLine key value).length < CLI_OUTPUT_SCRATCH_BUF_LEN := by
  have hshort := hvalue.short
  have heq : (ascii "=").length = 1 := rfl
  have hend : CRLF.length = 2 := rfl
  simp only [numberLine, List.length_append, heq, hend, CLI_INPUT_LINE_LEN_MAX,
    CLI_OUTPUT_SCRATCH_BUF_LEN] at hkey ⊢
  omega

/-- No character of the line is a blank or a NUL. -/
theorem numberLine_char {value : List UInt8} (hkey : Word key) (hvalue : NumberText value) :
    SPACE ∉ numberLine key value ∧ 0 ∉ numberLine key value := by
  have hchar : ∀ c, ¬IsDigit c → c ≠ 45 → c ∉ value := by
    intro c hdigit hminus hc
    rcases hvalue.chars c hc with h | h
    · exact hminus h
    · exact hdigit h
  simp only [numberLine, List.mem_append, not_or]
  exact ⟨⟨⟨⟨hkey.noSpace, by decide⟩, hchar _ (by decide) (by decide)⟩, by decide⟩,
    ⟨⟨hkey.noNul, by decide⟩, hchar _ (by decide) (by decide)⟩, by decide⟩

theorem setPrinted_number (keys : Keys) (sh : Shell) (kv : KvStore.State) (xKey : Nat) (pcValue : List UInt8)
    {value : List UInt8} (hkey : Word key)
    (hlen : key.length < CLI_INPUT_LINE_LEN_MAX) (hvalue : NumberText value) :
    (setPrinted keys xKey key pcValue ⟨({ sh with kv := kv }).snprintf (numberLine key value), true,
      (numberLine key value).length⟩).kv = kv ∧
    (setPrinted keys xKey key pcValue ⟨({ sh with kv := kv }).snprintf (numberLine key value), true,
      (numberLine key value).length⟩).con.out = sh.con.out ++ numberLine key value := by
  have hlt := numberLine_length hlen hvalue
  have htake := snprintf_take { sh with kv := kv } hlt
  have hpos : 0 < (numberLine key value).length := by
    simp only [numberLine, List.length_append, CRLF, List.length_cons]
    omega
  simp only [setPrinted, Bool.true_eq_false, if_false, min_eq_left (Nat.le_of_lt hlt), if_pos hpos]
  refine ⟨rfl, ?_⟩
  have hnul := (numberLine_char hkey hvalue).2
  rw [io_write_out (htake.symm ▸ hnul) hlt, htake]
  rfl

/-! ## The law -/

/-- What `conf set` is for: the number of a text is stored and nothing else changes; a text without one is
refused with an error line. -/
structure SetLaw (xKey : Nat) (ty : KVStoreValueType) (text : List UInt8) (sh sh' : Shell) : Prop where
  stored : ∀ n, NumeralOf ty text n → sh'.kv.current xKey = some (ty, word32 (BitVec.ofInt 32 n)) ∧
    ∀ j ≠ xKey, sh'.kv.current j = sh.kv.current j
  refused : (¬∃ n, NumeralOf ty text n) → sh'.kv = sh.kv ∧
    ∃ msg, sh'.con.out = sh.con.out ++ (ascii "Error: " ++ msg)

/-- **Setting a number**: the line stores the number of the text, or refuses the text and changes nothing,
exactly when the text is a numeral of the key's type. -/
theorem conf_set_iff (hcs : ∀ c ∈ cs, Word c.pcCommand) (hline : 0 ∉ line)
    (hhead : line.head? ≠ some SPACE) {rest : List (List UInt8)}
    (hw : words SPACE line = ascii "conf" :: ascii "set" :: key :: rest)
    (hlen : key.length < CLI_INPUT_LINE_LEN_MAX)
    (hty : kvStoreGetType keys.cfg (kvStringToKey keys key) = ty) (hint : IsInteger ty) (junk : List UInt8) :
    ∃ sh', enterConf al keys st cs sh (line ++ 0 :: junk) = some sh' ∧
      (SetLaw (kvStringToKey keys key) ty (rest.headD []) sh sh' ↔ ∃ n, NumeralOf ty (rest.headD []) n) := by
  obtain ⟨argv, hcall, hargv⟩ := conf_call hcs hline (matches_of_words hw hhead) junk
  obtain ⟨⟨kv, value, hset, hvalue, hcur, hother⟩⟩ :=
    setValue_number al sh key (rest.headD []) hty hint
  have hkey : Word key := word_of_mem hline (by rw [hw]; simp)
  obtain ⟨hkv, hout⟩ := setPrinted_number keys sh kv (kvStringToKey keys key) (rest.headD []) hkey hlen hvalue
  refine ⟨setPrinted keys (kvStringToKey keys key) key (rest.headD [])
    ⟨({ sh with kv := kv }).snprintf (numberLine key value), true, (numberLine key value).length⟩, ?_, ?_⟩
  · have hmode : argv.string 1 = some (ascii "set") := by rw [hargv.string, hw]; rfl
    have hargc : 1 < (words SPACE line).length := by rw [hw]; simp
    have hget : ascii "set" ≠ ascii "get" := by decide
    simp only [enterConf, hcall, if_true, vCommand_Configure, if_pos hargc, hmode, if_neg hget]
    rw [vSubCommand_SetConfig_eq hargv hw, hset]
    rfl
  · constructor
    · intro law
      by_contra hno
      -- the line that was printed has no blank, an error line has one
      obtain ⟨-, msg, herror⟩ := law.refused hno
      have hline := List.append_cancel_left (hout.symm.trans herror)
      refine (numberLine_char hkey hvalue).1 ?_
      rw [hline]
      exact List.mem_append_left msg (by decide)
    · intro hnum
      refine ⟨fun m hm => ?_, fun hno => absurd hnum hno⟩
      rw [hkv, ← parsed_numeral hm]
      exact ⟨hcur, hother⟩

/-- A console with nothing shown and an empty store. -/
def freshShell : Shell := ⟨⟨[], []⟩, [], .boot fun _ => none⟩

/-- `conf set mqtt_port 1883`. -/
theorem conf_set_port : ∃ sh',
    enterConf .granting kvStoreConfig (fun _ => 0) [] freshShell
      (ascii "conf set mqtt_port 1883" ++ 0 :: []) = some sh' ∧
    (SetLaw 2 kvTypeUInt32 (ascii "1883") freshShell sh' ↔ ∃ n, NumeralOf kvTypeUInt32 (ascii "1883") n) := by
  have hw : words SPACE (ascii "conf" ++ SPACE :: (ascii "set" ++ SPACE ::
      (ascii "mqtt_port" ++ SPACE :: ascii "1883"))) =
      [ascii "conf", ascii "set", ascii "mqtt_port", ascii "1883"] := by
    rw [words_append (by decide) (by decide), words_append (by decide) (by decide),
      words_append (by decide) (by decide), words_word (by decide) (by decide)]
  exact conf_set_iff (by simp) (by decide) (by decide) hw (by decide) rfl (.inr (.inr rfl)) []

/-- The refused text changed the store. -/
theorem setLaw_missed {text out : List UInt8} {v : KVStoreValueType × List UInt8} {res : Option Shell}
    (hres : res.map (fun sh' => (sh'.con.out, sh'.kv.current xKey)) = some (out, some v))
    (htext : numeral text = none) (hcur : sh.kv.current xKey = none) :
    ∃ sh', res = some sh' ∧ sh'.con.out = out ∧ sh'.kv.current xKey = some v ∧
      ¬SetLaw xKey ty text sh sh' := by
  obtain ⟨sh', rfl, hpair⟩ := Option.map_eq_some_iff.1 hres
  obtain ⟨hout, hcur'⟩ := Prod.mk.inj hpair
  refine ⟨sh', rfl, hout, hcur', fun law => ?_⟩
  have hkv := (law.refused fun ⟨n, hn⟩ => by rw [hn.numeral] at htext; cases htext).1
  rw [hkv, hcur] at hcur'
  cases hcur'

/-- A port with a letter in it is stored up to the letter, and one that is no number is stored as 0. -/
theorem conf_set_missed :
    (∃ sh', enterConf .granting kvStoreConfig (fun _ => 0) [] freshShell
        (ascii "conf set mqtt_port 88x3" ++ 0 :: []) = some sh' ∧
      sh'.con.out = ascii "mqtt_port=88\r\n" ∧ sh'.kv.current 2 = some (kvTypeUInt32, word32 88) ∧
      ¬SetLaw 2 kvTypeUInt32 (ascii "88x3") freshShell sh') ∧
    ∃ sh', enterConf .granting kvStoreConfig (fun _ => 0) [] freshShell
        (ascii "conf set mqtt_port none" ++ 0 :: []) = some sh' ∧
      sh'.con.out = ascii "mqtt_port=0\r\n" ∧ sh'.kv.current 2 = some (kvTypeUInt32, word32 0) ∧
      ¬SetLaw 2 kvTypeUInt32 (ascii "none") freshShell sh' :=
  ⟨setLaw_missed (by decide +kernel) (by decide +kernel) rfl,
    setLaw_missed (by decide +kernel) (by decide +kernel) rfl⟩

end Cli
