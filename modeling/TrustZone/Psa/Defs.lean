/-!
# PSA status codes and algorithm identifiers

The values of `psa/error.h` and `psa/crypto_values.h` that the program uses.
-/

namespace Psa

/-- `psa_status_t`. -/
abbrev Status := Int

def psaSuccess : Status := 0
def psaSuccessReboot : Status := 1
def psaErrorGenericError : Status := -132
def psaErrorNotPermitted : Status := -133
def psaErrorNotSupported : Status := -134
def psaErrorInvalidArgument : Status := -135
def psaErrorInvalidHandle : Status := -136
def psaErrorBadState : Status := -137
def psaErrorBufferTooSmall : Status := -138
def psaErrorAlreadyExists : Status := -139
def psaErrorDoesNotExist : Status := -140
def psaErrorInsufficientMemory : Status := -141
def psaErrorStorageFailure : Status := -146
def psaErrorHardwareFailure : Status := -147
def psaErrorInsufficientEntropy : Status := -148
def psaErrorInvalidSignature : Status := -149
def psaErrorInvalidPadding : Status := -150
def psaErrorCorruptionDetected : Status := -151

/-- `psa_algorithm_t`. -/
abbrev Algorithm := BitVec 32

def psaAlgHashMask : Algorithm := 0xff#32
def psaAlgSha256 : Algorithm := 0x02000009#32
def psaAlgSha384 : Algorithm := 0x0200000a#32
def psaAlgEcdsaBase : Algorithm := 0x06000600#32

/-- `PSA_ALG_ECDSA(hash_alg)`. -/
def psaAlgEcdsa (hashAlg : Algorithm) : Algorithm := psaAlgEcdsaBase ||| (hashAlg &&& psaAlgHashMask)

def psaAlgRsaPkcs1v15SignBase : Algorithm := 0x06000200#32
def psaAlgRsaPssBase : Algorithm := 0x06000300#32
def psaAlgRsaPssAnySaltBase : Algorithm := 0x06001300#32
def psaAlgEcdsaDeterministicFlag : Algorithm := 0x00000100#32

/-- `PSA_ALG_IS_RSA_PKCS1V15_SIGN`. -/
def psaAlgIsRsaPkcs1v15Sign (alg : Algorithm) : Bool :=
  alg &&& ~~~psaAlgHashMask == psaAlgRsaPkcs1v15SignBase

/-- `PSA_ALG_IS_RSA_PSS`. -/
def psaAlgIsRsaPss (alg : Algorithm) : Bool :=
  alg &&& ~~~psaAlgHashMask == psaAlgRsaPssBase ||
    alg &&& ~~~psaAlgHashMask == psaAlgRsaPssAnySaltBase

/-- `PSA_ALG_IS_ECDSA`. -/
def psaAlgIsEcdsa (alg : Algorithm) : Bool :=
  alg &&& ~~~psaAlgHashMask &&& ~~~psaAlgEcdsaDeterministicFlag == psaAlgEcdsaBase

def psaAlgCategoryHash : Algorithm := 0x02000000#32
def psaAlgHashEddsaBase : Algorithm := 0x06000900#32

/-- `PSA_ALG_IS_HASH_EDDSA`. -/
def psaAlgIsHashEddsa (alg : Algorithm) : Bool := alg &&& ~~~psaAlgHashMask == psaAlgHashEddsaBase

/-- `PSA_ALG_IS_SIGN_HASH`. -/
def psaAlgIsSignHash (alg : Algorithm) : Bool :=
  psaAlgIsRsaPss alg || psaAlgIsRsaPkcs1v15Sign alg || psaAlgIsEcdsa alg || psaAlgIsHashEddsa alg

/-- `PSA_ALG_SIGN_GET_HASH`. -/
def psaAlgSignGetHash (alg : Algorithm) : Algorithm :=
  if psaAlgIsSignHash alg ∧ alg &&& psaAlgHashMask ≠ 0 then
    alg &&& psaAlgHashMask ||| psaAlgCategoryHash
  else 0

/-! ## Key types -/

/-- `psa_key_type_t`. -/
abbrev KeyType := BitVec 16

/-- `psa_ecc_family_t`. -/
abbrev EccFamily := BitVec 8

def psaKeyTypeCategoryMask : KeyType := 0x7000#16
def psaKeyTypeCategoryPublicKey : KeyType := 0x4000#16
def psaKeyTypeCategoryKeyPair : KeyType := 0x7000#16
def psaKeyTypeCategoryFlagPair : KeyType := 0x3000#16
def psaKeyTypeRsaPublicKey : KeyType := 0x4001#16
def psaKeyTypeEccPublicKeyBase : KeyType := 0x4100#16
def psaKeyTypeEccCurveMask : KeyType := 0x00ff#16

def psaEccFamilySecpK1 : EccFamily := 0x17#8
def psaEccFamilySecpR1 : EccFamily := 0x12#8
def psaEccFamilyBrainpoolPR1 : EccFamily := 0x30#8

/-- `PSA_KEY_TYPE_IS_PUBLIC_KEY`. -/
def psaKeyTypeIsPublicKey (type : KeyType) : Bool :=
  type &&& psaKeyTypeCategoryMask == psaKeyTypeCategoryPublicKey

/-- `PSA_KEY_TYPE_IS_KEY_PAIR`. -/
def psaKeyTypeIsKeyPair (type : KeyType) : Bool :=
  type &&& psaKeyTypeCategoryMask == psaKeyTypeCategoryKeyPair

/-- `PSA_KEY_TYPE_IS_RSA`. -/
def psaKeyTypeIsRsa (type : KeyType) : Bool :=
  type &&& ~~~psaKeyTypeCategoryFlagPair == psaKeyTypeRsaPublicKey

/-- `PSA_KEY_TYPE_IS_ECC`. -/
def psaKeyTypeIsEcc (type : KeyType) : Bool :=
  type &&& ~~~psaKeyTypeCategoryFlagPair &&& ~~~psaKeyTypeEccCurveMask == psaKeyTypeEccPublicKeyBase

/-- `PSA_KEY_TYPE_ECC_GET_FAMILY`. -/
def psaKeyTypeEccGetFamily (type : KeyType) : EccFamily :=
  if psaKeyTypeIsEcc type then (type &&& psaKeyTypeEccCurveMask).setWidth 8 else 0

/-- `PSA_EXPORT_PUBLIC_KEY_OUTPUT_SIZE`. -/
def psaExportPublicKeyOutputSize (type : KeyType) (bits : Nat) : Nat :=
  if psaKeyTypeIsRsa type then bits / 8 + 5 + 11
  else if psaKeyTypeIsEcc type then 2 * ((bits + 7) / 8) + 1
  else 0

end Psa
