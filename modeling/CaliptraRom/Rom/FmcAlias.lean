/-
`FmcAliasLayer`: the DICE layer of the first mutable code, with the `Crypto` helpers it calls.

`derive` takes PCR0, the measurement `process` extended, and mixes it into the CDI: the slot
`KEY_ID_ROM_FMC_CDI` is both the key and the output of an HMAC-512 KDF with the label
`alias_fmc_cdi`.  From the new CDI it derives the FMC alias ECC private key, through the
temporary slot `KEY_ID_TMP` which it erases, and the MLDSA key pair seed; it computes the
subject serial numbers and key ids, and signs the two FMC alias certificates with the LDevID
keys of the `DiceInput`, erasing each of those keys once it has signed.  The signatures and
public keys go to the data vault and the TBS bytes to the persistent data.

The key vault is modelled from the spec: numbered slots, each empty or holding key material with
the usage bits it was written with, which authorize what an engine may read it for.  The engines
(HMAC, ECC, MLDSA, SHA), the X.509 helpers and the TBS templates are fields of `DiceHardware`;
the slot ids and DICE flag bits are constants of `caliptra_common` and fields of `DiceConsts`.
A hasher's `init`, `update` and `finalize` are one call over the concatenated input, which fails
when any of them would.  `derive` reads the ROM state (PCR0, the data vault) and does not write
it; what it writes is a `DiceState`: the key vault and the two certificates' records.
-/
import CaliptraRom.Rom.FwProcessor

namespace Caliptra

/-! ### The key vault -/

/-- `KeyId`: a key vault slot, by the number the ROM prints. -/
abbrev KeyId := UInt8

/-- `KeyUsage`, the usage bits of a slot; `KeyUsage::default()` sets none.  Modelled from the
spec: "Usage bits authorize downstream operations (HMAC key, ECC keygen seed, MLDSA keygen
seed, ECC private key)". -/
structure KeyUsage where
  hmacKey : Bool := false
  eccKeyGenSeed : Bool := false
  mldsaKeyGenSeed : Bool := false
  eccPrivateKey : Bool := false
  deriving DecidableEq

/-- The usage `Crypto::hmac_kdf` writes its output with: `set_hmac_key_en`,
`set_ecc_key_gen_seed_en`, `set_mldsa_key_gen_seed_en`. -/
def kdfOutputUsage : KeyUsage := { hmacKey := true, eccKeyGenSeed := true, mldsaKeyGenSeed := true }

/-- The usage `Crypto::ecc384_key_gen` writes the private key with: `set_ecc_private_key_en`. -/
def eccPrivKeyUsage : KeyUsage := { eccPrivateKey := true }

/-- Key material, as the engines produce it. -/
abbrev KeyMaterial := List UInt8

structure KeySlot where
  material : KeyMaterial
  usage : KeyUsage
  deriving DecidableEq

/-- Modelled from the spec: "a fixed set of numbered slots, each a {material, usage_bits}";
`none` is an empty or erased slot. -/
structure KeyVault where
  slot : KeyId → Option KeySlot

/-- An engine's `KeyWriteArgs` output. -/
def KeyVault.write (kv : KeyVault) (id : KeyId) (s : KeySlot) : KeyVault :=
  ⟨fun i => if i = id then some s else kv.slot i⟩

/-- `KeyVault::erase_key`, once the vault has let the slot be erased. -/
def KeyVault.erase (kv : KeyVault) (id : KeyId) : KeyVault :=
  ⟨fun i => if i = id then none else kv.slot i⟩

/-- An engine's `KeyReadArgs`: modelled from the spec, the read succeeds only for a use the
slot's usage bits authorize. -/
def KeyVault.read (kv : KeyVault) (id : KeyId) (use : KeyUsage → Bool) :
    Except CaliptraError KeyMaterial :=
  match kv.slot id with
  | some s => if use s.usage then .ok s.material else .error .driverError
  | none => .error .driverError

/-! ### What the layer reads and writes -/

/-- The two certificate algorithms of a DICE layer. -/
inductive DiceAlg where
  | ecc
  | mldsa
  deriving DecidableEq

/-- `DiceInput`: the LDevID layer's key pairs, which sign this layer's certificates, with their
subject serial numbers and key ids. -/
structure DiceInput where
  eccAuthPrivKey : KeyId
  eccAuthPubKey : List UInt8
  eccAuthSn : List UInt8
  eccAuthKeyId : List UInt8
  mldsaAuthKeyPairSeed : KeyId
  mldsaAuthPubKey : List UInt8
  mldsaAuthSn : List UInt8
  mldsaAuthKeyId : List UInt8

/-- `DiceOutput`: this layer's key pairs, subject serial numbers and key ids. -/
structure DiceOutput where
  eccSubjPrivKey : KeyId
  eccSubjPubKey : List UInt8
  eccSubjSn : List UInt8
  eccSubjKeyId : List UInt8
  mldsaSubjKeyPairSeed : KeyId
  mldsaSubjPubKey : List UInt8
  mldsaSubjSn : List UInt8
  mldsaSubjKeyId : List UInt8

/-- `NotBefore` and `NotAfter`, the certificate validity `FwProcInfo` carries. -/
structure CertValidity where
  notBefore : List UInt8
  notAfter : List UInt8
  deriving DecidableEq

/-- The `To Be Signed` parameters of an FMC alias certificate, `FmcAliasCertTbsEcc384Params`
and `FmcAliasCertTbsMlDsa87Params`; the MLDSA template calls the two SVN fields
`tcb_info_fmc_svn` and `tcb_info_fmc_svn_fuses`. -/
structure FmcAliasTbsParams where
  ueid : List UInt8
  subjectSn : List UInt8
  subjectKeyId : List UInt8
  issuerSn : List UInt8
  authorityKeyId : List UInt8
  serialNumber : List UInt8
  publicKey : List UInt8
  tcbInfoFmcTci : List UInt8
  tcbInfoDeviceInfoHash : List UInt8
  tcbInfoFlags : List UInt8
  tcbInfoFwSvn : List UInt8
  tcbInfoFwSvnFuses : List UInt8
  notBefore : List UInt8
  notAfter : List UInt8
  deriving DecidableEq

/-- What one certificate of the layer leaves behind: the signature and the public key in the
data vault (`set_fmc_dice_*_signature`, `set_fmc_*_pub_key`) and the TBS `copy_tbs` stores. -/
structure CertRecord where
  signature : Option (List UInt8)
  pubKey : Option (List UInt8)
  tbs : Option (List UInt8)
  deriving DecidableEq

structure DiceState where
  keyVault : KeyVault
  eccCert : CertRecord
  mldsaCert : CertRecord

/-- The record of the `alg` certificate. -/
def DiceState.cert (d : DiceState) : DiceAlg → CertRecord
  | .ecc => d.eccCert
  | .mldsa => d.mldsaCert

/-- `d` with the record of the `alg` certificate changed by `f`. -/
def DiceState.modifyCert (d : DiceState) (alg : DiceAlg) (f : CertRecord → CertRecord) :
    DiceState :=
  match alg with
  | .ecc => { d with eccCert := f d.eccCert }
  | .mldsa => { d with mldsaCert := f d.mldsaCert }

/-- The constants of `caliptra_common` and the drivers the layer uses. -/
structure DiceConsts where
  keyIdRomFmcCdi : KeyId
  keyIdFmcEcdsaPrivKey : KeyId
  keyIdFmcMldsaKeypairSeed : KeyId
  keyIdTmp : KeyId
  flagBitFixedWidth : UInt32
  flagBitNotConfigured : UInt32
  flagBitNotSecure : UInt32
  flagBitDebug : UInt32
  /-- `lifecycle as u8`. -/
  lifecycleCode : Lifecycle → UInt8
  /-- `<[u8; 48]>::from` a digest. -/
  digestBytes : ImageDigest384 → List UInt8
  /-- `Ecc384PubKey::to_der`. -/
  eccPubKeyDer : List UInt8 → List UInt8

/-- The engines, helpers and fuses the layer reaches. -/
structure DiceHardware where
  /-- `hmac_kdf` in HMAC-512 mode: the output for a key, a label and an optional context. -/
  hmacKdf : KeyMaterial → List UInt8 → Option (List UInt8) → Except CaliptraError KeyMaterial
  /-- `Ecc384::key_pair` from a seed: the private key and the public key. -/
  eccKeyPair : KeyMaterial → Except CaliptraError (KeyMaterial × List UInt8)
  /-- `Mldsa87::key_pair` from a seed: the public key. -/
  mldsaKeyPair : KeyMaterial → Except CaliptraError (List UInt8)
  /-- Whether `KeyVault::erase_key` is let erase the slot. -/
  eraseKey : KeyId → Except CaliptraError Unit
  /-- `sha384_digest` and `sha512_digest`. -/
  sha384 : List UInt8 → Except CaliptraError ImageDigest384
  sha512 : List UInt8 → Except CaliptraError ImageDigest512
  /-- `Ecc384::sign` and `Mldsa87::sign`, each checked against the public key. -/
  eccSign : KeyMaterial → List UInt8 → ImageDigest384 → Except CaliptraError (List UInt8)
  mldsaSign : KeyMaterial → List UInt8 → ImageDigest512 → Except CaliptraError (List UInt8)
  /-- `x509::subj_sn` and `x509::subj_key_id` of a `PubKey::Ecc` or `PubKey::Mldsa`. -/
  subjSn : DiceAlg → List UInt8 → Except CaliptraError (List UInt8)
  subjKeyId : DiceAlg → List UInt8 → Except CaliptraError (List UInt8)
  /-- `x509::ecc_cert_sn`, `x509::mldsa_cert_sn` and `x509::ueid`. -/
  eccCertSn : List UInt8 → Except CaliptraError (List UInt8)
  mldsaCertSn : List UInt8 → Except CaliptraError (List UInt8)
  ueid : Except CaliptraError (List UInt8)
  /-- `FmcAliasCertTbsEcc384::new(&params).tbs()` and its MLDSA counterpart. -/
  tbsEcc : FmcAliasTbsParams → List UInt8
  tbsMldsa : FmcAliasTbsParams → List UInt8
  /-- `copy_tbs`: whether the TBS fits the persistent buffer of its type. -/
  copyTbs : DiceAlg → List UInt8 → Except CaliptraError Unit
  /-- `soc_ifc.lifecycle()`, `debug_locked()` and the fuse bank's `anti_rollback_disable()` and
  `vendor_pub_key_info_hash()`. -/
  lifecycle : Lifecycle
  debugLocked : Bool
  antiRollbackDisable : Bool
  vendorPubKeyInfoHash : ImageDigest384

/-- A step of the layer: it may fail, and the state it reached stays. -/
abbrev DiceM := EStateM CaliptraError DiceState

/-- A call whose error the layer propagates with `?`. -/
def DiceM.ofExcept {α : Type} : Except CaliptraError α → DiceM α
  | .ok a => pure a
  | .error e => throw e

/-- A byte string literal, `b"..."`. -/
def byteString (s : String) : List UInt8 := s.toList.map Char.toUInt8

/-! ### `Crypto` -/

namespace Crypto

/-- `Crypto::hmac_kdf`: the KDF keyed by slot `key`, written to slot `output` with the usage
of an HMAC key and of both seeds. -/
def hmacKdf (hw : DiceHardware) (key : KeyId) (label : List UInt8)
    (context : Option (List UInt8)) (output : KeyId) : DiceM Unit := do
  let k ← DiceM.ofExcept ((← get).keyVault.read key (·.hmacKey))
  let out ← DiceM.ofExcept (hw.hmacKdf k label context)
  modify fun d => { d with keyVault := d.keyVault.write output ⟨out, kdfOutputUsage⟩ }

/-- `env.key_vault.erase_key(id)`. -/
def eraseKey (hw : DiceHardware) (id : KeyId) : DiceM Unit := do
  DiceM.ofExcept (hw.eraseKey id)
  modify fun d => { d with keyVault := d.keyVault.erase id }

/-- `env.ecc384.key_pair` from the seed in `seed`, writing the private key to `privKey`; its
result is returned, not propagated. -/
def eccKeyPair (hw : DiceHardware) (seed privKey : KeyId) :
    DiceM (Except CaliptraError (List UInt8)) := do
  let d ← get
  match d.keyVault.read seed (·.eccKeyGenSeed) >>= hw.eccKeyPair with
  | .ok (priv, pub) => do
    set { d with keyVault := d.keyVault.write privKey ⟨priv, eccPrivKeyUsage⟩ }
    pure (.ok pub)
  | .error e => pure (.error e)

/-- `Crypto::ecc384_key_gen`: the KDF into `KEY_ID_TMP`, the key pair from it, then
`KEY_ID_TMP` erased, before the key pair's own error is returned. -/
def ecc384KeyGen (k : DiceConsts) (hw : DiceHardware) (cdi : KeyId) (label : List UInt8)
    (privKey : KeyId) : DiceM (List UInt8) := do
  hmacKdf hw cdi label none k.keyIdTmp
  let pubKey ← eccKeyPair hw k.keyIdTmp privKey
  eraseKey hw k.keyIdTmp
  DiceM.ofExcept pubKey

/-- `Crypto::mldsa_key_gen`: the KDF into the seed slot, then the public key from it. -/
def mldsaKeyGen (hw : DiceHardware) (cdi : KeyId) (label : List UInt8) (keyPairSeed : KeyId) :
    DiceM (List UInt8) := do
  hmacKdf hw cdi label none keyPairSeed
  let seed ← DiceM.ofExcept ((← get).keyVault.read keyPairSeed (·.mldsaKeyGenSeed))
  DiceM.ofExcept (hw.mldsaKeyPair seed)

/-- `Crypto::ecdsa384_sign_and_verify`: the SHA-384 digest of `data`, signed with the private
key in `privKey`. -/
def ecdsa384SignAndVerify (hw : DiceHardware) (privKey : KeyId) (pubKey data : List UInt8) :
    DiceM (List UInt8) := do
  let digest ← DiceM.ofExcept (hw.sha384 data)
  let key ← DiceM.ofExcept ((← get).keyVault.read privKey (·.eccPrivateKey))
  DiceM.ofExcept (hw.eccSign key pubKey digest)

/-- `Crypto::mldsa87_sign_and_verify`: the SHA-512 digest of `data`, signed with the key pair
seeded from `privKey`. -/
def mldsa87SignAndVerify (hw : DiceHardware) (privKey : KeyId) (pubKey data : List UInt8) :
    DiceM (List UInt8) := do
  let digest ← DiceM.ofExcept (hw.sha512 data)
  let seed ← DiceM.ofExcept ((← get).keyVault.read privKey (·.mldsaKeyGenSeed))
  DiceM.ofExcept (hw.mldsaSign seed pubKey digest)

end Crypto

/-! ### `FmcAliasLayer` -/

/-- A `u32` as `to_be_bytes` lays it out. -/
def UInt32.toBEBytes (x : UInt32) : List UInt8 :=
  [(x >>> 24).toUInt8, (x >>> 16).toUInt8, (x >>> 8).toUInt8, x.toUInt8]

/-- `u32::reverse_bits`: bit `i` moves to bit `31 - i`. -/
def UInt32.reverseBits (x : UInt32) : UInt32 :=
  (List.range 32).foldl (fun acc i =>
    acc ||| (((x >>> i.toUInt32) &&& 1) <<< (31 - i).toUInt32)) 0

namespace FmcAliasLayer

/-- `make_flags`: the fixed-width bit, the lifecycle's bit, and the debug bit when debug is
unlocked, bit-reversed and big-endian. -/
def makeFlags (k : DiceConsts) (deviceLifecycle : Lifecycle) (debugLocked : Bool) : List UInt8 :=
  let flags := k.flagBitFixedWidth ||| match deviceLifecycle with
    | .unprovisioned => k.flagBitNotConfigured
    | .manufacturing => k.flagBitNotSecure
    | _ => 0
  let flags := if !debugLocked then flags ||| k.flagBitDebug else flags
  UInt32.toBEBytes (UInt32.reverseBits flags)

/-- The digest both certificate generators hash into `fuse_info_digest`: the lifecycle, the
debug state, the anti-rollback fuse, the data vault's vendor key indices, the PQC key type and
whether the owner key digest is fused, then the vendor key info hash and the owner key hash. -/
def fuseInfoDigest (k : DiceConsts) (hw : DiceHardware) (dv : DataVault)
    (info : FirmwareProcessor.FwProcInfo) : Except CaliptraError ImageDigest384 :=
  hw.sha384 ([k.lifecycleCode hw.lifecycle, hw.debugLocked.toNat.toUInt8,
      hw.antiRollbackDisable.toNat.toUInt8, dv.vendorEccPkIndex.toUInt8,
      dv.vendorPqcPkIndex.toUInt8, info.pqcKeyType, info.ownerPubKeysDigestInFuses.toNat.toUInt8] ++
    k.digestBytes hw.vendorPubKeyInfoHash ++ k.digestBytes dv.ownerPkHash)

/-- What `generate_cert_sig_ecc` and `generate_cert_sig_mldsa` do differently. -/
structure CertSigKind where
  /-- The record the certificate writes. -/
  alg : DiceAlg
  /-- The data vault SVN the certificate carries. -/
  svn : DataVault → UInt32
  /-- `x509::ecc_cert_sn` or `x509::mldsa_cert_sn` of the subject key. -/
  certSn : DiceHardware → List UInt8 → Except CaliptraError (List UInt8)
  /-- The subject key as the TBS holds it: `to_der()`, or the key's bytes. -/
  publicKey : DiceConsts → List UInt8 → List UInt8
  /-- The TBS template. -/
  tbs : DiceHardware → FmcAliasTbsParams → List UInt8
  /-- `Crypto::ecdsa384_sign_and_verify` or `Crypto::mldsa87_sign_and_verify`. -/
  signAndVerify : DiceHardware → KeyId → List UInt8 → List UInt8 → DiceM (List UInt8)

/-- The `To Be Signed` parameters a certificate generator fills in, once it has the UEID, the
certificate serial number and the fuse info digest: the flags of `make_flags`, the data vault's
FMC TCI and SVN, the effective fuse SVN and the validity of `FwProcInfo`. -/
def tbsParams (k : DiceConsts) (hw : DiceHardware) (dataVault : DataVault) (kind : CertSigKind)
    (issuerSn authorityKeyId pubKey subjectSn subjectKeyId : List UInt8)
    (fwProcInfo : FirmwareProcessor.FwProcInfo) (validity : CertValidity)
    (ueid serialNumber : List UInt8) (digest : ImageDigest384) : FmcAliasTbsParams := {
  ueid, subjectSn, subjectKeyId, issuerSn, authorityKeyId, serialNumber
  publicKey := kind.publicKey k pubKey
  tcbInfoFmcTci := k.digestBytes dataVault.fmcTci
  tcbInfoDeviceInfoHash := k.digestBytes digest
  tcbInfoFlags := makeFlags k hw.lifecycle hw.debugLocked
  tcbInfoFwSvn := [(kind.svn dataVault).toUInt8]
  tcbInfoFwSvnFuses := [fwProcInfo.effectiveFuseSvn.toUInt8]
  notBefore := validity.notBefore
  notAfter := validity.notAfter }

/-- The shared body of `generate_cert_sig_ecc` and `generate_cert_sig_mldsa`: the TBS
parameters, the signature with the authority key, the authority key erased, the signature and
public key into the data vault, the TBS into the persistent data. -/
def generateCertSig (k : DiceConsts) (hw : DiceHardware) (rom : RomState) (kind : CertSigKind)
    (authPrivKey : KeyId) (authPubKey issuerSn authorityKeyId : List UInt8)
    (pubKey subjectSn subjectKeyId : List UInt8) (fwProcInfo : FirmwareProcessor.FwProcInfo)
    (validity : CertValidity) : DiceM Unit := do
  let dataVault := rom.dataVault
  let digest ← DiceM.ofExcept (fuseInfoDigest k hw dataVault fwProcInfo)
  let ueid ← DiceM.ofExcept hw.ueid
  let serialNumber ← DiceM.ofExcept (kind.certSn hw pubKey)
  let tbs := kind.tbs hw (tbsParams k hw dataVault kind issuerSn authorityKeyId pubKey subjectSn
    subjectKeyId fwProcInfo validity ueid serialNumber digest)
  let sig ← kind.signAndVerify hw authPrivKey authPubKey tbs
  Crypto.eraseKey hw authPrivKey
  modify fun d =>
    d.modifyCert kind.alg fun r => { r with signature := some sig, pubKey := some pubKey }
  DiceM.ofExcept (hw.copyTbs kind.alg tbs)
  modify fun d => d.modifyCert kind.alg fun r => { r with tbs := some tbs }

/-- The ECC certificate: the cold-boot SVN, `ecc_cert_sn`, the DER key, ECDSA-384. -/
def eccCertSig : CertSigKind where
  alg := .ecc
  svn := DataVault.coldBootFwSvn
  certSn hw := hw.eccCertSn
  publicKey k := k.eccPubKeyDer
  tbs hw := hw.tbsEcc
  signAndVerify := Crypto.ecdsa384SignAndVerify

/-- The MLDSA certificate: the current SVN, `mldsa_cert_sn`, the key's bytes, MLDSA-87. -/
def mldsaCertSig : CertSigKind where
  alg := .mldsa
  svn := DataVault.fwSvn
  certSn hw := hw.mldsaCertSn
  publicKey _ := id
  tbs hw := hw.tbsMldsa
  signAndVerify := Crypto.mldsa87SignAndVerify

/-- `generate_cert_sig_ecc`. -/
def generateCertSigEcc (k : DiceConsts) (hw : DiceHardware) (rom : RomState) (input : DiceInput)
    (output : DiceOutput) (fwProcInfo : FirmwareProcessor.FwProcInfo) (validity : CertValidity) :
    DiceM Unit :=
  generateCertSig k hw rom eccCertSig input.eccAuthPrivKey input.eccAuthPubKey input.eccAuthSn
    input.eccAuthKeyId output.eccSubjPubKey output.eccSubjSn output.eccSubjKeyId fwProcInfo
    validity

/-- `generate_cert_sig_mldsa`. -/
def generateCertSigMldsa (k : DiceConsts) (hw : DiceHardware) (rom : RomState) (input : DiceInput)
    (output : DiceOutput) (fwProcInfo : FirmwareProcessor.FwProcInfo) (validity : CertValidity) :
    DiceM Unit :=
  generateCertSig k hw rom mldsaCertSig input.mldsaAuthKeyPairSeed input.mldsaAuthPubKey
    input.mldsaAuthSn input.mldsaAuthKeyId output.mldsaSubjPubKey output.mldsaSubjSn
    output.mldsaSubjKeyId fwProcInfo validity

/-- `derive_cdi`: the KDF keyed by `cdi` with the measurement as context, into
`KEY_ID_ROM_FMC_CDI`. -/
def deriveCdi (k : DiceConsts) (hw : DiceHardware) (measurements : ImageDigest384) (cdi : KeyId) :
    DiceM Unit :=
  Crypto.hmacKdf hw cdi (byteString "alias_fmc_cdi") (some (k.digestBytes measurements))
    k.keyIdRomFmcCdi

/-- `derive_key_pair`: the ECC key pair, then the MLDSA one, both from `cdi`. -/
def deriveKeyPair (k : DiceConsts) (hw : DiceHardware) (cdi eccPrivKey mldsaKeypairSeed : KeyId) :
    DiceM (List UInt8 × List UInt8) := do
  let eccPubKey ← Crypto.ecc384KeyGen k hw cdi (byteString "alias_fmc_ecc_key") eccPrivKey
  let mldsaPubKey ← Crypto.mldsaKeyGen hw cdi (byteString "alias_fmc_mldsa_key") mldsaKeypairSeed
  pure (eccPubKey, mldsaPubKey)

/-- `FmcAliasLayer::derive`, on the ROM state `process` left; `validity` is the window
`fmc_cert_valid_not_before` and `fmc_cert_valid_not_after` of `FwProcInfo`, which the model's
`FwProcInfo` leaves out. -/
def derive (k : DiceConsts) (hw : DiceHardware) (rom : RomState) (input : DiceInput)
    (fwProcInfo : FirmwareProcessor.FwProcInfo) (validity : CertValidity) : DiceM Unit := do
  deriveCdi k hw rom.pcr0 k.keyIdRomFmcCdi
  let (eccPubKey, mldsaPubKey) ←
    deriveKeyPair k hw k.keyIdRomFmcCdi k.keyIdFmcEcdsaPrivKey k.keyIdFmcMldsaKeypairSeed
  let eccSubjSn ← DiceM.ofExcept (hw.subjSn .ecc eccPubKey)
  let mldsaSubjSn ← DiceM.ofExcept (hw.subjSn .mldsa mldsaPubKey)
  let eccSubjKeyId ← DiceM.ofExcept (hw.subjKeyId .ecc eccPubKey)
  let mldsaSubjKeyId ← DiceM.ofExcept (hw.subjKeyId .mldsa mldsaPubKey)
  let output : DiceOutput := {
    eccSubjPrivKey := k.keyIdFmcEcdsaPrivKey, eccSubjPubKey := eccPubKey, eccSubjSn, eccSubjKeyId
    mldsaSubjKeyPairSeed := k.keyIdFmcMldsaKeypairSeed, mldsaSubjPubKey := mldsaPubKey
    mldsaSubjSn, mldsaSubjKeyId }
  generateCertSigEcc k hw rom input output fwProcInfo validity
  generateCertSigMldsa k hw rom input output fwProcInfo validity

end FmcAliasLayer

end Caliptra
