/-
`ImageVerifier`, as `src/image/verify/src/verifier.rs` computes it.

`verify` runs the phases in the source's order (structural checks, preamble, header, TOC,
FMC, runtime, SVN) and the first phase that fails ends it with that phase's error.  Each
`fn` of the source is a definition here under the same name; a `?` after an environment call
is `Except.mapError` to the error the source maps it to.  The CFI laundering and assertions
only re-test a condition on the branch that already established it, so they never fail and
are left out.

Two families in the source do the same thing with different constants: the digest-and-load
checks of `verify_fmc` and `verify_runtime`, and the ECC checks `verify_vendor_sig` inlines and
`verify_ecc_sig` performs for the owner.  Each is one definition here with the source's error
codes as arguments.  `verify_fmc` has one branch `verify_runtime` lacks, the update-reset
digest binding, and keeps it in its own body.
-/
import CaliptraRom.Image.Env

namespace Caliptra

/-- The active key and signature of one PQC family. -/
inductive PqcKeyInfo where
  | lms (pubKey : ImagePqcPubKey) (sig : ImagePqcSignature)
  | mldsa (pubKey : ImagePqcPubKey) (sig : ImagePqcSignature)
  deriving DecidableEq

/-- The view `verify_preamble` takes of a key and signature field for the fuse-selected family. -/
def PqcKeyInfo.ofKeyType : FwVerificationPqcKeyType → ImagePqcPubKey → ImagePqcSignature →
    PqcKeyInfo
  | .lms => .lms
  | .mldsa => .mldsa

structure HeaderInfo where
  vendorEccPubKeyIdx : UInt32
  vendorPqcPubKeyIdx : UInt32
  vendorEccPubKeyRevocation : VendorEccPubKeyRevocation
  vendorEccInfo : ImageEccPubKey × ImageEccSignature
  vendorPqcInfo : PqcKeyInfo
  vendorPqcPubKeyRevocation : UInt32
  ownerEccInfo : ImageEccPubKey × ImageEccSignature
  ownerPqcInfo : PqcKeyInfo
  ownerPubKeysDigest : ImageDigest384
  ownerPubKeysDigestInFuses : Bool
  deriving DecidableEq

structure TocInfo where
  len : UInt32
  digest : ImageDigest384
  deriving DecidableEq

structure ImageInfo where
  fmc : ImageTocEntry
  runtime : ImageTocEntry
  deriving DecidableEq

/-- `ImageDigestHolder`: the SHA-512 digest is there only on the MLDSA path. -/
structure ImageDigestHolder where
  digest384 : ImageDigest384
  digest512 : Option ImageDigest512
  deriving DecidableEq

/-- `u32::overflowing_add`. -/
def UInt32.overflowingAdd (a b : UInt32) : UInt32 × Bool := (a + b, decide (2 ^ 32 ≤ a.toNat + b.toNat))

/-- `ImageTocEntry::image_size`. -/
def ImageTocEntry.imageSize (e : ImageTocEntry) : UInt32 := e.size

/-- Modelled from the spec: `ImageTocEntry::image_range`, the entry's bytes `[offset, offset +
size)` relative to the bundle start, with the end computed by a checked `u32` addition. -/
def ImageTocEntry.imageRange (e : ImageTocEntry) : Except CaliptraError Range32 :=
  if e.offset.toNat + e.size.toNat < 2 ^ 32 then .ok ⟨e.offset, e.offset + e.size⟩
  else .error .imageVerifierErrTocEntryRangeArithmeticOverflow

/-- `if cond { Err(e)? }`. -/
def failIf (cond : Prop) [Decidable cond] (e : CaliptraError) : Except CaliptraError Unit :=
  if cond then .error e else .ok ()

/-- `opt.ok_or(e)?`. -/
def okOr {α : Type} (opt : Option α) (e : CaliptraError) : Except CaliptraError α :=
  match opt with
  | some a => .ok a
  | none => .error e

section

variable (c : ImageConsts) (env : ImageVerificationEnv)

/-- An environment digest over `range`, its engine failure reported as `failure`. -/
def digestOf (range : Range32) (failure : CaliptraError) : Except CaliptraError ImageDigest384 :=
  (env.sha384Digest range.start range.len).mapError fun _ => failure

/-! ### Preamble -/

def verifyActiveEccPubKeyDigest (preamble : ImagePreamble) : Except CaliptraError Unit := do
  let eccKeyIdx := preamble.vendorEccPubKeyIdx
  let expected ← okOr preamble.vendorPubKeyInfo.eccKeyDescriptor.keyHash.toList[eccKeyIdx.toNat]?
    .imageVerifierErrVendorEccPubKeyIndexOutOfBounds
  let actual ← digestOf env c.vendorEccActivePubKeyRange .imageVerifierErrVendorPubKeyDigestFailure
  failIf (expected ≠ actual) .imageVerifierErrVendorEccPubKeyDigestMismatch

def verifyActivePqcPubKeyDigest (preamble : ImagePreamble)
    (pqcKeyType : FwVerificationPqcKeyType) : Except CaliptraError Unit := do
  let pqcKeyIdx := preamble.vendorPqcPubKeyIdx
  -- The source tests `expected.is_none()` together with the family bound, under one error.
  let expected ← okOr preamble.vendorPubKeyInfo.pqcKeyDescriptor.keyHash.toList[pqcKeyIdx.toNat]?
    .imageVerifierErrVendorPqcPubKeyIndexOutOfBounds
  failIf ((pqcKeyType = .lms ∧ pqcKeyIdx ≥ c.vendorLmsMaxKeyCount) ∨
      (pqcKeyType = .mldsa ∧ pqcKeyIdx ≥ c.vendorMldsaMaxKeyCount))
    .imageVerifierErrVendorPqcPubKeyIndexOutOfBounds
  let size := if pqcKeyType = .mldsa then c.mldsa87PubKeyByteSize else c.lmsPubKeyByteSize
  let actual ← (env.sha384Digest c.vendorPqcActivePubKeyStart size).mapError
    fun _ => .imageVerifierErrVendorPubKeyDigestFailure
  failIf (expected ≠ actual) .imageVerifierErrVendorPqcPubKeyDigestMismatch

/-- The descriptor checks `verify_vendor_pub_key_info_digest` makes before hashing. -/
def verifyKeyDescriptors (info : ImageVendorPubKeyInfo) (pqcKeyType : FwVerificationPqcKeyType) :
    Except CaliptraError Unit := do
  failIf (info.eccKeyDescriptor.version ≠ c.keyDescriptorVersion)
    .imageVerifierErrEccKeyDescriptorVersionMismatch
  failIf (info.eccKeyDescriptor.keyHashCount = 0) .imageVerifierErrEccKeyDescriptorInvalidHashCount
  failIf (info.eccKeyDescriptor.keyHashCount > c.vendorEccMaxKeyCount.toUInt8)
    .imageVerifierErrEccKeyDescriptorHashCountGtMax
  failIf (info.pqcKeyDescriptor.version ≠ c.keyDescriptorVersion)
    .imageVerifierErrPqcKeyDescriptorVersionMismatch
  failIf (info.pqcKeyDescriptor.keyType ≠ pqcKeyType.toU8 c)
    .imageVerifierErrPqcKeyDescriptorTypeMismatch
  failIf (info.pqcKeyDescriptor.keyHashCount = 0) .imageVerifierErrPqcKeyDescriptorInvalidHashCount
  failIf ((pqcKeyType = .lms ∧ info.pqcKeyDescriptor.keyHashCount > c.vendorLmsMaxKeyCount.toUInt8) ∨
      (pqcKeyType = .mldsa ∧ info.pqcKeyDescriptor.keyHashCount > c.vendorMldsaMaxKeyCount.toUInt8))
    .imageVerifierErrPqcKeyDescriptorHashCountGtMax

/-- The vendor key check, skipped entirely in the unprovisioned lifecycle. -/
def verifyVendorPubKeyInfoDigest (preamble : ImagePreamble)
    (pqcKeyType : FwVerificationPqcKeyType) : Except CaliptraError Unit :=
  if env.devLifecycle = .unprovisioned then pure () else do
    let expected := env.vendorPubKeyInfoDigestFuses
    failIf (expected = zeroDigest) .imageVerifierErrVendorPubKeyDigestInvalid
    verifyKeyDescriptors c preamble.vendorPubKeyInfo pqcKeyType
    let actual ← digestOf env c.vendorPubKeyDescriptorsRange
      .imageVerifierErrVendorPubKeyDigestFailure
    failIf (expected ≠ actual) .imageVerifierErrVendorPubKeyDigestMismatch
    verifyActiveEccPubKeyDigest c env preamble
    verifyActivePqcPubKeyDigest c env preamble pqcKeyType

/-- The owner key digest, and whether the fuses hold one. -/
def verifyOwnerPkDigest (reason : ResetReason) : Except CaliptraError (ImageDigest384 × Bool) := do
  let actual ← digestOf env c.ownerPubKeyRange .imageVerifierErrOwnerPubKeyDigestFailure
  let fusesDigest := env.ownerPubKeyDigestFuses
  -- A zero fuse digest means the owner key is not fused.
  failIf (fusesDigest ≠ zeroDigest ∧ fusesDigest ≠ actual) .imageVerifierErrOwnerPubKeyDigestMismatch
  failIf (reason = .updateReset ∧ env.ownerPubKeyDigestDv ≠ actual)
    .imageVerifierErrUpdateResetOwnerDigestFailure
  return (actual, fusesDigest ≠ zeroDigest)

def verifyVendorEccPkIdx (preamble : ImagePreamble) (reason : ResetReason) :
    Except CaliptraError (UInt32 × VendorEccPubKeyRevocation) := do
  let keyIdx := preamble.vendorEccPubKeyIdx
  let revocation := env.vendorEccPubKeyRevocation
  let keyHashCount := preamble.vendorPubKeyInfo.eccKeyDescriptor.keyHashCount
  let lastKeyIdx : UInt32 := keyHashCount.toUInt32 - 1
  failIf (keyIdx > lastKeyIdx) .imageVerifierErrVendorEccPubKeyIndexOutOfBounds
  -- The last key index is never revoked.
  let key := VendorEccPubKeyRevocation.fromBitsTruncate c (1 <<< keyIdx)
  failIf (keyIdx ≠ lastKeyIdx ∧ revocation.contains key) .imageVerifierErrVendorEccPubKeyRevoked
  failIf (reason = .updateReset ∧ env.vendorEccPubKeyIdxDv ≠ keyIdx)
    .imageVerifierErrUpdateResetVendorEccPubKeyIdxMismatch
  return (keyIdx, revocation)

def verifyVendorPqcPkIdx (preamble : ImagePreamble) (reason : ResetReason) (revocation : UInt32) :
    Except CaliptraError UInt32 := do
  let keyIdx := preamble.vendorPqcPubKeyIdx
  let keyHashCount := preamble.vendorPubKeyInfo.pqcKeyDescriptor.keyHashCount
  let lastKeyIdx : UInt32 := keyHashCount.toUInt32 - 1
  failIf (keyIdx > lastKeyIdx) .imageVerifierErrVendorPqcPubKeyIndexOutOfBounds
  -- The last key index is never revoked.
  failIf (keyIdx ≠ lastKeyIdx ∧ revocation &&& (1 <<< keyIdx) ≠ 0)
    .imageVerifierErrVendorPqcPubKeyRevoked
  failIf (reason = .updateReset ∧ env.vendorPqcPubKeyIdxDv ≠ keyIdx)
    .imageVerifierErrUpdateResetVendorPqcPubKeyIdxMismatch
  return keyIdx

/-- The revocation word of the active PQC family. -/
def pqcKeyRevocation : FwVerificationPqcKeyType → UInt32
  | .lms => env.vendorLmsPubKeyRevocation
  | .mldsa => env.vendorMldsaPubKeyRevocation

def verifyPreamble (preamble : ImagePreamble) (reason : ResetReason)
    (pqcKeyType : FwVerificationPqcKeyType) : Except CaliptraError HeaderInfo := do
  verifyVendorPubKeyInfoDigest c env preamble pqcKeyType
  let (ownerPubKeysDigest, ownerPubKeysDigestInFuses) ← verifyOwnerPkDigest c env reason
  let (vendorEccPubKeyIdx, vendorEccPubKeyRevocation) ← verifyVendorEccPkIdx c env preamble reason
  let keyRevocation := pqcKeyRevocation env pqcKeyType
  let vendorPqcPubKeyIdx ← verifyVendorPqcPkIdx env preamble reason keyRevocation
  return {
    vendorEccPubKeyIdx, vendorPqcPubKeyIdx, vendorEccPubKeyRevocation,
    ownerPubKeysDigest, ownerPubKeysDigestInFuses
    vendorEccInfo := (preamble.vendorEccActivePubKey, preamble.vendorSigs.eccSig)
    vendorPqcInfo :=
      .ofKeyType pqcKeyType preamble.vendorPqcActivePubKey preamble.vendorSigs.pqcSig
    vendorPqcPubKeyRevocation := keyRevocation
    ownerEccInfo := (preamble.ownerPubKeys.eccPubKey, preamble.ownerSigs.eccSig)
    ownerPqcInfo := .ofKeyType pqcKeyType preamble.ownerPubKeys.pqcPubKey preamble.ownerSigs.pqcSig }

/-! ### Header signatures -/

/-- The ECC signature check, with the owner's or the vendor's error codes. -/
def verifyEccSig (digest : ImageDigest384) (pubKey : ImageEccPubKey) (sig : ImageEccSignature)
    (isOwner : Bool) : Except CaliptraError Unit := do
  let (signatureInvalid, pubKeyInvalidArg, sigInvalidArg) : CaliptraError × CaliptraError × _ :=
    if isOwner then
      (.imageVerifierErrOwnerEccSignatureInvalid, .imageVerifierErrOwnerEccPubKeyInvalidArg,
        .imageVerifierErrOwnerEccSignatureInvalidArg)
    else
      (.imageVerifierErrVendorEccSignatureInvalid, .imageVerifierErrVendorEccPubKeyInvalidArg,
        .imageVerifierErrVendorEccSignatureInvalidArg)
  failIf (pubKey.x = zeroDigest ∨ pubKey.y = zeroDigest) pubKeyInvalidArg
  failIf (sig.r = zeroDigest ∨ sig.s = zeroDigest) sigInvalidArg
  let verifyR ← (env.ecc384Verify digest pubKey sig).mapError fun _ =>
    if isOwner then .imageVerifierErrOwnerEccVerifyFailure else .imageVerifierErrVendorEccVerifyFailure
  failIf (verifyR ≠ sig.r) signatureInvalid

def verifyLmsSig (digest : ImageDigest384) (pubKey : ImagePqcPubKey) (sig : ImagePqcSignature)
    (isOwner : Bool) : Except CaliptraError Unit := do
  let (verifyFailure, signatureInvalid) : CaliptraError × CaliptraError :=
    if isOwner then (.imageVerifierErrOwnerLmsVerifyFailure, .imageVerifierErrOwnerLmsSignatureInvalid)
    else (.imageVerifierErrVendorLmsVerifyFailure, .imageVerifierErrVendorLmsSignatureInvalid)
  let candidateKey ← (env.lmsVerify digest pubKey sig).mapError fun _ => verifyFailure
  failIf (candidateKey ≠ c.lmsPubKeyDigest pubKey) signatureInvalid

def verifyMldsaSig (digest : ImageDigest512) (pubKey : ImagePqcPubKey) (sig : ImagePqcSignature)
    (isOwner : Bool) : Except CaliptraError Unit := do
  let (verifyFailure, signatureInvalid) : CaliptraError × CaliptraError :=
    if isOwner then
      (.imageVerifierErrOwnerMldsaVerifyFailure, .imageVerifierErrOwnerMldsaSignatureInvalid)
    else (.imageVerifierErrVendorMldsaVerifyFailure, .imageVerifierErrVendorMldsaSignatureInvalid)
  let result ← (env.mldsa87Verify digest pubKey sig).mapError fun _ => verifyFailure
  failIf (result ≠ .success) signatureInvalid

/-- The PQC signature check of `verify_vendor_sig` and `verify_owner_sig`; an MLDSA key needs
the SHA-512 digest, and its absence is `digestMissing`. -/
def verifyPqcSig (holder : ImageDigestHolder) (pqcInfo : PqcKeyInfo) (isOwner : Bool)
    (digestMissing : CaliptraError) : Except CaliptraError Unit :=
  match pqcInfo with
  | .lms pubKey sig => verifyLmsSig c env holder.digest384 pubKey sig isOwner
  | .mldsa pubKey sig => match holder.digest512 with
    | some digest512 => verifyMldsaSig env digest512 pubKey sig isOwner
    | none => .error digestMissing

/-- The vendor signatures; the source inlines `verify_ecc_sig` with the vendor error codes. -/
def verifyVendorSig (holder : ImageDigestHolder) (eccInfo : ImageEccPubKey × ImageEccSignature)
    (pqcInfo : PqcKeyInfo) : Except CaliptraError Unit := do
  verifyEccSig env holder.digest384 eccInfo.1 eccInfo.2 false
  verifyPqcSig c env holder pqcInfo false .imageVerifierErrVendorMldsaDigestMissing

def verifyOwnerSig (holder : ImageDigestHolder) (eccInfo : ImageEccPubKey × ImageEccSignature)
    (pqcInfo : PqcKeyInfo) : Except CaliptraError Unit := do
  verifyEccSig env holder.digest384 eccInfo.1 eccInfo.2 true
  verifyPqcSig c env holder pqcInfo true .imageVerifierErrOwnerMldsaDigestMissing

/-- The SHA-512 header digests, computed only when the vendor PQC key is an MLDSA key. -/
def headerDigests512 (pqcInfo : PqcKeyInfo) :
    Except CaliptraError (Option ImageDigest512 × Option ImageDigest512) :=
  match pqcInfo with
  | .lms _ _ => pure (none, none)
  | .mldsa _ _ => do
    let vendorDigest512 ← (env.sha512Digest c.headerRange.start c.vendorHeaderLen).mapError
      fun _ => .imageVerifierErrHeaderDigestFailure
    let ownerDigest512 ← (env.sha512Digest c.headerRange.start c.headerRange.len).mapError
      fun _ => .imageVerifierErrHeaderDigestFailure
    pure (some vendorDigest512, some ownerDigest512)

def verifyHeader (header : ImageHeader) (info : HeaderInfo) : Except CaliptraError TocInfo := do
  -- The vendor digest covers the header up to `owner_data`, the owner digest all of it.
  let vendorDigest384 ← (env.sha384Digest c.headerRange.start c.vendorHeaderLen).mapError
    fun _ => .imageVerifierErrHeaderDigestFailure
  let ownerDigest384 ← digestOf env c.headerRange .imageVerifierErrHeaderDigestFailure
  let (vendorDigest512, ownerDigest512) ← headerDigests512 c env info.vendorPqcInfo
  verifyVendorSig c env ⟨vendorDigest384, vendorDigest512⟩ info.vendorEccInfo info.vendorPqcInfo
  failIf (header.vendorEccPubKeyIdx ≠ info.vendorEccPubKeyIdx)
    .imageVerifierErrVendorEccPubKeyIndexMismatch
  failIf (header.vendorPqcPubKeyIdx ≠ info.vendorPqcPubKeyIdx)
    .imageVerifierErrVendorPqcPubKeyIndexMismatch
  verifyOwnerSig c env ⟨ownerDigest384, ownerDigest512⟩ info.ownerEccInfo info.ownerPqcInfo
  return ⟨header.tocLen, header.tocDigest⟩

/-! ### Table of contents -/

def verifyToc (manifest : ImageManifest) (verifyInfo : TocInfo) (imgBundleSz : UInt32) :
    Except CaliptraError ImageInfo := do
  failIf (verifyInfo.len ≠ maxTocEntryCount) .imageVerifierErrTocEntryCountInvalid
  let actual ← digestOf env c.tocRange .imageVerifierErrTocDigestFailure
  failIf (verifyInfo.digest ≠ actual) .imageVerifierErrTocDigestMismatch
  failIf (manifest.fmc.imageSize = 0) .imageVerifierErrFmcSizeZero
  failIf (manifest.runtime.imageSize = 0) .imageVerifierErrRuntimeSizeZero
  -- The source sums in `u64`, where three `u32` values cannot overflow.
  let imgLen : Nat :=
    manifest.size.toNat + manifest.fmc.imageSize.toNat + manifest.runtime.imageSize.toNat
  failIf (imgLen > imgBundleSz.toNat) .imageVerifierErrImageLenMoreThanBundleSize
  let fmcRange ← manifest.fmc.imageRange
  let runtimeRange ← manifest.runtime.imageRange
  failIf (fmcRange.start < runtimeRange.stop ∧ fmcRange.stop > runtimeRange.start)
    .imageVerifierErrFmcRuntimeOverlap
  failIf (fmcRange.stop > runtimeRange.start) .imageVerifierErrFmcRuntimeIncorrectOrder
  let fmcLoadAddrStart := manifest.fmc.loadAddr
  let (fmcLoadAddrEnd, overflow) :=
    UInt32.overflowingAdd fmcLoadAddrStart (manifest.fmc.imageSize - 1)
  failIf overflow .imageVerifierErrFmcLoadAddressImageSizeArithmeticOverflow
  let runtimeLoadAddrStart := manifest.runtime.loadAddr
  let (runtimeLoadAddrEnd, overflow) :=
    UInt32.overflowingAdd runtimeLoadAddrStart (manifest.runtime.imageSize - 1)
  failIf overflow .imageVerifierErrRuntimeLoadAddressImageSizeArithmeticOverflow
  failIf (fmcLoadAddrStart ≤ runtimeLoadAddrEnd ∧ fmcLoadAddrEnd ≥ runtimeLoadAddrStart)
    .imageVerifierErrFmcRuntimeLoadAddrOverlap
  return ⟨manifest.fmc, manifest.runtime⟩

/-! ### FMC and runtime -/

/-- The error codes of one image's checks in `verify_fmc` or `verify_runtime`. -/
structure ExeErrors where
  digestFailure : CaliptraError
  digestMismatch : CaliptraError
  loadAddrInvalid : CaliptraError
  loadAddrUnaligned : CaliptraError
  entryPointInvalid : CaliptraError
  entryPointUnaligned : CaliptraError

/-- What `verify_fmc` and `verify_runtime` share: the image digest, then the load range and
entry point against the ICCM. Returns the digest it computed. -/
def verifyExe (verifyInfo : ImageTocEntry) (errs : ExeErrors) :
    Except CaliptraError ImageDigest384 := do
  let range ← verifyInfo.imageRange
  let actual ← digestOf env range errs.digestFailure
  failIf (verifyInfo.digest ≠ actual) errs.digestMismatch
  -- Overflow of `load_addr + size - 1` is ruled out by `verify_toc`.
  failIf (!env.iccmRange.contains verifyInfo.loadAddr ||
      !env.iccmRange.contains (verifyInfo.loadAddr + verifyInfo.size - 1)) errs.loadAddrInvalid
  failIf (verifyInfo.loadAddr % 4 ≠ 0) errs.loadAddrUnaligned
  failIf (!env.iccmRange.contains verifyInfo.entryPoint) errs.entryPointInvalid
  failIf (verifyInfo.entryPoint % 4 ≠ 0) errs.entryPointUnaligned
  return actual

/-- The record `verify_fmc` and `verify_runtime` return. -/
def ImageTocEntry.exeInfo (e : ImageTocEntry) : ImageVerificationExeInfo :=
  ⟨e.loadAddr, e.entryPoint, e.digest, e.size⟩

def fmcErrors : ExeErrors :=
  ⟨.imageVerifierErrFmcDigestFailure, .imageVerifierErrFmcDigestMismatch,
    .imageVerifierErrFmcLoadAddrInvalid, .imageVerifierErrFmcLoadAddrUnaligned,
    .imageVerifierErrFmcEntryPointInvalid, .imageVerifierErrFmcEntryPointUnaligned⟩

def runtimeErrors : ExeErrors :=
  ⟨.imageVerifierErrRuntimeDigestFailure, .imageVerifierErrRuntimeDigestMismatch,
    .imageVerifierErrRuntimeLoadAddrInvalid, .imageVerifierErrRuntimeLoadAddrUnaligned,
    .imageVerifierErrRuntimeEntryPointInvalid, .imageVerifierErrRuntimeEntryPointUnaligned⟩

def verifyFmc (verifyInfo : ImageTocEntry) (reason : ResetReason) :
    Except CaliptraError ImageVerificationExeInfo := do
  let actual ← verifyExe env verifyInfo fmcErrors
  failIf (reason = .updateReset ∧ actual ≠ env.getFmcDigestDv)
    .imageVerifierErrUpdateResetFmcDigestMismatch
  return verifyInfo.exeInfo

def verifyRuntime (verifyInfo : ImageTocEntry) : Except CaliptraError ImageVerificationExeInfo := do
  let _ ← verifyExe env verifyInfo runtimeErrors
  return verifyInfo.exeInfo

/-! ### SVN -/

/-- The SVN is checked unless the device is unprovisioned or anti-rollback is disabled. -/
def svnCheckRequired : Bool :=
  if env.devLifecycle = .unprovisioned then false
  else if env.antiRollbackDisable then false
  else true

def verifySvn (fwSvn : UInt32) : Except CaliptraError Unit :=
  if svnCheckRequired env then do
    failIf (fwSvn > c.maxFirmwareSvn) .imageVerifierErrFirmwareSvnGreaterThanMaxSupported
    failIf (fwSvn < env.fwFuseSvn) .imageVerifierErrFirmwareSvnLessThanFuse
  else pure ()

/-- Zero when anti-rollback is disabled, the fuse SVN otherwise. -/
def effectiveFuseSvn : UInt32 := if env.antiRollbackDisable then 0 else env.fwFuseSvn

/-! ### The whole verification -/

def verify (manifest : ImageManifest) (imgBundleSz : UInt32) (reason : ResetReason) :
    Except CaliptraError ImageVerificationInfo := do
  failIf (manifest.marker ≠ c.manifestMarker) .imageVerifierErrManifestMarkerMismatch
  failIf (manifest.size ≠ c.manifestSize) .imageVerifierErrManifestSizeMismatch
  let pqcKeyType ← okOr (FwVerificationPqcKeyType.fromU8 c manifest.pqcKeyType)
    .imageVerifierErrPqcKeyTypeInvalid
  let pqcKeyTypeFuse ← env.pqcKeyTypeFuse
  failIf (pqcKeyType ≠ pqcKeyTypeFuse) .imageVerifierErrPqcKeyTypeMismatch
  let headerInfo ← verifyPreamble c env manifest.preamble reason pqcKeyType
  let tocInfo ← verifyHeader c env manifest.header headerInfo
  let imageInfo ← verifyToc c env manifest tocInfo imgBundleSz
  let fmcInfo ← verifyFmc env imageInfo.fmc reason
  let runtimeInfo ← verifyRuntime env imageInfo.runtime
  verifySvn c env manifest.header.svn
  return {
    vendorEccPubKeyIdx := headerInfo.vendorEccPubKeyIdx
    vendorPqcPubKeyIdx := headerInfo.vendorPqcPubKeyIdx
    ownerPubKeysDigest := headerInfo.ownerPubKeysDigest
    ownerPubKeysDigestInFuses := headerInfo.ownerPubKeysDigestInFuses
    fmc := fmcInfo
    runtime := runtimeInfo
    fwSvn := manifest.header.svn
    effectiveFuseSvn := effectiveFuseSvn env
    logInfo := {
      vendorEccPubKeyIdx := headerInfo.vendorEccPubKeyIdx
      fuseVendorEccPubKeyRevocation := headerInfo.vendorEccPubKeyRevocation
      fuseVendorPqcPubKeyRevocation := headerInfo.vendorPqcPubKeyRevocation
      vendorPqcPubKeyIdx := headerInfo.vendorPqcPubKeyIdx
      fwLogInfo := ⟨manifest.header.svn, 0, env.fwFuseSvn⟩ }
    pqcKeyType }

end

end Caliptra
