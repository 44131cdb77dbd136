/-
What the verifier is given: the constants of the image types and the environment.

`ImageVerifier` is generic over `Env: ImageVerificationEnv`, a trait of digest engines,
signature engines, fuse reads, data-vault reads and the ICCM range.  The model is a record of
those methods, and every theorem about the verifier holds for every record.  The ROM supplies
one implementation and the fake ROM another (`src/rom/dev/src/flow/fake.rs`); the latter is
`FakeRomImageVerificationEnv.toEnv` below.  `set_fw_extended_error` only stores a code for
the SoC to read and never feeds back into a result, so it is left out.

The constants, the manifest layout and the enum discriminants come from the image types crate,
which these sources do not contain.  They are the fields of `ImageConsts`, and the verifier is
a function of them: what is proved holds for every choice.
-/
import CaliptraRom.Image.Types

namespace Caliptra

/-- The declarations of `caliptra_image_types` and `caliptra_drivers` the verifier uses. -/
structure ImageConsts where
  manifestMarker : UInt32
  /-- `size_of::<ImageManifest>()`. -/
  manifestSize : UInt32
  /-- `FwVerificationPqcKeyType::LMS as u8` and `FwVerificationPqcKeyType::MLDSA as u8`. -/
  lmsKeyType : UInt8
  mldsaKeyType : UInt8
  keyType_ne : lmsKeyType ≠ mldsaKeyType
  keyDescriptorVersion : UInt16
  vendorEccMaxKeyCount : UInt32
  vendorLmsMaxKeyCount : UInt32
  vendorMldsaMaxKeyCount : UInt32
  maxFirmwareSvn : UInt32
  /-- The bits of `VendorEccPubKeyRevocation::all()`. -/
  eccRevocationFlags : UInt32
  vendorPubKeyDescriptorsRange : Range32
  ownerPubKeyRange : Range32
  headerRange : Range32
  tocRange : Range32
  /-- `offset_of!(ImageHeader, owner_data)`. -/
  vendorHeaderLen : UInt32
  /-- `span_of!(ImagePreamble, vendor_ecc_active_pub_key)` shifted by the preamble's offset. -/
  vendorEccActivePubKeyRange : Range32
  /-- Where `vendor_pqc_active_pub_key` starts, shifted by the preamble's offset. -/
  vendorPqcActivePubKeyStart : UInt32
  lmsPubKeyByteSize : UInt32
  mldsa87PubKeyByteSize : UInt32
  /-- The `digest` field of the `ImageLmsPublicKey` a PQC key field holds. -/
  lmsPubKeyDigest : ImagePqcPubKey → HashValue

/-- `MAX_TOC_ENTRY_COUNT`. Modelled from the spec: "`toc_len == MAX_TOC_ENTRY_COUNT` (=2)". -/
def maxTocEntryCount : UInt32 := 2

/-- `FwVerificationPqcKeyType::from_u8`. -/
def FwVerificationPqcKeyType.fromU8 (c : ImageConsts) (b : UInt8) :
    Option FwVerificationPqcKeyType :=
  if b = c.lmsKeyType then some .lms else if b = c.mldsaKeyType then some .mldsa else none

/-- `pqc_key_type as u8`. -/
def FwVerificationPqcKeyType.toU8 (c : ImageConsts) : FwVerificationPqcKeyType → UInt8
  | .lms => c.lmsKeyType
  | .mldsa => c.mldsaKeyType

/-- `VendorEccPubKeyRevocation::from_bits_truncate`. -/
def VendorEccPubKeyRevocation.fromBitsTruncate (c : ImageConsts) (b : UInt32) :
    VendorEccPubKeyRevocation :=
  ⟨b &&& c.eccRevocationFlags⟩

/-- `bitflags` containment: every bit of `k` is set in `r`. -/
def VendorEccPubKeyRevocation.contains (r k : VendorEccPubKeyRevocation) : Bool :=
  r.bits &&& k.bits == k.bits

/-- The `ImageVerificationEnv` trait. -/
structure ImageVerificationEnv where
  sha384Digest : UInt32 → UInt32 → Except CaliptraError ImageDigest384
  sha512Digest : UInt32 → UInt32 → Except CaliptraError ImageDigest512
  ecc384Verify : ImageDigest384 → ImageEccPubKey → ImageEccSignature →
    Except CaliptraError ImageDigest384
  lmsVerify : ImageDigest384 → ImagePqcPubKey → ImagePqcSignature → Except CaliptraError HashValue
  mldsa87Verify : ImageDigest512 → ImagePqcPubKey → ImagePqcSignature →
    Except CaliptraError Mldsa87Result
  vendorPubKeyInfoDigestFuses : ImageDigest384
  vendorEccPubKeyRevocation : VendorEccPubKeyRevocation
  vendorLmsPubKeyRevocation : UInt32
  vendorMldsaPubKeyRevocation : UInt32
  ownerPubKeyDigestFuses : ImageDigest384
  antiRollbackDisable : Bool
  devLifecycle : Lifecycle
  vendorEccPubKeyIdxDv : UInt32
  vendorPqcPubKeyIdxDv : UInt32
  ownerPubKeyDigestDv : ImageDigest384
  getFmcDigestDv : ImageDigest384
  fwFuseSvn : UInt32
  iccmRange : Range32
  pqcKeyTypeFuse : Except CaliptraError FwVerificationPqcKeyType

/-- The image bytes `image[offset..][..len]`, when they are all there. -/
def imageSlice (image : List UInt8) (offset len : UInt32) : Option (List UInt8) :=
  if offset.toNat + len.toNat ≤ image.length then
    some ((image.drop offset.toNat).take len.toNat)
  else none

/-- The fake ROM's environment: digests over the image slice; the signature engines are used
only in fake-verify mode, and otherwise replaced by mocks that always accept. -/
structure FakeRomImageVerificationEnv where
  image : List UInt8
  /-- The SHA-384 and SHA-512 engines, which may fail. -/
  sha384 : List UInt8 → Except CaliptraError ImageDigest384
  sha512 : List UInt8 → Except CaliptraError ImageDigest512
  /-- `soc_ifc.verify_in_fake_mode()`. -/
  verifyInFakeMode : Bool
  /-- The signature engines, fuses and data vault, as the fake ROM passes them through. -/
  base : ImageVerificationEnv

/-- The fake ROM's `ImageVerificationEnv` implementation. -/
def FakeRomImageVerificationEnv.toEnv (c : ImageConsts) (f : FakeRomImageVerificationEnv) :
    ImageVerificationEnv :=
  { f.base with
    sha384Digest := fun o l => match imageSlice f.image o l with
      | some data => f.sha384 data
      | none => .error .imageVerifierErrDigestOutOfBounds
    sha512Digest := fun o l => match imageSlice f.image o l with
      | some data => f.sha512 data
      | none => .error .imageVerifierErrDigestOutOfBounds
    ecc384Verify := fun d k sig =>
      if f.verifyInFakeMode then f.base.ecc384Verify d k sig else .ok sig.r
    lmsVerify := fun d k sig =>
      if f.verifyInFakeMode then f.base.lmsVerify d k sig else .ok (c.lmsPubKeyDigest k)
    mldsa87Verify := fun d k sig =>
      if f.verifyInFakeMode then f.base.mldsa87Verify d k sig else .ok .success }

end Caliptra
