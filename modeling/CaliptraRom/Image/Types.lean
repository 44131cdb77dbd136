/-
The image bundle as the verifier reads it.

These are the fields of `ImageManifest` and of the records `ImageVerifier::verify` returns,
as far as a modelled function reads or writes them: the certificate validity windows, the
TOC entries' version words and the reserved fields are read only by code that is not
modelled and are left out.  Fixed-width integers keep their width (`UInt8`, `UInt16`,
`UInt32`) and wrap as the ROM's release build does; digests are word vectors of their
exact length, so a digest of the wrong size cannot be built.

The PQC key and signature fields stay raw byte regions.  The verifier only reinterprets them
(`ref_from_prefix`) and hands the views to the environment, so the environment receives the
bytes themselves; the one field it reads out of an LMS key, `digest`, is a view the
`ImageConsts` record supplies.
-/
import Mathlib.Algebra.Group.Nat.Basic
import Mathlib.Data.Vector.Defs
import CaliptraRom.Error

namespace Caliptra

/-- A SHA-384 digest, `[u32; 12]`. -/
abbrev ImageDigest384 := Mathlib.Vector UInt32 12

/-- A SHA-512 digest, `[u32; 16]`. -/
abbrev ImageDigest512 := Mathlib.Vector UInt32 16

/-- `HashValue<SHA192_DIGEST_WORD_SIZE>`: what `lms_verify` returns and an LMS key's `digest`. -/
abbrev HashValue := Mathlib.Vector UInt32 6

/-- `ZERO_DIGEST`. -/
def zeroDigest : ImageDigest384 := Mathlib.Vector.replicate 12 0

/-- The raw bytes of a PQC (LMS or MLDSA) public key field. -/
abbrev ImagePqcPubKey := List UInt8

/-- The raw bytes of a PQC (LMS or MLDSA) signature field. -/
abbrev ImagePqcSignature := List UInt8

structure ImageEccPubKey where
  x : ImageDigest384
  y : ImageDigest384
  deriving DecidableEq

structure ImageEccSignature where
  r : ImageDigest384
  s : ImageDigest384
  deriving DecidableEq

/-- The ECC key descriptor: `key_hash` is `ImageEccKeyHashes`, four digests. -/
structure ImageEccKeyDescriptor where
  version : UInt16
  keyHashCount : UInt8
  keyHash : Mathlib.Vector ImageDigest384 4
  deriving DecidableEq

/-- The PQC key descriptor: `key_hash` is `ImagePqcKeyHashes`, thirty-two digests. -/
structure ImagePqcKeyDescriptor where
  version : UInt16
  keyType : UInt8
  keyHashCount : UInt8
  keyHash : Mathlib.Vector ImageDigest384 32
  deriving DecidableEq

structure ImageVendorPubKeyInfo where
  eccKeyDescriptor : ImageEccKeyDescriptor
  pqcKeyDescriptor : ImagePqcKeyDescriptor
  deriving DecidableEq

structure ImageSignatures where
  eccSig : ImageEccSignature
  pqcSig : ImagePqcSignature
  deriving DecidableEq

structure ImageOwnerPubKeys where
  eccPubKey : ImageEccPubKey
  pqcPubKey : ImagePqcPubKey
  deriving DecidableEq

structure ImagePreamble where
  vendorPubKeyInfo : ImageVendorPubKeyInfo
  vendorEccPubKeyIdx : UInt32
  vendorEccActivePubKey : ImageEccPubKey
  vendorPqcPubKeyIdx : UInt32
  vendorPqcActivePubKey : ImagePqcPubKey
  vendorSigs : ImageSignatures
  ownerPubKeys : ImageOwnerPubKeys
  ownerSigs : ImageSignatures
  deriving DecidableEq

structure ImageHeader where
  vendorEccPubKeyIdx : UInt32
  vendorPqcPubKeyIdx : UInt32
  svn : UInt32
  tocLen : UInt32
  tocDigest : ImageDigest384
  deriving DecidableEq

/-- A TOC entry; offsets and sizes are relative to the start of the bundle. -/
structure ImageTocEntry where
  digest : ImageDigest384
  loadAddr : UInt32
  entryPoint : UInt32
  size : UInt32
  offset : UInt32
  deriving DecidableEq

structure ImageManifest where
  marker : UInt32
  size : UInt32
  pqcKeyType : UInt8
  preamble : ImagePreamble
  header : ImageHeader
  fmc : ImageTocEntry
  runtime : ImageTocEntry
  deriving DecidableEq

inductive ResetReason where
  | coldReset
  | warmReset
  | updateReset
  | unknown
  deriving DecidableEq

inductive Lifecycle where
  | unprovisioned
  | manufacturing
  | production
  deriving DecidableEq

inductive FwVerificationPqcKeyType where
  | lms
  | mldsa
  deriving DecidableEq

inductive Mldsa87Result where
  | success
  | sigVerifyFailed
  deriving DecidableEq

/-- The ECC revocation fuses, a `bitflags` word. -/
structure VendorEccPubKeyRevocation where
  bits : UInt32
  deriving DecidableEq

/-- `Range<u32>`: `start..end`. -/
structure Range32 where
  start : UInt32
  stop : UInt32
  deriving DecidableEq

/-- `Range::len`: the number of values, zero for an empty range. -/
def Range32.len (r : Range32) : UInt32 := if r.start < r.stop then r.stop - r.start else 0

/-- `Range::contains`. -/
def Range32.contains (r : Range32) (x : UInt32) : Bool := r.start ≤ x && x < r.stop

structure ImageVerificationExeInfo where
  loadAddr : UInt32
  entryPoint : UInt32
  digest : ImageDigest384
  size : UInt32
  deriving DecidableEq

structure FirmwareSvnLogInfo where
  manifestSvn : UInt32
  reserved : UInt32
  fuseSvn : UInt32
  deriving DecidableEq

structure ImageVerificationLogInfo where
  vendorEccPubKeyIdx : UInt32
  fuseVendorEccPubKeyRevocation : VendorEccPubKeyRevocation
  fuseVendorPqcPubKeyRevocation : UInt32
  vendorPqcPubKeyIdx : UInt32
  fwLogInfo : FirmwareSvnLogInfo
  deriving DecidableEq

structure ImageVerificationInfo where
  vendorEccPubKeyIdx : UInt32
  vendorPqcPubKeyIdx : UInt32
  ownerPubKeysDigest : ImageDigest384
  ownerPubKeysDigestInFuses : Bool
  fmc : ImageVerificationExeInfo
  runtime : ImageVerificationExeInfo
  fwSvn : UInt32
  effectiveFuseSvn : UInt32
  logInfo : ImageVerificationLogInfo
  pqcKeyType : FwVerificationPqcKeyType
  deriving DecidableEq

end Caliptra
