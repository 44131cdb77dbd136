/-
What each phase of the verifier accepts.

One lemma per function of `verifier.rs`: the function returns `ok r` exactly when the
conditions it tests hold, and `r` is then the value it builds.  Where a phase tests many
things the conditions are a structure whose fields are named after the checks, so the
theorems downstream (soundness, completeness, the update-reset binding) name the check they
use rather than unfolding the phase again.

The conditions are stated in the code's own arithmetic: `UInt32` comparisons, wrapping
subtraction, the masked shift.  Turning them into facts about exact integers is the business
of the theorems that need it.
-/
import CaliptraRom.Proofs.Basic

namespace Caliptra

section

variable {c : ImageConsts} {env : ImageVerificationEnv}

/-! ### Preamble -/

theorem verifyActiveEccPubKeyDigest_eq_ok {p : ImagePreamble} {u : Unit} :
    verifyActiveEccPubKeyDigest c env p = .ok u ↔
      ∃ expected, p.vendorPubKeyInfo.eccKeyDescriptor.keyHash.toList[p.vendorEccPubKeyIdx.toNat]?
          = some expected ∧
        env.sha384Digest c.vendorEccActivePubKeyRange.start c.vendorEccActivePubKeyRange.len
          = .ok expected := by
  simp [verifyActiveEccPubKeyDigest]

theorem verifyActivePqcPubKeyDigest_eq_ok {p : ImagePreamble} {t : FwVerificationPqcKeyType}
    {u : Unit} :
    verifyActivePqcPubKeyDigest c env p t = .ok u ↔
      ∃ expected, p.vendorPubKeyInfo.pqcKeyDescriptor.keyHash.toList[p.vendorPqcPubKeyIdx.toNat]?
          = some expected ∧
        ¬(t = .lms ∧ p.vendorPqcPubKeyIdx ≥ c.vendorLmsMaxKeyCount) ∧
        ¬(t = .mldsa ∧ p.vendorPqcPubKeyIdx ≥ c.vendorMldsaMaxKeyCount) ∧
        env.sha384Digest c.vendorPqcActivePubKeyStart
          (if t = .mldsa then c.mldsa87PubKeyByteSize else c.lmsPubKeyByteSize) = .ok expected := by
  simp only [verifyActivePqcPubKeyDigest, bind_eq_ok, okOr_eq_ok, failIf_eq_ok, mapError_eq_ok,
    not_or, exists_unit, exists_const, not_not]
  constructor
  · rintro ⟨e, he, h, d, hd, rfl⟩
    exact ⟨e, he, h.1, h.2, hd⟩
  · rintro ⟨e, he, h1, h2, hd⟩
    exact ⟨e, he, ⟨h1, h2⟩, e, hd, rfl⟩

/-- The descriptor checks, one field per check. -/
structure KeyDescriptorsOk (c : ImageConsts) (info : ImageVendorPubKeyInfo)
    (t : FwVerificationPqcKeyType) : Prop where
  eccVersion : info.eccKeyDescriptor.version = c.keyDescriptorVersion
  eccCountPos : info.eccKeyDescriptor.keyHashCount ≠ 0
  eccCountLe : ¬info.eccKeyDescriptor.keyHashCount > c.vendorEccMaxKeyCount.toUInt8
  pqcVersion : info.pqcKeyDescriptor.version = c.keyDescriptorVersion
  pqcKeyType : info.pqcKeyDescriptor.keyType = t.toU8 c
  pqcCountPos : info.pqcKeyDescriptor.keyHashCount ≠ 0
  lmsCountLe : t = .lms → ¬info.pqcKeyDescriptor.keyHashCount > c.vendorLmsMaxKeyCount.toUInt8
  mldsaCountLe : t = .mldsa → ¬info.pqcKeyDescriptor.keyHashCount > c.vendorMldsaMaxKeyCount.toUInt8

theorem verifyKeyDescriptors_eq_ok {info : ImageVendorPubKeyInfo} {t : FwVerificationPqcKeyType}
    {u : Unit} : verifyKeyDescriptors c info t = .ok u ↔ KeyDescriptorsOk c info t := by
  simp only [verifyKeyDescriptors, bind_eq_ok, failIf_eq_ok, exists_unit, exists_const, not_or, not_and,
    ne_eq, not_not]
  exact ⟨fun ⟨a, b, d, e, f, g, h⟩ => ⟨a, b, d, e, f, g, h.1, h.2⟩,
    fun ⟨a, b, d, e, f, g, h, i⟩ => ⟨a, b, d, e, f, g, h, i⟩⟩

/-- What a provisioned device checks of the vendor keys. -/
structure VendorKeysOk (c : ImageConsts) (env : ImageVerificationEnv) (p : ImagePreamble)
    (t : FwVerificationPqcKeyType) : Prop where
  fuseDigestNonzero : env.vendorPubKeyInfoDigestFuses ≠ zeroDigest
  descriptors : KeyDescriptorsOk c p.vendorPubKeyInfo t
  infoDigest : env.sha384Digest c.vendorPubKeyDescriptorsRange.start
    c.vendorPubKeyDescriptorsRange.len = .ok env.vendorPubKeyInfoDigestFuses
  activeEcc : verifyActiveEccPubKeyDigest c env p = .ok ()
  activePqc : verifyActivePqcPubKeyDigest c env p t = .ok ()

theorem verifyVendorPubKeyInfoDigest_eq_ok {p : ImagePreamble} {t : FwVerificationPqcKeyType}
    {u : Unit} : verifyVendorPubKeyInfoDigest c env p t = .ok u ↔
      env.devLifecycle = .unprovisioned ∨ VendorKeysOk c env p t := by
  unfold verifyVendorPubKeyInfoDigest
  by_cases hl : env.devLifecycle = .unprovisioned
  · simp [hl]
  · simp only [hl, if_false, false_or, bind_eq_ok, failIf_eq_ok, digestOf_eq_ok,
      verifyKeyDescriptors_eq_ok, exists_unit, exists_const, not_not]
    constructor
    · rintro ⟨h0, hd, d, hdig, heq, he, hp⟩
      exact ⟨h0, hd, heq ▸ hdig, he, hp⟩
    · rintro ⟨h0, hd, hdig, he, hp⟩
      exact ⟨h0, hd, _, hdig, rfl, he, hp⟩

theorem verifyOwnerPkDigest_eq_ok {r : ResetReason} {x : ImageDigest384 × Bool} :
    verifyOwnerPkDigest c env r = .ok x ↔
      env.sha384Digest c.ownerPubKeyRange.start c.ownerPubKeyRange.len = .ok x.1 ∧
        (env.ownerPubKeyDigestFuses ≠ zeroDigest → env.ownerPubKeyDigestFuses = x.1) ∧
        (r = .updateReset → env.ownerPubKeyDigestDv = x.1) ∧
        x.2 = decide (env.ownerPubKeyDigestFuses ≠ zeroDigest) := by
  obtain ⟨d, b⟩ := x
  simp only [verifyOwnerPkDigest, bind_eq_ok, digestOf_eq_ok, failIf_eq_ok, pure_eq_ok,
    exists_unit, exists_const, not_and, not_not, Prod.mk.injEq]
  constructor
  · rintro ⟨a, ha, h1, h2, rfl, rfl⟩
    exact ⟨ha, h1, h2, rfl⟩
  · rintro ⟨ha, h1, h2, rfl⟩
    exact ⟨d, ha, h1, h2, rfl, rfl⟩

/-- `key_hash_count as u32 - 1`, in the source's wrapping `u32` arithmetic. -/
def lastKeyIdx (keyHashCount : UInt8) : UInt32 := keyHashCount.toUInt32 - 1

/-- For a non-zero count the subtraction does not wrap. -/
theorem lastKeyIdx_toNat {k : UInt8} (h : k ≠ 0) : (lastKeyIdx k).toNat = k.toNat - 1 := by
  have hk := UInt8.toNat_ne_zero h
  rw [lastKeyIdx, UInt32.toNat_sub_eq, UInt8.toNat_toUInt32, UInt32.toNat_one]
  have := UInt8.toNat_lt_256 k
  omega

/-- The bound check of a non-zero count accepts exactly the indices below it. -/
theorem not_gt_lastKeyIdx_iff {i : UInt32} {k : UInt8} (hk : k ≠ 0) :
    ¬i > lastKeyIdx k ↔ i.toNat < k.toNat := by
  have := lastKeyIdx_toNat hk
  have := UInt8.toNat_ne_zero hk
  rw [gt_iff_lt, UInt32.lt_iff_toNat_lt]
  omega

/-- Below the count, the last index is the one whose successor is the count. -/
theorem ne_lastKeyIdx_iff {i : UInt32} {k : UInt8} (h : i.toNat < k.toNat) :
    i ≠ lastKeyIdx k ↔ i.toNat + 1 < k.toNat := by
  have := lastKeyIdx_toNat (UInt8.ne_zero_of_lt h)
  rw [ne_eq, UInt32.eq_iff_toNat_eq]
  omega

/-- What the ECC key-index gate accepts. -/
structure EccIdxOk (c : ImageConsts) (env : ImageVerificationEnv) (p : ImagePreamble)
    (r : ResetReason) : Prop where
  inBounds : ¬p.vendorEccPubKeyIdx > lastKeyIdx p.vendorPubKeyInfo.eccKeyDescriptor.keyHashCount
  notRevoked : p.vendorEccPubKeyIdx ≠ lastKeyIdx p.vendorPubKeyInfo.eccKeyDescriptor.keyHashCount →
    env.vendorEccPubKeyRevocation.contains
      (.fromBitsTruncate c (1 <<< p.vendorEccPubKeyIdx)) = false
  updateBinding : r = .updateReset → env.vendorEccPubKeyIdxDv = p.vendorEccPubKeyIdx

theorem verifyVendorEccPkIdx_eq_ok {p : ImagePreamble} {r : ResetReason}
    {x : UInt32 × VendorEccPubKeyRevocation} :
    verifyVendorEccPkIdx c env p r = .ok x ↔
      EccIdxOk c env p r ∧ x = (p.vendorEccPubKeyIdx, env.vendorEccPubKeyRevocation) := by
  simp only [verifyVendorEccPkIdx, bind_eq_ok, failIf_eq_ok, pure_eq_ok, exists_unit, exists_const, not_and,
    not_not, Bool.not_eq_true]
  exact ⟨fun ⟨a, b, d, h⟩ => ⟨⟨a, b, d⟩, h.symm⟩, fun ⟨⟨a, b, d⟩, h⟩ => ⟨a, b, d, h.symm⟩⟩

/-- What the PQC key-index gate accepts, against the active family's revocation word. -/
structure PqcIdxOk (env : ImageVerificationEnv) (p : ImagePreamble) (r : ResetReason)
    (revocation : UInt32) : Prop where
  inBounds : ¬p.vendorPqcPubKeyIdx > lastKeyIdx p.vendorPubKeyInfo.pqcKeyDescriptor.keyHashCount
  notRevoked : p.vendorPqcPubKeyIdx ≠ lastKeyIdx p.vendorPubKeyInfo.pqcKeyDescriptor.keyHashCount →
    revocation &&& (1 <<< p.vendorPqcPubKeyIdx) = 0
  updateBinding : r = .updateReset → env.vendorPqcPubKeyIdxDv = p.vendorPqcPubKeyIdx

theorem verifyVendorPqcPkIdx_eq_ok {p : ImagePreamble} {r : ResetReason} {revocation x : UInt32} :
    verifyVendorPqcPkIdx env p r revocation = .ok x ↔
      PqcIdxOk env p r revocation ∧ x = p.vendorPqcPubKeyIdx := by
  simp only [verifyVendorPqcPkIdx, bind_eq_ok, failIf_eq_ok, pure_eq_ok, exists_unit, exists_const, not_and,
    not_not]
  exact ⟨fun ⟨a, b, d, h⟩ => ⟨⟨a, b, d⟩, h.symm⟩, fun ⟨⟨a, b, d⟩, h⟩ => ⟨a, b, d, h.symm⟩⟩

/-- The record `verify_preamble` returns once its checks pass, given the owner digest. -/
def preambleInfo (env : ImageVerificationEnv) (p : ImagePreamble) (t : FwVerificationPqcKeyType)
    (ownerDigest : ImageDigest384) (inFuses : Bool) : HeaderInfo where
  vendorEccPubKeyIdx := p.vendorEccPubKeyIdx
  vendorPqcPubKeyIdx := p.vendorPqcPubKeyIdx
  vendorEccPubKeyRevocation := env.vendorEccPubKeyRevocation
  vendorEccInfo := (p.vendorEccActivePubKey, p.vendorSigs.eccSig)
  vendorPqcInfo := .ofKeyType t p.vendorPqcActivePubKey p.vendorSigs.pqcSig
  vendorPqcPubKeyRevocation := pqcKeyRevocation env t
  ownerEccInfo := (p.ownerPubKeys.eccPubKey, p.ownerSigs.eccSig)
  ownerPqcInfo := .ofKeyType t p.ownerPubKeys.pqcPubKey p.ownerSigs.pqcSig
  ownerPubKeysDigest := ownerDigest
  ownerPubKeysDigestInFuses := inFuses

theorem verifyPreamble_eq_ok {p : ImagePreamble} {r : ResetReason} {t : FwVerificationPqcKeyType}
    {hi : HeaderInfo} :
    verifyPreamble c env p r t = .ok hi ↔
      (env.devLifecycle = .unprovisioned ∨ VendorKeysOk c env p t) ∧
        EccIdxOk c env p r ∧ PqcIdxOk env p r (pqcKeyRevocation env t) ∧
        ∃ d b, verifyOwnerPkDigest c env r = .ok (d, b) ∧ hi = preambleInfo env p t d b := by
  simp only [verifyPreamble, bind_eq_ok, exists_unit, verifyVendorPubKeyInfoDigest_eq_ok,
    verifyVendorEccPkIdx_eq_ok, verifyVendorPqcPkIdx_eq_ok, pure_eq_ok, Prod.exists, Prod.mk.injEq]
  constructor
  · rintro ⟨hv, d, b, ho, _, _, ⟨he, rfl, rfl⟩, _, ⟨hq, rfl⟩, rfl⟩
    exact ⟨hv, he, hq, d, b, ho, rfl⟩
  · rintro ⟨hv, he, hq, d, b, ho, rfl⟩
    exact ⟨hv, d, b, ho, _, _, ⟨he, rfl, rfl⟩, _, ⟨hq, rfl⟩, rfl⟩

@[simp] theorem preambleInfo_vendorEccPubKeyIdx {p t d b} :
    (preambleInfo env p t d b).vendorEccPubKeyIdx = p.vendorEccPubKeyIdx := rfl

@[simp] theorem preambleInfo_vendorPqcPubKeyIdx {p t d b} :
    (preambleInfo env p t d b).vendorPqcPubKeyIdx = p.vendorPqcPubKeyIdx := rfl

@[simp] theorem preambleInfo_ownerPubKeysDigest {p t d b} :
    (preambleInfo env p t d b).ownerPubKeysDigest = d := rfl

/-! ### Header -/

/-- What the ECC signature check accepts: non-zero key and signature words, and an engine that
returns the signature's `r`. -/
structure EccSigAccepted (env : ImageVerificationEnv) (digest : ImageDigest384)
    (pubKey : ImageEccPubKey) (sig : ImageEccSignature) : Prop where
  pubKeyX : pubKey.x ≠ zeroDigest
  pubKeyY : pubKey.y ≠ zeroDigest
  sigR : sig.r ≠ zeroDigest
  sigS : sig.s ≠ zeroDigest
  verified : env.ecc384Verify digest pubKey sig = .ok sig.r

/-- What the PQC signature check accepts: for LMS, `lms_verify` over the SHA-384 digest returns
the key's own digest; for MLDSA, there is a SHA-512 digest and `mldsa87_verify` over it
succeeds. -/
def PqcSigAccepted (c : ImageConsts) (env : ImageVerificationEnv) :
    PqcKeyInfo → ImageDigest384 → Option ImageDigest512 → Prop
  | .lms pubKey sig, digest384, _ => env.lmsVerify digest384 pubKey sig = .ok (c.lmsPubKeyDigest pubKey)
  | .mldsa pubKey sig, _, digest512 =>
    ∃ d, digest512 = some d ∧ env.mldsa87Verify d pubKey sig = .ok .success

theorem verifyEccSig_eq_ok {d : ImageDigest384} {k : ImageEccPubKey} {sig : ImageEccSignature}
    {isOwner : Bool} {u : Unit} :
    verifyEccSig env d k sig isOwner = .ok u ↔ EccSigAccepted env d k sig := by
  have h : EccSigAccepted env d k sig ↔ (¬(k.x = zeroDigest ∨ k.y = zeroDigest) ∧
      ¬(sig.r = zeroDigest ∨ sig.s = zeroDigest) ∧ env.ecc384Verify d k sig = .ok sig.r) := by
    rw [not_or, not_or]
    exact ⟨fun h => ⟨⟨h.1, h.2⟩, ⟨h.3, h.4⟩, h.5⟩, fun h => ⟨h.1.1, h.1.2, h.2.1.1, h.2.1.2, h.2.2⟩⟩
  rw [h]
  cases isOwner <;> simp [verifyEccSig]

theorem verifyPqcSig_eq_ok {holder : ImageDigestHolder} {info : PqcKeyInfo} {isOwner : Bool}
    {missing : CaliptraError} {u : Unit} :
    verifyPqcSig c env holder info isOwner missing = .ok u ↔
      PqcSigAccepted c env info holder.digest384 holder.digest512 := by
  rcases info with ⟨pk, sig⟩ | ⟨pk, sig⟩
  · cases isOwner <;> simp [verifyPqcSig, verifyLmsSig, PqcSigAccepted]
  · rcases holder with ⟨d384, _ | d512⟩ <;> cases isOwner <;>
      simp [verifyPqcSig, verifyMldsaSig, PqcSigAccepted]

theorem headerDigests512_eq_ok {info : PqcKeyInfo} {v o : Option ImageDigest512} :
    headerDigests512 c env info = .ok (v, o) ↔ match info with
      | .lms _ _ => v = none ∧ o = none
      | .mldsa _ _ => ∃ v' o', env.sha512Digest c.headerRange.start c.vendorHeaderLen = .ok v' ∧
          env.sha512Digest c.headerRange.start c.headerRange.len = .ok o' ∧
          v = some v' ∧ o = some o' := by
  cases info
  · simp only [headerDigests512, pure_eq_ok, Prod.mk.injEq]
    exact ⟨fun ⟨h1, h2⟩ => ⟨h1.symm, h2.symm⟩, fun ⟨h1, h2⟩ => ⟨h1.symm, h2.symm⟩⟩
  · simp only [headerDigests512, bind_eq_ok, mapError_eq_ok, pure_eq_ok, Prod.mk.injEq]
    exact ⟨fun ⟨v', hv, o', ho, h1, h2⟩ => ⟨v', o', hv, ho, h1.symm, h2.symm⟩,
      fun ⟨v', o', hv, ho, h1, h2⟩ => ⟨v', hv, o', ho, h1.symm, h2.symm⟩⟩

/-- What `verify_header` accepts, given the four header digests it computes. -/
structure HeaderSigsOk (c : ImageConsts) (env : ImageVerificationEnv) (header : ImageHeader)
    (info : HeaderInfo) (vendor384 owner384 : ImageDigest384)
    (vendor512 owner512 : Option ImageDigest512) : Prop where
  vendorEcc : EccSigAccepted env vendor384 info.vendorEccInfo.1 info.vendorEccInfo.2
  vendorPqc : PqcSigAccepted c env info.vendorPqcInfo vendor384 vendor512
  eccIdx : header.vendorEccPubKeyIdx = info.vendorEccPubKeyIdx
  pqcIdx : header.vendorPqcPubKeyIdx = info.vendorPqcPubKeyIdx
  ownerEcc : EccSigAccepted env owner384 info.ownerEccInfo.1 info.ownerEccInfo.2
  ownerPqc : PqcSigAccepted c env info.ownerPqcInfo owner384 owner512

theorem verifyHeader_eq_ok {header : ImageHeader} {info : HeaderInfo} {ti : TocInfo} :
    verifyHeader c env header info = .ok ti ↔
      ∃ vendor384 owner384 vendor512 owner512,
        env.sha384Digest c.headerRange.start c.vendorHeaderLen = .ok vendor384 ∧
        env.sha384Digest c.headerRange.start c.headerRange.len = .ok owner384 ∧
        headerDigests512 c env info.vendorPqcInfo = .ok (vendor512, owner512) ∧
        HeaderSigsOk c env header info vendor384 owner384 vendor512 owner512 ∧
        ti = ⟨header.tocLen, header.tocDigest⟩ := by
  simp only [verifyHeader, verifyVendorSig, verifyOwnerSig, bind_eq_ok, exists_unit, mapError_eq_ok,
    digestOf_eq_ok, failIf_eq_ok, not_not, pure_eq_ok, verifyEccSig_eq_ok, verifyPqcSig_eq_ok,
    Prod.exists]
  constructor
  · rintro ⟨v, hv, o, ho, v5, o5, h5, ⟨ve, vp⟩, hie, hip, ⟨oe, op⟩, rfl⟩
    exact ⟨v, o, v5, o5, hv, ho, h5, ⟨ve, vp, hie, hip, oe, op⟩, rfl⟩
  · rintro ⟨v, o, v5, o5, hv, ho, h5, ⟨ve, vp, hie, hip, oe, op⟩, rfl⟩
    exact ⟨v, hv, o, ho, v5, o5, h5, ⟨ve, vp⟩, hie, hip, ⟨oe, op⟩, rfl⟩

/-! ### Table of contents, images, SVN -/

theorem ImageTocEntry.imageRange_eq_ok {e : ImageTocEntry} {r : Range32} :
    e.imageRange = .ok r ↔ e.offset.toNat + e.size.toNat < 2 ^ 32 ∧ r = ⟨e.offset, e.offset + e.size⟩ := by
  unfold ImageTocEntry.imageRange
  split <;> simp_all [eq_comm]

/-- A range that does not wrap has the entry's size as its length. -/
theorem Range32.len_of_lt {o s : UInt32} (h : o.toNat + s.toNat < 2 ^ 32) :
    (⟨o, o + s⟩ : Range32).len = s := by
  show (if o < o + s then o + s - o else 0) = s
  split
  · rw [UInt32.eq_iff_toNat_eq, UInt32.toNat_sub_eq, UInt32.toNat_add_eq]
    have := UInt32.toNat_lt_two_pow o
    omega
  · rename_i hlt
    rw [UInt32.lt_iff_toNat_lt, UInt32.toNat_add_eq] at hlt
    rw [UInt32.eq_iff_toNat_eq]
    simp only [UInt32.toNat_zero]
    omega

/-- What `verify_toc` accepts, in the code's `u32` arithmetic. -/
structure TocOk (c : ImageConsts) (env : ImageVerificationEnv) (m : ImageManifest) (ti : TocInfo)
    (sz : UInt32) : Prop where
  len : ti.len = maxTocEntryCount
  digest : env.sha384Digest c.tocRange.start c.tocRange.len = .ok ti.digest
  fmcSize : m.fmc.size ≠ 0
  runtimeSize : m.runtime.size ≠ 0
  bundleSize : m.size.toNat + m.fmc.size.toNat + m.runtime.size.toNat ≤ sz.toNat
  fmcRange : m.fmc.offset.toNat + m.fmc.size.toNat < 2 ^ 32
  runtimeRange : m.runtime.offset.toNat + m.runtime.size.toNat < 2 ^ 32
  noOverlap : ¬(m.fmc.offset < m.runtime.offset + m.runtime.size ∧
    m.fmc.offset + m.fmc.size > m.runtime.offset)
  order : ¬m.fmc.offset + m.fmc.size > m.runtime.offset
  fmcLoadEnd : m.fmc.loadAddr.toNat + (m.fmc.size - 1).toNat < 2 ^ 32
  runtimeLoadEnd : m.runtime.loadAddr.toNat + (m.runtime.size - 1).toNat < 2 ^ 32
  noLoadOverlap : ¬(m.fmc.loadAddr ≤ m.runtime.loadAddr + (m.runtime.size - 1) ∧
    m.fmc.loadAddr + (m.fmc.size - 1) ≥ m.runtime.loadAddr)

theorem verifyToc_eq_ok {m : ImageManifest} {ti : TocInfo} {sz : UInt32} {ii : ImageInfo} :
    verifyToc c env m ti sz = .ok ii ↔ TocOk c env m ti sz ∧ ii = ⟨m.fmc, m.runtime⟩ := by
  simp only [verifyToc, bind_eq_ok, exists_unit, failIf_eq_ok, digestOf_eq_ok, not_not,
    ImageTocEntry.imageRange_eq_ok, pure_eq_ok, ImageTocEntry.imageSize, UInt32.overflowingAdd,
    decide_eq_true_eq, Nat.not_le, gt_iff_lt, Nat.not_lt]
  constructor
  · rintro ⟨hl, d, hd, rfl, h1, h2, hb, _, ⟨hf, rfl⟩, _, ⟨hr, rfl⟩, ho, hord, hfe, hre, hlo, rfl⟩
    exact ⟨⟨hl, hd, h1, h2, hb, hf, hr, ho, by simpa using hord, hfe, hre, hlo⟩, rfl⟩
  · rintro ⟨⟨hl, hd, h1, h2, hb, hf, hr, ho, hord, hfe, hre, hlo⟩, rfl⟩
    exact ⟨hl, _, hd, rfl, h1, h2, hb, _, ⟨hf, rfl⟩, _, ⟨hr, rfl⟩, ho, by simpa using hord, hfe,
      hre, hlo, rfl⟩

/-- What `verify_fmc` and `verify_runtime` both accept of a TOC entry. -/
structure ExeOk (env : ImageVerificationEnv) (e : ImageTocEntry) : Prop where
  rangeNoOverflow : e.offset.toNat + e.size.toNat < 2 ^ 32
  digest : env.sha384Digest e.offset e.size = .ok e.digest
  loadAddrInIccm : env.iccmRange.contains e.loadAddr = true
  loadEndInIccm : env.iccmRange.contains (e.loadAddr + e.size - 1) = true
  loadAddrAligned : e.loadAddr % 4 = 0
  entryPointInIccm : env.iccmRange.contains e.entryPoint = true
  entryPointAligned : e.entryPoint % 4 = 0

theorem verifyExe_eq_ok {e : ImageTocEntry} {errs : ExeErrors} {d : ImageDigest384} :
    verifyExe env e errs = .ok d ↔ ExeOk env e ∧ d = e.digest := by
  simp only [verifyExe, bind_eq_ok, exists_unit, ImageTocEntry.imageRange_eq_ok, digestOf_eq_ok,
    failIf_eq_ok, not_not, pure_eq_ok, Bool.or_eq_true, Bool.not_eq_true', not_or,
    Bool.not_eq_false]
  constructor
  · rintro ⟨_, ⟨hr, rfl⟩, a, ha, rfl, ⟨h1, h2⟩, h3, h4, h5, rfl⟩
    exact ⟨⟨hr, by rwa [Range32.len_of_lt hr] at ha, h1, h2, h3, h4, h5⟩, rfl⟩
  · rintro ⟨⟨hr, ha, h1, h2, h3, h4, h5⟩, rfl⟩
    exact ⟨_, ⟨hr, rfl⟩, e.digest, by rwa [Range32.len_of_lt hr], rfl, ⟨h1, h2⟩, h3, h4, h5, rfl⟩

theorem verifyFmc_eq_ok {e : ImageTocEntry} {r : ResetReason} {fi : ImageVerificationExeInfo} :
    verifyFmc env e r = .ok fi ↔
      ExeOk env e ∧ (r = .updateReset → e.digest = env.getFmcDigestDv) ∧ fi = e.exeInfo := by
  simp only [verifyFmc, bind_eq_ok, verifyExe_eq_ok, exists_unit, failIf_eq_ok, not_and, not_not,
    pure_eq_ok]
  constructor
  · rintro ⟨_, ⟨he, rfl⟩, hu, rfl⟩
    exact ⟨he, hu, rfl⟩
  · rintro ⟨he, hu, rfl⟩
    exact ⟨_, ⟨he, rfl⟩, hu, rfl⟩

theorem verifyRuntime_eq_ok {e : ImageTocEntry} {ri : ImageVerificationExeInfo} :
    verifyRuntime env e = .ok ri ↔ ExeOk env e ∧ ri = e.exeInfo := by
  simp only [verifyRuntime, bind_eq_ok, verifyExe_eq_ok, pure_eq_ok]
  exact ⟨fun ⟨_, ⟨he, _⟩, h⟩ => ⟨he, h.symm⟩, fun ⟨he, h⟩ => ⟨_, ⟨he, rfl⟩, h.symm⟩⟩

theorem svnCheckRequired_eq_true :
    svnCheckRequired env = true ↔
      env.devLifecycle ≠ .unprovisioned ∧ env.antiRollbackDisable = false := by
  unfold svnCheckRequired
  by_cases hl : env.devLifecycle = .unprovisioned <;> cases env.antiRollbackDisable <;> simp [hl]

theorem verifySvn_eq_ok {svn : UInt32} {u : Unit} :
    verifySvn c env svn = .ok u ↔
      (svnCheckRequired env = true → ¬svn > c.maxFirmwareSvn ∧ ¬svn < env.fwFuseSvn) := by
  unfold verifySvn
  cases svnCheckRequired env <;> simp

/-- The record `verify` returns once every phase has passed. -/
def verifiedInfo (env : ImageVerificationEnv) (m : ImageManifest) (t : FwVerificationPqcKeyType)
    (hi : HeaderInfo) : ImageVerificationInfo where
  vendorEccPubKeyIdx := hi.vendorEccPubKeyIdx
  vendorPqcPubKeyIdx := hi.vendorPqcPubKeyIdx
  ownerPubKeysDigest := hi.ownerPubKeysDigest
  ownerPubKeysDigestInFuses := hi.ownerPubKeysDigestInFuses
  fmc := m.fmc.exeInfo
  runtime := m.runtime.exeInfo
  fwSvn := m.header.svn
  effectiveFuseSvn := effectiveFuseSvn env
  logInfo := {
    vendorEccPubKeyIdx := hi.vendorEccPubKeyIdx
    fuseVendorEccPubKeyRevocation := hi.vendorEccPubKeyRevocation
    fuseVendorPqcPubKeyRevocation := hi.vendorPqcPubKeyRevocation
    vendorPqcPubKeyIdx := hi.vendorPqcPubKeyIdx
    fwLogInfo := ⟨m.header.svn, 0, env.fwFuseSvn⟩ }
  pqcKeyType := t

/-- **`verify` accepts exactly when every phase does**, in the order the source runs them;
the TOC it checks is the header's, and the record it returns is `verifiedInfo`. -/
theorem verify_eq_ok {m : ImageManifest} {sz : UInt32} {r : ResetReason}
    {info : ImageVerificationInfo} :
    verify c env m sz r = .ok info ↔
      ∃ t hi, m.marker = c.manifestMarker ∧ m.size = c.manifestSize ∧
        FwVerificationPqcKeyType.fromU8 c m.pqcKeyType = some t ∧ env.pqcKeyTypeFuse = .ok t ∧
        verifyPreamble c env m.preamble r t = .ok hi ∧
        verifyHeader c env m.header hi = .ok ⟨m.header.tocLen, m.header.tocDigest⟩ ∧
        TocOk c env m ⟨m.header.tocLen, m.header.tocDigest⟩ sz ∧
        ExeOk env m.fmc ∧ (r = .updateReset → m.fmc.digest = env.getFmcDigestDv) ∧
        ExeOk env m.runtime ∧ verifySvn c env m.header.svn = .ok () ∧
        info = verifiedInfo env m t hi := by
  simp only [verify, bind_eq_ok, exists_unit, failIf_eq_ok, not_not, okOr_eq_ok, pure_eq_ok,
    verifyToc_eq_ok, verifyFmc_eq_ok, verifyRuntime_eq_ok]
  constructor
  · rintro ⟨hm, hs, t, ht, t', hf, rfl, hi, hp, ti, hh, _, ⟨hto, rfl⟩, _, ⟨hfe, hfu, rfl⟩, _,
      ⟨hre, rfl⟩, hsv, rfl⟩
    obtain rfl : ti = ⟨m.header.tocLen, m.header.tocDigest⟩ := by
      obtain ⟨_, _, _, _, _, _, _, _, h⟩ := verifyHeader_eq_ok.mp hh
      exact h
    exact ⟨t, hi, hm, hs, ht, hf, hp, hh, hto, hfe, hfu, hre, hsv, rfl⟩
  · rintro ⟨t, hi, hm, hs, ht, hf, hp, hh, hto, hfe, hfu, hre, hsv, rfl⟩
    exact ⟨hm, hs, t, ht, t, hf, rfl, hi, hp, _, hh, _, ⟨hto, rfl⟩, _, ⟨hfe, hfu, rfl⟩, _,
      ⟨hre, rfl⟩, hsv, rfl⟩

end

end Caliptra
