/-
Which bundles `verify` accepts.

`ValidBundle` is the spec's list of conditions on a valid bundle, stated over exact integers
and the environment's answers: the structural checks, the vendor keys in a provisioned
lifecycle, the owner key, the key indices, the four signatures over the header digests, the
TOC and image digests, the geometry of invariants 4 to 7, the SVN gate and, in update reset,
the data-vault bindings.  Nothing in it mentions the order of the checks or `u32` wrapping.

It is not enough.  In the unprovisioned lifecycle the descriptors' key counts are not bounded,
and an ECC index past `VENDOR_ECC_MAX_KEY_COUNT` that is not the last one is rejected as
revoked whatever the fuses say: `from_bits_truncate` drops its bit, and an empty key is
contained in every revocation word.  With the counts bounded in every lifecycle, and the image
types crate's constants as they are (`ImageConsts.Valid`), every valid bundle is accepted
(`verify_complete`).
-/
import CaliptraRom.Proofs.Verifier.Soundness

namespace Caliptra

/-! ### The spec's conditions -/

/-- What the image types crate's constants satisfy: the ECC maximum fits the `u8` count, the
PQC maxima fit the thirty-two descriptor slots, and `all()` has a bit for every ECC key. -/
structure ImageConsts.Valid (c : ImageConsts) : Prop where
  eccMaxLt : c.vendorEccMaxKeyCount.toNat < 256
  lmsMaxLe : c.vendorLmsMaxKeyCount.toNat ≤ 32
  mldsaMaxLe : c.vendorMldsaMaxKeyCount.toNat ≤ 32
  eccFlags : ∀ i < c.vendorEccMaxKeyCount.toNat, c.eccRevocationFlags.toNat.testBit i

/-- The most keys a PQC descriptor of family `t` may declare. -/
def pqcMaxKeyCount (c : ImageConsts) : FwVerificationPqcKeyType → UInt32
  | .lms => c.vendorLmsMaxKeyCount
  | .mldsa => c.vendorMldsaMaxKeyCount

/-- The size of a PQC public key of family `t`. -/
def pqcPubKeyByteSize (c : ImageConsts) : FwVerificationPqcKeyType → UInt32
  | .lms => c.lmsPubKeyByteSize
  | .mldsa => c.mldsa87PubKeyByteSize

/-- Invariant 3: each descriptor declares between one key and its family's maximum. -/
structure KeyCountsValid (c : ImageConsts) (info : ImageVendorPubKeyInfo)
    (t : FwVerificationPqcKeyType) : Prop where
  ecc : 1 ≤ info.eccKeyDescriptor.keyHashCount.toNat ∧
    info.eccKeyDescriptor.keyHashCount.toNat ≤ c.vendorEccMaxKeyCount.toNat
  pqc : 1 ≤ info.pqcKeyDescriptor.keyHashCount.toNat ∧
    info.pqcKeyDescriptor.keyHashCount.toNat ≤ (pqcMaxKeyCount c t).toNat

/-- Invariants 3, 9 and 10: the vendor keys of a provisioned device. -/
structure VendorKeysValid (c : ImageConsts) (env : ImageVerificationEnv) (p : ImagePreamble)
    (t : FwVerificationPqcKeyType) : Prop where
  fuseDigestNonzero : env.vendorPubKeyInfoDigestFuses ≠ zeroDigest
  infoDigest : env.sha384Digest c.vendorPubKeyDescriptorsRange.start
    c.vendorPubKeyDescriptorsRange.len = .ok env.vendorPubKeyInfoDigestFuses
  eccVersion : p.vendorPubKeyInfo.eccKeyDescriptor.version = c.keyDescriptorVersion
  pqcVersion : p.vendorPubKeyInfo.pqcKeyDescriptor.version = c.keyDescriptorVersion
  pqcKeyType : p.vendorPubKeyInfo.pqcKeyDescriptor.keyType = t.toU8 c
  counts : KeyCountsValid c p.vendorPubKeyInfo t
  activeEcc : ∃ d,
    p.vendorPubKeyInfo.eccKeyDescriptor.keyHash.toList[p.vendorEccPubKeyIdx.toNat]? = some d ∧
    env.sha384Digest c.vendorEccActivePubKeyRange.start c.vendorEccActivePubKeyRange.len = .ok d
  activePqc : ∃ d,
    p.vendorPubKeyInfo.pqcKeyDescriptor.keyHash.toList[p.vendorPqcPubKeyIdx.toNat]? = some d ∧
    env.sha384Digest c.vendorPqcActivePubKeyStart (pqcPubKeyByteSize c t) = .ok d

/-- Invariant 12: an index below the count, not revoked unless it is the last. -/
structure KeyIdxValid (count : UInt8) (idx : UInt32) (revoked : Nat → Bool) : Prop where
  inBounds : idx.toNat < count.toNat
  notRevoked : idx.toNat + 1 < count.toNat → ¬revoked idx.toNat

/-- The PQC check of family `t` accepts over the header bytes `[o, o + l)`: `lms_verify` over
their SHA-384 digest returns the key's digest, or there is a SHA-512 digest of them and
`mldsa87_verify` over it succeeds. -/
def PqcSigChecks (c : ImageConsts) (env : ImageVerificationEnv) (o l : UInt32)
    (digest384 : ImageDigest384) (pubKey : ImagePqcPubKey) (sig : ImagePqcSignature) :
    FwVerificationPqcKeyType → Prop
  | .lms => env.lmsVerify digest384 pubKey sig = .ok (c.lmsPubKeyDigest pubKey)
  | .mldsa => ∃ d, env.sha512Digest o l = .ok d ∧ env.mldsa87Verify d pubKey sig = .ok .success

/-- Invariant 7 for one image, and its digest: the load range and the entry point lie in
ICCM, both aligned. -/
structure ExeValid (env : ImageVerificationEnv) (e : ImageTocEntry) : Prop where
  digest : env.sha384Digest e.offset e.size = .ok e.digest
  loadInIccm : env.iccmRange.start.toNat ≤ e.loadAddr.toNat ∧
    e.loadAddr.toNat + e.size.toNat ≤ env.iccmRange.stop.toNat
  entryInIccm : env.iccmRange.start.toNat ≤ e.entryPoint.toNat ∧
    e.entryPoint.toNat < env.iccmRange.stop.toNat
  loadAligned : e.loadAddr.toNat % 4 = 0
  entryAligned : e.entryPoint.toNat % 4 = 0

/-- The spec's conditions on a valid bundle of family `t`, verified for reason `r`. -/
structure ValidBundle (c : ImageConsts) (env : ImageVerificationEnv) (m : ImageManifest)
    (sz : UInt32) (r : ResetReason) (t : FwVerificationPqcKeyType) : Prop where
  marker : m.marker = c.manifestMarker
  size : m.size = c.manifestSize
  pqcKeyType : FwVerificationPqcKeyType.fromU8 c m.pqcKeyType = some t
  pqcKeyTypeFuse : env.pqcKeyTypeFuse = .ok t
  vendorKeys : env.devLifecycle ≠ .unprovisioned → VendorKeysValid c env m.preamble t
  /-- Invariant 11, and the update-reset owner binding. -/
  ownerDigest : ∃ d, env.sha384Digest c.ownerPubKeyRange.start c.ownerPubKeyRange.len = .ok d ∧
    (env.ownerPubKeyDigestFuses ≠ zeroDigest → env.ownerPubKeyDigestFuses = d) ∧
    (r = .updateReset → env.ownerPubKeyDigestDv = d)
  eccIdx : KeyIdxValid m.preamble.vendorPubKeyInfo.eccKeyDescriptor.keyHashCount
    m.preamble.vendorEccPubKeyIdx env.vendorEccPubKeyRevocation.bits.toNat.testBit
  pqcIdx : KeyIdxValid m.preamble.vendorPubKeyInfo.pqcKeyDescriptor.keyHashCount
    m.preamble.vendorPqcPubKeyIdx (pqcKeyRevocation env t).toNat.testBit
  /-- Invariant 13. -/
  headerIdx : m.header.vendorEccPubKeyIdx = m.preamble.vendorEccPubKeyIdx ∧
    m.header.vendorPqcPubKeyIdx = m.preamble.vendorPqcPubKeyIdx
  vendorSigs : ∃ d, env.sha384Digest c.headerRange.start c.vendorHeaderLen = .ok d ∧
    EccSigAccepted env d m.preamble.vendorEccActivePubKey m.preamble.vendorSigs.eccSig ∧
    PqcSigChecks c env c.headerRange.start c.vendorHeaderLen d m.preamble.vendorPqcActivePubKey
      m.preamble.vendorSigs.pqcSig t
  ownerSigs : ∃ d, env.sha384Digest c.headerRange.start c.headerRange.len = .ok d ∧
    EccSigAccepted env d m.preamble.ownerPubKeys.eccPubKey m.preamble.ownerSigs.eccSig ∧
    PqcSigChecks c env c.headerRange.start c.headerRange.len d m.preamble.ownerPubKeys.pqcPubKey
      m.preamble.ownerSigs.pqcSig t
  tocLen : m.header.tocLen = maxTocEntryCount
  tocDigest : env.sha384Digest c.tocRange.start c.tocRange.len = .ok m.header.tocDigest
  /-- Invariant 4. -/
  fmcSize : m.fmc.size ≠ 0
  runtimeSize : m.runtime.size ≠ 0
  /-- Invariant 5: the images lie in the bundle, the FMC first. -/
  runtimeInBundle : m.runtime.offset.toNat + m.runtime.size.toNat ≤ sz.toNat
  fmcFirst : m.fmc.offset.toNat + m.fmc.size.toNat ≤ m.runtime.offset.toNat
  /-- Invariant 6. -/
  bundleSize : m.size.toNat + m.fmc.size.toNat + m.runtime.size.toNat ≤ sz.toNat
  fmc : ExeValid env m.fmc
  runtime : ExeValid env m.runtime
  loadDisjoint : m.fmc.loadAddr.toNat + m.fmc.size.toNat ≤ m.runtime.loadAddr.toNat ∨
    m.runtime.loadAddr.toNat + m.runtime.size.toNat ≤ m.fmc.loadAddr.toNat
  /-- Invariant 8, where SVN gating is active. -/
  svn : env.devLifecycle ≠ .unprovisioned → env.antiRollbackDisable = false →
    m.header.svn.toNat ≤ c.maxFirmwareSvn.toNat ∧ env.fwFuseSvn.toNat ≤ m.header.svn.toNat
  /-- Invariant 14, with the owner binding above. -/
  updateReset : r = .updateReset → env.getFmcDigestDv = m.fmc.digest ∧
    env.vendorEccPubKeyIdxDv = m.preamble.vendorEccPubKeyIdx ∧
    env.vendorPqcPubKeyIdxDv = m.preamble.vendorPqcPubKeyIdx

/-! ### Each phase accepts a valid bundle -/

section

variable {c : ImageConsts} {env : ImageVerificationEnv} {p : ImagePreamble}
  {t : FwVerificationPqcKeyType} {m : ImageManifest} {sz : UInt32} {r : ResetReason}

theorem ImageConsts.Valid.pqcMax_le (hc : c.Valid) : (pqcMaxKeyCount c t).toNat ≤ 32 := by
  cases t
  · exact hc.lmsMaxLe
  · exact hc.mldsaMaxLe

/-- A count between one and `max` passes the code's `u8` comparison with `max as u8`. -/
theorem not_gt_toUInt8 {k : UInt8} {max : UInt32} (hmax : max.toNat < 256)
    (h : k.toNat ≤ max.toNat) : ¬k > max.toUInt8 := by
  show ¬max.toUInt8.toNat < k.toNat
  rw [show max.toUInt8.toNat = max.toNat % 256 from rfl, Nat.mod_eq_of_lt hmax]
  omega

theorem keyDescriptorsOk_of_valid (hc : c.Valid) (h : VendorKeysValid c env p t) :
    KeyDescriptorsOk c p.vendorPubKeyInfo t where
  eccVersion := h.eccVersion
  eccCountPos := by rintro h0; have := h.counts.ecc.1; simp [h0] at this
  eccCountLe := not_gt_toUInt8 hc.eccMaxLt h.counts.ecc.2
  pqcVersion := h.pqcVersion
  pqcKeyType := h.pqcKeyType
  pqcCountPos := by rintro h0; have := h.counts.pqc.1; simp [h0] at this
  lmsCountLe := by
    rintro rfl
    exact not_gt_toUInt8 (by have := hc.lmsMaxLe; omega) h.counts.pqc.2
  mldsaCountLe := by
    rintro rfl
    exact not_gt_toUInt8 (by have := hc.mldsaMaxLe; omega) h.counts.pqc.2

theorem vendorKeysOk_of_valid (hc : c.Valid) (h : VendorKeysValid c env p t)
    (hidx : p.vendorPqcPubKeyIdx.toNat < p.vendorPubKeyInfo.pqcKeyDescriptor.keyHashCount.toNat) :
    VendorKeysOk c env p t where
  fuseDigestNonzero := h.fuseDigestNonzero
  descriptors := keyDescriptorsOk_of_valid hc h
  infoDigest := h.infoDigest
  activeEcc := verifyActiveEccPubKeyDigest_eq_ok.mpr h.activeEcc
  activePqc := by
    obtain ⟨d, hd, hs⟩ := h.activePqc
    have hmax := h.counts.pqc.2
    refine verifyActivePqcPubKeyDigest_eq_ok.mpr ⟨d, hd, ?_, ?_, ?_⟩ <;>
      cases t <;> simp_all [UInt32.le_iff_toNat_le, pqcMaxKeyCount, pqcPubKeyByteSize] <;> omega

theorem eccIdxOk_of_valid (hc : c.Valid)
    (counts : p.vendorPubKeyInfo.eccKeyDescriptor.keyHashCount.toNat ≤ c.vendorEccMaxKeyCount.toNat)
    (h : KeyIdxValid p.vendorPubKeyInfo.eccKeyDescriptor.keyHashCount p.vendorEccPubKeyIdx
      env.vendorEccPubKeyRevocation.bits.toNat.testBit)
    (hu : r = .updateReset → env.vendorEccPubKeyIdxDv = p.vendorEccPubKeyIdx) :
    EccIdxOk c env p r where
  inBounds := (not_gt_lastKeyIdx_iff (UInt8.ne_zero_of_lt h.inBounds)).mpr h.inBounds
  notRevoked hne := by
    have hlt := (ne_lastKeyIdx_iff h.inBounds).mp hne
    have hflag := hc.eccFlags _ (by omega : p.vendorEccPubKeyIdx.toNat < _)
    exact VendorEccPubKeyRevocation.contains_eq_false (UInt32.lt_of_testBit hflag) hflag
      (h.notRevoked hlt)
  updateBinding := hu

theorem pqcIdxOk_of_valid (hc : c.Valid)
    (counts : p.vendorPubKeyInfo.pqcKeyDescriptor.keyHashCount.toNat ≤ (pqcMaxKeyCount c t).toNat)
    (h : KeyIdxValid p.vendorPubKeyInfo.pqcKeyDescriptor.keyHashCount p.vendorPqcPubKeyIdx
      (pqcKeyRevocation env t).toNat.testBit)
    (hu : r = .updateReset → env.vendorPqcPubKeyIdxDv = p.vendorPqcPubKeyIdx) :
    PqcIdxOk env p r (pqcKeyRevocation env t) where
  inBounds := (not_gt_lastKeyIdx_iff (UInt8.ne_zero_of_lt h.inBounds)).mpr h.inBounds
  notRevoked hne := by
    have : (pqcMaxKeyCount c t).toNat ≤ 32 := hc.pqcMax_le
    have := h.inBounds
    exact UInt32.and_one_shiftLeft_eq_zero (by omega)
      (h.notRevoked ((ne_lastKeyIdx_iff h.inBounds).mp hne))
  updateBinding := hu

/-- The PQC conditions give the SHA-512 header digests and both PQC signature checks. -/
theorem headerDigests512_of_checks {v384 o384 : ImageDigest384}
    {vpk opk : ImagePqcPubKey} {vsig osig : ImagePqcSignature}
    (hv : PqcSigChecks c env c.headerRange.start c.vendorHeaderLen v384 vpk vsig t)
    (ho : PqcSigChecks c env c.headerRange.start c.headerRange.len o384 opk osig t) :
    ∃ v512 o512, headerDigests512 c env (.ofKeyType t vpk vsig) = .ok (v512, o512) ∧
      PqcSigAccepted c env (.ofKeyType t vpk vsig) v384 v512 ∧
      PqcSigAccepted c env (.ofKeyType t opk osig) o384 o512 := by
  cases t with
  | lms => exact ⟨none, none, rfl, hv, ho⟩
  | mldsa =>
    obtain ⟨v5, hv5, hvv⟩ := hv
    obtain ⟨o5, ho5, hov⟩ := ho
    exact ⟨some v5, some o5, headerDigests512_eq_ok.mpr ⟨v5, o5, hv5, ho5, rfl, rfl⟩,
      ⟨v5, rfl, hvv⟩, ⟨o5, rfl, hov⟩⟩

theorem verifyHeader_of_valid (valid : ValidBundle c env m sz r t) {d : ImageDigest384}
    {b : Bool} : verifyHeader c env m.header (preambleInfo env m.preamble t d b) =
      .ok ⟨m.header.tocLen, m.header.tocDigest⟩ := by
  obtain ⟨v384, hv, ve, vp⟩ := valid.vendorSigs
  obtain ⟨o384, ho, oe, op⟩ := valid.ownerSigs
  obtain ⟨v512, o512, h5, vp, op⟩ := headerDigests512_of_checks vp op
  exact verifyHeader_eq_ok.mpr ⟨v384, o384, v512, o512, hv, ho, h5,
    ⟨ve, vp, valid.headerIdx.1, valid.headerIdx.2, oe, op⟩, rfl⟩

theorem tocOk_of_valid (valid : ValidBundle c env m sz r t) :
    TocOk c env m ⟨m.header.tocLen, m.header.tocDigest⟩ sz := by
  have := valid.fmcFirst
  have := valid.runtimeInBundle
  have := valid.loadDisjoint
  have := valid.fmc.loadInIccm
  have := valid.runtime.loadInIccm
  have := UInt32.toNat_ne_zero valid.fmcSize
  have := UInt32.toNat_ne_zero valid.runtimeSize
  have := UInt32.toNat_lt_two_pow sz
  have := UInt32.toNat_lt_two_pow env.iccmRange.stop
  have hs := UInt32.toNat_sub_one valid.fmcSize
  have hr := UInt32.toNat_sub_one valid.runtimeSize
  refine ⟨valid.tocLen, valid.tocDigest, valid.fmcSize, valid.runtimeSize, valid.bundleSize,
    by omega, by omega, ?_, ?_, ?_, ?_, ?_⟩ <;>
  simp only [gt_iff_lt, ge_iff_le, UInt32.lt_iff_toNat_lt, UInt32.le_iff_toNat_le,
    UInt32.toNat_add_eq, hs, hr] <;> omega

theorem exeOk_of_valid {e : ImageTocEntry} (h : ExeValid env e) (hs : e.size ≠ 0)
    (hr : e.offset.toNat + e.size.toNat < 2 ^ 32) : ExeOk env e where
  rangeNoOverflow := hr
  digest := h.digest
  loadAddrInIccm := by
    have := h.loadInIccm
    have := UInt32.toNat_ne_zero hs
    rw [Range32.contains_iff]
    omega
  loadEndInIccm := by
    have := h.loadInIccm
    have := UInt32.toNat_ne_zero hs
    have := UInt32.toNat_lt_two_pow env.iccmRange.stop
    rw [Range32.contains_iff, UInt32.toNat_sub_eq, UInt32.toNat_add_eq, UInt32.toNat_one]
    omega
  loadAddrAligned := UInt32.mod_four_eq_zero_iff.mpr h.loadAligned
  entryPointInIccm := Range32.contains_iff.mpr h.entryInIccm
  entryPointAligned := UInt32.mod_four_eq_zero_iff.mpr h.entryAligned

/-- **Completeness.** A valid bundle whose descriptors' key counts are bounded also in the
unprovisioned lifecycle is accepted, and the verifier reports the header's SVN. -/
theorem verify_complete (hc : c.Valid) (valid : ValidBundle c env m sz r t)
    (counts : env.devLifecycle = .unprovisioned → KeyCountsValid c m.preamble.vendorPubKeyInfo t) :
    ∃ info, verify c env m sz r = .ok info ∧ info.fwSvn = m.header.svn := by
  obtain ⟨counts', vendor⟩ : KeyCountsValid c m.preamble.vendorPubKeyInfo t ∧
      (env.devLifecycle = .unprovisioned ∨ VendorKeysOk c env m.preamble t) := by
    by_cases hl : env.devLifecycle = .unprovisioned
    · exact ⟨counts hl, .inl hl⟩
    · exact ⟨(valid.vendorKeys hl).counts,
        .inr (vendorKeysOk_of_valid hc (valid.vendorKeys hl) valid.pqcIdx.inBounds)⟩
  obtain ⟨d, hd, hfuse, hdv⟩ := valid.ownerDigest
  have preamble := verifyPreamble_eq_ok.mpr ⟨vendor,
    eccIdxOk_of_valid hc counts'.ecc.2 valid.eccIdx fun h => (valid.updateReset h).2.1,
    pqcIdxOk_of_valid hc counts'.pqc.2 valid.pqcIdx fun h => (valid.updateReset h).2.2,
    d, _, verifyOwnerPkDigest_eq_ok.mpr ⟨hd, hfuse, hdv, rfl⟩, rfl⟩
  have hsz := UInt32.toNat_lt_two_pow sz
  have := valid.fmcFirst
  have := valid.runtimeInBundle
  have svn : verifySvn c env m.header.svn = .ok () := by
    refine verifySvn_eq_ok.mpr fun h => ?_
    obtain ⟨hl, ha⟩ := svnCheckRequired_eq_true.mp h
    have := valid.svn hl ha
    rw [gt_iff_lt, UInt32.lt_iff_toNat_lt, UInt32.lt_iff_toNat_lt]
    omega
  exact ⟨_, verify_eq_ok.mpr ⟨t, _, valid.marker, valid.size, valid.pqcKeyType,
    valid.pqcKeyTypeFuse, preamble, verifyHeader_of_valid valid, tocOk_of_valid valid,
    exeOk_of_valid valid.fmc valid.fmcSize (by omega), fun h => (valid.updateReset h).1.symm,
    exeOk_of_valid valid.runtime valid.runtimeSize (by omega), svn, rfl⟩, rfl⟩

end

/-! ### The sample bundles -/

theorem sampleConsts_valid : sampleConsts.Valid := ⟨by decide, by decide, by decide, by decide⟩

/-- The sample with one key per descriptor is valid on a manufacturing device. -/
theorem sampleManifest_validBundle :
    ValidBundle sampleConsts (sampleEnv .manufacturing) (sampleManifest 1 0) 32 .coldReset .lms where
  marker := rfl
  size := rfl
  pqcKeyType := rfl
  pqcKeyTypeFuse := rfl
  vendorKeys _ := {
    fuseDigestNonzero := by decide
    infoDigest := rfl
    eccVersion := rfl
    pqcVersion := rfl
    pqcKeyType := rfl
    counts := ⟨by decide, by decide⟩
    activeEcc := ⟨sampleDigest, rfl, rfl⟩
    activePqc := ⟨sampleDigest, rfl, rfl⟩ }
  ownerDigest := ⟨sampleDigest, rfl, fun h => absurd rfl h, nofun⟩
  eccIdx := ⟨by decide, fun _ => by decide⟩
  pqcIdx := ⟨by decide, fun _ => by decide⟩
  headerIdx := ⟨rfl, rfl⟩
  vendorSigs := ⟨sampleDigest, rfl, ⟨by decide, by decide, by decide, by decide, rfl⟩, rfl⟩
  ownerSigs := ⟨sampleDigest, rfl, ⟨by decide, by decide, by decide, by decide, rfl⟩, rfl⟩
  tocLen := rfl
  tocDigest := rfl
  fmcSize := by decide
  runtimeSize := by decide
  runtimeInBundle := by decide
  fmcFirst := by decide
  bundleSize := by decide
  fmc := ⟨rfl, by decide, by decide, by decide, by decide⟩
  runtime := ⟨rfl, by decide, by decide, by decide, by decide⟩
  loadDisjoint := by decide
  svn _ _ := by decide
  updateReset := nofun

theorem verify_complete_sample :
    sampleConsts.Valid ∧
    ValidBundle sampleConsts (sampleEnv .manufacturing) (sampleManifest 1 0) 32 .coldReset .lms ∧
    ((sampleEnv .manufacturing).devLifecycle = .unprovisioned →
      KeyCountsValid sampleConsts (sampleManifest 1 0).preamble.vendorPubKeyInfo .lms) ∧
    ∃ info, verify sampleConsts (sampleEnv .manufacturing) (sampleManifest 1 0) 32 .coldReset =
      .ok info ∧ info.fwSvn = (sampleManifest 1 0).header.svn :=
  ⟨sampleConsts_valid, sampleManifest_validBundle, nofun,
    verify_complete sampleConsts_valid sampleManifest_validBundle nofun⟩

/-- Unprovisioned, with six ECC keys declared and the fifth selected, the sample meets every
condition of `ValidBundle`, yet `verify` reports the key revoked: bit 4 is not in `all()`. -/
theorem verify_rejects_valid_fifth_ecc_key :
    sampleConsts.Valid ∧
    ValidBundle sampleConsts (sampleEnv .unprovisioned) (sampleManifest 6 4) 32 .coldReset .lms ∧
    verify sampleConsts (sampleEnv .unprovisioned) (sampleManifest 6 4) 32 .coldReset =
      .error .imageVerifierErrVendorEccPubKeyRevoked := by
  refine ⟨sampleConsts_valid, ?_, rfl⟩
  exact {
    marker := rfl
    size := rfl
    pqcKeyType := rfl
    pqcKeyTypeFuse := rfl
    vendorKeys := fun h => absurd rfl h
    ownerDigest := ⟨sampleDigest, rfl, fun h => absurd rfl h, nofun⟩
    eccIdx := ⟨by decide, fun _ => by decide⟩
    pqcIdx := ⟨by decide, fun _ => by decide⟩
    headerIdx := ⟨rfl, rfl⟩
    vendorSigs := ⟨sampleDigest, rfl, ⟨by decide, by decide, by decide, by decide, rfl⟩, rfl⟩
    ownerSigs := ⟨sampleDigest, rfl, ⟨by decide, by decide, by decide, by decide, rfl⟩, rfl⟩
    tocLen := rfl
    tocDigest := rfl
    fmcSize := by decide
    runtimeSize := by decide
    runtimeInBundle := by decide
    fmcFirst := by decide
    bundleSize := by decide
    fmc := ⟨rfl, by decide, by decide, by decide, by decide⟩
    runtime := ⟨rfl, by decide, by decide, by decide, by decide⟩
    loadDisjoint := by decide
    svn := fun h => absurd rfl h
    updateReset := nofun }

end Caliptra
