/-
What an accepted bundle satisfies of the spec's conditions.

`Completeness.lean` shows that a bundle meeting the spec's conditions is accepted.  This is the
other direction, condition by condition, over exact integers.  In a provisioned lifecycle the
vendor keys of an accepted manifest are what `VendorKeysValid` asks: the fuses hold the digest
of the descriptor region, the descriptors are well formed for the manifest's PQC family, and the
active keys hash to the entries the preamble selects.  In every lifecycle the reported owner
digest is the digest of the owner key region (`verify_keyProvenance`).  The sizes, offsets and
load ranges have the geometry of invariants 4 to 7 (`verify_imageGeometry`): the `u32`
arithmetic that decides them is exact wherever the checks before it have passed, the load end
`load_addr + size - 1` included, whose first addition may wrap to `0` and is then undone by the
subtraction.  In a provisioned lifecycle, with the image types crate's constants, the key-index
gates' `key_hash_count - 1` and `1 << idx` are exact too (`verify_u32_arithmetic_exact`).

Two things are not checked.  `verify_toc` compares the images with each other and their total
size with the bundle size, but never an offset with the manifest size or the bundle size, so it
accepts an FMC inside the manifest and a runtime past the end of the bundle
(`verify_accepts_images_outside_bundle`).  And the `u32` arithmetic is not exact everywhere it is
reached: in the unprovisioned lifecycle, where the descriptors go unchecked, the key-index gate
computes `0 - 1` and shifts by more than 31 bits, and over an ICCM that reaches the top of the
address space the load end of an image ending there is computed through `load_addr + size =
2 ^ 32` (`verify_wraps_u32_arithmetic`).
-/
import CaliptraRom.Proofs.Verifier.Completeness

namespace Caliptra

section

variable {c : ImageConsts} {env : ImageVerificationEnv} {m : ImageManifest} {sz : UInt32}
  {r : ResetReason} {info : ImageVerificationInfo} {p : ImagePreamble}
  {t : FwVerificationPqcKeyType}

/-! ### The keys -/

/-- A count that passes the code's `u8` comparison with `max as u8` is at most `max`, whatever
`max` is: past `255` every `u8` is below it. -/
theorem toNat_le_of_not_gt_toUInt8 {k : UInt8} {max : UInt32} (h : ¬k > max.toUInt8) :
    k.toNat ≤ max.toNat := by
  have hk := UInt8.toNat_lt_256 k
  have h' : ¬max.toUInt8.toNat < k.toNat := h
  rw [show max.toUInt8.toNat = max.toNat % 256 from rfl] at h'
  omega

/-- The descriptor checks bound both counts by their family's maximum. -/
theorem KeyDescriptorsOk.counts {vinfo : ImageVendorPubKeyInfo} (h : KeyDescriptorsOk c vinfo t) :
    KeyCountsValid c vinfo t where
  ecc := ⟨Nat.pos_of_ne_zero (UInt8.toNat_ne_zero h.eccCountPos),
    toNat_le_of_not_gt_toUInt8 h.eccCountLe⟩
  pqc := by
    refine ⟨Nat.pos_of_ne_zero (UInt8.toNat_ne_zero h.pqcCountPos), ?_⟩
    cases t
    · exact toNat_le_of_not_gt_toUInt8 (h.lmsCountLe rfl)
    · exact toNat_le_of_not_gt_toUInt8 (h.mldsaCountLe rfl)

/-- What a provisioned device checks of the vendor keys is what the spec asks of them. -/
theorem VendorKeysOk.valid (h : VendorKeysOk c env p t) : VendorKeysValid c env p t where
  fuseDigestNonzero := h.fuseDigestNonzero
  infoDigest := h.infoDigest
  eccVersion := h.descriptors.eccVersion
  pqcVersion := h.descriptors.pqcVersion
  pqcKeyType := h.descriptors.pqcKeyType
  counts := h.descriptors.counts
  activeEcc := verifyActiveEccPubKeyDigest_eq_ok.mp h.activeEcc
  activePqc := by
    obtain ⟨d, hd, -, -, hs⟩ := verifyActivePqcPubKeyDigest_eq_ok.mp h.activePqc
    exact ⟨d, hd, by cases t <;> simpa [pqcPubKeyByteSize] using hs⟩

/-- The family `from_u8` reads is the byte it was read from. -/
theorem FwVerificationPqcKeyType.toU8_of_fromU8 {b : UInt8}
    (h : FwVerificationPqcKeyType.fromU8 c b = some t) : t.toU8 c = b := by
  unfold FwVerificationPqcKeyType.fromU8 at h
  split_ifs at h with h₁ h₂ <;> cases h
  · exact h₁.symm
  · exact h₂.symm

/-- **Where an accepted manifest's keys come from.**  In a provisioned lifecycle the fuses
hold the non-zero digest of the vendor key descriptors, the descriptors are well formed for the
manifest's PQC family, and the active vendor keys hash to the descriptor entries the preamble
selects.  In every lifecycle the reported owner digest is the digest of the owner key region,
it is the fused one whenever one is fused, and the verifier reports whether one is. -/
theorem verify_keyProvenance (accepted : verify c env m sz r = .ok info) :
    (env.devLifecycle ≠ .unprovisioned → VendorKeysValid c env m.preamble info.pqcKeyType ∧
      m.preamble.vendorPubKeyInfo.pqcKeyDescriptor.keyType = m.pqcKeyType) ∧
    env.sha384Digest c.ownerPubKeyRange.start c.ownerPubKeyRange.len =
      .ok info.ownerPubKeysDigest ∧
    (env.ownerPubKeyDigestFuses ≠ zeroDigest →
      env.ownerPubKeyDigestFuses = info.ownerPubKeysDigest) ∧
    (info.ownerPubKeysDigestInFuses = true ↔ env.ownerPubKeyDigestFuses ≠ zeroDigest) := by
  obtain ⟨t, hi, -, -, ht, -, hp, -, -, -, -, -, -, rfl⟩ := verify_eq_ok.mp accepted
  obtain ⟨hv, -, -, d, b, ho, rfl⟩ := verifyPreamble_eq_ok.mp hp
  obtain ⟨hd, hfuse, -, rfl⟩ := verifyOwnerPkDigest_eq_ok.mp ho
  refine ⟨fun hl => ?_, hd, hfuse, by simp [verifiedInfo, preambleInfo]⟩
  have hk := (hv.resolve_left hl).valid
  exact ⟨hk, hk.pqcKeyType.trans (FwVerificationPqcKeyType.toU8_of_fromU8 ht)⟩

/-! ### The geometry of the images -/

/-- Invariants 4 to 7 as `verify` checks them, over exact integers: non-empty images whose
sizes fit the bundle, the FMC before the runtime, each loaded into ICCM at an aligned address
with an aligned entry point there, and the two load ranges apart. -/
structure ImageGeometry (env : ImageVerificationEnv) (m : ImageManifest) (sz : UInt32) :
    Prop where
  fmcSize : 0 < m.fmc.size.toNat
  runtimeSize : 0 < m.runtime.size.toNat
  bundleSize : m.size.toNat + m.fmc.size.toNat + m.runtime.size.toNat ≤ sz.toNat
  fmcFirst : m.fmc.offset.toNat + m.fmc.size.toNat ≤ m.runtime.offset.toNat
  fmc : ExeValid env m.fmc
  runtime : ExeValid env m.runtime
  loadDisjoint : m.fmc.loadAddr.toNat + m.fmc.size.toNat ≤ m.runtime.loadAddr.toNat ∨
    m.runtime.loadAddr.toNat + m.runtime.size.toNat ≤ m.fmc.loadAddr.toNat

/-- The load end `load_addr + size - 1` of the image checks, left to right in `u32`, is the
exact one once `verify_toc` has ruled out the overflow of `load_addr + (size - 1)`, also when
`load_addr + size` itself wraps to `0`. -/
theorem loadEnd_toNat {e : ImageTocEntry} (hs : e.size ≠ 0)
    (hend : e.loadAddr.toNat + (e.size - 1).toNat < 2 ^ 32) :
    (e.loadAddr + e.size - 1).toNat = e.loadAddr.toNat + e.size.toNat - 1 := by
  have := UInt32.toNat_sub_one hs
  have := UInt32.toNat_ne_zero hs
  rw [UInt32.toNat_sub_eq, UInt32.toNat_add_eq, UInt32.toNat_one]
  omega

theorem ExeOk.valid {e : ImageTocEntry} (h : ExeOk env e) (hs : e.size ≠ 0)
    (hend : e.loadAddr.toNat + (e.size - 1).toNat < 2 ^ 32) : ExeValid env e where
  digest := h.digest
  loadInIccm := by
    have h₁ := Range32.contains_iff.mp h.loadAddrInIccm
    have h₂ := Range32.contains_iff.mp h.loadEndInIccm
    rw [loadEnd_toNat hs hend] at h₂
    have := UInt32.toNat_ne_zero hs
    omega
  entryInIccm := Range32.contains_iff.mp h.entryPointInIccm
  loadAligned := UInt32.mod_four_eq_zero_iff.mp h.loadAddrAligned
  entryAligned := UInt32.mod_four_eq_zero_iff.mp h.entryPointAligned

theorem TocOk.geometry {ti : TocInfo} (h : TocOk c env m ti sz) (hf : ExeOk env m.fmc)
    (hr : ExeOk env m.runtime) : ImageGeometry env m sz := by
  have hfs := UInt32.toNat_sub_one h.fmcSize
  have hrs := UInt32.toNat_sub_one h.runtimeSize
  have := UInt32.toNat_ne_zero h.fmcSize
  have := UInt32.toNat_ne_zero h.runtimeSize
  refine ⟨by omega, by omega, h.bundleSize, ?_, hf.valid h.fmcSize h.fmcLoadEnd,
    hr.valid h.runtimeSize h.runtimeLoadEnd, ?_⟩
  · have order := h.order
    simp only [gt_iff_lt, UInt32.lt_iff_toNat_lt, UInt32.toNat_add_of_lt h.fmcRange] at order
    omega
  · have apart := h.noLoadOverlap
    simp only [ge_iff_le, UInt32.le_iff_toNat_le, UInt32.toNat_add_of_lt h.fmcLoadEnd,
      UInt32.toNat_add_of_lt h.runtimeLoadEnd, hfs, hrs] at apart
    omega

/-- **The geometry of an accepted bundle.**  Over exact integers, both images are non-empty
and their sizes with the manifest's fit the bundle size, the FMC ends before the runtime
starts, each load range lies in ICCM at an aligned address, each entry point lies in ICCM and
is aligned, and the two load ranges are disjoint. -/
theorem verify_imageGeometry (accepted : verify c env m sz r = .ok info) :
    ImageGeometry env m sz := by
  obtain ⟨-, -, -, -, -, -, -, -, hto, hfe, -, hre, -, -⟩ := verify_eq_ok.mp accepted
  exact hto.geometry hfe hre

/-! ### Where the `u32` arithmetic is exact

In a provisioned lifecycle the descriptors are checked, and with the crate's constants their
counts bound the key indices below 32. -/

theorem ImageConsts.Valid.eccMax_le (hc : c.Valid) : c.vendorEccMaxKeyCount.toNat ≤ 32 :=
  Nat.le_of_not_lt fun h => Nat.lt_irrefl _ (UInt32.lt_of_testBit (hc.eccFlags 32 h))

/-- With the crate's constants, the key indices a provisioned device accepts are below 32. -/
theorem verify_keyIdx_lt_32 (hc : c.Valid) (accepted : verify c env m sz r = .ok info)
    (hprov : env.devLifecycle ≠ .unprovisioned) :
    m.preamble.vendorEccPubKeyIdx.toNat < 32 ∧ m.preamble.vendorPqcPubKeyIdx.toNat < 32 := by
  obtain ⟨t, hi, -, -, -, -, hp, -⟩ := verify_eq_ok.mp accepted
  obtain ⟨hv, he, hq, -⟩ := verifyPreamble_eq_ok.mp hp
  have hk := (hv.resolve_left hprov).descriptors
  have := (not_gt_lastKeyIdx_iff hk.eccCountPos).mp he.inBounds
  have := (not_gt_lastKeyIdx_iff hk.pqcCountPos).mp hq.inBounds
  have := hk.counts.ecc.2
  have := hk.counts.pqc.2
  have := hc.eccMax_le
  have := hc.pqcMax_le (t := t)
  omega

/-- **Where the `u32` arithmetic is exact.**  In a provisioned lifecycle, with the crate's
constants, an accepted run subtracts `1` from key counts of at least one, shifts `1` by key
indices below 32 only, subtracts `1` from non-zero image sizes, and computes both load ends
`load_addr + size - 1` with their exact values. -/
theorem verify_u32_arithmetic_exact (hc : c.Valid) (accepted : verify c env m sz r = .ok info)
    (hprov : env.devLifecycle ≠ .unprovisioned) :
    (lastKeyIdx m.preamble.vendorPubKeyInfo.eccKeyDescriptor.keyHashCount).toNat + 1 =
      m.preamble.vendorPubKeyInfo.eccKeyDescriptor.keyHashCount.toNat ∧
    (lastKeyIdx m.preamble.vendorPubKeyInfo.pqcKeyDescriptor.keyHashCount).toNat + 1 =
      m.preamble.vendorPubKeyInfo.pqcKeyDescriptor.keyHashCount.toNat ∧
    ((1 : UInt32) <<< m.preamble.vendorEccPubKeyIdx).toNat =
      2 ^ m.preamble.vendorEccPubKeyIdx.toNat ∧
    ((1 : UInt32) <<< m.preamble.vendorPqcPubKeyIdx).toNat =
      2 ^ m.preamble.vendorPqcPubKeyIdx.toNat ∧
    (m.fmc.size - 1).toNat + 1 = m.fmc.size.toNat ∧
    (m.runtime.size - 1).toNat + 1 = m.runtime.size.toNat ∧
    (m.fmc.loadAddr + m.fmc.size - 1).toNat = m.fmc.loadAddr.toNat + m.fmc.size.toNat - 1 ∧
    (m.runtime.loadAddr + m.runtime.size - 1).toNat =
      m.runtime.loadAddr.toNat + m.runtime.size.toNat - 1 := by
  obtain ⟨hecc, hpqc⟩ := verify_keyHashCount_ne_zero accepted hprov
  obtain ⟨hi, hj⟩ := verify_keyIdx_lt_32 hc accepted hprov
  obtain ⟨-, -, -, -, -, -, -, -, hto, -⟩ := verify_eq_ok.mp accepted
  have := UInt8.toNat_ne_zero hecc
  have := UInt8.toNat_ne_zero hpqc
  have := UInt32.toNat_ne_zero hto.fmcSize
  have := UInt32.toNat_ne_zero hto.runtimeSize
  refine ⟨by rw [lastKeyIdx_toNat hecc]; omega, by rw [lastKeyIdx_toNat hpqc]; omega,
    by rw [UInt32.toNat_one_shiftLeft, Nat.mod_eq_of_lt hi],
    by rw [UInt32.toNat_one_shiftLeft, Nat.mod_eq_of_lt hj],
    by rw [UInt32.toNat_sub_one hto.fmcSize]; omega,
    by rw [UInt32.toNat_sub_one hto.runtimeSize]; omega,
    loadEnd_toNat hto.fmcSize hto.fmcLoadEnd, loadEnd_toNat hto.runtimeSize hto.runtimeLoadEnd⟩

end

theorem verify_keyProvenance_sample :
    verify sampleConsts (sampleEnv .manufacturing) (sampleManifest 1 0) 32 .coldReset =
      .ok (sampleInfo .manufacturing 1) ∧
    (Lifecycle.manufacturing ≠ .unprovisioned →
      VendorKeysValid sampleConsts (sampleEnv .manufacturing) (sampleManifest 1 0).preamble
        (sampleInfo .manufacturing 1).pqcKeyType ∧
      (sampleManifest 1 0).preamble.vendorPubKeyInfo.pqcKeyDescriptor.keyType =
        (sampleManifest 1 0).pqcKeyType) ∧
    (sampleEnv .manufacturing).sha384Digest sampleConsts.ownerPubKeyRange.start
        sampleConsts.ownerPubKeyRange.len = .ok (sampleInfo .manufacturing 1).ownerPubKeysDigest ∧
    ((sampleEnv .manufacturing).ownerPubKeyDigestFuses ≠ zeroDigest →
      (sampleEnv .manufacturing).ownerPubKeyDigestFuses =
        (sampleInfo .manufacturing 1).ownerPubKeysDigest) ∧
    ((sampleInfo .manufacturing 1).ownerPubKeysDigestInFuses = true ↔
      (sampleEnv .manufacturing).ownerPubKeyDigestFuses ≠ zeroDigest) :=
  ⟨verify_sampleManifest, verify_keyProvenance verify_sampleManifest⟩

theorem verify_imageGeometry_sample :
    verify sampleConsts (sampleEnv .manufacturing) (sampleManifest 1 0) 32 .coldReset =
      .ok (sampleInfo .manufacturing 1) ∧
    ImageGeometry (sampleEnv .manufacturing) (sampleManifest 1 0) 32 :=
  ⟨verify_sampleManifest, verify_imageGeometry verify_sampleManifest⟩

theorem verify_u32_arithmetic_exact_sample :
    sampleConsts.Valid ∧
    verify sampleConsts (sampleEnv .manufacturing) (sampleManifest 1 0) 32 .coldReset =
      .ok (sampleInfo .manufacturing 1) ∧
    Lifecycle.manufacturing ≠ .unprovisioned ∧
    (lastKeyIdx 1).toNat + 1 = (1 : UInt8).toNat :=
  ⟨sampleConsts_valid, verify_sampleManifest, nofun,
    (verify_u32_arithmetic_exact sampleConsts_valid verify_sampleManifest nofun).1⟩

/-! ### What is not checked -/

/-- The sample manifest with a 4-byte FMC at offset `0`, inside the 16-byte manifest; its
runtime stays at `[24, 32)`. -/
def sampleLooseManifest : ImageManifest :=
  { sampleManifest 1 0 with fmc := { (sampleManifest 1 0).fmc with size := 4, offset := 0 } }

/-- A bundle of 28 bytes is accepted whose FMC starts inside the manifest and whose runtime
ends past the bundle: the images' sizes fit, their offsets are never compared with it. -/
theorem verify_accepts_images_outside_bundle :
    (∃ info, verify sampleConsts (sampleEnv .manufacturing) sampleLooseManifest 28 .coldReset =
      .ok info) ∧
    sampleLooseManifest.fmc.offset.toNat < sampleLooseManifest.size.toNat ∧
    (28 : UInt32).toNat < sampleLooseManifest.runtime.offset.toNat +
      sampleLooseManifest.runtime.size.toNat :=
  ⟨⟨_, rfl⟩, by decide, by decide⟩

/-- Unprovisioned descriptors that declare no key, with the PQC key `40` selected. -/
def sampleWrappingManifest : ImageManifest :=
  { sampleManifest 0 0 with
    preamble := { (sampleManifest 0 0).preamble with vendorPqcPubKeyIdx := 40 }
    header := { (sampleManifest 0 0).header with vendorPqcPubKeyIdx := 40 } }

/-- The sample's environment with an ICCM that reaches the last address. -/
def sampleWideIccmEnv : ImageVerificationEnv :=
  { sampleEnv .manufacturing with iccmRange := ⟨0x40000000, 0xFFFFFFFF⟩ }

/-- The sample manifest with a 4-byte FMC loaded at `0xFFFFFFFC`, ending at the last address. -/
def sampleTopFmcManifest : ImageManifest :=
  { sampleManifest 1 0 with
    fmc := { (sampleManifest 1 0).fmc with loadAddr := 0xFFFFFFFC, size := 4 } }

/-- Three `u32` operations of the checks, the key-index gates' `key_hash_count - 1` and
`1 << idx` and the load end's `load_addr + size`, are reached with operands whose exact result
does not fit.  Unprovisioned, a manifest whose descriptors declare no key is accepted after both gates
computed `0 - 1`, which wraps to `u32::MAX`, and the PQC gate, the index `40` not being that
value, shifted `1` by 40 bits, which the ROM build takes modulo 32: a revocation word with bit 8
set then rejects the key.  Over an ICCM up to `0xFFFFFFFF`, the FMC check of an image loaded at
`0xFFFFFFFC` passes its first test and computes `load_addr + size = 2 ^ 32`. -/
theorem verify_wraps_u32_arithmetic :
    (∃ info, verify sampleConsts (sampleEnv .unprovisioned) sampleWrappingManifest 32
      .coldReset = .ok info) ∧
    sampleWrappingManifest.preamble.vendorPubKeyInfo.eccKeyDescriptor.keyHashCount = 0 ∧
    sampleWrappingManifest.preamble.vendorPubKeyInfo.pqcKeyDescriptor.keyHashCount = 0 ∧
    lastKeyIdx 0 = 0xFFFFFFFF ∧
    sampleWrappingManifest.preamble.vendorPqcPubKeyIdx ≠ lastKeyIdx 0 ∧
    32 ≤ sampleWrappingManifest.preamble.vendorPqcPubKeyIdx.toNat ∧
    (1 : UInt32) <<< sampleWrappingManifest.preamble.vendorPqcPubKeyIdx = (1 : UInt32) <<< 8 ∧
    verify sampleConsts
      { sampleEnv .unprovisioned with vendorLmsPubKeyRevocation := (1 : UInt32) <<< 8 }
      sampleWrappingManifest 32 .coldReset = .error .imageVerifierErrVendorPqcPubKeyRevoked ∧
    verify sampleConsts sampleWideIccmEnv sampleTopFmcManifest 32 .coldReset =
      .error .imageVerifierErrFmcLoadAddrInvalid ∧
    sampleWideIccmEnv.iccmRange.contains sampleTopFmcManifest.fmc.loadAddr = true ∧
    sampleTopFmcManifest.fmc.loadAddr.toNat + sampleTopFmcManifest.fmc.size.toNat = 2 ^ 32 :=
  ⟨⟨_, rfl⟩, rfl, rfl, rfl, by decide, by decide, by decide, rfl, rfl, rfl, rfl⟩

end Caliptra
