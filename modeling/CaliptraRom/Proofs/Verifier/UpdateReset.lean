/-
What update reset adds to verification.

`verify` reads the reset reason in four places, each a check against the data vault: the
owner key digest, the two key indices and the FMC digest.  So an update-reset verification
accepts exactly what a cold-reset one accepts that also matches the data vault there
(`verify_updateReset_iff`), and under any other reason the data vault is never read: two
environments that differ only there give the same result, errors included
(`verify_eraseDataVault`).
-/
import CaliptraRom.Proofs.Verifier.Soundness

namespace Caliptra

/-- `env` with the four data-vault reads of `verify` cleared. -/
def ImageVerificationEnv.eraseDataVault (env : ImageVerificationEnv) : ImageVerificationEnv :=
  { env with
    vendorEccPubKeyIdxDv := 0
    vendorPqcPubKeyIdxDv := 0
    ownerPubKeyDigestDv := zeroDigest
    getFmcDigestDv := zeroDigest }

section

variable {c : ImageConsts} {env : ImageVerificationEnv} {p : ImagePreamble}
  {t : FwVerificationPqcKeyType} {m : ImageManifest} {sz : UInt32} {r : ResetReason}

/-! ### The four bindings -/

theorem verifyOwnerPkDigest_updateReset_iff {x : ImageDigest384 × Bool} :
    verifyOwnerPkDigest c env .updateReset = .ok x ↔
      verifyOwnerPkDigest c env .coldReset = .ok x ∧ env.ownerPubKeyDigestDv = x.1 := by
  rw [verifyOwnerPkDigest_eq_ok, verifyOwnerPkDigest_eq_ok]
  exact ⟨fun ⟨a, b, d, e⟩ => ⟨⟨a, b, nofun, e⟩, d rfl⟩, fun ⟨⟨a, b, _, e⟩, d⟩ => ⟨a, b, fun _ => d, e⟩⟩

theorem EccIdxOk.updateReset_iff :
    EccIdxOk c env p .updateReset ↔
      EccIdxOk c env p .coldReset ∧ env.vendorEccPubKeyIdxDv = p.vendorEccPubKeyIdx :=
  ⟨fun h => ⟨⟨h.inBounds, h.notRevoked, nofun⟩, h.updateBinding rfl⟩,
    fun ⟨h, e⟩ => ⟨h.inBounds, h.notRevoked, fun _ => e⟩⟩

theorem PqcIdxOk.updateReset_iff {revocation : UInt32} :
    PqcIdxOk env p .updateReset revocation ↔
      PqcIdxOk env p .coldReset revocation ∧ env.vendorPqcPubKeyIdxDv = p.vendorPqcPubKeyIdx :=
  ⟨fun h => ⟨⟨h.inBounds, h.notRevoked, nofun⟩, h.updateBinding rfl⟩,
    fun ⟨h, e⟩ => ⟨h.inBounds, h.notRevoked, fun _ => e⟩⟩

theorem verifyPreamble_updateReset_iff {hi : HeaderInfo} :
    verifyPreamble c env p .updateReset t = .ok hi ↔
      verifyPreamble c env p .coldReset t = .ok hi ∧
        hi.ownerPubKeysDigest = env.ownerPubKeyDigestDv ∧
        hi.vendorEccPubKeyIdx = env.vendorEccPubKeyIdxDv ∧
        hi.vendorPqcPubKeyIdx = env.vendorPqcPubKeyIdxDv := by
  rw [verifyPreamble_eq_ok, verifyPreamble_eq_ok, EccIdxOk.updateReset_iff,
    PqcIdxOk.updateReset_iff]
  constructor
  · rintro ⟨hv, ⟨he, hed⟩, ⟨hq, hqd⟩, d, b, ho, rfl⟩
    obtain ⟨ho, hod⟩ := verifyOwnerPkDigest_updateReset_iff.mp ho
    exact ⟨⟨hv, he, hq, d, b, ho, rfl⟩, hod.symm, hed.symm, hqd.symm⟩
  · rintro ⟨⟨hv, he, hq, d, b, ho, rfl⟩, hod, hed, hqd⟩
    exact ⟨hv, ⟨he, hed.symm⟩, ⟨hq, hqd.symm⟩, d, b,
      verifyOwnerPkDigest_updateReset_iff.mpr ⟨ho, hod.symm⟩, rfl⟩

theorem verify_updateReset_iff {info : ImageVerificationInfo} :
    verify c env m sz .updateReset = .ok info ↔
      verify c env m sz .coldReset = .ok info ∧
        info.ownerPubKeysDigest = env.ownerPubKeyDigestDv ∧
        info.fmc.digest = env.getFmcDigestDv ∧
        info.vendorEccPubKeyIdx = env.vendorEccPubKeyIdxDv ∧
        info.vendorPqcPubKeyIdx = env.vendorPqcPubKeyIdxDv := by
  rw [verify_eq_ok, verify_eq_ok]
  constructor
  · rintro ⟨t, hi, hm, hs, ht, hf, hp, hh, hto, hfe, hfu, hre, hsv, rfl⟩
    obtain ⟨hp, ho, he, hq⟩ := verifyPreamble_updateReset_iff.mp hp
    exact ⟨⟨t, hi, hm, hs, ht, hf, hp, hh, hto, hfe, nofun, hre, hsv, rfl⟩, ho, hfu rfl, he, hq⟩
  · rintro ⟨⟨t, hi, hm, hs, ht, hf, hp, hh, hto, hfe, -, hre, hsv, rfl⟩, ho, hfd, he, hq⟩
    exact ⟨t, hi, hm, hs, ht, hf, verifyPreamble_updateReset_iff.mpr ⟨hp, ho, he, hq⟩, hh, hto,
      hfe, fun _ => hfd, hre, hsv, rfl⟩

/-! ### Other reasons do not read the data vault -/

theorem failIf_updateReset (hr : r ≠ .updateReset) {q : Prop} [Decidable q] {e : CaliptraError} :
    failIf (r = .updateReset ∧ q) e = .ok () := by
  simp [failIf, hr]

/-- Outside update reset, `verify` gives the same result, error or not, whatever the data
vault holds. -/
theorem verify_eraseDataVault (hr : r ≠ .updateReset) :
    verify c env.eraseDataVault m sz r = verify c env m sz r := by
  simp only [verify, verifyPreamble, verifyOwnerPkDigest, verifyVendorEccPkIdx,
    verifyVendorPqcPkIdx, verifyFmc, failIf_updateReset hr]
  rfl

/-- **Update reset adds exactly the four data-vault bindings.** It accepts what cold reset
accepts and the data vault agrees with; any other reason ignores the data vault. -/
theorem verify_updateReset_adds_dataVault_bindings (c : ImageConsts) (env : ImageVerificationEnv)
    (m : ImageManifest) (sz : UInt32) :
    (∀ info, verify c env m sz .updateReset = .ok info ↔
      verify c env m sz .coldReset = .ok info ∧
        info.ownerPubKeysDigest = env.ownerPubKeyDigestDv ∧
        info.fmc.digest = env.getFmcDigestDv ∧
        info.vendorEccPubKeyIdx = env.vendorEccPubKeyIdxDv ∧
        info.vendorPqcPubKeyIdx = env.vendorPqcPubKeyIdxDv) ∧
    (∀ env' r, env.eraseDataVault = env'.eraseDataVault → r ≠ .updateReset →
      verify c env m sz r = verify c env' m sz r) :=
  ⟨fun _ => verify_updateReset_iff, fun env' _ he hr => by
    rw [← verify_eraseDataVault hr, he, verify_eraseDataVault hr]⟩

end

theorem verify_updateReset_adds_dataVault_bindings_sample :
    (verify sampleConsts (sampleEnv .manufacturing) (sampleManifest 1 0) 32 .updateReset =
        .ok (sampleInfo .manufacturing 1) ↔
      verify sampleConsts (sampleEnv .manufacturing) (sampleManifest 1 0) 32 .coldReset =
          .ok (sampleInfo .manufacturing 1) ∧
        (sampleInfo .manufacturing 1).ownerPubKeysDigest =
          (sampleEnv .manufacturing).ownerPubKeyDigestDv ∧
        (sampleInfo .manufacturing 1).fmc.digest = (sampleEnv .manufacturing).getFmcDigestDv ∧
        (sampleInfo .manufacturing 1).vendorEccPubKeyIdx =
          (sampleEnv .manufacturing).vendorEccPubKeyIdxDv ∧
        (sampleInfo .manufacturing 1).vendorPqcPubKeyIdx =
          (sampleEnv .manufacturing).vendorPqcPubKeyIdxDv) ∧
    verify sampleConsts (sampleEnv .manufacturing) (sampleManifest 1 0) 32 .warmReset =
      verify sampleConsts { sampleEnv .manufacturing with getFmcDigestDv := zeroDigest }
        (sampleManifest 1 0) 32 .warmReset :=
  ⟨(verify_updateReset_adds_dataVault_bindings _ _ _ _).1 _,
    (verify_updateReset_adds_dataVault_bindings _ _ _ _).2 _ _ rfl (by decide)⟩

end Caliptra
