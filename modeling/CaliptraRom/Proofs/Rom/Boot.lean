/-
Runs of the ROM across resets.

A boot run is a successful cold reset followed by any number of successful update resets, each
with its own hardware and its own bundle (`BootRun`).  It is indexed by the manifest the cold
reset accepted and by those the updates accepted.  Two invariants hold over every such run.

The SVNs (`SvnInvariant`): the data vault's minimum SVN is the least SVN of the run's bundles,
it never exceeds the current SVN or `MAX_FIRMWARE_SVN`, and the key ladder has
`MAX_FIRMWARE_SVN - fw_min_svn` links.  So the ladder only grows, and neither `u32`
subtraction of the two flows wraps (`bootRun_svnInvariant`).  The bound by `MAX_FIRMWARE_SVN`
comes from the key ladder's own check, not from the verifier: on an unprovisioned device, or
with anti-rollback disabled, `verify` skips the SVN gate, maximum included, and a cold reset
that loaded an image with a larger SVN and completed its download then fails there with
`FW_PROC_SVN_TOO_LARGE` (`process_reaches_svn_too_large`).

The data vault against `manifest1` (`VaultMatchesManifest`): the digests, the runtime's entry
point, the SVN and the key indices in the data vault are those of `manifest1`, every manifest
carries the cold bundle's FMC digest, and the FMC entry point is the cold bundle's
(`bootRun_vaultMatchesManifest`).  That is all the update check keeps.  It compares the FMC's
digest but not its load address or entry point, so an accepted update can move the FMC entry of
`manifest1` away from the FMC that was loaded, and load its runtime over that FMC
(`update_loads_runtime_over_fmc`).
-/
import CaliptraRom.Proofs.Rom.Load
import CaliptraRom.Proofs.Rom.UpdateReset
import CaliptraRom.Proofs.Verifier.UpdateReset

namespace Caliptra

/-- A successful cold reset from any state, then successful update resets, each with its own
hardware; indexed by the manifest the cold reset accepted and those the updates accepted, in
order. -/
inductive BootRun (c : RomConsts) : RomState → ImageManifest → List ImageManifest → Prop
  | cold {hw : RomHardware} {reqs : List MailboxRequest} {s s' : RomState}
      {r : FirmwareProcessor.FwProcInfo} :
      FirmwareProcessor.process c hw reqs s = .ok (some r) s' → BootRun c s' s'.manifest1 []
  | update {hw : RomHardware} {recvTxn : Option MailboxRequest} {s s' : RomState}
      {m₀ : ImageManifest} {ms : List ImageManifest} :
      BootRun c s m₀ ms → UpdateResetFlow.run c hw recvTxn s = .ok () s' →
      BootRun c s' m₀ (ms ++ [s'.manifest1])

theorem UInt32.toNat_min (a b : UInt32) : (min a b).toNat = min a.toNat b.toNat := by
  show (if a ≤ b then a else b).toNat = _
  split <;> rename_i h <;> rw [UInt32.le_iff_toNat_le] at h <;> omega

theorem UInt32.toNat_sub_of_le {a b : UInt32} (h : b ≤ a) :
    (a - b).toNat = a.toNat - b.toNat := by
  rw [UInt32.le_iff_toNat_le] at h
  have := UInt32.toNat_lt_two_pow a
  rw [UInt32.toNat_sub_eq]
  omega

/-! ### A boot run that moves the FMC -/

/-- The sample manifest with the FMC's load address and entry point moved up by `0x200`, and
the runtime loaded where the sample's FMC is. -/
def sampleMovedFmc : ImageManifest :=
  { sampleManifest 1 0 with
    fmc := { (sampleManifest 1 0).fmc with loadAddr := 0x40000200, entryPoint := 0x40000200 }
    runtime :=
      { (sampleManifest 1 0).runtime with loadAddr := 0x40000000, entryPoint := 0x40000000 } }

/-- The sample ROM, reading `sampleMovedFmc` from a bundle that starts with `1` and the sample
manifest from any other. -/
def sampleUpdateConsts : RomConsts :=
  { sampleRomConsts with
    manifestOfBytes := fun b => if b.head? = some 1 then sampleMovedFmc else sampleManifest 1 0 }

/-- The update bundle, sent with `FIRMWARE_LOAD`. -/
def sampleMovedReq : MailboxRequest := ⟨0, 1, 32, 1 :: List.replicate 31 0⟩

/-- The state after the sample cold reset. -/
def sampleColdState : RomState :=
  stateOf (FirmwareProcessor.process sampleUpdateConsts sampleHardware [sampleDownload]
    sampleRomState)

/-- The state after the update reset to `sampleMovedFmc`. -/
def sampleUpdatedState : RomState :=
  stateOf (UpdateResetFlow.run sampleUpdateConsts sampleHardware (some sampleMovedReq)
    sampleColdState)

theorem sampleBootRun_updated :
    BootRun sampleUpdateConsts sampleUpdatedState (sampleManifest 1 0) [sampleMovedFmc] := by
  obtain ⟨r, cold⟩ : ∃ r, FirmwareProcessor.process sampleUpdateConsts sampleHardware
      [sampleDownload] sampleRomState = .ok (some r) sampleColdState := ⟨_, rfl⟩
  have update : UpdateResetFlow.run sampleUpdateConsts sampleHardware (some sampleMovedReq)
      sampleColdState = .ok () sampleUpdatedState := rfl
  exact .update (.cold cold) update

section

variable {c : RomConsts} {hw : RomHardware} {reqs : List MailboxRequest}
  {recvTxn : Option MailboxRequest} {s s' : RomState} {r : FirmwareProcessor.FwProcInfo} {m₀ : ImageManifest}
  {ms : List ImageManifest}

/-! ### SVNs and the key ladder -/

/-- The SVN invariant of a boot run whose cold bundle was `m₀` and whose updates were `ms`. -/
structure SvnInvariant (c : RomConsts) (s : RomState) (m₀ : ImageManifest)
    (ms : List ImageManifest) : Prop where
  minSvn : s.dataVault.fwMinSvn = (ms.map (·.header.svn)).foldl min m₀.header.svn
  minLeSvn : s.dataVault.fwMinSvn ≤ s.dataVault.fwSvn
  minLeMax : s.dataVault.fwMinSvn ≤ c.image.maxFirmwareSvn
  keyLadderLen : s.keyLadderLen = c.image.maxFirmwareSvn.toNat - s.dataVault.fwMinSvn.toNat

theorem SvnInvariant.cold (h : FirmwareProcessor.process c hw reqs s = .ok (some r) s') :
    SvnInvariant c s' s'.manifest1 [] := by
  obtain ⟨txn, sz, s₁, info, -, -, boot⟩ := FirmwareProcessor.process_eq_ok_some h
  have vm := verify_verifiedManifest boot.verified
  have hsvn := boot.svnBound
  refine ⟨?_, ?_, ?_, ?_⟩ <;> rw [boot.dataVault]
  · exact vm.fwSvn
  · exact UInt32.le_iff_toNat_le.mpr le_rfl
  · exact hsvn
  · rw [boot.keyLadderLen, UInt32.toNat_sub_of_le hsvn]
    rfl

/-- One update keeps the invariant, lowers the minimum SVN to the new bundle's if that is
lower, and lengthens the key ladder by as much. -/
theorem SvnInvariant.update (hi : SvnInvariant c s m₀ ms)
    (h : UpdateResetFlow.run c hw recvTxn s = .ok () s') :
    SvnInvariant c s' m₀ (ms ++ [s'.manifest1]) ∧ s'.dataVault.fwMinSvn ≤ s.dataVault.fwMinSvn ∧
      s.keyLadderLen ≤ s'.keyLadderLen := by
  obtain ⟨req, s₁, info, -, boot, rfl⟩ := UpdateResetFlow.run_eq_ok h
  have vm := verify_verifiedManifest boot.verified
  have hmin : min s.dataVault.fwMinSvn info.fwSvn ≤ s.dataVault.fwMinSvn := by
    rw [UInt32.le_iff_toNat_le, UInt32.toNat_min]
    omega
  have hmax := hi.minLeMax
  have hminN := UInt32.le_iff_toNat_le.mp hmin
  rw [UInt32.le_iff_toNat_le] at hmax
  refine ⟨⟨?_, ?_, ?_, ?_⟩, ?_, ?_⟩ <;>
    simp only [RomState.withUpdateResetStatus_dataVault, RomState.withUpdateResetStatus_keyLadderLen,
      RomState.withUpdateResetStatus_manifest1, boot.dataVault, boot.keyLadderLen,
      UpdateResetFlow.populatedDataVault]
  · simp [List.foldl_append, ← hi.minSvn, vm.fwSvn]
  · rw [UInt32.le_iff_toNat_le, UInt32.toNat_min]
    omega
  · rw [UInt32.le_iff_toNat_le]
    omega
  · rw [hi.keyLadderLen, UInt32.toNat_sub_of_le hmin]
    omega
  · exact hmin
  · omega

/-- **Key ladder and minimum SVN across resets.**  In every state of a boot run, the data
vault's minimum SVN is the least SVN of the cold bundle and the update bundles, it is at most
the current SVN and `MAX_FIRMWARE_SVN`, and the key ladder has `MAX_FIRMWARE_SVN - fw_min_svn`
links.  A further update only lowers the minimum SVN and only lengthens the ladder. -/
theorem bootRun_svnInvariant (c : RomConsts) (s : RomState) (m₀ : ImageManifest)
    (ms : List ImageManifest) (run : BootRun c s m₀ ms) :
    SvnInvariant c s m₀ ms ∧ ∀ hw recvTxn s', UpdateResetFlow.run c hw recvTxn s = .ok () s' →
      s'.dataVault.fwMinSvn ≤ s.dataVault.fwMinSvn ∧ s.keyLadderLen ≤ s'.keyLadderLen := by
  have inv : SvnInvariant c s m₀ ms := by
    induction run with
    | cold h => exact .cold h
    | update _ h ih => exact (ih.update h).1
  exact ⟨inv, fun _ _ _ h => (inv.update h).2⟩

theorem bootRun_svnInvariant_sample :
    BootRun sampleUpdateConsts sampleUpdatedState (sampleManifest 1 0) [sampleMovedFmc] ∧
      SvnInvariant sampleUpdateConsts sampleUpdatedState (sampleManifest 1 0) [sampleMovedFmc] ∧
      ∀ hw recvTxn s', UpdateResetFlow.run sampleUpdateConsts hw recvTxn sampleUpdatedState =
          .ok () s' →
        s'.dataVault.fwMinSvn ≤ sampleUpdatedState.dataVault.fwMinSvn ∧
          sampleUpdatedState.keyLadderLen ≤ s'.keyLadderLen :=
  ⟨sampleBootRun_updated, bootRun_svnInvariant _ _ _ _ sampleBootRun_updated⟩

/-- The sample manifest with SVN `200`, past the sample's `MAX_FIRMWARE_SVN` of `128`. -/
def sampleLargeSvnManifest : ImageManifest :=
  { sampleManifest 1 0 with header := { (sampleManifest 1 0).header with svn := 200 } }

/-- The sample ROM, reading `sampleLargeSvnManifest` from every bundle. -/
def sampleLargeSvnConsts : RomConsts :=
  { sampleRomConsts with manifestOfBytes := fun _ => sampleLargeSvnManifest }

/-- The sample hardware on an unprovisioned device. -/
def sampleUnprovisionedHardware : RomHardware :=
  { sampleHardware with
    imageEnv := fun image => { sampleFakeRom .unprovisioned with image }.toEnv sampleConsts }

/-- On an unprovisioned device `verify` accepts a manifest with SVN `200`, past the maximum,
and a cold reset with it loads the images, completes the download with success and then fails
in `populate_fw_key_ladder` with `FW_PROC_SVN_TOO_LARGE`. -/
theorem process_reaches_svn_too_large :
    (∃ info, verify sampleConsts (sampleEnv .unprovisioned) sampleLargeSvnManifest 32
        .coldReset = .ok info ∧ sampleConsts.maxFirmwareSvn.toNat < info.fwSvn.toNat) ∧
    ∃ s', FirmwareProcessor.process sampleLargeSvnConsts sampleUnprovisionedHardware
        [sampleDownload] sampleRomState = .error .fwProcSvnTooLarge s' ∧
      RomEvent.mailboxComplete 0 true ∈ s'.trace :=
  ⟨⟨_, rfl, by decide⟩, _, rfl, by decide⟩

/-! ### The data vault against `manifest1` -/

/-- What the data vault of a boot run whose cold bundle was `m₀` agrees on with `manifest1`. -/
structure VaultMatchesManifest (s : RomState) (m₀ : ImageManifest) : Prop where
  fmcTci : s.dataVault.fmcTci = s.manifest1.fmc.digest
  fmcDigest : s.manifest1.fmc.digest = m₀.fmc.digest
  fmcEntryPoint : s.dataVault.fmcEntryPoint = m₀.fmc.entryPoint
  rtTci : s.dataVault.rtTci = s.manifest1.runtime.digest
  rtEntryPoint : s.dataVault.rtEntryPoint = s.manifest1.runtime.entryPoint
  fwSvn : s.dataVault.fwSvn = s.manifest1.header.svn
  vendorEccPkIndex : s.dataVault.vendorEccPkIndex = s.manifest1.preamble.vendorEccPubKeyIdx
  vendorPqcPkIndex : s.dataVault.vendorPqcPkIndex = s.manifest1.preamble.vendorPqcPubKeyIdx

theorem VaultMatchesManifest.cold
    (h : FirmwareProcessor.process c hw reqs s = .ok (some r) s') :
    VaultMatchesManifest s' s'.manifest1 := by
  obtain ⟨txn, sz, s₁, info, -, -, boot⟩ := FirmwareProcessor.process_eq_ok_some h
  have vm := verify_verifiedManifest boot.verified
  refine ⟨?_, rfl, ?_, ?_, ?_, ?_, ?_, ?_⟩ <;> rw [boot.dataVault] <;>
    simp only [FirmwareProcessor.populatedDataVault, vm.fmc, vm.runtime, vm.fwSvn,
      vm.vendorEccPubKeyIdx, vm.vendorPqcPubKeyIdx] <;> rfl

/-- An update keeps the agreement: it writes the runtime's fields and the SVN from the new
manifest, and accepts only a manifest with the FMC digest and key indices the data vault
holds. -/
theorem VaultMatchesManifest.update (hi : VaultMatchesManifest s m₀)
    (h : UpdateResetFlow.run c hw recvTxn s = .ok () s') : VaultMatchesManifest s' m₀ := by
  obtain ⟨req, s₁, info, -, boot, rfl⟩ := UpdateResetFlow.run_eq_ok h
  have vm := verify_verifiedManifest boot.verified
  obtain ⟨-, -, hfmc, hecc, hpqc⟩ := verify_updateReset_iff.mp boot.verified
  rw [vm.fmc] at hfmc
  rw [vm.vendorEccPubKeyIdx] at hecc
  rw [vm.vendorPqcPubKeyIdx] at hpqc
  refine ⟨?_, ?_, ?_, ?_, ?_, ?_, ?_, ?_⟩ <;>
    simp only [RomState.withUpdateResetStatus_dataVault, RomState.withUpdateResetStatus_manifest1,
      boot.dataVault, UpdateResetFlow.populatedDataVault, vm.runtime, vm.fwSvn]
  · exact hfmc.symm
  · exact hfmc.trans (hi.fmcTci.trans hi.fmcDigest)
  · exact hi.fmcEntryPoint
  · rfl
  · rfl
  · exact hecc.symm
  · exact hpqc.symm

/-- **The data vault agrees with `manifest1` across resets.**  In every state of a boot run, the
FMC and runtime digests, the runtime's entry point, the SVN and the vendor key indices in the
data vault are those of `manifest1`; `manifest1` carries the cold bundle's FMC digest, and the
data vault the cold bundle's FMC entry point. -/
theorem bootRun_vaultMatchesManifest (c : RomConsts) (s : RomState) (m₀ : ImageManifest)
    (ms : List ImageManifest) (run : BootRun c s m₀ ms) : VaultMatchesManifest s m₀ := by
  induction run with
  | cold h => exact .cold h
  | update _ h ih => exact ih.update h

theorem bootRun_vaultMatchesManifest_sample :
    BootRun sampleUpdateConsts sampleUpdatedState (sampleManifest 1 0) [sampleMovedFmc] ∧
      VaultMatchesManifest sampleUpdatedState (sampleManifest 1 0) :=
  ⟨sampleBootRun_updated, bootRun_vaultMatchesManifest _ _ _ _ sampleBootRun_updated⟩

/-- The update to `sampleMovedFmc` is accepted.  It moves the FMC entry of `manifest1` to
`0x40000200` while the data vault keeps the entry point `0x40000000`, and it writes the new
runtime at `0x40000000`, over the FMC the cold reset copied there. -/
theorem update_loads_runtime_over_fmc :
    BootRun sampleUpdateConsts sampleUpdatedState (sampleManifest 1 0) [sampleMovedFmc] ∧
      sampleColdState.trace.filter RomEvent.isIccmWrite =
        [.iccmWrite 0x40000000 ((sampleBundle.drop 16).take 8),
          .iccmWrite 0x40000100 ((sampleBundle.drop 24).take 8)] ∧
      sampleUpdatedState.trace = sampleColdState.trace ++
        [.iccmWrite 0x40000000 ((sampleMovedReq.data.drop 24).take 8), .mailboxComplete 0 true] ∧
      sampleColdState.manifest1.fmc.loadAddr = 0x40000000 ∧
      sampleUpdatedState.manifest1.fmc.loadAddr = 0x40000200 ∧
      sampleUpdatedState.dataVault.fmcEntryPoint = 0x40000000 ∧
      sampleUpdatedState.manifest1.fmc.entryPoint = 0x40000200 :=
  ⟨sampleBootRun_updated, rfl, rfl, rfl, rfl, rfl, rfl⟩

end

end Caliptra
