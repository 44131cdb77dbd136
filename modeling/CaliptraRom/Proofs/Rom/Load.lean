/-
The bytes a cold reset copies to ICCM, against the bytes the verifier hashed.

The verifier hashes each image at the offset its TOC entry gives.  `load_image` reads each one
from where the previous one ends, starting right after the manifest, and in passive mode copies
only whole words.  The two agree when the TOC places the images that way (`TocContiguous`);
then ICCM receives exactly the bytes whose digests the signed TOC carries
(`process_loads_verified_images`).  `verify_toc` checks only that the two images do not overlap
and come in order, so it accepts an FMC entry anywhere before the runtime, inside the manifest
included, and the ROM then copies bytes that were never hashed
(`process_loads_unhashed_fmc`).
-/
import CaliptraRom.Proofs.Rom.ColdReset

namespace Caliptra

variable {B : List UInt8} {sha384 : List UInt8 → ImageDigest384}
  {sha512 : List UInt8 → ImageDigest512}

theorem imageSlice_eq_some {o l : UInt32} {X : List UInt8} :
    imageSlice B o l = some X ↔
      o.toNat + l.toNat ≤ B.length ∧ X = (B.drop o.toNat).take l.toNat := by
  unfold imageSlice
  split <;> simp_all [eq_comm]

/-- The engines of `romImageEnv` are the hardware's: if those hash the image, so do these. -/
theorem HashesImage.romImageEnv {hw : RomHardware} (hash : HashesImage (hw.imageEnv B) B sha384 sha512)
    (dv : DataVault) : HashesImage (romImageEnv hw B dv) B sha384 sha512 :=
  ⟨hash.sha384Digest, hash.sha512Digest⟩

/-- An image whose digest check passed is in the bundle, and hashes to its digest. -/
theorem HashesImage.slice_of_exeOk {env : ImageVerificationEnv} {e : ImageTocEntry}
    (hash : HashesImage env B sha384 sha512) (he : ExeOk env e) :
    ∃ X, imageSlice B e.offset e.size = some X ∧ sha384 X = e.digest := by
  have h := hash.sha384Digest he.digest
  cases hX : imageSlice B e.offset e.size with
  | none => simp [hX] at h
  | some X => exact ⟨X, rfl, by simpa [hX] using h⟩

namespace FirmwareProcessor

variable {c : RomConsts} {m : ImageManifest} {active : Bool}

/-- The TOC places the images where `load_image` reads them: the FMC right after the manifest,
the runtime right after the FMC, and in passive mode both of whole words. -/
def TocContiguous (c : RomConsts) (m : ImageManifest) (activeMode : Bool) : Prop :=
  m.fmc.offset.toNat = c.image.manifestSize.toNat ∧
    m.runtime.offset.toNat = m.fmc.offset.toNat + m.fmc.size.toNat ∧
    (activeMode = false → m.fmc.size.toNat % 4 = 0 ∧ m.runtime.size.toNat % 4 = 0)

/-- Over a contiguous TOC, `load_image` copies the two slices the verifier hashed. -/
theorem loadedImage_of_contiguous (hc : TocContiguous c m active) {X Y : List UInt8}
    (hX : imageSlice B m.fmc.offset m.fmc.size = some X)
    (hY : imageSlice B m.runtime.offset m.runtime.size = some Y) :
    loadedImage c m B active = [.iccmWrite m.fmc.loadAddr X, .iccmWrite m.runtime.loadAddr Y] := by
  obtain ⟨hf, hr, hwords⟩ := hc
  obtain ⟨-, rfl⟩ := imageSlice_eq_some.mp hX
  obtain ⟨-, rfl⟩ := imageSlice_eq_some.mp hY
  have hlen : copiedLen active m.fmc.size = m.fmc.size.toNat ∧
      copiedLen active m.runtime.size = m.runtime.size.toNat := by
    cases active
    · obtain ⟨h₁, h₂⟩ := hwords rfl
      simp only [copiedLen, Bool.false_eq_true, if_false]
      omega
    · simp [copiedLen]
  simp only [loadedImage, hlen.1, hlen.2, hf, hr]

end FirmwareProcessor

open FirmwareProcessor in
/-- **What a cold reset loads.**  After a successful `process`, the ICCM writes of the run are
the two copies of `load_image` from the download `B`: the FMC from right after the manifest
and the runtime from right after the FMC.  When the TOC places the images there and the
hardware's engines hash the mailbox image, these are the bytes whose digests the verified TOC
holds. -/
theorem process_loads_verified_images (c : RomConsts) (hw : RomHardware)
    (reqs : List MailboxRequest) (s s' : RomState) (r : FwProcInfo)
    (loaded : process c hw reqs s = .ok (some r) s') :
    ∃ txn sz s₁, processMailboxCommands c hw reqs 0 false s = .ok (some (txn, sz)) s₁ ∧
      s'.trace.filter RomEvent.isIccmWrite = s.trace.filter RomEvent.isIccmWrite ++
        loadedImage c s'.manifest1 txn.req.data hw.activeMode ∧
      ∀ sha384 sha512, HashesImage (hw.imageEnv txn.req.data) txn.req.data sha384 sha512 →
        TocContiguous c s'.manifest1 hw.activeMode →
        ∃ X Y, imageSlice txn.req.data s'.manifest1.fmc.offset s'.manifest1.fmc.size = some X ∧
          sha384 X = s'.manifest1.fmc.digest ∧
          imageSlice txn.req.data s'.manifest1.runtime.offset s'.manifest1.runtime.size =
            some Y ∧ sha384 Y = s'.manifest1.runtime.digest ∧
          loadedImage c s'.manifest1 txn.req.data hw.activeMode =
            [.iccmWrite s'.manifest1.fmc.loadAddr X, .iccmWrite s'.manifest1.runtime.loadAddr Y] := by
  obtain ⟨txn, sz, s₁, info, hl, -, boot⟩ := process_eq_ok_some loaded
  have hloop : SameOn (fun s => s.trace.filter RomEvent.isIccmWrite) s
      (stateOf (processMailboxCommands c hw reqs 0 false s)) :=
    processMailboxCommands_iccm reqs 0 false s
  rw [hl, stateOf_ok] at hloop
  refine ⟨txn, sz, s₁, hl, ?_, fun sha384 sha512 hash hc => ?_⟩
  · simp only [SameOn] at hloop
    simp [boot.trace, hloop, loadedImage, RomEvent.isIccmWrite]
  · obtain ⟨-, -, -, -, -, -, -, -, -, hfmc, -, hrt, -, -⟩ := verify_eq_ok.mp boot.verified
    have hash' := hash.romImageEnv s₁.dataVault
    obtain ⟨X, hX, hXd⟩ := hash'.slice_of_exeOk hfmc
    obtain ⟨Y, hY, hYd⟩ := hash'.slice_of_exeOk hrt
    exact ⟨X, Y, hX, hXd, hY, hYd, loadedImage_of_contiguous hc hX hY⟩

/-- The sample bundle's bytes, all different: `B[i] = i`. -/
def sampleBundle : List UInt8 := (List.range 32).map Nat.toUInt8

/-- The sample bundle sent with `FIRMWARE_LOAD`. -/
def sampleDownload : MailboxRequest := ⟨0, 1, 32, sampleBundle⟩

theorem process_loads_verified_images_sample :
    ∃ r s', FirmwareProcessor.process sampleRomConsts sampleHardware [sampleDownload]
        sampleRomState = .ok (some r) s' ∧
      ∃ txn sz s₁, processMailboxCommands sampleRomConsts sampleHardware [sampleDownload] 0 false
          sampleRomState = .ok (some (txn, sz)) s₁ ∧
        s'.trace.filter RomEvent.isIccmWrite = sampleRomState.trace.filter RomEvent.isIccmWrite ++
          FirmwareProcessor.loadedImage sampleRomConsts s'.manifest1 txn.req.data
            sampleHardware.activeMode ∧
        ∀ sha384 sha512, HashesImage (sampleHardware.imageEnv txn.req.data) txn.req.data sha384
            sha512 → FirmwareProcessor.TocContiguous sampleRomConsts s'.manifest1
            sampleHardware.activeMode →
          ∃ X Y, imageSlice txn.req.data s'.manifest1.fmc.offset s'.manifest1.fmc.size = some X ∧
            sha384 X = s'.manifest1.fmc.digest ∧
            imageSlice txn.req.data s'.manifest1.runtime.offset s'.manifest1.runtime.size =
              some Y ∧ sha384 Y = s'.manifest1.runtime.digest ∧
            FirmwareProcessor.loadedImage sampleRomConsts s'.manifest1 txn.req.data
                sampleHardware.activeMode =
              [.iccmWrite s'.manifest1.fmc.loadAddr X, .iccmWrite s'.manifest1.runtime.loadAddr Y] := by
  obtain ⟨r, s', loaded⟩ : ∃ r s', FirmwareProcessor.process sampleRomConsts sampleHardware
      [sampleDownload] sampleRomState = .ok (some r) s' := ⟨_, _, rfl⟩
  exact ⟨r, s', loaded, process_loads_verified_images sampleRomConsts sampleHardware
    [sampleDownload] sampleRomState s' r loaded⟩

/-- The sample manifest with its FMC entry at offset `0`, inside the manifest. -/
def sampleFmcAtZero : ImageManifest :=
  { sampleManifest 1 0 with fmc := { (sampleManifest 1 0).fmc with offset := 0 } }

/-- The sample ROM, reading `sampleFmcAtZero` from every bundle. -/
def sampleFmcAtZeroConsts : RomConsts :=
  { sampleRomConsts with manifestOfBytes := fun _ => sampleFmcAtZero }

/-- The verifier accepts the bundle with the FMC at offset `0` and hashes `B[0, 8)` for it,
over engines that hash the image; the ROM copies `B[16, 24)` to the FMC's load address. -/
theorem process_loads_unhashed_fmc :
    HashesImage (romImageEnv sampleHardware sampleBundle sampleDataVault) sampleBundle
        (fun _ => sampleDigest) (fun _ => Mathlib.Vector.replicate 16 1) ∧
      (∃ info, verify sampleConsts (romImageEnv sampleHardware sampleBundle sampleDataVault)
        sampleFmcAtZero 32 .coldReset = .ok info) ∧
      ∃ r s', FirmwareProcessor.process sampleFmcAtZeroConsts sampleHardware [sampleDownload]
          sampleRomState = .ok (some r) s' ∧
        s'.manifest1 = sampleFmcAtZero ∧
        s'.trace.filter RomEvent.isIccmWrite =
          [.iccmWrite 0x40000000 ((sampleBundle.drop 16).take 8),
            .iccmWrite 0x40000100 ((sampleBundle.drop 24).take 8)] ∧
        imageSlice sampleBundle sampleFmcAtZero.fmc.offset sampleFmcAtZero.fmc.size =
          some (sampleBundle.take 8) ∧
        (sampleBundle.drop 16).take 8 ≠ sampleBundle.take 8 :=
  ⟨(show HashesImage (sampleHardware.imageEnv sampleBundle) sampleBundle _ _ from
      FakeRomImageVerificationEnv.hashesImage (fun _ _ h => Except.ok.inj h)
        (fun _ _ h => Except.ok.inj h)).romImageEnv _,
    ⟨_, rfl⟩, _, _, rfl, rfl, rfl, rfl, by decide⟩

end Caliptra
