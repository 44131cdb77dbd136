/-
What a successful cold reset did.

The mailbox loop hands `process` a transaction nothing has been read from
(`processMailboxCommands_fresh`), and it writes nothing to ICCM: its events are error-register
writes and completions, and the stash requests change only the measurement state
(`processMailboxCommands_keeps`).  A `process` that returns `some` has then read the manifest
from the first bytes of the download into `manifest1`, verified the bundle with it against the
data vault as the loop left it, written the verified values to the data vault, set the key
ladder to `MAX_FIRMWARE_SVN - fw_svn` links, and emitted the two ICCM copies of `load_image`
and the download's completion (`process_eq_ok_some`).

`load_image` does not look at the TOC's offsets.  It copies the FMC from right after the
manifest and the runtime from right after the FMC, and in passive mode only their whole words
(`loadedImage`).
-/
import CaliptraRom.Proofs.Rom.Measurement

namespace Caliptra

variable {c : RomConsts} {hw : RomHardware} {n : Nat} {req : MailboxRequest} {b : Bool}
  {txn : MailboxRecvTxn} {s s' : RomState}

/-! ### The loop -/

/-- A turn that ends the loop hands over a transaction nothing has been read from. -/
def MailboxLoop.Fresh : MailboxLoop → Prop
  | .next _ => True
  | .received txn _ => txn.cursor = 0

theorem handleCommand_fresh : Returns MailboxLoop.Fresh (handleCommand c hw txn b) := by
  unfold handleCommand
  -- every branch ends in `pure (.next _)`, in a `throw`, or in a transaction at cursor `0`
  split <;> repeat' first
    | exact returns_pure trivial | exact returns_pure rfl | exact returns_throw _
    | refine returns_ite ?_ ?_ | refine returns_bind fun _ => ?_ | split

theorem handleRequest_fresh : Returns MailboxLoop.Fresh (handleRequest c hw n req b) := by
  unfold handleRequest
  exact returns_bind fun _ => returns_ite (returns_throw _) <| returns_ite
    (returns_ite (returns_throw _) (returns_ite (returns_throw _) (returns_pure rfl)))
    handleCommand_fresh

theorem processMailboxCommands_fresh (reqs : List MailboxRequest) (n : Nat) (b : Bool) :
    Returns (fun r => ∀ p ∈ r, p.1.cursor = 0) (processMailboxCommands c hw reqs n b) := by
  induction reqs generalizing n b with
  | nil => exact returns_pure nofun
  | cons req reqs ih =>
    rw [processMailboxCommands]
    refine handleRequest_fresh.bind fun r hr => ?_
    cases r with
    | next b' => exact ih _ _
    | received txn sz =>
      refine returns_pure fun p hp => ?_
      cases hp
      exact hr

section

variable {R : RomState → RomState → Prop} [IsPreorder RomState R]

theorem logMeasurement_keeps (h : ∀ s s', s'.trace = s.trace → R s s')
    (m : StashMeasurementReq) : Keeps R (logMeasurement m) := by
  intro s
  simp only [logMeasurement, bind_run, get_apply]
  split
  · exact h _ _ rfl
  · exact refl_of R s

theorem stashMeasurement_keeps (h : ∀ s s', s'.trace = s.trace → R s s') :
    Keeps R (stashMeasurement c hw txn) := by
  refine (keeps_liftExcept _).bind fun _ => keeps_get.bind fun _ =>
    (keeps_liftExcept _).bind fun _ => (keeps_modify ?_).bind fun _ => logMeasurement_keeps h _
  exact fun _ => h _ _ rfl

/-- **The frame of the loop.**  The loop keeps every preorder that its events other than ICCM
writes keep, and that ignores what leaves the trace as it was. -/
theorem processMailboxCommands_keeps
    (hemit : ∀ s ev, ev.isIccmWrite = false → R s (s.record ev))
    (hframe : ∀ s s', s'.trace = s.trace → R s s') (reqs : List MailboxRequest) (n : Nat)
    (b : Bool) : Keeps R (processMailboxCommands c hw reqs n b) := by
  induction reqs generalizing n b with
  | nil => exact keeps_pure _
  | cons req reqs ih =>
    rw [processMailboxCommands]
    refine (handleRequest_keeps hemit fun _ => stashMeasurement_keeps hframe).bind fun r => ?_
    cases r with
    | next b' => exact ih _ _
    | received _ _ => exact keeps_pure _

end

/-- The loop writes nothing to ICCM. -/
theorem processMailboxCommands_iccm (reqs : List MailboxRequest) (n : Nat) (b : Bool) :
    Preserves (fun s => s.trace.filter RomEvent.isIccmWrite)
      (processMailboxCommands c hw reqs n b) :=
  processMailboxCommands_keeps (fun _ _ h => by simp [SameOn, RomState.record, h])
    (fun _ _ h => by simp [SameOn, h]) reqs n b

/-! ### The download -/

namespace FirmwareProcessor

/-- How many bytes `load_image` copies of an image of `size` bytes: all of them from the SRAM
in active mode, its whole words from the mailbox in passive mode. -/
def copiedLen (activeMode : Bool) (size : UInt32) : Nat :=
  if activeMode then size.toNat else 4 * (size.toNat / 4)

/-- The ICCM writes of a successful `load_image` from the mailbox contents `B`: the FMC from
right after the manifest, the runtime from right after the FMC. -/
def loadedImage (c : RomConsts) (m : ImageManifest) (B : List UInt8) (activeMode : Bool) :
    List RomEvent :=
  let fmcStart := c.image.manifestSize.toNat
  let runtimeStart := fmcStart + copiedLen activeMode m.fmc.size
  [.iccmWrite m.fmc.loadAddr ((B.drop fmcStart).take (copiedLen activeMode m.fmc.size)),
    .iccmWrite m.runtime.loadAddr
      ((B.drop runtimeStart).take (copiedLen activeMode m.runtime.size))]

theorem loadManifest_eq_ok {active : Bool} {m : ImageManifest} {txn' : MailboxRecvTxn}
    (h : loadManifest c ⟨n, req, 0⟩ active s = .ok (m, txn') s') :
    m = c.manifestOfBytes (req.data.take c.image.manifestSize.toNat) ∧
      txn' = ⟨n, req, if active then 0 else c.image.manifestSize.toNat⟩ ∧
      s' = { s with manifest1 := m } := by
  cases active
  · simp only [loadManifest, Bool.false_eq_true, if_false, bind_run] at h
    cases hc : MailboxRecvTxn.copyRequest ⟨n, req, 0⟩ c.image.manifestSize.toNat with
    | error e => rw [hc] at h; cases h
    | ok r =>
      obtain ⟨bytes, txn''⟩ := r
      obtain ⟨-, rfl, rfl⟩ := copyRequest_eq_ok.mp hc
      rw [hc] at h
      simp at h
      obtain ⟨⟨rfl, rfl⟩, rfl⟩ := h
      simp
  · simp only [loadManifest, if_true] at h
    split at h
    · cases h
    · simp at h
      obtain ⟨⟨rfl, rfl⟩, rfl⟩ := h
      simp

/-- The `usize` check of the active-mode copy fails exactly when `start + len` wraps or runs
past the SRAM. -/
theorem copyFromSram_eq_ok {sram : List UInt8} {start len addr : UInt32} :
    copyFromSram sram start len addr s = .ok () s' ↔
      start.toNat + len.toNat ≤ sram.length ∧ start.toNat + len.toNat < 2 ^ 32 ∧
        s' = s.record (.iccmWrite addr ((sram.drop start.toNat).take len.toNat)) := by
  have hs := UInt32.toNat_lt_two_pow start
  have hl := UInt32.toNat_lt_two_pow len
  unfold copyFromSram
  split <;> rename_i hc <;>
    simp only [gt_iff_lt, UInt32.lt_iff_toNat_lt, UInt32.toNat_add_eq, not_or, not_lt] at hc
  · refine iff_of_false nofun ?_
    rintro ⟨hle, hlt, -⟩
    omega
  · have hsum : (start.toNat + len.toNat) % 2 ^ 32 = start.toNat + len.toNat := by omega
    simp only [emit_apply, EStateM.Result.ok.injEq, true_and, UInt32.toNat_add_eq, hsum,
      Nat.add_sub_cancel_left]
    constructor
    · rintro rfl
      exact ⟨by omega, by omega, rfl⟩
    · rintro ⟨-, -, rfl⟩
      rfl

/-- One image: from `start` of the SRAM in active mode, from the cursor in passive mode. -/
theorem loadExe_eq_ok {active : Bool} {start : UInt32} {e : ImageTocEntry}
    {txn' : MailboxRecvTxn} (h : loadExe txn active start e s = .ok txn' s') :
    let src := if active then start.toNat else txn.cursor
    src + copiedLen active e.size ≤ txn.req.data.length ∧
      txn' = (if active then txn else { txn with cursor := txn.cursor + copiedLen active e.size }) ∧
      s' = s.record (.iccmWrite e.loadAddr
        ((txn.req.data.drop src).take (copiedLen active e.size))) := by
  cases active
  · simp only [loadExe, Bool.false_eq_true, if_false, bind_run] at h
    cases hc : txn.copyRequest (4 * (e.size.toNat / 4)) with
    | error err => rw [hc] at h; cases h
    | ok r =>
      obtain ⟨bytes, txn''⟩ := r
      obtain ⟨hle, rfl, rfl⟩ := copyRequest_eq_ok.mp hc
      rw [hc] at h
      simp at h
      obtain ⟨rfl, rfl⟩ := h
      exact ⟨hle, rfl, rfl⟩
  · rw [loadExe, if_pos rfl] at h
    obtain ⟨_, _, h₁, h₂⟩ := bind_run_eq_ok.mp h
    obtain ⟨hle, -, rfl⟩ := copyFromSram_eq_ok.mp h₁
    cases h₂
    exact ⟨hle, rfl, rfl⟩

theorem loadImage_eq_ok {active : Bool} {m : ImageManifest} {txn' : MailboxRecvTxn}
    (hfit : c.image.manifestSize.toNat + m.fmc.size.toNat < 2 ^ 32)
    (h : loadImage c m ⟨n, req, if active then 0 else c.image.manifestSize.toNat⟩ active s =
      .ok txn' s') :
    txn'.index = n ∧ s' = { s with trace := s.trace ++ loadedImage c m req.data active } := by
  obtain ⟨txn₁, s₁, h₁, h₂⟩ := bind_run_eq_ok.mp h
  obtain ⟨-, rfl, rfl⟩ := loadExe_eq_ok h₁
  obtain ⟨-, rfl, rfl⟩ := loadExe_eq_ok h₂
  cases active
  · simp [RomState.record, loadedImage, copiedLen]
  · simp [RomState.record, loadedImage, copiedLen, UInt32.toNat_add_of_lt hfit]
/-- The data vault `populate_data_vault` writes for the verified `info`. -/
def populatedDataVault (dv : DataVault) (info : ImageVerificationInfo) : DataVault :=
  { dv with
    fmcTci := info.fmc.digest
    coldBootFwSvn := info.fwSvn
    fmcEntryPoint := info.fmc.entryPoint
    ownerPkHash := info.ownerPubKeysDigest
    vendorEccPkIndex := info.vendorEccPubKeyIdx
    vendorPqcPkIndex := info.vendorPqcPubKeyIdx
    rtTci := info.runtime.digest
    fwSvn := info.fwSvn
    fwMinSvn := info.fwSvn
    rtEntryPoint := info.runtime.entryPoint }

theorem populateFwKeyLadder_eq_ok :
    populateFwKeyLadder c hw s = .ok () s' ↔ s.dataVault.fwSvn ≤ c.image.maxFirmwareSvn ∧
      hw.initializeKeyLadder (c.image.maxFirmwareSvn - s.dataVault.fwSvn) = .ok () ∧
      s' = { s with keyLadderLen := (c.image.maxFirmwareSvn - s.dataVault.fwSvn).toNat } := by
  simp only [populateFwKeyLadder, bind_run, get_apply, gt_iff_lt]
  split
  · rename_i hgt
    refine iff_of_false nofun fun ⟨hle, _⟩ => ?_
    rw [UInt32.lt_iff_toNat_lt] at hgt
    rw [UInt32.le_iff_toNat_le] at hle
    omega
  · rename_i hgt
    have hle : s.dataVault.fwSvn ≤ c.image.maxFirmwareSvn := by
      rw [UInt32.lt_iff_toNat_lt] at hgt
      rw [UInt32.le_iff_toNat_le]
      omega
    simp only [initializeKeyLadder, bind_run]
    cases hw.initializeKeyLadder (c.image.maxFirmwareSvn - s.dataVault.fwSvn) <;>
      simp [hle, eq_comm]

end FirmwareProcessor

/-! ### What `verify` hands the flows -/

/-- What an accepted manifest passes on: the images' entries, the SVN and the key indices are
the manifest's, and the bundle holds the manifest and both images. -/
structure VerifiedManifest (c : ImageConsts) (m : ImageManifest) (sz : UInt32)
    (info : ImageVerificationInfo) : Prop where
  fmc : info.fmc = m.fmc.exeInfo
  runtime : info.runtime = m.runtime.exeInfo
  fwSvn : info.fwSvn = m.header.svn
  vendorEccPubKeyIdx : info.vendorEccPubKeyIdx = m.preamble.vendorEccPubKeyIdx
  vendorPqcPubKeyIdx : info.vendorPqcPubKeyIdx = m.preamble.vendorPqcPubKeyIdx
  bundleSize : c.manifestSize.toNat + m.fmc.size.toNat + m.runtime.size.toNat ≤ sz.toNat

theorem verify_verifiedManifest {ic : ImageConsts} {env : ImageVerificationEnv}
    {m : ImageManifest} {sz : UInt32} {r : ResetReason} {info : ImageVerificationInfo}
    (h : verify ic env m sz r = .ok info) : VerifiedManifest ic m sz info := by
  obtain ⟨t, hi, -, hs, -, -, hp, -, hto, -, -, -, -, rfl⟩ := verify_eq_ok.mp h
  obtain ⟨-, -, -, d, b, -, rfl⟩ := verifyPreamble_eq_ok.mp hp
  exact ⟨rfl, rfl, rfl, rfl, rfl, hs ▸ hto.bundleSize⟩

namespace FirmwareProcessor

/-- What a successful `process` did once the loop had returned the download `txn` of `sz`
bytes in state `s₁`; `info` is what `verify` returned. -/
structure ColdBoot (c : RomConsts) (hw : RomHardware) (txn : MailboxRecvTxn) (sz : UInt32)
    (s₁ s' : RomState) (info : ImageVerificationInfo) : Prop where
  manifest1 : s'.manifest1 = c.manifestOfBytes (txn.req.data.take c.image.manifestSize.toNat)
  verified : verify c.image (romImageEnv hw txn.req.data s₁.dataVault) s'.manifest1 sz
    .coldReset = .ok info
  dataVault : s'.dataVault = populatedDataVault s₁.dataVault info
  svnBound : info.fwSvn ≤ c.image.maxFirmwareSvn
  keyLadderLen : s'.keyLadderLen = (c.image.maxFirmwareSvn - info.fwSvn).toNat
  trace : s'.trace = s₁.trace ++ loadedImage c s'.manifest1 txn.req.data hw.activeMode ++
    [.mailboxComplete txn.index true]

/-- **A successful cold reset.** -/
theorem process_eq_ok_some {reqs : List MailboxRequest} {r : FwProcInfo}
    (h : process c hw reqs s = .ok (some r) s') :
    ∃ txn sz s₁ info, processMailboxCommands c hw reqs 0 false s = .ok (some (txn, sz)) s₁ ∧
      txn.cursor = 0 ∧ ColdBoot c hw txn sz s₁ s' info := by
  obtain ⟨o, s₁, hl, h₁⟩ := bind_run_eq_ok.mp h
  rcases o with _ | ⟨⟨⟨i, rq, cur⟩, sz⟩⟩
  · cases h₁
  obtain rfl : cur = 0 := processMailboxCommands_fresh reqs 0 false s _ s₁ hl _ rfl
  obtain ⟨⟨m, txn₂⟩, s₂, hm, h₂⟩ := bind_run_eq_ok.mp h₁
  obtain ⟨rfl, rfl, rfl⟩ := loadManifest_eq_ok hm
  obtain ⟨info, s₃, hv, h₃⟩ := bind_run_eq_ok.mp h₂
  rw [verifyImage, romVerifyImage_eq_ok] at hv
  obtain ⟨hv, rfl⟩ := hv
  obtain ⟨_, s₄, hf, h₄⟩ := bind_run_eq_ok.mp h₃
  rw [liftExcept_eq_ok] at hf
  obtain ⟨-, rfl⟩ := hf
  obtain ⟨_, s₅, hp, h₅⟩ := bind_run_eq_ok.mp h₄
  simp only [populateDataVault, modify_apply, EStateM.Result.ok.injEq] at hp
  obtain ⟨-, rfl⟩ := hp
  obtain ⟨_, s₆, he, h₆⟩ := bind_run_eq_ok.mp h₅
  obtain ⟨_, _, -, -, rfl⟩ := extendPcrs_eq_ok he
  obtain ⟨txn₃, s₇, hli, h₇⟩ := bind_run_eq_ok.mp h₆
  have vm := verify_verifiedManifest hv
  obtain ⟨hidx, rfl⟩ := loadImage_eq_ok
    (by have := UInt32.toNat_lt_two_pow sz; have := vm.bundleSize; omega) hli
  obtain ⟨_, s₈, hc, h₈⟩ := bind_run_eq_ok.mp h₇
  obtain ⟨-, rfl⟩ := complete_eq_ok.mp hc
  obtain ⟨_, s₉, hk, h₉⟩ := bind_run_eq_ok.mp h₈
  obtain ⟨hsvn, -, rfl⟩ := populateFwKeyLadder_eq_ok.mp hk
  cases h₉
  refine ⟨⟨i, rq, 0⟩, sz, s₁, info, hl, rfl, rfl, hv, rfl, hsvn, rfl, ?_⟩
  simp [RomState.record, hidx]

end FirmwareProcessor

end Caliptra
