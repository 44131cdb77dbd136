/-
`FirmwareProcessor` of the cold-reset flow: the mailbox loop and the firmware download.

`process_mailbox_commands` serves the SoC's requests one at a time until one of them carries
the firmware (`FIRMWARE_LOAD`, or `RI_DOWNLOAD_FIRMWARE` in active mode) or one fails.  The
loop is a recursion over the requests `peek_recv` returns, in order; when they run out it is
still waiting (`none`).  `process` then loads the manifest into `manifest1`, verifies the
bundle, fills the data vault, extends PCR0 and PCR1, copies the two images to ICCM, completes
the download and initialises the key ladder.

Every transaction of the loop is held in a `ManuallyDrop`: an error leaves it uncompleted, for
the fatal handler.  Only `send_response` and `complete` are visible to the SoC.
-/
import CaliptraRom.Rom.State

namespace Caliptra

/-! ### Requests -/

/-- `copy_req_verify_chksum` for a request of `len` bytes: the length register must say `len`,
and the checksum in the header must cover the command and the rest of the request. -/
def copyReqVerifyChksum (c : RomConsts) (txn : MailboxRecvTxn) (len : Nat) :
    Except CaliptraError (List UInt8) := do
  failIf (txn.req.dlen.toNat ≠ len) .fwProcMailboxInvalidRequestLength
  let (data, _) ← txn.copyRequest len
  failIf (!c.verifyChecksum (UInt32.ofLEBytes (data.take mailboxReqHeaderSize)) txn.req.cmd
    (data.drop mailboxReqHeaderSize)) .fwProcMailboxInvalidChecksum
  pure data

/-- `log_measurement`: the entry at `meas_log_index`, if the log has room for it. -/
def logMeasurement (m : StashMeasurementReq) : RomM Unit := do
  let s ← get
  if h : s.measLogIndex.toNat < measurementMaxCount then
    set { s with
      measurementLog := s.measurementLog.set ⟨s.measLogIndex.toNat, h⟩ (.ofReq m)
      measLogIndex := s.measLogIndex + 1 }
  else throw .romGlobalMeasurementLogExhausted

/-- `extend_measurement`: PCR31 first, then the log. -/
def extendMeasurement (hw : RomHardware) (m : StashMeasurementReq) : RomM Unit := do
  let pcr31 ← liftExcept (hw.extendPcr (← get).pcr31 m.measurement)
  modify fun s => { s with pcr31 }
  logMeasurement m

/-- `stash_measurement`. -/
def stashMeasurement (c : RomConsts) (hw : RomHardware) (txn : MailboxRecvTxn) : RomM Unit := do
  let data ← liftExcept (copyReqVerifyChksum c txn c.stashMeasurementReqSize)
  extendMeasurement hw (c.stashMeasurementReqOfBytes data)

/-! ### The mailbox loop -/

/-- How a turn of the loop ends: it goes round again with the new `self_test_in_progress`, or
returns the download transaction and the image size. -/
inductive MailboxLoop where
  | next (selfTestInProgress : Bool)
  | received (txn : MailboxRecvTxn) (imageSizeBytes : UInt32)

/-- The `match CommandId::from(txn.cmd())` of `process_mailbox_commands`. -/
def handleCommand (c : RomConsts) (hw : RomHardware) (txn : MailboxRecvTxn)
    (selfTestInProgress : Bool) : RomM MailboxLoop :=
  match c.commandId txn.req.cmd with
  | .version => do
    let _ ← liftExcept (copyReqVerifyChksum c txn mailboxReqHeaderSize)
    liftExcept hw.fipsVersion
    txn.sendResponse hw
    pure (.next selfTestInProgress)
  | .selfTestStart => do
    let _ ← liftExcept (copyReqVerifyChksum c txn mailboxReqHeaderSize)
    if selfTestInProgress then do
      txn.complete hw false
      pure (.next selfTestInProgress)
    else do
      liftExcept hw.runFipsTests
      txn.sendResponse hw
      pure (.next true)
  | .selfTestGetResults => do
    let _ ← liftExcept (copyReqVerifyChksum c txn mailboxReqHeaderSize)
    if !selfTestInProgress then do
      txn.complete hw false
      pure (.next selfTestInProgress)
    else do
      txn.sendResponse hw
      pure (.next false)
  | .shutdown => do
    let _ ← liftExcept (copyReqVerifyChksum c txn mailboxReqHeaderSize)
    txn.sendResponse hw
    throw .runtimeShutdown
  | .capabilities => do
    let _ ← liftExcept (copyReqVerifyChksum c txn mailboxReqHeaderSize)
    txn.sendResponse hw
    pure (.next selfTestInProgress)
  | .stashMeasurement => do
    if (← get).measLogIndex = measurementMaxCount.toUInt32 then do
      txn.complete hw false
      throw .fwProcMailboxStashMeasurementMaxLimit
    else do
      stashMeasurement c hw txn
      txn.sendResponse hw
      pure (.next selfTestInProgress)
  | .getIdevEccCsr => do
    let _ ← liftExcept (copyReqVerifyChksum c txn mailboxReqHeaderSize)
    match (← get).idevEccCsr with
    | .unprovisioned => throw .fwProcMailboxGetIdevCsrUnprovisionedCsr
    | .invalid => throw .romIdevidInvalidCsr
    | .valid _ => do
      txn.sendResponse hw
      pure (.next selfTestInProgress)
  | .riDownloadFirmware => do
    if !hw.activeMode then do
      txn.complete hw false
      throw .fwProcMailboxInvalidCommand
    else do
      let (sram, imageSizeBytes) ← liftExcept hw.recoveryImage
      pure (.received ⟨txn.index, { txn.req with data := sram }, 0⟩ imageSizeBytes)
  | _ => throw .fwProcMailboxInvalidCommand

/-- One turn of the loop, on the `n`-th request: the PAUSER check, `FIRMWARE_LOAD`, then the
other commands. -/
def handleRequest (c : RomConsts) (hw : RomHardware) (n : Nat) (req : MailboxRequest)
    (selfTestInProgress : Bool) : RomM MailboxLoop := do
  reportFwErrorNonFatal none
  if req.id = reservedPauser then throw .fwProcMailboxReservedPauser
  else if c.commandId req.cmd = .firmwareLoad then
    if hw.activeMode then throw .fwProcMailboxFwLoadCmdInActiveMode
    else if req.dlen = 0 ∨ req.dlen > c.imageByteSize then throw .fwProcInvalidImageSize
    else pure (.received ⟨n, req, 0⟩ req.dlen)
  else handleCommand c hw ⟨n, req, 0⟩ selfTestInProgress

/-- `process_mailbox_commands` over the requests from the `n`-th on. -/
def processMailboxCommands (c : RomConsts) (hw : RomHardware) :
    List MailboxRequest → Nat → Bool → RomM (Option (MailboxRecvTxn × UInt32))
  | [], _, _ => pure none
  | req :: reqs, n, selfTestInProgress => do
    match ← handleRequest c hw n req selfTestInProgress with
    | .next selfTestInProgress => processMailboxCommands c hw reqs (n + 1) selfTestInProgress
    | .received txn imageSizeBytes => pure (some (txn, imageSizeBytes))

/-! ### The download -/

namespace FirmwareProcessor

/-- `load_manifest`: the first `size_of::<ImageManifest>()` bytes, into `manifest1`. -/
def loadManifest (c : RomConsts) (txn : MailboxRecvTxn) (activeMode : Bool) :
    RomM (ImageManifest × MailboxRecvTxn) :=
  if activeMode then
    if txn.req.data.length < c.image.manifestSize.toNat then throw .fwProcInvalidImageSize
    else do
      let manifest := c.manifestOfBytes (txn.req.data.take c.image.manifestSize.toNat)
      modify fun s => { s with manifest1 := manifest }
      pure (manifest, txn)
  else do
    let (bytes, txn) ← liftExcept (txn.copyRequest c.image.manifestSize.toNat)
    let manifest := c.manifestOfBytes bytes
    modify fun s => { s with manifest1 := manifest }
    pure (manifest, txn)

/-- `verify_image`, for cold reset. -/
def verifyImage (c : RomConsts) (hw : RomHardware) (txn : MailboxRecvTxn)
    (manifest : ImageManifest) (imgBundleSz : UInt32) : RomM ImageVerificationInfo :=
  romVerifyImage c hw txn manifest imgBundleSz .coldReset

/-- The active-mode copy of `load_image`: `mbox_sram[start..start + len]` to ICCM at `addr`,
with `usize` arithmetic. -/
def copyFromSram (sram : List UInt8) (start len addr : UInt32) : RomM Unit :=
  if start > start + len ∨ sram.length < (start + len).toNat then throw .fwProcInvalidImageSize
  else emit (.iccmWrite addr ((sram.drop start.toNat).take ((start + len).toNat - start.toNat)))

/-- One image of `load_image`: in active mode from the SRAM at `start`, in passive mode the next
`size / 4` words of the mailbox. -/
def loadExe (txn : MailboxRecvTxn) (activeMode : Bool) (start : UInt32) (e : ImageTocEntry) :
    RomM MailboxRecvTxn :=
  if activeMode then do
    copyFromSram txn.req.data start e.size e.loadAddr
    pure txn
  else do
    let (bytes, txn) ← liftExcept (txn.copyRequest (4 * (e.size.toNat / 4)))
    emit (.iccmWrite e.loadAddr bytes)
    pure txn

/-- `load_image`: the FMC, then the runtime, each from where the previous one ends. -/
def loadImage (c : RomConsts) (manifest : ImageManifest) (txn : MailboxRecvTxn)
    (activeMode : Bool) : RomM MailboxRecvTxn := do
  let txn ← loadExe txn activeMode c.image.manifestSize manifest.fmc
  loadExe txn activeMode (c.image.manifestSize + manifest.fmc.size) manifest.runtime

/-- `populate_data_vault`; the minimum SVN starts at the image's. -/
def populateDataVault (info : ImageVerificationInfo) : RomM Unit :=
  modify fun s => { s with dataVault := { s.dataVault with
    fmcTci := info.fmc.digest
    coldBootFwSvn := info.fwSvn
    fmcEntryPoint := info.fmc.entryPoint
    ownerPkHash := info.ownerPubKeysDigest
    vendorEccPkIndex := info.vendorEccPubKeyIdx
    vendorPqcPkIndex := info.vendorPqcPubKeyIdx
    rtTci := info.runtime.digest
    fwSvn := info.fwSvn
    fwMinSvn := info.fwSvn
    rtEntryPoint := info.runtime.entryPoint } }

/-- `populate_fw_key_ladder`: a chain of `MAX_FIRMWARE_SVN - fw_svn` links. -/
def populateFwKeyLadder (c : RomConsts) (hw : RomHardware) : RomM Unit := do
  let svn := (← get).dataVault.fwSvn
  if svn > c.image.maxFirmwareSvn then throw .fwProcSvnTooLarge
  else initializeKeyLadder hw (c.image.maxFirmwareSvn - svn)

/-- `FwProcInfo`, without the certificate validity the manifest's vendor and owner data give. -/
structure FwProcInfo where
  effectiveFuseSvn : UInt32
  ownerPubKeysDigestInFuses : Bool
  pqcKeyType : UInt8

/-- `FirmwareProcessor::process` on the requests the SoC sends; `none` while it is still
waiting for the firmware. -/
def process (c : RomConsts) (hw : RomHardware) (reqs : List MailboxRequest) :
    RomM (Option FwProcInfo) := do
  match ← processMailboxCommands c hw reqs 0 false with
  | none => pure none
  | some (txn, imageSizeBytes) =>
    let (manifest, txn) ← loadManifest c txn hw.activeMode
    let info ← verifyImage c hw txn manifest imageSizeBytes
    liftExcept (hw.updateFuseLog info.logInfo)
    populateDataVault info
    extendPcrs hw info
    let txn ← loadImage c manifest txn hw.activeMode
    txn.complete hw true
    populateFwKeyLadder c hw
    pure (some ⟨info.effectiveFuseSvn, info.ownerPubKeysDigestInFuses, info.pqcKeyType.toU8 c.image⟩)

end FirmwareProcessor

/-- Modelled from the spec: the ROM's caller reports an error the flow returns in
FW_ERROR_FATAL. -/
def handleFatalError {α : Type} (x : RomM α) : RomM α :=
  onError x fun e => emit (.fwErrorFatal e)

end Caliptra
