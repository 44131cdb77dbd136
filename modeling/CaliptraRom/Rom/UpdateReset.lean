/-
`UpdateResetFlow`: the new firmware of an update reset.

The flow marks the data vault's update-reset status as started, takes the one mailbox
transaction, reads the new manifest into `manifest2` and verifies the bundle with reason
`UpdateReset`.  It then writes the runtime's fields to the data vault and lengthens the key
ladder by the drop of the minimum SVN, extends PCR0 and PCR1, skips the FMC bytes on the wire
and copies the runtime to ICCM.  Only when all of that succeeded is `manifest2` copied to
`manifest1` and the status set to complete.  A failure is reported in FW_ERROR_NON_FATAL and
then the transaction is dropped.
-/
import CaliptraRom.Rom.State

namespace Caliptra

namespace UpdateResetFlow

/-- `data_vault.set_rom_update_reset_status`. -/
def setRomUpdateResetStatus (status : RomBootStatus) : RomM Unit :=
  modify fun s => { s with dataVault := { s.dataVault with romUpdateResetStatus := status } }

/-- `load_manifest`: the first `size_of::<ImageManifest>()` bytes, into `manifest2`. -/
def loadManifest (c : RomConsts) (txn : MailboxRecvTxn) : RomM MailboxRecvTxn := do
  let (bytes, txn) ← liftExcept (txn.copyRequest c.image.manifestSize.toNat)
  modify fun s => { s with manifest2 := c.manifestOfBytes bytes }
  pure txn

/-- `verify_image`, for update reset. -/
def verifyImage (c : RomConsts) (hw : RomHardware) (txn : MailboxRecvTxn)
    (manifest : ImageManifest) (imgBundleSz : UInt32) : RomM ImageVerificationInfo :=
  romVerifyImage c hw txn manifest imgBundleSz .updateReset

/-- `populate_data_vault`: the runtime's fields and the new minimum SVN, then the key ladder
lengthened by how far the minimum fell. -/
def populateDataVault (hw : RomHardware) (info : ImageVerificationInfo) : RomM Unit := do
  let oldMinSvn := (← get).dataVault.fwMinSvn
  let newMinSvn := min oldMinSvn info.fwSvn
  modify fun s => { s with dataVault := { s.dataVault with
    rtTci := info.runtime.digest
    fwSvn := info.fwSvn
    fwMinSvn := newMinSvn
    rtEntryPoint := info.runtime.entryPoint } }
  extendKeyLadder hw (oldMinSvn - newMinSvn)

/-- `load_image`: drop the FMC's `size / 4` words, copy the runtime's, complete the transaction. -/
def loadImage (hw : RomHardware) (manifest : ImageManifest) (txn : MailboxRecvTxn) :
    RomM Unit := do
  let txn ← liftExcept (txn.dropWords (manifest.fmc.size.toNat / 4))
  let (bytes, txn) ← liftExcept (txn.copyRequest (4 * (manifest.runtime.size.toNat / 4)))
  emit (.iccmWrite manifest.runtime.loadAddr bytes)
  txn.complete hw true

/-- The `process_txn` closure of `run`. -/
def processTxn (c : RomConsts) (hw : RomHardware) (txn : MailboxRecvTxn) : RomM Unit :=
  if c.commandId txn.req.cmd ≠ .firmwareLoad then
    throw .romUpdateResetFlowInvalidFirmwareCommand
  else do
    let txn ← loadManifest c txn
    let info ← verifyImage c hw txn (← get).manifest2 txn.req.dlen
    populateDataVault hw info
    extendPcrs hw info
    loadImage hw (← get).manifest2 txn

/-- `UpdateResetFlow::run`, given what `try_start_recv_txn` returns. -/
def run (c : RomConsts) (hw : RomHardware) (recvTxn : Option MailboxRequest) : RomM Unit := do
  setRomUpdateResetStatus .updateResetStarted
  match recvTxn with
  | none => throw .romUpdateResetFlowMailboxAccessFailure
  | some req =>
    let txn : MailboxRecvTxn := ⟨0, req, 0⟩
    onError (processTxn c hw txn) fun e => do
      reportFwErrorNonFatal (some e)
      txn.drop
    modify fun s => { s with manifest1 := s.manifest2 }
    setRomUpdateResetStatus .updateResetComplete

end UpdateResetFlow

end Caliptra
