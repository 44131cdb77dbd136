/-
The state the ROM flows act on, and what they are given.

`RomState` holds what `src/rom/dev/src/flow` reads and writes: the fields of the persistent
data (the two manifest slots, the measurement log and its index, the data vault, the IDevID
CSR), the three PCRs the flows extend, the firmware key ladder's chain length, and a trace of
the externally visible events: writes to the firmware error registers, mailbox completions
and writes to ICCM.  The trace is what the ordering and loading properties are stated over.

Everything the flows ask of hardware outside these sources (the mailbox status machine, the
SHA engine behind `extend_pcr`, the KATs, the key ladder's HMACs, the recovery interface, the
verification environment) is a field of `RomHardware`; every theorem holds for every record.
Constants of crates outside these sources are the fields of `RomConsts`.
-/
import Mathlib.Data.Vector.Basic
import CaliptraRom.Image.Verifier

namespace Caliptra

/-- `MEASUREMENT_MAX_COUNT`. Modelled from the spec: "cap at MEASUREMENT_MAX_COUNT=8". -/
def measurementMaxCount : Nat := 8

/-- `size_of::<MailboxReqHeader>()`. Modelled from the spec: "Header: `{u32 checksum}`". -/
def mailboxReqHeaderSize : Nat := 4

/-- `RESERVED_PAUSER`. -/
def reservedPauser : UInt32 := 0xFFFFFFFF

/-- A `u32` from its little-endian bytes. -/
def UInt32.ofLEBytes (b : List UInt8) : UInt32 :=
  b.foldr (fun byte acc => acc <<< 8 ||| byte.toUInt32) 0

/-- The mailbox commands `CommandId::from` tells apart; any other code is `other`. -/
inductive CommandId where
  | firmwareLoad
  | version
  | selfTestStart
  | selfTestGetResults
  | shutdown
  | capabilities
  | stashMeasurement
  | getIdevEccCsr
  | riDownloadFirmware
  | other
  deriving DecidableEq

/-- `StashMeasurementReq`, past its header. -/
structure StashMeasurementReq where
  metadata : List UInt8
  measurement : List UInt8
  context : List UInt8
  svn : UInt32
  deriving DecidableEq

/-- `MeasurementLogEntry`; its constant fields (the entry id, the PCR mask) are left out. -/
structure MeasurementLogEntry where
  pcrData : List UInt8
  metadata : List UInt8
  context : List UInt8
  svn : UInt32
  deriving DecidableEq

/-- The entry `log_measurement` writes for a request. -/
def MeasurementLogEntry.ofReq (m : StashMeasurementReq) : MeasurementLogEntry :=
  ⟨m.measurement, m.metadata, m.context, m.svn⟩

/-- The declarations of `caliptra_common` and `caliptra_image_types` the flows use. -/
structure RomConsts where
  image : ImageConsts
  /-- `IMAGE_BYTE_SIZE`. -/
  imageByteSize : UInt32
  /-- `ImageManifest` read from its bytes, as `as_mut_bytes` lays it out. -/
  manifestOfBytes : List UInt8 → ImageManifest
  /-- `CommandId::from`. -/
  commandId : UInt32 → CommandId
  /-- `caliptra_common::checksum::verify_checksum`. -/
  verifyChecksum : UInt32 → UInt32 → List UInt8 → Bool
  /-- `size_of::<StashMeasurementReq>()`, and the request read from its bytes. -/
  stashMeasurementReqSize : Nat
  stashMeasurementReqOfBytes : List UInt8 → StashMeasurementReq

/-- The values `rom_update_reset_status` is set to. -/
inductive RomBootStatus where
  | updateResetStarted
  | updateResetComplete
  /-- Any other value the register holds. -/
  | other (code : UInt32)
  deriving DecidableEq

/-- The data vault fields the flows write; `manifest_addr` is a constant address and left out. -/
structure DataVault where
  fmcTci : ImageDigest384
  coldBootFwSvn : UInt32
  fmcEntryPoint : UInt32
  ownerPkHash : ImageDigest384
  vendorEccPkIndex : UInt32
  vendorPqcPkIndex : UInt32
  rtTci : ImageDigest384
  fwSvn : UInt32
  fwMinSvn : UInt32
  rtEntryPoint : UInt32
  romUpdateResetStatus : RomBootStatus
  deriving DecidableEq

/-- The persisted IDevID ECC CSR: never written, written with an invalid length, or valid. -/
inductive IdevCsr where
  | unprovisioned
  | invalid
  | valid (csr : List UInt8)
  deriving DecidableEq

/-- A mailbox request as the SoC leaves it: the requester's PAUSER, the command, the length
register and the SRAM contents. -/
structure MailboxRequest where
  id : UInt32
  cmd : UInt32
  dlen : UInt32
  data : List UInt8
  deriving DecidableEq

/-- What the flows make visible outside the ROM. -/
inductive RomEvent where
  /-- `report_fw_error_non_fatal`; `none` is the code `0` that clears it. -/
  | fwErrorNonFatal (e : Option CaliptraError)
  /-- `handle_fatal_error` writes FW_ERROR_FATAL. -/
  | fwErrorFatal (e : CaliptraError)
  /-- The transaction of the `txn`-th request is completed, or dropped uncompleted. -/
  | mailboxComplete (txn : Nat) (success : Bool)
  /-- `copy_from_slice` or `copy_request` into ICCM at `addr`. -/
  | iccmWrite (addr : UInt32) (bytes : List UInt8)
  deriving DecidableEq

structure RomState where
  manifest1 : ImageManifest
  manifest2 : ImageManifest
  /-- `fht.meas_log_index`. -/
  measLogIndex : UInt32
  /-- `measurement_log`, an array of `MEASUREMENT_MAX_COUNT` entries. -/
  measurementLog : Mathlib.Vector MeasurementLogEntry measurementMaxCount
  dataVault : DataVault
  idevEccCsr : IdevCsr
  pcr0 : ImageDigest384
  pcr1 : ImageDigest384
  /-- `PCR_ID_STASH_MEASUREMENT`. -/
  pcr31 : ImageDigest384
  /-- The firmware key ladder's chain length. -/
  keyLadderLen : Nat
  trace : List RomEvent

/-- The hardware and the SoC, as the flows see them. -/
structure RomHardware where
  /-- `soc_ifc.active_mode()`. -/
  activeMode : Bool
  /-- `FipsVersionCmd::execute` and `run_fips_tests`. -/
  fipsVersion : Except CaliptraError Unit
  runFipsTests : Except CaliptraError Unit
  /-- `send_response` and `complete` on the transaction of the `n`-th request. -/
  sendResponse : Nat → Except CaliptraError Unit
  complete : Nat → Bool → Except CaliptraError Unit
  /-- `PcrBank::extend_pcr`: the PCR's new value after extending it with the data. -/
  extendPcr : ImageDigest384 → List UInt8 → Except CaliptraError ImageDigest384
  /-- The mailbox SRAM after `retrieve_image_from_recovery_interface`, and the size it returns. -/
  recoveryImage : Except CaliptraError (List UInt8 × UInt32)
  /-- The engines and fuses `FirmwareImageVerificationEnv` reaches over the mailbox image. -/
  imageEnv : List UInt8 → ImageVerificationEnv
  /-- `update_fuse_log`. -/
  updateFuseLog : ImageVerificationLogInfo → Except CaliptraError Unit
  /-- The measurement `pcr::extend_pcrs` extends PCR0 and PCR1 with. -/
  pcrMeasurement : ImageVerificationInfo → List UInt8
  /-- `key_ladder::initialize_key_ladder` and `key_ladder::extend_key_ladder`. -/
  initializeKeyLadder : UInt32 → Except CaliptraError Unit
  extendKeyLadder : UInt32 → Except CaliptraError Unit

/-- Modelled from the spec: the verification environment of the ROM, whose data-vault reads
are the data vault's fields. -/
def romImageEnv (hw : RomHardware) (image : List UInt8) (dv : DataVault) : ImageVerificationEnv :=
  { hw.imageEnv image with
    vendorEccPubKeyIdxDv := dv.vendorEccPkIndex
    vendorPqcPubKeyIdxDv := dv.vendorPqcPkIndex
    ownerPubKeyDigestDv := dv.ownerPkHash
    getFmcDigestDv := dv.fmcTci }

/-! ### The monad of the flows -/

/-- A flow step: it may fail, and the state it reached stays. -/
abbrev RomM := EStateM CaliptraError RomState

/-- Append an event to the trace. -/
def emit (ev : RomEvent) : RomM Unit := modify fun s => { s with trace := s.trace ++ [ev] }

/-- A call whose error the flow propagates with `?`. -/
def liftExcept {α : Type} : Except CaliptraError α → RomM α
  | .ok a => pure a
  | .error e => throw e

/-- `report_fw_error_non_fatal`. -/
def reportFwErrorNonFatal (e : Option CaliptraError) : RomM Unit := emit (.fwErrorNonFatal e)

/-- Run `x`; if it fails, run `handler` on its error, then fail with it. -/
def onError {α : Type} (x : RomM α) (handler : CaliptraError → RomM Unit) : RomM α := fun s =>
  match x s with
  | .ok a s' => .ok a s'
  | .error e s' => match handler e s' with
    | .ok () s'' => .error e s''
    | .error e' s'' => .error e' s''

/-! ### Mailbox transactions -/

/-- `MailboxRecvTxn`: the request being served and how far `copy_request` has read it. -/
structure MailboxRecvTxn where
  /-- The position of the request among those the flow has received. -/
  index : Nat
  req : MailboxRequest
  cursor : Nat

/-- Modelled from the spec: `copy_request` reads the next `n` bytes of the request. -/
def MailboxRecvTxn.copyRequest (txn : MailboxRecvTxn) (n : Nat) :
    Except CaliptraError (List UInt8 × MailboxRecvTxn) :=
  if txn.cursor + n ≤ txn.req.data.length then
    .ok ((txn.req.data.drop txn.cursor).take n, { txn with cursor := txn.cursor + n })
  else .error .driverError

/-- Modelled from the spec: `drop_words` skips the next `n` words. -/
def MailboxRecvTxn.dropWords (txn : MailboxRecvTxn) (n : Nat) :
    Except CaliptraError MailboxRecvTxn :=
  (txn.copyRequest (4 * n)).map Prod.snd

/-- `txn.complete(success)`: the SoC sees the status once the driver has written it. -/
def MailboxRecvTxn.complete (hw : RomHardware) (txn : MailboxRecvTxn) (success : Bool) :
    RomM Unit := do
  liftExcept (hw.complete txn.index success)
  emit (.mailboxComplete txn.index success)

/-- `txn.send_response(...)`, which completes the transaction with success. -/
def MailboxRecvTxn.sendResponse (hw : RomHardware) (txn : MailboxRecvTxn) : RomM Unit := do
  liftExcept (hw.sendResponse txn.index)
  emit (.mailboxComplete txn.index true)

/-- Modelled from the spec: dropping a transaction that was not completed completes it with
failure. -/
def MailboxRecvTxn.drop (txn : MailboxRecvTxn) : RomM Unit :=
  emit (.mailboxComplete txn.index false)

/-! ### Drivers the two flows share -/

/-- The flows' `verify_image`: `ImageVerifier::verify` over the mailbox image, with the data
vault as it stands. -/
def romVerifyImage (c : RomConsts) (hw : RomHardware) (txn : MailboxRecvTxn)
    (manifest : ImageManifest) (imgBundleSz : UInt32) (reason : ResetReason) :
    RomM ImageVerificationInfo := do
  let s ← get
  liftExcept (verify c.image (romImageEnv hw txn.req.data s.dataVault) manifest imgBundleSz reason)

/-- Modelled from the spec: `pcr::extend_pcrs` extends PCR0 and then PCR1 with the measurement
of the verified image. -/
def extendPcrs (hw : RomHardware) (info : ImageVerificationInfo) : RomM Unit := do
  let pcr0 ← liftExcept (hw.extendPcr (← get).pcr0 (hw.pcrMeasurement info))
  modify fun s => { s with pcr0 }
  let pcr1 ← liftExcept (hw.extendPcr (← get).pcr1 (hw.pcrMeasurement info))
  modify fun s => { s with pcr1 }

/-- Modelled from the spec: `key_ladder::initialize_key_ladder` builds a chain of `chain_len`
links. -/
def initializeKeyLadder (hw : RomHardware) (chainLen : UInt32) : RomM Unit := do
  liftExcept (hw.initializeKeyLadder chainLen)
  modify fun s => { s with keyLadderLen := chainLen.toNat }

/-- Modelled from the spec: `key_ladder::extend_key_ladder` adds `decrement_by` links. -/
def extendKeyLadder (hw : RomHardware) (decrementBy : UInt32) : RomM Unit := do
  liftExcept (hw.extendKeyLadder decrementBy)
  modify fun s => { s with keyLadderLen := s.keyLadderLen + decrementBy.toNat }

end Caliptra
