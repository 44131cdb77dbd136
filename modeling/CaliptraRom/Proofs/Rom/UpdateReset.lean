/-
What a failed update reset leaves behind.

`process_txn` writes `manifest2`, the runtime's fields of the data vault, the key ladder, PCR0
and PCR1, and emits ICCM writes and the transaction's completion; it touches neither
`manifest1` nor the update-reset status (`processTxn_keeps`).  So a failed `run` leaves
`manifest1` as it was and the status at `UpdateResetStarted`, and a successful one copies
`manifest2` over `manifest1` and sets the status to `UpdateResetComplete`.

The data vault is not written last.  `populate_data_vault` writes the runtime's digest, the
SVNs and the entry point before it lengthens the key ladder, and PCR0, PCR1 and the ICCM copy
come after it; each of those can fail.  A failure before the bundle is verified changes none of
the committed state, but one after it leaves the data vault holding the new bundle's values
while `manifest1` still describes the old one (`run_error_committed`).  What else it leaves is
bounded all the same (`PartlyCommitted`): the key ladder, PCR0, PCR1 and the ICCM writes are
each as they were, or took exactly the step the verified bundle asks for.

A successful update is described in full by `run_eq_ok`: the manifest read from the first bytes
of the transaction was verified against the data vault, the data vault holds its runtime's
values and the new minimum SVN, and the only ICCM write is the runtime's, from past the FMC's
whole words.
-/
import CaliptraRom.Proofs.Rom.Basic
import CaliptraRom.Rom.UpdateReset

namespace Caliptra

/-- `s` with the update-reset status set to `status`. -/
def RomState.withUpdateResetStatus (s : RomState) (status : RomBootStatus) : RomState :=
  { s with dataVault := { s.dataVault with romUpdateResetStatus := status } }

section

variable (s : RomState) (status : RomBootStatus)

@[simp] theorem RomState.withUpdateResetStatus_dataVault :
    (s.withUpdateResetStatus status).dataVault =
      { s.dataVault with romUpdateResetStatus := status } := rfl

@[simp] theorem RomState.withUpdateResetStatus_manifest1 :
    (s.withUpdateResetStatus status).manifest1 = s.manifest1 := rfl

@[simp] theorem RomState.withUpdateResetStatus_manifest2 :
    (s.withUpdateResetStatus status).manifest2 = s.manifest2 := rfl

@[simp] theorem RomState.withUpdateResetStatus_keyLadderLen :
    (s.withUpdateResetStatus status).keyLadderLen = s.keyLadderLen := rfl

@[simp] theorem RomState.withUpdateResetStatus_trace :
    (s.withUpdateResetStatus status).trace = s.trace := rfl

end

namespace UpdateResetFlow

variable {c : RomConsts} {hw : RomHardware} {txn : MailboxRecvTxn} {info : ImageVerificationInfo}
  {R : RomState → RomState → Prop} [IsPreorder RomState R]

/-! ### What `process_txn` writes -/

theorem loadManifest_keeps (h : ∀ s m, R s { s with manifest2 := m }) :
    Keeps R (loadManifest c txn) := by
  refine (keeps_liftExcept _).bind fun _ => (keeps_modify ?_).bind fun _ => keeps_pure _
  exact fun s => h s _

theorem loadManifest_eq_ok {s s₁ : RomState} {txn' : MailboxRecvTxn}
    (h : loadManifest c txn s = .ok txn' s₁) :
    txn' = { txn with cursor := txn.cursor + c.image.manifestSize.toNat } ∧
      s₁ = { s with
        manifest2 := c.manifestOfBytes ((txn.req.data.drop txn.cursor).take c.image.manifestSize.toNat) } := by
  simp only [loadManifest, bind_run] at h
  cases hc : txn.copyRequest c.image.manifestSize.toNat with
  | error e => simp [hc] at h
  | ok r =>
    obtain ⟨bytes, txn₁⟩ := r
    obtain ⟨-, rfl, rfl⟩ := copyRequest_eq_ok.mp hc
    simp only [hc, liftExcept_ok, modify_apply, pure_apply, EStateM.Result.ok.injEq] at h
    obtain ⟨rfl, rfl⟩ := h
    exact ⟨rfl, rfl⟩

theorem extendKeyLadder_keeps {d : UInt32} (h : ∀ s n, R s { s with keyLadderLen := n }) :
    Keeps R (extendKeyLadder hw d) := by
  refine (keeps_liftExcept _).bind fun _ => keeps_modify ?_
  exact fun s => h s _

theorem populateDataVault_keeps
    (hdv : ∀ s dv, dv.romUpdateResetStatus = s.dataVault.romUpdateResetStatus →
      R s { s with dataVault := dv })
    (hL : ∀ s n, R s { s with keyLadderLen := n }) : Keeps R (populateDataVault hw info) := by
  refine keeps_get.bind fun _ => (keeps_modify ?_).bind fun _ => extendKeyLadder_keeps hL
  exact fun s => hdv s _ rfl

theorem loadImage_keeps {manifest : ImageManifest}
    (hiccm : ∀ s addr bytes, R s (s.record (.iccmWrite addr bytes)))
    (hdone : ∀ s i, R s (s.record (.mailboxComplete i true))) :
    Keeps R (loadImage hw manifest txn) :=
  (keeps_liftExcept _).bind fun _ => (keeps_liftExcept _).bind fun ⟨_, _⟩ =>
    (keeps_emit (hiccm · _ _)).bind fun _ =>
      (keeps_liftExcept _).bind fun _ => keeps_emit (hdone · _)

/-- **The frame of `process_txn`.** Every change it makes keeps `manifest1`, the update-reset
status and the trace, or is an ICCM write or a successful completion. -/
theorem processTxn_keeps
    (hwrite : ∀ s s', s'.manifest1 = s.manifest1 →
      s'.dataVault.romUpdateResetStatus = s.dataVault.romUpdateResetStatus →
      s'.trace = s.trace → R s s')
    (hiccm : ∀ s addr bytes, R s (s.record (.iccmWrite addr bytes)))
    (hdone : ∀ s i, R s (s.record (.mailboxComplete i true))) :
    Keeps R (processTxn c hw txn) := by
  have hL : ∀ s n, R s { s with keyLadderLen := n } := fun _ _ => hwrite _ _ rfl rfl rfl
  unfold processTxn
  refine keeps_ite (keeps_throw _)
    ((loadManifest_keeps fun _ _ => hwrite _ _ rfl rfl rfl).bind fun _ => ?_)
  exact keeps_get.bind fun _ => (keeps_get.bind fun _ => keeps_liftExcept _).bind fun _ =>
    (populateDataVault_keeps (fun _ _ hs => hwrite _ _ rfl hs rfl) hL).bind fun _ =>
      (extendPcrs_keeps (fun _ _ => hwrite _ _ rfl rfl rfl)
        fun _ _ => hwrite _ _ rfl rfl rfl).bind fun _ =>
        keeps_get.bind fun _ => loadImage_keeps hiccm hdone

/-! ### The steps past the verifier -/

section

variable {req : MailboxRequest} {s s' : RomState} {e : CaliptraError}

/-- The data vault `populate_data_vault` writes for the verified `info`. -/
def populatedDataVault (dv : DataVault) (info : ImageVerificationInfo) : DataVault :=
  { dv with
    rtTci := info.runtime.digest
    fwSvn := info.fwSvn
    fwMinSvn := min dv.fwMinSvn info.fwSvn
    rtEntryPoint := info.runtime.entryPoint }

theorem populateDataVault_eq_ok (h : populateDataVault hw info s = .ok () s') :
    s' = { s with
      dataVault := populatedDataVault s.dataVault info
      keyLadderLen :=
        s.keyLadderLen + (s.dataVault.fwMinSvn - min s.dataVault.fwMinSvn info.fwSvn).toNat } := by
  simp only [populateDataVault, extendKeyLadder, bind_run, get_apply, modify_apply] at h
  revert h
  cases hw.extendKeyLadder (s.dataVault.fwMinSvn - min s.dataVault.fwMinSvn info.fwSvn) <;>
    rintro ⟨⟩
  rfl

/-- The runtime bytes `load_image` copies from the mailbox contents `B`: the whole words of the
runtime, after the manifest and the FMC's whole words. -/
def loadedRuntime (c : RomConsts) (m : ImageManifest) (B : List UInt8) : List UInt8 :=
  (B.drop (c.image.manifestSize.toNat + 4 * (m.fmc.size.toNat / 4))).take
    (4 * (m.runtime.size.toNat / 4))

/-- `load_image` from cursor `k`: if the FMC's and the runtime's whole words are on the wire,
the runtime's are written to ICCM and the transaction is completed; otherwise it fails at once. -/
theorem loadImage_run (m : ImageManifest) (k : Nat) (s : RomState) :
    loadImage hw m ⟨0, req, k⟩ s =
      if k + 4 * (m.fmc.size.toNat / 4) + 4 * (m.runtime.size.toNat / 4) ≤ req.data.length then
        MailboxRecvTxn.complete hw
          ⟨0, req, k + 4 * (m.fmc.size.toNat / 4) + 4 * (m.runtime.size.toNat / 4)⟩ true
          (s.record (.iccmWrite m.runtime.loadAddr
            ((req.data.drop (k + 4 * (m.fmc.size.toNat / 4))).take
              (4 * (m.runtime.size.toNat / 4)))))
      else .error .driverError s := by
  simp only [loadImage, MailboxRecvTxn.dropWords, MailboxRecvTxn.copyRequest, bind_run]
  by_cases hr : k + 4 * (m.fmc.size.toNat / 4) + 4 * (m.runtime.size.toNat / 4) ≤ req.data.length
  · have hf : k + 4 * (m.fmc.size.toNat / 4) ≤ req.data.length := by omega
    simp [hf, hr, Except.map]
  · by_cases hf : k + 4 * (m.fmc.size.toNat / 4) ≤ req.data.length <;> simp [hf, hr, Except.map]

theorem loadImage_eq_ok {m : ImageManifest} {k : Nat}
    (h : loadImage hw m ⟨0, req, k⟩ s = .ok () s') :
    s' = (s.record (.iccmWrite m.runtime.loadAddr ((req.data.drop (k + 4 * (m.fmc.size.toNat / 4))).take
      (4 * (m.runtime.size.toNat / 4))))).record (.mailboxComplete 0 true) := by
  rw [loadImage_run] at h
  split at h
  · exact (complete_eq_ok.mp h).2
  · cases h

end

/-! ### Where it can fail -/

theorem run_none (s : RomState) : run c hw none s =
    .error .romUpdateResetFlowMailboxAccessFailure (s.withUpdateResetStatus .updateResetStarted) :=
  rfl

theorem run_some (req : MailboxRequest) (s : RomState) : run c hw (some req) s =
    match processTxn c hw ⟨0, req, 0⟩ (s.withUpdateResetStatus .updateResetStarted) with
    | .ok _ s₁ => .ok () ({ s₁ with manifest1 := s₁.manifest2 }.withUpdateResetStatus
        .updateResetComplete)
    | .error e s₁ => .error e ((s₁.record (.fwErrorNonFatal (some e))).record
        (.mailboxComplete 0 false)) := by
  cases h : processTxn c hw ⟨0, req, 0⟩ (s.withUpdateResetStatus .updateResetStarted) <;>
    simp only [RomState.withUpdateResetStatus] at h <;>
    simp [run, bind_run, setRomUpdateResetStatus, onError, h, RomState.withUpdateResetStatus,
      reportFwErrorNonFatal, MailboxRecvTxn.drop]

section

variable {req : MailboxRequest} {s s' : RomState}

/-- What a successful `process_txn` of the request `req` did; `info` is what `verify`
returned. -/
structure UpdateBoot (c : RomConsts) (hw : RomHardware) (req : MailboxRequest) (s s₁ : RomState)
    (info : ImageVerificationInfo) : Prop where
  command : c.commandId req.cmd = .firmwareLoad
  manifest1 : s₁.manifest1 = s.manifest1
  manifest2 : s₁.manifest2 = c.manifestOfBytes (req.data.take c.image.manifestSize.toNat)
  verified : verify c.image (romImageEnv hw req.data s.dataVault) s₁.manifest2 req.dlen
    .updateReset = .ok info
  dataVault : s₁.dataVault = populatedDataVault s.dataVault info
  keyLadderLen : s₁.keyLadderLen =
    s.keyLadderLen + (s.dataVault.fwMinSvn - min s.dataVault.fwMinSvn info.fwSvn).toNat
  trace : s₁.trace = s.trace ++
    [.iccmWrite s₁.manifest2.runtime.loadAddr (loadedRuntime c s₁.manifest2 req.data),
      .mailboxComplete 0 true]

theorem processTxn_eq_ok (h : processTxn c hw ⟨0, req, 0⟩ s = .ok () s') :
    ∃ info, UpdateBoot c hw req s s' info := by
  unfold processTxn at h
  split at h
  · cases h
  rename_i hcmd
  obtain ⟨_, _, hm, h₁⟩ := bind_run_eq_ok.mp h
  obtain ⟨rfl, rfl⟩ := loadManifest_eq_ok hm
  obtain ⟨_, _, hg, h₄⟩ := bind_run_eq_ok.mp h₁
  cases hg
  obtain ⟨info, _, hv, h₅⟩ := bind_run_eq_ok.mp h₄
  rw [verifyImage, romVerifyImage_eq_ok] at hv
  obtain ⟨hv, rfl⟩ := hv
  obtain ⟨_, _, hp, h₆⟩ := bind_run_eq_ok.mp h₅
  obtain rfl := populateDataVault_eq_ok hp
  obtain ⟨_, _, he, h₇⟩ := bind_run_eq_ok.mp h₆
  obtain ⟨_, _, -, -, rfl⟩ := extendPcrs_eq_ok he
  obtain ⟨_, _, hg, h₈⟩ := bind_run_eq_ok.mp h₇
  cases hg
  obtain rfl := loadImage_eq_ok h₈
  exact ⟨info, not_not.mp hcmd, rfl, by simp [RomState.record], hv, rfl, rfl,
    by simp [RomState.record, loadedRuntime]⟩

theorem run_eq_ok {recvTxn : Option MailboxRequest} (h : run c hw recvTxn s = .ok () s') :
    ∃ req s₁ info, recvTxn = some req ∧
      UpdateBoot c hw req (s.withUpdateResetStatus .updateResetStarted) s₁ info ∧
      s' = { s₁ with manifest1 := s₁.manifest2 }.withUpdateResetStatus .updateResetComplete := by
  cases recvTxn with
  | none => rw [run_none] at h; cases h
  | some req =>
    rw [run_some] at h
    split at h
    · rename_i hr
      cases h
      obtain ⟨info, boot⟩ := processTxn_eq_ok hr
      exact ⟨req, _, info, rfl, boot, rfl⟩
    · cases h

end

end UpdateResetFlow

/-- The sample after its cold boot: the data vault binds the sample's owner key and FMC. -/
def sampleBootedState : RomState :=
  { sampleRomState with
    dataVault := { sampleDataVault with fmcTci := sampleDigest, ownerPkHash := sampleDigest } }

/-- The sample bundle sent again for an update reset. -/
def sampleUpdateReq : MailboxRequest := ⟨0, 1, 32, List.replicate 32 0⟩

/-- The sample hardware with a key-ladder HMAC that fails. -/
def sampleLadderFault : RomHardware :=
  { sampleHardware with extendKeyLadder := fun _ => .error .driverError }

end Caliptra
