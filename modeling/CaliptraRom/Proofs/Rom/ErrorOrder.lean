/-
When the firmware error registers are written, relative to a failed mailbox completion.

The SoC learns from the mailbox that a request failed, and then reads FW_ERROR_NON_FATAL or
FW_ERROR_FATAL for the reason.  Whether the code is there when it looks depends on the order
of the two events in the trace: `errorReportedFirst e n evs` says that in `evs` the code `e`
is written before any failed completion of the `n`-th transaction.

The update-reset flow reports its error and only then drops the transaction
(`run_reports_error_before_drop`).  The cold-reset loop leaves its error to the caller, which
writes FW_ERROR_FATAL once the loop has returned.  Two of its branches, `STASH_MEASUREMENT`
with a full log and `RI_DOWNLOAD_FIRMWARE` in passive mode, complete the transaction with
failure before they return the error, so there the mailbox reports the failure first
(`processMailboxCommands_completes_before_error_write`).  They are the only ones: every other
failing request leaves its transaction alone on the way out (`FailsAlong`), so its error is
written first (`handleRequest_reports_error_first_iff`).
-/
import CaliptraRom.Proofs.Rom.ColdReset
import CaliptraRom.Proofs.Rom.UpdateReset

namespace Caliptra

/-- `ev` writes `e` to FW_ERROR_NON_FATAL or FW_ERROR_FATAL. -/
def RomEvent.writesError (e : CaliptraError) : RomEvent → Bool
  | .fwErrorNonFatal (some e') => e' == e
  | .fwErrorFatal e' => e' == e
  | _ => false

/-- In `evs`, the code `e` is written before any failed completion of the `n`-th
transaction. -/
def errorReportedFirst (e : CaliptraError) (n : Nat) : List RomEvent → Bool
  | [] => true
  | ev :: evs => ev.writesError e || (ev != .mailboxComplete n false && errorReportedFirst e n evs)

theorem errorReportedFirst_append {e : CaliptraError} {n : Nat} {evs : List RomEvent}
    (h : RomEvent.mailboxComplete n false ∉ evs) {rest : List RomEvent}
    (hr : errorReportedFirst e n rest) : errorReportedFirst e n (evs ++ rest) := by
  induction evs with
  | nil => exact hr
  | cons ev evs ih =>
    simp only [List.mem_cons, not_or] at h
    simp [errorReportedFirst, Ne.symm h.1, ih h.2]

/-- `s'` extends the trace of `s` by events none of which fails the `n`-th transaction. -/
def NoFailedCompletion (n : Nat) (s s' : RomState) : Prop :=
  ∃ evs, s'.trace = s.trace ++ evs ∧ RomEvent.mailboxComplete n false ∉ evs

instance (n : Nat) : IsPreorder RomState (NoFailedCompletion n) where
  refl _ := ⟨[], by simp, by simp⟩
  trans _ _ _ := fun ⟨evs₁, h₁, n₁⟩ ⟨evs₂, h₂, n₂⟩ =>
    ⟨evs₁ ++ evs₂, by simp [h₁, h₂], by simp [n₁, n₂]⟩

/-! ### Update reset -/

namespace UpdateResetFlow

/-- `process_txn` fails no transaction itself: its only completion is the successful one. -/
theorem processTxn_noFailedCompletion (c : RomConsts) (hw : RomHardware) (txn : MailboxRecvTxn)
    (n : Nat) : Keeps (NoFailedCompletion n) (processTxn c hw txn) :=
  processTxn_keeps (fun _ _ _ _ h => ⟨[], by simp [h], by simp⟩)
    (fun _ _ _ => ⟨[_], rfl, by simp⟩) fun _ _ => ⟨[_], rfl, by simp⟩

end UpdateResetFlow

open UpdateResetFlow in
/-- **The update-reset flow reports its error before it drops the transaction.**  Whatever
`run` does before it fails, the failed completion of its transaction comes after the error
is written to FW_ERROR_NON_FATAL. -/
theorem run_reports_error_before_drop (c : RomConsts) (hw : RomHardware)
    (recvTxn : Option MailboxRequest) (s : RomState) (e : CaliptraError) (s' : RomState)
    (failed : run c hw recvTxn s = .error e s') :
    ∃ evs, s'.trace = s.trace ++ evs ∧ errorReportedFirst e 0 evs := by
  cases recvTxn with
  | none =>
    rw [run_none] at failed
    cases failed
    exact ⟨[], by simp [RomState.withUpdateResetStatus], rfl⟩
  | some req =>
    rw [run_some] at failed
    have k := processTxn_noFailedCompletion c hw ⟨0, req, 0⟩ 0
      (s.withUpdateResetStatus .updateResetStarted)
    split at failed
    · cases failed
    · rename_i e₁ s₁ hr
      cases failed
      rw [hr] at k
      obtain ⟨evs, htr, hno⟩ := k
      rw [stateOf_error] at htr
      refine ⟨evs ++ [.fwErrorNonFatal (some e), .mailboxComplete 0 false], ?_,
        errorReportedFirst_append hno (by simp [errorReportedFirst, RomEvent.writesError])⟩
      simp [RomState.record, htr, RomState.withUpdateResetStatus]

theorem run_reports_error_before_drop_sample :
    ∃ s', UpdateResetFlow.run sampleRomConsts sampleLadderFault (some sampleUpdateReq)
        sampleBootedState = .error .driverError s' ∧
      ∃ evs, s'.trace = sampleBootedState.trace ++ evs ∧ errorReportedFirst .driverError 0 evs := by
  obtain ⟨s', failed⟩ : ∃ s', UpdateResetFlow.run sampleRomConsts sampleLadderFault
      (some sampleUpdateReq) sampleBootedState = .error .driverError s' := ⟨_, rfl⟩
  exact ⟨s', failed, run_reports_error_before_drop sampleRomConsts sampleLadderFault
    (some sampleUpdateReq) sampleBootedState _ _ failed⟩

/-! ### Cold reset -/

section

variable {c : RomConsts} {hw : RomHardware} {n : Nat} {req : MailboxRequest} {b : Bool}
  {cmd : UInt32} {s : RomState}

/-- The two branches of the loop that complete the transaction with failure and then return an
error: `STASH_MEASUREMENT` with the log full, and `RI_DOWNLOAD_FIRMWARE` in passive mode. -/
def FailsAfterCompleting (c : RomConsts) (hw : RomHardware) (cmd : UInt32) (s : RomState) :
    Prop :=
  c.commandId cmd = .stashMeasurement ∧ s.measLogIndex = measurementMaxCount.toUInt32 ∨
    c.commandId cmd = .riDownloadFirmware ∧ hw.activeMode = false

instance : Decidable (FailsAfterCompleting c hw cmd s) := inferInstanceAs (Decidable (_ ∨ _))

theorem handleRequest_fails_txn (hp : req.id ≠ reservedPauser)
    (hbranch : FailsAfterCompleting c hw req.cmd s) (hok : hw.complete n false = .ok ()) :
    ∃ e, handleRequest c hw n req b s =
      .error e ((s.record (.fwErrorNonFatal none)).record (.mailboxComplete n false)) := by
  have hfl : c.commandId req.cmd ≠ .firmwareLoad := by
    rcases hbranch with ⟨h, -⟩ | ⟨h, -⟩ <;> rw [h] <;> decide
  rw [handleRequest_command hp hfl]
  rcases hbranch with ⟨hc, hfull⟩ | ⟨hc, hpassive⟩
  · rw [handleCommand_stash hc]
    simp [RomState.record, hfull, bind_run, MailboxRecvTxn.complete, hok]
  · simp [handleCommand, hc, hpassive, bind_run, MailboxRecvTxn.complete, hok]

end

/-- **The cold-reset loop fails the transaction before its error is written.**  A
`STASH_MEASUREMENT` that finds the log full, or a `RI_DOWNLOAD_FIRMWARE` in passive mode, is
completed with failure, and only then does the loop return the error that the caller writes to
FW_ERROR_FATAL. -/
theorem processMailboxCommands_completes_before_error_write (c : RomConsts) (hw : RomHardware)
    (req : MailboxRequest) (reqs : List MailboxRequest) (n : Nat) (b : Bool) (s : RomState)
    (hp : req.id ≠ reservedPauser)
    (hbranch : c.commandId req.cmd = .stashMeasurement ∧
        s.measLogIndex = measurementMaxCount.toUInt32 ∨
      c.commandId req.cmd = .riDownloadFirmware ∧ hw.activeMode = false)
    (hok : hw.complete n false = .ok ()) :
    ∃ e, handleFatalError (processMailboxCommands c hw (req :: reqs) n b) s = .error e
        { s with trace := s.trace ++
          [.fwErrorNonFatal none, .mailboxComplete n false, .fwErrorFatal e] } ∧
      errorReportedFirst e n
        [.fwErrorNonFatal none, .mailboxComplete n false, .fwErrorFatal e] = false := by
  obtain ⟨e, he⟩ := handleRequest_fails_txn (b := b) hp hbranch hok
  refine ⟨e, ?_, by simp [errorReportedFirst, RomEvent.writesError]⟩
  simp [processMailboxCommands, handleFatalError, onError, bind_run, he, RomState.record]

/-- A stash request of eight bytes. -/
def sampleStashReq : MailboxRequest := ⟨0, 2, 8, List.replicate 8 7⟩

theorem stash_at_full_log_completes_before_error_write :
    ∃ e, handleFatalError (processMailboxCommands sampleRomConsts sampleHardware
        [sampleStashReq] 0 false) { sampleRomState with measLogIndex := 8 } = .error e
        { sampleRomState with measLogIndex := 8, trace :=
          [.fwErrorNonFatal none, .mailboxComplete 0 false, .fwErrorFatal e] } ∧
      errorReportedFirst e 0
        [.fwErrorNonFatal none, .mailboxComplete 0 false, .fwErrorFatal e] = false :=
  processMailboxCommands_completes_before_error_write _ _ _ _ _ _ _ (by decide)
    (.inl ⟨rfl, rfl⟩) rfl

/-! ### Every other failure writes its error first -/

section

variable {c : RomConsts} {hw : RomHardware} {n : Nat} {req : MailboxRequest} {b : Bool}
  {txn : MailboxRecvTxn} {s : RomState} {R : RomState → RomState → Prop} [IsPreorder RomState R]

/-- Outside the two branches, a failing command leaves the state along any preorder that
successful completions and trace-preserving writes keep. -/
theorem handleCommand_failsAlong (hdone : ∀ s, R s (s.record (.mailboxComplete txn.index true)))
    (hframe : ∀ s s', s'.trace = s.trace → R s s')
    (hnot : ¬(hw.complete txn.index false = .ok () ∧ FailsAfterCompleting c hw txn.req.cmd s)) :
    FailsAlong R (handleCommand c hw txn b) s := by
  have send := keeps_sendResponse hw txn hdone
  unfold handleCommand
  split
  · exact ((keeps_liftExcept _).bind fun _ => (keeps_liftExcept _).bind fun _ =>
      send.bind fun _ => keeps_pure _).failsAlong s
  · exact (keeps_liftExcept _).bind_failsAlong fun _ _ _ => failsAlong_ite
      (fun _ => failsAlong_complete.bind_pure) fun _ =>
        ((keeps_liftExcept _).bind fun _ => send.bind fun _ => keeps_pure _).failsAlong _
  · exact (keeps_liftExcept _).bind_failsAlong fun _ _ _ => failsAlong_ite
      (fun _ => failsAlong_complete.bind_pure) fun _ =>
        (send.bind fun _ => keeps_pure _).failsAlong _
  · exact ((keeps_liftExcept _).bind fun _ => send.bind fun _ => keeps_throw _).failsAlong s
  · exact ((keeps_liftExcept _).bind fun _ => send.bind fun _ => keeps_pure _).failsAlong s
  · rename_i hc
    refine keeps_get.bind_failsAlong fun _ _ hg => ?_
    cases hg
    exact failsAlong_ite
      (fun hfull => failsAlong_complete_bind fun hok => hnot ⟨hok, .inl ⟨hc, hfull⟩⟩) fun _ =>
        ((stashMeasurement_keeps hframe).bind fun _ => send.bind fun _ => keeps_pure _).failsAlong _
  · refine Keeps.failsAlong ((keeps_liftExcept _).bind fun _ => keeps_get.bind fun s => ?_) s
    split
    · exact keeps_throw _
    · exact keeps_throw _
    · exact send.bind fun _ => keeps_pure _
  · rename_i hc
    exact failsAlong_ite (fun hp => failsAlong_complete_bind fun hok =>
        hnot ⟨hok, .inr ⟨hc, by simpa using hp⟩⟩)
      fun _ => ((keeps_liftExcept _).bind fun _ => keeps_pure _).failsAlong _
  · exact (keeps_throw _).failsAlong s

theorem handleRequest_failsAlong (hemit : ∀ s, R s (s.record (.fwErrorNonFatal none)))
    (hdone : ∀ s, R s (s.record (.mailboxComplete n true)))
    (hframe : ∀ s s', s'.trace = s.trace → R s s')
    (hnot : ¬(req.id ≠ reservedPauser ∧ hw.complete n false = .ok () ∧
      FailsAfterCompleting c hw req.cmd s)) :
    FailsAlong R (handleRequest c hw n req b) s := by
  unfold handleRequest
  refine (keeps_emit hemit).bind_failsAlong fun _ _ h₁ => ?_
  cases h₁
  exact failsAlong_ite (fun _ => (keeps_throw _).failsAlong _) fun hp => failsAlong_ite
    (fun _ => (keeps_ite (keeps_throw _) (keeps_ite (keeps_throw _) (keeps_pure _))).failsAlong _)
    fun _ => handleCommand_failsAlong hdone hframe fun ⟨hok, hbr⟩ => hnot ⟨hp, hok, hbr⟩

end

/-- The caller's handler fails only where the flow did, and adds FW_ERROR_FATAL. -/
theorem handleFatalError_error {α : Type} {x : RomM α} {s s' : RomState} {e : CaliptraError}
    (h : handleFatalError x s = .error e s') :
    ∃ s₁, x s = .error e s₁ ∧ s' = s₁.record (.fwErrorFatal e) := by
  simp only [handleFatalError, onError, emit_apply] at h
  cases hx : x s <;> rw [hx] at h <;> cases h
  exact ⟨_, rfl, rfl⟩

/-- **The two branches are the only ones that fail the transaction first.**  When a request of
the cold-reset loop fails and the caller writes the error to FW_ERROR_FATAL, the mailbox has
already reported the transaction failed exactly when the request passed the PAUSER check, is
one of the two branches that complete before they fail, and the mailbox accepted that
completion; every other failure writes its error first. -/
theorem handleRequest_reports_error_first_iff (c : RomConsts) (hw : RomHardware) (n : Nat)
    (req : MailboxRequest) (b : Bool) (s : RomState) (e : CaliptraError) (s' : RomState)
    (failed : handleFatalError (handleRequest c hw n req b) s = .error e s') :
    ∃ evs, s'.trace = s.trace ++ evs ∧
      (errorReportedFirst e n evs = false ↔ req.id ≠ reservedPauser ∧
        hw.complete n false = .ok () ∧ FailsAfterCompleting c hw req.cmd s) := by
  obtain ⟨s₁, hr, rfl⟩ := handleFatalError_error failed
  by_cases hbr : req.id ≠ reservedPauser ∧ hw.complete n false = .ok () ∧
      FailsAfterCompleting c hw req.cmd s
  · obtain ⟨e', he⟩ := handleRequest_fails_txn (b := b) hbr.1 hbr.2.2 hbr.2.1
    rw [he] at hr
    cases hr
    exact ⟨[.fwErrorNonFatal none, .mailboxComplete n false, .fwErrorFatal e],
      by simp [RomState.record],
      iff_of_true (by simp [errorReportedFirst, RomEvent.writesError]) hbr⟩
  · have kept : FailsAlong (NoFailedCompletion n) (handleRequest c hw n req b) s :=
      handleRequest_failsAlong (fun _ => ⟨[_], rfl, by simp⟩) (fun _ => ⟨[_], rfl, by simp⟩)
        (fun _ _ h => ⟨[], by simp [h], by simp⟩) hbr
    obtain ⟨evs, htr, hno⟩ := kept e s₁ hr
    refine ⟨evs ++ [.fwErrorFatal e], by simp [RomState.record, htr], iff_of_false ?_ hbr⟩
    simp [errorReportedFirst_append hno (by simp [errorReportedFirst, RomEvent.writesError] :
      errorReportedFirst e n [.fwErrorFatal e])]

/-- A request with a command the loop does not know. -/
def sampleUnknownReq : MailboxRequest := ⟨0, 9, 0, []⟩

theorem unknown_command_reports_error_first :
    ∃ s', handleFatalError (handleRequest sampleRomConsts sampleHardware 0 sampleUnknownReq false)
        sampleRomState = .error .fwProcMailboxInvalidCommand s' ∧
      ∃ evs, s'.trace = sampleRomState.trace ++ evs ∧
        (errorReportedFirst .fwProcMailboxInvalidCommand 0 evs = false ↔
          sampleUnknownReq.id ≠ reservedPauser ∧ sampleHardware.complete 0 false = .ok () ∧
            FailsAfterCompleting sampleRomConsts sampleHardware sampleUnknownReq.cmd
              sampleRomState) := by
  obtain ⟨s', failed⟩ : ∃ s', handleFatalError (handleRequest sampleRomConsts sampleHardware 0
      sampleUnknownReq false) sampleRomState = .error .fwProcMailboxInvalidCommand s' :=
    ⟨_, rfl⟩
  exact ⟨s', failed, handleRequest_reports_error_first_iff sampleRomConsts sampleHardware 0
    sampleUnknownReq false sampleRomState _ _ failed⟩

end Caliptra
