/-
PCR31 and the stash-measurement log of the mailbox loop.

A `STASH_MEASUREMENT` request extends PCR31 with its measurement and then writes the entry at
`meas_log_index`; no other command touches either.  Started from an index within the log, the
two stay in lockstep: each request either logs exactly the measurement it carries or fails
having changed neither (`handleRequest_logged`), and after any sequence of requests the log
past the starting index and PCR31 hold exactly the measurements of the stash requests among
the first requests, in the order they came (`processMailboxCommands_logged`).  The requests
that carry a measurement are named by `stashPayload_eq_some`: a `STASH_MEASUREMENT` of the
right length with a verifying checksum, its measurement read from its bytes; every other
request logs nothing.

The check that refuses a stash request when the log is full compares the index with the
maximum for equality.  It is what keeps `log_measurement` from ever finding the log full after
PCR31 was extended, and it does so only because the index starts, and so stays, within the
log.
-/
import CaliptraRom.Proofs.Basic
import CaliptraRom.Proofs.Rom.Basic
import CaliptraRom.Rom.FwProcessor

namespace Caliptra

/-- What stash requests write: the log index, the log and PCR31. -/
def measView (s : RomState) :
    UInt32 × Mathlib.Vector MeasurementLogEntry measurementMaxCount × ImageDigest384 :=
  (s.measLogIndex, s.measurementLog, s.pcr31)

theorem traceFree_measView : TraceFree measView := fun _ _ => rfl

/-- The measurement a request carries: it is a stash request whose length and checksum are
right. -/
def stashPayload (c : RomConsts) (req : MailboxRequest) : Option StashMeasurementReq :=
  if c.commandId req.cmd = .stashMeasurement then
    (copyReqVerifyChksum c ⟨0, req, 0⟩ c.stashMeasurementReqSize).toOption.map
      c.stashMeasurementReqOfBytes
  else none

/-- From `s` to `s'` exactly the stash requests `acc` were logged, in order: the index moved
past them, their entries follow the entries before the old index, the entries after them are
untouched, and PCR31 is the old one extended with their measurements. -/
structure MeasLogged (hw : RomHardware) (s : RomState) (acc : List StashMeasurementReq)
    (s' : RomState) : Prop where
  index : s'.measLogIndex.toNat = s.measLogIndex.toNat + acc.length
  bound : s'.measLogIndex.toNat ≤ measurementMaxCount
  log : s'.measurementLog.toList = s.measurementLog.toList.take s.measLogIndex.toNat ++
    acc.map .ofReq ++ s.measurementLog.toList.drop (s.measLogIndex.toNat + acc.length)
  pcr31 : (acc.map (·.measurement)).foldlM hw.extendPcr s.pcr31 = .ok s'.pcr31

/-- `s` after `extend_measurement` of `m`, PCR31's new value being `pcr31`. -/
def RomState.stash (s : RomState) (m : StashMeasurementReq) (pcr31 : ImageDigest384)
    (h : s.measLogIndex.toNat < measurementMaxCount) : RomState :=
  { s with
    pcr31
    measurementLog := s.measurementLog.set ⟨_, h⟩ (.ofReq m)
    measLogIndex := s.measLogIndex + 1 }

section

variable {hw : RomHardware} {s s' t t' s₁ s₂ : RomState} {acc a₁ a₂ : List StashMeasurementReq}

/-! ### Logging -/

namespace MeasLogged

/-- Nothing is logged where the three fields are unchanged. -/
theorem of_measView (hk : s.measLogIndex.toNat ≤ measurementMaxCount)
    (h : measView s' = measView s) : MeasLogged hw s [] s' := by
  simp only [measView, Prod.mk.injEq] at h
  obtain ⟨hi, hl, hp⟩ := h
  exact ⟨by simp [hi], hi ▸ hk, by simp [hl], by simp [hp]⟩

/-- Only the three fields matter, at either end. -/
theorem congr (h₁ : measView t = measView s) (h₂ : measView t' = measView s')
    (h : MeasLogged hw s acc s') : MeasLogged hw t acc t' := by
  simp only [measView, Prod.mk.injEq] at h₁ h₂
  obtain ⟨i₁, l₁, p₁⟩ := h₁
  obtain ⟨i₂, l₂, p₂⟩ := h₂
  exact ⟨i₁ ▸ i₂ ▸ h.index, i₂ ▸ h.bound, i₁ ▸ l₁ ▸ l₂ ▸ h.log, p₁ ▸ p₂ ▸ h.pcr31⟩

/-- Logging `a₁` and then `a₂` logs `a₁ ++ a₂`. -/
theorem trans (h₁ : MeasLogged hw s a₁ s₁) (h₂ : MeasLogged hw s₁ a₂ s₂) :
    MeasLogged hw s (a₁ ++ a₂) s₂ where
  index := by rw [h₂.index, h₁.index, List.length_append, Nat.add_assoc]
  bound := h₂.bound
  log := by
    have hlen := s.measurementLog.toList_length
    have hk : (s.measurementLog.toList.take s.measLogIndex.toNat ++
        a₁.map MeasurementLogEntry.ofReq).length =
        s₁.measLogIndex.toNat := by
      have := h₁.bound
      simp only [List.length_append, List.length_take, List.length_map, hlen, h₁.index] at this ⊢
      omega
    rw [h₂.log, h₁.log, List.take_left' hk, ← hk, List.drop_append, List.drop_drop]
    simp only [List.map_append, List.length_append, List.append_assoc, Nat.add_assoc]
  pcr31 := by
    rw [List.map_append, List.foldlM_append, h₁.pcr31]
    exact h₂.pcr31

/-- One stash with room in the log logs its request. -/
theorem stash {m : StashMeasurementReq} {p : ImageDigest384}
    (h : s.measLogIndex.toNat < measurementMaxCount)
    (hp : hw.extendPcr s.pcr31 m.measurement = .ok p) :
    MeasLogged hw s [m] (s.stash m p h) := by
  have hidx : (s.measLogIndex + 1).toNat = s.measLogIndex.toNat + 1 :=
    UInt32.toNat_add_of_lt (by simp only [measurementMaxCount] at h; simp; omega)
  refine ⟨hidx, hidx ▸ h, ?_, by simp [RomState.stash, hp]⟩
  simp only [RomState.stash, Mathlib.Vector.toList_set, List.map_cons, List.map_nil,
    List.length_singleton]
  rw [List.set_eq_take_cons_drop _ (by rw [Mathlib.Vector.toList_length]; exact h)]
  simp

end MeasLogged

/-! ### One request -/

variable {c : RomConsts} {n : Nat} {req : MailboxRequest} {b : Bool} {txn : MailboxRecvTxn}
  {R : RomState → RomState → Prop} [IsPreorder RomState R]

theorem copyReqVerifyChksum_index (c : RomConsts) (n len : Nat) (req : MailboxRequest) :
    copyReqVerifyChksum c ⟨n, req, 0⟩ len = copyReqVerifyChksum c ⟨0, req, 0⟩ len := by
  by_cases h : len ≤ req.data.length <;>
    simp [copyReqVerifyChksum, MailboxRecvTxn.copyRequest, h, bind, Except.bind]

theorem stashPayload_of_ne (hc : c.commandId req.cmd ≠ .stashMeasurement) :
    stashPayload c req = none := if_neg hc

/-- `copy_req_verify_chksum` of a fresh transaction returns the first `len` bytes of the request
exactly when the length register says `len`, the request has that many bytes, and their
checksum verifies. -/
theorem copyReqVerifyChksum_eq_ok {len : Nat} {data : List UInt8} :
    copyReqVerifyChksum c ⟨0, req, 0⟩ len = .ok data ↔ req.dlen.toNat = len ∧
      len ≤ req.data.length ∧ data = req.data.take len ∧
      c.verifyChecksum (UInt32.ofLEBytes (data.take mailboxReqHeaderSize)) req.cmd
        (data.drop mailboxReqHeaderSize) = true := by
  simp only [copyReqVerifyChksum, MailboxRecvTxn.copyRequest, failIf, bind, Except.bind,
    Nat.zero_add, List.drop_zero]
  split_ifs with hd hl
  · simp [hd]
  · cases hv : c.verifyChecksum (UInt32.ofLEBytes ((req.data.take len).take mailboxReqHeaderSize))
      req.cmd ((req.data.take len).drop mailboxReqHeaderSize) <;>
      simp [hv, hl, not_not.mp hd, pure, Except.pure]
    · rintro rfl
      exact hv
    · constructor
      · rintro rfl
        exact ⟨rfl, hv⟩
      · exact fun h => h.1.symm
  · simp [hl]

/-- The requests that carry a measurement: a `STASH_MEASUREMENT` whose length register gives the
request's size, whose bytes are all there and whose checksum verifies; the measurement is read
from those bytes. -/
theorem stashPayload_eq_some {m : StashMeasurementReq} :
    stashPayload c req = some m ↔ c.commandId req.cmd = .stashMeasurement ∧
      req.dlen.toNat = c.stashMeasurementReqSize ∧ c.stashMeasurementReqSize ≤ req.data.length ∧
      c.verifyChecksum
        (UInt32.ofLEBytes ((req.data.take c.stashMeasurementReqSize).take mailboxReqHeaderSize))
        req.cmd ((req.data.take c.stashMeasurementReqSize).drop mailboxReqHeaderSize) = true ∧
      m = c.stashMeasurementReqOfBytes (req.data.take c.stashMeasurementReqSize) := by
  unfold stashPayload
  split
  · rename_i hc
    cases h : copyReqVerifyChksum c ⟨0, req, 0⟩ c.stashMeasurementReqSize with
    | error e =>
      refine iff_of_false (by simp [Except.toOption]) fun ⟨_, hd, hl, hv, _⟩ => ?_
      have := copyReqVerifyChksum_eq_ok.mpr ⟨hd, hl, rfl, hv⟩
      rw [h] at this
      cases this
    | ok data =>
      obtain ⟨hd, hl, rfl, hv⟩ := copyReqVerifyChksum_eq_ok.mp h
      simp [Except.toOption, hc, hd, hl, hv, eq_comm]
  · simp [*]

theorem handleRequest_pauser (h : req.id = reservedPauser) :
    handleRequest c hw n req b s =
      .error .fwProcMailboxReservedPauser (s.record (.fwErrorNonFatal none)) := by
  simp [handleRequest, h, bind_run, reportFwErrorNonFatal]

theorem handleRequest_command (hp : req.id ≠ reservedPauser)
    (hc : c.commandId req.cmd ≠ .firmwareLoad) :
    handleRequest c hw n req b s =
      handleCommand c hw ⟨n, req, 0⟩ b (s.record (.fwErrorNonFatal none)) := by
  simp [handleRequest, hp, hc, bind_run, reportFwErrorNonFatal]

theorem handleCommand_stash (hc : c.commandId txn.req.cmd = .stashMeasurement) :
    handleCommand c hw txn b s = if s.measLogIndex = measurementMaxCount.toUInt32 then
      (txn.complete hw false >>= fun _ => throw .fwProcMailboxStashMeasurementMaxLimit) s
    else (stashMeasurement c hw txn >>= fun _ => txn.sendResponse hw >>= fun _ =>
      pure (.next b)) s := by
  simp only [handleCommand, hc, bind_run, get_apply]
  split <;> simp only [bind_run]

theorem extendMeasurement_apply {m : StashMeasurementReq}
    (h : s.measLogIndex.toNat < measurementMaxCount) :
    extendMeasurement hw m s = match hw.extendPcr s.pcr31 m.measurement with
      | .ok p => .ok () (s.stash m p h)
      | .error e => .error e s := by
  cases hp : hw.extendPcr s.pcr31 m.measurement <;>
    simp [extendMeasurement, logMeasurement, bind_run, hp, h, RomState.stash]

/-- Every command changes the state only by the events it emits, none of them an ICCM write,
and by what `STASH_MEASUREMENT`'s `stash_measurement` does. -/
theorem handleCommand_keeps (hemit : ∀ s ev, ev.isIccmWrite = false → R s (s.record ev))
    (hstash : c.commandId txn.req.cmd = .stashMeasurement → Keeps R (stashMeasurement c hw txn)) :
    Keeps R (handleCommand c hw txn b) := by
  have send := keeps_sendResponse hw txn (hemit · _ rfl)
  have fail := keeps_complete hw txn false (hemit · _ rfl)
  unfold handleCommand
  split
  · exact (keeps_liftExcept _).bind fun _ => (keeps_liftExcept _).bind fun _ =>
      send.bind fun _ => keeps_pure _
  · exact (keeps_liftExcept _).bind fun _ => keeps_ite (fail.bind fun _ => keeps_pure _)
      ((keeps_liftExcept _).bind fun _ => send.bind fun _ => keeps_pure _)
  · exact (keeps_liftExcept _).bind fun _ => keeps_ite (fail.bind fun _ => keeps_pure _)
      (send.bind fun _ => keeps_pure _)
  · exact (keeps_liftExcept _).bind fun _ => send.bind fun _ => keeps_throw _
  · exact (keeps_liftExcept _).bind fun _ => send.bind fun _ => keeps_pure _
  · rename_i hc
    exact keeps_get.bind fun _ => keeps_ite (fail.bind fun _ => keeps_throw _)
      ((hstash hc).bind fun _ => send.bind fun _ => keeps_pure _)
  · refine (keeps_liftExcept _).bind fun _ => keeps_get.bind fun s => ?_
    split
    · exact keeps_throw _
    · exact keeps_throw _
    · exact send.bind fun _ => keeps_pure _
  · exact keeps_ite (fail.bind fun _ => keeps_throw _)
      ((keeps_liftExcept _).bind fun _ => keeps_pure _)
  · exact keeps_throw _

theorem handleRequest_keeps (hemit : ∀ s ev, ev.isIccmWrite = false → R s (s.record ev))
    (hstash : c.commandId req.cmd = .stashMeasurement →
      Keeps R (stashMeasurement c hw ⟨n, req, 0⟩)) :
    Keeps R (handleRequest c hw n req b) := by
  unfold handleRequest
  exact (keeps_emit (hemit · (.fwErrorNonFatal none) rfl)).bind fun _ =>
    keeps_ite (keeps_throw _) <|
    keeps_ite (keeps_ite (keeps_throw _) (keeps_ite (keeps_throw _) (keeps_pure _)))
      (handleCommand_keeps hemit hstash)

/-- A stash request with room in the log logs what it carries, or fails having logged
nothing. -/
theorem handleCommand_stash_logged (hc : c.commandId req.cmd = .stashMeasurement)
    (hroom : s.measLogIndex.toNat < measurementMaxCount) :
    let r := (stashMeasurement c hw ⟨n, req, 0⟩ >>= fun _ =>
      MailboxRecvTxn.sendResponse hw ⟨n, req, 0⟩ >>= fun _ => pure (MailboxLoop.next b)) s
    MeasLogged hw s (stashPayload c req).toList (stateOf r) ∨
      (MeasLogged hw s [] (stateOf r) ∧ ∃ e, r = .error e (stateOf r)) := by
  have hk := hroom.le
  simp only [bind_run, stashMeasurement, stashPayload, hc, if_true]
  rw [copyReqVerifyChksum_index c n]
  cases hd : copyReqVerifyChksum c ⟨0, req, 0⟩ c.stashMeasurementReqSize with
  | error e => exact .inr ⟨.of_measView hk rfl, e, rfl⟩
  | ok data =>
    simp only [liftExcept_ok, extendMeasurement_apply hroom, Except.toOption, Option.map_some',
      Option.toList_some]
    generalize c.stashMeasurementReqOfBytes data = m
    cases hp : hw.extendPcr s.pcr31 m.measurement with
    | error e => exact .inr ⟨.of_measView hk rfl, e, rfl⟩
    | ok p =>
      have h := MeasLogged.stash hroom hp
      have hsend := keeps_sendResponse hw ⟨n, req, 0⟩ (traceFree_measView · _)
        (s.stash m p hroom)
      left
      dsimp only
      cases hr : MailboxRecvTxn.sendResponse hw ⟨n, req, 0⟩ (s.stash m p hroom) <;>
        rw [hr] at hsend <;> exact h.congr rfl hsend

/-- **One request.** From an index within the log, a request either logs exactly the
measurement it carries, or fails having changed none of the index, the log and PCR31. -/
theorem handleRequest_logged (c : RomConsts) (hw : RomHardware) (n : Nat) (req : MailboxRequest)
    (b : Bool) (hk : s.measLogIndex.toNat ≤ measurementMaxCount) :
    MeasLogged hw s (stashPayload c req).toList (stateOf (handleRequest c hw n req b s)) ∨
      (MeasLogged hw s [] (stateOf (handleRequest c hw n req b s)) ∧
        ∃ e, handleRequest c hw n req b s = .error e (stateOf (handleRequest c hw n req b s))) := by
  by_cases hc : c.commandId req.cmd = .stashMeasurement
  swap
  · rw [stashPayload_of_ne hc]
    exact .inl (.of_measView hk (handleRequest_keeps (fun s ev _ => traceFree_measView s ev)
      (absurd · hc) s))
  by_cases hp : req.id = reservedPauser
  · rw [handleRequest_pauser hp]
    exact .inr ⟨.of_measView hk rfl, _, rfl⟩
  have hview : measView (s.record (.fwErrorNonFatal none)) = measView s := rfl
  rw [handleRequest_command hp (by rw [hc]; decide), handleCommand_stash hc]
  by_cases hfull : (s.record (.fwErrorNonFatal none)).measLogIndex = measurementMaxCount.toUInt32
  · rw [if_pos hfull]
    obtain ⟨e, he⟩ := bind_throw_run (MailboxRecvTxn.complete hw ⟨n, req, 0⟩ false)
      .fwProcMailboxStashMeasurementMaxLimit (s.record (.fwErrorNonFatal none))
    rw [he, stateOf_error]
    have hsame := (keeps_complete hw ⟨n, req, 0⟩ false (traceFree_measView · _)
      (s.record (.fwErrorNonFatal none))).trans hview
    exact .inr ⟨.of_measView hk hsame, e, rfl⟩
  · rw [if_neg hfull]
    have hroom : (s.record (.fwErrorNonFatal none)).measLogIndex.toNat < measurementMaxCount := by
      have : s.measLogIndex.toNat ≠ 8 := fun h8 => hfull (UInt32.eq_iff_toNat_eq.mpr h8)
      simp only [measurementMaxCount] at hk ⊢
      exact Nat.lt_of_le_of_ne hk this
    rcases handleCommand_stash_logged hc hroom with h | ⟨h, he⟩
    · exact .inl (h.congr hview.symm rfl)
    · exact .inr ⟨h.congr hview.symm rfl, he⟩

theorem filterMap_cons_toList {α β : Type} (g : α → Option β) (a : α) (l : List α) :
    (a :: l).filterMap g = (g a).toList ++ l.filterMap g := by
  cases h : g a <;> simp [List.filterMap_cons, h]

/-- **The whole loop.** From an index within the log, the requests the loop has served leave
the log past the starting index and PCR31 holding exactly the measurements of the stash
requests among the first `i` of them, in order; once the loop has consumed them all, among
all of them. -/
theorem processMailboxCommands_logged (c : RomConsts) (hw : RomHardware)
    (reqs : List MailboxRequest) (n : Nat) (b : Bool)
    (hk : s.measLogIndex.toNat ≤ measurementMaxCount) :
    ∃ i ≤ reqs.length, MeasLogged hw s ((reqs.take i).filterMap (stashPayload c))
        (stateOf (processMailboxCommands c hw reqs n b s)) ∧
      ∀ s', processMailboxCommands c hw reqs n b s = .ok none s' → i = reqs.length := by
  induction reqs generalizing n b s with
  | nil => exact ⟨0, le_rfl, .of_measView hk rfl, fun _ _ => rfl⟩
  | cons req reqs ih =>
    have step := handleRequest_logged c hw n req b hk
    simp only [processMailboxCommands, bind_run]
    cases hr : handleRequest c hw n req b s with
    | error e s₁ =>
      rw [hr, stateOf_error] at step
      rcases step with h | ⟨h, _⟩
      · exact ⟨1, by simp, by simpa [filterMap_cons_toList] using h, by simp⟩
      · exact ⟨0, by simp, by simpa using h, by simp⟩
    | ok r s₁ =>
      rw [hr, stateOf_ok] at step
      have logged : MeasLogged hw s (stashPayload c req).toList s₁ := by
        rcases step with h | ⟨_, _, he⟩
        · exact h
        · cases he
      cases r with
      | next b' =>
        obtain ⟨i, hi, h, hall⟩ := ih (n + 1) b' logged.bound
        refine ⟨i + 1, by simpa using hi, ?_, fun s' h' => by simp [hall s' h']⟩
        rw [List.take_succ_cons, filterMap_cons_toList]
        exact logged.trans h
      | received txn sz =>
        exact ⟨1, by simp, by simpa [filterMap_cons_toList] using logged, by simp⟩

end

/-- **PCR31 and the measurement log stay in lockstep.** From a log index within the log:
every request logs exactly the measurement it carries, or fails having changed none of the
index, the log and PCR31; and after any sequence of requests, the index stays within the log
and the log past the starting index and PCR31 hold exactly the measurements of the stash
requests among a prefix of the requests, in submission order, all of them once the loop has
consumed them. -/
theorem processMailboxCommands_measurements (c : RomConsts) (hw : RomHardware) (s : RomState)
    (hk : s.measLogIndex.toNat ≤ measurementMaxCount) :
    (∀ n req b,
      MeasLogged hw s (stashPayload c req).toList (stateOf (handleRequest c hw n req b s)) ∨
        (MeasLogged hw s [] (stateOf (handleRequest c hw n req b s)) ∧
          ∃ e, handleRequest c hw n req b s = .error e (stateOf (handleRequest c hw n req b s)))) ∧
    ∀ reqs n b, ∃ i ≤ reqs.length, MeasLogged hw s ((reqs.take i).filterMap (stashPayload c))
        (stateOf (processMailboxCommands c hw reqs n b s)) ∧
      ∀ s', processMailboxCommands c hw reqs n b s = .ok none s' → i = reqs.length :=
  ⟨fun n req b => handleRequest_logged c hw n req b hk,
    fun reqs n b => processMailboxCommands_logged c hw reqs n b hk⟩

theorem processMailboxCommands_measurements_sample :
    sampleRomState.measLogIndex.toNat ≤ measurementMaxCount ∧
    (∀ n req b, MeasLogged sampleHardware sampleRomState (stashPayload sampleRomConsts req).toList
        (stateOf (handleRequest sampleRomConsts sampleHardware n req b sampleRomState)) ∨
      (MeasLogged sampleHardware sampleRomState []
          (stateOf (handleRequest sampleRomConsts sampleHardware n req b sampleRomState)) ∧
        ∃ e, handleRequest sampleRomConsts sampleHardware n req b sampleRomState =
          .error e (stateOf (handleRequest sampleRomConsts sampleHardware n req b sampleRomState)))) ∧
    ∀ reqs n b, ∃ i ≤ reqs.length, MeasLogged sampleHardware sampleRomState
        ((reqs.take i).filterMap (stashPayload sampleRomConsts))
        (stateOf (processMailboxCommands sampleRomConsts sampleHardware reqs n b sampleRomState)) ∧
      ∀ s', processMailboxCommands sampleRomConsts sampleHardware reqs n b sampleRomState =
        .ok none s' → i = reqs.length :=
  ⟨by decide, processMailboxCommands_measurements _ _ _ (by decide)⟩

end Caliptra
