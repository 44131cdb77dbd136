/-
Reasoning about the flows of the ROM.

A flow step is an `EStateM` computation: it returns or fails, and in both cases leaves a
state.  `stateOf` reads that state off the result.  Two kinds of facts are needed of the
steps.  What a successful run did is peeled off a `do` block one bind at a time
(`bind_run_eq_ok`, `bind_run_eq_error`).  What a step leaves alone, whether it returns or fails, is a
frame fact, `Preserves f x`, proved by following the block: one lemma per way of building a
step (`pure`, `throw`, a read, a bind, a branch, an event), and a projection `f` that does
not look at the trace is kept by every event.  More generally a step keeps any preorder on
states that its pieces keep (`Keeps`): agreeing on a projection, or adding only some events to
the trace.  A step whose successful runs break such a preorder may still keep it on every run
that fails (`FailsAlong`), which is what the error paths need.

The last section is a sample ROM over the verifier's sample bundle, used by the examples of
the flows.
-/
import CaliptraRom.Proofs.Verifier.Soundness
import CaliptraRom.Rom.State

namespace Caliptra

variable {α β γ : Type}

/-- The state a flow step leaves, whether it returns or fails. -/
def stateOf : EStateM.Result CaliptraError RomState α → RomState
  | .ok _ s => s
  | .error _ s => s

@[simp] theorem stateOf_ok (a : α) (s : RomState) :
    stateOf (.ok a s : EStateM.Result CaliptraError RomState α) = s := rfl

@[simp] theorem stateOf_error (e : CaliptraError) (s : RomState) :
    stateOf (.error e s : EStateM.Result CaliptraError RomState α) = s := rfl

/-! ### Running a `do` block -/

section

variable {x : RomM α} {g : α → RomM β} {s s'' : RomState}

theorem bind_run (s : RomState) : (x >>= g) s = match x s with
    | .ok a s' => g a s'
    | .error e s' => .error e s' := by
  show EStateM.bind x g s = _
  unfold EStateM.bind
  cases x s <;> rfl

theorem bind_run_eq_ok {b : β} :
    (x >>= g) s = .ok b s'' ↔ ∃ a s', x s = .ok a s' ∧ g a s' = .ok b s'' := by
  rw [bind_run]
  cases x s <;> simp [and_assoc]

theorem bind_run_eq_error {e : CaliptraError} :
    (x >>= g) s = .error e s'' ↔
      x s = .error e s'' ∨ ∃ a s', x s = .ok a s' ∧ g a s' = .error e s'' := by
  rw [bind_run]
  cases x s <;> simp [and_assoc, eq_comm]

end

@[simp] theorem pure_apply (a : α) (s : RomState) : (pure a : RomM α) s = .ok a s := rfl

@[simp] theorem throw_apply (e : CaliptraError) (s : RomState) :
    (throw e : RomM α) s = .error e s := rfl

@[simp] theorem get_apply (s : RomState) : (get : RomM RomState) s = .ok s s := rfl

@[simp] theorem set_apply (s s' : RomState) : (set s' : RomM PUnit) s = .ok ⟨⟩ s' := rfl

@[simp] theorem modify_apply (g : RomState → RomState) (s : RomState) :
    (modify g : RomM PUnit) s = .ok ⟨⟩ (g s) := rfl

/-- A block that ends in `throw` fails, in the state its first part left. -/
theorem bind_throw_run (x : RomM α) (e : CaliptraError) (s : RomState) :
    ∃ e', (x >>= fun _ => (throw e : RomM β)) s = .error e' (stateOf (x s)) := by
  rw [bind_run]
  cases x s <;> simp

@[simp] theorem liftExcept_ok (a : α) (s : RomState) : liftExcept (.ok a) s = .ok a s := rfl

@[simp] theorem liftExcept_error (e : CaliptraError) (s : RomState) :
    (liftExcept (.error e) : RomM α) s = .error e s := rfl

/-- The state with `ev` appended to the trace. -/
def RomState.record (s : RomState) (ev : RomEvent) : RomState := { s with trace := s.trace ++ [ev] }

@[simp] theorem emit_apply (ev : RomEvent) (s : RomState) : emit ev s = .ok () (s.record ev) := rfl

/-- `ev` writes to ICCM. -/
def RomEvent.isIccmWrite : RomEvent → Bool
  | .iccmWrite _ _ => true
  | _ => false

/-! ### Frames -/

/-- `x` moves the state only along `R`, whether it returns or fails. -/
def Keeps (R : RomState → RomState → Prop) (x : RomM α) : Prop := ∀ s, R s (stateOf (x s))

/-- `s'` agrees with `s` on `f`. -/
def SameOn (f : RomState → β) (s s' : RomState) : Prop := f s' = f s

instance (f : RomState → β) : IsPreorder RomState (SameOn f) where
  refl _ := rfl
  trans _ _ _ h₁ h₂ := h₂.trans h₁

/-- `x` leaves the part `f` of the state as it was, whether it returns or fails. -/
abbrev Preserves (f : RomState → β) (x : RomM α) : Prop := Keeps (SameOn f) x

/-- `f` does not look at the trace. -/
def TraceFree (f : RomState → β) : Prop := ∀ s ev, SameOn f s (s.record ev)

section

variable {R : RomState → RomState → Prop}

theorem keeps_modify {g : RomState → RomState} (h : ∀ s, R s (g s)) : Keeps R (modify g) := h

theorem keeps_emit {ev : RomEvent} (h : ∀ s, R s (s.record ev)) : Keeps R (emit ev) := h

theorem keeps_ite {p : Prop} [Decidable p] {x y : RomM α} (hx : Keeps R x) (hy : Keeps R y) :
    Keeps R (if p then x else y) := by
  split <;> assumption

variable [IsPreorder RomState R]

theorem keeps_pure (a : α) : Keeps R (pure a) := fun s => refl_of R s

theorem keeps_throw (e : CaliptraError) : Keeps R (throw e : RomM α) := fun s => refl_of R s

theorem keeps_get : Keeps R get := fun s => refl_of R s

theorem keeps_liftExcept (r : Except CaliptraError α) : Keeps R (liftExcept r) := by
  cases r <;> exact fun s => refl_of R s

theorem Keeps.bind {x : RomM α} {g : α → RomM γ} (hx : Keeps R x) (hg : ∀ a, Keeps R (g a)) :
    Keeps R (x >>= g) := by
  intro s
  have h := hx s
  rw [bind_run]
  cases hr : x s with
  | ok a s' => rw [hr] at h; exact trans_of R h (hg a s')
  | error e s' => rw [hr] at h; exact h

theorem Keeps.onError {x : RomM α} {handler : CaliptraError → RomM Unit} (hx : Keeps R x)
    (hh : ∀ e, Keeps R (handler e)) : Keeps R (onError x handler) := by
  intro s
  have h := hx s
  simp only [Caliptra.onError]
  cases hr : x s with
  | ok a s' => rw [hr] at h; exact h
  | error e s' =>
    rw [hr] at h
    have h' := hh e s'
    dsimp only
    cases hr' : handler e s' <;> rw [hr'] at h' <;> exact trans_of R h h'

theorem keeps_complete (hw : RomHardware) (txn : MailboxRecvTxn) (success : Bool)
    (h : ∀ s, R s (s.record (.mailboxComplete txn.index success))) :
    Keeps R (txn.complete hw success) :=
  (keeps_liftExcept _).bind fun _ => keeps_emit h

theorem keeps_sendResponse (hw : RomHardware) (txn : MailboxRecvTxn)
    (h : ∀ s, R s (s.record (.mailboxComplete txn.index true))) : Keeps R (txn.sendResponse hw) :=
  (keeps_liftExcept _).bind fun _ => keeps_emit h

end

/-! ### What a step returns -/

/-- Every value `x` returns satisfies `P`. -/
def Returns (P : α → Prop) (x : RomM α) : Prop := ∀ s a s', x s = .ok a s' → P a

section

variable {P : α → Prop}

theorem returns_pure {a : α} (h : P a) : Returns P (pure a) := by
  rintro s a' s' ⟨⟩
  exact h

theorem returns_throw (e : CaliptraError) : Returns P (throw e) := by
  rintro s a s' ⟨⟩

theorem Returns.bind {Q : β → Prop} {x : RomM β} {g : β → RomM α} (hx : Returns Q x)
    (hg : ∀ b, Q b → Returns P (g b)) : Returns P (x >>= g) := by
  intro s a s' h
  obtain ⟨b, s₁, hb, h⟩ := bind_run_eq_ok.mp h
  exact hg b (hx s b s₁ hb) s₁ a s' h

theorem returns_bind {x : RomM β} {g : β → RomM α} (hg : ∀ b, Returns P (g b)) :
    Returns P (x >>= g) :=
  Returns.bind (Q := fun _ => True) (fun _ _ _ _ => trivial) fun b _ => hg b

theorem returns_ite {p : Prop} [Decidable p] {x y : RomM α} (hx : Returns P x)
    (hy : Returns P y) : Returns P (if p then x else y) := by
  split <;> assumption

end

/-! ### The drivers both flows use -/

section

variable {c : RomConsts} {hw : RomHardware} {txn : MailboxRecvTxn} {info : ImageVerificationInfo}
  {s s' : RomState}

@[simp] theorem liftExcept_eq_ok {r : Except CaliptraError α} {a : α} :
    liftExcept r s = .ok a s' ↔ r = .ok a ∧ s' = s := by
  cases r <;> simp [liftExcept, eq_comm]

theorem copyRequest_eq_ok {n : Nat} {bytes : List UInt8} {txn' : MailboxRecvTxn} :
    txn.copyRequest n = .ok (bytes, txn') ↔ txn.cursor + n ≤ txn.req.data.length ∧
      bytes = (txn.req.data.drop txn.cursor).take n ∧ txn' = { txn with cursor := txn.cursor + n } := by
  unfold MailboxRecvTxn.copyRequest
  split <;> simp_all [eq_comm]

theorem complete_eq_ok {b : Bool} :
    txn.complete hw b s = .ok () s' ↔
      hw.complete txn.index b = .ok () ∧ s' = s.record (.mailboxComplete txn.index b) := by
  rw [MailboxRecvTxn.complete, bind_run]
  cases hw.complete txn.index b <;> simp [eq_comm]

theorem complete_eq_error {b : Bool} {e : CaliptraError} :
    txn.complete hw b s = .error e s' ↔ hw.complete txn.index b = .error e ∧ s' = s := by
  rw [MailboxRecvTxn.complete, bind_run]
  cases hw.complete txn.index b <;> simp [eq_comm]

theorem romVerifyImage_run (txn : MailboxRecvTxn) (manifest : ImageManifest) (sz : UInt32)
    (r : ResetReason) (s : RomState) : romVerifyImage c hw txn manifest sz r s =
      match verify c.image (romImageEnv hw txn.req.data s.dataVault) manifest sz r with
      | .ok info => .ok info s
      | .error e => .error e s := by
  simp only [romVerifyImage, bind_run, get_apply]
  cases verify c.image (romImageEnv hw txn.req.data s.dataVault) manifest sz r <;> rfl

theorem romVerifyImage_eq_ok {manifest : ImageManifest} {sz : UInt32} {r : ResetReason} :
    romVerifyImage c hw txn manifest sz r s = .ok info s' ↔
      verify c.image (romImageEnv hw txn.req.data s.dataVault) manifest sz r = .ok info ∧
        s' = s := by
  rw [romVerifyImage_run]
  cases verify c.image (romImageEnv hw txn.req.data s.dataVault) manifest sz r <;>
    simp [eq_comm]

/-- `extend_pcrs` extends PCR0, then PCR1, with the bundle's measurement; a failed extension
leaves the PCR it was extending as it was. -/
theorem extendPcrs_run (s : RomState) : extendPcrs hw info s =
    match hw.extendPcr s.pcr0 (hw.pcrMeasurement info) with
    | .error e => .error e s
    | .ok p₀ => match hw.extendPcr s.pcr1 (hw.pcrMeasurement info) with
      | .error e => .error e { s with pcr0 := p₀ }
      | .ok p₁ => .ok () { s with pcr0 := p₀, pcr1 := p₁ } := by
  simp only [extendPcrs, bind_run, get_apply]
  cases hw.extendPcr s.pcr0 (hw.pcrMeasurement info) with
  | error e => rfl
  | ok p₀ =>
    dsimp only [liftExcept_ok, modify_apply]
    cases hw.extendPcr s.pcr1 (hw.pcrMeasurement info) <;> rfl

/-- A successful `extend_pcrs` writes PCR0 and PCR1, each extended, and nothing else. -/
theorem extendPcrs_eq_ok (h : extendPcrs hw info s = .ok () s') :
    ∃ p₀ p₁, hw.extendPcr s.pcr0 (hw.pcrMeasurement info) = .ok p₀ ∧
      hw.extendPcr s.pcr1 (hw.pcrMeasurement info) = .ok p₁ ∧
      s' = { s with pcr0 := p₀, pcr1 := p₁ } := by
  rw [extendPcrs_run] at h
  cases h₀ : hw.extendPcr s.pcr0 (hw.pcrMeasurement info) <;>
    cases h₁ : hw.extendPcr s.pcr1 (hw.pcrMeasurement info) <;> simp [h₀, h₁] at h
  exact ⟨_, _, rfl, rfl, h.symm⟩

variable {R : RomState → RomState → Prop} [IsPreorder RomState R]

theorem extendPcrs_keeps (h₀ : ∀ s p, R s { s with pcr0 := p })
    (h₁ : ∀ s p, R s { s with pcr1 := p }) : Keeps R (extendPcrs hw info) := by
  refine keeps_get.bind fun _ => (keeps_liftExcept _).bind fun _ =>
    (keeps_modify ?_).bind fun _ => keeps_get.bind fun _ =>
      (keeps_liftExcept _).bind fun _ => keeps_modify ?_
  · exact fun s => h₀ s _
  · exact fun s => h₁ s _

end

/-! ### What a failed step leaves -/

/-- Every failure of `x` from `s` ends in a state `R`-related to `s`. -/
def FailsAlong (R : RomState → RomState → Prop) (x : RomM α) (s : RomState) : Prop :=
  ∀ e s', x s = .error e s' → R s s'

section

variable {R : RomState → RomState → Prop} {x : RomM α} {s : RomState}

theorem Keeps.failsAlong (h : Keeps R x) (s : RomState) : FailsAlong R x s := by
  intro e s' hx
  have h' := h s
  rwa [hx, stateOf_error] at h'

theorem failsAlong_ite {p : Prop} [Decidable p] {y : RomM α} (hx : p → FailsAlong R x s)
    (hy : ¬p → FailsAlong R y s) : FailsAlong R (if p then x else y) s := by
  split
  · exact hx ‹_›
  · exact hy ‹_›

/-- A block that ends in `pure` fails only where its first part does. -/
theorem FailsAlong.bind_pure {v : β} (hx : FailsAlong R x s) :
    FailsAlong R (x >>= fun _ => pure v) s := by
  intro e s' h
  rcases bind_run_eq_error.mp h with h₁ | ⟨_, _, -, h₂⟩
  · exact hx e s' h₁
  · cases h₂

variable [IsPreorder RomState R]

/-- A block whose first part keeps `R` fails along `R` if the rest does from wherever the
first part returns. -/
theorem Keeps.bind_failsAlong {g : α → RomM β} (hx : Keeps R x)
    (hg : ∀ a s', x s = .ok a s' → FailsAlong R (g a) s') : FailsAlong R (x >>= g) s := by
  intro e s'' h
  rcases bind_run_eq_error.mp h with h₁ | ⟨a, s', h₁, h₂⟩
  · exact hx.failsAlong s e s'' h₁
  · have h₀ := hx s
    rw [h₁, stateOf_ok] at h₀
    exact trans_of R h₀ (hg a s' h₁ e s'' h₂)

variable {hw : RomHardware} {txn : MailboxRecvTxn} {b : Bool}

/-- A completion fails only where the hardware refuses it, and then changes nothing. -/
theorem failsAlong_complete : FailsAlong R (txn.complete hw b) s := fun _ _ h =>
  (complete_eq_error.mp h).2 ▸ refl_of R s

/-- After a completion the hardware refuses, nothing else runs. -/
theorem failsAlong_complete_bind {g : Unit → RomM β} (hno : hw.complete txn.index b ≠ .ok ()) :
    FailsAlong R (txn.complete hw b >>= g) s := by
  intro e s'' h
  rcases bind_run_eq_error.mp h with h₁ | ⟨_, _, h₁, -⟩
  · exact failsAlong_complete e s'' h₁
  · exact absurd (complete_eq_ok.mp h₁).1 hno

end

/-! ### A sample ROM -/

/-- The sample's command codes: `1` is `FIRMWARE_LOAD`, `2` is `STASH_MEASUREMENT`. -/
def sampleCommandId (cmd : UInt32) : CommandId :=
  if cmd = 1 then .firmwareLoad else if cmd = 2 then .stashMeasurement else .other

/-- The sample layout of the verifier, every checksum accepted, and stash requests of eight
bytes whose last four are the measurement. -/
def sampleRomConsts : RomConsts where
  image := sampleConsts
  imageByteSize := 0x20000
  manifestOfBytes := fun _ => sampleManifest 1 0
  commandId := sampleCommandId
  verifyChecksum := fun _ _ _ => true
  stashMeasurementReqSize := 8
  stashMeasurementReqOfBytes := fun b => ⟨[], b.drop 4, [], 0⟩

/-- Passive-mode hardware whose drivers all succeed, over the sample's fake-ROM engines. -/
def sampleHardware : RomHardware where
  activeMode := false
  fipsVersion := .ok ()
  runFipsTests := .ok ()
  sendResponse := fun _ => .ok ()
  complete := fun _ _ => .ok ()
  extendPcr := fun pcr _ => .ok pcr
  recoveryImage := .error .driverError
  imageEnv := fun image => { sampleFakeRom .manufacturing with image }.toEnv sampleConsts
  updateFuseLog := fun _ => .ok ()
  pcrMeasurement := fun _ => []
  initializeKeyLadder := fun _ => .ok ()
  extendKeyLadder := fun _ => .ok ()

/-- A data vault of zeros. -/
def sampleDataVault : DataVault :=
  ⟨zeroDigest, 0, 0, zeroDigest, 0, 0, zeroDigest, 0, 0, 0, .other 0⟩

/-- The state before any request: an empty measurement log, zero PCRs and an empty trace. -/
def sampleRomState : RomState where
  manifest1 := sampleManifest 1 0
  manifest2 := sampleManifest 1 0
  measLogIndex := 0
  measurementLog := Mathlib.Vector.replicate measurementMaxCount ⟨[], [], [], 0⟩
  dataVault := sampleDataVault
  idevEccCsr := .unprovisioned
  pcr0 := zeroDigest
  pcr1 := zeroDigest
  pcr31 := zeroDigest
  keyLadderLen := 0
  trace := []

end Caliptra
