/-
Each mailbox request is answered once, in the order the SoC sent it.

The SoC hands the ROM one request at a time and waits for its completion, so every
transaction the ROM takes must be completed exactly once: one left open keeps the SoC waiting,
one completed twice answers a request the SoC has not sent.  The statements are about the
completions a flow adds to the trace (`completions`), and `Answers x ok err` says what they
are when `x` returns and when it fails.

A turn of the cold-reset loop completes its own transaction once when the loop goes round
again, nothing when it hands over the download, and at most once when it fails
(`handleRequest_answers`).  By induction over the requests, the loop completes the requests in
the order they came, each once (`processMailboxCommands_answers`), and `process` completes the
download last, with success (`process_answers_requests_once`).  The update-reset flow takes one
transaction and completes it exactly once: with success when the flow succeeds, and by dropping
it when the flow fails (`run_answers_txn_once`).
-/
import CaliptraRom.Proofs.Rom.ColdReset
import CaliptraRom.Proofs.Rom.UpdateReset

namespace Caliptra

variable {α β : Type}

/-- The transaction an event completes, and whether it succeeded. -/
def RomEvent.completion : RomEvent → Option (Nat × Bool)
  | .mailboxComplete n b => some (n, b)
  | _ => none

/-- The mailbox completions among `evs`, in order. -/
def completions (evs : List RomEvent) : List (Nat × Bool) := evs.filterMap RomEvent.completion

@[simp] theorem completions_nil : completions [] = [] := rfl

@[simp] theorem completions_append (evs evs' : List RomEvent) :
    completions (evs ++ evs') = completions evs ++ completions evs' := by
  simp [completions]

/-- `s'` extends the trace of `s` by events that complete no transaction. -/
def NoCompletion (s s' : RomState) : Prop := ∃ evs, s'.trace = s.trace ++ evs ∧ completions evs = []

instance : IsPreorder RomState NoCompletion where
  refl _ := ⟨[], by simp, rfl⟩
  trans _ _ _ := fun ⟨evs₁, h₁, n₁⟩ ⟨evs₂, h₂, n₂⟩ =>
    ⟨evs₁ ++ evs₂, by simp [h₁, h₂], by simp [n₁, n₂]⟩

theorem noCompletion_of_trace {s s' : RomState} (h : s'.trace = s.trace) : NoCompletion s s' :=
  ⟨[], by simp [h], rfl⟩

theorem noCompletion_record (s : RomState) {ev : RomEvent} (h : ev.completion = none) :
    NoCompletion s (s.record ev) :=
  ⟨[ev], rfl, by simp [completions, h]⟩

/-! ### What a step completes -/

/-- The completions `x` adds to the trace satisfy `ok a` when it returns `a`, and `err` when it
fails. -/
def Answers (x : RomM α) (ok : α → List (Nat × Bool) → Prop) (err : List (Nat × Bool) → Prop) :
    Prop :=
  ∀ s, ∃ evs, (stateOf (x s)).trace = s.trace ++ evs ∧
    (∀ a s', x s = .ok a s' → ok a (completions evs)) ∧
    (∀ e s', x s = .error e s' → err (completions evs))

section

variable {x : RomM α} {g : α → RomM β} {ok ok' : β → List (Nat × Bool) → Prop}
  {err err' : List (Nat × Bool) → Prop}

theorem Answers.mono {y : RomM β} (hy : Answers y ok err) (hok : ∀ b l, ok b l → ok' b l)
    (herr : ∀ l, err l → err' l) : Answers y ok' err' := fun s =>
  let ⟨evs, htr, h₁, h₂⟩ := hy s
  ⟨evs, htr, fun b s' h => hok _ _ (h₁ b s' h), fun e s' h => herr _ (h₂ e s' h)⟩

/-- What a block completes: what its first step completes, then what the rest does. -/
theorem Answers.bind {okx : α → List (Nat × Bool) → Prop} {errx : List (Nat × Bool) → Prop}
    (hx : Answers x okx errx) (herr : ∀ l, errx l → err l)
    (hg : ∀ a l, okx a l → Answers (g a) (fun b l' => ok b (l ++ l')) fun l' => err (l ++ l')) :
    Answers (x >>= g) ok err := by
  intro s
  obtain ⟨evs, htr, hok, herr'⟩ := hx s
  rw [bind_run]
  cases hr : x s with
  | ok a s₁ =>
    rw [hr, stateOf_ok] at htr
    obtain ⟨evs', htr', hok', herr''⟩ := hg a _ (hok a s₁ hr) s₁
    refine ⟨evs ++ evs', by rw [htr', htr, List.append_assoc], fun b s' h => ?_, fun e s' h => ?_⟩
    · simpa using hok' b s' h
    · simpa using herr'' e s' h
  | error e s₁ =>
    rw [hr, stateOf_error] at htr
    exact ⟨evs, htr, fun _ _ h => by simp at h, fun _ _ _ => herr _ (herr' e s₁ hr)⟩

theorem answers_of_keeps (hx : Keeps NoCompletion x) : Answers x (fun _ l => l = []) (· = []) :=
  fun s =>
    let ⟨evs, htr, hc⟩ := hx s
    ⟨evs, htr, fun _ _ _ => hc, fun _ _ _ => hc⟩

/-- A first step that completes nothing leaves the block's completions to the rest. -/
theorem Keeps.bind_answers (hx : Keeps NoCompletion x) (herr : err [])
    (hg : ∀ a, Answers (g a) ok err) : Answers (x >>= g) ok err :=
  (answers_of_keeps hx).bind (fun _ h => by rwa [h]) fun a _ h => by subst h; exact hg a

/-- A step that completes nothing and returns values with property `P`. -/
theorem answers_of_keeps_returns {P : α → Prop} (hk : Keeps NoCompletion x) (hr : Returns P x) :
    Answers x (fun a l => P a ∧ l = []) (· = []) := fun s =>
  let ⟨evs, htr, hok, herr⟩ := answers_of_keeps hk s
  ⟨evs, htr, fun a s' h => ⟨hr s a s' h, hok a s' h⟩, herr⟩

theorem answers_pure {b : β} (h : ok b []) : Answers (pure b) ok err := fun _ =>
  ⟨[], by simp, fun _ _ hr => by obtain ⟨rfl, -⟩ := (EStateM.Result.ok.injEq ..).mp hr; exact h,
    fun _ _ hr => by simp at hr⟩

theorem answers_throw (e : CaliptraError) (h : err []) : Answers (throw e : RomM β) ok err :=
  fun _ => ⟨[], by simp, fun _ _ hr => by simp at hr, fun _ _ _ => h⟩

theorem answers_ite {p : Prop} [Decidable p] {y z : RomM β} (hy : Answers y ok err)
    (hz : Answers z ok err) : Answers (if p then y else z) ok err := by
  split <;> assumption

variable {hw : RomHardware} {txn : MailboxRecvTxn}

theorem answers_complete (b : Bool) :
    Answers (txn.complete hw b) (fun _ l => l = [(txn.index, b)]) (· = []) := by
  intro s
  rw [MailboxRecvTxn.complete, bind_run]
  cases hw.complete txn.index b
  · exact ⟨[], by simp, fun _ _ h => by simp at h, fun _ _ _ => rfl⟩
  · exact ⟨[_], rfl, fun _ _ _ => rfl, fun _ _ h => by simp at h⟩

theorem answers_sendResponse :
    Answers (txn.sendResponse hw) (fun _ l => l = [(txn.index, true)]) (· = []) := by
  intro s
  rw [MailboxRecvTxn.sendResponse, bind_run]
  cases hw.sendResponse txn.index
  · exact ⟨[], by simp, fun _ _ h => by simp at h, fun _ _ _ => rfl⟩
  · exact ⟨[_], rfl, fun _ _ _ => rfl, fun _ _ h => by simp at h⟩

end

/-! ### The cold-reset loop -/

/-- What a turn on the `n`-th request completed when it returns: its own transaction once when
the loop goes round again, nothing when it hands over the download, the `n`-th transaction. -/
def MailboxLoop.Answered (n : Nat) : MailboxLoop → List (Nat × Bool) → Prop
  | .next _, l => l.map Prod.fst = [n]
  | .received txn _, l => txn.index = n ∧ l = []

section

variable {c : RomConsts} {hw : RomHardware} {txn : MailboxRecvTxn} {b : Bool} {n : Nat}
  {done : RomM Unit}

/-- A turn fails having completed its own transaction at most once. -/
abbrev TurnFailed (n : Nat) (l : List (Nat × Bool)) : Prop := l.map Prod.fst <+: [n]

theorem turnFailed_nil : TurnFailed n [] := List.nil_prefix

/-- Completing the turn's transaction, then going round again. -/
theorem answers_done_next {b' : Bool} (hd : Answers done (fun _ l => l = [(n, b')]) (· = []))
    (b : Bool) : Answers (done >>= fun _ => pure (MailboxLoop.next b)) (MailboxLoop.Answered n)
      (TurnFailed n) :=
  hd.bind (fun _ h => by rw [h]; exact turnFailed_nil) fun _ _ h => answers_pure (by subst h; rfl)

/-- Completing the turn's transaction, then failing. -/
theorem answers_done_throw {b' : Bool} (hd : Answers done (fun _ l => l = [(n, b')]) (· = []))
    (e : CaliptraError) : Answers (done >>= fun _ => (throw e : RomM MailboxLoop))
      (MailboxLoop.Answered n) (TurnFailed n) :=
  hd.bind (fun _ h => by rw [h]; exact turnFailed_nil) fun _ _ h =>
    answers_throw e (by subst h; exact List.prefix_refl _)

theorem handleCommand_answers :
    Answers (handleCommand c hw txn b) (MailboxLoop.Answered txn.index) (TurnFailed txn.index) := by
  have send : ∀ b, Answers (txn.sendResponse hw >>= fun _ => pure (MailboxLoop.next b))
      (MailboxLoop.Answered txn.index) (TurnFailed txn.index) :=
    answers_done_next answers_sendResponse
  have fail : ∀ b, Answers (txn.complete hw false >>= fun _ => pure (MailboxLoop.next b))
      (MailboxLoop.Answered txn.index) (TurnFailed txn.index) :=
    answers_done_next (answers_complete false)
  unfold handleCommand
  split
  · exact (keeps_liftExcept _).bind_answers turnFailed_nil fun _ =>
      (keeps_liftExcept _).bind_answers turnFailed_nil fun _ => send b
  · exact (keeps_liftExcept _).bind_answers turnFailed_nil fun _ =>
      answers_ite (fail b) ((keeps_liftExcept _).bind_answers turnFailed_nil fun _ => send true)
  · exact (keeps_liftExcept _).bind_answers turnFailed_nil fun _ =>
      answers_ite (fail b) (send false)
  · exact (keeps_liftExcept _).bind_answers turnFailed_nil fun _ =>
      answers_done_throw answers_sendResponse _
  · exact (keeps_liftExcept _).bind_answers turnFailed_nil fun _ => send b
  · refine keeps_get.bind_answers turnFailed_nil fun _ => answers_ite
      (answers_done_throw (answers_complete false) _) ?_
    exact (stashMeasurement_keeps fun _ _ => noCompletion_of_trace).bind_answers turnFailed_nil
      fun _ => send b
  · refine (keeps_liftExcept _).bind_answers turnFailed_nil fun _ =>
      keeps_get.bind_answers turnFailed_nil fun s => ?_
    split
    · exact answers_throw _ turnFailed_nil
    · exact answers_throw _ turnFailed_nil
    · exact send b
  · exact answers_ite (answers_done_throw (answers_complete false) _)
      ((keeps_liftExcept _).bind_answers turnFailed_nil fun _ => answers_pure ⟨rfl, rfl⟩)
  · exact answers_throw _ turnFailed_nil

/-- **One turn of the loop.**  The `n`-th request is completed once when the loop goes round
again, not at all when it is the download, and at most once when it fails. -/
theorem handleRequest_answers (req : MailboxRequest) :
    Answers (handleRequest c hw n req b) (MailboxLoop.Answered n) (TurnFailed n) := by
  unfold handleRequest
  refine (keeps_emit fun s => noCompletion_record s (by rfl)).bind_answers turnFailed_nil fun _ =>
    answers_ite (answers_throw _ turnFailed_nil) (answers_ite ?_ handleCommand_answers)
  exact answers_ite (answers_throw _ turnFailed_nil) <|
    answers_ite (answers_throw _ turnFailed_nil) (answers_pure ⟨rfl, rfl⟩)

end

/-- What the loop over `len` requests from the `n`-th on completed when it returns: every request
when it is still waiting, and when it returns the download, the requests before it. -/
def LoopAnswered (n len : Nat) : Option (MailboxRecvTxn × UInt32) → List (Nat × Bool) → Prop
  | none, l => l.map Prod.fst = List.range' n len
  | some (txn, _), l =>
    n ≤ txn.index ∧ txn.index < n + len ∧ l.map Prod.fst = List.range' n (txn.index - n)

theorem loopAnswered_cons {n len : Nat} {l l' : List (Nat × Bool)}
    {r : Option (MailboxRecvTxn × UInt32)} (hl : l.map Prod.fst = [n])
    (h : LoopAnswered (n + 1) len r l') : LoopAnswered n (len + 1) r (l ++ l') := by
  rcases r with _ | ⟨txn, _⟩
  · simp [LoopAnswered, hl, List.range'_succ] at h ⊢
    exact h
  · obtain ⟨h₁, h₂, h₃⟩ := h
    have hidx : txn.index - n = txn.index - (n + 1) + 1 := by omega
    refine ⟨by omega, by omega, ?_⟩
    rw [List.map_append, hl, h₃, hidx, List.range'_succ]
    rfl

/-- **The loop answers the requests in order.**  Each request up to where the loop stops is
completed once, in the order the SoC sent them, and the download is left for `process`. -/
theorem processMailboxCommands_answers (c : RomConsts) (hw : RomHardware)
    (reqs : List MailboxRequest) (n : Nat) (b : Bool) :
    Answers (processMailboxCommands c hw reqs n b) (LoopAnswered n reqs.length)
      (·.map Prod.fst <+: List.range' n reqs.length) := by
  induction reqs generalizing n b with
  | nil => exact answers_pure rfl
  | cons req reqs ih =>
    rw [processMailboxCommands]
    refine (handleRequest_answers req).bind (fun l h => h.trans ⟨_, rfl⟩) fun r l hl => ?_
    cases r with
    | next b' =>
      have hl : l.map Prod.fst = [n] := hl
      refine (ih (n + 1) b').mono (fun _ _ h => loopAnswered_cons hl h) fun l' h => ?_
      simp only [List.length_cons, List.range'_succ, List.map_append, hl, List.singleton_append]
      exact List.prefix_cons_inj n |>.mpr h
    | received txn sz =>
      obtain ⟨hi, rfl⟩ := hl
      exact answers_pure ⟨by omega, by simp; omega, by simp [hi]⟩

/-! ### The download -/

section

variable {c : RomConsts} {hw : RomHardware} {txn : MailboxRecvTxn}
  {R : RomState → RomState → Prop} [IsPreorder RomState R]

theorem keeps_romVerifyImage (m : ImageManifest) (sz : UInt32) (r : ResetReason) :
    Keeps R (romVerifyImage c hw txn m sz r) :=
  keeps_get.bind fun _ => keeps_liftExcept _

theorem returns_copyRequest_index (k : Nat) :
    Returns (fun p => p.2.index = txn.index) (liftExcept (txn.copyRequest k)) := by
  intro s p s' h
  obtain ⟨h, -⟩ := liftExcept_eq_ok.mp h
  rw [(copyRequest_eq_ok.mp h).2.2]

end

namespace FirmwareProcessor

variable {c : RomConsts} {hw : RomHardware} {txn : MailboxRecvTxn}

theorem loadManifest_noCompletion (active : Bool) :
    Keeps NoCompletion (loadManifest c txn active) := by
  have hm : ∀ m, Keeps NoCompletion (modify fun s => { s with manifest1 := m }) :=
    fun _ => keeps_modify fun _ => noCompletion_of_trace rfl
  unfold loadManifest
  split
  · exact keeps_ite (keeps_throw _) ((hm _).bind fun _ => keeps_pure _)
  · exact (keeps_liftExcept _).bind fun ⟨_, _⟩ => (hm _).bind fun _ => keeps_pure _

theorem loadManifest_index (active : Bool) :
    Returns (fun p => p.2.index = txn.index) (loadManifest c txn active) := by
  unfold loadManifest
  split
  · exact returns_ite (returns_throw _) (returns_bind fun _ => returns_pure rfl)
  · exact (returns_copyRequest_index _).bind fun _ h => returns_bind fun _ => returns_pure h

theorem loadExe_noCompletion (active : Bool) (start : UInt32) (e : ImageTocEntry) :
    Keeps NoCompletion (loadExe txn active start e) := by
  have hw : ∀ a bytes, Keeps NoCompletion (emit (.iccmWrite a bytes)) :=
    fun _ _ => keeps_emit fun s => noCompletion_record s (by rfl)
  unfold loadExe copyFromSram
  split
  · exact (keeps_ite (keeps_throw _) (hw _ _)).bind fun _ => keeps_pure _
  · exact (keeps_liftExcept _).bind fun ⟨_, _⟩ => (hw _ _).bind fun _ => keeps_pure _

theorem loadExe_index (active : Bool) (start : UInt32) (e : ImageTocEntry) :
    Returns (fun t => t.index = txn.index) (loadExe txn active start e) := by
  unfold loadExe
  split
  · exact returns_bind fun _ => returns_pure rfl
  · exact (returns_copyRequest_index _).bind fun _ h => returns_bind fun _ => returns_pure h

/-- `load_image` completes nothing and hands back the download's transaction. -/
theorem loadImage_answers (m : ImageManifest) (active : Bool) :
    Answers (loadImage c m txn active) (fun t l => t.index = txn.index ∧ l = []) (· = []) := by
  refine answers_of_keeps_returns
    ((loadExe_noCompletion _ _ _).bind fun _ => loadExe_noCompletion _ _ _) fun s t s' h => ?_
  obtain ⟨t₁, s₁, h₁, h₂⟩ := bind_run_eq_ok.mp h
  exact (loadExe_index _ _ _ s₁ t s' h₂).trans (loadExe_index _ _ _ s t₁ s₁ h₁)

theorem populateFwKeyLadder_noCompletion : Keeps NoCompletion (populateFwKeyLadder c hw) :=
  keeps_get.bind fun _ => keeps_ite (keeps_throw _) <|
    (keeps_liftExcept _).bind fun _ => keeps_modify fun _ => noCompletion_of_trace rfl

end FirmwareProcessor

theorem range_prefix_range {j k : Nat} (h : j ≤ k) : List.range j <+: List.range k :=
  List.prefix_iff_eq_take.mpr (by simp [List.take_range, Nat.min_eq_left h])

/-- What `process` completed when it returns: every request when it is still waiting; when it
has loaded the firmware, the requests before the download in order and then the download, with
success. -/
def ProcessAnswered (len : Nat) : Option FwProcInfo → List (Nat × Bool) → Prop
  | none, l => l.map Prod.fst = List.range len
  | some _, l => ∃ k < len, ∃ l₀, l = l₀ ++ [(k, true)] ∧ l₀.map Prod.fst = List.range k

/-- **Each request of a cold reset is answered at most once, in order.**  Whatever way
`FirmwareProcessor::process` ends, the completions it adds are of the transactions `0, 1, …`
in that order, each once, and never of more transactions than the SoC sent.  When it is still
waiting it has answered every request; when it has loaded the firmware, the download is the last
transaction it completed, and with success. -/
theorem process_answers_requests_once (c : RomConsts) (hw : RomHardware)
    (reqs : List MailboxRequest) :
    Answers (FirmwareProcessor.process c hw reqs) (ProcessAnswered reqs.length)
      (·.map Prod.fst <+: List.range reqs.length) := by
  unfold FirmwareProcessor.process
  refine (processMailboxCommands_answers c hw reqs 0 false).bind
    (fun l h => by rwa [List.range_eq_range']) fun r l hl => ?_
  rcases r with _ | ⟨txn, sz⟩
  · exact answers_pure (by simpa [LoopAnswered, ProcessAnswered, List.range_eq_range'] using hl)
  obtain ⟨-, hlt, hl⟩ := hl
  simp only [Nat.zero_add, Nat.sub_zero, ← List.range_eq_range'] at hlt hl
  refine (?_ : Answers _ (fun r l' => r.isSome ∧ l' = [(txn.index, true)])
    (· <+: [(txn.index, true)])).mono
    (fun r l' ⟨hr, h⟩ => ?_) fun l' h => ?_
  · -- the download: nothing is completed before the transaction itself
    have hm : Answers (FirmwareProcessor.loadManifest c txn hw.activeMode)
        (fun p l => p.2.index = txn.index ∧ l = []) (· = []) :=
      answers_of_keeps_returns (FirmwareProcessor.loadManifest_noCompletion _)
        (FirmwareProcessor.loadManifest_index _)
    refine hm.bind (fun _ h => by simp [h]) fun ⟨m, t⟩ _ ⟨ht, hnil⟩ => ?_
    have ht : t.index = txn.index := ht
    subst hnil
    refine (keeps_romVerifyImage _ _ _).bind_answers List.nil_prefix fun info =>
      (keeps_liftExcept _).bind_answers List.nil_prefix fun _ =>
        (keeps_modify fun _ => noCompletion_of_trace (by rfl)).bind_answers List.nil_prefix fun _ =>
          (extendPcrs_keeps (fun _ _ => noCompletion_of_trace rfl)
            fun _ _ => noCompletion_of_trace rfl).bind_answers List.nil_prefix fun _ => ?_
    refine FirmwareProcessor.loadImage_answers _ _ |>.bind (fun _ h => by simp [h])
      fun t' _ ⟨ht', hnil⟩ => ?_
    subst hnil
    refine (answers_complete true).bind (fun _ h => by simp [h]) fun _ _ h => ?_
    subst h
    exact FirmwareProcessor.populateFwKeyLadder_noCompletion.bind_answers (by simp [ht', ht])
      fun _ => answers_pure ⟨rfl, by simp [ht', ht]⟩
  · obtain ⟨i, rfl⟩ := Option.isSome_iff_exists.mp hr
    exact ⟨txn.index, hlt, l, by rw [h], hl⟩
  · rcases List.prefix_cons_iff.mp h with rfl | ⟨t, rfl, ht⟩
    · simpa [hl] using range_prefix_range hlt.le
    · obtain rfl : t = [] := List.prefix_nil.mp ht
      simpa [hl, ← List.range_succ] using range_prefix_range hlt

/-! ### Update reset -/

namespace UpdateResetFlow

variable {c : RomConsts} {hw : RomHardware} {txn : MailboxRecvTxn}

theorem returns_dropWords_index (k : Nat) :
    Returns (fun t => t.index = txn.index) (liftExcept (txn.dropWords k)) := by
  intro s t s' h
  obtain ⟨h, -⟩ := liftExcept_eq_ok.mp h
  unfold MailboxRecvTxn.dropWords at h
  cases hc : txn.copyRequest (4 * k) with
  | error e => rw [hc] at h; cases h
  | ok p =>
    rw [hc] at h
    cases h
    rw [(copyRequest_eq_ok.mp hc).2.2]

/-- `process_txn` completes its transaction once, with success, exactly when it returns. -/
theorem processTxn_answers :
    Answers (processTxn c hw txn) (fun _ l => l = [(txn.index, true)]) (· = []) := by
  unfold processTxn
  refine answers_ite (answers_throw _ rfl) ?_
  have hm : Answers (loadManifest c txn) (fun t l => t.index = txn.index ∧ l = []) (· = []) :=
    answers_of_keeps_returns (loadManifest_keeps fun _ _ => noCompletion_of_trace rfl)
      ((returns_copyRequest_index _).bind fun _ h => returns_bind fun _ => returns_pure h)
  refine hm.bind (fun _ h => h) fun t _ ⟨ht, hnil⟩ => ?_
  subst hnil
  refine keeps_get.bind_answers rfl fun _ =>
    (keeps_romVerifyImage _ _ _).bind_answers rfl fun info =>
      (populateDataVault_keeps (fun _ _ _ => noCompletion_of_trace rfl)
        fun _ _ => noCompletion_of_trace rfl).bind_answers rfl fun _ =>
      (extendPcrs_keeps (fun _ _ => noCompletion_of_trace rfl)
        fun _ _ => noCompletion_of_trace rfl).bind_answers rfl fun _ =>
      keeps_get.bind_answers rfl fun _ => ?_
  unfold loadImage
  refine (answers_of_keeps_returns (keeps_liftExcept _) (returns_dropWords_index _)).bind
    (fun _ h => h)
    fun t₁ _ ⟨h₁, hnil⟩ => ?_
  subst hnil
  refine (answers_of_keeps_returns (keeps_liftExcept _) (returns_copyRequest_index _)).bind
    (fun _ h => h) fun ⟨_, t₂⟩ _ ⟨h₂, hnil⟩ => ?_
  have h₂ : t₂.index = t₁.index := h₂
  subst hnil
  refine (keeps_emit fun s => noCompletion_record s (by rfl)).bind_answers rfl fun _ =>
    (answers_complete true).mono (fun _ l h => ?_) fun _ h => h
  simp [h, h₂, h₁, ht]

/-- **An update reset answers its transaction exactly once.**  When `UpdateResetFlow::run` gets a
transaction, the completions it adds are that transaction's alone and there is one: a success
when the flow returns `Ok`, a failure, from dropping the transaction, when it fails. -/
theorem run_answers_txn_once (c : RomConsts) (hw : RomHardware) (req : MailboxRequest) :
    Answers (run c hw (some req)) (fun _ l => l = [(0, true)]) (· = [(0, false)]) := by
  intro s
  obtain ⟨evs, htr, hok, herr⟩ := (processTxn_answers :
    Answers (processTxn c hw ⟨0, req, 0⟩) _ _) (s.withUpdateResetStatus .updateResetStarted)
  rw [run_some]
  cases hr : processTxn c hw ⟨0, req, 0⟩ (s.withUpdateResetStatus .updateResetStarted) with
  | ok _ s₁ =>
    rw [hr, stateOf_ok] at htr
    exact ⟨evs, by simpa using htr, fun _ _ _ => hok _ _ hr, fun _ _ h => by simp at h⟩
  | error e s₁ =>
    rw [hr, stateOf_error] at htr
    refine ⟨evs ++ [.fwErrorNonFatal (some e), .mailboxComplete 0 false], ?_,
      fun _ _ h => by simp at h, fun _ _ _ => ?_⟩
    · simp [RomState.record, htr]
    · rw [completions_append, (herr _ _ hr : completions evs = [])]
      rfl

end UpdateResetFlow

end Caliptra
