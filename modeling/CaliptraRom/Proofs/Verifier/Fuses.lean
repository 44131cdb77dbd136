/-
How the fuses enter verification.

`verify` reads the fuse SVN and the three revocation words at three checks only, the SVN gate
and the two key-index gates, and copies them into the record it returns.  So an accepted run
moves to an environment that differs from its own only in those words as soon as the three
checks pass there, and the record it returns changes only in the copied fields
(`verify_withFuses`).

Two consequences follow.  The SVN gate is monotone in the fuse SVN and, where it
is off, ignores it (`verify_fuseSvn_monotone`).  And in a provisioned lifecycle a revocation
word matters only through the bit of the selected key, never for the last key
(`verify_revocation_reads_selected_bit`).  That one needs the image types crate's constants
(`ImageConsts.Valid`): the descriptors then bound the indices below 32, where `1 << idx` is
exact, and `all()` names every ECC key a descriptor may declare.
-/
import CaliptraRom.Proofs.Verifier.Accepted

namespace Caliptra

/-! ### Environments that differ in the fuses -/

namespace ImageVerificationEnv

/-- `env` with the fuse SVN and the three revocation words replaced. -/
def withFuses (env : ImageVerificationEnv) (svn : UInt32) (ecc : VendorEccPubKeyRevocation)
    (lms mldsa : UInt32) : ImageVerificationEnv :=
  { env with
    fwFuseSvn := svn
    vendorEccPubKeyRevocation := ecc
    vendorLmsPubKeyRevocation := lms
    vendorMldsaPubKeyRevocation := mldsa }

/-- `env` with the fuse SVN `f`. -/
def withFwFuseSvn (env : ImageVerificationEnv) (f : UInt32) : ImageVerificationEnv :=
  env.withFuses f env.vendorEccPubKeyRevocation env.vendorLmsPubKeyRevocation
    env.vendorMldsaPubKeyRevocation

/-- `env` with the ECC revocation word `ecc`. -/
def withEccRevocation (env : ImageVerificationEnv) (ecc : VendorEccPubKeyRevocation) :
    ImageVerificationEnv :=
  env.withFuses env.fwFuseSvn ecc env.vendorLmsPubKeyRevocation env.vendorMldsaPubKeyRevocation

/-- `env` with the revocation word of the PQC family `t` replaced by `w`. -/
def withPqcRevocation (env : ImageVerificationEnv) :
    FwVerificationPqcKeyType → UInt32 → ImageVerificationEnv
  | .lms, w => env.withFuses env.fwFuseSvn env.vendorEccPubKeyRevocation w
    env.vendorMldsaPubKeyRevocation
  | .mldsa, w => env.withFuses env.fwFuseSvn env.vendorEccPubKeyRevocation
    env.vendorLmsPubKeyRevocation w

@[simp] theorem withFwFuseSvn_fwFuseSvn (env : ImageVerificationEnv) (f : UInt32) :
    (env.withFwFuseSvn f).fwFuseSvn = f := rfl

end ImageVerificationEnv

namespace ImageVerificationInfo

/-- The record `verify` returns, with the fuse values of `env` copied into it. -/
def withFuses (info : ImageVerificationInfo) (env : ImageVerificationEnv) :
    ImageVerificationInfo :=
  { info with
    effectiveFuseSvn := Caliptra.effectiveFuseSvn env
    logInfo := { info.logInfo with
      fuseVendorEccPubKeyRevocation := env.vendorEccPubKeyRevocation
      fuseVendorPqcPubKeyRevocation := pqcKeyRevocation env info.pqcKeyType
      fwLogInfo := { info.logInfo.fwLogInfo with fuseSvn := env.fwFuseSvn } } }

/-- The record with the fuse SVN it reports cleared. -/
def eraseFuseSvn (info : ImageVerificationInfo) : ImageVerificationInfo :=
  { info with
    effectiveFuseSvn := 0
    logInfo := { info.logInfo with fwLogInfo := { info.logInfo.fwLogInfo with fuseSvn := 0 } } }

/-- The record with the revocation words of its log cleared. -/
def eraseRevocationLog (info : ImageVerificationInfo) : ImageVerificationInfo :=
  { info with
    logInfo := { info.logInfo with
      fuseVendorEccPubKeyRevocation := ⟨0⟩
      fuseVendorPqcPubKeyRevocation := 0 } }

end ImageVerificationInfo

/-- `verify` under `env₁` and under `env₂` both fails or both succeeds, and two records they
return agree once `erase` has cleared what may differ. -/
def VerifyAgrees (c : ImageConsts) (env₁ env₂ : ImageVerificationEnv) (m : ImageManifest)
    (sz : UInt32) (r : ResetReason) (erase : ImageVerificationInfo → ImageVerificationInfo) :
    Prop :=
  ((∃ info, verify c env₁ m sz r = .ok info) ↔ ∃ info, verify c env₂ m sz r = .ok info) ∧
  ∀ info₁ info₂, verify c env₁ m sz r = .ok info₁ → verify c env₂ m sz r = .ok info₂ →
    erase info₁ = erase info₂

section

variable {c : ImageConsts} {env env' : ImageVerificationEnv} {m : ImageManifest} {sz : UInt32}
  {r : ResetReason} {info : ImageVerificationInfo} {p : ImagePreamble}
  {t : FwVerificationPqcKeyType} {svn : UInt32} {ecc : VendorEccPubKeyRevocation}
  {lms mldsa : UInt32}

/-! ### Moving an accepted run

The phase structures name their environment, so each is moved field by field. -/

theorem VendorKeysOk.withFuses (h : VendorKeysOk c env p t) :
    VendorKeysOk c (env.withFuses svn ecc lms mldsa) p t :=
  ⟨h.1, h.2, h.3, h.4, h.5⟩

theorem TocOk.withFuses {ti : TocInfo} (h : TocOk c env m ti sz) :
    TocOk c (env.withFuses svn ecc lms mldsa) m ti sz :=
  ⟨h.1, h.2, h.3, h.4, h.5, h.6, h.7, h.8, h.9, h.10, h.11, h.12⟩

theorem ExeOk.withFuses {e : ImageTocEntry} (h : ExeOk env e) :
    ExeOk (env.withFuses svn ecc lms mldsa) e :=
  ⟨h.1, h.2, h.3, h.4, h.5, h.6, h.7⟩

/-- The three checks that read the fuses, as an accepted run passes them. -/
theorem verify_fuseChecks (accepted : verify c env m sz r = .ok info) :
    verifySvn c env m.header.svn = .ok () ∧ EccIdxOk c env m.preamble r ∧
      PqcIdxOk env m.preamble r (pqcKeyRevocation env info.pqcKeyType) := by
  obtain ⟨t, hi, -, -, -, -, hp, -, -, -, -, -, hsv, rfl⟩ := verify_eq_ok.mp accepted
  obtain ⟨-, he, hq, -⟩ := verifyPreamble_eq_ok.mp hp
  exact ⟨hsv, he, hq⟩

/-- An accepted record already carries its environment's fuse values. -/
theorem verify_withFuses_self (accepted : verify c env m sz r = .ok info) :
    info.withFuses env = info := by
  obtain ⟨t, hi, -, -, -, -, hp, -, -, -, -, -, -, rfl⟩ := verify_eq_ok.mp accepted
  obtain ⟨-, -, -, d, b, -, rfl⟩ := verifyPreamble_eq_ok.mp hp
  rfl

/-- **Moving an accepted run to other fuse values.**  If `verify` accepts under `env`, it
accepts under an environment that differs from `env` only in the fuse SVN and the revocation
words as soon as the SVN gate and the two key-index gates pass there, and returns the same
record with the new fuse values copied into it. -/
theorem verify_withFuses
    (same : env' = env.withFuses env'.fwFuseSvn env'.vendorEccPubKeyRevocation
      env'.vendorLmsPubKeyRevocation env'.vendorMldsaPubKeyRevocation)
    (accepted : verify c env m sz r = .ok info)
    (hsvn : verifySvn c env' m.header.svn = .ok ()) (hecc : EccIdxOk c env' m.preamble r)
    (hpqc : PqcIdxOk env' m.preamble r (pqcKeyRevocation env' info.pqcKeyType)) :
    verify c env' m sz r = .ok (info.withFuses env') := by
  obtain ⟨f, e, l, k, rfl⟩ : ∃ f e l k, env' = env.withFuses f e l k := ⟨_, _, _, _, same⟩
  obtain ⟨t, hi, hm, hs, ht, hf, hp, hh, hto, hfe, hfu, hre, -, rfl⟩ := verify_eq_ok.mp accepted
  obtain ⟨hv, -, -, d, b, ho, rfl⟩ := verifyPreamble_eq_ok.mp hp
  exact verify_eq_ok.mpr ⟨t, _, hm, hs, ht, hf,
    verifyPreamble_eq_ok.mpr ⟨hv.imp id VendorKeysOk.withFuses, hecc, hpqc, d, b, ho, rfl⟩,
    hh, hto.withFuses, hfe.withFuses, hfu, hre.withFuses, hsvn, rfl⟩

/-! ### The fuse SVN -/

/-- An accepted run moves to every fuse SVN the SVN gate accepts. -/
theorem verify_withFwFuseSvn {f f' : UInt32} (accepted : verify c (env.withFwFuseSvn f) m sz r = .ok info)
    (hsvn : verifySvn c (env.withFwFuseSvn f') m.header.svn = .ok ()) :
    verify c (env.withFwFuseSvn f') m sz r = .ok (info.withFuses (env.withFwFuseSvn f')) :=
  have ⟨_, he, hq⟩ := verify_fuseChecks accepted
  verify_withFuses (by rfl) accepted hsvn ⟨he.1, he.2, he.3⟩ ⟨hq.1, hq.2, hq.3⟩

/-- With the gate off, the SVN gate passes whatever the fuse SVN. -/
theorem verifySvn_of_not_required {f svn : UInt32} (hoff : svnCheckRequired env = false) :
    verifySvn c (env.withFwFuseSvn f) svn = .ok () :=
  verifySvn_eq_ok.mpr fun h => absurd (h.symm.trans hoff) (by decide)

end

/-- **The SVN gate is monotone in the fuse SVN.**  Vary only the fuse SVN `f` of `env`.  With
SVN gating active, an accepted `f` is at most the header's SVN, and every such `f` is
accepted; with gating inactive, every `f` is accepted or none is.  Accepted records differ
only in the fuse SVN they report, in `effective_fuse_svn`, which is `0` with anti-rollback
disabled and `f` otherwise, and in the log's `fuse_svn`, which is `f`. -/
theorem verify_fuseSvn_monotone (c : ImageConsts) (env : ImageVerificationEnv)
    (m : ImageManifest) (sz : UInt32) (r : ResetReason) :
    (env.devLifecycle ≠ .unprovisioned → env.antiRollbackDisable = false →
      ∀ f info, verify c (env.withFwFuseSvn f) m sz r = .ok info →
        f.toNat ≤ m.header.svn.toNat ∧
        ∀ f', f'.toNat ≤ m.header.svn.toNat →
          ∃ info', verify c (env.withFwFuseSvn f') m sz r = .ok info') ∧
    (env.devLifecycle = .unprovisioned ∨ env.antiRollbackDisable = true → ∀ f f',
      (∃ info, verify c (env.withFwFuseSvn f) m sz r = .ok info) ↔
        ∃ info', verify c (env.withFwFuseSvn f') m sz r = .ok info') ∧
    (∀ f f' info info', verify c (env.withFwFuseSvn f) m sz r = .ok info →
      verify c (env.withFwFuseSvn f') m sz r = .ok info' →
      info'.eraseFuseSvn = info.eraseFuseSvn ∧
      info'.effectiveFuseSvn = (if env.antiRollbackDisable then 0 else f') ∧
      info'.logInfo.fwLogInfo.fuseSvn = f') := by
  refine ⟨fun hl ha f info accepted => ?_, fun hoff f f' => ?_, fun f f' info info' h h' => ?_⟩
  · have hon : svnCheckRequired (env.withFwFuseSvn f) = true := svnCheckRequired_eq_true.mpr ⟨hl, ha⟩
    obtain ⟨hmax, hfuse⟩ := verifySvn_eq_ok.mp (verify_fuseChecks accepted).1 hon
    refine ⟨by simpa [UInt32.lt_iff_toNat_lt] using hfuse, fun f' hf' =>
      ⟨_, verify_withFwFuseSvn accepted (verifySvn_eq_ok.mpr fun _ => ⟨hmax, ?_⟩)⟩⟩
    simpa [UInt32.lt_iff_toNat_lt] using hf'
  · have hoff : svnCheckRequired env = false := by
      rcases hoff with h | h <;> simp [svnCheckRequired, h]
    exact ⟨fun ⟨_, h⟩ => ⟨_, verify_withFwFuseSvn h (verifySvn_of_not_required hoff)⟩,
      fun ⟨_, h⟩ => ⟨_, verify_withFwFuseSvn h (verifySvn_of_not_required hoff)⟩⟩
  · obtain rfl := Except.ok.inj ((verify_withFwFuseSvn h (verify_fuseChecks h').1).symm.trans h')
    refine ⟨?_, rfl, rfl⟩
    conv_rhs => rw [← verify_withFuses_self h]
    rfl

theorem verify_fuseSvn_monotone_sample :
    verify sampleConsts ((sampleEnv .manufacturing).withFwFuseSvn 0) (sampleManifest 1 0) 32
      .coldReset = .ok (sampleInfo .manufacturing 1) ∧
    (0 : UInt32).toNat ≤ (sampleManifest 1 0).header.svn.toNat := by
  have accepted : verify sampleConsts ((sampleEnv .manufacturing).withFwFuseSvn 0)
      (sampleManifest 1 0) 32 .coldReset = .ok (sampleInfo .manufacturing 1) := rfl
  exact ⟨accepted, ((verify_fuseSvn_monotone _ _ _ _ _).1 (by decide) rfl 0 _ accepted).1⟩

/-! ### The revocation words

With the crate's constants, a provisioned device accepts key indices below 32 only.  There
the shift `1 << idx` is exact, and each key-index gate reads bit `idx` of its revocation word
and nothing else of it, and not even that bit for the last index. -/

section

variable {c : ImageConsts} {env env' : ImageVerificationEnv} {m : ImageManifest} {sz : UInt32}
  {r : ResetReason} {info : ImageVerificationInfo} {p : ImagePreamble}

/-- An index whose successor is the count is the last one. -/
theorem eq_lastKeyIdx_of_succ_eq {i : UInt32} {k : UInt8} (h : i.toNat + 1 = k.toNat) :
    i = lastKeyIdx k := by
  have := lastKeyIdx_toNat (UInt8.ne_zero_of_lt (a := k) (n := i.toNat) (by omega))
  rw [UInt32.eq_iff_toNat_eq]
  omega

/-- Below bit 32, whether a word revokes the ECC key `1 << i` is read off bit `i` of the word
and of `all()`: a key whose bit `all()` lacks is empty, and every word contains it. -/
theorem VendorEccPubKeyRevocation.contains_one_shiftLeft {rev : VendorEccPubKeyRevocation}
    {i : UInt32} (hi : i.toNat < 32) :
    rev.contains (.fromBitsTruncate c (1 <<< i)) =
      (!c.eccRevocationFlags.toNat.testBit i.toNat || rev.bits.toNat.testBit i.toNat) := by
  by_cases hf : c.eccRevocationFlags.toNat.testBit i.toNat
  · by_cases hr : rev.bits.toNat.testBit i.toNat
    · simp [hf, hr, contains_of_testBit hr]
    · simp [hf, hr, contains_eq_false hi hf hr]
  · have hk : (1 <<< i) &&& c.eccRevocationFlags = 0 := by
      have := UInt32.and_one_shiftLeft_eq_zero hi hf
      rw [UInt32.eq_iff_toNat_eq, UInt32.and_toNat] at this ⊢
      rwa [Nat.and_comm]
    simp only [hf, contains, fromBitsTruncate, hk, Bool.not_false, Bool.true_or, beq_iff_eq,
      UInt32.eq_iff_toNat_eq, UInt32.and_toNat]
    exact Nat.and_zero _

/-- The ECC gate at an index below 32 moves to a word with the same bit `idx`, or to any word
for the last index. -/
theorem EccIdxOk.of_testBit (h : EccIdxOk c env p r) (hi : p.vendorEccPubKeyIdx.toNat < 32)
    (hbit : p.vendorEccPubKeyIdx ≠ lastKeyIdx p.vendorPubKeyInfo.eccKeyDescriptor.keyHashCount →
      env'.vendorEccPubKeyRevocation.bits.toNat.testBit p.vendorEccPubKeyIdx.toNat =
        env.vendorEccPubKeyRevocation.bits.toNat.testBit p.vendorEccPubKeyIdx.toNat)
    (hdv : env'.vendorEccPubKeyIdxDv = env.vendorEccPubKeyIdxDv) : EccIdxOk c env' p r where
  inBounds := h.inBounds
  notRevoked hne := by
    rw [VendorEccPubKeyRevocation.contains_one_shiftLeft hi, hbit hne,
      ← VendorEccPubKeyRevocation.contains_one_shiftLeft hi]
    exact h.notRevoked hne
  updateBinding hu := hdv.trans (h.updateBinding hu)

/-- The PQC gate at an index below 32 moves to a word with the same bit `idx`, or to any word
for the last index. -/
theorem PqcIdxOk.of_testBit {rev rev' : UInt32} (h : PqcIdxOk env p r rev)
    (hi : p.vendorPqcPubKeyIdx.toNat < 32)
    (hbit : p.vendorPqcPubKeyIdx ≠ lastKeyIdx p.vendorPubKeyInfo.pqcKeyDescriptor.keyHashCount →
      rev'.toNat.testBit p.vendorPqcPubKeyIdx.toNat = rev.toNat.testBit p.vendorPqcPubKeyIdx.toNat)
    (hdv : env'.vendorPqcPubKeyIdxDv = env.vendorPqcPubKeyIdxDv) : PqcIdxOk env' p r rev' where
  inBounds := h.inBounds
  notRevoked hne := UInt32.and_one_shiftLeft_eq_zero hi fun hb =>
    UInt32.and_one_shiftLeft_ne_zero ((hbit hne).symm.trans hb) (h.notRevoked hne)
  updateBinding hu := hdv.trans (h.updateBinding hu)

/-- Under `withPqcRevocation t w`, bit `i` of a family's word is bit `i` of `w` for the family
`t`, and unchanged for the other. -/
theorem testBit_pqcKeyRevocation_withPqcRevocation {t t' : FwVerificationPqcKeyType}
    {w₁ w₂ : UInt32} {i : Nat} (h : w₁.toNat.testBit i = w₂.toNat.testBit i) :
    (pqcKeyRevocation (env.withPqcRevocation t w₂) t').toNat.testBit i =
      (pqcKeyRevocation (env.withPqcRevocation t w₁) t').toNat.testBit i := by
  cases t <;> cases t' <;> first | exact h.symm | rfl

/-- An accepted run moves to an ECC revocation word that agrees on the selected key's bit,
or to any word when the selected key is the last one. -/
theorem verify_withEccRevocation (hc : c.Valid) {r₁ r₂ : VendorEccPubKeyRevocation}
    (hbit : m.preamble.vendorEccPubKeyIdx.toNat + 1 =
        m.preamble.vendorPubKeyInfo.eccKeyDescriptor.keyHashCount.toNat ∨
      r₁.bits.toNat.testBit m.preamble.vendorEccPubKeyIdx.toNat =
        r₂.bits.toNat.testBit m.preamble.vendorEccPubKeyIdx.toNat)
    (accepted : verify c (env.withEccRevocation r₁) m sz r = .ok info)
    (hprov : env.devLifecycle ≠ .unprovisioned) :
    verify c (env.withEccRevocation r₂) m sz r =
      .ok (info.withFuses (env.withEccRevocation r₂)) :=
  have ⟨hsvn, he, hq⟩ := verify_fuseChecks accepted
  verify_withFuses (by rfl) accepted hsvn
    (he.of_testBit (verify_keyIdx_lt_32 hc accepted hprov).1
      (fun hne => (hbit.resolve_left fun h => hne (eq_lastKeyIdx_of_succ_eq h)).symm) rfl)
    ⟨hq.1, hq.2, hq.3⟩

/-- An accepted run moves to a revocation word of a PQC family that agrees on the selected
key's bit, or to any word when the selected key is the last one. -/
theorem verify_withPqcRevocation (hc : c.Valid) {t : FwVerificationPqcKeyType} {w₁ w₂ : UInt32}
    (hbit : m.preamble.vendorPqcPubKeyIdx.toNat + 1 =
        m.preamble.vendorPubKeyInfo.pqcKeyDescriptor.keyHashCount.toNat ∨
      w₁.toNat.testBit m.preamble.vendorPqcPubKeyIdx.toNat =
        w₂.toNat.testBit m.preamble.vendorPqcPubKeyIdx.toNat)
    (accepted : verify c (env.withPqcRevocation t w₁) m sz r = .ok info)
    (hprov : env.devLifecycle ≠ .unprovisioned) :
    verify c (env.withPqcRevocation t w₂) m sz r =
      .ok (info.withFuses (env.withPqcRevocation t w₂)) := by
  obtain ⟨hsvn, he, hq⟩ := verify_fuseChecks accepted
  cases t <;> exact verify_withFuses (by rfl) accepted hsvn ⟨he.1, he.2, he.3⟩
    (hq.of_testBit (verify_keyIdx_lt_32 hc accepted hprov).2
      (fun hne => testBit_pqcKeyRevocation_withPqcRevocation
        (hbit.resolve_left fun h => hne (eq_lastKeyIdx_of_succ_eq h))) rfl)

/-- Runs that move both ways between two environments with the same fuse SVN agree up to the
revocation log. -/
theorem verifyAgrees_of_moves {env₁ env₂ : ImageVerificationEnv}
    (h₁₂ : ∀ info, verify c env₁ m sz r = .ok info →
      verify c env₂ m sz r = .ok (info.withFuses env₂))
    (h₂₁ : ∀ info, verify c env₂ m sz r = .ok info →
      verify c env₁ m sz r = .ok (info.withFuses env₁))
    (hsvn : env₁.fwFuseSvn = env₂.fwFuseSvn)
    (hanti : env₁.antiRollbackDisable = env₂.antiRollbackDisable) :
    VerifyAgrees c env₁ env₂ m sz r ImageVerificationInfo.eraseRevocationLog := by
  refine ⟨⟨fun ⟨i, h⟩ => ⟨_, h₁₂ i h⟩, fun ⟨i, h⟩ => ⟨_, h₂₁ i h⟩⟩, fun i₁ i₂ h₁ h₂ => ?_⟩
  obtain rfl := Except.ok.inj (h₂.symm.trans (h₁₂ _ h₁))
  conv_lhs => rw [← verify_withFuses_self h₁]
  simp only [ImageVerificationInfo.withFuses, ImageVerificationInfo.eraseRevocationLog,
    effectiveFuseSvn, hsvn, hanti]

end

/-- **The revocation fuses matter only through the selected key's bit.**  In a provisioned
lifecycle, with the crate's constants, take two ECC revocation words, or two revocation words
of a PQC family, that agree on the bit of the selected key, or any two when that key is the
last one.  Then `verify` both fails or both succeeds under them, and the records it returns
differ only in the revocation words of their logs.  So the last key is never revoked. -/
theorem verify_revocation_reads_selected_bit (c : ImageConsts) (env : ImageVerificationEnv)
    (m : ImageManifest) (sz : UInt32) (r : ResetReason) (hc : c.Valid)
    (hprov : env.devLifecycle ≠ .unprovisioned) :
    (∀ r₁ r₂ : VendorEccPubKeyRevocation,
      m.preamble.vendorEccPubKeyIdx.toNat + 1 =
          m.preamble.vendorPubKeyInfo.eccKeyDescriptor.keyHashCount.toNat ∨
        r₁.bits.toNat.testBit m.preamble.vendorEccPubKeyIdx.toNat =
          r₂.bits.toNat.testBit m.preamble.vendorEccPubKeyIdx.toNat →
      VerifyAgrees c (env.withEccRevocation r₁) (env.withEccRevocation r₂) m sz r
        ImageVerificationInfo.eraseRevocationLog) ∧
    (∀ (t : FwVerificationPqcKeyType) (w₁ w₂ : UInt32),
      m.preamble.vendorPqcPubKeyIdx.toNat + 1 =
          m.preamble.vendorPubKeyInfo.pqcKeyDescriptor.keyHashCount.toNat ∨
        w₁.toNat.testBit m.preamble.vendorPqcPubKeyIdx.toNat =
          w₂.toNat.testBit m.preamble.vendorPqcPubKeyIdx.toNat →
      VerifyAgrees c (env.withPqcRevocation t w₁) (env.withPqcRevocation t w₂) m sz r
        ImageVerificationInfo.eraseRevocationLog) :=
  ⟨fun _ _ hbit => verifyAgrees_of_moves
      (fun _ h => verify_withEccRevocation hc hbit h hprov)
      (fun _ h => verify_withEccRevocation hc (hbit.imp_right Eq.symm) h hprov) rfl rfl,
    fun t _ _ hbit => verifyAgrees_of_moves
      (fun _ h => verify_withPqcRevocation hc hbit h hprov)
      (fun _ h => verify_withPqcRevocation hc (hbit.imp_right Eq.symm) h hprov)
      (by cases t <;> rfl) (by cases t <;> rfl)⟩

/-- The sample selects its last, and only, ECC key: a word with every bit set does not revoke it. -/
theorem verify_revocation_reads_selected_bit_sample :
    sampleConsts.Valid ∧ (sampleEnv .manufacturing).devLifecycle ≠ .unprovisioned ∧
    VerifyAgrees sampleConsts ((sampleEnv .manufacturing).withEccRevocation ⟨0⟩)
      ((sampleEnv .manufacturing).withEccRevocation ⟨0xFFFFFFFF⟩) (sampleManifest 1 0) 32
      .coldReset ImageVerificationInfo.eraseRevocationLog :=
  ⟨sampleConsts_valid, by decide,
    (verify_revocation_reads_selected_bit _ _ _ _ _ sampleConsts_valid (by decide)).1 _ _
      (.inl (by decide))⟩

end Caliptra
