/-
What the FMC alias layer does to the key vault and the certificates.

Each step of `FmcAliasLayer::derive` is a driver call on the key vault, and one run equation per
step says what it can do (`hmacKdf_run`, `eraseKey_run`, `eccKeyPair_run`, and the signing
steps, which change nothing).  Every later fact is read off those equations.  A step keeps a
preorder on states when its writes and erases do (`Keeps`), and `derive_keeps` assembles the
frame of the whole layer from the frames of its steps.

Over every run, whatever step fails: `KEY_ID_TMP` keeps nothing new, since `ecc384_key_gen`
erases it before it looks at the key pair (`derive_leaves_nothing_in_tmp`); the slots the layer
does not own are untouched (`derive_keeps_other_slots`); and a certificate has a signature
exactly when its LDevID authority key is gone (`derive_signs_iff_erases`).  Over the runs that
return, read off one success lemma per step: the FMC alias keys are KDFs of the CDI mixed with
PCR0 and the vault is exactly the old one with the layer's writes and erases
(`derive_binds_fmc_keys_to_pcr0`); after a cold reset's `process`, both certificates carry the
FMC digest and the SVN of the manifest it verified (`coldReset_fmcAliasCerts_attest_image`);
and both are signed, over their own TBS, with the LDevID keys as they were before the layer
ran (`derive_signs_certs_with_ldevid_keys`).
-/
import CaliptraRom.Rom.FmcAlias
import CaliptraRom.Proofs.Rom.Load

namespace Caliptra

variable {α β : Type}

/-! ### Running a step -/

namespace DiceM

/-- The state a step leaves, whether it returns or fails. -/
def stateOf : EStateM.Result CaliptraError DiceState α → DiceState
  | .ok _ d => d
  | .error _ d => d

@[simp] theorem stateOf_ok (a : α) (d : DiceState) :
    stateOf (.ok a d : EStateM.Result CaliptraError DiceState α) = d := rfl

@[simp] theorem stateOf_error (e : CaliptraError) (d : DiceState) :
    stateOf (.error e d : EStateM.Result CaliptraError DiceState α) = d := rfl

theorem bind_run (x : DiceM α) (g : α → DiceM β) (d : DiceState) : (x >>= g) d = match x d with
    | .ok a d' => g a d'
    | .error e d' => .error e d' := by
  show EStateM.bind x g d = _
  unfold EStateM.bind
  cases x d <;> rfl

theorem bind_eq_ok {x : DiceM α} {g : α → DiceM β} {d d' : DiceState} {b : β} :
    (x >>= g) d = .ok b d' ↔ ∃ a d₁, x d = .ok a d₁ ∧ g a d₁ = .ok b d' := by
  rw [bind_run]
  cases x d <;> simp [and_assoc]

@[simp] theorem pure_apply (a : α) (d : DiceState) : (pure a : DiceM α) d = .ok a d := rfl

@[simp] theorem throw_apply (e : CaliptraError) (d : DiceState) :
    (throw e : DiceM α) d = .error e d := rfl

@[simp] theorem get_apply (d : DiceState) : (get : DiceM DiceState) d = .ok d d := rfl

@[simp] theorem set_apply (d d' : DiceState) : (set d' : DiceM PUnit) d = .ok ⟨⟩ d' := rfl

@[simp] theorem modify_apply (g : DiceState → DiceState) (d : DiceState) :
    (modify g : DiceM PUnit) d = .ok ⟨⟩ (g d) := rfl

@[simp] theorem ofExcept_ok (a : α) (d : DiceState) : ofExcept (.ok a) d = .ok a d := rfl

@[simp] theorem ofExcept_error (e : CaliptraError) (d : DiceState) :
    (ofExcept (.error e) : DiceM α) d = .error e d := rfl

@[simp] theorem ofExcept_eq_ok {r : Except CaliptraError α} {a : α} {d d' : DiceState} :
    ofExcept r d = .ok a d' ↔ r = .ok a ∧ d' = d := by
  cases r <;> simp [ofExcept, eq_comm]

@[simp] theorem stateOf_ofExcept (r : Except CaliptraError α) (d : DiceState) :
    stateOf (ofExcept r d) = d := by
  cases r <;> rfl

/-- `x` moves the state only along `R`, whether it returns or fails. -/
def Keeps (R : DiceState → DiceState → Prop) (x : DiceM α) : Prop := ∀ d, R d (stateOf (x d))

section

variable {R : DiceState → DiceState → Prop}

theorem keeps_modify {g : DiceState → DiceState} (h : ∀ d, R d (g d)) : Keeps R (modify g) := h

theorem Keeps.of_eq_ok {x : DiceM α} {d d' : DiceState} {a : α} (hx : Keeps R x)
    (h : x d = .ok a d') : R d d' := by
  simpa [h] using hx d

variable [IsPreorder DiceState R]

theorem keeps_pure (a : α) : Keeps R (pure a) := fun d => refl_of R d

theorem keeps_get : Keeps R get := fun d => refl_of R d

theorem keeps_ofExcept (r : Except CaliptraError α) : Keeps R (ofExcept r) := by
  cases r <;> exact fun d => refl_of R d

theorem Keeps.bind {x : DiceM α} {g : α → DiceM β} (hx : Keeps R x) (hg : ∀ a, Keeps R (g a)) :
    Keeps R (x >>= g) := by
  intro d
  have h := hx d
  rw [bind_run]
  cases hr : x d with
  | ok a d' => rw [hr] at h; exact trans_of R h (hg a d')
  | error e d' => rw [hr] at h; exact h

end

end DiceM


/-! ### The key vault -/

section

variable {kv : KeyVault} {id i : KeyId} {s : KeySlot}

@[simp] theorem KeyVault.write_slot :
    (kv.write id s).slot i = if i = id then some s else kv.slot i := rfl

@[simp] theorem KeyVault.erase_slot : (kv.erase id).slot i = if i = id then none else kv.slot i :=
  rfl

@[simp] theorem kdfOutputUsage_hmacKey : kdfOutputUsage.hmacKey = true := rfl

@[simp] theorem kdfOutputUsage_eccKeyGenSeed : kdfOutputUsage.eccKeyGenSeed = true := rfl

@[simp] theorem kdfOutputUsage_mldsaKeyGenSeed : kdfOutputUsage.mldsaKeyGenSeed = true := rfl

theorem KeyVault.read_of_slot {kv' : KeyVault} {use : KeyUsage → Bool}
    (h : kv'.slot i = kv.slot i) : kv'.read i use = kv.read i use := by
  simp only [KeyVault.read, h]

theorem KeyVault.read_write_of_ne {use : KeyUsage → Bool} (h : i ≠ id) :
    (kv.write id s).read i use = kv.read i use := by
  simp [KeyVault.read, h]

theorem KeyVault.read_erase_of_ne {use : KeyUsage → Bool} (h : i ≠ id) :
    (kv.erase id).read i use = kv.read i use := by
  simp [KeyVault.read, h]

theorem KeyVault.read_write_self {use : KeyUsage → Bool} (h : use s.usage) :
    (kv.write id s).read id use = .ok s.material := by
  simp [KeyVault.read, h]

end

section

variable (d : DiceState) (alg : DiceAlg) (f : CertRecord → CertRecord)

@[simp] theorem DiceState.modifyCert_keyVault : (d.modifyCert alg f).keyVault = d.keyVault := by
  cases alg <;> rfl

@[simp] theorem DiceState.cert_modifyCert_self :
    (d.modifyCert alg f).cert alg = f (d.cert alg) := by
  cases alg <;> rfl

theorem DiceState.cert_modifyCert_of_ne {alg' : DiceAlg} (h : alg' ≠ alg) :
    (d.modifyCert alg f).cert alg' = d.cert alg' := by
  cases alg <;> cases alg' <;> first | rfl | exact absurd rfl h

@[simp] theorem DiceState.cert_withKeyVault (kv : KeyVault) :
    ({ d with keyVault := kv } : DiceState).cert alg = d.cert alg := by
  cases alg <;> rfl

end

/-- The authority key of the `alg` certificate: the LDevID private key or key pair seed. -/
def DiceInput.authKey (input : DiceInput) : DiceAlg → KeyId
  | .ecc => input.eccAuthPrivKey
  | .mldsa => input.mldsaAuthKeyPairSeed

/-! ### What each step can do -/

namespace Crypto

variable {hw : DiceHardware} {d : DiceState}

/-- `hmac_kdf` writes its output slot when the key slot may be read as an HMAC key and the
engine succeeds, and changes nothing otherwise. -/
theorem hmacKdf_run (key : KeyId) (label : List UInt8) (context : Option (List UInt8))
    (output : KeyId) (d : DiceState) : hmacKdf hw key label context output d =
      match d.keyVault.read key (·.hmacKey) with
      | .error e => .error e d
      | .ok k => match hw.hmacKdf k label context with
        | .error e => .error e d
        | .ok o => .ok () { d with keyVault := d.keyVault.write output ⟨o, kdfOutputUsage⟩ } := by
  simp only [hmacKdf, DiceM.bind_run, DiceM.get_apply]
  cases d.keyVault.read key (·.hmacKey) with
  | error e => rfl
  | ok k =>
    simp only [DiceM.ofExcept_ok]
    cases hw.hmacKdf k label context <;> rfl

theorem eraseKey_run (id : KeyId) (d : DiceState) : eraseKey hw id d =
    match hw.eraseKey id with
    | .ok () => .ok () { d with keyVault := d.keyVault.erase id }
    | .error e => .error e d := by
  simp only [eraseKey, DiceM.bind_run]
  cases hw.eraseKey id <;> rfl

/-- The ECC key pair step never fails itself: it returns the engine's result, and writes the
private key only when there is one. -/
theorem eccKeyPair_run (seed privKey : KeyId) (d : DiceState) : eccKeyPair hw seed privKey d =
    match d.keyVault.read seed (·.eccKeyGenSeed) >>= hw.eccKeyPair with
    | .ok (priv, pub) =>
      .ok (.ok pub) { d with keyVault := d.keyVault.write privKey ⟨priv, eccPrivKeyUsage⟩ }
    | .error e => .ok (.error e) d := by
  simp only [eccKeyPair, DiceM.bind_run, DiceM.get_apply]
  cases d.keyVault.read seed (·.eccKeyGenSeed) >>= hw.eccKeyPair with
  | ok p => rfl
  | error e => rfl

/-- Signing reads the vault and writes nothing. -/
theorem ecdsa384SignAndVerify_run (privKey : KeyId) (pubKey data : List UInt8) (d : DiceState) :
    ecdsa384SignAndVerify hw privKey pubKey data d =
      match hw.sha384 data with
      | .error e => .error e d
      | .ok digest => match d.keyVault.read privKey (·.eccPrivateKey) with
        | .error e => .error e d
        | .ok key => match hw.eccSign key pubKey digest with
          | .error e => .error e d
          | .ok sig => .ok sig d := by
  simp only [ecdsa384SignAndVerify, DiceM.bind_run, DiceM.get_apply]
  cases hw.sha384 data with
  | error e => rfl
  | ok digest =>
    simp only [DiceM.ofExcept_ok]
    cases d.keyVault.read privKey (·.eccPrivateKey) with
    | error e => rfl
    | ok key =>
      simp only [DiceM.ofExcept_ok]
      cases hw.eccSign key pubKey digest <;> rfl

theorem mldsa87SignAndVerify_run (privKey : KeyId) (pubKey data : List UInt8) (d : DiceState) :
    mldsa87SignAndVerify hw privKey pubKey data d =
      match hw.sha512 data with
      | .error e => .error e d
      | .ok digest => match d.keyVault.read privKey (·.mldsaKeyGenSeed) with
        | .error e => .error e d
        | .ok seed => match hw.mldsaSign seed pubKey digest with
          | .error e => .error e d
          | .ok sig => .ok sig d := by
  simp only [mldsa87SignAndVerify, DiceM.bind_run, DiceM.get_apply]
  cases hw.sha512 data with
  | error e => rfl
  | ok digest =>
    simp only [DiceM.ofExcept_ok]
    cases d.keyVault.read privKey (·.mldsaKeyGenSeed) with
    | error e => rfl
    | ok seed =>
      simp only [DiceM.ofExcept_ok]
      cases hw.mldsaSign seed pubKey digest <;> rfl

/-! ### Steps that return -/

section

variable {d' : DiceState} {u : Unit}

theorem hmacKdf_eq_ok {key output : KeyId} {label : List UInt8} {context : Option (List UInt8)} :
    hmacKdf hw key label context output d = .ok u d' ↔ ∃ m o,
      d.keyVault.read key (·.hmacKey) = .ok m ∧ hw.hmacKdf m label context = .ok o ∧
      d' = { d with keyVault := d.keyVault.write output ⟨o, kdfOutputUsage⟩ } := by
  rw [hmacKdf_run]
  rcases d.keyVault.read key (·.hmacKey) with e | m
  · simp
  rcases ho : hw.hmacKdf m label context with e | o <;> simp [ho, eq_comm]

theorem eraseKey_eq_ok {id : KeyId} : eraseKey hw id d = .ok u d' ↔
    hw.eraseKey id = .ok () ∧ d' = { d with keyVault := d.keyVault.erase id } := by
  rw [eraseKey_run]
  rcases hw.eraseKey id with e | ⟨⟩ <;> simp [eq_comm]

theorem ecdsa384SignAndVerify_eq_ok {privKey : KeyId} {pubKey data sig : List UInt8} :
    ecdsa384SignAndVerify hw privKey pubKey data d = .ok sig d' ↔ d' = d ∧ ∃ digest key,
      hw.sha384 data = .ok digest ∧ d.keyVault.read privKey (·.eccPrivateKey) = .ok key ∧
      hw.eccSign key pubKey digest = .ok sig := by
  rw [ecdsa384SignAndVerify_run]
  rcases hw.sha384 data with e | digest
  · simp
  rcases d.keyVault.read privKey (·.eccPrivateKey) with e | key
  · simp
  rcases hs : hw.eccSign key pubKey digest with e | s <;> simp [hs, eq_comm, and_comm]

theorem mldsa87SignAndVerify_eq_ok {privKey : KeyId} {pubKey data sig : List UInt8} :
    mldsa87SignAndVerify hw privKey pubKey data d = .ok sig d' ↔ d' = d ∧ ∃ digest seed,
      hw.sha512 data = .ok digest ∧ d.keyVault.read privKey (·.mldsaKeyGenSeed) = .ok seed ∧
      hw.mldsaSign seed pubKey digest = .ok sig := by
  rw [mldsa87SignAndVerify_run]
  rcases hw.sha512 data with e | digest
  · simp
  rcases d.keyVault.read privKey (·.mldsaKeyGenSeed) with e | seed
  · simp
  rcases hs : hw.mldsaSign seed pubKey digest with e | s <;> simp [hs, eq_comm, and_comm]

/-- An ECC key generation that returns wrote the KDF of the CDI into `KEY_ID_TMP`, the private
key of the pair seeded from it into `privKey`, and erased `KEY_ID_TMP`. -/
theorem ecc384KeyGen_eq_ok {k : DiceConsts} {cdi privKey : KeyId} {label pub : List UInt8}
    (h : ecc384KeyGen k hw cdi label privKey d = .ok pub d') :
    ∃ m seed priv, d.keyVault.read cdi (·.hmacKey) = .ok m ∧ hw.hmacKdf m label none = .ok seed ∧
      hw.eccKeyPair seed = .ok (priv, pub) ∧ hw.eraseKey k.keyIdTmp = .ok () ∧
      d' = { d with keyVault := ((d.keyVault.write k.keyIdTmp ⟨seed, kdfOutputUsage⟩).write privKey
        ⟨priv, eccPrivKeyUsage⟩).erase k.keyIdTmp } := by
  obtain ⟨_, d₁, h₁, h⟩ := DiceM.bind_eq_ok.mp h
  obtain ⟨m, seed, hm, hs, rfl⟩ := hmacKdf_eq_ok.mp h₁
  obtain ⟨r, d₂, h₂, h⟩ := DiceM.bind_eq_ok.mp h
  obtain ⟨_, d₃, h₃, h⟩ := DiceM.bind_eq_ok.mp h
  obtain ⟨he, rfl⟩ := eraseKey_eq_ok.mp h₃
  obtain ⟨rfl, rfl⟩ := DiceM.ofExcept_eq_ok.mp h
  simp only [eccKeyPair_run, KeyVault.read_write_self, kdfOutputUsage_eccKeyGenSeed, bind,
    Except.bind] at h₂
  rcases hk : hw.eccKeyPair seed with e | ⟨priv, pub'⟩
  · simp [hk] at h₂
  · simp only [hk, EStateM.Result.ok.injEq, Except.ok.injEq] at h₂
    obtain ⟨rfl, rfl⟩ := h₂
    exact ⟨m, seed, priv, hm, hs, hk, he, rfl⟩

/-- An MLDSA key generation that returns wrote the KDF of the CDI into the seed slot, and
returns the public key of the pair seeded from it. -/
theorem mldsaKeyGen_eq_ok {cdi seed : KeyId} {label pub : List UInt8}
    (h : mldsaKeyGen hw cdi label seed d = .ok pub d') :
    ∃ m s, d.keyVault.read cdi (·.hmacKey) = .ok m ∧ hw.hmacKdf m label none = .ok s ∧
      hw.mldsaKeyPair s = .ok pub ∧
      d' = { d with keyVault := d.keyVault.write seed ⟨s, kdfOutputUsage⟩ } := by
  obtain ⟨_, d₁, h₁, h⟩ := DiceM.bind_eq_ok.mp h
  obtain ⟨m, s, hm, hs, rfl⟩ := hmacKdf_eq_ok.mp h₁
  simp only [DiceM.bind_eq_ok, DiceM.get_apply, EStateM.Result.ok.injEq, DiceM.ofExcept_eq_ok] at h
  obtain ⟨_, _, ⟨rfl, rfl⟩, _, _, ⟨hr, rfl⟩, hp, rfl⟩ := h
  simp only [KeyVault.read_write_self, kdfOutputUsage_mldsaKeyGenSeed, Except.ok.injEq] at hr
  exact ⟨m, s, hm, hs, hr ▸ hp, rfl⟩

end

/-! ### Frames -/

variable {R : DiceState → DiceState → Prop} [IsPreorder DiceState R]

theorem hmacKdf_keeps {key output : KeyId} {label : List UInt8} {context : Option (List UInt8)}
    (h : ∀ d s, R d { d with keyVault := d.keyVault.write output s }) :
    DiceM.Keeps R (hmacKdf hw key label context output) := by
  intro d
  rw [hmacKdf_run]
  repeat' split
  all_goals first | exact refl_of R d | exact h d _

theorem eraseKey_keeps {id : KeyId} (h : ∀ d, R d { d with keyVault := d.keyVault.erase id }) :
    DiceM.Keeps R (eraseKey hw id) := by
  intro d
  rw [eraseKey_run]
  split
  · exact h d
  · exact refl_of R d

theorem eccKeyPair_keeps {seed privKey : KeyId}
    (h : ∀ d s, R d { d with keyVault := d.keyVault.write privKey s }) :
    DiceM.Keeps R (eccKeyPair hw seed privKey) := by
  intro d
  rw [eccKeyPair_run]
  split
  · exact h d _
  · exact refl_of R d

theorem ecc384KeyGen_keeps {k : DiceConsts} {cdi privKey : KeyId} {label : List UInt8}
    (htmp : ∀ d s, R d { d with keyVault := d.keyVault.write k.keyIdTmp s })
    (hpriv : ∀ d s, R d { d with keyVault := d.keyVault.write privKey s })
    (herase : ∀ d, R d { d with keyVault := d.keyVault.erase k.keyIdTmp }) :
    DiceM.Keeps R (ecc384KeyGen k hw cdi label privKey) :=
  (hmacKdf_keeps htmp).bind fun _ => (eccKeyPair_keeps hpriv).bind fun _ =>
    (eraseKey_keeps herase).bind fun _ => DiceM.keeps_ofExcept _

theorem mldsaKeyGen_keeps {cdi seed : KeyId} {label : List UInt8}
    (h : ∀ d s, R d { d with keyVault := d.keyVault.write seed s }) :
    DiceM.Keeps R (mldsaKeyGen hw cdi label seed) :=
  (hmacKdf_keeps h).bind fun _ => DiceM.keeps_get.bind fun _ =>
    (DiceM.keeps_ofExcept _).bind fun _ => DiceM.keeps_ofExcept _

theorem ecdsa384SignAndVerify_keeps (privKey : KeyId) (pubKey data : List UInt8) :
    DiceM.Keeps R (ecdsa384SignAndVerify hw privKey pubKey data) := by
  intro d
  rw [ecdsa384SignAndVerify_run]
  repeat' split
  all_goals exact refl_of R d

theorem mldsa87SignAndVerify_keeps (privKey : KeyId) (pubKey data : List UInt8) :
    DiceM.Keeps R (mldsa87SignAndVerify hw privKey pubKey data) := by
  intro d
  rw [mldsa87SignAndVerify_run]
  repeat' split
  all_goals exact refl_of R d

end Crypto

/-! ### A sample layer -/

/-- The sample's slots: the CDI in 6, the FMC alias keys in 7 and 8, `KEY_ID_TMP` in 3. -/
def sampleDiceConsts : DiceConsts where
  keyIdRomFmcCdi := 6
  keyIdFmcEcdsaPrivKey := 7
  keyIdFmcMldsaKeypairSeed := 8
  keyIdTmp := 3
  flagBitFixedWidth := 0x80000000
  flagBitNotConfigured := 1
  flagBitNotSecure := 2
  flagBitDebug := 8
  lifecycleCode := fun _ => 0
  digestBytes := fun d => d.toList.map UInt32.toUInt8
  eccPubKeyDer := id

/-- Engines and helpers that all succeed, each marking what it was given. -/
def sampleDiceHardware : DiceHardware where
  hmacKdf := fun key _ _ => .ok (0 :: key)
  eccKeyPair := fun seed => .ok (1 :: seed, 2 :: seed)
  mldsaKeyPair := fun seed => .ok (3 :: seed)
  eraseKey := fun _ => .ok ()
  sha384 := fun _ => .ok zeroDigest
  sha512 := fun _ => .ok (Mathlib.Vector.replicate 16 0)
  eccSign := fun key _ _ => .ok key
  mldsaSign := fun seed _ _ => .ok seed
  subjSn := fun _ pub => .ok pub
  subjKeyId := fun _ pub => .ok pub
  eccCertSn := fun pub => .ok pub
  mldsaCertSn := fun pub => .ok pub
  ueid := .ok []
  tbsEcc := fun p => p.tcbInfoFwSvn
  tbsMldsa := fun p => p.tcbInfoFwSvn
  copyTbs := fun _ _ => .ok ()
  lifecycle := .production
  debugLocked := true
  antiRollbackDisable := false
  vendorPubKeyInfoHash := zeroDigest

/-- The LDevID layer's keys: the ECC private key in slot 5, the MLDSA seed in slot 4. -/
def sampleDiceInput : DiceInput := ⟨5, [5], [], [], 4, [4], [], []⟩

/-- The vault the LDevID layer leaves: its CDI in slot 6 and its two keys; no certificate yet. -/
def sampleDiceState : DiceState where
  keyVault := (((⟨fun _ => none⟩ : KeyVault).write 6 ⟨[6], kdfOutputUsage⟩).write 5
    ⟨[5], eccPrivKeyUsage⟩).write 4 ⟨[4], kdfOutputUsage⟩
  eccCert := ⟨none, none, none⟩
  mldsaCert := ⟨none, none, none⟩

def sampleFwProcInfo : FirmwareProcessor.FwProcInfo := ⟨0, false, 0⟩

def sampleValidity : CertValidity := ⟨[], []⟩

namespace FmcAliasLayer

open Crypto

variable {k : DiceConsts} {hw : DiceHardware} {rom : RomState} {input : DiceInput}
  {info : FirmwareProcessor.FwProcInfo} {validity : CertValidity}
  {R : DiceState → DiceState → Prop} [IsPreorder DiceState R]

theorem signAndVerify_keeps (kind : CertSigKind)
    (hkind : kind = eccCertSig ∨ kind = mldsaCertSig) (authPrivKey : KeyId)
    (pubKey data : List UInt8) : DiceM.Keeps R (kind.signAndVerify hw authPrivKey pubKey data) := by
  rcases hkind with rfl | rfl
  · exact ecdsa384SignAndVerify_keeps _ _ _
  · exact mldsa87SignAndVerify_keeps _ _ _

/-- **The frame of a certificate.**  Generating a certificate erases its authority key and
writes its own record, and nothing else. -/
theorem generateCertSig_keeps {kind : CertSigKind} {authPrivKey : KeyId}
    {authPubKey issuerSn authorityKeyId pubKey subjectSn subjectKeyId : List UInt8}
    (hsign : ∀ data, DiceM.Keeps R (kind.signAndVerify hw authPrivKey authPubKey data))
    (herase : ∀ d, R d { d with keyVault := d.keyVault.erase authPrivKey })
    (hcert : ∀ d f, R d (d.modifyCert kind.alg f)) :
    DiceM.Keeps R (generateCertSig k hw rom kind authPrivKey authPubKey issuerSn authorityKeyId
      pubKey subjectSn subjectKeyId info validity) :=
  (DiceM.keeps_ofExcept _).bind fun _ => (DiceM.keeps_ofExcept _).bind fun _ =>
    (DiceM.keeps_ofExcept _).bind fun _ => (hsign _).bind fun _ =>
      (eraseKey_keeps herase).bind fun _ => (DiceM.keeps_modify (hcert · _)).bind fun _ =>
        (DiceM.keeps_ofExcept _).bind fun _ => DiceM.keeps_modify (hcert · _)

/-- **The frame of the layer.**  `derive` keeps any preorder its four steps keep. -/
theorem derive_keeps
    (hcdi : DiceM.Keeps R (deriveCdi k hw rom.pcr0 k.keyIdRomFmcCdi))
    (hkeys : DiceM.Keeps R (deriveKeyPair k hw k.keyIdRomFmcCdi k.keyIdFmcEcdsaPrivKey
      k.keyIdFmcMldsaKeypairSeed))
    (hecc : ∀ output, DiceM.Keeps R (generateCertSigEcc k hw rom input output info validity))
    (hmldsa : ∀ output, DiceM.Keeps R (generateCertSigMldsa k hw rom input output info validity)) :
    DiceM.Keeps R (derive k hw rom input info validity) :=
  hcdi.bind fun _ => hkeys.bind fun ⟨_, _⟩ => (DiceM.keeps_ofExcept _).bind fun _ =>
    (DiceM.keeps_ofExcept _).bind fun _ => (DiceM.keeps_ofExcept _).bind fun _ =>
      (DiceM.keeps_ofExcept _).bind fun _ => (hecc _).bind fun _ => hmldsa _

theorem deriveKeyPair_keeps {cdi eccPrivKey mldsaKeypairSeed : KeyId}
    (hecc : DiceM.Keeps R (ecc384KeyGen k hw cdi (byteString "alias_fmc_ecc_key") eccPrivKey))
    (hseed : ∀ d s, R d { d with keyVault := d.keyVault.write mldsaKeypairSeed s }) :
    DiceM.Keeps R (deriveKeyPair k hw cdi eccPrivKey mldsaKeypairSeed) :=
  hecc.bind fun _ => (mldsaKeyGen_keeps hseed).bind fun _ => DiceM.keeps_pure _

/-- The frame of the layer by slot: `derive` keeps a preorder that writing the CDI slot, the key
derivation, erasing either authority key and changing either certificate's record keep. -/
theorem derive_keeps_of_slots
    (hcdi : ∀ d s, R d { d with keyVault := d.keyVault.write k.keyIdRomFmcCdi s })
    (hkeys : DiceM.Keeps R (deriveKeyPair k hw k.keyIdRomFmcCdi k.keyIdFmcEcdsaPrivKey
      k.keyIdFmcMldsaKeypairSeed))
    (hecc : ∀ d, R d { d with keyVault := d.keyVault.erase input.eccAuthPrivKey })
    (hmldsa : ∀ d, R d { d with keyVault := d.keyVault.erase input.mldsaAuthKeyPairSeed })
    (hcert : ∀ d alg f, R d (d.modifyCert alg f)) :
    DiceM.Keeps R (derive k hw rom input info validity) :=
  derive_keeps (hmacKdf_keeps hcdi) hkeys
    (fun _ => generateCertSig_keeps (fun _ => signAndVerify_keeps _ (.inl rfl) _ _ _) hecc
      (hcert · _))
    (fun _ => generateCertSig_keeps (fun _ => signAndVerify_keeps _ (.inr rfl) _ _ _) hmldsa
      (hcert · _))

/-! ### The temporary slot -/

/-- `d'` holds nothing new in slot `i`: the slot is empty, or holds what it held in `d`. -/
def NothingNewIn (i : KeyId) (d d' : DiceState) : Prop :=
  d'.keyVault.slot i = none ∨ d'.keyVault.slot i = d.keyVault.slot i

instance (i : KeyId) : IsPreorder DiceState (NothingNewIn i) where
  refl _ := .inr rfl
  trans _ _ _ h₁ h₂ := by
    rcases h₂ with h₂ | h₂
    · exact .inl h₂
    · rw [NothingNewIn, h₂]
      exact h₁

theorem nothingNewIn_write {i j : KeyId} (h : i ≠ j) (d : DiceState) (s : KeySlot) :
    NothingNewIn i d { d with keyVault := d.keyVault.write j s } :=
  .inr (by simp [h])

theorem nothingNewIn_erase (i j : KeyId) (d : DiceState) :
    NothingNewIn i d { d with keyVault := d.keyVault.erase j } := by
  by_cases h : i = j <;> simp [NothingNewIn, h]

theorem nothingNewIn_modifyCert (i : KeyId) (d : DiceState) (alg : DiceAlg)
    (f : CertRecord → CertRecord) : NothingNewIn i d (d.modifyCert alg f) :=
  .inr (by simp)

/-- `ecc384_key_gen` erases `KEY_ID_TMP` before it returns the key pair's error, so whatever
way it ends the slot does not keep the seed, provided the vault lets it be erased. -/
theorem ecc384KeyGen_clears_tmp (herase : hw.eraseKey k.keyIdTmp = .ok ()) (cdi privKey : KeyId)
    (label : List UInt8) :
    DiceM.Keeps (NothingNewIn k.keyIdTmp) (ecc384KeyGen k hw cdi label privKey) := by
  intro d
  simp only [ecc384KeyGen, DiceM.bind_run, hmacKdf_run]
  rcases d.keyVault.read cdi (·.hmacKey) with e | c
  · exact .inr rfl
  rcases hs : hw.hmacKdf c label none with e | seed
  · simp only [hs]
    exact .inr rfl
  simp only [hs, eccKeyPair_run, eraseKey_run, herase]
  split
  · simp [NothingNewIn]
  · -- the key pair step returns its error as a value, it does not fail
    rename_i heq
    split at heq <;> cases heq

/-- **Nothing is left in `KEY_ID_TMP`.**  Whatever way `derive` ends, the temporary slot is
empty or holds what it held before: the ECC seed written there is erased before the key pair's
result is looked at, and no other step writes the slot. -/
theorem derive_leaves_nothing_in_tmp (herase : hw.eraseKey k.keyIdTmp = .ok ())
    (hcdi : k.keyIdTmp ≠ k.keyIdRomFmcCdi) (hseed : k.keyIdTmp ≠ k.keyIdFmcMldsaKeypairSeed) :
    ∀ d, NothingNewIn k.keyIdTmp d (DiceM.stateOf (derive k hw rom input info validity d)) :=
  derive_keeps_of_slots (nothingNewIn_write hcdi)
    (deriveKeyPair_keeps (ecc384KeyGen_clears_tmp herase _ _ _) (nothingNewIn_write hseed))
    (nothingNewIn_erase _ _) (nothingNewIn_erase _ _) (nothingNewIn_modifyCert _)

theorem derive_leaves_nothing_in_tmp_sample :
    sampleDiceHardware.eraseKey sampleDiceConsts.keyIdTmp = .ok () ∧
      sampleDiceConsts.keyIdTmp ≠ sampleDiceConsts.keyIdRomFmcCdi ∧
      sampleDiceConsts.keyIdTmp ≠ sampleDiceConsts.keyIdFmcMldsaKeypairSeed ∧
      ∀ d, NothingNewIn sampleDiceConsts.keyIdTmp d (DiceM.stateOf (derive sampleDiceConsts
        sampleDiceHardware sampleRomState sampleDiceInput sampleFwProcInfo sampleValidity d)) :=
  ⟨rfl, by decide, by decide, derive_leaves_nothing_in_tmp rfl (by decide) (by decide)⟩

/-! ### The slots the layer does not own -/

/-- Slot `i` holds in `d'` what it held in `d`. -/
def SlotKept (i : KeyId) (d d' : DiceState) : Prop := d'.keyVault.slot i = d.keyVault.slot i

instance (i : KeyId) : IsPreorder DiceState (SlotKept i) where
  refl _ := rfl
  trans _ _ _ h₁ h₂ := h₂.trans h₁

theorem slotKept_write {i j : KeyId} (h : i ≠ j) (d : DiceState) (s : KeySlot) :
    SlotKept i d { d with keyVault := d.keyVault.write j s } := by
  simp [SlotKept, h]

theorem slotKept_erase {i j : KeyId} (h : i ≠ j) (d : DiceState) :
    SlotKept i d { d with keyVault := d.keyVault.erase j } := by
  simp [SlotKept, h]

theorem slotKept_modifyCert (i : KeyId) (d : DiceState) (alg : DiceAlg)
    (f : CertRecord → CertRecord) : SlotKept i d (d.modifyCert alg f) := by
  simp [SlotKept]

theorem deriveKeyPair_keeps_slot {i cdi eccPrivKey mldsaKeypairSeed : KeyId}
    (htmp : i ≠ k.keyIdTmp) (hpriv : i ≠ eccPrivKey) (hseed : i ≠ mldsaKeypairSeed) :
    DiceM.Keeps (SlotKept i) (deriveKeyPair k hw cdi eccPrivKey mldsaKeypairSeed) :=
  deriveKeyPair_keeps (ecc384KeyGen_keeps (slotKept_write htmp) (slotKept_write hpriv)
    (slotKept_erase htmp)) (slotKept_write hseed)

/-- **The layer touches its own slots only.**  Whatever way `derive` ends, every key vault slot
other than the CDI, `KEY_ID_TMP`, the two FMC alias key slots and the two authority key slots
holds what it held before. -/
theorem derive_keeps_other_slots (i : KeyId)
    (hi : i ∉ [k.keyIdRomFmcCdi, k.keyIdTmp, k.keyIdFmcEcdsaPrivKey, k.keyIdFmcMldsaKeypairSeed,
      input.eccAuthPrivKey, input.mldsaAuthKeyPairSeed]) (d : DiceState) :
    (DiceM.stateOf (derive k hw rom input info validity d)).keyVault.slot i =
      d.keyVault.slot i := by
  simp only [List.mem_cons, List.not_mem_nil, or_false, not_or] at hi
  obtain ⟨hcdi, htmp, hpriv, hseed, hecc, hmldsa⟩ := hi
  exact derive_keeps_of_slots (slotKept_write hcdi) (deriveKeyPair_keeps_slot htmp hpriv hseed)
    (slotKept_erase hecc) (slotKept_erase hmldsa) (slotKept_modifyCert i) d

theorem derive_keeps_other_slots_sample :
    (0 : KeyId) ∉ [sampleDiceConsts.keyIdRomFmcCdi, sampleDiceConsts.keyIdTmp,
      sampleDiceConsts.keyIdFmcEcdsaPrivKey, sampleDiceConsts.keyIdFmcMldsaKeypairSeed,
      sampleDiceInput.eccAuthPrivKey, sampleDiceInput.mldsaAuthKeyPairSeed] ∧
      (DiceM.stateOf (derive sampleDiceConsts sampleDiceHardware sampleRomState sampleDiceInput
        sampleFwProcInfo sampleValidity sampleDiceState)).keyVault.slot 0 =
        sampleDiceState.keyVault.slot 0 :=
  ⟨by decide, derive_keeps_other_slots 0 (by decide) _⟩

/-! ### Signatures and authority keys -/

/-- The `alg` certificate has a signature exactly when slot `key` is empty. -/
def SignedIffErased (alg : DiceAlg) (key : KeyId) (d : DiceState) : Prop :=
  (d.cert alg).signature.isSome ↔ d.keyVault.slot key = none

instance (alg : DiceAlg) (key : KeyId) (d : DiceState) : Decidable (SignedIffErased alg key d) :=
  inferInstanceAs (Decidable (_ ↔ _))

/-- `P` holds of `d'` if it holds of `d`. -/
def Stays (P : DiceState → Prop) (d d' : DiceState) : Prop := P d → P d'

instance (P : DiceState → Prop) : IsPreorder DiceState (Stays P) where
  refl _ := id
  trans _ _ _ h₁ h₂ := h₂ ∘ h₁

section

variable {alg : DiceAlg} {key : KeyId}

theorem signedIffErased_stays {d d' : DiceState}
    (hc : (d'.cert alg).signature = (d.cert alg).signature)
    (hs : d'.keyVault.slot key = d.keyVault.slot key) : Stays (SignedIffErased alg key) d d' := by
  unfold Stays SignedIffErased
  rw [hc, hs]
  exact id

theorem signedIffErased_write {j : KeyId} (h : key ≠ j) (d : DiceState) (s : KeySlot) :
    Stays (SignedIffErased alg key) d { d with keyVault := d.keyVault.write j s } :=
  signedIffErased_stays (by simp) (by simp [h])

theorem signedIffErased_erase {j : KeyId} (h : key ≠ j) (d : DiceState) :
    Stays (SignedIffErased alg key) d { d with keyVault := d.keyVault.erase j } :=
  signedIffErased_stays (by simp) (by simp [h])

theorem signedIffErased_modifyCert {alg' : DiceAlg} (h : alg ≠ alg') (d : DiceState)
    (f : CertRecord → CertRecord) : Stays (SignedIffErased alg key) d (d.modifyCert alg' f) :=
  signedIffErased_stays (by rw [DiceState.cert_modifyCert_of_ne _ _ _ h]) (by simp)

/-- Storing the TBS leaves the signature alone. -/
theorem signedIffErased_recordTbs (r : Except CaliptraError Unit) (tbs : List UInt8) :
    DiceM.Keeps (Stays (SignedIffErased alg key)) (DiceM.ofExcept r >>= fun _ =>
      modify fun d => d.modifyCert alg fun c => { c with tbs := some tbs }) :=
  (DiceM.keeps_ofExcept r).bind fun _ => DiceM.keeps_modify fun _ =>
    signedIffErased_stays (by simp) (by simp)

end

/-- A certificate's own generation keeps its signature and its authority key in step: the key
is erased and the signature recorded with no step between them that can fail, and neither
happens when signing or erasing fails. -/
theorem generateCertSig_signs_iff_erases {kind : CertSigKind} {authPrivKey : KeyId}
    {authPubKey issuerSn authorityKeyId pubKey subjectSn subjectKeyId : List UInt8}
    (hsign : ∀ data, DiceM.Keeps (Stays (SignedIffErased kind.alg authPrivKey))
      (kind.signAndVerify hw authPrivKey authPubKey data)) :
    DiceM.Keeps (Stays (SignedIffErased kind.alg authPrivKey))
      (generateCertSig k hw rom kind authPrivKey authPubKey issuerSn authorityKeyId pubKey
        subjectSn subjectKeyId info validity) :=
  (DiceM.keeps_ofExcept _).bind fun _ => (DiceM.keeps_ofExcept _).bind fun _ =>
    (DiceM.keeps_ofExcept _).bind fun _ => (hsign _).bind fun _ => by
      intro d hd
      rw [DiceM.bind_run, eraseKey_run]
      rcases hw.eraseKey authPrivKey with e | u
      · exact hd
      · cases u
        dsimp only
        rw [DiceM.bind_run, DiceM.modify_apply]
        exact signedIffErased_recordTbs _ _ _ (by simp [SignedIffErased])

/-- **An authority key is erased exactly when its certificate is signed.**  If, before `derive`,
the `alg` certificate has a signature exactly when its authority key's slot is empty (no
signature, the LDevID key present), then the same holds whatever way `derive` ends: the ROM
never records a signature and keeps the key, and never erases the key without recording the
signature. -/
theorem derive_signs_iff_erases (alg : DiceAlg)
    (hkey : input.authKey alg ∉ [k.keyIdRomFmcCdi, k.keyIdTmp, k.keyIdFmcEcdsaPrivKey,
      k.keyIdFmcMldsaKeypairSeed])
    (hauth : input.eccAuthPrivKey ≠ input.mldsaAuthKeyPairSeed) (d : DiceState)
    (hd : SignedIffErased alg (input.authKey alg) d) :
    SignedIffErased alg (input.authKey alg)
      (DiceM.stateOf (derive k hw rom input info validity d)) := by
  simp only [List.mem_cons, List.not_mem_nil, or_false, not_or] at hkey
  obtain ⟨hcdi, htmp, hpriv, hseed⟩ := hkey
  have hkeys : DiceM.Keeps (Stays (SignedIffErased alg (input.authKey alg)))
      (deriveKeyPair k hw k.keyIdRomFmcCdi k.keyIdFmcEcdsaPrivKey k.keyIdFmcMldsaKeypairSeed) :=
    deriveKeyPair_keeps (ecc384KeyGen_keeps (signedIffErased_write htmp)
      (signedIffErased_write hpriv) (signedIffErased_erase htmp)) (signedIffErased_write hseed)
  cases alg
  · exact derive_keeps (hmacKdf_keeps (signedIffErased_write hcdi)) hkeys
      (fun _ => generateCertSig_signs_iff_erases fun _ => signAndVerify_keeps _ (.inl rfl) _ _ _)
      (fun _ => generateCertSig_keeps (fun _ => signAndVerify_keeps _ (.inr rfl) _ _ _)
        (signedIffErased_erase hauth) (signedIffErased_modifyCert (by decide))) d hd
  · exact derive_keeps (hmacKdf_keeps (signedIffErased_write hcdi)) hkeys
      (fun _ => generateCertSig_keeps (fun _ => signAndVerify_keeps _ (.inl rfl) _ _ _)
        (signedIffErased_erase hauth.symm) (signedIffErased_modifyCert (by decide)))
      (fun _ => generateCertSig_signs_iff_erases fun _ => signAndVerify_keeps _ (.inr rfl) _ _ _)
      d hd

theorem derive_signs_iff_erases_sample :
    sampleDiceInput.authKey .ecc ∉ [sampleDiceConsts.keyIdRomFmcCdi, sampleDiceConsts.keyIdTmp,
      sampleDiceConsts.keyIdFmcEcdsaPrivKey, sampleDiceConsts.keyIdFmcMldsaKeypairSeed] ∧
      sampleDiceInput.eccAuthPrivKey ≠ sampleDiceInput.mldsaAuthKeyPairSeed ∧
      SignedIffErased .ecc (sampleDiceInput.authKey .ecc) sampleDiceState ∧
      SignedIffErased .ecc (sampleDiceInput.authKey .ecc) (DiceM.stateOf (derive sampleDiceConsts
        sampleDiceHardware sampleRomState sampleDiceInput sampleFwProcInfo sampleValidity
        sampleDiceState)) :=
  ⟨by decide, by decide, by decide,
    derive_signs_iff_erases .ecc (by decide) (by decide) _ (by decide)⟩

/-! ### Runs that return -/

section

variable {d d' : DiceState} {u : Unit}

theorem signAndVerify_state {kind : CertSigKind} (hkind : kind = eccCertSig ∨ kind = mldsaCertSig)
    {authPrivKey : KeyId} {pubKey data sig : List UInt8}
    (h : kind.signAndVerify hw authPrivKey pubKey data d = .ok sig d') : d' = d := by
  rcases hkind with rfl | rfl
  · exact (ecdsa384SignAndVerify_eq_ok.mp h).1
  · exact (mldsa87SignAndVerify_eq_ok.mp h).1

/-- A certificate generation that returns signed the TBS of its parameters, erased the
authority key, and recorded the signature, the public key and the TBS of its certificate,
leaving the other certificate as it was. -/
theorem generateCertSig_eq_ok {kind : CertSigKind}
    (hkind : kind = eccCertSig ∨ kind = mldsaCertSig) {authPrivKey : KeyId}
    {authPubKey issuerSn authorityKeyId pubKey subjectSn subjectKeyId : List UInt8}
    (h : generateCertSig k hw rom kind authPrivKey authPubKey issuerSn authorityKeyId pubKey
      subjectSn subjectKeyId info validity d = .ok u d') :
    ∃ digest ueid sn tbs sig, fuseInfoDigest k hw rom.dataVault info = .ok digest ∧
      hw.ueid = .ok ueid ∧ kind.certSn hw pubKey = .ok sn ∧
      tbs = kind.tbs hw (tbsParams k hw rom.dataVault kind issuerSn authorityKeyId pubKey
        subjectSn subjectKeyId info validity ueid sn digest) ∧
      kind.signAndVerify hw authPrivKey authPubKey tbs d = .ok sig d ∧
      hw.eraseKey authPrivKey = .ok () ∧ hw.copyTbs kind.alg tbs = .ok () ∧
      d'.keyVault = d.keyVault.erase authPrivKey ∧
      d'.cert kind.alg = ⟨some sig, some pubKey, some tbs⟩ ∧
      ∀ alg, alg ≠ kind.alg → d'.cert alg = d.cert alg := by
  simp only [generateCertSig, DiceM.bind_eq_ok, DiceM.ofExcept_eq_ok, eraseKey_eq_ok,
    DiceM.modify_apply, EStateM.Result.ok.injEq] at h
  obtain ⟨digest, _, ⟨hd, rfl⟩, ueid, _, ⟨hu, rfl⟩, sn, _, ⟨hsn, rfl⟩, sig, d₁, hs, _, _, ⟨he, rfl⟩,
    _, _, ⟨-, rfl⟩, _, _, ⟨hc, rfl⟩, -, rfl⟩ := h
  obtain rfl := signAndVerify_state hkind hs
  refine ⟨digest, ueid, sn, _, sig, hd, hu, hsn, rfl, hs, he, hc, by simp, by simp, fun alg h => ?_⟩
  rw [DiceState.cert_modifyCert_of_ne _ _ _ h, DiceState.cert_modifyCert_of_ne _ _ _ h,
    DiceState.cert_withKeyVault]

theorem deriveKeyPair_eq_ok {cdi eccPrivKey mldsaKeypairSeed : KeyId} {pubE pubM : List UInt8}
    (htmp : cdi ≠ k.keyIdTmp) (hpriv : cdi ≠ eccPrivKey)
    (h : deriveKeyPair k hw cdi eccPrivKey mldsaKeypairSeed d = .ok (pubE, pubM) d') :
    ∃ m seedE privE seedM, d.keyVault.read cdi (·.hmacKey) = .ok m ∧
      hw.hmacKdf m (byteString "alias_fmc_ecc_key") none = .ok seedE ∧
      hw.eccKeyPair seedE = .ok (privE, pubE) ∧ hw.eraseKey k.keyIdTmp = .ok () ∧
      hw.hmacKdf m (byteString "alias_fmc_mldsa_key") none = .ok seedM ∧
      hw.mldsaKeyPair seedM = .ok pubM ∧
      d'.keyVault = (((d.keyVault.write k.keyIdTmp ⟨seedE, kdfOutputUsage⟩).write eccPrivKey
        ⟨privE, eccPrivKeyUsage⟩).erase k.keyIdTmp).write mldsaKeypairSeed
        ⟨seedM, kdfOutputUsage⟩ := by
  obtain ⟨_, d₁, h₁, h⟩ := DiceM.bind_eq_ok.mp h
  obtain ⟨m, seedE, privE, hm, hsE, hk, he, rfl⟩ := ecc384KeyGen_eq_ok h₁
  obtain ⟨_, d₂, h₂, h⟩ := DiceM.bind_eq_ok.mp h
  obtain ⟨m', seedM, hm', hsM, hp, rfl⟩ := mldsaKeyGen_eq_ok h₂
  simp only [DiceM.pure_apply, EStateM.Result.ok.injEq, Prod.mk.injEq] at h
  obtain ⟨⟨rfl, rfl⟩, rfl⟩ := h
  -- the MLDSA seed is derived from the CDI the ECC key generation left in place
  simp only [KeyVault.read_erase_of_ne htmp, KeyVault.read_write_of_ne hpriv,
    KeyVault.read_write_of_ne htmp, hm, Except.ok.injEq] at hm'
  subst hm'
  exact ⟨m, seedE, privE, seedM, hm, hsE, hk, he, hsM, hp, rfl⟩

/-- A run of `derive` that returns is its steps in order, each returning. -/
theorem derive_eq_ok (h : derive k hw rom input info validity d = .ok u d') :
    ∃ d₁ d₂ d₃ pubE pubM snE snM kidE kidM,
      deriveCdi k hw rom.pcr0 k.keyIdRomFmcCdi d = .ok () d₁ ∧
      deriveKeyPair k hw k.keyIdRomFmcCdi k.keyIdFmcEcdsaPrivKey k.keyIdFmcMldsaKeypairSeed d₁ =
        .ok (pubE, pubM) d₂ ∧
      hw.subjSn .ecc pubE = .ok snE ∧ hw.subjSn .mldsa pubM = .ok snM ∧
      hw.subjKeyId .ecc pubE = .ok kidE ∧ hw.subjKeyId .mldsa pubM = .ok kidM ∧
      generateCertSigEcc k hw rom input ⟨k.keyIdFmcEcdsaPrivKey, pubE, snE, kidE,
        k.keyIdFmcMldsaKeypairSeed, pubM, snM, kidM⟩ info validity d₂ = .ok () d₃ ∧
      generateCertSigMldsa k hw rom input ⟨k.keyIdFmcEcdsaPrivKey, pubE, snE, kidE,
        k.keyIdFmcMldsaKeypairSeed, pubM, snM, kidM⟩ info validity d₃ = .ok () d' := by
  obtain ⟨_, d₁, h₁, h⟩ := DiceM.bind_eq_ok.mp h
  obtain ⟨⟨pubE, pubM⟩, d₂, h₂, h⟩ := DiceM.bind_eq_ok.mp h
  simp only [DiceM.bind_eq_ok, DiceM.ofExcept_eq_ok] at h
  obtain ⟨snE, _, ⟨hsnE, rfl⟩, snM, _, ⟨hsnM, rfl⟩, kidE, _, ⟨hkE, rfl⟩, kidM, _, ⟨hkM, rfl⟩,
    _, d₃, h₃, h₄⟩ := h
  exact ⟨d₁, _, d₃, pubE, pubM, snE, snM, kidE, kidM, h₁, h₂, hsnE, hsnM, hkE, hkM, h₃, h₄⟩

/-- **The FMC alias keys come from the CDI mixed with PCR0.**  When `derive` returns, it read
the CDI slot as an HMAC key, mixed it with PCR0 under the label `alias_fmc_cdi`, and wrote the
result back to the CDI slot; the ECC seed (label `alias_fmc_ecc_key`) and the MLDSA seed
(label `alias_fmc_mldsa_key`) are KDFs of that new CDI, the ECC private key is the key pair's
from the seed, and the vault is exactly the old one with these writes, `KEY_ID_TMP` erased, and
the two authority keys erased.  This needs the CDI slot apart from the two slots written
before the MLDSA seed is derived. -/
theorem derive_binds_fmc_keys_to_pcr0 (htmp : k.keyIdRomFmcCdi ≠ k.keyIdTmp)
    (hpriv : k.keyIdRomFmcCdi ≠ k.keyIdFmcEcdsaPrivKey)
    (h : derive k hw rom input info validity d = .ok u d') :
    ∃ cdi₀ cdi seedE privE pubE seedM,
      d.keyVault.read k.keyIdRomFmcCdi (·.hmacKey) = .ok cdi₀ ∧
      hw.hmacKdf cdi₀ (byteString "alias_fmc_cdi") (some (k.digestBytes rom.pcr0)) = .ok cdi ∧
      hw.hmacKdf cdi (byteString "alias_fmc_ecc_key") none = .ok seedE ∧
      hw.eccKeyPair seedE = .ok (privE, pubE) ∧
      hw.hmacKdf cdi (byteString "alias_fmc_mldsa_key") none = .ok seedM ∧
      d'.keyVault = ((((((d.keyVault.write k.keyIdRomFmcCdi ⟨cdi, kdfOutputUsage⟩).write
        k.keyIdTmp ⟨seedE, kdfOutputUsage⟩).write k.keyIdFmcEcdsaPrivKey
        ⟨privE, eccPrivKeyUsage⟩).erase k.keyIdTmp).write k.keyIdFmcMldsaKeypairSeed
        ⟨seedM, kdfOutputUsage⟩).erase input.eccAuthPrivKey).erase input.mldsaAuthKeyPairSeed := by
  obtain ⟨d₁, d₂, d₃, pubE, _, _, _, _, _, h₁, h₂, -, -, -, -, h₃, h₄⟩ := derive_eq_ok h
  obtain ⟨cdi₀, cdi, hc₀, hc, rfl⟩ := hmacKdf_eq_ok.mp h₁
  obtain ⟨m, seedE, privE, seedM, hm, hsE, hk, -, hsM, -, hv₂⟩ := deriveKeyPair_eq_ok htmp hpriv h₂
  -- the key derivations are keyed by the CDI just written
  simp only [KeyVault.read_write_self, kdfOutputUsage_hmacKey, Except.ok.injEq] at hm
  subst hm
  obtain ⟨_, _, _, _, _, -, -, -, -, -, -, -, hv₃, -⟩ := generateCertSig_eq_ok (.inl rfl) h₃
  obtain ⟨_, _, _, _, _, -, -, -, -, -, -, -, hv₄, -⟩ := generateCertSig_eq_ok (.inr rfl) h₄
  refine ⟨cdi₀, cdi, seedE, privE, pubE, seedM, hc₀, hc, hsE, hk, hsM, ?_⟩
  rw [hv₄, hv₃, hv₂]

theorem derive_binds_fmc_keys_to_pcr0_sample :
    sampleDiceConsts.keyIdRomFmcCdi ≠ sampleDiceConsts.keyIdTmp ∧
      sampleDiceConsts.keyIdRomFmcCdi ≠ sampleDiceConsts.keyIdFmcEcdsaPrivKey ∧
      ∃ d', derive sampleDiceConsts sampleDiceHardware sampleRomState sampleDiceInput
        sampleFwProcInfo sampleValidity sampleDiceState = .ok () d' ∧
      ∃ cdi₀ cdi seedE privE pubE seedM,
        sampleDiceState.keyVault.read sampleDiceConsts.keyIdRomFmcCdi (·.hmacKey) = .ok cdi₀ ∧
        sampleDiceHardware.hmacKdf cdi₀ (byteString "alias_fmc_cdi")
          (some (sampleDiceConsts.digestBytes sampleRomState.pcr0)) = .ok cdi ∧
        sampleDiceHardware.hmacKdf cdi (byteString "alias_fmc_ecc_key") none = .ok seedE ∧
        sampleDiceHardware.eccKeyPair seedE = .ok (privE, pubE) ∧
        sampleDiceHardware.hmacKdf cdi (byteString "alias_fmc_mldsa_key") none = .ok seedM ∧
        d'.keyVault = ((((((sampleDiceState.keyVault.write sampleDiceConsts.keyIdRomFmcCdi
          ⟨cdi, kdfOutputUsage⟩).write sampleDiceConsts.keyIdTmp ⟨seedE, kdfOutputUsage⟩).write
          sampleDiceConsts.keyIdFmcEcdsaPrivKey ⟨privE, eccPrivKeyUsage⟩).erase
          sampleDiceConsts.keyIdTmp).write sampleDiceConsts.keyIdFmcMldsaKeypairSeed
          ⟨seedM, kdfOutputUsage⟩).erase sampleDiceInput.eccAuthPrivKey).erase
          sampleDiceInput.mldsaAuthKeyPairSeed := by
  obtain ⟨d', h⟩ : ∃ d', derive sampleDiceConsts sampleDiceHardware sampleRomState
      sampleDiceInput sampleFwProcInfo sampleValidity sampleDiceState = .ok () d' := ⟨_, rfl⟩
  exact ⟨by decide, by decide, d', h, derive_binds_fmc_keys_to_pcr0 (by decide) (by decide) h⟩

/-- **The FMC alias certificates attest the image the cold reset verified.**  When `process`
has loaded the firmware and `derive` then returns on the state it left, both certificates'
TBS carry as TCI the digest of the FMC of the manifest `process` loaded and verified, as SVN
that manifest's SVN (the ECC one through the cold-boot SVN of the data vault, the MLDSA one
through the current SVN, both set from the manifest), and the effective fuse SVN. -/
theorem coldReset_fmcAliasCerts_attest_image {c : RomConsts} {rhw : RomHardware}
    {reqs : List MailboxRequest} {s s' : RomState}
    (hp : FirmwareProcessor.process c rhw reqs s = .ok (some info) s')
    (hd : derive k hw s' input info validity d = .ok u d') :
    ∃ pE pM, d'.eccCert.tbs = some (hw.tbsEcc pE) ∧ d'.mldsaCert.tbs = some (hw.tbsMldsa pM) ∧
      pE.tcbInfoFmcTci = k.digestBytes s'.manifest1.fmc.digest ∧
      pM.tcbInfoFmcTci = k.digestBytes s'.manifest1.fmc.digest ∧
      pE.tcbInfoFwSvn = [s'.manifest1.header.svn.toUInt8] ∧
      pM.tcbInfoFwSvn = [s'.manifest1.header.svn.toUInt8] ∧
      pE.tcbInfoFwSvnFuses = [info.effectiveFuseSvn.toUInt8] ∧
      pM.tcbInfoFwSvnFuses = [info.effectiveFuseSvn.toUInt8] := by
  obtain ⟨_, _, s₁, vinfo, -, -, hcb⟩ := FirmwareProcessor.process_eq_ok_some hp
  have hv := verify_verifiedManifest hcb.verified
  obtain ⟨_, _, d₃, _, _, _, _, _, _, -, -, -, -, -, -, h₃, h₄⟩ := derive_eq_ok hd
  obtain ⟨_, _, _, _, _, -, -, -, rfl, -, -, -, -, hcE, -⟩ := generateCertSig_eq_ok (.inl rfl) h₃
  obtain ⟨_, _, _, _, _, -, -, -, rfl, -, -, -, -, hcM, hoM⟩ := generateCertSig_eq_ok (.inr rfl) h₄
  have hE : d'.eccCert = d₃.eccCert := hoM .ecc (by decide)
  refine ⟨_, _, by rw [hE]; exact congrArg CertRecord.tbs hcE, congrArg CertRecord.tbs hcM, ?_⟩
  simp [tbsParams, eccCertSig, mldsaCertSig, hcb.dataVault, FirmwareProcessor.populatedDataVault,
    hv.fmc, hv.fwSvn, ImageTocEntry.exeInfo]

theorem coldReset_fmcAliasCerts_attest_image_sample :
    ∃ r s' d', FirmwareProcessor.process sampleRomConsts sampleHardware [sampleDownload]
        sampleRomState = .ok (some r) s' ∧
      derive sampleDiceConsts sampleDiceHardware s' sampleDiceInput r sampleValidity
        sampleDiceState = .ok () d' ∧
      ∃ pE pM, d'.eccCert.tbs = some (sampleDiceHardware.tbsEcc pE) ∧
        d'.mldsaCert.tbs = some (sampleDiceHardware.tbsMldsa pM) ∧
        pE.tcbInfoFmcTci = sampleDiceConsts.digestBytes s'.manifest1.fmc.digest ∧
        pM.tcbInfoFmcTci = sampleDiceConsts.digestBytes s'.manifest1.fmc.digest ∧
        pE.tcbInfoFwSvn = [s'.manifest1.header.svn.toUInt8] ∧
        pM.tcbInfoFwSvn = [s'.manifest1.header.svn.toUInt8] ∧
        pE.tcbInfoFwSvnFuses = [r.effectiveFuseSvn.toUInt8] ∧
        pM.tcbInfoFwSvnFuses = [r.effectiveFuseSvn.toUInt8] := by
  obtain ⟨r, s', hp⟩ : ∃ r s', FirmwareProcessor.process sampleRomConsts sampleHardware
      [sampleDownload] sampleRomState = .ok (some r) s' := ⟨_, _, rfl⟩
  obtain ⟨d', hd⟩ : ∃ d', derive sampleDiceConsts sampleDiceHardware s' sampleDiceInput r
      sampleValidity sampleDiceState = .ok () d' := ⟨_, rfl⟩
  exact ⟨r, s', d', hp, hd, coldReset_fmcAliasCerts_attest_image hp hd⟩

/-- **The FMC alias certificates are signed by the LDevID keys.**  When `derive` returns, the
ECC certificate's signature is the ECDSA signature, with the key the ECC authority slot held
before `derive`, of the SHA-384 digest of the TBS it recorded, and the MLDSA certificate's is
the MLDSA signature, seeded from what the MLDSA authority slot held before, of the SHA-512
digest of its TBS.  This needs each authority slot apart from the slots written before it is
read. -/
theorem derive_signs_certs_with_ldevid_keys
    (hecc : input.eccAuthPrivKey ∉ [k.keyIdRomFmcCdi, k.keyIdTmp, k.keyIdFmcEcdsaPrivKey,
      k.keyIdFmcMldsaKeypairSeed])
    (hmldsa : input.mldsaAuthKeyPairSeed ∉ [k.keyIdRomFmcCdi, k.keyIdTmp, k.keyIdFmcEcdsaPrivKey,
      k.keyIdFmcMldsaKeypairSeed, input.eccAuthPrivKey])
    (h : derive k hw rom input info validity d = .ok u d') :
    ∃ tbsE sigE digestE keyE tbsM sigM digestM seedM,
      d'.eccCert.tbs = some tbsE ∧ d'.eccCert.signature = some sigE ∧
      hw.sha384 tbsE = .ok digestE ∧
      d.keyVault.read input.eccAuthPrivKey (·.eccPrivateKey) = .ok keyE ∧
      hw.eccSign keyE input.eccAuthPubKey digestE = .ok sigE ∧
      d'.mldsaCert.tbs = some tbsM ∧ d'.mldsaCert.signature = some sigM ∧
      hw.sha512 tbsM = .ok digestM ∧
      d.keyVault.read input.mldsaAuthKeyPairSeed (·.mldsaKeyGenSeed) = .ok seedM ∧
      hw.mldsaSign seedM input.mldsaAuthPubKey digestM = .ok sigM := by
  simp only [List.mem_cons, List.not_mem_nil, or_false, not_or] at hecc hmldsa
  obtain ⟨hcdi, htmp, hpriv, hseed⟩ := hecc
  obtain ⟨hcdi', htmp', hpriv', hseed', hauth⟩ := hmldsa
  obtain ⟨d₁, d₂, d₃, _, _, _, _, _, _, h₁, h₂, -, -, -, -, h₃, h₄⟩ := derive_eq_ok h
  obtain ⟨_, _, _, tbsE, sigE, -, -, -, -, hsE, -, -, hv₃, hcE, -⟩ :=
    generateCertSig_eq_ok (.inl rfl) h₃
  obtain ⟨_, _, _, tbsM, sigM, -, -, -, -, hsM, -, -, -, hcM, hoM⟩ :=
    generateCertSig_eq_ok (.inr rfl) h₄
  obtain ⟨-, digestE, keyE, hdE, hkE, hsigE⟩ := ecdsa384SignAndVerify_eq_ok.mp hsE
  obtain ⟨-, digestM, seedM, hdM, hkM, hsigM⟩ := mldsa87SignAndVerify_eq_ok.mp hsM
  -- each authority slot is read as it was before `derive`
  have hslotE : d₂.keyVault.slot input.eccAuthPrivKey = d.keyVault.slot input.eccAuthPrivKey :=
    ((deriveKeyPair_keeps_slot htmp hpriv hseed).of_eq_ok h₂).trans
      ((hmacKdf_keeps (slotKept_write hcdi)).of_eq_ok h₁)
  have hslotM : d₃.keyVault.slot input.mldsaAuthKeyPairSeed =
      d.keyVault.slot input.mldsaAuthKeyPairSeed := by
    rw [hv₃, KeyVault.erase_slot, if_neg hauth]
    exact ((deriveKeyPair_keeps_slot htmp' hpriv' hseed').of_eq_ok h₂).trans
      ((hmacKdf_keeps (slotKept_write hcdi')).of_eq_ok h₁)
  have hE : d'.eccCert = d₃.eccCert := hoM .ecc (by decide)
  refine ⟨tbsE, sigE, digestE, keyE, tbsM, sigM, digestM, seedM,
    by rw [hE]; exact congrArg CertRecord.tbs hcE,
    by rw [hE]; exact congrArg CertRecord.signature hcE,
    hdE, (KeyVault.read_of_slot hslotE).symm.trans hkE, hsigE, congrArg CertRecord.tbs hcM,
    congrArg CertRecord.signature hcM, hdM, (KeyVault.read_of_slot hslotM).symm.trans hkM, hsigM⟩

theorem derive_signs_certs_with_ldevid_keys_sample :
    sampleDiceInput.eccAuthPrivKey ∉ [sampleDiceConsts.keyIdRomFmcCdi, sampleDiceConsts.keyIdTmp,
      sampleDiceConsts.keyIdFmcEcdsaPrivKey, sampleDiceConsts.keyIdFmcMldsaKeypairSeed] ∧
      sampleDiceInput.mldsaAuthKeyPairSeed ∉ [sampleDiceConsts.keyIdRomFmcCdi,
        sampleDiceConsts.keyIdTmp, sampleDiceConsts.keyIdFmcEcdsaPrivKey,
        sampleDiceConsts.keyIdFmcMldsaKeypairSeed, sampleDiceInput.eccAuthPrivKey] ∧
      ∃ d', derive sampleDiceConsts sampleDiceHardware sampleRomState sampleDiceInput
        sampleFwProcInfo sampleValidity sampleDiceState = .ok () d' ∧
      ∃ tbsE sigE digestE keyE tbsM sigM digestM seedM,
        d'.eccCert.tbs = some tbsE ∧ d'.eccCert.signature = some sigE ∧
        sampleDiceHardware.sha384 tbsE = .ok digestE ∧
        sampleDiceState.keyVault.read sampleDiceInput.eccAuthPrivKey (·.eccPrivateKey) = .ok keyE ∧
        sampleDiceHardware.eccSign keyE sampleDiceInput.eccAuthPubKey digestE = .ok sigE ∧
        d'.mldsaCert.tbs = some tbsM ∧ d'.mldsaCert.signature = some sigM ∧
        sampleDiceHardware.sha512 tbsM = .ok digestM ∧
        sampleDiceState.keyVault.read sampleDiceInput.mldsaAuthKeyPairSeed (·.mldsaKeyGenSeed) =
          .ok seedM ∧
        sampleDiceHardware.mldsaSign seedM sampleDiceInput.mldsaAuthPubKey digestM = .ok sigM := by
  obtain ⟨d', h⟩ : ∃ d', derive sampleDiceConsts sampleDiceHardware sampleRomState
      sampleDiceInput sampleFwProcInfo sampleValidity sampleDiceState = .ok () d' := ⟨_, rfl⟩
  exact ⟨by decide, by decide, d', h,
    derive_signs_certs_with_ldevid_keys (by decide) (by decide) h⟩

end

end FmcAliasLayer

end Caliptra
