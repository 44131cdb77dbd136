/-
What an accepted bundle carries: the chain of trust over the image bytes, and the key-index
gate.

`verify_eq_ok` lists the checks that pass when `verify` returns `ok`.  Here they are read
against the bytes the digests cover.  The environment is any one whose digest engines hash
`image[offset..][..len]` and cannot succeed when those bytes are not there (`HashesImage`);
the fake ROM's is one.  An accepted manifest then has vendor signatures over the header up to
`owner_data`, owner signatures over the whole header, its TOC hashed into the header and both
images hashed into the TOC (`ChainOfTrust`).

The key-index gate compares an index with `key_hash_count as u32 - 1`.  The descriptor checks
keep the count non-zero, and then the gate is what it says (`KeyIndexGate`).  The unprovisioned
lifecycle skips those checks, and for a zero count the subtraction wraps to `u32::MAX`, so
every index passes the bound there.
-/
import CaliptraRom.Proofs.Verifier.Phases

namespace Caliptra

/-! ### Environments that hash the image -/

/-- The digest engines hash `image[offset..][..len]` with `sha384` and `sha512`, and cannot
succeed when those bytes are not all in the image. -/
structure HashesImage (env : ImageVerificationEnv) (image : List UInt8)
    (sha384 : List UInt8 → ImageDigest384) (sha512 : List UInt8 → ImageDigest512) : Prop where
  sha384Digest : ∀ {o l d}, env.sha384Digest o l = .ok d →
    (imageSlice image o l).map sha384 = some d
  sha512Digest : ∀ {o l d}, env.sha512Digest o l = .ok d →
    (imageSlice image o l).map sha512 = some d

/-- The fake ROM's environment hashes its image, with any hash functions that agree with its
engines wherever those succeed. -/
theorem FakeRomImageVerificationEnv.hashesImage {c : ImageConsts} {f : FakeRomImageVerificationEnv}
    {sha384 : List UInt8 → ImageDigest384} {sha512 : List UInt8 → ImageDigest512}
    (h384 : ∀ data d, f.sha384 data = .ok d → sha384 data = d)
    (h512 : ∀ data d, f.sha512 data = .ok d → sha512 data = d) :
    HashesImage (f.toEnv c) f.image sha384 sha512 where
  sha384Digest {o l d} := by
    simp only [FakeRomImageVerificationEnv.toEnv]
    cases imageSlice f.image o l with
    | none => simp
    | some data => simpa using h384 data d
  sha512Digest {o l d} := by
    simp only [FakeRomImageVerificationEnv.toEnv]
    cases imageSlice f.image o l with
    | none => simp
    | some data => simpa using h512 data d

/-! ### The chain of trust -/

section

variable (c : ImageConsts) (env : ImageVerificationEnv)
  (sha384 : List UInt8 → ImageDigest384) (sha512 : List UInt8 → ImageDigest512)

/-- The PQC signature of family `t` is valid over `data`: `lms_verify` over its SHA-384 digest
returns the key's digest, or `mldsa87_verify` over its SHA-512 digest returns `Success`. -/
def PqcSigValid : FwVerificationPqcKeyType → ImagePqcPubKey → ImagePqcSignature →
    List UInt8 → Prop
  | .lms, pubKey, sig, data => env.lmsVerify (sha384 data) pubKey sig = .ok (c.lmsPubKeyDigest pubKey)
  | .mldsa, pubKey, sig, data => env.mldsa87Verify (sha512 data) pubKey sig = .ok .success

/-- One signer's ECC and PQC signatures over `data`. -/
structure SignedBy (t : FwVerificationPqcKeyType) (eccKey : ImageEccPubKey)
    (eccSig : ImageEccSignature) (pqcKey : ImagePqcPubKey) (pqcSig : ImagePqcSignature)
    (data : List UInt8) : Prop where
  ecc : env.ecc384Verify (sha384 data) eccKey eccSig = .ok eccSig.r
  pqc : PqcSigValid c env sha384 sha512 t pqcKey pqcSig data

/-- The chain of trust of an accepted manifest over the image bytes: header, TOC, images. -/
structure ChainOfTrust (image : List UInt8) (m : ImageManifest) (info : ImageVerificationInfo) :
    Prop where
  /-- The family the signatures are checked in is the manifest's and the fuses'. -/
  pqcKeyType : FwVerificationPqcKeyType.fromU8 c m.pqcKeyType = some info.pqcKeyType ∧
    env.pqcKeyTypeFuse = .ok info.pqcKeyType
  /-- The vendor signed the header up to `owner_data`. -/
  vendorSigned : ∃ data, imageSlice image c.headerRange.start c.vendorHeaderLen = some data ∧
    SignedBy c env sha384 sha512 info.pqcKeyType m.preamble.vendorEccActivePubKey
      m.preamble.vendorSigs.eccSig m.preamble.vendorPqcActivePubKey m.preamble.vendorSigs.pqcSig data
  /-- The owner signed the whole header. -/
  ownerSigned : ∃ data, imageSlice image c.headerRange.start c.headerRange.len = some data ∧
    SignedBy c env sha384 sha512 info.pqcKeyType m.preamble.ownerPubKeys.eccPubKey
      m.preamble.ownerSigs.eccSig m.preamble.ownerPubKeys.pqcPubKey m.preamble.ownerSigs.pqcSig data
  tocLen : m.header.tocLen = maxTocEntryCount
  tocDigest : (imageSlice image c.tocRange.start c.tocRange.len).map sha384 = some m.header.tocDigest
  fmcDigest : (imageSlice image m.fmc.offset m.fmc.size).map sha384 = some m.fmc.digest
  runtimeDigest : (imageSlice image m.runtime.offset m.runtime.size).map sha384 =
    some m.runtime.digest
  /-- The digests the verifier reports are the TOC's. -/
  fmcInfo : info.fmc.digest = m.fmc.digest
  runtimeInfo : info.runtime.digest = m.runtime.digest

end

section

variable {c : ImageConsts} {env : ImageVerificationEnv} {image : List UInt8}
  {sha384 : List UInt8 → ImageDigest384} {sha512 : List UInt8 → ImageDigest512}

/-- The SHA-512 header digests are those of the header bytes. -/
theorem HashesImage.of_headerDigests512 (hash : HashesImage env image sha384 sha512)
    {info : PqcKeyInfo} {v o : Option ImageDigest512}
    (h : headerDigests512 c env info = .ok (v, o)) :
    (∀ d, v = some d → (imageSlice image c.headerRange.start c.vendorHeaderLen).map sha512 = some d) ∧
    (∀ d, o = some d → (imageSlice image c.headerRange.start c.headerRange.len).map sha512 = some d) := by
  cases info with
  | lms =>
    obtain ⟨rfl, rfl⟩ := headerDigests512_eq_ok.mp h
    simp
  | mldsa =>
    obtain ⟨v', o', hv, ho, rfl, rfl⟩ := headerDigests512_eq_ok.mp h
    simp only [Option.some.injEq, forall_eq']
    exact ⟨hash.sha512Digest hv, hash.sha512Digest ho⟩

/-- A signer whose checks passed over the digests of some image bytes signed those bytes. -/
theorem HashesImage.signedBy (hash : HashesImage env image sha384 sha512) {o l : UInt32}
    {d384 : ImageDigest384} {d512 : Option ImageDigest512} {t : FwVerificationPqcKeyType}
    {eccKey : ImageEccPubKey} {eccSig : ImageEccSignature} {pqcKey : ImagePqcPubKey}
    {pqcSig : ImagePqcSignature} (h384 : env.sha384Digest o l = .ok d384)
    (h512 : ∀ d, d512 = some d → (imageSlice image o l).map sha512 = some d)
    (ecc : EccSigAccepted env d384 eccKey eccSig)
    (pqc : PqcSigAccepted c env (.ofKeyType t pqcKey pqcSig) d384 d512) :
    ∃ data, imageSlice image o l = some data ∧
      SignedBy c env sha384 sha512 t eccKey eccSig pqcKey pqcSig data := by
  obtain ⟨data, hs, rfl⟩ := Option.map_eq_some'.mp (hash.sha384Digest h384)
  refine ⟨data, hs, ecc.verified, ?_⟩
  cases t with
  | lms => exact pqc
  | mldsa =>
    obtain ⟨d, hd, hv⟩ := pqc
    have hd' : sha512 data = d := by simpa [hs] using h512 d hd
    show env.mldsa87Verify (sha512 data) pqcKey pqcSig = .ok .success
    rwa [hd']

/-- **Chain-of-trust soundness.** Over an environment that hashes the image, an accepted
manifest is signed by the vendor and the owner, and its TOC and images are the bytes the
signed header commits to. -/
theorem verify_chainOfTrust {m : ImageManifest} {sz : UInt32} {r : ResetReason}
    {info : ImageVerificationInfo} (hash : HashesImage env image sha384 sha512)
    (accepted : verify c env m sz r = .ok info) : ChainOfTrust c env sha384 sha512 image m info := by
  obtain ⟨t, hi, -, -, ht, hf, hp, hh, hto, hfe, -, hre, -, rfl⟩ := verify_eq_ok.mp accepted
  obtain ⟨-, -, -, d, b, -, rfl⟩ := verifyPreamble_eq_ok.mp hp
  obtain ⟨v384, o384, v512, o512, hv, ho, h5, sigs, -⟩ := verifyHeader_eq_ok.mp hh
  obtain ⟨h5v, h5o⟩ := hash.of_headerDigests512 h5
  exact {
    pqcKeyType := ⟨ht, hf⟩
    vendorSigned := hash.signedBy hv h5v sigs.vendorEcc sigs.vendorPqc
    ownerSigned := hash.signedBy ho h5o sigs.ownerEcc sigs.ownerPqc
    tocLen := hto.len
    tocDigest := hash.sha384Digest hto.digest
    fmcDigest := hash.sha384Digest hfe.digest
    runtimeDigest := hash.sha384Digest hre.digest
    fmcInfo := rfl
    runtimeInfo := rfl }

end

/-! ### A bundle the fake ROM accepts -/

/-- A small layout to run the verifier on; the real one is the image types crate's. -/
def sampleConsts : ImageConsts where
  manifestMarker := 0x4E414D43
  manifestSize := 16
  lmsKeyType := 1
  mldsaKeyType := 3
  keyType_ne := by decide
  keyDescriptorVersion := 1
  vendorEccMaxKeyCount := 4
  vendorLmsMaxKeyCount := 32
  vendorMldsaMaxKeyCount := 4
  maxFirmwareSvn := 128
  eccRevocationFlags := 0xF
  vendorPubKeyDescriptorsRange := ⟨0, 4⟩
  ownerPubKeyRange := ⟨4, 8⟩
  headerRange := ⟨8, 12⟩
  tocRange := ⟨12, 16⟩
  vendorHeaderLen := 2
  vendorEccActivePubKeyRange := ⟨0, 2⟩
  vendorPqcActivePubKeyStart := 2
  lmsPubKeyByteSize := 2
  mldsa87PubKeyByteSize := 2
  lmsPubKeyDigest := fun _ => Mathlib.Vector.replicate 6 0

/-- The digest the sample's SHA-384 engine returns for every input. -/
def sampleDigest : ImageDigest384 := Mathlib.Vector.replicate 12 1

/-- A 32-byte bundle under the fake ROM with its mock signature engines, in `lifecycle`, with
fuses and data vault holding the sample's values. -/
def sampleFakeRom (lifecycle : Lifecycle) : FakeRomImageVerificationEnv where
  image := List.replicate 32 0
  sha384 := fun _ => .ok sampleDigest
  sha512 := fun _ => .ok (Mathlib.Vector.replicate 16 1)
  verifyInFakeMode := false
  base := {
    sha384Digest := fun _ _ => .error .driverError
    sha512Digest := fun _ _ => .error .driverError
    ecc384Verify := fun _ _ _ => .error .driverError
    lmsVerify := fun _ _ _ => .error .driverError
    mldsa87Verify := fun _ _ _ => .error .driverError
    vendorPubKeyInfoDigestFuses := sampleDigest
    vendorEccPubKeyRevocation := ⟨0⟩
    vendorLmsPubKeyRevocation := 0
    vendorMldsaPubKeyRevocation := 0
    ownerPubKeyDigestFuses := zeroDigest
    antiRollbackDisable := false
    devLifecycle := lifecycle
    vendorEccPubKeyIdxDv := 0
    vendorPqcPubKeyIdxDv := 0
    ownerPubKeyDigestDv := sampleDigest
    getFmcDigestDv := sampleDigest
    fwFuseSvn := 0
    iccmRange := ⟨0x40000000, 0x40020000⟩
    pqcKeyTypeFuse := .ok .lms }

/-- The sample's verification environment. -/
def sampleEnv (lifecycle : Lifecycle) : ImageVerificationEnv :=
  (sampleFakeRom lifecycle).toEnv sampleConsts

/-- A manifest for the sample layout whose descriptors declare `keyHashCount` keys, with the
ECC key `eccIdx` selected. -/
def sampleManifest (keyHashCount : UInt8) (eccIdx : UInt32) : ImageManifest where
  marker := 0x4E414D43
  size := 16
  pqcKeyType := 1
  preamble := {
    vendorPubKeyInfo := ⟨⟨1, keyHashCount, .replicate 4 sampleDigest⟩,
      ⟨1, 1, keyHashCount, .replicate 32 sampleDigest⟩⟩
    vendorEccPubKeyIdx := eccIdx
    vendorEccActivePubKey := ⟨sampleDigest, sampleDigest⟩
    vendorPqcPubKeyIdx := 0
    vendorPqcActivePubKey := []
    vendorSigs := ⟨⟨sampleDigest, sampleDigest⟩, []⟩
    ownerPubKeys := ⟨⟨sampleDigest, sampleDigest⟩, []⟩
    ownerSigs := ⟨⟨sampleDigest, sampleDigest⟩, []⟩ }
  header := ⟨eccIdx, 0, 0, 2, sampleDigest⟩
  fmc := ⟨sampleDigest, 0x40000000, 0x40000000, 8, 16⟩
  runtime := ⟨sampleDigest, 0x40000100, 0x40000100, 8, 24⟩

/-- What `verify` returns for the sample with the first ECC key selected. -/
def sampleInfo (lifecycle : Lifecycle) (keyHashCount : UInt8) : ImageVerificationInfo :=
  verifiedInfo (sampleEnv lifecycle) (sampleManifest keyHashCount 0) .lms
    (preambleInfo (sampleEnv lifecycle) (sampleManifest keyHashCount 0).preamble .lms sampleDigest
      false)

/-- The sample's engines hash the image with constant functions. -/
theorem sampleEnv_hashesImage (lifecycle : Lifecycle) :
    HashesImage (sampleEnv lifecycle) (List.replicate 32 0) (fun _ => sampleDigest)
      (fun _ => Mathlib.Vector.replicate 16 1) :=
  FakeRomImageVerificationEnv.hashesImage (fun _ _ h => Except.ok.inj h)
    (fun _ _ h => Except.ok.inj h)

/-- `verify` accepts the sample with one key per descriptor on a manufacturing device. -/
theorem verify_sampleManifest :
    verify sampleConsts (sampleEnv .manufacturing) (sampleManifest 1 0) 32 .coldReset =
      .ok (sampleInfo .manufacturing 1) :=
  rfl

theorem verify_chainOfTrust_sample :
    HashesImage (sampleEnv .manufacturing) (List.replicate 32 0) (fun _ => sampleDigest)
      (fun _ => Mathlib.Vector.replicate 16 1) ∧
    verify sampleConsts (sampleEnv .manufacturing) (sampleManifest 1 0) 32 .coldReset =
      .ok (sampleInfo .manufacturing 1) ∧
    ChainOfTrust sampleConsts (sampleEnv .manufacturing) (fun _ => sampleDigest)
      (fun _ => Mathlib.Vector.replicate 16 1) (List.replicate 32 0) (sampleManifest 1 0)
      (sampleInfo .manufacturing 1) :=
  ⟨sampleEnv_hashesImage _, verify_sampleManifest,
    verify_chainOfTrust (sampleEnv_hashesImage _) verify_sampleManifest⟩

/-! ### The key-index gate -/

/-- The key-index gate, stated over exact integers: in bounds, not revoked below the last
index, and the indices the header declares. -/
structure KeyIndexGate (env : ImageVerificationEnv) (m : ImageManifest)
    (info : ImageVerificationInfo) : Prop where
  eccInBounds : info.vendorEccPubKeyIdx.toNat <
    m.preamble.vendorPubKeyInfo.eccKeyDescriptor.keyHashCount.toNat
  pqcInBounds : info.vendorPqcPubKeyIdx.toNat <
    m.preamble.vendorPubKeyInfo.pqcKeyDescriptor.keyHashCount.toNat
  eccNotRevoked : info.vendorEccPubKeyIdx.toNat + 1 <
      m.preamble.vendorPubKeyInfo.eccKeyDescriptor.keyHashCount.toNat →
    ¬env.vendorEccPubKeyRevocation.bits.toNat.testBit info.vendorEccPubKeyIdx.toNat
  pqcNotRevoked : info.vendorPqcPubKeyIdx.toNat + 1 <
      m.preamble.vendorPubKeyInfo.pqcKeyDescriptor.keyHashCount.toNat →
    ¬(pqcKeyRevocation env info.pqcKeyType).toNat.testBit info.vendorPqcPubKeyIdx.toNat
  eccIdx : info.vendorEccPubKeyIdx = m.preamble.vendorEccPubKeyIdx
  pqcIdx : info.vendorPqcPubKeyIdx = m.preamble.vendorPqcPubKeyIdx
  headerEccIdx : m.header.vendorEccPubKeyIdx = m.preamble.vendorEccPubKeyIdx
  headerPqcIdx : m.header.vendorPqcPubKeyIdx = m.preamble.vendorPqcPubKeyIdx

section

variable {c : ImageConsts} {env : ImageVerificationEnv} {m : ImageManifest} {sz : UInt32}
  {r : ResetReason} {info : ImageVerificationInfo}

/-- In a provisioned lifecycle the descriptors an accepted manifest carries hold keys. -/
theorem verify_keyHashCount_ne_zero (accepted : verify c env m sz r = .ok info)
    (hprov : env.devLifecycle ≠ .unprovisioned) :
    m.preamble.vendorPubKeyInfo.eccKeyDescriptor.keyHashCount ≠ 0 ∧
      m.preamble.vendorPubKeyInfo.pqcKeyDescriptor.keyHashCount ≠ 0 := by
  obtain ⟨t, hi, -, -, -, -, hp, -⟩ := verify_eq_ok.mp accepted
  obtain ⟨hv | hv, -⟩ := verifyPreamble_eq_ok.mp hp
  · exact absurd hv hprov
  · exact ⟨hv.descriptors.eccCountPos, hv.descriptors.pqcCountPos⟩

/-- **The key-index gate holds where the counts are checked**: an accepted manifest, in a
provisioned lifecycle or with keys in both descriptors, selected in-bounds, unrevoked keys
and declared them in its header. -/
theorem verify_keyIndexGate (accepted : verify c env m sz r = .ok info)
    (counts : env.devLifecycle ≠ .unprovisioned ∨
      (m.preamble.vendorPubKeyInfo.eccKeyDescriptor.keyHashCount ≠ 0 ∧
        m.preamble.vendorPubKeyInfo.pqcKeyDescriptor.keyHashCount ≠ 0)) :
    KeyIndexGate env m info := by
  have hcount := counts.elim (verify_keyHashCount_ne_zero accepted) id
  obtain ⟨t, hi, -, -, -, -, hp, hh, -, -, -, -, -, rfl⟩ := verify_eq_ok.mp accepted
  obtain ⟨-, he, hq, d, b, -, rfl⟩ := verifyPreamble_eq_ok.mp hp
  obtain ⟨_, _, _, _, -, -, -, sigs, -⟩ := verifyHeader_eq_ok.mp hh
  exact {
    eccInBounds := (not_gt_lastKeyIdx_iff hcount.1).mp he.inBounds
    pqcInBounds := (not_gt_lastKeyIdx_iff hcount.2).mp hq.inBounds
    eccNotRevoked := fun hlt hbit => Bool.false_ne_true <|
      (he.notRevoked ((ne_lastKeyIdx_iff (Nat.lt_of_succ_lt hlt)).mpr hlt)).symm.trans
        (VendorEccPubKeyRevocation.contains_of_testBit hbit)
    pqcNotRevoked := fun hlt hbit =>
      UInt32.and_one_shiftLeft_ne_zero hbit (hq.notRevoked ((ne_lastKeyIdx_iff (Nat.lt_of_succ_lt hlt)).mpr hlt))
    eccIdx := rfl
    pqcIdx := rfl
    headerEccIdx := sigs.eccIdx
    headerPqcIdx := sigs.pqcIdx }

end

theorem verify_keyIndexGate_sample :
    verify sampleConsts (sampleEnv .manufacturing) (sampleManifest 1 0) 32 .coldReset =
      .ok (sampleInfo .manufacturing 1) ∧
    KeyIndexGate (sampleEnv .manufacturing) (sampleManifest 1 0) (sampleInfo .manufacturing 1) :=
  ⟨verify_sampleManifest, verify_keyIndexGate verify_sampleManifest (.inl (by decide))⟩

/-- Unprovisioned, descriptors that declare no key are accepted, and the index `0` they
select is not below the count `0`: `0 as u32 - 1` wraps to `u32::MAX`. -/
theorem verify_accepts_idx_of_zero_keyHashCount :
    verify sampleConsts (sampleEnv .unprovisioned) (sampleManifest 0 0) 32 .coldReset =
      .ok (sampleInfo .unprovisioned 0) ∧
    ¬(sampleInfo .unprovisioned 0).vendorEccPubKeyIdx.toNat <
      (sampleManifest 0 0).preamble.vendorPubKeyInfo.eccKeyDescriptor.keyHashCount.toNat ∧
    ¬(sampleInfo .unprovisioned 0).vendorPqcPubKeyIdx.toNat <
      (sampleManifest 0 0).preamble.vendorPubKeyInfo.pqcKeyDescriptor.keyHashCount.toNat :=
  ⟨rfl, by decide, by decide⟩

end Caliptra
