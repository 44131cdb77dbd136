/-
The rewriting every verifier proof starts from.

A phase of the verifier is a chain of binds in `Except`, each link an environment call or a
`failIf` check.  The lemmas here turn "the chain returned `ok`" into "each link returned `ok`,
and each check's condition was false", which is what the phase lemmas of `Phases.lean` are
read from.  The second half moves `UInt32` comparisons, arithmetic and bit tests to `Nat`,
where `omega` and `Nat.testBit` decide them; the core library of this toolchain has few of
these.
-/
import CaliptraRom.Image.Verifier

namespace Caliptra

/-! ### Chains in `Except` -/

section

variable {ε α β : Type}

@[simp] theorem bind_eq_ok {x : Except ε α} {f : α → Except ε β} {b : β} :
    x >>= f = .ok b ↔ ∃ a, x = .ok a ∧ f a = .ok b := by
  cases x <;> simp [bind, Except.bind]

@[simp] theorem pure_eq_ok {a b : α} : (pure a : Except ε α) = .ok b ↔ a = b := by
  simp [pure, Except.pure]

@[simp] theorem map_eq_ok {f : α → β} {x : Except ε α} {b : β} :
    f <$> x = .ok b ↔ ∃ a, x = .ok a ∧ f a = b := by
  cases x <;> simp [Functor.map, Except.map]

@[simp] theorem mapError_eq_ok {ε' : Type} {x : Except ε α} {g : ε → ε'} {a : α} :
    x.mapError g = .ok a ↔ x = .ok a := by
  cases x <;> simp [Except.mapError]

@[simp] theorem error_ne_ok {e : ε} {a : α} : (Except.error e : Except ε α) ≠ .ok a := by
  simp

end

/-- A check returns `()`: the chains bind it and then ignore it. -/
@[simp] theorem exists_unit {p : Unit → Prop} : (∃ u, p u) ↔ p () :=
  ⟨fun ⟨(), h⟩ => h, fun h => ⟨(), h⟩⟩

@[simp] theorem failIf_eq_ok {p : Prop} [Decidable p] {e : CaliptraError} {u : Unit} :
    failIf p e = .ok u ↔ ¬p := by
  unfold failIf; split <;> simp_all

@[simp] theorem okOr_eq_ok {α : Type} {o : Option α} {e : CaliptraError} {a : α} :
    okOr o e = .ok a ↔ o = some a := by
  cases o <;> simp [okOr]

@[simp] theorem digestOf_eq_ok {env : ImageVerificationEnv} {r : Range32} {e : CaliptraError}
    {d : ImageDigest384} : digestOf env r e = .ok d ↔ env.sha384Digest r.start r.len = .ok d :=
  mapError_eq_ok

/-! ### `UInt32` as a number below `2 ^ 32` -/

namespace UInt32

theorem le_iff_toNat_le {a b : UInt32} : a ≤ b ↔ a.toNat ≤ b.toNat := Iff.rfl

theorem lt_iff_toNat_lt {a b : UInt32} : a < b ↔ a.toNat < b.toNat := Iff.rfl

theorem eq_iff_toNat_eq {a b : UInt32} : a = b ↔ a.toNat = b.toNat :=
  ⟨congrArg _, UInt32.toNat.inj⟩

theorem toNat_lt_two_pow (a : UInt32) : a.toNat < 2 ^ 32 := a.toBitVec.isLt

theorem toNat_add_eq (a b : UInt32) : (a + b).toNat = (a.toNat + b.toNat) % 2 ^ 32 := rfl

theorem toNat_sub_eq (a b : UInt32) : (a - b).toNat = (2 ^ 32 - b.toNat + a.toNat) % 2 ^ 32 := by
  show (a.toBitVec - b.toBitVec).toNat = _
  rw [BitVec.toNat_sub]
  rfl

@[simp] theorem toNat_one : (1 : UInt32).toNat = 1 := rfl

theorem toNat_add_of_lt {a b : UInt32} (h : a.toNat + b.toNat < 2 ^ 32) :
    (a + b).toNat = a.toNat + b.toNat := by
  rw [toNat_add_eq]
  omega

theorem toNat_ne_zero {a : UInt32} (h : a ≠ 0) : a.toNat ≠ 0 :=
  fun h0 => h (eq_iff_toNat_eq.mpr h0)

theorem toNat_sub_one {a : UInt32} (h : a ≠ 0) : (a - 1).toNat = a.toNat - 1 := by
  have h0 := toNat_ne_zero h
  have := toNat_lt_two_pow a
  rw [toNat_sub_eq, toNat_one]
  omega

theorem mod_four_eq_zero_iff {a : UInt32} : a % 4 = 0 ↔ a.toNat % 4 = 0 := by
  rw [eq_iff_toNat_eq, UInt32.toNat_mod]
  rfl

/-- The shift amount is taken modulo the width, as in the release build. -/
theorem toNat_one_shiftLeft (i : UInt32) : (1 <<< i).toNat = 2 ^ (i.toNat % 32) := by
  show ((1 : BitVec 32) <<< (i.mod 32).toBitVec).toNat = _
  rw [BitVec.shiftLeft_eq', BitVec.toNat_shiftLeft]
  have h : (i.mod 32).toBitVec.toNat = i.toNat % 32 := UInt32.toNat_mod i 32
  rw [h, show (1 : BitVec 32).toNat = 1 from rfl, Nat.one_shiftLeft]
  exact Nat.mod_eq_of_lt (Nat.pow_lt_pow_of_lt (by decide) (Nat.mod_lt _ (by decide)))

/-- A word has no set bit at or past 32. -/
theorem lt_of_testBit {a : UInt32} {i : Nat} (h : a.toNat.testBit i) : i < 32 := by
  by_contra hge
  have : a.toNat < 2 ^ i :=
    Nat.lt_of_lt_of_le (toNat_lt_two_pow a) (Nat.pow_le_pow_right (by decide) (by omega))
  simp [Nat.testBit_lt_two_pow this] at h

/-- A set bit of `a` survives masking with that bit. -/
theorem and_one_shiftLeft_ne_zero {a i : UInt32} (h : a.toNat.testBit i.toNat) :
    a &&& (1 <<< i) ≠ 0 := by
  intro h0
  have := congrArg (fun x : UInt32 => x.toNat.testBit i.toNat) h0
  simp [UInt32.and_toNat, toNat_one_shiftLeft, Nat.mod_eq_of_lt (lt_of_testBit h),
    Nat.testBit_two_pow, h] at this

/-- A clear bit of `a` below 32 masks to nothing. -/
theorem and_one_shiftLeft_eq_zero {a i : UInt32} (hi : i.toNat < 32)
    (h : ¬a.toNat.testBit i.toNat) : a &&& (1 <<< i) = 0 := by
  rw [eq_iff_toNat_eq, UInt32.and_toNat, toNat_one_shiftLeft, Nat.mod_eq_of_lt hi]
  apply Nat.eq_of_testBit_eq
  intro j
  by_cases hj : i.toNat = j
  · subst hj; simp [h]
  · simp [Nat.testBit_two_pow, hj]

end UInt32

/-- A revocation word with bit `i` set contains the key `1 << i`, whether or not `all()` has
that bit. -/
theorem VendorEccPubKeyRevocation.contains_of_testBit {c : ImageConsts}
    {r : VendorEccPubKeyRevocation} {i : UInt32} (h : r.bits.toNat.testBit i.toNat) :
    r.contains (.fromBitsTruncate c (1 <<< i)) = true := by
  simp only [contains, fromBitsTruncate, beq_iff_eq, UInt32.eq_iff_toNat_eq, UInt32.and_toNat,
    UInt32.toNat_one_shiftLeft, Nat.mod_eq_of_lt (UInt32.lt_of_testBit h)]
  apply Nat.eq_of_testBit_eq
  intro j
  by_cases hj : i.toNat = j
  · subst hj; simp [h]
  · simp [Nat.testBit_two_pow, hj]

/-- A key whose bit `all()` has and the revocation word lacks is not revoked. -/
theorem VendorEccPubKeyRevocation.contains_eq_false {c : ImageConsts}
    {r : VendorEccPubKeyRevocation} {i : UInt32} (hi : i.toNat < 32)
    (hflag : c.eccRevocationFlags.toNat.testBit i.toNat) (h : ¬r.bits.toNat.testBit i.toNat) :
    r.contains (.fromBitsTruncate c (1 <<< i)) = false := by
  simp only [contains, fromBitsTruncate, beq_eq_false_iff_ne, ne_eq, UInt32.eq_iff_toNat_eq,
    UInt32.and_toNat, UInt32.toNat_one_shiftLeft, Nat.mod_eq_of_lt hi]
  intro heq
  have := congrArg (Nat.testBit · i.toNat) heq
  simp [hflag, h] at this

theorem Range32.contains_iff {r : Range32} {x : UInt32} :
    r.contains x = true ↔ r.start.toNat ≤ x.toNat ∧ x.toNat < r.stop.toNat := by
  simp only [Range32.contains, Bool.and_eq_true, decide_eq_true_eq]
  rfl

@[simp] theorem UInt8.toNat_toUInt32 (a : UInt8) : a.toUInt32.toNat = a.toNat := rfl

theorem UInt8.toNat_lt_256 (a : UInt8) : a.toNat < 256 := a.toBitVec.isLt

theorem UInt8.toNat_ne_zero {a : UInt8} (h : a ≠ 0) : a.toNat ≠ 0 :=
  fun h0 => h (UInt8.eq_of_val_eq (Fin.ext h0))

theorem UInt8.ne_zero_of_lt {a : UInt8} {n : Nat} (h : n < a.toNat) : a ≠ 0 := by
  rintro rfl
  exact Nat.not_lt_zero n h

end Caliptra
