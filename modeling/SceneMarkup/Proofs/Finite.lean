import Mathlib
import SceneMarkup.Number.Numeral

/-!
Finite doubles, and that rounding leaves them finite. A bound on the exponent is followed through
each operation: where the scaled value is below the integral bound, its rounding to an integer and
the division by the scale stay far below the greatest exponent of a double.
-/

namespace SceneMarkup.Number

open Float.Model Float.Model.UnpackedFloat

theorem isFinite_eq (x : Float) : x.isFinite = !(x.isNaN || x.isInf) := by
  rw [Float.isFinite, Float.isNaN, Float.isInf, Float.Model.isFinite, Float.Model.isNaN,
    Float.Model.isInf]
  cases x.toModel.unpack <;> rfl

abbrev double : Format := .binary64

def repack (u : UnpackedFloat) : UnpackedFloat :=
  UnpackedFloat.unpack double (UnpackedFloat.pack double u)

def Within (s : Sign) (k : Int) : UnpackedFloat → Prop
  | .zero _ => True
  | .finite s' _ e _ => s' = s ∧ e ≤ k
  | _ => False

def Unsigned : UnpackedFloat → Prop
  | .notANumber => False
  | .infinity s => s = .positive
  | .zero _ => True
  | .finite s _ _ _ => s = .positive

variable {s : Sign} {k k' : Int} {u : UnpackedFloat}

theorem Within.mono (h : Within s k u) (hk : k ≤ k') : Within s k' u := by
  cases u with
  | finite => exact ⟨h.1, h.2.trans hk⟩
  | _ => exact h

theorem Within.unsigned (h : Within .positive k u) : Unsigned u := by
  cases u with
  | finite => exact h.1
  | zero => trivial
  | _ => exact h.elim

theorem repack_infinity (s : Sign) : repack (.infinity s) = .infinity s := by
  cases s <;> rfl

theorem repack_zero (s : Sign) : repack (.zero s) = .zero s := by
  cases s <;> rfl

theorem exponentBias_double : double.exponentBias = 1023 := rfl

theorem within_unpack {e : BitVec 11} {m : BitVec 52} (he : e.toNat < 2047)
    (hk : (e.toNat : Int) - 1075 ≤ k) (hmin : -1074 ≤ k) :
    Within s k (UnpackedFloat.unpack double (packComponents double s e m)) := by
  have hne : e ≠ -1#_ := by
    rintro rfl
    exact absurd he (by decide)
  rw [UnpackedFloat.unpack]
  simp only [unpackMantissa_packComponents, unpackExponent_packComponents,
    unpackSign_packComponents, Sign.ofBitVec_toBitVec, if_neg hne]
  split
  · next hzero =>
    split
    · trivial
    · refine ⟨rfl, ?_⟩
      simp only [hzero, exponentBias_double]
      simpa using hmin
  · refine ⟨rfl, ?_⟩
    simp only [exponentBias_double]
    push_cast
    omega

theorem pack_finite (s : Sign) {m : Nat} (e : Int) (hm : 0 < m) :
    UnpackedFloat.pack double (.finite s m e hm) =
      if 2 ^ 11 ≤ (e + (1023 : Nat) + (52 : Nat)).toNat + 1 then packedInfinity double s
      else if m.log2 + 1 = 53 then
        packComponents double s (.ofNat 11 (e + (1023 : Nat) + (52 : Nat)).toNat) (.ofNat 52 m)
      else packComponents double s 0 (.ofNat 52 m) :=
  rfl

theorem Within.repack (h : Within s k u) (hmin : -1074 ≤ k) (hmax : k ≤ 971) :
    Within s k (repack u) := by
  cases u with
  | zero s => rw [repack_zero]; trivial
  | finite s m e hm =>
    obtain ⟨rfl, he⟩ := h
    rw [Number.repack, pack_finite, if_neg (by omega)]
    split
    · exact within_unpack (by rw [BitVec.toNat_ofNat]; omega) (by rw [BitVec.toNat_ofNat]; omega)
        hmin
    · exact within_unpack (by decide) (by simp; omega) hmin
  | _ => exact h.elim

theorem Unsigned.repack (h : Unsigned u) : Unsigned (repack u) := by
  cases u with
  | notANumber => exact h.elim
  | infinity s => rwa [repack_infinity]
  | zero s => rw [repack_zero]; trivial
  | finite s m e hm =>
    obtain rfl : s = .positive := h
    by_cases he : e ≤ 971
    · have h : Within .positive (max e (-1074)) (.finite .positive m e hm) := ⟨rfl, le_max_left ..⟩
      exact (h.repack (le_max_right ..) (max_le he (by decide))).unsigned
    · rw [Number.repack, pack_finite, if_pos (by omega)]
      exact congrArg Unsigned (repack_infinity .positive) |>.mpr rfl

theorem lt_of_unpack {b : BitVec double.numBits} {s : Sign} {m : Nat} {e : Int} {hm : 0 < m}
    (h : UnpackedFloat.unpack double b = .finite s m e hm) : m < 2 ^ 53 := by
  rw [UnpackedFloat.unpack] at h
  simp only at h
  split at h
  · split at h <;> cases h
  · split at h
    · split at h
      · cases h
      · cases h
        exact (BitVec.isLt _).trans (by decide)
    · cases h
      exact BitVec.isLt _

theorem mantissa_shiftRight (em : ExtendedMantissa) (n : Nat) :
    (em >>> n).mantissa = em.mantissa / 2 ^ n := by
  change (n.repeat ExtendedMantissa.shiftRightOne em).mantissa = _
  induction n with
  | zero => simp [Nat.repeat]
  | succ n ih =>
    rw [Nat.repeat, ExtendedMantissa.shiftRightOne]
    simp only
    rw [ih, Nat.div_div_eq_div_mul, pow_succ]

theorem roundedMantissa_le (em : ExtendedMantissa) : em.roundedMantissa ≤ em.mantissa + 1 := by
  rw [ExtendedMantissa.roundedMantissa]
  cases em.accuracy with
  | exact => exact Nat.le_succ _
  | inexact o =>
    cases o with
    | eq => exact Nat.add_le_add_left (by omega) _
    | lt => exact Nat.le_succ _
    | gt => exact Nat.le_refl _

theorem mantissa_ofMantissaAndAccuracy (m : Nat) (a : Accuracy) :
    (ExtendedMantissa.ofMantissaAndAccuracy m a).mantissa = m := by
  cases a with
  | exact => rfl
  | inexact o => cases o <;> rfl

theorem targetExponent_double (t : Int) : double.targetExponent t = max (t - 53) (-1074) := rfl

theorem log2_lt_of_lt {m a : Nat} (hm : m < 2 ^ a) (ha : 0 < a) : m.log2 < a := by
  by_cases h0 : m = 0
  · subst h0
    simpa using ha
  · exact (Nat.log2_lt h0).mpr hm

theorem div_two_pow_lt {m a : Nat} (hm : m < 2 ^ a) (n : Nat) : m / 2 ^ n < 2 ^ (a - n) := by
  refine Nat.div_lt_of_lt_mul (hm.trans_le ?_)
  rw [← pow_add]
  exact Nat.pow_le_pow_right (by decide) (by omega)

theorem shiftToTargetExponent_spec {m a : Nat} {e e' : Int} {acc : Accuracy} {em : ExtendedMantissa}
    (h : shiftToTargetExponent double m e acc = (em, e')) (hm : m < 2 ^ a) (ha : 0 < a) (he : e ≤ k)
    (hk : a + e ≤ k + 53) (hmin : -1074 ≤ k) :
    e' ≤ k ∧ ∃ b : Nat, em.roundedMantissa < 2 ^ b ∧ 0 < b ∧ b + e' ≤ max (a + e + 1) (k + 1) := by
  have hlog := log2_lt_of_lt hm ha
  rw [shiftToTargetExponent, shiftToExponent, targetExponent_double, totalExponent] at h
  generalize hn : (max ((m.log2 : Int) + 1 + e - 53) (-1074) - e).toNat = n at h
  obtain ⟨rfl, rfl⟩ := Prod.ext_iff.mp h
  refine ⟨by omega, a - n + 1, ?_, by omega, by omega⟩
  calc (ExtendedMantissa.ofMantissaAndAccuracy m acc >>> n).roundedMantissa
    _ ≤ (ExtendedMantissa.ofMantissaAndAccuracy m acc >>> n).mantissa + 1 := roundedMantissa_le _
    _ = m / 2 ^ n + 1 := by rw [mantissa_shiftRight, mantissa_ofMantissaAndAccuracy]
    _ ≤ 2 ^ (a - n) := div_two_pow_lt hm n
    _ < 2 ^ (a - n + 1) := Nat.pow_lt_pow_right (by decide) (Nat.lt_succ_self _)

/-- Rounding to a double keeps a bound on the exponent, where it leaves room for the 53 bits of the
mantissa and one that rounding carries. -/
theorem within_roundWithAccuracy {m a : Nat} {e : Int} (s : Sign) (acc : Accuracy) (hm : m < 2 ^ a)
    (ha : 0 < a) (he : e ≤ k) (hk : a + e ≤ k + 52) (hmin : -1074 ≤ k) :
    Within s k (roundWithAccuracy double s m e acc) := by
  rw [roundWithAccuracy]
  rcases hfirst : shiftToTargetExponent double m e acc with ⟨em, e'⟩
  obtain ⟨he', b, hb, hb0, hbk⟩ := shiftToTargetExponent_spec hfirst hm ha he (by omega) hmin
  rcases hlast : shiftToTargetExponent double em.roundedMantissa e' .exact with ⟨em', e''⟩
  obtain ⟨he'', -⟩ := shiftToTargetExponent_spec hlast hb hb0 he' (by omega) hmin
  simp only [hlast]
  split
  · trivial
  · exact ⟨rfl, he''⟩

theorem unsigned_roundWithAccuracy (m : Nat) (e : Int) (acc : Accuracy) :
    Unsigned (roundWithAccuracy double .positive m e acc) := by
  rw [roundWithAccuracy]
  simp only
  split
  · trivial
  · rfl

theorem shiftLeft_lt {m a : Nat} (hm : m < 2 ^ a) (n : Nat) : m <<< n < 2 ^ (a + n) := by
  rw [Nat.shiftLeft_eq, pow_add]
  exact Nat.mul_lt_mul_of_pos_right hm (Nat.two_pow_pos n)

theorem within_round {m a : Nat} {e : Int} (s : Sign) (hm : m < 2 ^ a) (ha : 0 < a) (he : e ≤ k)
    (hk : a + e ≤ k + 52) (hmin : -1074 ≤ k) :
    Within s k (UnpackedFloat.round double s m e) := by
  rw [UnpackedFloat.round, decreaseExponent]
  generalize (e - double.targetExponent (totalExponent m e)).toNat = n
  exact within_roundWithAccuracy s .exact (shiftLeft_lt hm n) (by omega) (by omega)
    (by push_cast; omega) hmin

theorem within_normalize {m a : Nat} {e : Int} (hm : m < 2 ^ a) (ha : 0 < a) (he : e ≤ k)
    (hk : a + e ≤ k + 52) (hmin : -1074 ≤ k) :
    Within .positive k (UnpackedFloat.normalize double m e .positive) := by
  rw [UnpackedFloat.normalize]
  split
  · next h => rw [compare_lt_iff_lt] at h; omega
  · trivial
  · rw [Int.toNat_natCast]
    exact within_round .positive hm ha he hk hmin

theorem Unsigned.zero_le (h : Unsigned u) : (UnpackedFloat.zero .positive).le u := by
  cases u with
  | notANumber => exact h.elim
  | zero => rfl
  | infinity s | finite s =>
    obtain rfl : s = .positive := h
    rfl

theorem Unsigned.within_of_not_le {m : Nat} {hm : 0 < m} (h : Unsigned u)
    (hlt : ¬ (UnpackedFloat.finite .positive m k hm).le u) : Within .positive k u := by
  cases u with
  | notANumber => exact h.elim
  | zero => trivial
  | infinity s =>
    obtain rfl : s = .positive := h
    exact absurd rfl hlt
  | finite s m' e =>
    obtain rfl : s = .positive := h
    refine ⟨rfl, ?_⟩
    by_contra he
    simp [UnpackedFloat.le, UnpackedFloat.compare, compare_lt_iff_lt.mpr (not_le.mp he)] at hlt

theorem unsigned_abs (h : u.isNaN = false) : Unsigned u.abs := by
  cases u with
  | notANumber => cases h
  | zero => trivial
  | infinity | finite => rfl

theorem Within.neg (h : Within s k u) : Within (-s) k u.neg := by
  cases u with
  | zero => trivial
  | finite =>
    obtain ⟨rfl, he⟩ := h
    exact ⟨rfl, he⟩
  | _ => exact h.elim

theorem Unsigned.mul {m : Nat} {e : Int} {hm : 0 < m} (h : Unsigned u) :
    Unsigned (UnpackedFloat.mul double u (.finite .positive m e hm)) := by
  cases u with
  | notANumber => exact h.elim
  | zero => trivial
  | infinity s =>
    obtain rfl : s = .positive := h
    rfl
  | finite s =>
    obtain rfl : s = .positive := h
    exact unsigned_roundWithAccuracy ..

def unpacked (x : Float) : UnpackedFloat := x.toModel.unpack

variable {x y : Float}

theorem lt_of_unpacked {m : Nat} {e : Int} {hm : 0 < m} (h : unpacked x = .finite s m e hm) :
    m < 2 ^ 53 :=
  lt_of_unpack h

theorem isFinite_of_within (h : Within s k (unpacked x)) : x.isFinite := by
  change (unpacked x).isFinite
  cases hx : unpacked x with
  | zero | finite => rfl
  | _ => rw [hx] at h; exact h.elim

theorem le_iff (x y : Float) : x ≤ y ↔ (unpacked x).le (unpacked y) :=
  decide_eq_true_iff (p := x.toModel ≤ y.toModel)

theorem unpacked_half : unpacked 0.5 = .finite .positive (2 ^ 52) (-53) (by decide) := rfl

theorem unpacked_integralBound :
    unpacked integralBound = .finite .positive (2 ^ 52) 0 (by decide) := rfl

theorem within_add_half (h : Within .positive 0 (unpacked x)) :
    Within .positive 2 (unpacked (x + 0.5)) := by
  refine Within.repack (u := UnpackedFloat.add double (unpacked x) (unpacked 0.5)) ?_ (by decide)
    (by decide)
  rw [unpacked_half]
  cases hx : unpacked x with
  | zero => exact ⟨rfl, by decide⟩
  | finite s m e hm =>
    rw [hx] at h
    obtain ⟨rfl, he⟩ := h
    have hlt := lt_of_unpacked hx
    rw [UnpackedFloat.add]
    simp only [decreaseExponent, Sign.apply]
    rw [← Nat.cast_add]
    generalize hn : min e (-53) = n
    have hsum : m <<< (e - n).toNat + (2 ^ 52) <<< (-53 - n).toNat < 2 ^ ((53 - n).toNat + 1) := by
      have hx := (shiftLeft_lt hlt (e - n).toNat).trans_le
        (Nat.pow_le_pow_right (by decide) (show _ ≤ (53 - n).toNat by omega))
      have hhalf := (shiftLeft_lt (a := 53) (m := 2 ^ 52) (by decide) (-53 - n).toNat).trans_le
        (Nat.pow_le_pow_right (by decide) (show _ ≤ (53 - n).toNat by omega))
      rw [pow_succ]
      omega
    exact within_normalize hsum (by omega) (by omega) (by omega) (by decide)
  | _ => rw [hx] at h; exact h.elim

theorem within_ofUInt64 (n : UInt64) : Within .positive 12 (unpacked n.toFloat) := by
  have h : Within .positive 12 (ofUInt64 double n) :=
    within_normalize (a := 64) n.toNat_lt (by decide) (by decide) (by decide) (by decide)
  exact h.repack (by decide) (by decide)

theorem within_floor (h : Within .positive 2 (unpacked x)) :
    Within .positive 12 (unpacked (floor x)) := by
  rw [floor]
  split
  · exact h.mono (by decide)
  · rw [if_pos ((le_iff 0 x).mpr h.unsigned.zero_le)]
    exact within_ofUInt64 _

theorem within_div {m : Nat} {e : Int} {hm : 0 < m} (hx : Within .positive k (unpacked x))
    (hy : unpacked y = .finite .positive m e hm) (he : -53 ≤ e) (hmin : -1074 ≤ k)
    (hmax : k ≤ 917) : Within .positive (k + 54) (unpacked (x / y)) := by
  refine Within.repack (u := UnpackedFloat.div double (unpacked x) (unpacked y)) ?_ (by omega)
    (by omega)
  rw [hy]
  cases hx' : unpacked x with
  | zero => trivial
  | finite s m₁ e₁ hm₁ =>
    have hlt := lt_of_unpacked hx'
    rw [hx'] at hx
    obtain ⟨rfl, he₁⟩ := hx
    rw [UnpackedFloat.div, divCore]
    simp only
    generalize double.targetExponent _ = t
    exact within_roundWithAccuracy .positive _ ((Nat.div_le_self ..).trans_lt (shiftLeft_lt hlt _))
      (by omega) (by omega) (by omega) (by omega)
  | _ => rw [hx'] at hx; exact hx.elim

theorem within_neg (h : Within s k (unpacked x)) (hmin : -1074 ≤ k) (hmax : k ≤ 971) :
    Within (-s) k (unpacked (-x)) :=
  h.neg.repack hmin hmax

theorem exists_unpacked_factor (p : Precision) : ∃ m e, ∃ hm : 0 < m,
    unpacked p.factor = .finite .positive m e hm ∧ -53 ≤ e := by
  have hmin : min p.places maxPlaces ≤ 15 := Nat.min_le_right ..
  rw [Precision.factor]
  generalize min p.places maxPlaces = n at hmin
  interval_cases n <;> exact ⟨_, _, _, rfl, by decide⟩

theorem Precision.within_magnitude {p : Precision} (hx : x.isNaN = false)
    (hlt : ¬ integralBound ≤ x.abs * p.factor) :
    Within .positive 66 (unpacked (floor (x.abs * p.factor + 0.5) / p.factor)) := by
  obtain ⟨m, e, hm, hfactor, he⟩ := exists_unpacked_factor p
  have habs : Unsigned (unpacked x.abs) := (unsigned_abs hx).repack
  have hscaled : Unsigned (unpacked (x.abs * p.factor)) :=
    Unsigned.repack (u := UnpackedFloat.mul double (unpacked x.abs) (unpacked p.factor))
      (hfactor ▸ habs.mul)
  rw [le_iff, unpacked_integralBound] at hlt
  exact within_div (within_floor (within_add_half (hscaled.within_of_not_le hlt))) hfactor he
    (by decide) (by decide)

theorem Precision.isFinite_round (p : Precision) (h : x.isFinite) : (p.round x).isFinite := by
  have hNaN : x.isNaN = false := by
    rw [isFinite_eq] at h
    simp_all
  fun_cases Precision.round p x with
  | case1 | case2 => exact h
  | case3 => rfl
  | case4 _ _ hlt =>
    exact isFinite_of_within (within_neg (p.within_magnitude hNaN hlt) (by decide) (by decide))
  | case5 _ _ hlt => exact isFinite_of_within (p.within_magnitude hNaN hlt)

end SceneMarkup.Number
