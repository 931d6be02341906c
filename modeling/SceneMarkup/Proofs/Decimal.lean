import SceneMarkup.Number.Decimal
import SceneMarkup.Proofs.Finite

namespace SceneMarkup.Number

open Float.Model Float.Model.UnpackedFloat

variable {s : Sign} {k : Int} {u : UnpackedFloat} {x y : Float}

theorem exponent_le_of_unpack {b : BitVec double.numBits} {m : Nat} {e : Int} {hm : 0 < m}
    (h : UnpackedFloat.unpack double b = .finite s m e hm) : e ≤ 971 := by
  have hexp (v : BitVec 11) (hv : v ≠ -1#11) : v.toNat < 2047 := by
    have hlt := v.isLt
    have hne : v.toNat ≠ 2047 := fun heq => hv (BitVec.eq_of_toNat_eq (heq.trans (by decide)))
    omega
  rw [UnpackedFloat.unpack] at h
  simp only [exponentBias_double] at h
  split at h
  · split at h <;> cases h
  · next hne =>
    have hlt := hexp _ hne
    split at h
    · split at h
      · cases h
      · next hzero _ =>
        cases h
        simp [hzero]
    · cases h
      push_cast
      omega

theorem within_of_isFinite (h : x.isFinite) : ∃ s, Within s 971 (unpacked x) := by
  change (unpacked x).isFinite at h
  cases hx : unpacked x with
  | zero s => exact ⟨s, trivial⟩
  | finite s m e hm => exact ⟨s, rfl, exponent_le_of_unpack hx⟩
  | _ => rw [hx] at h; cases h

theorem isFinite_neg (h : x.isFinite) : (-x).isFinite := by
  obtain ⟨s, hs⟩ := within_of_isFinite h
  exact isFinite_of_within (within_neg hs (by decide) (by decide))

theorem within_mul {m : Nat} {e : Int} {hm : 0 < m} (hx : Within .positive k (unpacked x))
    (hy : unpacked y = .finite .positive m e hm) (he : e ≤ -52) (hmin : -1074 ≤ k)
    (hmax : k ≤ 969) : Within .positive (k + 2) (unpacked (x * y)) := by
  refine Within.repack (u := UnpackedFloat.mul double (unpacked x) (unpacked y)) ?_ (by omega)
    (by omega)
  rw [hy]
  cases hx' : unpacked x with
  | zero => trivial
  | finite s m₁ e₁ hm₁ =>
    have hlt : m₁ * m < 2 ^ (53 + 53) := by
      rw [pow_add]
      exact Nat.mul_lt_mul'' (lt_of_unpacked hx') (lt_of_unpacked hy)
    rw [hx'] at hx
    obtain ⟨rfl, he₁⟩ := hx
    exact within_roundWithAccuracy .positive _ hlt (by decide) (by omega) (by omega) (by omega)
  | _ => rw [hx'] at hx; exact hx.elim

theorem unpacked_one : unpacked Float.exactlyRepresentablePowersOfTen[0] =
    .finite .positive (2 ^ 52) (-52) (by decide) := rfl

theorem within_ofNat {n : Nat} (h : n < digitsBound) :
    Within .positive 14 (unpacked (Float.ofNat n)) := by
  change Within .positive 14 (unpacked (Float.ofScientific n false 0))
  rw [Float.ofScientific]
  split
  · exact within_mul (within_ofUInt64 _) unpacked_one (by decide) (by decide) (by decide)
  · next hn =>
    have hpos : n ≠ 0 := by
      rintro rfl
      exact hn (by decide)
    change Within .positive 14 (repack (UnpackedFloat.ofScientific double n 0))
    refine Within.repack ?_ (by decide) (by decide)
    have hlt : n <<< double.mantissaBits * 10 ^ (0 : Int).toNat < 2 ^ (64 + 53) := by
      rw [Int.toNat_zero, pow_zero, mul_one]
      exact shiftLeft_lt h 53
    rw [UnpackedFloat.ofScientific, dif_neg hpos, if_neg (by decide),
      if_neg (by push_cast; omega), if_pos le_rfl, UnpackedFloat.mul]
    generalize n <<< double.mantissaBits * 10 ^ (0 : Int).toNat = m at hlt
    exact within_roundWithAccuracy .positive _ hlt (by decide) (by decide) (by decide) (by decide)

theorem isFinite_ofNat {n : Nat} (h : n < digitsBound) : (Float.ofNat n).isFinite :=
  isFinite_of_within (within_ofNat h)

theorem isFinite_ofInt {n : Int} (h : n.natAbs < digitsBound) : (Float.ofInt n).isFinite := by
  cases n with
  | ofNat n => exact isFinite_ofNat h
  | negSucc n => exact isFinite_neg (isFinite_ofNat h)

theorem log2_div_two_pow {m n k : Nat} (h : m.log2 = k + n) (hm : m ≠ 0) :
    (m / 2 ^ n).log2 = k := by
  obtain ⟨hle, hlt⟩ := (Nat.log2_eq_iff hm).mp h
  have hpow : 2 ^ k ≤ m / 2 ^ n :=
    (Nat.le_div_iff_mul_le (Nat.two_pow_pos n)).mpr (pow_add 2 k n ▸ hle)
  refine (Nat.log2_eq_iff (Nat.pos_of_ne_zero ?_).ne').mpr ⟨hpow, ?_⟩
  · exact ((Nat.two_pow_pos k).trans_le hpow).ne'
  · rw [Nat.div_lt_iff_lt_mul (Nat.two_pow_pos n), ← pow_add, add_right_comm]
    exact hlt

theorem log2_shiftToTargetExponent {m : Nat} {e e' : Int} {acc : Accuracy} {em : ExtendedMantissa}
    (h : shiftToTargetExponent double m e acc = (em, e')) (hm : 2 ^ 52 ≤ m) (he : -1074 ≤ e) :
    em.mantissa.log2 = 52 ∧ e ≤ e' := by
  have hne : m ≠ 0 := (Nat.two_pow_pos 52).trans_le hm |>.ne'
  have hlog : 52 ≤ m.log2 := (Nat.le_log2 hne).mpr hm
  rw [shiftToTargetExponent, shiftToExponent, targetExponent_double, totalExponent] at h
  generalize hn : (max ((m.log2 : Int) + 1 + e - 53) (-1074) - e).toNat = n at h
  obtain ⟨rfl, rfl⟩ := Prod.ext_iff.mp h
  refine ⟨?_, by omega⟩
  simp only
  rw [mantissa_shiftRight, mantissa_ofMantissaAndAccuracy]
  exact log2_div_two_pow (by omega) hne

theorem le_roundedMantissa (em : ExtendedMantissa) : em.mantissa ≤ em.roundedMantissa := by
  rw [ExtendedMantissa.roundedMantissa]
  cases em.accuracy with
  | exact => exact le_rfl
  | inexact o =>
    cases o with
    | eq => exact Nat.le_add_right _ _
    | lt => exact le_rfl
    | gt => exact Nat.le_succ _

theorem exists_roundWithAccuracy {m : Nat} {e : Int} (s : Sign) (acc : Accuracy) (hm : 2 ^ 52 ≤ m)
    (he : -1074 ≤ e) : ∃ m' e', ∃ hm' : 0 < m',
      roundWithAccuracy double s m e acc = .finite s m' e' hm' ∧ m'.log2 = 52 ∧ e ≤ e' := by
  rw [roundWithAccuracy]
  rcases hfirst : shiftToTargetExponent double m e acc with ⟨em, e'⟩
  obtain ⟨hlog, he'⟩ := log2_shiftToTargetExponent hfirst hm he
  have hrounded : 2 ^ 52 ≤ em.roundedMantissa := by
    refine le_trans ?_ (le_roundedMantissa em)
    exact (Nat.le_log2 fun h0 => by simp [h0] at hlog).mp hlog.ge
  rcases hlast : shiftToTargetExponent double em.roundedMantissa e' .exact with ⟨em', e''⟩
  obtain ⟨hlog', he''⟩ := log2_shiftToTargetExponent hlast hrounded (he.trans he')
  have hne : em'.mantissa ≠ 0 := fun h0 => by simp [h0] at hlog'
  simp only [hlast, dif_neg hne]
  exact ⟨em'.mantissa, e'', Nat.pos_of_ne_zero hne, rfl, hlog', he'.trans he''⟩

def isScale : UnpackedFloat → Bool
  | .finite .positive _ e _ => -53 ≤ e
  | _ => false

theorem exists_of_isScale (h : isScale u) :
    ∃ m e, ∃ hm : 0 < m, u = .finite .positive m e hm ∧ -53 ≤ e := by
  cases u with
  | finite s m e hm =>
    cases s with
    | positive => exact ⟨m, e, hm, rfl, of_decide_eq_true h⟩
    | negative => cases h
  | _ => cases h

theorem isScale_repack {m : Nat} {e : Int} {hm : 0 < m} (hlog : m.log2 = 52) (hmin : -53 ≤ e)
    (hmax : e ≤ 971) : isScale (repack (.finite .positive m e hm)) := by
  rw [repack, pack_finite, if_neg (by omega), if_pos (by omega)]
  generalize hn : (e + (1023 : Nat) + (52 : Nat)).toNat = n
  have hnat : (BitVec.ofNat 11 n).toNat = n := by
    rw [BitVec.toNat_ofNat]
    omega
  have hne : BitVec.ofNat 11 n ≠ -1#_ := fun h => by
    rw [h] at hnat
    exact absurd hnat (by simp; omega)
  have hne' : BitVec.ofNat 11 n ≠ 0#_ := fun h => by
    rw [h] at hnat
    exact absurd hnat (by simp; omega)
  rw [UnpackedFloat.unpack]
  simp only [unpackMantissa_packComponents, unpackExponent_packComponents,
    unpackSign_packComponents, Sign.ofBitVec_toBitVec, if_neg hne, if_neg hne', isScale, hnat,
    exponentBias_double, decide_eq_true_eq]
  omega

theorem isScale_repack_round {m a : Nat} (hle : 2 ^ 52 ≤ m) (hlt : m < 2 ^ a) (ha : 0 < a)
    (hmax : a ≤ 1076) : isScale (repack (roundWithAccuracy double .positive m (-53) .exact)) := by
  obtain ⟨m', e, hm', hround, hlog, he⟩ :=
    exists_roundWithAccuracy (e := -53) .positive .exact hle (by decide)
  have hwithin : Within .positive 971 (roundWithAccuracy double .positive m (-53) .exact) :=
    within_roundWithAccuracy .positive .exact hlt ha (by decide) (by omega) (by decide)
  rw [hround] at hwithin ⊢
  exact isScale_repack hlog he hwithin.2

theorem isScale_ofScientific {e : Nat} (he : e ≤ 307) :
    isScale (repack (UnpackedFloat.ofScientific double 1 e)) := by
  have hpow : 10 ^ (e : Int).toNat < 2 ^ 1020 :=
    (Nat.pow_le_pow_right (by decide) (by simpa using he)).trans_lt
      (by decide +kernel : 10 ^ 307 < 2 ^ 1020)
  have hle : 2 ^ 52 ≤ 1 <<< double.mantissaBits * 10 ^ (e : Int).toNat :=
    (Nat.le_mul_of_pos_right _ (Nat.pow_pos (by decide))).trans' (by decide)
  have hlt : 1 <<< double.mantissaBits * 10 ^ (e : Int).toNat < 2 ^ (54 + 1020) := by
    rw [pow_add]
    exact Nat.mul_lt_mul'' (by decide) hpow
  have hbits : (2 : Int) ^ double.exponentBits = 2048 := rfl
  rw [UnpackedFloat.ofScientific, dif_neg (by decide), if_neg (by rw [hbits]; omega),
    if_neg (by rw [hbits]; omega), if_pos (Int.natCast_nonneg e), UnpackedFloat.mul]
  generalize 1 <<< double.mantissaBits * 10 ^ (e : Int).toNat = m at hle hlt
  exact isScale_repack_round hle hlt (by decide) (by decide)

theorem isScale_powerOfTen {e : Nat} (h : e ≤ maxTenExponent) :
    isScale (unpacked (powerOfTen e)) := by
  by_cases hexact : e ≤ 22
  · have hall : ∀ e < 23, isScale (unpacked (powerOfTen e)) := by decide +kernel
    exact hall e (Nat.lt_succ_of_le hexact)
  by_cases hlast : e = 308
  · subst hlast
    decide +kernel
  have he : e ≤ 307 := by
    rw [maxTenExponent] at h
    omega
  change isScale (unpacked (Float.ofScientific 1 false e))
  rw [Float.ofScientific, dif_neg (by omega)]
  exact isScale_ofScientific he

theorem exists_unpacked_powerOfTen {e : Nat} (h : e ≤ maxTenExponent) : ∃ m e', ∃ hm : 0 < m,
    unpacked (powerOfTen e) = .finite .positive m e' hm ∧ -53 ≤ e' :=
  exists_of_isScale (isScale_powerOfTen h)

theorem isFinite_of_unsigned (h : Unsigned (unpacked x)) (hinf : x.isInf = false) :
    x.isFinite := by
  have hNaN : x.isNaN = false := by
    change (unpacked x).isNaN = false
    cases hx : unpacked x with
    | notANumber => rw [hx] at h; exact h.elim
    | _ => rfl
  rw [isFinite_eq, hNaN, hinf]
  rfl

theorem isFinite_of_multiplied {e : Nat} (hx : Within .positive k (unpacked x))
    (h : multiplied x e = some y) : y.isFinite := by
  fun_cases multiplied x e with
  | case1 h0 =>
    rw [multiplied, if_pos h0] at h
    cases h
    exact isFinite_of_within hx
  | case2 h0 he =>
    rw [multiplied, if_neg h0, if_pos he] at h
    cases h
  | case3 h0 he z hinf =>
    rw [multiplied, if_neg h0, if_neg he, if_pos hinf] at h
    cases h
  | case4 h0 he z hinf =>
    rw [multiplied, if_neg h0, if_neg he, if_neg hinf] at h
    cases h
    obtain ⟨m, e', hm, hpower, -⟩ := exists_unpacked_powerOfTen (not_lt.mp he)
    have hy : Unsigned (unpacked (x * powerOfTen e)) :=
      Unsigned.repack (u := UnpackedFloat.mul double (unpacked x) (unpacked (powerOfTen e)))
        (hpower ▸ hx.unsigned.mul)
    exact isFinite_of_unsigned hy (Bool.eq_false_iff.mpr hinf)

theorem isFinite_divided (hx : Within .positive 14 (unpacked x)) (e : Nat) :
    (divided x e).isFinite := by
  fun_cases divided x e with
  | case1 he =>
    obtain ⟨m, e', hm, hpower, he'⟩ := exists_unpacked_powerOfTen he
    exact isFinite_of_within (within_div hx hpower he' (by decide) (by decide))
  | case2 _ he =>
    obtain ⟨m, e', hm, hgreatest, he'⟩ := exists_unpacked_powerOfTen le_rfl
    obtain ⟨m', e'', hm', hpower, he''⟩ :=
      exists_unpacked_powerOfTen (e := e - maxTenExponent) (by omega)
    have hfirst := within_div hx hgreatest he' (by decide) (by decide)
    exact isFinite_of_within (within_div hfirst hpower he'' (by decide) (by decide))
  | case3 => rfl

theorem Decimal.isFinite_of_toFloat? {d : Decimal} (hd : d.digits < digitsBound)
    (h : d.toFloat? = some x) : x.isFinite := by
  have hdigits := within_ofNat hd
  rw [toFloat?] at h
  split at h
  · exact isFinite_of_multiplied hdigits h
  · cases h
    exact isFinite_divided hdigits _

theorem appendDigits_lt {n : Nat} (h : n < digitsBound) (cs : List Char) :
    (appendDigits n cs).1 < digitsBound := by
  induction cs generalizing n with
  | nil => exact h
  | cons c rest ih =>
    rw [appendDigits]
    split
    · next hlt => exact ih hlt
    · exact h

theorem Decimal.digits_ofDigits_lt (whole fraction : List Char) (e : Int) :
    (Decimal.ofDigits whole fraction e).digits < digitsBound :=
  appendDigits_lt (appendDigits_lt (by decide) whole) fraction

end SceneMarkup.Number
