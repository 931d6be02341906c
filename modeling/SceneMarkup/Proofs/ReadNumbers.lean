import SceneMarkup.Proofs.Decimal
import SceneMarkup.Proofs.JsonText
import SceneMarkup.Proofs.Naming

namespace SceneMarkup

def JsonNumber.Sound : JsonNumber → Prop
  | .integer n => -0x8000000000000000 ≤ n ∧ n < 0x10000000000000000
  | .real x => x.isFinite

theorem JsonNumber.Sound.isFinite_toFloat {n : JsonNumber} (h : n.Sound) :
    n.toFloat.isFinite := by
  cases n with
  | integer n => exact Number.isFinite_ofInt (by rw [Sound] at h; rw [Number.digitsBound]; omega)
  | real x => exact h

theorem JsonNumber.Sound.isFinite {n : JsonNumber} (h : n.Sound) : n.isFinite := by
  cases n with
  | integer n => rfl
  | real x => exact h

inductive Document.Sound : Document → Prop
  | null : Sound .null
  | bool : Sound (.bool b)
  | number : (∀ n, v = some n → n.Sound) → Sound (.number v)
  | string : Sound (.string s)
  | array : (∀ d ∈ items, Sound d) → Sound (.array items)
  | object : (∀ m ∈ members, Sound m.2) → Sound (.object members)

namespace Json.Reader

variable {cs rest : List Char}

theorem Literal.sound_of_value? {l : Literal} {n : JsonNumber} (h : l.value? = some n) :
    n.Sound := by
  rw [value?] at h
  split at h
  · next hl =>
    cases h
    simp only [isInteger, Bool.and_eq_true, decide_eq_true_eq] at hl
    exact ⟨hl.1.1.2, hl.1.2⟩
  · obtain ⟨x, hx, rfl⟩ := Option.map_eq_some_iff.mp h
    have hfinite := Number.Decimal.isFinite_of_toFloat? (Number.Decimal.digits_ofDigits_lt ..) hx
    rw [JsonNumber.Sound]
    split
    · exact Number.isFinite_neg hfinite
    · exact hfinite

theorem toDigits_eq_cons (k : Nat) :
    Nat.toDigits 10 k = ['0'] ∨ ∃ c tail, Nat.toDigits 10 k = c :: tail ∧ c ≠ '0' := by
  rcases Nat.eq_zero_or_pos k with rfl | hk
  · exact .inl rfl
  · right
    obtain ⟨c, tail, hdigits⟩ := List.exists_cons_of_ne_nil (Nat.toDigits_ne_nil (b := 10) (n := k))
    refine ⟨c, tail, hdigits, fun hc => Naming.head?_toDigits hk ?_⟩
    rw [hdigits, hc, List.head?_cons]

theorem digits?_eq_self (hne : cs ≠ []) (h : ∀ c ∈ cs, c.isDigit) : digits? cs = some (cs, []) := by
  rw [digits?, List.span_eq_takeWhile_dropWhile, List.takeWhile_eq_self_iff.mpr h,
    List.dropWhile_eq_nil_iff.mpr h]
  cases cs with
  | nil => exact absurd rfl hne
  | cons c cs => rfl

theorem sign_toDigits (k : Nat) : sign (Nat.toDigits 10 k) = (false, Nat.toDigits 10 k) := by
  have hdigits := Naming.isDigit_toDigits k
  cases hk : Nat.toDigits 10 k with
  | nil => rfl
  | cons c tail =>
    rw [hk] at hdigits
    have hc : c ≠ '-' := by
      rintro rfl
      exact absurd (hdigits '-' List.mem_cons_self) (by decide)
    simp [sign, hc]

theorem whole?_toDigits (k : Nat) : whole? (Nat.toDigits 10 k) = some (Nat.toDigits 10 k, []) := by
  have hdigits := Naming.isDigit_toDigits k
  rcases toDigits_eq_cons k with h | ⟨c, tail, h, hc⟩
  · rw [h]
    rfl
  · rw [h] at hdigits ⊢
    rw [whole?_of_ne_zero hc, digits?_eq_self (List.cons_ne_nil c tail) hdigits]

theorem digitsValue_toDigits (k : Nat) : digitsValue (Nat.toDigits 10 k) = k :=
  Nat.ofDigitChars_ten_toDigits

theorem exists_literal?_integer (n : Int) : ∃ l, literal? (toString n).toList = some (l, []) ∧
    l.isIntegral ∧ l.integer = n ∧ (l.negative → n ≠ 0) := by
  cases n with
  | ofNat k =>
    refine ⟨⟨false, Nat.toDigits 10 k, [], none⟩, ?_, rfl, ?_, fun h => absurd h Bool.false_ne_true⟩
    · have htext : (toString (Int.ofNat k)).toList = Nat.toDigits 10 k := Nat.toList_repr
      rw [htext]
      simp [literal?, sign_toDigits, whole?_toDigits, fraction?, exponent?]
    · exact congrArg Int.ofNat (digitsValue_toDigits k)
  | negSucc k =>
    refine ⟨⟨true, Nat.toDigits 10 (k + 1), [], none⟩, ?_, rfl, ?_, fun _ => Int.negSucc_ne_zero k⟩
    · have htext : (toString (Int.negSucc k)).toList = '-' :: Nat.toDigits 10 (k + 1) := by
        change ("-" ++ (k + 1).repr).toList = _
        rw [String.toList_append, Nat.toList_repr]
        rfl
      rw [htext]
      simp [literal?, sign, whole?_toDigits, fraction?, exponent?]
    · simp only [Literal.integer, digitsValue_toDigits]
      rfl

theorem read?_integer {n : Int} (h : (JsonNumber.integer n).Sound) :
    read? (numberText (.integer n)) = some (.number (.integer n)) := by
  obtain ⟨l, hl, hintegral, rfl, hneg⟩ := exists_literal?_integer n
  have hinteger : l.isInteger := by
    simp only [Literal.isInteger, hintegral, h.1, h.2, decide_true, Bool.true_and,
      Bool.or_eq_true, Bool.not_eq_true', bne_iff_ne]
    exact or_iff_not_imp_left.mpr fun hn => hneg (by simpa using hn)
  have hdocument : document? (toString l.integer).toList = some (.number l.value?) :=
    document?_eq_some.mpr ⟨[], value?_literal hl _, rfl⟩
  rw [read?, Document.read?, numberText, hdocument, Literal.value?, if_pos hinteger]
  rfl

structure ReadsSound (fuel : Nat) : Prop where
  value : ∀ {cs d rest}, value? fuel cs = some (d, rest) → d.Sound
  items : ∀ {cs ds rest}, items? fuel cs = some (ds, rest) → ∀ d ∈ ds, d.Sound
  members : ∀ {cs ms rest}, members? fuel cs = some (ms, rest) → ∀ m ∈ ms, m.2.Sound
  member : ∀ {cs m rest}, member? fuel cs = some (m, rest) → m.2.Sound

theorem sound_of_value?_succ {fuel : Nat} (h : ReadsSound fuel) {d : Document}
    (hd : value? (fuel + 1) cs = some (d, rest)) : d.Sound := by
  rw [value?] at hd
  split at hd
  · cases hd; exact .null
  · cases hd; exact .bool
  · cases hd; exact .bool
  · obtain ⟨_, -, heq⟩ := Option.map_eq_some_iff.mp hd
    cases heq
    exact .string
  · split at hd
    · cases hd
      exact .array (List.forall_mem_nil _)
    · obtain ⟨_, hitems, heq⟩ := Option.map_eq_some_iff.mp hd
      cases heq
      exact .array (h.items hitems)
  · split at hd
    · cases hd
      exact .object (List.forall_mem_nil _)
    · obtain ⟨_, hmembers, heq⟩ := Option.map_eq_some_iff.mp hd
      cases heq
      exact .object (h.members hmembers)
  · obtain ⟨_, -, heq⟩ := Option.map_eq_some_iff.mp hd
    cases heq
    exact .number fun _ => Literal.sound_of_value?

theorem readsSound : ∀ fuel, ReadsSound fuel
  | 0 => ⟨nofun, nofun, nofun, nofun⟩
  | fuel + 1 => by
    -- Each reader calls the others with less fuel, so the four are proved at once.
    have ih := readsSound fuel
    refine ⟨sound_of_value?_succ ih, fun h => ?_, fun h => ?_, fun h => ?_⟩
    · rw [items?] at h
      split at h
      · cases h
      · next hitem =>
        have hitem := ih.value hitem
        split at h
        · obtain ⟨_, hrest, heq⟩ := Option.map_eq_some_iff.mp h
          cases heq
          exact List.forall_mem_cons.mpr ⟨hitem, ih.items hrest⟩
        · cases h
          exact List.forall_mem_singleton.mpr hitem
        · cases h
    · rw [members?] at h
      split at h
      · cases h
      · next hmember =>
        have hmember := ih.member hmember
        split at h
        · obtain ⟨_, hrest, heq⟩ := Option.map_eq_some_iff.mp h
          cases heq
          exact List.forall_mem_cons.mpr ⟨hmember, ih.members hrest⟩
        · cases h
          exact List.forall_mem_singleton.mpr hmember
        · cases h
    · rw [member?] at h
      split at h
      · split at h
        · cases h
        · split at h
          · obtain ⟨_, hvalue, heq⟩ := Option.map_eq_some_iff.mp h
            cases heq
            exact ih.value hvalue
          · cases h
      · cases h

end Json.Reader

theorem Document.sound_of_read? {text : String} {d : Document} (h : read? text = some d) :
    d.Sound := by
  obtain ⟨rest, hvalue, -⟩ := Json.Reader.document?_eq_some.mp h
  exact (Json.Reader.readsSound _).value hvalue

end SceneMarkup
