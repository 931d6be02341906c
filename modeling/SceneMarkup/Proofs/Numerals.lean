import SceneMarkup.Number.Numeral
import SceneMarkup.Proofs.Quoted

namespace SceneMarkup.Number

def isDigits (cs : List Char) : Bool := !cs.isEmpty && cs.all Char.isDigit

def isFraction : List Char → Bool
  | [] => true
  | '.' :: digits => isDigits digits
  | _ => false

def isPositional (cs : List Char) : Bool :=
  isDigits (cs.takeWhile Char.isDigit) && isFraction (cs.dropWhile Char.isDigit)

def isPiMultiple : List Char → Bool
  | ['M', 'a', 't', 'h', '.', 'P', 'I'] => true
  | 'M' :: 'a' :: 't' :: 'h' :: '.' :: 'P' :: 'I' :: ' ' :: '/' :: ' ' :: digits => isDigits digits
  | 'M' :: 'a' :: 't' :: 'h' :: '.' :: 'P' :: 'I' :: ' ' :: '*' :: ' ' :: digits => isDigits digits
  | _ => false

def isMagnitude (cs : List Char) : Bool :=
  cs == "NaN".toList || cs == "Infinity".toList || isPiMultiple cs || isPositional cs

def isNumeral (cs : List Char) : Bool :=
  isMagnitude cs || cs.head? == some '-' && isMagnitude cs.tail

variable {cs cs' : List Char}

theorem isDigits_iff : isDigits cs ↔ cs ≠ [] ∧ ∀ c ∈ cs, c.isDigit = true := by
  simp [isDigits]

theorem isPositional_append (h : isDigits cs) (h' : isFraction cs') :
    isPositional (cs ++ cs') := by
  have hstop : ∀ c ∈ cs'.head?, c.isDigit = false := by
    revert h'
    fun_cases isFraction cs' <;> simp
  have hspan := Text.span_append (isDigits_iff.mp h).2 hstop
  rw [List.span_eq_takeWhile_dropWhile, Prod.mk.injEq] at hspan
  rw [isPositional, hspan.1, hspan.2, h, h']
  rfl

def startsNumeral (c : Char) : Bool :=
  c.isDigit || c == '-' || c == 'N' || c == 'I' || c == 'M'

def continuesNumeral (c : Char) : Bool :=
  c.isAlphanum || c == '-' || c == '.' || c == '/' || c == '*' || c == ' '

theorem continuesNumeral_of_isDigit {c : Char} (h : c.isDigit) : continuesNumeral c := by
  simp [continuesNumeral, Char.isAlphanum, h]

theorem continuesNumeral_of_isDigits (h : isDigits cs) : ∀ c ∈ cs, continuesNumeral c := fun c hc =>
  continuesNumeral_of_isDigit ((isDigits_iff.mp h).2 c hc)

theorem continuesNumeral_of_isFraction (h : isFraction cs) : ∀ c ∈ cs, continuesNumeral c := by
  revert h
  fun_cases isFraction cs with
  | case1 => simp
  | case2 digits =>
    intro h
    rw [List.forall_mem_cons]
    exact ⟨rfl, continuesNumeral_of_isDigits h⟩
  | case3 => simp

theorem continuesNumeral_of_isPositional (h : isPositional cs) :
    ∀ c ∈ cs, continuesNumeral c := by
  rw [isPositional, Bool.and_eq_true] at h
  rw [← List.takeWhile_append_dropWhile (p := Char.isDigit) (l := cs), List.forall_mem_append]
  exact ⟨continuesNumeral_of_isDigits h.1, continuesNumeral_of_isFraction h.2⟩

theorem continuesNumeral_of_isPiMultiple (h : isPiMultiple cs) :
    ∀ c ∈ cs, continuesNumeral c := by
  revert h
  fun_cases isPiMultiple cs with
  | case1 => exact fun _ => List.all_eq_true.mp rfl
  | case2 digits =>
    intro h
    change ∀ c ∈ "Math.PI / ".toList ++ digits, continuesNumeral c
    rw [List.forall_mem_append]
    exact ⟨List.all_eq_true.mp rfl, continuesNumeral_of_isDigits h⟩
  | case3 digits =>
    intro h
    change ∀ c ∈ "Math.PI * ".toList ++ digits, continuesNumeral c
    rw [List.forall_mem_append]
    exact ⟨List.all_eq_true.mp rfl, continuesNumeral_of_isDigits h⟩
  | case4 => simp

theorem continuesNumeral_of_isMagnitude (h : isMagnitude cs) : ∀ c ∈ cs, continuesNumeral c := by
  simp only [isMagnitude, Bool.or_eq_true, beq_iff_eq] at h
  rcases h with ((rfl | rfl) | h) | h
  · exact List.all_eq_true.mp rfl
  · exact List.all_eq_true.mp rfl
  · exact continuesNumeral_of_isPiMultiple h
  · exact continuesNumeral_of_isPositional h

theorem exists_start_of_isMagnitude (h : isMagnitude cs) : ∃ c ∈ cs.head?, startsNumeral c := by
  simp only [isMagnitude, Bool.or_eq_true, beq_iff_eq] at h
  rcases h with ((rfl | rfl) | h) | h
  · exact ⟨'N', rfl, rfl⟩
  · exact ⟨'I', rfl, rfl⟩
  · revert h
    fun_cases isPiMultiple cs with
    | case1 | case2 | case3 => exact fun _ => ⟨'M', rfl, rfl⟩
    | case4 => simp
  · rw [isPositional, Bool.and_eq_true, isDigits_iff] at h
    cases cs with
    | nil => exact absurd rfl h.1.1
    | cons c cs =>
      refine ⟨c, rfl, ?_⟩
      by_contra hc
      have hdigit : c.isDigit = false := by
        simp only [startsNumeral, Bool.or_eq_true, not_or, Bool.not_eq_true] at hc
        exact hc.1.1.1.1
      exact h.1.1 (by simp [hdigit])

theorem continuesNumeral_of_isNumeral (h : isNumeral cs) : ∀ c ∈ cs, continuesNumeral c := by
  simp only [isNumeral, Bool.or_eq_true, Bool.and_eq_true, beq_iff_eq] at h
  rcases h with h | ⟨hsign, h⟩
  · exact continuesNumeral_of_isMagnitude h
  · obtain ⟨tail, rfl⟩ := List.head?_eq_some_iff.mp hsign
    rw [List.forall_mem_cons]
    exact ⟨rfl, continuesNumeral_of_isMagnitude h⟩

theorem exists_cons_of_isNumeral (h : isNumeral cs) :
    ∃ c tail, cs = c :: tail ∧ startsNumeral c := by
  have hstart : ∃ c ∈ cs.head?, startsNumeral c := by
    simp only [isNumeral, Bool.or_eq_true, Bool.and_eq_true, beq_iff_eq] at h
    rcases h with h | ⟨hsign, -⟩
    · exact exists_start_of_isMagnitude h
    · exact ⟨'-', hsign, rfl⟩
  obtain ⟨c, hc, hstart⟩ := hstart
  obtain ⟨tail, rfl⟩ := List.head?_eq_some_iff.mp hc
  exact ⟨c, tail, rfl, hstart⟩

theorem isDigits_natural (n : Nat) : isDigits (toString n).toList := by
  have htext : (toString n).toList = Nat.toDigits 10 n := Nat.toList_repr
  rw [htext, isDigits_iff]
  exact ⟨Nat.toDigits_ne_nil, fun _ hc => Nat.isDigit_of_mem_toDigits (by decide) (by decide) hc⟩

theorem all_isDigit_zeros (n : Nat) : ∀ c ∈ (zeros n).toList, c.isDigit = true := by
  rw [zeros, String.toList_ofList]
  intro c hc
  rw [List.eq_of_mem_replicate hc]
  rfl

theorem isPositional_point {whole fraction : String} (h : isDigits whole.toList)
    (h' : isDigits fraction.toList) : isPositional (whole ++ "." ++ fraction).toList := by
  rw [String.append_assoc, String.toList_append, String.toList_append]
  exact isPositional_append h h'

theorem isPositional_positional (d : Decimal) : isPositional d.positional.toList := by
  obtain ⟨hne, hdigits⟩ := isDigits_iff.mp (isDigits_natural d.digits)
  have hlength : 0 < (toString d.digits).length := by
    rw [← String.length_toList]
    exact List.length_pos_iff.mpr hne
  rw [Decimal.positional]
  split
  case isTrue =>
    rw [← List.append_nil (String.toList _)]
    refine isPositional_append (isDigits_iff.mpr ?_) rfl
    rw [String.toList_append, List.forall_mem_append]
    exact ⟨List.append_ne_nil_of_left_ne_nil hne _, hdigits, all_isDigit_zeros _⟩
  case isFalse hexponent =>
    split
    -- The point stands among the digits, with at least one of them on each side.
    case isTrue hwhole =>
      refine isPositional_point (isDigits_iff.mpr ?_) (isDigits_iff.mpr ?_)
      · rw [String.toList_ofList, ne_eq, List.take_eq_nil_iff]
        refine ⟨?_, fun c hc => hdigits c (List.mem_of_mem_take hc)⟩
        rintro (hnone | hnil)
        · omega
        · exact hne hnil
      · rw [String.toList_ofList, ne_eq, List.drop_eq_nil_iff, String.length_toList]
        refine ⟨?_, fun c hc => hdigits c (List.mem_of_mem_drop hc)⟩
        omega
    case isFalse =>
      rw [show "0." = "0" ++ "." from rfl, String.append_assoc]
      refine isPositional_point rfl (isDigits_iff.mpr ?_)
      rw [String.toList_append, List.forall_mem_append]
      exact ⟨List.append_ne_nil_of_right_ne_nil _ hne, all_isDigit_zeros _, hdigits⟩

theorem isMagnitude_of_isPositional (h : isPositional cs) : isMagnitude cs := by
  simp [isMagnitude, h]

theorem isMagnitude_multiple (m : PiMultiple) : isMagnitude m.text.toList := by
  have hpi : isPiMultiple m.text.toList := by
    rcases m with _ | n | n
    · rfl
    all_goals
      rw [PiMultiple.text, String.toList_append]
      exact isDigits_natural n
  simp [isMagnitude, hpi]

theorem isNumeral_signed {t : String} (h : isMagnitude t.toList) (negative : Bool) :
    isNumeral ((if negative then "-" else "") ++ t).toList := by
  cases negative <;> simp [isNumeral, h]

theorem isNumeral_text (n : Numeral) : isNumeral n.text.toList := by
  cases n with
  | decimal x =>
    rw [Numeral.text, text]
    split
    · rfl
    · split
      · rfl
      · refine isNumeral_signed ?_ (isNegative x)
        split
        · rfl
        · exact isMagnitude_of_isPositional (isPositional_positional _)
  | pi negative multiple => exact isNumeral_signed (isMagnitude_multiple multiple) negative

end SceneMarkup.Number
