import Mathlib.Data.List.DropRight
import Mathlib.Data.List.TakeDrop
import SceneMarkup.Json.Printer
import SceneMarkup.Json.Reader

namespace SceneMarkup.Json.Reader

theorem skipBlanks_of_isBlank_eq_false {c : Char} {t : List Char} (h : isBlank c = false) :
    skipBlanks (c :: t) = c :: t := by
  simp [skipBlanks, h]

@[simp] theorem skipBlanks_comma (t : List Char) : skipBlanks (',' :: t) = ',' :: t := rfl

@[simp] theorem skipBlanks_colon (t : List Char) : skipBlanks (':' :: t) = ':' :: t := rfl

@[simp] theorem skipBlanks_quote (t : List Char) : skipBlanks ('"' :: t) = '"' :: t := rfl

@[simp] theorem skipBlanks_skipBlanks (cs : List Char) :
    skipBlanks (skipBlanks cs) = skipBlanks cs :=
  List.dropWhile_idempotent _ _

theorem skipBlanks_append {cs : List Char} (t : List Char) (h : skipBlanks cs ≠ []) :
    skipBlanks (cs ++ t) = skipBlanks cs ++ t := by
  have hdrop : ¬ (cs.dropWhile isBlank).isEmpty := fun hnil => h (List.isEmpty_iff.mp hnil)
  rw [skipBlanks, List.dropWhile_append, if_neg hdrop]
  rfl

theorem skipBlanks_append_of_eq_nil {cs : List Char} (t : List Char) (h : skipBlanks cs = []) :
    skipBlanks (cs ++ t) = skipBlanks t := by
  have hdrop : (cs.dropWhile isBlank).isEmpty := List.isEmpty_iff.mpr h
  rw [skipBlanks, List.dropWhile_append, if_pos hdrop]
  rfl

def Stops (t : List Char) : Prop :=
  ∀ c ∈ t.head?, c.isDigit = false ∧ c ≠ '.' ∧ c ≠ 'e' ∧ c ≠ 'E'

variable {cs rest t : List Char}

theorem span_isDigit_append (ht : Stops t) :
    (cs ++ t).span Char.isDigit =
      ((cs.span Char.isDigit).1, (cs.span Char.isDigit).2 ++ t) := by
  simp only [List.span_eq_takeWhile_dropWhile]
  induction cs with
  | nil =>
    cases t with
    | nil => rfl
    | cons c t => simp [(ht c rfl).1]
  | cons c rest ih =>
    rw [Prod.mk.injEq] at ih
    cases hc : c.isDigit <;> simp [hc, ih]

theorem digits?_append {ds : List Char} (ht : Stops t) (h : digits? cs = some (ds, rest)) :
    digits? (cs ++ t) = some (ds, rest ++ t) := by
  rw [digits?] at h ⊢
  rw [span_isDigit_append ht]
  revert h
  cases cs.span Char.isDigit with
  | mk digits left => cases digits <;> simp_all

theorem digits?_nil : digits? [] = none := rfl

theorem whole?_zero (h : ∀ c ∈ cs.head?, c.isDigit = false) :
    whole? ('0' :: cs) = some (['0'], cs) := by
  cases cs with
  | nil => rfl
  | cons c cs => simp [whole?, h c rfl]

theorem whole?_of_ne_zero {c : Char} (h : c ≠ '0') : whole? (c :: cs) = digits? (c :: cs) := by
  rw [whole?]
  simpa using h

theorem whole?_append {ds : List Char} (ht : Stops t) (h : whole? cs = some (ds, rest)) :
    whole? (cs ++ t) = some (ds, rest ++ t) := by
  cases cs with
  | nil => simp [whole?, digits?_nil] at h
  | cons c cs =>
    by_cases hc : c = '0'
    · subst hc
      have hstop : ∀ c ∈ cs.head?, c.isDigit = false := fun c hc => by
        rw [whole?] at h
        split at h
        · cases h
        · next hd => simpa [Option.mem_def.mp hc] using hd
      rw [whole?_zero hstop] at h
      cases h
      refine whole?_zero fun c hc => ?_
      cases rest with
      | nil => exact (ht c hc).1
      | cons _ _ => exact hstop c hc
    · rw [whole?_of_ne_zero hc] at h
      rw [List.cons_append, whole?_of_ne_zero hc, ← List.cons_append]
      exact digits?_append ht h

theorem fraction?_of_ne {c : Char} (h : c ≠ '.') : fraction? (c :: cs) = some ([], c :: cs) := by
  rw [fraction?]
  simpa using h

theorem fraction?_append {ds : List Char} (ht : Stops t) (h : fraction? cs = some (ds, rest)) :
    fraction? (cs ++ t) = some (ds, rest ++ t) := by
  cases cs with
  | nil =>
    cases h
    cases t with
    | nil => rfl
    | cons c t => exact fraction?_of_ne (ht c rfl).2.1
  | cons c cs =>
    by_cases hc : c = '.'
    · subst hc
      exact digits?_append ht h
    · rw [fraction?_of_ne hc] at h
      cases h
      exact fraction?_of_ne hc

theorem sign_append (h : cs ≠ []) : sign (cs ++ t) = ((sign cs).1, (sign cs).2 ++ t) := by
  cases cs with
  | nil => exact absurd rfl h
  | cons c cs =>
    by_cases hc : c = '-'
    · subst hc
      rfl
    · simp [sign, hc]

theorem exponentSign_append (h : cs ≠ []) :
    exponentSign (cs ++ t) = ((exponentSign cs).1, (exponentSign cs).2 ++ t) := by
  cases cs with
  | nil => exact absurd rfl h
  | cons c cs =>
    by_cases hm : c = '-'
    · subst hm
      rfl
    · by_cases hp : c = '+'
      · subst hp
        rfl
      · simp [exponentSign, hm, hp]

theorem exponent?_append {e : Option Int} (ht : Stops t) (h : exponent? cs = some (e, rest)) :
    exponent? (cs ++ t) = some (e, rest ++ t) := by
  cases cs with
  | nil =>
    cases h
    cases t with
    | nil => rfl
    | cons c t => simp [exponent?, (ht c rfl).2.2]
  | cons c cs =>
    rw [exponent?] at h
    rw [List.cons_append, exponent?]
    split
    · next hc =>
      rw [if_pos hc] at h
      simp only [Option.bind_eq_bind, Option.bind_eq_some_iff] at h
      obtain ⟨⟨ds, left⟩, hds, h⟩ := h
      cases h
      have hcs : cs ≠ [] := fun hcs => by simp [hcs, exponentSign, digits?_nil] at hds
      simp [exponentSign_append hcs, digits?_append ht hds]
    · next hc =>
      rw [if_neg hc] at h
      cases h
      rfl

theorem literal?_append {l : Literal} (ht : Stops t) (h : literal? cs = some (l, rest)) :
    literal? (cs ++ t) = some (l, rest ++ t) := by
  simp only [literal?, Option.bind_eq_bind, Option.bind_eq_some_iff, Prod.exists] at h
  obtain ⟨whole, left, hw, fraction, left', hf, exponent, left'', he, h⟩ := h
  cases h
  have hcs : cs ≠ [] := fun hcs => by simp [hcs, sign, whole?, digits?_nil] at hw
  simp [literal?, sign_append hcs, whole?_append ht hw, fraction?_append ht hf,
    exponent?_append ht he]

theorem exists_cons_of_whole? {ds : List Char} (h : whole? cs = some (ds, rest)) :
    ∃ c tail, cs = c :: tail ∧ c.isDigit := by
  cases cs with
  | nil => simp [whole?, digits?_nil] at h
  | cons c tail =>
    refine ⟨c, tail, rfl, ?_⟩
    by_cases hz : c = '0'
    · subst hz
      rfl
    · rw [whole?_of_ne_zero hz, digits?, List.span_eq_takeWhile_dropWhile] at h
      cases hc : c.isDigit with
      | true => rfl
      | false => simp [hc] at h

theorem exists_cons_of_literal? {l : Literal} (h : literal? cs = some (l, rest)) :
    ∃ c tail, cs = c :: tail ∧ (c = '-' ∨ c.isDigit) := by
  simp only [literal?, Option.bind_eq_bind, Option.bind_eq_some_iff, Prod.exists] at h
  obtain ⟨whole, left, hw, -⟩ := h
  cases cs with
  | nil => exact absurd hw (by simp [sign, whole?, digits?_nil])
  | cons c tail =>
    refine ⟨c, tail, rfl, ?_⟩
    by_cases hm : c = '-'
    · exact .inl hm
    · have hsign : (sign (c :: tail)).2 = c :: tail := by simp [sign, hm]
      rw [hsign] at hw
      obtain ⟨_, _, hcs, hd⟩ := exists_cons_of_whole? hw
      cases hcs
      exact .inr hd

theorem hexUnit?_hexDigit : ∀ n < 0x20, hexUnit? '0' '0' (hexDigit (n / 16)) (hexDigit (n % 16)) =
    some n := by
  decide

theorem pointsFrom_of_ne {before : List Nat} {c : Char} (hq : c ≠ '"') (hb : c ≠ '\\')
    (hc : ¬ c.toNat < 0x20) (rest : List Char) :
    pointsFrom before (c :: rest) = pointsFrom (c.toNat :: before) rest := by
  rw [pointsFrom, if_neg hc] <;> simp_all

theorem pointsFrom_escapeChar (before : List Nat) (c : Char) (rest : List Char) :
    pointsFrom before (escapeChar c ++ rest) = pointsFrom (c.toNat :: before) rest := by
  rw [escapeChar.eq_def]
  split
  case h_8 =>
    split
    · next hc =>
      simp [pointsFrom, hexUnit?_hexDigit c.toNat hc]
    · next hc =>
      exact pointsFrom_of_ne ‹_› ‹_› hc rest
  all_goals rfl

theorem pointsFrom_escaped (before : List Nat) (cs rest : List Char) :
    pointsFrom before (cs.flatMap escapeChar ++ '"' :: rest) =
      some (before.reverse ++ cs.map Char.toNat, rest) := by
  induction cs generalizing before with
  | nil => simp [pointsFrom]
  | cons c cs ih =>
    rw [List.flatMap_cons, List.append_assoc, pointsFrom_escapeChar, ih]
    simp

theorem isSurrogate_toNat (c : Char) :
    isLeading c.toNat = false ∧ isTrailing c.toNat = false := by
  have h : c.toNat < 0xd800 ∨ 0xdfff < c.toNat ∧ c.toNat < 0x110000 := c.valid
  simp only [isLeading, isTrailing, Bool.and_eq_false_iff, decide_eq_false_iff_not]
  omega

theorem charsFrom_map_toNat (before cs : List Char) :
    charsFrom before (cs.map Char.toNat) = some (before.reverse ++ cs) := by
  induction cs generalizing before with
  | nil => simp [charsFrom]
  | cons c cs ih =>
    cases cs with
    | nil => simp [charsFrom, isSurrogate_toNat]
    | cons d cs =>
      simp only [List.map_cons] at ih ⊢
      simp [charsFrom, isSurrogate_toNat, ih]

theorem string?_escaped (s : String) (rest : List Char) :
    string? (s.toList.flatMap escapeChar ++ '"' :: rest) = some (some s, rest) := by
  simp [string?, pointsFrom_escaped, charsFrom_map_toNat]

end SceneMarkup.Json.Reader
