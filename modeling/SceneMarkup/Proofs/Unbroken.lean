import SceneMarkup.Proofs.Lines
import SceneMarkup.Proofs.Numerals
import SceneMarkup.Proofs.References
import SceneMarkup.Source.Expression

namespace SceneMarkup

namespace Text

def Unbroken (t : String) : Prop := '\n' ∉ t.toList

instance (t : String) : Decidable (Unbroken t) := inferInstanceAs (Decidable (¬ _))

@[simp] theorem unbroken_append {t u : String} : Unbroken (t ++ u) ↔ Unbroken t ∧ Unbroken u := by
  simp [Unbroken]

@[simp] theorem unbroken_ofList {cs : List Char} : Unbroken (String.ofList cs) ↔ '\n' ∉ cs := by
  simp [Unbroken]

theorem unbroken_join {ts : List String} (h : ∀ t ∈ ts, Unbroken t) :
    Unbroken (String.join ts) := by
  induction ts with
  | nil => decide
  | cons t rest ih =>
    rw [List.forall_mem_cons] at h
    rw [String.join_cons, unbroken_append]
    exact ⟨h.1, ih h.2⟩

theorem unbroken_intercalate {separator : String} {ts : List String} (hs : Unbroken separator)
    (h : ∀ t ∈ ts, Unbroken t) : Unbroken (separator.intercalate ts) := by
  induction ts with
  | nil => simp [Unbroken]
  | cons t rest ih =>
    rw [List.forall_mem_cons] at h
    cases rest with
    | nil => simpa using h.1
    | cons u rest =>
      rw [String.intercalate_cons_cons, unbroken_append, unbroken_append]
      exact ⟨⟨h.1, hs⟩, ih h.2⟩

theorem unbroken_natural (n : Nat) : Unbroken (toString n) := by
  intro h
  rw [Nat.toString_eq_ofList_toDigits, String.toList_ofList] at h
  exact absurd (Nat.isDigit_of_mem_toDigits (by decide) (by decide) h) (by decide)

theorem unbroken_integer (n : Int) : Unbroken (toString n) := by
  cases n with
  | ofNat n => exact unbroken_natural n
  | negSucc n => exact unbroken_append.mpr ⟨by decide, unbroken_natural (n + 1)⟩

theorem unbroken_braced {t : String} : Unbroken (braced t) ↔ Unbroken t := by
  have hopen : Unbroken "\x7b" := by decide
  have hclose : Unbroken "\x7d" := by decide
  simp [braced, hopen, hclose]

theorem unbroken_quote (t : String) : Unbroken (quote t) := not_mem_quote (.inl rfl) t

end Text

open Text

namespace Naming

theorem unbroken_propertySuffix (name : String) : Unbroken (propertySuffix name) := by
  rw [propertySuffix]
  split
  case isTrue h =>
    rw [isBareIdentifier, Bool.and_eq_true] at h
    have hname : Unbroken name := fun hm =>
      absurd (continues_of_hasIdentifierShape h.1 _ hm) (by decide)
    exact unbroken_append.mpr ⟨by decide, hname⟩
  case isFalse =>
    simp only [unbroken_append]
    exact ⟨⟨by decide, unbroken_quote name⟩, by decide⟩

theorem unbroken_accessPath {base : String} (h : Unbroken base) (names : List String) :
    Unbroken (accessPath base names) := by
  induction names generalizing base with
  | nil => exact h
  | cons name rest ih => exact ih (unbroken_append.mpr ⟨h, unbroken_propertySuffix name⟩)

end Naming

namespace Number

theorem unbroken_positional (d : Decimal) : Unbroken d.positional := fun hm =>
  absurd (continuesNumeral_of_isPositional (isPositional_positional d) _ hm) (by decide)

theorem unbroken_numeral (n : Numeral) : Unbroken n.text := fun hm =>
  absurd (continuesNumeral_of_isNumeral (isNumeral_text n) _ hm) (by decide)

end Number

namespace Json

theorem unbroken_decimalText (d : Number.Decimal) : Unbroken (decimalText d) := by
  unfold decimalText
  simp only
  split
  · rw [unbroken_append]
    constructor
    · exact Number.unbroken_positional d
    · split <;> decide
  · simp only [unbroken_append, unbroken_ofList]
    refine ⟨⟨⟨⟨⟨fun h => unbroken_natural _ (List.mem_of_mem_take h), ?_⟩,
      fun h => unbroken_natural _ (List.mem_of_mem_drop h)⟩, by decide⟩, ?_⟩, unbroken_natural _⟩
    · split <;> decide
    · split <;> decide

theorem unbroken_numberText (n : JsonNumber) : Unbroken (numberText n) := by
  cases n with
  | integer n => exact unbroken_integer n
  | real x =>
    rw [numberText, realText]
    split
    · decide
    · rw [unbroken_append]
      constructor
      · split <;> decide
      · split
        · decide
        · exact unbroken_decimalText _

theorem hexDigit_ne : ∀ n < 16, '\n' ≠ hexDigit n := by decide

theorem not_mem_escapeChar (c : Char) : '\n' ∉ escapeChar c := by
  unfold escapeChar
  split
  case h_8 =>
    split
    next hc =>
      have hhigh := hexDigit_ne (c.toNat / 16) (by omega)
      have hlow := hexDigit_ne (c.toNat % 16) (by omega)
      simp [hhigh, hlow]
    next => simp_all [eq_comm]
  all_goals decide

theorem not_mem_stringChars (t : String) : '\n' ∉ stringChars t := by
  simp [stringChars, not_mem_escapeChar]

mutual

theorem not_mem_compactChars : ∀ j : Json, '\n' ∉ compactChars j
  | .null => by
    rw [compactChars]
    decide
  | .bool b => by
    rw [compactChars]
    cases b <;> decide
  | .number n => by
    rw [compactChars]
    exact unbroken_numberText n
  | .string t => by
    rw [compactChars]
    exact not_mem_stringChars t
  | .array items => by simp [compactChars, not_mem_compactItems items]
  | .object members => by simp [compactChars, not_mem_compactMembers members]

theorem not_mem_compactItems : ∀ items : List Json, '\n' ∉ compactItems items
  | [] => by simp [compactItems]
  | [j] => not_mem_compactChars j
  | j :: k :: rest => by
    simp [compactItems, not_mem_compactChars j, not_mem_compactItems (k :: rest)]

theorem not_mem_compactMembers :
    ∀ members : List (String × Json), '\n' ∉ compactMembers members
  | [] => by simp [compactMembers]
  | [(k, v)] => by simp [compactMembers, not_mem_stringChars, not_mem_compactChars v]
  | (k, v) :: m :: rest => by
    simp [compactMembers, not_mem_stringChars, not_mem_compactChars v,
      not_mem_compactMembers (m :: rest)]

end

end Json

theorem Scope.unbroken_reference (scope : Scope) (path : List String) :
    Unbroken (scope.reference path) := by
  apply Naming.unbroken_accessPath
  cases scope <;> decide

theorem unbroken_vectorText {items : List String} (h : ∀ t ∈ items, Unbroken t) :
    Unbroken (vectorText items) := by
  simp only [vectorText, unbroken_append]
  exact ⟨⟨by decide, unbroken_intercalate (by decide) h⟩, by decide⟩

theorem Expression.unbroken_text {e : Expression} (h : ∀ t, e ≠ .verbatim t) :
    Unbroken e.text := by
  cases e with
  | verbatim t => exact absurd rfl (h t)
  | reference scope path => exact scope.unbroken_reference path
  | bool b => cases b <;> decide
  | numeral n => exact Number.unbroken_numeral n
  | vector items =>
    exact unbroken_vectorText (List.forall_mem_map.mpr fun n _ => Number.unbroken_numeral n)
  | json j => exact unbroken_ofList.mpr (Json.not_mem_compactChars j)

theorem Attribute.unbroken_render {a : Attribute} (hname : Unbroken a.name)
    (hvalue : ∀ t, a.value ≠ .expression (.verbatim t)) : Unbroken a.render := by
  have hequals : Unbroken "=" := by decide
  unfold render
  split
  next => exact hname
  next t ht =>
    split
    next => simp [hname, hequals, unbroken_braced, unbroken_quote]
    next hplain =>
      have hopen : Unbroken "=\"" := by decide
      have hclose : Unbroken "\"" := by decide
      have htext : Unbroken t := fun hm => hplain (List.any_eq_true.mpr ⟨'\n', hm, by decide⟩)
      simp [hname, hopen, hclose, htext]
  next e he =>
    have htext : Unbroken e.text := Expression.unbroken_text fun t hv => hvalue t (hv ▸ he)
    simp [hname, hequals, unbroken_braced, htext]

theorem unbroken_openingText {tag : String} {attributes : List Attribute} (htag : Unbroken tag)
    (h : ∀ a ∈ attributes, Unbroken a.render) : Unbroken (openingText tag attributes) := by
  have hopen : Unbroken "<" := by decide
  have hblank : Unbroken " " := by decide
  simp only [openingText, unbroken_append, hopen, htag, true_and]
  exact unbroken_join (List.forall_mem_map.mpr fun a ha => unbroken_append.mpr ⟨hblank, h a ha⟩)

end SceneMarkup
