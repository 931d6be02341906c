import SceneMarkup.Naming
import SceneMarkup.Unicode.Identifier

/-!
Bare names against the identifiers of the target. Both read a name character by character, but a
bare name may hold any alphabetic character and any numeral. The table of identifier characters
sorts all of them, so the names that stand bare without being identifiers are known exactly. Among
ASCII characters the two agree, and letters and digits stand bare behind a letter.
-/

namespace SceneMarkup.Unicode

section Cover

variable {uses : IdentifierUses} {ranges : Ranges} {first last n : Nat}

def IdentifierUses.from (n : Nat) : IdentifierUses → IdentifierUses
  | [] => []
  | (first, last, use) :: rest =>
    if first < n ∧ last < n then IdentifierUses.from n rest else (first, last, use) :: rest

def IdentifierUses.spans (stop : Nat) : IdentifierUses → Nat → Bool
  | [], _ => false
  | (first, last, _) :: rest, n =>
    first ≤ n && n ≤ last && (stop ≤ last || IdentifierUses.spans stop rest (last + 1))

def IdentifierUses.covers : IdentifierUses → Ranges → Bool
  | _, [] => true
  | uses, (first, last) :: rest =>
    (uses.from first).spans last first && (uses.from first).covers rest

theorem IdentifierUses.find?_from {start : Nat} (h : start ≤ n) :
    (uses.from start).find? n = uses.find? n := by
  induction uses with
  | nil => rfl
  | cons range rest ih =>
    obtain ⟨first, last, use⟩ := range
    rw [IdentifierUses.from]
    split
    case isTrue hbelow =>
      rw [ih, IdentifierUses.find?, if_neg (by omega), if_neg (by omega)]
    case isFalse => rfl

theorem IdentifierUses.isSome_of_spans (h : uses.spans last first = true) (hfirst : first ≤ n)
    (hlast : n ≤ last) : (uses.find? n).isSome = true := by
  induction uses generalizing first with
  | nil => cases h
  | cons range rest ih =>
    obtain ⟨a, b, use⟩ := range
    simp only [IdentifierUses.spans, Bool.and_eq_true, Bool.or_eq_true, decide_eq_true_eq] at h
    obtain ⟨⟨ha, hb⟩, hrest⟩ := h
    rw [IdentifierUses.find?, if_neg (by omega)]
    by_cases hn : n ≤ b
    · rw [if_pos hn, Option.isSome_some]
    · rw [if_neg hn]
      exact ih (hrest.resolve_left (by omega)) (by omega)

theorem IdentifierUses.isSome_of_covers (h : uses.covers ranges = true)
    (hn : ranges.contains n = true) : (uses.find? n).isSome = true := by
  induction ranges generalizing uses with
  | nil => cases hn
  | cons range rest ih =>
    obtain ⟨first, last⟩ := range
    rw [IdentifierUses.covers, Bool.and_eq_true] at h
    rw [Ranges.contains] at hn
    split at hn
    case isTrue => cases hn
    case isFalse hfirst =>
      rw [← IdentifierUses.find?_from (Nat.le_of_not_lt hfirst)]
      rw [Bool.or_eq_true, decide_eq_true_eq] at hn
      obtain hlast | hrest := hn
      · exact IdentifierUses.isSome_of_spans h.1 (Nat.le_of_not_lt hfirst) hlast
      · exact ih h.2 hrest

end Cover

theorem identifierUses_covers : identifierUses.covers alphabeticRanges = true ∧
    identifierUses.covers numeralRanges = true := by
  decide +kernel

theorem isSome_identifierUse? {c : Char} (h : isAlphabetic c = true ∨ isNumeral c = true) :
    (identifierUse? c).isSome = true := by
  obtain halphabetic | hnumeral := h
  · exact IdentifierUses.isSome_of_covers identifierUses_covers.1 halphabetic
  · exact IdentifierUses.isSome_of_covers identifierUses_covers.2 hnumeral

end SceneMarkup.Unicode

namespace SceneMarkup.Naming

open Unicode (identifierUse?)

def identifierStart (c : Char) : Bool :=
  c == '$' || c == '_' || identifierUse? c == some .start

def identifierPart (c : Char) : Bool :=
  identifierStart c || identifierUse? c == some .later || c == '\u200c' || c == '\u200d'

/-- What may stand after a dot: keywords count as identifier names. -/
def isIdentifierName (name : String) : Bool :=
  match name.toList with
  | [] => false
  | c :: rest => identifierStart c && rest.all identifierPart

def isMisfit (c : Char) : Bool :=
  identifierUse? c == some .never

/-- Alphabetic, and still no start of an identifier name: a misfit, or a mark that can only follow
another character. -/
def isLeadingMisfit (c : Char) : Bool :=
  Unicode.isAlphabetic c && identifierUse? c != some .start

def hasMisfit (name : String) : Bool :=
  match name.toList with
  | [] => false
  | c :: rest => isLeadingMisfit c || rest.any isMisfit

section Characters

variable {c : Char}

theorem identifierStart_eq (h : startsIdentifier c = true) :
    identifierStart c = !isLeadingMisfit c := by
  by_cases hsign : c = '$' ∨ c = '_'
  · obtain rfl | rfl := hsign <;> rfl
  · obtain ⟨hdollar, hlow⟩ := not_or.mp hsign
    have halphabetic : Unicode.isAlphabetic c = true := by
      simpa [startsIdentifier, hdollar, hlow] using h
    simp [identifierStart, isLeadingMisfit, hdollar, hlow, halphabetic, bne]

theorem identifierPart_eq (h : continuesIdentifier c = true) : identifierPart c = !isMisfit c := by
  by_cases hsign : (c = '$' ∨ c = '_') ∨ c = '\u200c' ∨ c = '\u200d'
  · obtain (rfl | rfl) | rfl | rfl := hsign <;> decide +kernel
  · simp only [not_or] at hsign
    obtain ⟨⟨hdollar, hlow⟩, hnonjoiner, hjoiner⟩ := hsign
    have hclass : Unicode.isAlphabetic c = true ∨ Unicode.isNumeral c = true := by
      simpa [continuesIdentifier, startsIdentifier, hdollar, hlow, hnonjoiner, hjoiner] using h
    obtain ⟨use, huse⟩ := Option.isSome_iff_exists.mp (Unicode.isSome_identifierUse? hclass)
    cases use <;>
      simp [identifierPart, identifierStart, isMisfit, hdollar, hlow, hnonjoiner, hjoiner, huse]

theorem isAlpha_of_isUpper (h : c.isUpper) : c.isAlpha = true :=
  (Bool.or_eq_true _ _).mpr (.inl h)

theorem toNat_lt_of_isAlphanum (h : c.isAlphanum) : c.toNat < 128 := by
  rcases (Bool.or_eq_true _ _).mp h with halpha | hdigit
  · rcases (Bool.or_eq_true _ _).mp halpha with hupper | hlower
    · have hle : c.val ≤ 'Z'.val := (of_decide_eq_true hupper).2
      exact Nat.lt_of_le_of_lt (UInt32.le_iff_toNat_le.mp hle) (by decide)
    · have hle : c.val ≤ 'z'.val := of_decide_eq_true ((Bool.and_eq_true _ _).mp hlower).2
      exact Nat.lt_of_le_of_lt (UInt32.le_iff_toNat_le.mp hle) (by decide)
  · exact Nat.lt_of_le_of_lt (Char.isDigit_iff_toNat.mp hdigit).2 (by decide)

@[elab_as_elim] theorem ascii_forall {P : Char → Prop} (h : ∀ n < 128, P (Char.ofNat n))
    (hc : c.toNat < 128) : P c :=
  Char.ofNat_toNat c ▸ h c.toNat hc

-- The ASCII characters are gone through once; what is said of some of them below is read off here.
theorem ascii_classes (h : c.toNat < 128) :
    (startsIdentifier c = identifierStart c ∧ continuesIdentifier c = identifierPart c) ∧
    (c.isDigit → c.isLower = false ∧ startsIdentifier c = false) ∧
    (c.isUpper → c.isLower = false) ∧
    (c.isAlpha → c.toUpper.isUpper = true ∧ startsIdentifier c = true) ∧
    (c.isAlphanum → continuesIdentifier c = true) := by
  refine ascii_forall ?_ h
  decide +kernel

theorem ascii_agrees (h : c.toNat < 128) :
    startsIdentifier c = identifierStart c ∧ continuesIdentifier c = identifierPart c :=
  (ascii_classes h).1

theorem isLower_eq_false_of_isDigit (h : c.isDigit) : c.isLower = false :=
  ((ascii_classes (toNat_lt_of_isAlphanum (by simp [Char.isAlphanum, h]))).2.1 h).1

theorem startsIdentifier_eq_false_of_isDigit (h : c.isDigit) : startsIdentifier c = false :=
  ((ascii_classes (toNat_lt_of_isAlphanum (by simp [Char.isAlphanum, h]))).2.1 h).2

theorem isLower_eq_false_of_isUpper (h : c.isUpper) : c.isLower = false :=
  (ascii_classes (toNat_lt_of_isAlphanum (by simp [Char.isAlphanum, isAlpha_of_isUpper h]))).2.2.1 h

theorem isUpper_toUpper (h : c.isAlpha) : c.toUpper.isUpper = true :=
  ((ascii_classes (toNat_lt_of_isAlphanum (by simp [Char.isAlphanum, h]))).2.2.2.1 h).1

theorem continues_of_isAlphanum (h : c.isAlphanum) :
    continuesIdentifier c = true ∧ (c.isAlpha → startsIdentifier c = true) :=
  have hclasses := ascii_classes (toNat_lt_of_isAlphanum h)
  ⟨hclasses.2.2.2.2 h, fun halpha => (hclasses.2.2.2.1 halpha).2⟩

end Characters

section Names

variable {name : String}

theorem all_identifierPart {chars : List Char} (h : chars.all continuesIdentifier = true) :
    chars.all identifierPart = !chars.any isMisfit := by
  induction chars with
  | nil => rfl
  | cons c rest ih =>
    rw [List.all_cons, Bool.and_eq_true] at h
    rw [List.all_cons, List.any_cons, identifierPart_eq h.1, ih h.2, Bool.not_or]

theorem isIdentifierName_of_bare (h : isBareIdentifier name = true) :
    isIdentifierName name = !hasMisfit name := by
  rw [isBareIdentifier, Bool.and_eq_true] at h
  have hshape := h.1
  unfold isIdentifierName hasMisfit
  cases hchars : name.toList with
  | nil => rw [hchars] at hshape; cases hshape
  | cons c rest =>
    rw [hchars, hasIdentifierShape, Bool.and_eq_true] at hshape
    obtain ⟨hstart, hrest⟩ := hshape
    change (identifierStart c && rest.all identifierPart) = !(isLeadingMisfit c || rest.any isMisfit)
    rw [identifierStart_eq hstart, all_identifierPart hrest, Bool.not_or]

theorem ne_empty_of_bare (h : isBareIdentifier name = true) : name ≠ "" := by
  rintro rfl
  cases h

theorem bare_eq_false_of_not_identifierName (hname : isIdentifierName name = false)
    (hmisfit : hasMisfit name = false) : isBareIdentifier name = false := by
  rw [← Bool.not_eq_true]
  intro hbare
  have hfit := isIdentifierName_of_bare hbare
  rw [hname, hmisfit] at hfit
  cases hfit

theorem hasIdentifierShape_of_ascii (h : ∀ c ∈ name.toList, c.toNat < 128) :
    hasIdentifierShape name.toList = isIdentifierName name := by
  unfold isIdentifierName
  cases hchars : name.toList with
  | nil => rfl
  | cons c rest =>
    rw [hchars, List.forall_mem_cons] at h
    have hrest : rest.all continuesIdentifier = rest.all identifierPart := by
      rw [Bool.eq_iff_iff, List.all_eq_true, List.all_eq_true]
      exact forall₂_congr fun c hc => by rw [(ascii_agrees (h.2 c hc)).2]
    rw [hasIdentifierShape, (ascii_agrees h.1).1, hrest]

theorem all_isLower_of_mem_reservedWords :
    ∀ word ∈ reservedWords, word.toList.all Char.isLower = true := by
  decide

theorem isBareIdentifier_of_alphanum {first : Char} {rest : List Char}
    (hname : name.toList = first :: rest) (hfirst : first.isAlpha = true)
    (hrest : ∀ c ∈ rest, c.isAlphanum = true) (hfree : ∃ c ∈ name.toList, c.isLower = false) :
    isBareIdentifier name = true := by
  have hstart := (continues_of_isAlphanum (by simp [Char.isAlphanum, hfirst])).2 hfirst
  have hcontinues : rest.all continuesIdentifier = true :=
    List.all_eq_true.mpr fun c hc => (continues_of_isAlphanum (hrest c hc)).1
  have hreserved : name ∉ reservedWords := by
    intro hm
    obtain ⟨c, hc, hlower⟩ := hfree
    rw [List.all_eq_true.mp (all_isLower_of_mem_reservedWords name hm) c hc] at hlower
    cases hlower
  rw [isBareIdentifier, hname, hasIdentifierShape, hstart, hcontinues]
  simpa using hreserved

/-- A bare name is an identifier name exactly when it has no misfit, and is written as it is; any
name that has no misfit and is no identifier name is quoted, as is any name that is not bare. An
ASCII name is bare whenever it is an identifier name and no reserved word. -/
theorem dotted_or_quoted (base name : String) :
    (isBareIdentifier name = true →
      name ≠ "" ∧ propertyAccess base name = base ++ "." ++ name ∧ objectKey name = name ∧
        isIdentifierName name = !hasMisfit name) ∧
    (isBareIdentifier name = false ∨ isIdentifierName name = false ∧ hasMisfit name = false →
      propertyAccess base name = base ++ "[" ++ Text.quote name ++ "]" ∧
        objectKey name = Text.quote name) ∧
    ((∀ c ∈ name.toList, c.toNat < 128) →
      isBareIdentifier name = (isIdentifierName name && !reservedWords.contains name)) := by
  refine ⟨fun hbare => ⟨ne_empty_of_bare hbare, ?_, ?_, isIdentifierName_of_bare hbare⟩, ?_, ?_⟩
  · rw [propertyAccess, propertySuffix, if_pos hbare, String.append_assoc]
  · rw [objectKey, if_pos hbare]
  · intro hquoted
    have hbare : ¬ isBareIdentifier name = true := by
      rw [Bool.not_eq_true]
      obtain hbare | ⟨hname, hmisfit⟩ := hquoted
      · exact hbare
      · exact bare_eq_false_of_not_identifierName hname hmisfit
    rw [propertyAccess, propertySuffix, objectKey, if_neg hbare, if_neg hbare]
    exact ⟨by simp only [String.append_assoc], rfl⟩
  · intro hascii
    rw [isBareIdentifier, hasIdentifierShape_of_ascii hascii]

theorem house_dotted_digit_quoted :
    isIdentifierName "Haus_Süd" = true ∧
      propertyAccess "nodes" "2nd" = "nodes" ++ "[" ++ Text.quote "2nd" ++ "]" ∧
      isIdentifierName "class" = true ∧ isBareIdentifier "class" = false := by
  have hmisfit : hasMisfit "Haus_Süd" = false := by decide +kernel
  have hclass : isIdentifierName "class" = true := by decide +kernel
  refine ⟨?_, ((dotted_or_quoted "nodes" "2nd").2.1 (.inr (by decide +kernel))).1, hclass, ?_⟩
  · rw [((dotted_or_quoted "nodes" "Haus_Süd").1 (by decide +kernel)).2.2.2, hmisfit]
    rfl
  · have hascii : ∀ c ∈ "class".toList, c.toNat < 128 := by simp
    rw [(dotted_or_quoted "nodes" "class").2.2 hascii, hclass]
    decide +kernel

/-- The superscript is a numeral, so the name is bare, and no identifier may hold it. -/
theorem superscript_dotted :
    isBareIdentifier "m²" = true ∧ isIdentifierName "m²" = false ∧
      propertyAccess "nodes" "m²" = "nodes.m²" := by
  decide +kernel

end Names

end SceneMarkup.Naming
