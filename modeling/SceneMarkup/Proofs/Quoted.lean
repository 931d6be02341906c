import Mathlib.Data.List.Infix
import Mathlib.Data.List.TakeDrop
import SceneMarkup.Text

namespace SceneMarkup.Text

theorem span_append {p : Char → Bool} {cs t : List Char} (h : ∀ c ∈ cs, p c = true)
    (ht : ∀ c ∈ t.head?, p c = false) : (cs ++ t).span p = (cs, t) := by
  rw [List.span_eq_takeWhile_dropWhile, List.takeWhile_append_of_pos h,
    List.dropWhile_append_of_pos h]
  cases t with
  | nil => simp
  | cons c t => simp [ht c rfl]

theorem isPrefixOf?_append (cs t : List Char) : cs.isPrefixOf? (cs ++ t) = some t :=
  List.isPrefixOf?_eq_some_iff_append_eq.mpr rfl

def unescape? : Char → Option Char
  | '\\' => some '\\'
  | '\x27' => some '\x27'
  | 'n' => some '\n'
  | 'r' => some '\r'
  | _ => none

/-- The text of a literal from behind its opening quote, and what follows the closing one. No line
breaks inside a literal. -/
def quotedFrom : List Char → Option (List Char × List Char)
  | '\x27' :: rest => some ([], rest)
  | '\\' :: c :: rest =>
    match unescape? c with
    | some e => (quotedFrom rest).map fun (text, rest) => (e :: text, rest)
    | none => none
  | c :: rest =>
    if c = '\n' ∨ c = '\r' then none
    else (quotedFrom rest).map fun (text, rest) => (c :: text, rest)
  | [] => none

def quoted? : List Char → Option (String × List Char)
  | '\x27' :: rest => (quotedFrom rest).map fun (text, rest) => (String.ofList text, rest)
  | _ => none

theorem quotedFrom_cons {c : Char} (hquote : c ≠ '\x27') (hslash : c ≠ '\\')
    (hbreak : ¬ (c = '\n' ∨ c = '\r')) (rest : List Char) :
    quotedFrom (c :: rest) = (quotedFrom rest).map fun (text, rest) => (c :: text, rest) := by
  rw [quotedFrom, if_neg hbreak] <;> simp_all

theorem quotedFrom_escapeChar (c : Char) (rest : List Char) :
    quotedFrom (escapeChar c ++ rest) =
      (quotedFrom rest).map fun (text, rest) => (c :: text, rest) := by
  fun_cases escapeChar c
  case case5 hslash hquote hfeed hreturn =>
    exact quotedFrom_cons hquote hslash (not_or.mpr ⟨hfeed, hreturn⟩) rest
  all_goals rfl

theorem quotedFrom_escaped (text rest : List Char) :
    quotedFrom (text.flatMap escapeChar ++ '\x27' :: rest) = some (text, rest) := by
  induction text with
  | nil => rfl
  | cons c text ih =>
    rw [List.flatMap_cons, List.append_assoc, quotedFrom_escapeChar, ih, Option.map_some]

theorem quoted?_quote (text : String) (rest : List Char) :
    quoted? ((quote text).toList ++ rest) = some (text, rest) := by
  rw [quote, String.toList_ofList, quoteChars, List.cons_append, List.append_assoc, quoted?,
    List.singleton_append, quotedFrom_escaped, Option.map_some]
  simp only [String.ofList_toList]

theorem not_mem_escapeChar {c : Char} (h : c = '\n' ∨ c = '\r') (d : Char) : c ∉ escapeChar d := by
  rcases h with rfl | rfl
  all_goals
    unfold escapeChar
    split <;> simp_all [eq_comm]

theorem not_mem_quote {c : Char} (h : c = '\n' ∨ c = '\r') (text : String) :
    c ∉ (quote text).toList := by
  have hquote : c ≠ '\x27' := by rcases h with rfl | rfl <;> decide
  simp [quote, quoteChars, not_mem_escapeChar h, hquote]

/-- The character at a place is escaped by a backslash before it that is not escaped itself. -/
def IsEscaped (cs : List Char) : Nat → Prop
  | 0 => False
  | i + 1 => cs[i]? = some '\\' ∧ ¬ IsEscaped cs i

def IsBareQuote (cs : List Char) (i : Nat) : Prop := cs[i]? = some '\x27' ∧ ¬ IsEscaped cs i

theorem isEscaped_append {before cs : List Char}
    (h : ¬ IsEscaped (before ++ cs) before.length) (i : Nat) :
    IsEscaped (before ++ cs) (before.length + i) ↔ IsEscaped cs i := by
  induction i with
  | zero => exact iff_of_false h id
  | succ i ih =>
    rw [← Nat.add_assoc, IsEscaped, IsEscaped, ih, List.getElem?_append_right (by omega),
      Nat.add_sub_cancel_left]

theorem isBareQuote_append {before cs : List Char}
    (h : ¬ IsEscaped (before ++ cs) before.length) (i : Nat) :
    IsBareQuote (before ++ cs) (before.length + i) ↔ IsBareQuote cs i := by
  rw [IsBareQuote, IsBareQuote, isEscaped_append h, List.getElem?_append_right (by omega),
    Nat.add_sub_cancel_left]

theorem not_isEscaped_escapeChar (c : Char) (cs : List Char) :
    ¬ IsEscaped (escapeChar c ++ cs) (escapeChar c).length := by
  fun_cases escapeChar c
  case case5 hslash hquote hfeed hreturn => simpa [IsEscaped] using hslash
  all_goals simp [IsEscaped]

theorem not_isBareQuote_escapeChar {c : Char} {i : Nat} (hi : i < (escapeChar c).length)
    (cs : List Char) : ¬ IsBareQuote (escapeChar c ++ cs) i := by
  fun_cases escapeChar c
  case case5 hslash hquote hfeed hreturn =>
    obtain rfl : i = 0 := by simpa [escapeChar] using hi
    simpa [IsBareQuote, IsEscaped] using hquote
  all_goals
    have hi' : i = 0 ∨ i = 1 := by
      simp only [escapeChar, List.length_cons, List.length_nil] at hi
      omega
    rcases hi' with rfl | rfl <;> simp [IsBareQuote, IsEscaped]

theorem isBareQuote_escaped (text : List Char) (i : Nat) :
    IsBareQuote (text.flatMap escapeChar ++ ['\x27']) i ↔
      i = (text.flatMap escapeChar).length := by
  induction text generalizing i with
  | nil => cases i <;> simp [IsBareQuote, IsEscaped]
  | cons c text ih =>
    rw [List.flatMap_cons, List.append_assoc, List.length_append]
    by_cases hi : i < (escapeChar c).length
    · exact iff_of_false (not_isBareQuote_escapeChar hi _) (by omega)
    · obtain ⟨j, rfl⟩ := Nat.exists_eq_add_of_le (not_lt.mp hi)
      rw [isBareQuote_append (not_isEscaped_escapeChar c _), ih, Nat.add_right_inj]

theorem isBareQuote_quote (text : String) (i : Nat) :
    IsBareQuote (quote text).toList i ↔ i = 0 ∨ i + 1 = (quote text).toList.length := by
  rw [quote, String.toList_ofList, quoteChars]
  cases i with
  | zero => simp [IsBareQuote, IsEscaped]
  | succ i =>
    have hopen : ¬ IsEscaped (['\x27'] ++ (text.toList.flatMap escapeChar ++ ['\x27'])) 1 := by
      simp [IsEscaped]
    have hinside := isBareQuote_append hopen i
    rw [List.length_singleton, Nat.add_comm 1 i, List.singleton_append] at hinside
    rw [hinside, isBareQuote_escaped]
    simp

/-- A literal stands on one line, and its first and its last quote are the only ones without an
escape. A reader that starts at the first goes to the last, whatever follows, and has the text. -/
theorem quote_encodes (text : String) :
    '\n' ∉ (quote text).toList ∧ '\r' ∉ (quote text).toList ∧
      (∀ i, IsBareQuote (quote text).toList i ↔ i = 0 ∨ i + 1 = (quote text).toList.length) ∧
      ∀ rest, quoted? ((quote text).toList ++ rest) = some (text, rest) :=
  ⟨not_mem_quote (.inl rfl) text, not_mem_quote (.inr rfl) text, isBareQuote_quote text,
    quoted?_quote text⟩

end SceneMarkup.Text
