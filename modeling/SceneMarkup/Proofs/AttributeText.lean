import Mathlib.Data.List.TakeWhile
import SceneMarkup.Json.Reader
import SceneMarkup.Proofs.Quoted
import SceneMarkup.Scene.Basic
import SceneMarkup.Source.Expression

namespace SceneMarkup

namespace Text

/-- The names of character references. Which of them there are is left open. -/
abbrev ReferenceNames := String → Option Char

def numberOf? (base : Nat) (digits : List Char) : Option Nat := do
  let values ← digits.mapM Json.Reader.hexValue?
  if !values.isEmpty && values.all (· < base) then some (values.foldl (fun n d => base * n + d) 0)
  else none

def charOf? (n : Nat) : Option Char := if n.isValidChar then some (Char.ofNat n) else none

def reference? (names : ReferenceNames) : List Char → Option Char
  | '#' :: 'x' :: digits => (numberOf? 16 digits).bind charOf?
  | '#' :: digits => (numberOf? 10 digits).bind charOf?
  | name => names (String.ofList name)

def referenceAt? (names : ReferenceNames) (cs : List Char) : Option (Char × Nat) :=
  match cs.span (· != ';') with
  | (body, ';' :: _) => (reference? names body).map fun c => (c, body.length + 1)
  | _ => none

/-- The text with its references decoded, after so many characters that belong to one already. An
ampersand that begins no reference stands for itself. -/
def decodeFrom (names : ReferenceNames) : Nat → List Char → List Char
  | _, [] => []
  | skip + 1, _ :: rest => decodeFrom names skip rest
  | 0, c :: rest =>
    match if c = '&' then referenceAt? names rest else none with
    | some (d, length) => d :: decodeFrom names length rest
    | none => c :: decodeFrom names 0 rest

def decode (names : ReferenceNames) (text : String) : String :=
  String.ofList (decodeFrom names 0 text.toList)

def HasReference (names : ReferenceNames) (cs : List Char) : Prop :=
  ∃ before body after, cs = before ++ '&' :: (body ++ ';' :: after) ∧ ';' ∉ body ∧
    (reference? names body).isSome

variable {names : ReferenceNames} {cs : List Char}

theorem referenceAt?_append {body : List Char} (h : ';' ∉ body) (after : List Char) :
    referenceAt? names (body ++ ';' :: after) =
      (reference? names body).map fun c => (c, body.length + 1) := by
  have hbody : ∀ c ∈ body, (c != ';') = true := fun c hc => by
    rw [bne_iff_ne]
    rintro rfl
    exact h hc
  rw [referenceAt?, span_append hbody (by simp)]
  rfl

theorem exists_of_referenceAt? {c : Char} {n : Nat} (h : referenceAt? names cs = some (c, n)) :
    ∃ body after, cs = body ++ ';' :: after ∧ ';' ∉ body ∧ reference? names body = some c ∧
      n = body.length + 1 := by
  rw [referenceAt?, List.span_eq_takeWhile_dropWhile] at h
  split at h
  case h_1 body after hspan =>
    obtain ⟨d, hd, heq⟩ := Option.map_eq_some_iff.mp h
    obtain ⟨hbody, hafter⟩ := Prod.mk.inj hspan
    cases heq
    refine ⟨body, after, ?_, ?_, hd, rfl⟩
    · rw [← hbody, ← hafter, List.takeWhile_append_dropWhile]
    · intro hmem
      rw [← hbody] at hmem
      simpa using List.mem_takeWhile_imp hmem
  case h_2 => cases h

theorem hasReference_cons {c : Char} : HasReference names (c :: cs) ↔
    c = '&' ∧ (referenceAt? names cs).isSome ∨ HasReference names cs := by
  constructor
  · rintro ⟨before, body, after, heq, hbody, hsome⟩
    cases before with
    | nil =>
      obtain ⟨rfl, rfl⟩ := List.cons.inj heq
      exact .inl ⟨rfl, by rw [referenceAt?_append hbody, Option.isSome_map]; exact hsome⟩
    | cons d before =>
      obtain ⟨-, rfl⟩ := List.cons.inj heq
      exact .inr ⟨before, body, after, rfl, hbody, hsome⟩
  · rintro (⟨rfl, hsome⟩ | ⟨before, body, after, rfl, hbody, hsome⟩)
    · obtain ⟨⟨d, n⟩, hat⟩ := Option.isSome_iff_exists.mp hsome
      obtain ⟨body, after, rfl, hbody, hd, -⟩ := exists_of_referenceAt? hat
      exact ⟨[], body, after, rfl, hbody, by rw [hd]; rfl⟩
    · exact ⟨c :: before, body, after, rfl, hbody, hsome⟩

theorem decodeFrom_eq_self (h : ¬ HasReference names cs) : decodeFrom names 0 cs = cs := by
  induction cs with
  | nil => rfl
  | cons c rest ih =>
    rw [hasReference_cons, not_or] at h
    have hnone : (if c = '&' then referenceAt? names rest else none) = none := by
      split
      · next hc => simpa using fun hsome => h.1 ⟨hc, hsome⟩
      · rfl
    rw [decodeFrom, hnone]
    simp only [ih h.2]

theorem length_decodeFrom_le (skip : Nat) (cs : List Char) :
    (decodeFrom names skip cs).length ≤ cs.length - skip := by
  fun_induction decodeFrom names skip cs with
  | case1 => simp
  | case2 _ _ _ ih | case3 _ _ _ _ _ ih | case4 _ _ _ ih =>
    simp only [List.length_cons]
    omega

theorem length_decodeFrom_lt (h : HasReference names cs) :
    (decodeFrom names 0 cs).length < cs.length := by
  induction cs with
  | nil =>
    obtain ⟨before, body, after, heq, -⟩ := h
    simp at heq
  | cons c rest ih =>
    rw [decodeFrom]
    split
    case h_1 d n hat =>
      split at hat
      case isTrue =>
        obtain ⟨body, after, rfl, -, -, rfl⟩ := exists_of_referenceAt? hat
        have hle : (decodeFrom names (body.length + 1) (body ++ ';' :: after)).length ≤ _ :=
          length_decodeFrom_le _ _
        simp only [List.length_cons, List.length_append] at hle ⊢
        omega
      case isFalse => cases hat
    case h_2 hat =>
      rw [hasReference_cons] at h
      have hrest : HasReference names rest := h.resolve_left fun ⟨hc, hsome⟩ => by
        rw [if_pos hc] at hat
        rw [hat] at hsome
        cases hsome
      exact Nat.succ_lt_succ (ih hrest)

theorem decode_eq_self_iff (text : String) :
    decode names text = text ↔ ¬ HasReference names text.toList := by
  constructor
  · intro h hreference
    have hlength := length_decodeFrom_lt hreference
    rw [← String.toList_ofList (l := decodeFrom names 0 text.toList), ← decode, h] at hlength
    exact hlength.false
  · intro h
    rw [decode, decodeFrom_eq_self h, String.ofList_toList]

end Text

namespace Attribute

open Text

/-- The text given to the attribute of this name, and what follows the attribute. -/
def readText? (names : ReferenceNames) (name : String) (cs : List Char) :
    Option (String × List Char) :=
  match name.toList.isPrefixOf? cs with
  | some ('=' :: '"' :: rest) =>
    match rest.span (· != '"') with
    | (raw, '"' :: rest) => some (decode names (String.ofList raw), rest)
    | _ => none
  | some ('=' :: '{' :: rest) =>
    match quoted? rest with
    | some (t, '}' :: rest) => some (t, rest)
    | _ => none
  | _ => none

variable {names : ReferenceNames} {name t : String}

theorem readText?_literal (h : needsLiteral t) (after : List Char) :
    readText? names name ((text name t).render.toList ++ after) = some (t, after) := by
  have hrender : (text name t).render.toList ++ after =
      name.toList ++ '=' :: '{' :: ((quote t).toList ++ '}' :: after) := by
    simp [render, text, h, braced]
  rw [hrender, readText?, isPrefixOf?_append]
  simp only [quoted?_quote]

theorem readText?_plain (h : ¬ needsLiteral t) (after : List Char) :
    readText? names name ((text name t).render.toList ++ after) = some (decode names t, after) := by
  have hrender : (text name t).render.toList ++ after =
      name.toList ++ '=' :: '"' :: (t.toList ++ '"' :: after) := by
    simp [render, text, h]
  have hraw : ∀ c ∈ t.toList, (c != '"') = true := fun c hc => by
    rw [bne_iff_ne]
    rintro rfl
    exact h (List.any_eq_true.mpr ⟨'"', hc, rfl⟩)
  rw [hrender, readText?, isPrefixOf?_append]
  simp only [span_append hraw (t := '"' :: after) (by simp), String.ofList_toList]

end Attribute

theorem Color.not_hasReference (c : Color) (names : Text.ReferenceNames) :
    ¬ Text.HasReference names c.text.toList := by
  have hdigit : ∀ n < 16, Nat.digitChar n ≠ '&' := by decide
  have hchannel : ∀ x, '&' ∉ (channelHex x).toList := fun x hm => by
    have hlt : channel x < 256 := by
      rw [channel]
      split
      · decide
      · exact UInt8.toNat_lt _
    simp only [channelHex, String.toList_ofList, List.mem_cons, List.not_mem_nil, or_false] at hm
    rcases hm with hm | hm
    · exact hdigit _ (by omega) hm.symm
    · exact hdigit _ (by omega) hm.symm
  rintro ⟨before, body, after, heq, -⟩
  have hmem : '&' ∈ c.text.toList := by
    rw [heq]
    exact List.mem_append_right before List.mem_cons_self
  simp [text, hex, hchannel] at hmem

namespace Attribute

/-- What is read of a text attribute is its text with all references decoded, or, of the texts that
a plain string cannot hold, the text itself. So the text comes back exactly if it needs a literal or
holds no reference, which no color does. -/
theorem readText?_render (names : Text.ReferenceNames) (name t : String) :
    (∀ after, readText? names name ((text name t).render.toList ++ after) =
      some (if needsLiteral t then t else Text.decode names t, after)) ∧
    (readText? names name (text name t).render.toList = some (t, []) ↔
      needsLiteral t ∨ ¬ Text.HasReference names t.toList) ∧
    ∀ c : Color, readText? names name (text name c.text).render.toList = some (c.text, []) := by
  have hread (t : String) (after : List Char) :
      readText? names name ((text name t).render.toList ++ after) =
        some (if needsLiteral t then t else Text.decode names t, after) := by
    split
    case isTrue h => exact readText?_literal h after
    case isFalse h => exact readText?_plain h after
  have hlossless (t : String) : readText? names name (text name t).render.toList = some (t, []) ↔
      needsLiteral t ∨ ¬ Text.HasReference names t.toList := by
    rw [← List.append_nil (text name t).render.toList, hread]
    by_cases h : needsLiteral t
    · simp [h]
    · simp [h, Text.decode_eq_self_iff]
  exact ⟨hread t, hlossless t, fun c => (hlossless c.text).mpr (.inr (c.not_hasReference names))⟩

def commonNames : Text.ReferenceNames := fun name =>
  [("amp", '&'), ("lt", '<'), ("gt", '>'), ("quot", '"'), ("apos", '\x27')].lookup name

/-- The ampersand of a name is taken for that of a reference. -/
theorem reference_lost :
    (text "name" "R&amp;D").render = "name=\"R&amp;D\"" ∧
      readText? commonNames "name" (text "name" "R&amp;D").render.toList = some ("R&D", []) := by
  decide +kernel

end Attribute

end SceneMarkup
