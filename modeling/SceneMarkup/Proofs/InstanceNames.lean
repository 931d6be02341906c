import SceneMarkup.Proofs.IdentifierNames
import SceneMarkup.Proofs.Registry
import SceneMarkup.Source.Expression

namespace SceneMarkup

namespace Naming

variable {name : String}

/-- A capital, letters, and perhaps a number without leading zero, all of them of ASCII. -/
def IsDisplayName (name : String) : Prop :=
  ∃ first letters digits, name.toList = first :: (letters ++ digits) ∧ first.isUpper = true ∧
    (∀ c ∈ letters, c.isAlpha = true) ∧ (∀ c ∈ digits, c.isDigit = true) ∧ digits.head? ≠ some '0'

theorem exists_displayChars (source : List Char) :
    ∃ first letters, displayChars source = first :: letters ∧ first.isUpper = true ∧
      ∀ c ∈ letters, c.isAlpha = true := by
  rw [displayChars]
  split
  case h_1 => exact ⟨'P', ['a', 'r', 't'], rfl, rfl, List.all_eq_true.mp rfl⟩
  case h_2 c rest hletters =>
    have hall : ∀ d ∈ c :: rest, d.isAlpha = true := fun d hd =>
      (List.mem_filter.mp (hletters ▸ hd)).2
    rw [List.forall_mem_cons] at hall
    exact ⟨c.toUpper, rest, rfl, isUpper_toUpper hall.1, hall.2⟩

theorem isDisplayName_of_numbered {source : String} (h : Numbered (displayBase source) name) :
    IsDisplayName name := by
  obtain ⟨first, letters, hchars, hfirst, hletters⟩ := exists_displayChars source.toList
  have hbase : (displayBase source).toList = first :: letters := by
    rw [displayBase, String.toList_ofList, hchars]
  cases h with
  | plain => exact ⟨first, letters, [], by simp [hbase], hfirst, hletters, by simp, by simp⟩
  | @suffixed k hk =>
    exact ⟨first, letters, Nat.toDigits 10 k, by simp [hbase], hfirst, hletters,
      isDigit_toDigits k, head?_toDigits hk⟩

namespace IsDisplayName

theorem exists_toList (h : IsDisplayName name) : ∃ first rest, name.toList = first :: rest ∧
    first.isUpper = true ∧ ∀ c ∈ rest, c.isAlphanum = true := by
  obtain ⟨first, letters, digits, hname, hfirst, hletters, hdigits, -⟩ := h
  refine ⟨first, letters ++ digits, hname, hfirst, fun c hc => ?_⟩
  rw [Char.isAlphanum, Bool.or_eq_true]
  exact (List.mem_append.mp hc).imp (hletters c) (hdigits c)

theorem isBareIdentifier (h : IsDisplayName name) : isBareIdentifier name = true := by
  obtain ⟨first, rest, hname, hfirst, hrest⟩ := h.exists_toList
  exact isBareIdentifier_of_alphanum hname (isAlpha_of_isUpper hfirst) hrest
    ⟨first, by simp [hname], isLower_eq_false_of_isUpper hfirst⟩

theorem reference_eq (h : IsDisplayName name) :
    Scope.instances.reference [name] = "instances." ++ name := by
  rw [Scope.reference, accessPath, List.foldl_cons, List.foldl_nil, propertyAccess, propertySuffix,
    if_pos h.isBareIdentifier, ← String.append_assoc]
  rfl

end IsDisplayName

end Naming

theorem Registry.Records.isDisplayName {scene : Scene} {ps firsts : List Placed} {r : Registry}
    (h : Records scene ps firsts r) {g : SharedGeometry} (hg : g ∈ r.geometries) :
    Naming.IsDisplayName g.name := by
  have hname : g.name ∈ r.geometries.map (·.name) := List.mem_map_of_mem hg
  rw [h.names] at hname
  obtain ⟨base, hbase, hnumbered⟩ := Naming.exists_base_of_mem hname
  obtain ⟨p, -, rfl⟩ := List.mem_map.mp hbase
  exact Naming.isDisplayName_of_numbered hnumbered

example : Naming.uniqueAll [] (["größe 2", "gre", "1%", "part"].map Naming.displayBase) =
    ["Gre", "Gre1", "Part", "Part1"] := by
  decide +kernel

end SceneMarkup
