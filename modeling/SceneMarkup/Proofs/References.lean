import Mathlib.Logic.Function.Basic
import SceneMarkup.Proofs.Quoted
import SceneMarkup.Source.Expression

namespace SceneMarkup

namespace Naming

variable {name : String} {t : List Char}

def bareName? (cs : List Char) : Option (String × List Char) :=
  let (name, rest) := cs.span continuesIdentifier
  if hasIdentifierShape name then some (String.ofList name, rest) else none

def EndsName (t : List Char) : Prop := ∀ c ∈ t.head?, continuesIdentifier c = false

theorem continues_of_hasIdentifierShape {cs : List Char} (h : hasIdentifierShape cs = true) :
    ∀ c ∈ cs, continuesIdentifier c = true := by
  cases cs with
  | nil => cases h
  | cons c rest =>
    rw [hasIdentifierShape, Bool.and_eq_true, List.all_eq_true] at h
    rw [List.forall_mem_cons]
    exact ⟨by simp [continuesIdentifier, h.1], h.2⟩

theorem bareName?_append (h : isBareIdentifier name = true) (ht : EndsName t) :
    bareName? (name.toList ++ t) = some (name, t) := by
  rw [isBareIdentifier, Bool.and_eq_true] at h
  rw [bareName?, Text.span_append (continues_of_hasIdentifierShape h.1) ht]
  simp only [h.1, if_true, String.ofList_toList]

def step? : List Char → Option (String × List Char)
  | '.' :: rest => bareName? rest
  | '[' :: rest =>
    match Text.quoted? rest with
    | some (name, ']' :: rest) => some (name, rest)
    | _ => none
  | _ => none

def steps? : Nat → List Char → Option (List String)
  | _, [] => some []
  | 0, _ => none
  | fuel + 1, cs => (step? cs).bind fun (name, rest) => (steps? fuel rest).map (name :: ·)

def readSteps? (text : String) : Option (List String) := steps? text.length text.toList

theorem step?_propertySuffix (name : String) (ht : EndsName t) :
    step? ((propertySuffix name).toList ++ t) = some (name, t) := by
  rw [propertySuffix]
  split
  case isTrue h =>
    rw [String.toList_append, List.append_assoc]
    exact bareName?_append h ht
  case isFalse =>
    have hquoted := Text.quoted?_quote name (']' :: t)
    simp [step?, hquoted]

theorem steps?_of_step? {cs rest : List Char} (h : step? cs = some (name, rest)) (fuel : Nat) :
    steps? (fuel + 1) cs = (steps? fuel rest).map (name :: ·) := by
  cases cs with
  | nil => cases h
  | cons c cs =>
    rw [steps?, h]
    · rfl
    · exact List.cons_ne_nil c cs

theorem exists_propertySuffix (name : String) :
    ∃ c tail, (propertySuffix name).toList = c :: tail ∧ continuesIdentifier c = false := by
  rw [propertySuffix]
  split
  · exact ⟨'.', name.toList, by simp, by decide⟩
  · exact ⟨'[', (Text.quote name).toList ++ [']'], by simp, by decide⟩

theorem endsName_suffixes (names : List String) :
    EndsName (names.flatMap fun name => (propertySuffix name).toList) := by
  cases names with
  | nil => simp [EndsName]
  | cons name rest =>
    obtain ⟨c, tail, hsuffix, hc⟩ := exists_propertySuffix name
    simpa [EndsName, hsuffix] using hc

theorem length_le_suffixes (names : List String) :
    names.length ≤ (names.flatMap fun name => (propertySuffix name).toList).length := by
  induction names with
  | nil => exact Nat.le_refl 0
  | cons name rest ih =>
    obtain ⟨c, tail, hsuffix, -⟩ := exists_propertySuffix name
    rw [List.flatMap_cons, hsuffix, List.cons_append, List.length_cons, List.length_cons,
      List.length_append]
    omega

theorem steps?_suffixes {names : List String} {fuel : Nat} (h : names.length ≤ fuel) :
    steps? fuel (names.flatMap fun name => (propertySuffix name).toList) = some names := by
  induction names generalizing fuel with
  | nil => rw [List.flatMap_nil, steps?]
  | cons name rest ih =>
    rw [List.length_cons] at h
    obtain ⟨fuel, rfl⟩ := Nat.exists_eq_add_of_le' (Nat.le_trans (Nat.le_add_left 1 _) h)
    rw [List.flatMap_cons, steps?_of_step? (step?_propertySuffix name (endsName_suffixes rest)),
      ih (Nat.le_of_add_le_add_right h), Option.map_some]

def suffixes (names : List String) : String := String.join (names.map propertySuffix)

theorem accessPath_eq (base : String) (names : List String) :
    accessPath base names = base ++ suffixes names := by
  induction names generalizing base with
  | nil => simp [accessPath, suffixes]
  | cons name rest ih =>
    rw [accessPath, List.foldl_cons, ← accessPath, ih, propertyAccess, String.append_assoc,
      suffixes, suffixes, List.map_cons, String.join_cons]

theorem readSteps?_suffixes (names : List String) : readSteps? (suffixes names) = some names := by
  have hchars : (suffixes names).toList =
      names.flatMap fun name => (propertySuffix name).toList := by
    rw [suffixes, String.toList_join, List.flatMap_map]
  rw [readSteps?, ← String.length_toList, hchars]
  exact steps?_suffixes (length_le_suffixes names)

theorem accessPath_injective (base : String) : Function.Injective (accessPath base) := by
  intro names names' h
  rw [accessPath_eq, accessPath_eq, String.append_right_inj] at h
  have hread := readSteps?_suffixes names
  rw [h, readSteps?_suffixes names'] at hread
  exact (Option.some.inj hread).symm

/-- A path is its base and then a text that is read, step by step, as the names it was made of,
whatever they hold. So no two paths from one base are written alike. -/
theorem path_decodes (base : String) :
    (∀ names, ∃ steps, accessPath base names = base ++ steps ∧ readSteps? steps = some names) ∧
      Function.Injective (accessPath base) :=
  ⟨fun names => ⟨suffixes names, accessPath_eq base names, readSteps?_suffixes names⟩,
    accessPath_injective base⟩

end Naming

theorem Scope.reference_injective (scope : Scope) :
    Function.Injective fun name => scope.reference [name] := fun _ _ h =>
  List.singleton_inj.mp (Naming.accessPath_injective scope.text h)

end SceneMarkup
