import SceneMarkup.Json.Printer
import SceneMarkup.Json.Reader

namespace SceneMarkup.Json

theorem induct {P : Json → Prop} (null : P .null) (bool : ∀ b, P (.bool b))
    (number : ∀ n, P (.number n)) (string : ∀ s, P (.string s))
    (array : ∀ items, (∀ j ∈ items, P j) → P (.array items))
    (object : ∀ members, (∀ m ∈ members, P m.2) → P (.object members)) (j : Json) : P j :=
  @Json.rec P (fun items => ∀ j ∈ items, P j) (fun members => ∀ m ∈ members, P m.2)
    (fun m => P m.2) null bool number string array object (List.forall_mem_nil _)
    (fun _ _ hj hrest => List.forall_mem_cons.mpr ⟨hj, hrest⟩) (List.forall_mem_nil _)
    (fun _ _ hm hrest => List.forall_mem_cons.mpr ⟨hm, hrest⟩) (fun _ _ hj => hj) j

structure Layout where
  gap : Nat → List Char
  space : List Char
  gap_blank : ∀ depth, ∀ c ∈ gap depth, Reader.isBlank c
  space_blank : ∀ c ∈ space, Reader.isBlank c

namespace Layout

variable (l : Layout)

mutual

def chars (depth : Nat) : Json → List Char
  | .null => "null".toList
  | .bool b => boolChars b
  | .number n => (numberText n).toList
  | .string s => stringChars s
  | .array [] => ['[', ']']
  | .array (j :: rest) => '[' :: (itemChars (depth + 1) (j :: rest) ++ (l.gap depth ++ [']']))
  | .object [] => ['{', '}']
  | .object (m :: rest) => '{' :: (memberChars (depth + 1) (m :: rest) ++ (l.gap depth ++ ['}']))

def itemChars (depth : Nat) : List Json → List Char
  | [] => []
  | [j] => l.gap depth ++ chars depth j
  | j :: rest => l.gap depth ++ (chars depth j ++ ',' :: itemChars depth rest)

def memberChars (depth : Nat) : List (String × Json) → List Char
  | [] => []
  | [(k, v)] => l.gap depth ++ (stringChars k ++ ':' :: (l.space ++ chars depth v))
  | (k, v) :: rest => l.gap depth ++
      (stringChars k ++ ':' :: (l.space ++ (chars depth v ++ ',' :: memberChars depth rest)))

end

def compact : Layout where
  gap _ := []
  space := []
  gap_blank := by simp
  space_blank := by simp

def pretty : Layout where
  gap depth := '\n' :: Text.padding depth
  space := [' ']
  gap_blank depth := by
    rw [List.forall_mem_cons]
    refine ⟨rfl, fun c hc => ?_⟩
    rw [List.eq_of_mem_replicate hc]
    rfl
  space_blank := List.forall_mem_singleton.mpr rfl

end Layout

theorem compactItems_eq {items : List Json} {depth : Nat}
    (h : ∀ j ∈ items, ∀ depth, j.compactChars = Layout.compact.chars depth j) :
    compactItems items = Layout.compact.itemChars depth items := by
  induction items with
  | nil => rfl
  | cons j rest ih =>
    rw [List.forall_mem_cons] at h
    cases rest with
    | nil => exact h.1 depth
    | cons j' rest =>
      simp only [compactItems, ih h.2, h.1 depth]
      rfl

theorem compactMembers_eq {members : List (String × Json)} {depth : Nat}
    (h : ∀ m ∈ members, ∀ depth, m.2.compactChars = Layout.compact.chars depth m.2) :
    compactMembers members = Layout.compact.memberChars depth members := by
  induction members with
  | nil => rfl
  | cons m rest ih =>
    obtain ⟨k, v⟩ := m
    rw [List.forall_mem_cons] at h
    cases rest with
    | nil =>
      rw [compactMembers, h.1 depth]
      rfl
    | cons m' rest =>
      simp only [compactMembers, ih h.2, h.1 depth, List.append_assoc]
      rfl

theorem compactChars_eq (j : Json) (depth : Nat) :
    j.compactChars = Layout.compact.chars depth j := by
  induction j using induct generalizing depth with
  | array items ih =>
    cases items with
    | nil => rfl
    | cons j rest =>
      rw [compactChars, compactItems_eq ih]
      rfl
  | object members ih =>
    cases members with
    | nil => rfl
    | cons m rest =>
      rw [compactChars, compactMembers_eq ih]
      rfl
  | _ => rfl

theorem prettyItems_eq {items : List Json} {depth : Nat} (hne : items ≠ [])
    (h : ∀ j ∈ items, ∀ depth, j.prettyChars depth = Layout.pretty.chars depth j) :
    '\n' :: prettyItems depth items = Layout.pretty.itemChars depth items ++ ['\n'] := by
  induction items with
  | nil => contradiction
  | cons j rest ih =>
    rw [List.forall_mem_cons] at h
    cases rest with
    | nil => simp [prettyItems, Layout.itemChars, Layout.pretty, h.1 depth]
    | cons j' rest =>
      have ih := ih (List.cons_ne_nil _ _) h.2
      simp only [Layout.itemChars, List.append_assoc, List.cons_append, ← ih]
      simp [prettyItems, Layout.pretty, h.1 depth]

theorem prettyMembers_eq {members : List (String × Json)} {depth : Nat} (hne : members ≠ [])
    (h : ∀ m ∈ members, ∀ depth, m.2.prettyChars depth = Layout.pretty.chars depth m.2) :
    '\n' :: prettyMembers depth members = Layout.pretty.memberChars depth members ++ ['\n'] := by
  induction members with
  | nil => contradiction
  | cons m rest ih =>
    obtain ⟨k, v⟩ := m
    rw [List.forall_mem_cons] at h
    cases rest with
    | nil => simp [prettyMembers, Layout.memberChars, Layout.pretty, h.1 depth]
    | cons m' rest =>
      have ih := ih (List.cons_ne_nil _ _) h.2
      simp only [Layout.memberChars, List.append_assoc, List.cons_append, ← ih]
      simp [prettyMembers, Layout.pretty, h.1 depth]

theorem prettyChars_eq (j : Json) (depth : Nat) :
    j.prettyChars depth = Layout.pretty.chars depth j := by
  induction j using induct generalizing depth with
  | array items ih =>
    cases items with
    | nil => rfl
    | cons j rest =>
      have hitems : '\n' :: prettyItems (depth + 1) (j :: rest) =
          Layout.pretty.itemChars (depth + 1) (j :: rest) ++ ['\n'] :=
        prettyItems_eq (List.cons_ne_nil j rest) ih
      simp only [prettyChars, List.cons_append, List.nil_append, hitems]
      simp [Layout.chars, Layout.pretty]
  | object members ih =>
    cases members with
    | nil => rfl
    | cons m rest =>
      have hmembers : '\n' :: prettyMembers (depth + 1) (m :: rest) =
          Layout.pretty.memberChars (depth + 1) (m :: rest) ++ ['\n'] :=
        prettyMembers_eq (List.cons_ne_nil m rest) ih
      simp only [prettyChars, List.cons_append, List.nil_append, hmembers]
      simp [Layout.chars, Layout.pretty]
  | _ => rfl

end SceneMarkup.Json
