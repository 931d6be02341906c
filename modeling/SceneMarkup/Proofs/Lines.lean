import Mathlib.Data.List.Basic
import Mathlib.Data.List.TakeWhile
import SceneMarkup.Text

namespace SceneMarkup.Text

def unlines (ls : List String) : String := String.join (ls.map (· ++ "\n"))

structure IsLine (line : List Char) : Prop where
  ne_nil : line ≠ []
  unbroken : '\n' ∉ line
  ends : line.getLast? ≠ some '\r'

theorem linesFrom_append {line : List Char} (h : '\n' ∉ line) (before rest : List Char) :
    linesFrom before (line ++ '\n' :: rest) =
      closeLine (line.reverse ++ before) :: linesFrom [] rest := by
  induction line generalizing before with
  | nil => rfl
  | cons c line ih =>
    rw [List.mem_cons, not_or] at h
    rw [List.cons_append, linesFrom.eq_3 _ _ _ (Ne.symm h.1), ih h.2]
    simp

theorem closeLine_reverse {line : List Char} (h : line.getLast? ≠ some '\r') :
    closeLine line.reverse = line := by
  rw [← List.head?_reverse] at h
  unfold closeLine
  split
  next hr => simp [hr] at h
  next => exact List.reverse_reverse line

theorem lines_flatMap {ls : List (List Char)} (h : ∀ line ∈ ls, IsLine line) :
    lines (ls.flatMap (· ++ ['\n'])) = ls := by
  induction ls with
  | nil => rfl
  | cons line rest ih =>
    rw [List.forall_mem_cons] at h
    rw [lines] at ih ⊢
    rw [List.flatMap_cons, List.append_assoc, List.singleton_append,
      linesFrom_append h.1.unbroken, ih h.2, List.append_nil, closeLine_reverse h.1.ends]

theorem indentLine_of_ne_nil {line : List Char} (h : line ≠ []) (depth : Nat) :
    indentLine depth line = padding depth ++ line ++ ['\n'] := by
  cases line with
  | nil => contradiction
  | cons c line => rfl

theorem toList_unlines (ls : List String) :
    (unlines ls).toList = (ls.map String.toList).flatMap (· ++ ['\n']) := by
  simp [unlines, List.flatMap_map]

@[simp] theorem unlines_nil : unlines [] = "" := rfl

@[simp] theorem unlines_cons (line : String) (ls : List String) :
    unlines (line :: ls) = line ++ "\n" ++ unlines ls := by
  simp [unlines]

@[simp] theorem unlines_append (ls ls' : List String) :
    unlines (ls ++ ls') = unlines ls ++ unlines ls' := by
  simp [unlines]

@[simp] theorem toList_pad (depth : Nat) : (pad depth).toList = padding depth := by simp [pad]

def blanks (depth : Nat) : String := String.ofList (List.replicate (2 * depth) ' ')

@[simp] theorem toList_blanks (depth : Nat) : (blanks depth).toList = padding depth := by
  simp [blanks, padding]

@[simp] theorem blanks_zero : blanks 0 = "" := rfl

theorem blanks_add (depth depth' : Nat) :
    blanks (depth + depth') = blanks depth ++ blanks depth' := by
  simp [blanks, Nat.mul_add, ← List.replicate_append_replicate, String.ofList_append]

theorem indent_unlines {ls : List String} (h : ∀ line ∈ ls, IsLine line.toList) (depth : Nat) :
    indent depth (unlines ls) = unlines (ls.map (blanks depth ++ ·)) := by
  have hl : ∀ line ∈ ls.map String.toList, IsLine line := List.forall_mem_map.mpr h
  apply String.toList_injective
  calc (indent depth (unlines ls)).toList
    _ = (ls.map String.toList).flatMap (indentLine depth) := by
      rw [indent, String.toList_ofList, indentChars, toList_unlines, lines_flatMap hl]
    _ = (ls.map String.toList).flatMap fun line => padding depth ++ line ++ ['\n'] :=
      List.flatMap_congr fun line hm => indentLine_of_ne_nil (hl line hm).ne_nil depth
    _ = (unlines (ls.map (blanks depth ++ ·))).toList := by
      simp [toList_unlines, List.flatMap_map]

theorem takeWhile_ne {c : Char} {word : List Char} (h : c ∉ word) (rest : List Char) :
    (word ++ c :: rest).takeWhile (· != c) = word := by
  rw [List.takeWhile_append_of_pos]
  · simp
  · intro d hd
    simpa using fun he : d = c => h (he ▸ hd)

/-- One text stands in another. -/
def Within (part whole : String) : Prop := ∃ before after, whole = before ++ part ++ after

theorem Within.refl (t : String) : Within t t := ⟨"", "", by simp⟩

theorem Within.append_left {part t : String} (h : Within part t) (u : String) :
    Within part (u ++ t) := by
  obtain ⟨before, after, rfl⟩ := h
  exact ⟨u ++ before, after, by simp only [String.append_assoc]⟩

theorem Within.append_right {part t : String} (h : Within part t) (u : String) :
    Within part (t ++ u) := by
  obtain ⟨before, after, rfl⟩ := h
  exact ⟨before, after ++ u, by simp only [String.append_assoc]⟩

theorem Within.trans {part middle whole : String} (h : Within part middle)
    (h' : Within middle whole) : Within part whole := by
  obtain ⟨before, after, rfl⟩ := h
  obtain ⟨before', after', rfl⟩ := h'
  exact ⟨before' ++ before, after ++ after', by simp only [String.append_assoc]⟩

theorem within_intercalate (separator : String) {parts : List String} {part : String}
    (h : part ∈ parts) : Within part (separator.intercalate parts) := by
  induction parts with
  | nil => cases h
  | cons head rest ih =>
    cases rest with
    | nil =>
      rw [String.intercalate_singleton, List.mem_singleton.mp h]
      exact .refl head
    | cons next rest =>
      rw [String.intercalate_cons_cons]
      obtain rfl | hrest := List.mem_cons.mp h
      · exact ((Within.refl part).append_right _).append_right _
      · exact (ih hrest).append_left _

def isInk (c : Char) : Bool := c != ' ' && c != '\n' && c != '\r'

/-- A text without its blanks and line ends. -/
def ink (t : String) : List Char := t.toList.filter isInk

@[simp] theorem ink_append (t u : String) : ink (t ++ u) = ink t ++ ink u := by simp [ink]

theorem filter_closeLine (line : List Char) :
    (closeLine line).filter isInk = line.reverse.filter isInk := by
  unfold closeLine
  split
  · simp [isInk]
  · rfl

theorem filter_flatten_linesFrom (line text : List Char) :
    (linesFrom line text).flatten.filter isInk = (line.reverse ++ text).filter isInk := by
  fun_induction linesFrom line text with
  | case1 line h => simp [List.isEmpty_iff.mp h]
  | case2 line => simp
  | case3 line rest ih => simp [filter_closeLine, ih, isInk]
  | case4 line c rest _ ih => simp [ih]

theorem filter_indentLine (depth : Nat) (line : List Char) :
    (indentLine depth line).filter isInk = line.filter isInk := by
  cases line with
  | nil => rfl
  | cons c line =>
    have hpadding : (padding depth).filter isInk = [] := by simp [padding, isInk]
    rw [indentLine_of_ne_nil (List.cons_ne_nil c line), List.filter_append, List.filter_append,
      hpadding]
    exact List.append_nil _

@[simp] theorem ink_indent (depth : Nat) (t : String) : ink (indent depth t) = ink t := by
  have hlines := filter_flatten_linesFrom [] t.toList
  rw [List.filter_flatten] at hlines
  rw [ink, indent, String.toList_ofList, indentChars, List.filter_flatMap,
    List.flatMap_congr fun line _ => filter_indentLine depth line]
  exact hlines

end SceneMarkup.Text
