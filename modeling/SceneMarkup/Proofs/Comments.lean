import Mathlib.Data.List.Chain
import Mathlib.Data.List.Forall2
import SceneMarkup.Proofs.Instances
import SceneMarkup.Proofs.Literal
import SceneMarkup.Text

namespace SceneMarkup

namespace Text

def ClosesAt (cs : List Char) (i : Nat) : Prop := cs[i]? = some '*' ∧ cs[i + 1]? = some '/'

def Clear (cs : List Char) : Prop := cs.IsChain fun c d => ¬ (c = '*' ∧ d = '/')

theorem clear_cons {c : Char} {cs : List Char} :
    Clear (c :: cs) ↔ ¬ (c = '*' ∧ cs.head? = some '/') ∧ Clear cs := by
  rw [Clear, List.isChain_cons]
  cases cs <;> simp [Clear]

theorem Clear.append {cs ds : List Char} (h : Clear cs) (h' : Clear ds)
    (hmeet : cs.getLast? ≠ some '*' ∨ ds.head? ≠ some '/') : Clear (cs ++ ds) := by
  refine List.isChain_append.mpr ⟨h, h', ?_⟩
  rintro c hc d hd ⟨rfl, rfl⟩
  exact hmeet.elim (· hc) (· hd)

theorem Clear.not_closesAt {cs : List Char} (h : Clear cs) (i : Nat) : ¬ ClosesAt cs i := by
  rintro ⟨hstar, hslash⟩
  obtain ⟨hi, hslash⟩ := List.getElem?_eq_some_iff.mp hslash
  obtain ⟨_, hstar⟩ := List.getElem?_eq_some_iff.mp hstar
  exact List.isChain_iff_getElem.mp h i hi ⟨hstar, hslash⟩

theorem closesAt_append {body : List Char} (h : Clear body) (i : Nat) :
    ClosesAt (body ++ ['*', '/', '\n']) i ↔ i = body.length := by
  constructor
  · rintro ⟨hstar, hslash⟩
    rcases Nat.lt_trichotomy i body.length with hlt | heq | hgt
    · have hclear : Clear (body ++ ['*']) := h.append (.singleton _) (.inr (by simp))
      refine absurd ⟨?_, ?_⟩ (hclear.not_closesAt i)
      · rwa [List.getElem?_append_left hlt] at hstar ⊢
      · rwa [List.append_cons, List.getElem?_append_left (by simpa using hlt)] at hslash
    · exact heq
    · obtain ⟨j, rfl⟩ := Nat.exists_eq_add_of_lt hgt
      rw [List.getElem?_append_right (by omega),
        show body.length + j + 1 - body.length = j + 1 by omega] at hstar
      rcases j with _ | _ | j <;> simp at hstar
  · rintro rfl
    simp [ClosesAt]

/-- The second text is the first with a backslash inside each closing mark. -/
inductive Shielded : List Char → List Char → Prop
  | clear : Clear part → Shielded part part
  | mark (part : List Char) : Clear part → Shielded line written →
      Shielded (part ++ '*' :: '/' :: line) (part ++ '*' :: '\\' :: '/' :: written)

theorem Shielded.cons {c : Char} {line written : List Char}
    (hc : ¬ (c = '*' ∧ line.head? = some '/')) (h : Shielded line written) :
    Shielded (c :: line) (c :: written) := by
  cases h with
  | clear hpart => exact .clear (clear_cons.mpr ⟨hc, hpart⟩)
  | @mark line written part hpart hrest =>
    refine .mark (c :: part) (clear_cons.mpr ⟨?_, hpart⟩) hrest
    rintro ⟨hstar, hslash⟩
    refine hc ⟨hstar, ?_⟩
    cases part with
    | nil => cases hslash
    | cons d part => simpa using hslash

theorem not_mark_of_forall {c : Char} {line : List Char}
    (h : ∀ rest, c = '*' → line = '/' :: rest → False) : ¬ (c = '*' ∧ line.head? = some '/') := by
  rintro ⟨hstar, hslash⟩
  obtain ⟨rest, rfl⟩ := List.head?_eq_some_iff.mp hslash
  exact h rest hstar rfl

theorem shielded_shield (line : List Char) : Shielded line (shield line) := by
  fun_induction shield line with
  | case1 rest ih => exact .mark [] .nil ih
  | case2 c rest hmark ih => exact ih.cons (not_mark_of_forall hmark)
  | case3 => exact .clear .nil

theorem Shielded.clear_written {line written : List Char} (h : Shielded line written) :
    Clear written := by
  induction h with
  | clear hpart => exact hpart
  | @mark line written part hpart _ ih =>
    refine hpart.append ?_ (.inr (by simp))
    simpa [clear_cons] using ih

theorem Shielded.mem_written {line written : List Char} (h : Shielded line written) {c : Char}
    (hc : c ∈ written) : c ∈ line ∨ c = '\\' := by
  induction h with
  | clear => exact .inl hc
  | mark _ _ _ ih =>
    simp only [List.mem_append, List.mem_cons] at hc ⊢
    tauto

theorem clear_commentLine (line : List Char) : Clear (commentLine line) := by
  have hstart : Clear [' ', '*', ' '] := by simp [Clear]
  have hline := hstart.append (shielded_shield line).clear_written (.inl (by decide))
  exact hline.append (.singleton '\n') (.inr (by decide))

theorem clear_commentLines (ls : List (List Char)) : Clear (ls.flatMap commentLine) := by
  induction ls with
  | nil => exact .nil
  | cons line rest ih =>
    rw [List.flatMap_cons]
    refine (clear_commentLine line).append ih (.inl ?_)
    rw [commentLine, List.getLast?_concat]
    decide

def commentBody (text : List Char) : List Char :=
  ['/', '*', '\n'] ++ (lines text).flatMap commentLine ++ [' ']

theorem commentChars_eq (text : List Char) :
    commentChars text = commentBody text ++ ['*', '/', '\n'] := by
  simp [commentChars, commentBody]

theorem clear_commentBody (text : List Char) : Clear (commentBody text) := by
  have hstart : Clear ['/', '*', '\n'] := by simp [Clear]
  exact (hstart.append (clear_commentLines _) (.inl (by decide))).append (.singleton ' ')
    (.inr (by decide))

def afterClose? : List Char → Option (List Char)
  | '*' :: '/' :: rest => some rest
  | _ :: rest => afterClose? rest
  | [] => none

def afterComment? : List Char → Option (List Char)
  | '/' :: '*' :: rest => afterClose? rest
  | _ => none

theorem afterClose?_append {body : List Char} (h : Clear body) (rest : List Char) :
    afterClose? (body ++ '*' :: '/' :: rest) = some rest := by
  induction body with
  | nil => rfl
  | cons c body ih =>
    rw [clear_cons] at h
    rw [List.cons_append, afterClose?, ih h.2]
    intro rest' hstar htail
    refine h.1 ⟨hstar, ?_⟩
    cases body with
    | nil => cases htail
    | cons d body => cases htail; rfl

theorem mem_of_mem_closeLine {c : Char} {line : List Char} (h : c ∈ closeLine line) : c ∈ line := by
  revert h
  fun_cases closeLine line with
  | case1 line => exact fun h => List.mem_cons_of_mem _ (List.mem_reverse.mp h)
  | case2 line => exact List.mem_reverse.mp

theorem not_mem_linesFrom {line text : List Char} (h : '\n' ∉ line) :
    ∀ l ∈ linesFrom line text, '\n' ∉ l := by
  fun_induction linesFrom line text with
  | case1 => exact List.forall_mem_nil _
  | case2 => simpa using h
  | case3 line rest ih =>
    rw [List.forall_mem_cons]
    exact ⟨fun hm => h (mem_of_mem_closeLine hm), ih List.not_mem_nil⟩
  | case4 line c rest hc ih =>
    refine ih fun hm => ?_
    rcases List.mem_cons.mp hm with hfeed | hm
    · exact hc hfeed.symm
    · exact h hm

theorem Shielded.not_mem_feed {line written : List Char} (h : Shielded line written)
    (hline : '\n' ∉ line) : '\n' ∉ written := fun hm =>
  (h.mem_written hm).elim hline (by decide)

/-- A comment that holds a text. Between its first line and its last one stand the lines of the
text, in their order and each behind a star, and the comment is not closed before its end. -/
structure Encloses (comment text : String) : Prop where
  lines : ∃ written, List.Forall₂ Shielded (lines text.toList) written ∧
    (∀ line ∈ written, '\n' ∉ line) ∧
    comment.toList = "/*\n".toList ++
      written.flatMap (fun line => " * ".toList ++ line ++ "\n".toList) ++ " */\n".toList
  closes : ∀ i, ClosesAt comment.toList i ↔ i + 3 = comment.length

theorem encloses_comment (text : String) : Encloses (comment text) text where
  lines := by
    refine ⟨(Text.lines text.toList).map shield, ?_, ?_, ?_⟩
    · rw [List.forall₂_map_right_iff]
      exact List.forall₂_same.mpr fun line _ => shielded_shield line
    · rw [List.forall_mem_map]
      exact fun line hline =>
        (shielded_shield line).not_mem_feed (not_mem_linesFrom List.not_mem_nil line hline)
    · rw [comment, String.toList_ofList, List.flatMap_map]
      rfl
  closes i := by
    have hlength : (comment text).length = (commentBody text.toList).length + 3 := by
      rw [comment, commentChars_eq, String.length_ofList, List.length_append]
      rfl
    rw [hlength, Nat.add_right_cancel_iff, comment, String.toList_ofList, commentChars_eq]
    exact closesAt_append (clear_commentBody text.toList) i

theorem afterComment?_comment (text : String) (rest : List Char) :
    afterComment? ((comment text).toList ++ rest) = some ('\n' :: rest) := by
  have hbody := clear_commentBody text.toList
  have hstart : commentBody text.toList =
      '/' :: '*' :: '\n' :: ((lines text.toList).flatMap commentLine ++ [' ']) := rfl
  rw [comment, String.toList_ofList, commentChars_eq, List.append_assoc, hstart, List.cons_append,
    List.cons_append, afterComment?]
  rw [hstart, clear_cons, clear_cons] at hbody
  exact afterClose?_append hbody.2.2 ('\n' :: rest)

end Text

theorem Model.within_text_of_dump {m : Model} {dump : String} (h : m.debugDump = some dump) :
    Text.Within (Text.comment dump) m.text := by
  refine ⟨m.instancesText,
    m.componentText ++ "useGLTF.preload(" ++ Text.quote m.assetUrl ++ ")\n", ?_⟩
  rw [text, h, Option.map_some, Option.getD_some]
  simp only [String.append_assoc]

theorem Plan.within_text_of_dump {p : Plan} {dump : String} (h : p.debugDump = some dump) :
    Text.Within (Text.comment dump) p.unit.text :=
  (Model.within_text_of_dump (m := p.model) h).trans (within_text (by simp [blocks]))

namespace Text

/-- Every text is enclosed by its comment. So the registry, which a unit holds if it is asked to,
stays inside the comment around it, whatever keys and names there are in it. -/
theorem comment_encloses (text : String) : Encloses (comment text) text ∧
    ∀ p : Plan, p.debugDump = some text → ∃ before after,
      p.unit.text = before ++ comment text ++ after ∧
        afterComment? (comment text ++ after).toList = some ('\n' :: after.toList) := by
  refine ⟨encloses_comment text, fun p hdump => ?_⟩
  obtain ⟨before, after, htext⟩ := Plan.within_text_of_dump hdump
  refine ⟨before, after, htext, ?_⟩
  rw [String.toList_append]
  exact afterComment?_comment text after.toList

end Text

def Scene.marked : Scene where
  nodes := #[
    { type := "Scene", children := [1, 2] },
    { type := "Mesh", name := "Left", geometry := some 0, material := some 0 },
    { type := "Mesh", name := "Right", geometry := some 0 }]
  materials := #[{ name := "*//**/" }]
  geometries := #[{ key := "*/\n/ *" }]

theorem Scene.marked_validate : ∃ tree, Scene.marked.validate = .ok tree :=
  exists_tree_of_isOk (by decide +kernel)

namespace Text

theorem marked_comment_encloses : ∃ p dump, plan Scene.marked { debug := true } none = .ok p ∧
    p.debugDump = some dump ∧ occursIn ['*', '/'] dump.toList ∧ Encloses (comment dump) dump ∧
    ∃ before after, p.unit.text = before ++ comment dump ++ after ∧
      afterComment? (comment dump ++ after).toList = some ('\n' :: after.toList) := by
  obtain ⟨tree, htree⟩ := Scene.marked_validate
  have hf := Scene.tree_finds (Scene.validate_eq_ok.mp htree).1
  let p := Plan.of Scene.marked { debug := true } none tree
  let dump := "duplicate registry\n" ++ p.survey.registry.toJson.pretty
  have hdump : p.debugDump = some dump := rfl
  have hmarks : occursIn ['*', '/'] dump.toList := by
    have hall : Scene.marked.validate.toOption.map (fun tree => occursIn ['*', '/']
        ("duplicate registry\n" ++
          (Registry.of Scene.marked { debug := true } tree.preorder).toJson.pretty).toList) =
            some true := by
      decide +kernel
    rw [htree] at hall
    change occursIn _ (_ ++ (Survey.of _ _).registry.toJson.pretty).toList = true
    rw [hf.registry_eq]
    exact Option.some.inj hall
  obtain ⟨hencloses, hunit⟩ := comment_encloses dump
  exact ⟨p, dump, plan_eq_ok.mpr ⟨tree, htree, rfl⟩, hdump, hmarks, hencloses, hunit p hdump⟩

end Text

end SceneMarkup
