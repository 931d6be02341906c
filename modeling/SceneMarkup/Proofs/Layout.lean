import SceneMarkup.Proofs.Markup
import SceneMarkup.Proofs.Unbroken

namespace SceneMarkup

namespace Attribute

/-- An attribute in its line. A text that could end too early is written as a literal. -/
def spelling (a : Attribute) : String :=
  match a.value with
  | .flag => a.name
  | .text t =>
    if '"' ∈ t.toList ∨ '\n' ∈ t.toList then a.name ++ "=\x7b" ++ Text.quote t ++ "\x7d"
    else a.name ++ "=\"" ++ t ++ "\""
  | .expression e => a.name ++ "=\x7b" ++ e.text ++ "\x7d"

theorem needsLiteral_iff {t : String} : needsLiteral t ↔ '"' ∈ t.toList ∨ '\n' ∈ t.toList := by
  simp only [needsLiteral, List.any_eq_true, Bool.or_eq_true, beq_iff_eq, and_or_left, exists_or,
    exists_eq_right]

theorem append_braced (name t : String) :
    name ++ "=" ++ Text.braced t = name ++ "=\x7b" ++ t ++ "\x7d" := by
  have hopen : "=" ++ "\x7b" = "=\x7b" := by decide
  simp only [Text.braced, ← hopen, String.append_assoc]

theorem render_eq_spelling (a : Attribute) : a.render = a.spelling := by
  rw [render, spelling]
  cases a.value with
  | flag => rfl
  | text t => simp only [needsLiteral_iff, append_braced]
  | expression e => exact append_braced a.name e.text

end Attribute

namespace Element

def opening (e : Element) : String :=
  " ".intercalate (("<" ++ e.tag) :: e.attributes.map Attribute.spelling)

theorem intercalate_blank (t : String) (ts : List String) :
    " ".intercalate (t :: ts) = t ++ String.join (ts.map (" " ++ ·)) := by
  induction ts generalizing t with
  | nil => simp
  | cons u rest ih =>
    rw [String.intercalate_cons_cons, ih, List.map_cons, String.join_cons, String.append_assoc,
      String.append_assoc]

theorem openingText_eq (e : Element) : openingText e.tag e.attributes = e.opening := by
  rw [opening, intercalate_blank, openingText, List.map_map]
  simp only [Attribute.render_eq_spelling]
  rfl

end Element

inductive LineKind
  | live (name : String)
  | single (e : Element)
  | opening (e : Element)
  | closing (tag : String)

def liveLine (name : String) : String :=
  "<primitive object=\x7bnodes" ++ Naming.propertySuffix name ++ "\x7d />"

namespace LineKind

def text : LineKind → String
  | live name => liveLine name
  | single e => e.opening ++ " />"
  | opening e => e.opening ++ ">"
  | closing tag => "</" ++ tag ++ ">"

def element? : LineKind → Option Element
  | single e | opening e => some e
  | _ => none

theorem getLast?_append {t u : String} {c : Char} (h : u.toList.getLast? = some c) :
    (t ++ u).toList.getLast? = some c := by
  simp [h]

theorem getLast?_text (p : LineKind) : p.text.toList.getLast? = some '>' := by
  cases p with
  | live name => exact getLast?_append (by decide)
  | _ => exact getLast?_append (by decide)

end LineKind

structure Line where
  depth : Nat
  kind : LineKind

namespace Line

def text (l : Line) : String := Text.blanks l.depth ++ l.kind.text

def shift (k : Nat) (l : Line) : Line := { l with depth := k + l.depth }

@[simp] theorem kind_shift (k : Nat) (l : Line) : (l.shift k).kind = l.kind := rfl

theorem text_shift (k : Nat) (l : Line) : (l.shift k).text = Text.blanks k ++ l.text := by
  simp [text, shift, Text.blanks_add, String.append_assoc]

theorem unbroken_text {l : Line} (h : Text.Unbroken l.kind.text) : Text.Unbroken l.text := by
  simp [text, Text.Unbroken, Text.padding] at h ⊢
  exact h

theorem isLine {l : Line} (h : Text.Unbroken l.kind.text) : Text.IsLine l.text.toList := by
  have hlast : l.text.toList.getLast? = some '>' := by
    simp [text, LineKind.getLast?_text]
  refine ⟨fun hnil => ?_, unbroken_text h, ?_⟩
  · simp [hnil] at hlast
  · rw [hlast]
    decide

end Line

namespace Markup

mutual

def linesAt (depth : Nat) : Markup → List Line
  | live name => [⟨depth, .live name⟩]
  | element origin tag attributes content =>
    if content.isEmpty then [⟨depth, .single ⟨origin, tag, attributes⟩⟩]
    else ⟨depth, .opening ⟨origin, tag, attributes⟩⟩ ::
      linesAllAt (depth + 1) content ++ [⟨depth, .closing tag⟩]

def linesAllAt (depth : Nat) : List Markup → List Line
  | [] => []
  | m :: rest => linesAt depth m ++ linesAllAt depth rest

end

theorem linesAllAt_eq (depth : Nat) (ms : List Markup) :
    linesAllAt depth ms = ms.flatMap (linesAt depth) := by
  induction ms with
  | nil => rfl
  | cons m rest ih => simp [linesAllAt, ih]

@[simp] theorem linesAt_element (depth : Nat) (origin : Placed) (tag : String)
    (attributes : List Attribute) (content : List Markup) :
    (element origin tag attributes content).linesAt depth =
      if content.isEmpty then [⟨depth, .single ⟨origin, tag, attributes⟩⟩]
      else ⟨depth, .opening ⟨origin, tag, attributes⟩⟩ ::
        content.flatMap (linesAt (depth + 1)) ++ [⟨depth, .closing tag⟩] := by
  rw [linesAt, linesAllAt_eq]

theorem linesAt_add (m : Markup) (k depth : Nat) :
    m.linesAt (k + depth) = (m.linesAt depth).map (Line.shift k) := by
  induction m generalizing depth with
  | live name => rfl
  | element origin tag attributes content ih =>
    have hcontent : content.flatMap (linesAt (k + depth + 1)) =
        (content.flatMap (linesAt (depth + 1))).map (Line.shift k) := by
      rw [List.map_flatMap]
      exact List.flatMap_congr fun m hm => ih m hm (depth + 1)
    rw [linesAt_element, linesAt_element, hcontent]
    split <;> simp [Line.shift]

theorem filterMap_element?_linesAt (m : Markup) (depth : Nat) :
    (m.linesAt depth).filterMap (·.kind.element?) = m.written := by
  induction m generalizing depth with
  | live name => rfl
  | element origin tag attributes content ih =>
    have hcontent : (content.flatMap (linesAt (depth + 1))).filterMap (·.kind.element?) =
        content.flatMap written := by
      rw [List.filterMap_flatMap]
      exact List.flatMap_congr fun m hm => ih m hm (depth + 1)
    rw [linesAt_element, written_element]
    split
    case isTrue h => simp [List.isEmpty_iff.mp h, LineKind.element?]
    case isFalse =>
      rw [List.filterMap_append, List.filterMap_cons, hcontent]
      simp [LineKind.element?]

theorem text_live (name : String) : (live name).text = (LineKind.live name).text ++ "\n" := by
  have hopen : "<primitive object=" ++ "\x7b" ++ "nodes" = "<primitive object=\x7bnodes" := by decide
  have hclose : "\x7d" ++ " />\n" = "\x7d />" ++ "\n" := by decide
  rw [text, LineKind.text]
  unfold liveText liveLine Text.braced
  rw [← hopen]
  show _ ++ (_ ++ ("nodes" ++ Naming.propertySuffix name) ++ _) ++ _ = _
  simp only [String.append_assoc, hclose]

theorem elementText_empty (e : Element) :
    elementText e.tag e.attributes "" = (LineKind.single e).text ++ "\n" := by
  rw [elementText, if_pos (by decide), e.openingText_eq, LineKind.text, String.append_assoc]
  exact congrArg (e.opening ++ ·) (by decide)

theorem elementText_of_ne {content : String} (h : content ≠ "") (e : Element) :
    elementText e.tag e.attributes content = (LineKind.opening e).text ++ "\n" ++
      Text.indent 1 content ++ ((LineKind.closing e.tag).text ++ "\n") := by
  have hend : ">\n" = ">" ++ "\n" := by decide
  rw [elementText, if_neg (by simpa using h), e.openingText_eq, LineKind.text, LineKind.text, hend]
  simp only [String.append_assoc]

theorem text_ne_empty (m : Markup) : m.text ≠ "" := by
  cases m with
  | live name => simp [text_live]
  | element origin tag attributes content =>
    rw [text]
    by_cases h : textAll content = ""
    · rw [h, elementText_empty ⟨origin, tag, attributes⟩]
      simp
    · rw [elementText_of_ne h ⟨origin, tag, attributes⟩]
      simp

theorem textAll_eq_empty_iff {ms : List Markup} : textAll ms = "" ↔ ms = [] := by
  cases ms with
  | nil => simp [textAll]
  | cons m rest => simp [textAll, m.text_ne_empty]

theorem text_element (origin : Placed) (tag : String) (attributes : List Attribute)
    (content : List Markup) : (element origin tag attributes content).text =
      if content.isEmpty then (LineKind.single ⟨origin, tag, attributes⟩).text ++ "\n"
      else (LineKind.opening ⟨origin, tag, attributes⟩).text ++ "\n" ++
        Text.indent 1 (textAll content) ++ ((LineKind.closing tag).text ++ "\n") := by
  rw [text]
  split
  case isTrue h =>
    rw [List.isEmpty_iff.mp h, textAll]
    exact elementText_empty ⟨origin, tag, attributes⟩
  case isFalse h =>
    have hne : textAll content ≠ "" := by simpa [textAll_eq_empty_iff] using h
    exact elementText_of_ne hne ⟨origin, tag, attributes⟩

theorem ink_textAll {ms : List Markup} {depth : Nat}
    (h : ∀ m ∈ ms, Text.ink m.text = (m.linesAt depth).flatMap fun l => Text.ink l.kind.text) :
    Text.ink (textAll ms) = (ms.flatMap (linesAt depth)).flatMap fun l => Text.ink l.kind.text := by
  induction ms with
  | nil => rfl
  | cons m rest ih =>
    rw [List.forall_mem_cons] at h
    rw [textAll, Text.ink_append, h.1, ih h.2, List.flatMap_cons, List.flatMap_append]

/-- But for blanks and line ends the text is made of the lines, whatever the tags hold. -/
theorem ink_text (m : Markup) (depth : Nat) :
    Text.ink m.text = (m.linesAt depth).flatMap fun l => Text.ink l.kind.text := by
  have hfeed : Text.ink "\n" = [] := rfl
  induction m generalizing depth with
  | live name => simp [text_live, linesAt, hfeed]
  | element origin tag attributes content ih =>
    rw [text_element, linesAt_element]
    split
    case isTrue => simp [hfeed]
    case isFalse =>
      simp only [Text.ink_append, Text.ink_indent, hfeed, List.append_nil, List.cons_append,
        List.flatMap_cons, List.flatMap_append, List.flatMap_nil,
        ink_textAll fun m hm => ih m hm (depth + 1)]
      exact List.append_assoc _ _ _

inductive Unbroken : Markup → Prop
  | live : Unbroken (.live name)
  | element : Text.Unbroken tag → (∀ a ∈ attributes, Text.Unbroken a.render) →
    (∀ m ∈ content, Unbroken m) → Unbroken (.element origin tag attributes content)

theorem Unbroken.element_iff {origin : Placed} {tag : String} {attributes : List Attribute}
    {content : List Markup} : (Markup.element origin tag attributes content).Unbroken ↔
      Text.Unbroken tag ∧ (∀ a ∈ attributes, Text.Unbroken a.render) ∧
        ∀ m ∈ content, m.Unbroken := by
  constructor
  · intro h
    cases h with
    | element htag hattributes hcontent => exact ⟨htag, hattributes, hcontent⟩
  · rintro ⟨htag, hattributes, hcontent⟩
    exact .element htag hattributes hcontent

theorem unbroken_linesAt {m : Markup} (h : m.Unbroken) (depth : Nat) :
    ∀ l ∈ m.linesAt depth, Text.Unbroken l.kind.text := by
  induction m generalizing depth with
  | live name =>
    rw [linesAt, List.forall_mem_singleton]
    exact Text.unbroken_append.mpr ⟨Text.unbroken_append.mpr
      ⟨by decide, Naming.unbroken_propertySuffix name⟩, by decide⟩
  | element origin tag attributes content ih =>
    obtain ⟨htag, hattributes, hcontent⟩ := Unbroken.element_iff.mp h
    have hopening : Text.Unbroken (Element.opening ⟨origin, tag, attributes⟩) :=
      Element.openingText_eq ⟨origin, tag, attributes⟩ ▸ unbroken_openingText htag hattributes
    have hself : Text.Unbroken " />" := by decide
    have hend : Text.Unbroken ">" := by decide
    have hclose : Text.Unbroken "</" := by decide
    rw [linesAt_element]
    split
    · simp [LineKind.text, hopening, hself]
    · rw [List.cons_append, List.forall_mem_cons, List.forall_mem_append, List.forall_mem_singleton]
      refine ⟨Text.unbroken_append.mpr ⟨hopening, hend⟩, fun l hl => ?_,
        Text.unbroken_append.mpr ⟨Text.unbroken_append.mpr ⟨hclose, htag⟩, hend⟩⟩
      obtain ⟨m, hm, hl⟩ := List.mem_flatMap.mp hl
      exact ih m hm (hcontent m hm) (depth + 1) l hl

theorem textAll_eq {ms : List Markup}
    (h : ∀ m ∈ ms, m.text = Text.unlines ((m.linesAt 0).map Line.text)) :
    textAll ms = Text.unlines ((ms.flatMap (linesAt 0)).map Line.text) := by
  induction ms with
  | nil => simp [textAll]
  | cons m rest ih =>
    rw [List.forall_mem_cons] at h
    rw [textAll, List.flatMap_cons, List.map_append, Text.unlines_append, h.1, ih h.2]

theorem text_eq_unlines {m : Markup} (h : m.Unbroken) :
    m.text = Text.unlines ((m.linesAt 0).map Line.text) := by
  induction m with
  | live name => simp [text_live, linesAt, Line.text]
  | element origin tag attributes content ih =>
    obtain ⟨-, -, hcontent⟩ := Unbroken.element_iff.mp h
    have hlines : ∀ line ∈ (content.flatMap (linesAt 0)).map Line.text,
        Text.IsLine line.toList := by
      rw [List.forall_mem_map]
      intro l hl
      obtain ⟨m, hm, hl⟩ := List.mem_flatMap.mp hl
      exact Line.isLine (unbroken_linesAt (hcontent m hm) 0 l hl)
    -- The content is written at no depth of its own, and then moved right as a whole.
    have hdeeper : (content.flatMap (linesAt (0 + 1))).map Line.text =
        ((content.flatMap (linesAt 0)).map Line.text).map (Text.blanks 1 ++ ·) := by
      rw [List.flatMap_congr fun m _ => m.linesAt_add 1 0, ← List.map_flatMap, List.map_map,
        List.map_map]
      exact List.map_congr_left fun l _ => l.text_shift 1
    rw [text_element, linesAt_element, textAll_eq fun m hm => ih m hm (hcontent m hm),
      Text.indent_unlines hlines, ← hdeeper]
    split
    case isTrue => simp [Line.text]
    case isFalse => simp [Line.text, String.append_assoc]

theorem textAll_eq_unlines {ms : List Markup} (h : ∀ m ∈ ms, m.Unbroken) :
    textAll ms = Text.unlines ((linesAllAt 0 ms).map Line.text) := by
  rw [linesAllAt_eq, textAll_eq fun m hm => text_eq_unlines (h m hm)]

theorem unbroken_linesAllAt {ms : List Markup} (h : ∀ m ∈ ms, m.Unbroken) {depth : Nat} :
    ∀ l ∈ linesAllAt depth ms, Text.Unbroken l.text := by
  rw [linesAllAt_eq]
  intro l hl
  obtain ⟨m, hm, hl⟩ := List.mem_flatMap.mp hl
  exact Line.unbroken_text (unbroken_linesAt (h m hm) depth l hl)

end Markup

namespace Composition

def lines (c : Composition) : List Line := Markup.linesAllAt 0 c.content

theorem ink_text (c : Composition) :
    Text.ink c.text = c.lines.flatMap fun l => Text.ink l.kind.text := by
  rw [lines, Markup.linesAllAt_eq, text]
  exact Markup.ink_textAll fun m _ => m.ink_text 0

theorem filterMap_element?_lines (c : Composition) :
    c.lines.filterMap (·.kind.element?) = c.written := by
  rw [lines, Markup.linesAllAt_eq, List.filterMap_flatMap, written]
  exact List.flatMap_congr fun m _ => m.filterMap_element?_linesAt 0

end Composition

end SceneMarkup
