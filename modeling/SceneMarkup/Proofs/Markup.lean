import SceneMarkup.Markup.Basic
import SceneMarkup.Proofs.Visits

namespace SceneMarkup

structure Element where
  origin : Placed
  tag : String
  attributes : List Attribute

namespace Markup

@[induction_eliminator] theorem induct {P : Markup → Prop} (live : ∀ name, P (.live name))
    (element : ∀ origin tag attributes content, (∀ m ∈ content, P m) →
      P (.element origin tag attributes content)) : ∀ m, P m
  | .live name => live name
  | .element origin tag attributes content =>
    element origin tag attributes content fun m _ => induct live element m

mutual

def written : Markup → List Element
  | live _ => []
  | element origin tag attributes content => ⟨origin, tag, attributes⟩ :: writtenAll content

def writtenAll : List Markup → List Element
  | [] => []
  | m :: rest => written m ++ writtenAll rest

end

theorem writtenAll_eq (ms : List Markup) : writtenAll ms = ms.flatMap written := by
  induction ms with
  | nil => rfl
  | cons m rest ih => simp [writtenAll, ih]

@[simp] theorem written_element (origin : Placed) (tag : String) (attributes : List Attribute)
    (content : List Markup) : (element origin tag attributes content).written =
      ⟨origin, tag, attributes⟩ :: content.flatMap written := by
  rw [written, writtenAll_eq]

theorem elementsAll_eq (ms : List Markup) : elementsAll ms = ms.flatMap elements := by
  induction ms with
  | nil => rfl
  | cons m rest ih => simp [elementsAll, ih]

theorem elements_eq (m : Markup) : m.elements = m.written.map fun e => (e.origin, e.tag) := by
  induction m with
  | live name => rfl
  | element origin tag attributes content ih =>
    rw [elements, elementsAll_eq, written_element, List.map_cons, List.map_flatMap,
      List.flatMap_congr ih]

end Markup

namespace Setting

variable (s : Setting)

theorem markupAll_eq (ts : List SceneTree) : s.markupAll ts = ts.flatMap s.markup := by
  induction ts with
  | nil => rfl
  | cons t rest ih => simp [markupAll, ih]

@[simp] theorem markup_branch (p : Placed) (ts : List SceneTree) :
    s.markup (.branch p ts) =
      if p.node.isBone then [.live p.node.name]
      else if s.elides p then ts.flatMap s.markup
      else [.element p (s.tag p.node) (s.attributes p) (ts.flatMap s.markup)] := by
  rw [markup, markupAll_eq]

theorem elidedAll_eq (ts : List SceneTree) : s.elidedAll ts = ts.flatMap s.elided := by
  induction ts with
  | nil => rfl
  | cons t rest ih => simp [elidedAll, ih]

@[simp] theorem elided_branch (p : Placed) (ts : List SceneTree) :
    s.elided (.branch p ts) =
      if p.node.isBone then []
      else if s.elides p then p.id :: ts.flatMap s.elided
      else ts.flatMap s.elided := by
  rw [elided, elidedAll_eq]

def element (p : Placed) : Element := ⟨p, s.tag p.node, s.attributes p⟩

theorem written_markup (t : SceneTree) : (s.markup t).flatMap Markup.written =
    (t.exposed.filter (!s.elides ·)).map s.element := by
  induction t with
  | branch p ts ih =>
    have below : (ts.flatMap s.markup).flatMap Markup.written =
        ((ts.flatMap SceneTree.exposed).filter (!s.elides ·)).map s.element := by
      rw [List.flatMap_assoc, List.filter_flatMap, List.map_flatMap, List.flatMap_congr ih]
    rw [markup_branch, SceneTree.exposed_branch]
    cases p.node.isBone with
    | true => simp [Markup.written]
    | false => cases he : s.elides p <;> simp [he, below, element]

theorem elided_eq (t : SceneTree) : s.elided t = (t.exposed.filter s.elides).map (·.id) := by
  induction t with
  | branch p ts ih =>
    have below : ts.flatMap s.elided =
        ((ts.flatMap SceneTree.exposed).filter s.elides).map (·.id) := by
      rw [List.filter_flatMap, List.map_flatMap, List.flatMap_congr ih]
    rw [elided_branch, SceneTree.exposed_branch, below]
    cases p.node.isBone with
    | true => rfl
    | false => cases he : s.elides p <;> simp [he]

end Setting

theorem Node.isBone_eq_false {node : Node} (h : node.nodeClass = .container) :
    node.isBone = false := by
  rw [isBone, h]
  rfl

namespace SceneTree

def outermost (t : SceneTree) : List SceneTree :=
  if t.node.nodeClass == .container then t.children else [t]

theorem exposed_eq_cons {t : SceneTree} (h : t.node.nodeClass = .container) :
    t.exposed = t.placed :: t.children.flatMap exposed := by
  cases t with
  | branch p ts =>
    have hb : p.node.isBone = false := Node.isBone_eq_false h
    simp [hb, placed, children]

theorem outermost_sublist (t : SceneTree) :
    (t.outermost.flatMap exposed).Sublist t.exposed := by
  rw [outermost]
  split
  case isTrue h =>
    rw [exposed_eq_cons (beq_iff_eq.mp h)]
    exact List.sublist_cons_self _ _
  case isFalse => simp

theorem mem_outermost {t : SceneTree} {p : Placed} (h : p.id ≠ t.id) :
    p ∈ t.outermost.flatMap exposed ↔ p ∈ t.exposed := by
  rw [outermost]
  split
  case isTrue hc =>
    have hne : p ≠ t.placed := fun he => h (he ▸ rfl)
    rw [exposed_eq_cons (beq_iff_eq.mp hc), List.mem_cons, or_iff_right hne]
  case isFalse => simp

end SceneTree

namespace Composition

variable (s : Setting) (tree : SceneTree)

theorem content_of : (of s tree).content = tree.outermost.flatMap s.markup := by
  rw [of, SceneTree.outermost]
  split <;> simp [Setting.markupAll_eq]

theorem removed_of : (of s tree).removed = tree.outermost.flatMap s.elided := by
  rw [of, SceneTree.outermost]
  split <;> simp [Setting.elidedAll_eq]

def written (c : Composition) : List Element := c.content.flatMap Markup.written

theorem written_of : (of s tree).written =
    ((tree.outermost.flatMap SceneTree.exposed).filter (!s.elides ·)).map s.element := by
  rw [written, content_of, List.flatMap_assoc, List.filter_flatMap, List.map_flatMap,
    List.flatMap_congr fun t _ => s.written_markup t]

theorem mem_removed {id : NodeId} : id ∈ (of s tree).removed ↔
    ∃ p ∈ tree.outermost.flatMap SceneTree.exposed, s.elides p ∧ p.id = id := by
  rw [removed_of, List.flatMap_congr fun t _ => s.elided_eq t, ← List.map_flatMap,
    ← List.filter_flatMap]
  simp only [List.mem_map, List.mem_filter, and_assoc]

end Composition

end SceneMarkup
