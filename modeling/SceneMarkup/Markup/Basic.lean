import SceneMarkup.Markup.Attributes

/-!
The markup of a scene. A bone is a live reference that hides what is below it, every other node is
an element around the markup of its children, and a group that says nothing gives way to them.
-/

namespace SceneMarkup

inductive Markup
  | live (name : String)
  | element (origin : Placed) (tag : String) (attributes : List Attribute) (content : List Markup)

namespace Markup

mutual

def text : Markup → String
  | live name => liveText (Scope.nodes.reference [name])
  | element _ tag attributes content => elementText tag attributes (textAll content)

def textAll : List Markup → String
  | [] => ""
  | m :: rest => text m ++ textAll rest

end

mutual

def elements : Markup → List (Placed × String)
  | live _ => []
  | element origin tag _ content => (origin, tag) :: elementsAll content

def elementsAll : List Markup → List (Placed × String)
  | [] => []
  | m :: rest => elements m ++ elementsAll rest

end

end Markup

namespace Setting

def shared? (s : Setting) (node : Node) : Option SharedGeometry :=
  if s.survey.instancing then
    (s.scene.geometryOf? node).bind fun g => s.survey.registry.geometry? g.key
  else none

def tag (s : Setting) (node : Node) : String :=
  match s.shared? node with
  | some g => Scope.instances.reference [g.name]
  | none => elementTag node.type

def attributes (s : Setting) (placed : Placed) : List Attribute :=
  match s.shared? placed.node with
  | some _ => s.instancedAttributes placed
  | none => s.directAttributes placed

def elides (s : Setting) (placed : Placed) : Bool :=
  !s.options.keepGroups && s.tag placed.node == groupTag &&
    ((s.attributes placed).isEmpty || placed.node.children.isEmpty)

mutual

def markup (s : Setting) : SceneTree → List Markup
  | .branch p ts =>
    if p.node.isBone then [.live p.node.name]
    else if s.elides p then s.markupAll ts
    else [.element p (s.tag p.node) (s.attributes p) (s.markupAll ts)]

def markupAll (s : Setting) : List SceneTree → List Markup
  | [] => []
  | t :: rest => s.markup t ++ s.markupAll rest

end

mutual

def elided (s : Setting) : SceneTree → List NodeId
  | .branch p ts =>
    if p.node.isBone then []
    else if s.elides p then p.id :: s.elidedAll ts
    else s.elidedAll ts

def elidedAll (s : Setting) : List SceneTree → List NodeId
  | [] => []
  | t :: rest => s.elided t ++ s.elidedAll rest

end

mutual

def steps : SceneTree → Nat
  | .branch p ts => if p.node.isBone then 1 else stepsAll ts + 1

def stepsAll : List SceneTree → Nat
  | [] => 0
  | t :: rest => steps t + stepsAll rest

end

end Setting

structure Composition where
  content : List Markup
  removed : List NodeId
  steps : Nat

namespace Composition

/-- A container at the root is carried by the shell and leaves only its children. -/
def of (s : Setting) (tree : SceneTree) : Composition :=
  if tree.node.nodeClass == .container then
    { content := s.markupAll tree.children
      removed := s.elidedAll tree.children
      steps := Setting.stepsAll tree.children + 1 }
  else
    { content := s.markup tree
      removed := s.elided tree
      steps := Setting.steps tree }

def text (c : Composition) : String := Markup.textAll c.content

def isRemoved (c : Composition) (id : NodeId) : Bool := c.removed.contains id

def cameras (c : Composition) : List String :=
  sortedDistinct
    ((Markup.elementsAll c.content).filterMap fun (origin, tag) =>
      if origin.node.nodeClass.isCamera then some tag else none)

def reports (c : Composition) (s : Setting) : List Report :=
  Stage.emit.reports s.options.progressInterval s.survey.visits.length c.steps

end Composition

end SceneMarkup
