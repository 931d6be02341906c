import SceneMarkup.Scene.Basic
import SceneMarkup.Scene.NodeClass
import SceneMarkup.Scene.Search

namespace SceneMarkup

structure Walk where
  pending : List NodeId
  passed : List NodeId
  parents : List (NodeId × NodeId)

namespace Walk

def start (root : NodeId) : Walk := ⟨[root], [], []⟩

/-- Goes through the next node; its children come before all that is left. -/
def pass (w : Walk) (id : NodeId) (node : Node) (left : List NodeId) : Walk where
  pending := node.children ++ left
  passed := id :: w.passed
  parents := node.children.map (·, id) ++ w.parents

/-- There is no result if the walk leaves the table or never ends. -/
def run (scene : Scene) (w : Walk) : Option Walk :=
  match w.pending with
  | [] => some w
  | id :: left =>
    match scene.nodes[id]? with
    | none => none
    | some node => w.pass id node left |>.run scene
partial_fixpoint

def order (w : Walk) : List NodeId := w.passed.reverse

def parent? (w : Walk) (id : NodeId) : Option NodeId := w.parents.lookup id

end Walk

def Scene.walk? (scene : Scene) : Option Walk := (Walk.start scene.root).run scene

structure Visit where
  placed : Placed
  parent : Option Placed
  skinned : Bool

namespace Visit

def id (v : Visit) : NodeId := v.placed.id

def node (v : Visit) : Node := v.placed.node

end Visit

def Scene.placed? (scene : Scene) (id : NodeId) : Option Placed :=
  scene.nodes[id]?.map (⟨id, ·⟩)

/-- The visits of the nodes in turn. A parent comes before its children, so it is known by then
whether it is skinned. -/
def Walk.visitsFrom (scene : Scene) (w : Walk) (skinned : List NodeId) :
    List NodeId → List Visit
  | [] => []
  | id :: rest =>
    match scene.placed? id with
    | none => visitsFrom scene w skinned rest
    | some p =>
      let parent := w.parent? id
      if p.node.isBone || parent.any skinned.contains then
        ⟨p, parent.bind scene.placed?, true⟩ :: visitsFrom scene w (id :: skinned) rest
      else ⟨p, parent.bind scene.placed?, false⟩ :: visitsFrom scene w skinned rest

def Scene.visits (scene : Scene) : List Visit :=
  match scene.walk? with
  | some w => w.visitsFrom scene [] w.order
  | none => []

end SceneMarkup
