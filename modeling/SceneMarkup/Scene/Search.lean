import SceneMarkup.Scene.Basic
import SceneMarkup.Text

/-!
The search for the tree of a scene. It goes down from the root, child by child, and keeps the path
to the node it is at. A child on the path closes a cycle, a child already left behind is shared, and
a child that is neither has not been seen. Every step either enters an unseen node or leaves one
behind, so the search ends on every scene.
-/

namespace SceneMarkup

structure Placed where
  id : NodeId
  node : Node

inductive SceneTree
  | branch (placed : Placed) (children : List SceneTree)

namespace SceneTree

def placed : SceneTree → Placed
  | branch p _ => p

def children : SceneTree → List SceneTree
  | branch _ ts => ts

def id (t : SceneTree) : NodeId := t.placed.id

def node (t : SceneTree) : Node := t.placed.node

mutual

def preorder : SceneTree → List Placed
  | branch p ts => p :: preorderAll ts

def preorderAll : List SceneTree → List Placed
  | [] => []
  | t :: rest => preorder t ++ preorderAll rest

end

end SceneTree

inductive SceneError
  | missingRoot (root : NodeId)
  | danglingChild (parent child : NodeId)
  | sharedChild (child first second : NodeId)
  | cycle (node : NodeId)
  | missingGeometry (node : NodeId) (name : String)
  | unnamedNode (node : NodeId) (type : String)
  | danglingMaterial (node : NodeId) (material : MaterialId)
  | danglingGeometry (node : NodeId) (geometry : GeometryId)
  | inconsistentGeometry (key : String) (first second : Nat)
  | danglingOwner (key : String) (owner : NodeId)
  | danglingBone (node bone : NodeId)
  deriving DecidableEq

namespace SceneError

def nodeLabel (id : NodeId) : String := "node#" ++ toString id

def materialLabel (id : MaterialId) : String := "material#" ++ toString id

def geometryLabel (id : GeometryId) : String := "geometry#" ++ toString id

def message : SceneError → String
  | missingRoot root => "root " ++ nodeLabel root ++ " does not exist"
  | danglingChild parent child =>
    nodeLabel parent ++ " lists child " ++ nodeLabel child ++ " which does not exist"
  | sharedChild child first second =>
    nodeLabel child ++ " is attached to both " ++ nodeLabel first ++ " and " ++ nodeLabel second
  | cycle node => "cycle detected: " ++ nodeLabel node ++ " is its own ancestor"
  | missingGeometry node name =>
    "mesh " ++ nodeLabel node ++ " (" ++ Text.diagnostic name ++ ") has no geometry"
  | unnamedNode node type => type ++ " " ++ nodeLabel node ++ " has no name"
  | danglingMaterial node material =>
    nodeLabel node ++ " references " ++ materialLabel material ++ " which does not exist"
  | danglingGeometry node geometry =>
    nodeLabel node ++ " references " ++ geometryLabel geometry ++ " which does not exist"
  | inconsistentGeometry key first second =>
    "geometry " ++ Text.diagnostic key ++ " is declared with inconsistent vertex counts (" ++
      toString first ++ " vs " ++ toString second ++ ")"
  | danglingOwner key owner =>
    "geometry " ++ Text.diagnostic key ++ " names owner " ++ nodeLabel owner ++
      " which does not use it"
  | danglingBone node bone =>
    "skeleton of " ++ nodeLabel node ++ " references bone " ++ nodeLabel bone ++
      " which does not exist"

end SceneError

/-- A node on the path, its children not looked at yet, and the trees of the others in reverse. -/
structure Frame where
  placed : Placed
  pending : List NodeId
  finished : List SceneTree

namespace Frame

def enter (placed : Placed) : Frame := ⟨placed, placed.node.children, []⟩

def close (f : Frame) : SceneTree := .branch f.placed f.finished.reverse

end Frame

structure Search where
  top : Frame
  below : List Frame
  unseen : List NodeId
  parents : List (NodeId × NodeId)

namespace Search

inductive Step
  | next (s : Search)
  | found (t : SceneTree)
  | refused (e : SceneError)

def path (s : Search) : List NodeId := (s.top :: s.below).map (·.placed.id)

def leave (s : Search) : Step :=
  match s.below with
  | [] => .found s.top.close
  | parent :: below =>
    .next { s with top := { parent with finished := s.top.close :: parent.finished }, below }

def enter (s : Search) (pending : List NodeId) (child : Placed) : Search where
  top := .enter child
  below := { s.top with pending } :: s.below
  unseen := s.unseen.erase child.id
  parents := (child.id, s.top.placed.id) :: s.parents

def firstParent (scene : Scene) (s : Search) (child : NodeId) : NodeId :=
  (s.parents.lookup child).getD scene.root

def step (scene : Scene) (s : Search) : Step :=
  match s.top.pending with
  | [] => s.leave
  | child :: pending =>
    match scene.nodes[child]? with
    | none => .refused (.danglingChild s.top.placed.id child)
    | some node =>
      if child ∈ s.path then .refused (.cycle child)
      else if child ∈ s.unseen then .next (s.enter pending ⟨child, node⟩)
      else .refused (.sharedChild child (s.firstParent scene child) s.top.placed.id)

def remaining (s : Search) : Nat := 2 * s.unseen.length + s.below.length

theorem remaining_of_leave {s s' : Search} (h : s.leave = .next s') :
    s'.remaining < s.remaining := by
  unfold leave at h
  split at h
  · contradiction
  · next hb =>
    cases h
    simp [remaining, hb]

theorem remaining_enter {s : Search} {pending : List NodeId} {child : Placed}
    (h : child.id ∈ s.unseen) : (s.enter pending child).remaining < s.remaining := by
  have hl := List.length_erase_of_mem h
  have hp := List.length_pos_of_mem h
  simp only [remaining, enter, List.length_cons]
  omega

theorem remaining_of_step {scene : Scene} {s s' : Search} (h : s.step scene = .next s') :
    s'.remaining < s.remaining := by
  unfold step at h
  split at h
  · exact remaining_of_leave h
  · split at h
    · contradiction
    · split at h
      · contradiction
      · split at h
        · next hu => cases h; exact remaining_enter hu
        · contradiction

def run (scene : Scene) (s : Search) : Except SceneError SceneTree :=
  match _h : s.step scene with
  | .next s' => run scene s'
  | .found t => .ok t
  | .refused e => .error e
termination_by s.remaining
decreasing_by exact remaining_of_step _h

def start (scene : Scene) (root : Placed) : Search where
  top := .enter root
  below := []
  unseen := (List.range scene.nodes.size).erase root.id
  parents := []

end Search

/-- The tree below the root, if every reachable node is listed once and the root never. Nodes that
cannot be reached do not matter. -/
def Scene.tree (scene : Scene) : Except SceneError SceneTree :=
  match scene.rootNode? with
  | none => .error (.missingRoot scene.root)
  | some node => (Search.start scene ⟨scene.root, node⟩).run scene

end SceneMarkup
