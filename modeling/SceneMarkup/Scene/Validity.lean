import SceneMarkup.Scene.NodeClass
import SceneMarkup.Scene.Search

namespace SceneMarkup

namespace Scene

def geometryDefect? (scene : Scene) (placed : Placed) : Option SceneError :=
  match placed.node.geometry with
  | some g => if g < scene.geometries.size then none else some (.danglingGeometry placed.id g)
  | none => if placed.node.isMesh then some (.missingGeometry placed.id placed.node.name) else none

def nameDefect? (placed : Placed) : Option SceneError :=
  let node := placed.node
  if node.name.isEmpty && (node.geometry.isSome || node.isBone) then
    some (.unnamedNode placed.id node.type)
  else none

def materialDefect? (scene : Scene) (placed : Placed) : Option SceneError :=
  match placed.node.material with
  | some m => if m < scene.materials.size then none else some (.danglingMaterial placed.id m)
  | none => none

def boneDefect? (scene : Scene) (placed : Placed) : Option SceneError :=
  ((placed.node.skeleton.getD []).find? (scene.nodes.size ≤ ·)).map (.danglingBone placed.id)

def nodeDefect? (scene : Scene) (placed : Placed) : Option SceneError :=
  scene.geometryDefect? placed <|> nameDefect? placed <|> scene.materialDefect? placed <|>
    scene.boneDefect? placed

def placedNodes (scene : Scene) : List Placed :=
  scene.nodes.toList.zipIdx.map fun (node, id) => ⟨id, node⟩

def declaredCount? (key : String) (geometries : List Geometry) : Option Nat :=
  geometries.findSome? fun g => if g.key = key then g.vertexCount else none

def countDefect? (earlier : List Geometry) (g : Geometry) : Option SceneError :=
  match declaredCount? g.key earlier, g.vertexCount with
  | some first, some second =>
    if first = second then none else some (.inconsistentGeometry g.key first second)
  | _, _ => none

def usesKey (scene : Scene) (key : String) (owner : NodeId) : Bool :=
  ((scene.nodes[owner]?.bind scene.geometryOf?).map (·.key == key)).getD false

def ownerDefect? (scene : Scene) (g : Geometry) : Option SceneError :=
  match g.owner with
  | some owner => if scene.usesKey g.key owner then none else some (.danglingOwner g.key owner)
  | none => none

def geometriesDefect? (scene : Scene) (earlier : List Geometry) :
    List Geometry → Option SceneError
  | [] => none
  | g :: rest =>
    countDefect? earlier g <|> scene.ownerDefect? g <|>
      scene.geometriesDefect? (earlier ++ [g]) rest

def tableDefect? (scene : Scene) : Option SceneError :=
  scene.placedNodes.findSome? scene.nodeDefect? <|>
    scene.geometriesDefect? [] scene.geometries.toList

def validate (scene : Scene) : Except SceneError SceneTree :=
  match scene.tree with
  | .error e => .error e
  | .ok tree =>
    match scene.tableDefect? with
    | some e => .error e
    | none => .ok tree

end Scene

end SceneMarkup
