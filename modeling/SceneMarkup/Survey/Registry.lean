import SceneMarkup.Json.Value
import SceneMarkup.Naming
import SceneMarkup.Options
import SceneMarkup.Survey.Walk

/-!
The registry of duplicates: how many meshes carry a material of each name, and how many use a
geometry of each key. It is filled node by node, and only then loses what is not repeated.
-/

namespace SceneMarkup

namespace Scene

def meshMaterial? (scene : Scene) (node : Node) : Option String :=
  if node.isMesh then (scene.materialOf? node).map (·.name) else none

def meshKey? (scene : Scene) (node : Node) : Option String :=
  if node.isMesh then (scene.geometryOf? node).map (·.key) else none

end Scene

structure SharedGeometry where
  key : String
  count : Nat
  name : String
  owner : NodeId
  deriving DecidableEq

structure Registry where
  materials : List (String × Nat)
  geometries : List SharedGeometry
  places : List (String × Nat)
  deriving DecidableEq

namespace Registry

def empty : Registry := ⟨[], [], []⟩

def geometry? (r : Registry) (key : String) : Option SharedGeometry :=
  (r.places.lookup key).bind (r.geometries[·]?)

def materialCount (r : Registry) (name : String) : Nat := (r.materials.lookup name).getD 0

def tallied (name : String) : List (String × Nat) → List (String × Nat)
  | [] => [(name, 1)]
  | (other, n) :: rest =>
    if other = name then (other, n + 1) :: rest else (other, n) :: tallied name rest

def recordMaterial (scene : Scene) (r : Registry) (p : Placed) : Registry :=
  match scene.meshMaterial? p.node with
  | some name => { r with materials := tallied name r.materials }
  | none => r

def declaredOwner? (scene : Scene) (key : String) : Option NodeId :=
  scene.geometries.toList.findSome? fun g => if g.key = key then g.owner else none

def sighted (scene : Scene) (r : Registry) (p : Placed) (key : String) : SharedGeometry where
  key := key
  count := 1
  name := Naming.unique (Naming.displayBase p.node.name) (r.geometries.map (·.name))
  owner := (declaredOwner? scene key).getD p.id

def recordGeometry (scene : Scene) (r : Registry) (p : Placed) : Registry :=
  match scene.meshKey? p.node with
  | none => r
  | some key =>
    match r.places.lookup key with
    | some i =>
      { r with geometries := r.geometries.modify i fun g => { g with count := g.count + 1 } }
    | none =>
      { r with
        geometries := r.geometries ++ [r.sighted scene p key]
        places := (key, r.geometries.length) :: r.places }

def record (scene : Scene) (r : Registry) (p : Placed) : Registry :=
  (r.recordMaterial scene p).recordGeometry scene p

def prune (r : Registry) : Registry :=
  let geometries := r.geometries.filter (1 < ·.count)
  { r with geometries, places := geometries.zipIdx.map fun (g, i) => (g.key, i) }

/-- The registry of nodes in turn. Geometries used once stay in it if every geometry is shared. -/
def of (scene : Scene) (options : Options) (ps : List Placed) : Registry :=
  let all := ps.foldl (record scene) empty
  if options.instanceAll then all else all.prune

def SharedGeometry.toJson (g : SharedGeometry) : Json := .object [
  ("key", .string g.key), ("count", .natural g.count), ("name", .string g.name),
  ("owner", .natural g.owner)]

def toJson (r : Registry) : Json := .object [
  ("materials", .object (Json.sortMembers (r.materials.map fun (name, n) => (name, .natural n)))),
  ("geometries", .array (r.geometries.map SharedGeometry.toJson))]

end Registry

end SceneMarkup
