import SceneMarkup.Naming
import SceneMarkup.Number.Numeral
import SceneMarkup.Survey.Registry
import SceneMarkup.Survey.Walk

namespace SceneMarkup

inductive Stage
  | walk
  | emit
  deriving DecidableEq

structure Report where
  stage : Stage
  done : Nat
  total : Nat
  deriving DecidableEq

/--
The reports of a stage that takes `steps` steps: one for every `interval` of them, an interval of
zero counting as one, and one where as many steps as there are nodes are done.
-/
def Stage.reports (stage : Stage) (interval total steps : Nat) : List Report :=
  let isDue done := done % max interval 1 == 0 || done == total
  ((List.range' 1 steps).filter isDue).map (⟨stage, ·, total⟩)

/-- Keeps the elements whose key is new, neither among `seen` nor met before. -/
def distinctFrom [DecidableEq κ] (key : α → κ) (seen : List κ) : List α → List α
  | [] => []
  | a :: rest =>
    if key a ∈ seen then distinctFrom key seen rest
    else a :: distinctFrom key (key a :: seen) rest

def distinctBy [DecidableEq κ] (key : α → κ) (as : List α) : List α := distinctFrom key [] as

def distinct [DecidableEq α] (as : List α) : List α := distinctBy id as

def sortedDistinct (names : List String) : List String :=
  (distinct names).mergeSort fun a b => !decide (b < a)

structure TransformDelta where
  position : Bool
  rotation : Bool
  scale : Bool
  deriving DecidableEq

namespace TransformDelta

def isUnit (precision : Number.Precision) (v : Vec3) : Bool :=
  v.toList.all fun c => precision.round c == 1

def of (precision : Number.Precision) (node : Node) : TransformDelta where
  position := precision.round node.position.length != 0
  rotation := precision.round node.rotation.length != 0
  scale := !isUnit precision node.scale

def any (d : TransformDelta) : Bool := d.position || d.rotation || d.scale

end TransformDelta

def fallbackTransformKey : String := "node"

def transformKeyBase (node : Node) : String :=
  if node.name.isEmpty then fallbackTransformKey else node.name

/-- The root has its transform in the shell, and bones and what is below them are live. -/
def Visit.isBound (precision : Number.Precision) (root : NodeId) (v : Visit) : Bool :=
  v.id != root && !v.skinned && (TransformDelta.of precision v.node).any

def boundKeys (precision : Number.Precision) (root : NodeId) (visits : List Visit) :
    List (Placed × String) :=
  let bound := (visits.filter (·.isBound precision root)).map (·.placed)
  bound.zip (Naming.uniqueAll [] (bound.map fun p => transformKeyBase p.node))

structure MaterialCaps where
  clearcoat : Bool
  clearcoatRoughness : Bool
  deriving DecidableEq

def MaterialCaps.of (m : Material) : MaterialCaps where
  clearcoat := m.clearcoat.isSome
  clearcoatRoughness := m.clearcoatRoughness.isSome

structure MaterialUse where
  id : MaterialId
  material : Material
  firstUser : Placed

def materialUse? (scene : Scene) (mesh : Placed) : Option MaterialUse := do
  let id ← mesh.node.material
  let material ← scene.materials[id]?
  return ⟨id, material, mesh⟩

structure Survey where
  visits : List Visit
  transformKeys : List (Placed × String)
  materials : List MaterialUse
  registry : Registry
  instancing : Bool

namespace Survey

def of (scene : Scene) (options : Options) : Survey :=
  let visits := scene.visits
  let visited := visits.map (·.placed)
  let registry := Registry.of scene options visited
  { visits, registry
    transformKeys := boundKeys options.canonical scene.root visits
    materials := distinctBy (·.id)
      ((visited.filter (·.node.isMesh)).filterMap (materialUse? scene))
    instancing := options.requestsInstancing && !registry.geometries.isEmpty }

def transformKey? (s : Survey) (id : NodeId) : Option String :=
  (s.transformKeys.find? (·.1.id == id)).map (·.2)

def materialUse? (s : Survey) (id : MaterialId) : Option MaterialUse :=
  s.materials.find? (·.id == id)

def reports (s : Survey) (options : Options) : List Report :=
  Stage.walk.reports options.progressInterval s.visits.length s.visits.length

end Survey

end SceneMarkup
