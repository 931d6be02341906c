import SceneMarkup.Json.Value
import SceneMarkup.Number.Numeral

namespace SceneMarkup

structure Vec3 where
  x : Float
  y : Float
  z : Float
  deriving DecidableEq

namespace Vec3

def zero : Vec3 := ⟨0, 0, 0⟩

def one : Vec3 := ⟨1, 1, 1⟩

def unitY : Vec3 := ⟨0, 1, 0⟩

def splat (x : Float) : Vec3 := ⟨x, x, x⟩

def map (f : Float → Float) (v : Vec3) : Vec3 := ⟨f v.x, f v.y, f v.z⟩

def toList (v : Vec3) : List Float := [v.x, v.y, v.z]

def ofList? : List Float → Option Vec3
  | [x, y, z] => some ⟨x, y, z⟩
  | _ => none

def length (v : Vec3) : Float := (v.x * v.x + v.y * v.y + v.z * v.z).sqrt

end Vec3

structure Color where
  red : Float
  green : Float
  blue : Float
  deriving DecidableEq

namespace Color

def white : Color := ⟨1, 1, 1⟩

def clampUnit (x : Float) : Float := if x < 0 then 0 else if 1 < x then 1 else x

def nearest (x : Float) : Float :=
  let whole := Number.floor x
  if 0.5 ≤ x - whole then whole + 1 else whole

def channel (x : Float) : Nat :=
  if x.isNaN then 0 else (nearest (clampUnit x * 255)).toUInt8.toNat

def channelHex (x : Float) : String :=
  String.ofList [Nat.digitChar (channel x / 16), Nat.digitChar (channel x % 16)]

def hex (c : Color) : String := channelHex c.red ++ channelHex c.green ++ channelHex c.blue

def text (c : Color) : String := "#" ++ c.hex

def isWhite (c : Color) : Bool := c.hex == "ffffff"

end Color

abbrev NodeId := Nat

abbrev MaterialId := Nat

abbrev GeometryId := Nat

structure CameraParams where
  zoom : Float := 1
  far : Float := 2000
  near : Float := 0.1
  fov : Float := 50
  deriving DecidableEq

structure LightParams where
  intensity : Option Float := none
  angle : Option Float := none
  penumbra : Option Float := none
  decay : Option Float := none
  distance : Option Float := none
  up : Option Vec3 := none
  deriving DecidableEq

structure MorphTargets where
  dictionary : List (String × Nat) := []
  influences : List Float := []
  deriving DecidableEq

structure Node where
  type : String
  name : String := ""
  position : Vec3 := .zero
  rotation : Vec3 := .zero
  scale : Vec3 := .one
  geometry : Option GeometryId := none
  material : Option MaterialId := none
  children : List NodeId := []
  visible : Bool := true
  castShadow : Bool := false
  receiveShadow : Bool := false
  color : Option Color := none
  camera : Option CameraParams := none
  light : Option LightParams := none
  skeleton : Option (List NodeId) := none
  morph : Option MorphTargets := none
  userData : Option Json := none

def standardMaterialType : String := "MeshStandardMaterial"

structure Material where
  name : String := ""
  type : String := standardMaterialType
  metalness : Float := 0
  roughness : Float := 1
  clearcoat : Option Float := none
  clearcoatRoughness : Option Float := none
  color : Color := .white
  deriving DecidableEq

/-- Entries with the same key are the same geometry. -/
structure Geometry where
  key : String
  owner : Option NodeId := none
  vertexCount : Option Nat := none
  deriving DecidableEq

structure AnimationClip where
  name : String
  targets : Option (List String) := none
  deriving DecidableEq

structure Scene where
  root : NodeId := 0
  nodes : Array Node := #[]
  materials : Array Material := #[]
  geometries : Array Geometry := #[]
  animations : List AnimationClip := []

def occursIn (part : List Char) : List Char → Bool
  | [] => part.isEmpty
  | c :: rest => part.isPrefixOf (c :: rest) || occursIn part rest

def AnimationClip.references (clip : AnimationClip) (name : String) : Bool :=
  occursIn name.toList clip.name.toList || (clip.targets.getD []).contains name

namespace Scene

def geometryOf? (scene : Scene) (node : Node) : Option Geometry :=
  node.geometry.bind (scene.geometries[·]?)

def materialOf? (scene : Scene) (node : Node) : Option Material :=
  node.material.bind (scene.materials[·]?)

def rootNode? (scene : Scene) : Option Node := scene.nodes[scene.root]?

end Scene

def Node.group (name : String) : Node := { type := "Group", name }

namespace Scene

def initial : Scene := { nodes := #[{ type := "Scene", name := "Scene" }] }

def pushChild (scene : Scene) (parent child : NodeId) : Scene :=
  { scene with
    nodes := scene.nodes.modify parent fun n => { n with children := n.children ++ [child] } }

/-- Puts a node under a parent, which may be the new node itself; a parent that does not exist is
left out. -/
def addNode (scene : Scene) (parent : NodeId) (node : Node) : NodeId × Scene :=
  let id := scene.nodes.size
  (id, { scene with nodes := scene.nodes.push node }.pushChild parent id)

def addMaterial (scene : Scene) (material : Material) : MaterialId × Scene :=
  (scene.materials.size, { scene with materials := scene.materials.push material })

def addGeometry (scene : Scene) (geometry : Geometry) : GeometryId × Scene :=
  (scene.geometries.size, { scene with geometries := scene.geometries.push geometry })

end Scene

end SceneMarkup
