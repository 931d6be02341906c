import SceneMarkup.Scene.Basic

namespace SceneMarkup

def Vec3.toJson (v : Vec3) : Json := .array (v.toList.map .real)

def Color.toJson (c : Color) : Json := .array [.real c.red, .real c.green, .real c.blue]

def CameraParams.toJson (c : CameraParams) : Json := .object [
  ("zoom", .real c.zoom), ("far", .real c.far), ("near", .real c.near), ("fov", .real c.fov)]

def LightParams.toJson (l : LightParams) : Json := .object [
  ("intensity", .ofOption .real l.intensity),
  ("angle", .ofOption .real l.angle),
  ("penumbra", .ofOption .real l.penumbra),
  ("decay", .ofOption .real l.decay),
  ("distance", .ofOption .real l.distance),
  ("up", .ofOption Vec3.toJson l.up)]

def skeletonToJson (bones : List NodeId) : Json :=
  .object [("bones", .array (bones.map .natural))]

def MorphTargets.toJson (m : MorphTargets) : Json := .object [
  ("dictionary", .object (m.dictionary.map fun (k, n) => (k, .natural n))),
  ("influences", .array (m.influences.map .real))]

def Node.toJson (n : Node) : Json := .object [
  ("type", .string n.type),
  ("name", .string n.name),
  ("position", n.position.toJson),
  ("rotation", n.rotation.toJson),
  ("scale", n.scale.toJson),
  ("geometry", .ofOption .natural n.geometry),
  ("material", .ofOption .natural n.material),
  ("children", .array (n.children.map .natural)),
  ("visible", .bool n.visible),
  ("castShadow", .bool n.castShadow),
  ("receiveShadow", .bool n.receiveShadow),
  ("color", .ofOption Color.toJson n.color),
  ("camera", .ofOption CameraParams.toJson n.camera),
  ("light", .ofOption LightParams.toJson n.light),
  ("skeleton", .ofOption skeletonToJson n.skeleton),
  ("morph", .ofOption MorphTargets.toJson n.morph),
  ("userData", .ofOption id n.userData)]

def Material.toJson (m : Material) : Json := .object [
  ("name", .string m.name),
  ("type", .string m.type),
  ("metalness", .real m.metalness),
  ("roughness", .real m.roughness),
  ("clearcoat", .ofOption .real m.clearcoat),
  ("clearcoatRoughness", .ofOption .real m.clearcoatRoughness),
  ("color", m.color.toJson)]

def Geometry.toJson (g : Geometry) : Json := .object [
  ("key", .string g.key),
  ("owner", .ofOption .natural g.owner),
  ("vertexCount", .ofOption .natural g.vertexCount)]

def AnimationClip.toJson (c : AnimationClip) : Json := .object [
  ("name", .string c.name),
  ("targets", .ofOption (.array ∘ List.map .string) c.targets)]

def Scene.toJson (s : Scene) : Json := .object [
  ("root", .natural s.root),
  ("nodes", .array (s.nodes.toList.map Node.toJson)),
  ("materials", .array (s.materials.toList.map Material.toJson)),
  ("geometries", .array (s.geometries.toList.map Geometry.toJson)),
  ("animations", .array (s.animations.map AnimationClip.toJson))]

end SceneMarkup
