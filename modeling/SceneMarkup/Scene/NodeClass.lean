import SceneMarkup.Scene.Basic

namespace SceneMarkup

inductive NodeClass
  | container
  | mesh
  | bone
  | perspectiveCamera
  | orthographicCamera
  | light
  | other
  deriving DecidableEq

namespace NodeClass

def ofType (type : String) : NodeClass :=
  if ["Group", "Object3D", "Scene"].contains type then .container
  else if ["Mesh", "SkinnedMesh", "InstancedMesh"].contains type then .mesh
  else if type == "Bone" then .bone
  else if type == "PerspectiveCamera" then .perspectiveCamera
  else if type == "OrthographicCamera" then .orthographicCamera
  else if ["PointLight", "SpotLight", "DirectionalLight", "AmbientLight", "HemisphereLight",
    "RectAreaLight"].contains type then .light
  else .other

def isCamera : NodeClass → Bool
  | .perspectiveCamera | .orthographicCamera => true
  | _ => false

end NodeClass

namespace Node

def nodeClass (node : Node) : NodeClass := .ofType node.type

def isMesh (node : Node) : Bool := node.nodeClass == .mesh

def isBone (node : Node) : Bool := node.nodeClass == .bone

end Node

def intrinsicTypes : List String := [
  "Mesh", "SkinnedMesh", "InstancedMesh", "Bone", "Points", "Line", "LineSegments", "LineLoop",
  "Sprite", "LOD", "PointLight", "SpotLight", "DirectionalLight", "AmbientLight",
  "HemisphereLight", "RectAreaLight"]

def groupTag : String := "group"

def lowerFirst (text : String) : String :=
  match text.toList with
  | [] => ""
  | c :: rest => String.ofList (c.toLower :: rest)

def elementTag (type : String) : String :=
  if NodeClass.ofType type = .container then groupTag
  else if intrinsicTypes.contains type then lowerFirst type
  else type

end SceneMarkup
