import SceneMarkup.Context
import SceneMarkup.Markup.Basic
import SceneMarkup.Text

namespace SceneMarkup

structure Imports where
  typed : Bool
  instancing : Bool
  animated : Bool
  cameras : List String
  clouds : Bool
  stars : Bool

namespace Imports

def line (lead : String) (names : List String) (module : String) : String :=
  "import " ++ lead ++ Text.braced (" " ++ ", ".intercalate names ++ " ") ++
    " from '" ++ module ++ "'\n"

def reactNames (i : Imports) : List String :=
  ["Suspense", "useEffect"] ++ (if i.animated then ["useRef"] else []) ++ ["useState"]

def helperNames (i : Imports) : List String :=
  ["useGLTF"] ++ (if i.instancing then ["Merged"] else []) ++
    (if i.animated then ["useAnimations"] else []) ++ i.cameras ++
    (if i.clouds then ["Cloud"] else []) ++ (if i.stars then ["Stars"] else []) ++
    ["OrbitControls"]

def text (i : Imports) : String :=
  (if i.typed then "import * as THREE from 'three'\n" else "") ++
    line "React, " i.reactNames "react" ++
    line "" ["Canvas", "useFrame"] "@react-three/fiber" ++
    line "" i.helperNames "@react-three/drei" ++
    (if i.typed then line "" ["GLTF"] "three-stdlib" else "") ++
    line "" ["useControls"] "leva"

end Imports

structure AssetTypes where
  nodes : List (String × String)
  materials : List (String × String)
  clips : List String
  context : Shape

namespace AssetTypes

def isTopBone (v : Visit) : Bool :=
  v.node.isBone && !(v.parent.map (·.node.isBone)).getD false

def isTyped (c : Composition) (v : Visit) : Bool :=
  !v.node.name.isEmpty && !c.isRemoved v.id && (v.node.isMesh || isTopBone v)

def of (s : Setting) (c : Composition) (context : ContextValue) : AssetTypes where
  nodes := distinctBy Prod.fst
    ((s.survey.visits.filter (isTyped c)).map fun v => (v.node.name, v.node.type))
  materials := distinctBy Prod.fst
    ((s.survey.materials.filter (!·.material.name.isEmpty)).map fun usage =>
      (usage.material.name, usage.material.type))
  clips := distinct (s.scene.animations.map (·.name))
  context := .of context

def row (entry : String × String) : String :=
  "    " ++ Naming.objectKey entry.1 ++ ": THREE." ++ entry.2 ++ "\n"

def clipsText (clips : List String) : String :=
  if clips.isEmpty then "  animations: THREE.AnimationClip[]\n\x7d\n"
  else
    "  animations: GLTFAction[]\n\x7d\n\n" ++
      "type ActionName = " ++ " | ".intercalate (clips.map Text.quote) ++ "\n\n" ++
      "interface GLTFAction extends THREE.AnimationClip \x7b\n  name: ActionName\n\x7d\n"

def text (t : AssetTypes) : String :=
  "type GLTFResult = GLTF & \x7b\n  nodes: \x7b\n" ++ String.join (t.nodes.map row) ++
    "  \x7d\n  materials: \x7b\n" ++ String.join (t.materials.map row) ++ "  \x7d\n" ++
    clipsText t.clips ++ "\ntype SceneContext = " ++ t.context.text ++ "\n"

end AssetTypes

end SceneMarkup
