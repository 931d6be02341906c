import SceneMarkup.Source.Expression
import SceneMarkup.Survey.Basic

namespace SceneMarkup

structure Setting where
  scene : Scene
  options : Options
  survey : Survey

namespace Setting

def of (scene : Scene) (options : Options) : Setting := ⟨scene, options, .of scene options⟩

def precision (s : Setting) : Number.Precision := s.options.canonical

/-- Names are kept for clips and morph targets. Every clip name contains the empty name. -/
def keepsName (s : Setting) (node : Node) : Bool :=
  s.options.keepNames || node.morph.isSome || s.scene.animations.any (·.references node.name)

def nameAttribute (s : Setting) (node : Node) : List Attribute :=
  if s.keepsName node then [.text "name" node.name] else []

def numberUnless (s : Setting) (name : String) (value default : Float) : List Attribute :=
  if s.precision.agrees value default then []
  else [.expression name (.numeral (s.precision.numeral value))]

def optionalNumber (s : Setting) (name : String) (value : Option Float) (default : Float) :
    List Attribute :=
  match value with
  | some x => s.numberUnless name x default
  | none => []

def cameraAttributes (s : Setting) (node : Node) : List Attribute :=
  let standard : CameraParams := {}
  let camera := node.camera.getD standard
  let common :=
    Attribute.expression "makeDefault" (.bool false) ::
      s.numberUnless "zoom" camera.zoom standard.zoom ++
      s.numberUnless "far" camera.far standard.far ++
      s.numberUnless "near" camera.near standard.near
  match node.nodeClass with
  | .perspectiveCamera => common ++ s.numberUnless "fov" camera.fov standard.fov
  | .orthographicCamera => common
  | _ => []

def shadowFlags : List Attribute := [.flag "castShadow", .flag "receiveShadow"]

def optionalShadows (s : Setting) (node : Node) : List Attribute :=
  if node.isMesh && s.options.shadows then shadowFlags else []

def ofNode (node : Node) (member : String) : Expression := .reference .nodes [node.name, member]

def geometryAttribute (node : Node) : List Attribute :=
  if node.geometry.isSome then [.expression "geometry" (ofNode node "geometry")] else []

def materialReference (s : Setting) (node : Node) (material : Material) : Expression :=
  if !material.name.isEmpty && s.survey.registry.materialCount material.name == 1 then
    .reference .materials [material.name]
  else ofNode node "material"

def materialAttribute (s : Setting) (node : Node) : List Attribute :=
  match s.scene.materialOf? node with
  | some m => [.expression "material" (s.materialReference node m)]
  | none => []

def skeletonAttribute (node : Node) : List Attribute :=
  if node.skeleton.isSome then [.expression "skeleton" (ofNode node "skeleton")] else []

def visibleAttribute (node : Node) : List Attribute :=
  if node.visible then [] else [.expression "visible" (.bool false)]

def ownShadows (node : Node) : List Attribute :=
  (if node.castShadow then [.flag "castShadow"] else []) ++
    if node.receiveShadow then [.flag "receiveShadow"] else []

def morphAttributes (node : Node) : List Attribute :=
  match node.morph with
  | none => []
  | some morph =>
    (if morph.dictionary.isEmpty then []
      else [.expression "morphTargetDictionary" (ofNode node "morphTargetDictionary")]) ++
    if morph.influences.isEmpty then []
      else [.expression "morphTargetInfluences" (ofNode node "morphTargetInfluences")]

def defaultLightAngle : Float := Number.pi / 3

def angleAttribute (s : Setting) (angle : Option Float) : List Attribute :=
  match angle with
  | some x =>
    if s.precision.agrees x defaultLightAngle then []
    else [.expression "angle" (.numeral (s.precision.angle x))]
  | none => []

def agreesAt (s : Setting) (v target : Vec3) : Bool :=
  (v.toList.zip target.toList).all fun (x, y) => s.precision.agrees x y

def upAttribute (s : Setting) (up : Option Vec3) : List Attribute :=
  match up with
  | some v =>
    if s.agreesAt v .unitY then []
    else [.expression "up" (.vector (v.toList.map s.precision.numeral))]
  | none => []

def lightAttributes (s : Setting) (node : Node) : List Attribute :=
  match node.light with
  | none => []
  | some light =>
    s.optionalNumber "intensity" light.intensity 1 ++
    s.angleAttribute light.angle ++
    s.optionalNumber "penumbra" light.penumbra 0 ++
    s.optionalNumber "decay" light.decay 2 ++
    s.optionalNumber "distance" light.distance 0 ++
    s.upAttribute light.up

def colorAttribute (node : Node) : List Attribute :=
  match node.color with
  | some c => if c.isWhite then [] else [.text "color" c.text]
  | none => []

def transformPath (key : String) : List String := ["transforms", key]

def transformAttributes (s : Setting) (placed : Placed) : List Attribute :=
  match s.survey.transformKey? placed.id with
  | none => []
  | some key =>
    let delta := TransformDelta.of s.precision placed.node
    let bind (isBound : Bool) (field : String) : List Attribute :=
      if isBound then
        [.expression field (.reference .context (transformPath key ++ [field]))]
      else []
    bind delta.position "position" ++ bind delta.rotation "rotation" ++ bind delta.scale "scale"

def isEmptyData : Json → Bool
  | .null => true
  | .object members => members.isEmpty
  | _ => false

def userDataAttribute (s : Setting) (node : Node) : List Attribute :=
  match node.userData with
  | some data =>
    if s.options.metadata && !isEmptyData data then [.expression "userData" (.json data)] else []
  | none => []

def candidateAttributes (s : Setting) (placed : Placed) : List Attribute :=
  let node := placed.node
  s.nameAttribute node ++ s.cameraAttributes node ++ s.optionalShadows node ++
    geometryAttribute node ++ s.materialAttribute node ++ skeletonAttribute node ++
    visibleAttribute node ++ ownShadows node ++ morphAttributes node ++ s.lightAttributes node ++
    colorAttribute node ++ s.transformAttributes placed ++ s.userDataAttribute node

/-- The attributes of a node written by itself; of two with one name the first is kept. -/
def directAttributes (s : Setting) (placed : Placed) : List Attribute :=
  distinctBy (·.name) (s.candidateAttributes placed)

def instancedAttributes (s : Setting) (placed : Placed) : List Attribute :=
  let node := placed.node
  s.nameAttribute node ++ visibleAttribute node ++ s.transformAttributes placed ++
    s.userDataAttribute node

end Setting

end SceneMarkup
