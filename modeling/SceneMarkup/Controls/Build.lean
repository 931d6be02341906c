import SceneMarkup.Controls.Basic
import SceneMarkup.Markup.Basic

namespace SceneMarkup

def controlFields (kind : RigKind) (names : List String) : List ControlField :=
  names.map fun name => ⟨name, ControlRange.of? kind name⟩

namespace Setting

def scaleValue (scale : Vec3) : ContextValue :=
  if scale.x == scale.y && scale.y == scale.z then .number scale.x else .values scale

def modelPath : List String := ["model"]

def modelDefaults (root : Node) : ContextValue := .group [
  ("position", .values root.position),
  ("rotation", .angles root.rotation),
  ("scale", scaleValue root.scale)]

def modelGroup : ControlGroup where
  binding := "model"
  title := "Model"
  kind := .model
  path := modelPath
  fields := controlFields .model ["position", "rotation", "scale"]

def materialPath (ordinal : Nat) : List String := ["materials", toString ordinal]

def optionalEntry (key : String) (value : Option Float) : List (String × ContextValue) :=
  match value with
  | some x => [(key, .number x)]
  | none => []

def materialDefaults (m : Material) : ContextValue := .group (
  [("metalness", .number m.metalness), ("roughness", .number m.roughness)] ++
    optionalEntry "clearcoat" m.clearcoat ++
    optionalEntry "clearcoatRoughness" m.clearcoatRoughness ++
    [("color", .text m.color.text)])

def materialFields (caps : MaterialCaps) : List String :=
  ["metalness", "roughness"] ++ (if caps.clearcoat then ["clearcoat"] else []) ++
    (if caps.clearcoatRoughness then ["clearcoatRoughness"] else []) ++ ["color"]

def materialTitle (ordinal : Nat) (m : Material) : String :=
  if m.name.isEmpty then "Material " ++ toString ordinal else m.name

def materialGroup (usage : MaterialUse) (ordinal : Nat) : ControlGroup where
  binding := "material" ++ toString ordinal
  title := materialTitle ordinal usage.material
  kind := .material
  path := materialPath ordinal
  fields := controlFields .material (materialFields (.of usage.material))

def materialSync (usage : MaterialUse) (ordinal : Nat) : MaterialSync where
  path := materialPath ordinal
  owner := usage.firstUser.node.name
  fields := materialFields (.of usage.material)

def transformEntries (s : Setting) (node : Node) : List (String × ContextValue) :=
  let delta := TransformDelta.of s.precision node
  (if delta.position then [("position", .values node.position)] else []) ++
    (if delta.rotation then [("rotation", .angles node.rotation)] else []) ++
    if delta.scale then [("scale", .values node.scale)] else []

def transformDefaults (s : Setting) (c : Composition) : ContextValue :=
  let kept := s.survey.transformKeys.filter fun (p, _) => !c.isRemoved p.id
  .group (kept.map fun (p, key) => (key, .group (s.transformEntries p.node)))

def isEdited (s : Setting) (rig : Rig) (field : String) : Bool :=
  !(rig.kind.isLight && field == "rotation" && !s.options.lightRotationControls)

def rigGroup (s : Setting) (rig : Rig) : ControlGroup where
  binding := rig.key
  title := rig.title
  kind := rig.kind
  path := [rig.key]
  fields := controlFields rig.kind ((rig.fields.map Prod.fst).filter (s.isEdited rig))

def exactDefaults (s : Setting) (root : Node) (c : Composition) : ContextValue := .group (
  [("model", modelDefaults root),
    ("materials", .group (s.survey.materials.zipIdx.map fun (usage, i) =>
      (toString i, materialDefaults usage.material))),
    ("transforms", s.transformDefaults c)] ++
  Rig.catalog.map fun rig => (rig.key, .group rig.fields))

def plainGroups (s : Setting) : List ControlGroup :=
  modelGroup :: s.survey.materials.zipIdx.map (fun (usage, i) => materialGroup usage i) ++
    Rig.catalog.map s.rigGroup

def controlGroups (s : Setting) : List ControlGroup :=
  (s.plainGroups.zip (Naming.uniqueAll [] (s.plainGroups.map (·.title)))).map
    fun (g, title) => { g with title }

def controls (s : Setting) (root : Node) (c : Composition) : ControlSet where
  defaults := (s.exactDefaults root c).round s.precision
  groups := s.controlGroups
  materialSync := s.survey.materials.zipIdx.map fun (usage, i) => materialSync usage i

end Setting

end SceneMarkup
