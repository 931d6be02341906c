import SceneMarkup.Controls.Build
import SceneMarkup.Scene.Validity
import SceneMarkup.Source.Host
import SceneMarkup.Source.Model
import SceneMarkup.Source.Types

/-!
Source units. A unit is made of blocks in a fixed order: the imports, the types if they are asked
for, the default context, the model, the controls and the host.
-/

namespace SceneMarkup

structure Plan where
  setting : Setting
  composition : Composition
  controls : ControlSet

namespace Plan

/-- Saved values are rounded like all others. -/
def restore (p : Number.Precision) (saved : Option Json) (c : ControlSet) : ControlSet :=
  match saved with
  | some j => { c with defaults := (c.defaults.overlay j).round p }
  | none => c

def of (scene : Scene) (options : Options) (saved : Option Json) (tree : SceneTree) : Plan :=
  let setting := Setting.of scene options
  let composition := Composition.of setting tree
  { setting, composition
    controls := restore setting.precision saved (setting.controls tree.node composition) }

def options (p : Plan) : Options := p.setting.options

def survey (p : Plan) : Survey := p.setting.survey

def instances (p : Plan) : List InstanceRow :=
  if p.survey.instancing then
    p.survey.registry.geometries.map fun g =>
      ⟨g.name, (p.setting.scene.nodes[g.owner]?.map (·.name)).getD ""⟩
  else []

def isAnimated (p : Plan) : Bool := !p.setting.scene.animations.isEmpty

def imports (p : Plan) : Imports where
  typed := p.options.types
  instancing := !p.instances.isEmpty
  animated := p.isAnimated
  cameras := p.composition.cameras
  clouds := p.controls.hasKind .cloud
  stars := p.controls.hasKind .stars

def types (p : Plan) : AssetTypes := .of p.setting p.composition p.controls.defaults

def debugDump (p : Plan) : Option String :=
  if p.options.debug then some ("duplicate registry\n" ++ p.survey.registry.toJson.pretty) else none

def modelPath (p : Plan) : List String :=
  ((p.controls.group? "model").map (·.path)).getD ["model"]

def model (p : Plan) : Model where
  component := p.options.componentName
  assetUrl := p.options.assetUrl
  decoder := p.options.decoder
  markup := p.composition.text
  instances := p.instances
  animated := p.isAnimated
  typed := p.options.types
  debugDump := p.debugDump
  path := p.modelPath

def host (p : Plan) : Host where
  component := p.options.componentName
  storageKey := p.options.storageKey
  instancing := !p.instances.isEmpty
  typed := p.options.types
  groups := p.controls.groups

def blocks (p : Plan) : List String :=
  p.imports.text :: (if p.options.types then [p.types.text] else []) ++ [
    contextBlock p.setting.precision p.controls.defaults,
    p.model.text,
    p.controls.text p.setting.precision p.options.types,
    p.host.text]

def text (p : Plan) : String := "\n".intercalate p.blocks

def reports (p : Plan) : List Report :=
  p.survey.reports p.options ++ p.composition.reports p.setting

end Plan

structure SourceUnit where
  text : String
  context : ContextValue
  registry : Registry
  reports : List Report

def Plan.unit (p : Plan) : SourceUnit where
  text := p.text
  context := p.controls.defaults
  registry := p.survey.registry
  reports := p.reports

def plan (scene : Scene) (options : Options) (saved : Option Json) : Except SceneError Plan :=
  scene.validate.map (Plan.of scene options saved)

/-- The unit of a scene; a scene with a defect gives none. -/
def generate (scene : Scene) (options : Options) (saved : Option Json) :
    Except SceneError SourceUnit :=
  (plan scene options saved).map Plan.unit

end SceneMarkup
