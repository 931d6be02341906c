import SceneMarkup.Context
import SceneMarkup.Number.Numeral

namespace SceneMarkup

inductive RigKind
  | model
  | material
  | pointLight
  | spotLight
  | background
  | cloud
  | stars
  deriving DecidableEq

def RigKind.isLight : RigKind → Bool
  | .pointLight | .spotLight => true
  | _ => false

structure ControlRange where
  min : Float
  max : Float
  step : Float
  angular : Bool := false
  deriving DecidableEq

structure Rig where
  key : String
  title : String
  kind : RigKind
  fields : List (String × ContextValue)

namespace Rig

def light (key title : String) (kind : RigKind) (position : Vec3) (intensity : Float) : Rig where
  key := key
  title := title
  kind := kind
  fields := [
    ("intensity", .number intensity),
    ("decay", .number 2),
    ("position", .values position),
    ("rotation", .angles .zero)]

def cloud (key title : String) (position : Vec3) (opacity speed : Float) : Rig where
  key := key
  title := title
  kind := .cloud
  fields := [
    ("position", .values position),
    ("opacity", .number opacity),
    ("speed", .number speed),
    ("width", .number 10),
    ("depth", .number 1.5),
    ("segments", .number 20)]

def background : Rig where
  key := "background"
  title := "Background"
  kind := .background
  fields := [
    ("gradient", .bool true),
    ("top", .text "#1e1e2e"),
    ("bottom", .text "#000000")]

def stars : Rig where
  key := "stars"
  title := "Stars"
  kind := .stars
  fields := [
    ("radius", .number 100),
    ("depth", .number 50),
    ("count", .number 5000),
    ("factor", .number 4),
    ("saturation", .number 0),
    ("fade", .bool true)]

def catalog : List Rig := [
  light "pointLight1" "Point light 1" .pointLight ⟨10, 10, 10⟩ 1,
  light "pointLight2" "Point light 2" .pointLight ⟨-10, -10, -10⟩ 0.5,
  light "spotLight" "Spot light" .spotLight ⟨10, 15, 10⟩ 1,
  background,
  cloud "cloud1" "Cloud 1" ⟨-4, -2, -25⟩ 0.5 0.4,
  cloud "cloud2" "Cloud 2" ⟨4, -2, -15⟩ 0.4 0.3,
  cloud "cloud3" "Cloud 3" ⟨-4, 2, -10⟩ 0.3 0.2,
  stars]

end Rig

namespace ControlRange

def rotation : ControlRange := ⟨-Number.pi, Number.pi, 0.01, true⟩

def linear (min max step : Float) : ControlRange := ⟨min, max, step, false⟩

def ofLight? : String → Option ControlRange
  | "intensity" => some (linear 0 10 0.1)
  | "decay" => some (linear 0 5 0.1)
  | _ => none

def ofMaterial? (field : String) : Option ControlRange :=
  if ["metalness", "roughness", "clearcoat", "clearcoatRoughness"].contains field then
    some (linear 0 1 0.01)
  else none

def ofCloud? : String → Option ControlRange
  | "opacity" => some (linear 0 1 0.01)
  | "speed" => some (linear 0 2 0.01)
  | "width" => some (linear 0 50 0.1)
  | "depth" => some (linear 0 10 0.1)
  | "segments" => some (linear 1 80 1)
  | _ => none

def ofStars? : String → Option ControlRange
  | "radius" => some (linear 1 500 1)
  | "depth" => some (linear 1 200 1)
  | "count" => some (linear 0 20000 100)
  | "factor" => some (linear 0 20 0.1)
  | "saturation" => some (linear 0 1 0.01)
  | _ => none

def of? (kind : RigKind) (field : String) : Option ControlRange :=
  if field = "rotation" then some rotation
  else if field = "position" then some (linear (-50) 50 0.1)
  else
    match kind with
    | .model => if field = "scale" then some (linear 0.01 10 0.01) else none
    | .material => ofMaterial? field
    | .pointLight | .spotLight => ofLight? field
    | .background => none
    | .cloud => ofCloud? field
    | .stars => ofStars? field

end ControlRange

structure ControlField where
  name : String
  range : Option ControlRange
  deriving DecidableEq

structure ControlGroup where
  binding : String
  title : String
  kind : RigKind
  path : List String
  fields : List ControlField
  deriving DecidableEq

structure MaterialSync where
  path : List String
  owner : String
  fields : List String
  deriving DecidableEq

structure ContextSync where
  binding : String
  path : List String
  field : String
  deriving DecidableEq

structure ControlSet where
  defaults : ContextValue
  groups : List ControlGroup
  materialSync : List MaterialSync

namespace ControlSet

def contextSync (c : ControlSet) : List ContextSync :=
  c.groups.flatMap fun g => g.fields.map fun f => ⟨g.binding, g.path, f.name⟩

def group? (c : ControlSet) (binding : String) : Option ControlGroup :=
  c.groups.find? (·.binding == binding)

def hasKind (c : ControlSet) (kind : RigKind) : Bool := c.groups.any (·.kind == kind)

end ControlSet

end SceneMarkup
