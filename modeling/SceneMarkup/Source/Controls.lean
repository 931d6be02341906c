import SceneMarkup.Controls.Basic
import SceneMarkup.Source.Expression
import SceneMarkup.Text

namespace SceneMarkup

def contextAnnotation (typed : Bool) : String := if typed then ": SceneContext" else ""

namespace ControlRange

def boundText (p : Number.Precision) (angular : Bool) (x : Float) : String :=
  if angular then (p.angle x).text else Number.text x

def text (p : Number.Precision) (r : ControlRange) : String :=
  "min: " ++ boundText p r.angular r.min ++ ", max: " ++ boundText p r.angular r.max ++
    ", step: " ++ Number.text r.step

end ControlRange

namespace ControlGroup

def fieldText (p : Number.Precision) (path : List String) (f : ControlField) : String :=
  let value := Scope.context.reference (path ++ [f.name])
  "      " ++ Naming.objectKey f.name ++ ": " ++
    (match f.range with
    | some r => Text.braced (" value: " ++ value ++ ", " ++ r.text p ++ " ")
    | none => value) ++ ",\n"

def text (p : Number.Precision) (g : ControlGroup) : String :=
  "  const " ++ g.binding ++ " = useControls(\n    " ++ Text.quote g.title ++ ",\n    \x7b\n" ++
    String.join (g.fields.map (fieldText p g.path)) ++
    "    \x7d,\n    \x7b collapsed: true \x7d,\n  )\n"

end ControlGroup

def ContextSync.text (s : ContextSync) : String :=
  "  " ++ Scope.context.reference (s.path ++ [s.field]) ++ " = " ++
    Naming.propertyAccess s.binding s.field ++ "\n"

namespace MaterialSync

def fieldText (name : String) (path : List String) (field : String) : String :=
  let value := Scope.context.reference (path ++ [field])
  "    " ++ name ++ (if field = "color" then ".color.set(" ++ value ++ ")"
    else "." ++ field ++ " = " ++ value) ++ "\n"

def castText (s : MaterialSync) (typed : Bool) : String :=
  if !typed then ""
  else if s.fields.any (·.startsWith "clearcoat") then " as THREE.MeshPhysicalMaterial"
  else " as THREE.MeshStandardMaterial"

def text (typed : Bool) (ordinal : Nat) (s : MaterialSync) : String :=
  let name := "material" ++ toString ordinal
  "    const " ++ name ++ " = " ++ Scope.nodes.reference [s.owner, "material"] ++
    s.castText typed ++ "\n" ++ String.join (s.fields.map (fieldText name s.path))

def hook (typed : Bool) (syncs : List MaterialSync) : String :=
  "function useMaterialSync(nodes" ++ (if typed then ": GLTFResult['nodes']" else "") ++
    ", ctx" ++ contextAnnotation typed ++ ") \x7b\n  useFrame(() => \x7b\n" ++
    String.join (syncs.zipIdx.map fun (s, i) => s.text typed i) ++ "  \x7d)\n\x7d\n"

end MaterialSync

def ControlSet.text (p : Number.Precision) (typed : Bool) (c : ControlSet) : String :=
  "function useSceneControls(ctx" ++ contextAnnotation typed ++ ") \x7b\n" ++
    String.join (c.groups.map (·.text p)) ++ "\n" ++
    String.join (c.contextSync.map ContextSync.text) ++
    "  return " ++ Text.braced (" " ++ ", ".intercalate (c.groups.map (·.binding)) ++ " ") ++
    "\n\x7d\n\n" ++ MaterialSync.hook typed c.materialSync

end SceneMarkup
