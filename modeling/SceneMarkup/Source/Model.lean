import SceneMarkup.Source.Controls
import SceneMarkup.Source.Expression
import SceneMarkup.Text

namespace SceneMarkup

structure InstanceRow where
  name : String
  owner : String
  deriving DecidableEq

structure Model where
  component : String
  assetUrl : String
  decoder : Option String
  markup : String
  instances : List InstanceRow
  animated : Bool
  typed : Bool
  debugDump : Option String
  path : List String

namespace Model

def loader (m : Model) : String :=
  let decoder := match m.decoder with
    | some d => ", " ++ d
    | none => ""
  "useGLTF(" ++ Text.quote m.assetUrl ++ decoder ++ ")" ++ if m.typed then " as GLTFResult" else ""

def instanceRow (r : InstanceRow) : String :=
  "      " ++ Naming.objectKey r.name ++ ": " ++ Scope.nodes.reference [r.owner] ++ ",\n"

def instancesHead (typed : Bool) : String :=
  if typed then
    "type ContextType = Record<string, " ++
      "React.ForwardRefExoticComponent<JSX.IntrinsicElements['mesh']>>\n\n" ++
      "const context = React.createContext(\x7b\x7d as ContextType)\n\n" ++
      "export function Instances(\x7b children, ...props \x7d: " ++
      "JSX.IntrinsicElements['group']) \x7b\n"
  else
    "const context = React.createContext()\n\n" ++
      "export function Instances(\x7b children, ...props \x7d) \x7b\n"

def instancesText (m : Model) : String :=
  if m.instances.isEmpty then ""
  else
    instancesHead m.typed ++ "  const \x7b nodes \x7d = " ++ m.loader ++ "\n" ++
      "  const instances = React.useMemo(\n    () => (\x7b\n" ++
      String.join (m.instances.map instanceRow) ++ "    \x7d),\n    [nodes],\n  )\n" ++
      "  return (\n    <Merged meshes=\x7binstances\x7d \x7b...props\x7d>\n" ++
      "      " ++ Text.braced ((if m.typed then "(instances: ContextType)" else "(instances)") ++
        " => <context.Provider value=\x7binstances\x7d children=\x7bchildren\x7d />") ++ "\n" ++
      "    </Merged>\n  )\n\x7d\n\n"

def assetText (m : Model) : String :=
  if m.animated then
    "  const group = useRef" ++ (if m.typed then "<THREE.Group>" else "") ++ "(null)\n" ++
      "  const \x7b nodes, materials, animations \x7d = " ++ m.loader ++ "\n" ++
      "  const \x7b actions \x7d = useAnimations(animations, group)\n"
  else "  const \x7b nodes, materials \x7d = " ++ m.loader ++ "\n"

def attributes (m : Model) : List Attribute :=
  let bind field := Attribute.expression field (.reference .context (m.path ++ [field]))
  (if m.animated then [.expression "ref" (.verbatim "group")] else []) ++
    [.flag "\x7b...props\x7d", bind "position", bind "rotation", bind "scale",
      .expression "dispose" (.verbatim "null")]

def componentText (m : Model) : String :=
  "export function " ++ m.component ++ "(\x7b ctx, ...props \x7d" ++
    (if m.typed then ": JSX.IntrinsicElements['group'] & \x7b ctx: SceneContext \x7d" else "") ++
    ") \x7b\n" ++ m.assetText ++
    (if m.instances.isEmpty then "" else "  const instances = React.useContext(context)\n") ++
    "  useMaterialSync(nodes, ctx)\n  return (\n" ++
    Text.indent 2 (elementText "group" m.attributes m.markup) ++ "  )\n\x7d\n\n"

def text (m : Model) : String :=
  m.instancesText ++ (m.debugDump.map Text.comment).getD "" ++ m.componentText ++
    "useGLTF.preload(" ++ Text.quote m.assetUrl ++ ")\n"

end Model

end SceneMarkup
