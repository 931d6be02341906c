import SceneMarkup.Source.Controls
import SceneMarkup.Source.Expression
import SceneMarkup.Source.Script

namespace SceneMarkup

structure Host where
  component : String
  storageKey : String
  instancing : Bool
  typed : Bool
  groups : List ControlGroup

namespace Host

def storageName : String := "STORAGE_KEY"

def loadText (typed : Bool) : String :=
  "function loadContext()" ++ contextAnnotation typed ++ " \x7b\n" ++
    "  const ctx = structuredClone(" ++ defaultContextName ++ ")\n" ++
    "  try \x7b\n" ++
    "    applySaved(ctx, JSON.parse(window.localStorage.getItem(" ++ storageName ++
      ") ?? 'null'))\n" ++
    "  \x7d catch \x7b\n    // unreadable blob: keep defaults\n  \x7d\n  return ctx\n\x7d\n\n"

def saveText (typed : Bool) : String :=
  "function saveContext(ctx" ++ contextAnnotation typed ++ ") \x7b\n" ++
    "  window.localStorage.setItem(" ++ storageName ++ ", JSON.stringify(ctx))\n\x7d\n\n"

def rigTag? : RigKind → Option String
  | .pointLight => some "pointLight"
  | .spotLight => some "spotLight"
  | .cloud => some "Cloud"
  | .stars => some "Stars"
  | _ => none

def rigText (g : ControlGroup) : String :=
  match rigTag? g.kind with
  | some tag =>
    "<" ++ tag ++ " " ++ Text.braced ("..." ++ Scope.context.reference g.path) ++ " />\n"
  | none => ""

def modelText (h : Host) : String :=
  let model := "<" ++ h.component ++ " ctx=\x7bctx\x7d />\n"
  if h.instancing then "<Instances>\n" ++ Text.indent 1 model ++ "</Instances>\n" else model

def canvasText (h : Host) : String :=
  String.join (h.groups.map rigText) ++
    "<Suspense fallback=\x7bnull\x7d>\n" ++ Text.indent 1 h.modelText ++ "</Suspense>\n" ++
    "<OrbitControls makeDefault />\n"

def background? (h : Host) : Option String :=
  ((h.groups.filter (·.kind == .background)).getLast?).map fun g => Scope.context.reference g.path

def backgroundText (background : String) : String :=
  "  const background = " ++ background ++ ".gradient\n" ++
    "    ? `linear-gradient($" ++ Text.braced (background ++ ".top") ++ ", $" ++
      Text.braced (background ++ ".bottom") ++ ")`\n" ++
    "    : " ++ background ++ ".top\n"

def appText (h : Host) : String :=
  "export default function App() \x7b\n" ++
    "  const [ctx] = useState(loadContext)\n" ++
    "  useSceneControls(ctx)\n" ++
    "  useEffect(() => saveContext(ctx))\n" ++
    (h.background?.map backgroundText).getD "" ++
    "  return (\n" ++
    "    <Canvas" ++ (if h.background?.isSome then " style=\x7b\x7b background \x7d\x7d" else "") ++
      ">\n" ++
    Text.indent 3 h.canvasText ++
    "    </Canvas>\n  )\n\x7d\n"

def text (h : Host) : String :=
  "const " ++ storageName ++ " = " ++ Text.quote h.storageKey ++ "\n\n" ++
    Script.overlay.text (if h.typed then ": any" else "") ++ "\n" ++
    loadText h.typed ++ saveText h.typed ++ h.appText

end Host

end SceneMarkup
