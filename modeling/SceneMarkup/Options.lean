import SceneMarkup.Json.Decode
import SceneMarkup.Json.Reader
import SceneMarkup.Number.Numeral

namespace SceneMarkup

structure Options where
  precision : Nat := 2
  instancing : Bool := false
  instanceAll : Bool := false
  keepNames : Bool := false
  keepGroups : Bool := false
  debug : Bool := false
  types : Bool := false
  shadows : Bool := false
  metadata : Bool := false
  assetUrl : String := "/model.glb"
  decoder : Option String := none
  componentName : String := "Model"
  storageKey : String := "scene-context"
  lightRotationControls : Bool := true
  progressInterval : Nat := 1
  deriving DecidableEq

namespace Options

def requestsInstancing (o : Options) : Bool := o.instancing || o.instanceAll

def canonical (o : Options) : Number.Precision := .clamped o.precision

open Document

def ofDocument? (d : Document) : Option Options := do
  let fields ← record? ["precision", "instance", "instanceAll", "keepNames", "keepGroups", "debug",
    "types", "shadows", "meta", "assetUrl", "decoder", "componentName", "storageKey",
    "lightRotationControls", "progressInterval"] d
  let standard : Options := {}
  return {
    precision := ← fields.defaulted "precision" standard.precision word32?
    instancing := ← fields.defaulted "instance" standard.instancing flag?
    instanceAll := ← fields.defaulted "instanceAll" standard.instanceAll flag?
    keepNames := ← fields.defaulted "keepNames" standard.keepNames flag?
    keepGroups := ← fields.defaulted "keepGroups" standard.keepGroups flag?
    debug := ← fields.defaulted "debug" standard.debug flag?
    types := ← fields.defaulted "types" standard.types flag?
    shadows := ← fields.defaulted "shadows" standard.shadows flag?
    metadata := ← fields.defaulted "meta" standard.metadata flag?
    assetUrl := ← fields.defaulted "assetUrl" standard.assetUrl text?
    decoder := ← fields.optional "decoder" text?
    componentName := ← fields.defaulted "componentName" standard.componentName text?
    storageKey := ← fields.defaulted "storageKey" standard.storageKey text?
    lightRotationControls :=
      ← fields.defaulted "lightRotationControls" standard.lightRotationControls flag?
    progressInterval := ← fields.defaulted "progressInterval" standard.progressInterval word64? }

def read? (text : String) : Option Options := (Document.read? text).bind ofDocument?

def toJson (o : Options) : Json := .object [
  ("precision", .natural o.precision),
  ("instance", .bool o.instancing),
  ("instanceAll", .bool o.instanceAll),
  ("keepNames", .bool o.keepNames),
  ("keepGroups", .bool o.keepGroups),
  ("debug", .bool o.debug),
  ("types", .bool o.types),
  ("shadows", .bool o.shadows),
  ("meta", .bool o.metadata),
  ("assetUrl", .string o.assetUrl),
  ("decoder", .ofOption .string o.decoder),
  ("componentName", .string o.componentName),
  ("storageKey", .string o.storageKey),
  ("lightRotationControls", .bool o.lightRotationControls),
  ("progressInterval", .natural o.progressInterval)]

end Options

end SceneMarkup
