import SceneMarkup.Json.Decode
import SceneMarkup.Json.Reader
import SceneMarkup.Scene.Basic

namespace SceneMarkup

open Document

def Vec3.ofDocument? (d : Document) : Option Vec3 := do Vec3.ofList? (← list? real? d)

def Color.ofDocument? (d : Document) : Option Color := do
  match ← list? real? d with
  | [red, green, blue] => some ⟨red, green, blue⟩
  | _ => none

def CameraParams.ofDocument? (d : Document) : Option CameraParams := do
  let fields ← record? ["zoom", "far", "near", "fov"] d
  let standard : CameraParams := {}
  return {
    zoom := ← fields.defaulted "zoom" standard.zoom real?
    far := ← fields.defaulted "far" standard.far real?
    near := ← fields.defaulted "near" standard.near real?
    fov := ← fields.defaulted "fov" standard.fov real? }

def LightParams.ofDocument? (d : Document) : Option LightParams := do
  let fields ← record? ["intensity", "angle", "penumbra", "decay", "distance", "up"] d
  return {
    intensity := ← fields.optional "intensity" real?
    angle := ← fields.optional "angle" real?
    penumbra := ← fields.optional "penumbra" real?
    decay := ← fields.optional "decay" real?
    distance := ← fields.optional "distance" real?
    up := ← fields.optional "up" Vec3.ofDocument? }

def skeletonOfDocument? (d : Document) : Option (List NodeId) := do
  let fields ← record? ["bones"] d
  fields.defaulted "bones" [] (list? word64?)

def MorphTargets.ofDocument? (d : Document) : Option MorphTargets := do
  let fields ← record? ["dictionary", "influences"] d
  return {
    dictionary := ← fields.defaulted "dictionary" [] (dictionary? word64?)
    influences := ← fields.defaulted "influences" [] (list? real?) }

def userDataDepth : Nat := Json.maxDepth - 3

def Node.ofDocument? (d : Document) : Option Node := do
  let fields ← record? ["type", "name", "position", "rotation", "scale", "geometry", "material",
    "children", "visible", "castShadow", "receiveShadow", "color", "camera", "light", "skeleton",
    "morph", "userData"] d
  return {
    type := ← fields.required "type" text?
    name := ← fields.defaulted "name" "" text?
    position := ← fields.defaulted "position" .zero Vec3.ofDocument?
    rotation := ← fields.defaulted "rotation" .zero Vec3.ofDocument?
    scale := ← fields.defaulted "scale" .one Vec3.ofDocument?
    geometry := ← fields.optional "geometry" word64?
    material := ← fields.optional "material" word64?
    children := ← fields.defaulted "children" [] (list? word64?)
    visible := ← fields.defaulted "visible" true flag?
    castShadow := ← fields.defaulted "castShadow" false flag?
    receiveShadow := ← fields.defaulted "receiveShadow" false flag?
    color := ← fields.optional "color" Color.ofDocument?
    camera := ← fields.optional "camera" CameraParams.ofDocument?
    light := ← fields.optional "light" LightParams.ofDocument?
    skeleton := ← fields.optional "skeleton" skeletonOfDocument?
    morph := ← fields.optional "morph" MorphTargets.ofDocument?
    userData := ← fields.optional "userData" (toJson? userDataDepth) }

def Material.ofDocument? (d : Document) : Option Material := do
  let fields ← record? ["name", "type", "metalness", "roughness", "clearcoat",
    "clearcoatRoughness", "color"] d
  return {
    name := ← fields.defaulted "name" "" text?
    type := ← fields.defaulted "type" standardMaterialType text?
    metalness := ← fields.defaulted "metalness" 0 real?
    roughness := ← fields.defaulted "roughness" 1 real?
    clearcoat := ← fields.optional "clearcoat" real?
    clearcoatRoughness := ← fields.optional "clearcoatRoughness" real?
    color := ← fields.defaulted "color" .white Color.ofDocument? }

def Geometry.ofDocument? (d : Document) : Option Geometry := do
  let fields ← record? ["key", "owner", "vertexCount"] d
  return {
    key := ← fields.required "key" text?
    owner := ← fields.optional "owner" word64?
    vertexCount := ← fields.optional "vertexCount" word32? }

def AnimationClip.ofDocument? (d : Document) : Option AnimationClip := do
  let fields ← record? ["name", "targets"] d
  return {
    name := ← fields.required "name" text?
    targets := ← fields.optional "targets" (list? text?) }

def Scene.ofDocument? (d : Document) : Option Scene := do
  let fields ← record? ["root", "nodes", "materials", "geometries", "animations"] d
  return {
    root := ← fields.defaulted "root" 0 word64?
    nodes := (← fields.required "nodes" (list? Node.ofDocument?)).toArray
    materials := (← fields.defaulted "materials" [] (list? Material.ofDocument?)).toArray
    geometries := (← fields.defaulted "geometries" [] (list? Geometry.ofDocument?)).toArray
    animations := ← fields.defaulted "animations" [] (list? AnimationClip.ofDocument?) }

def Scene.read? (text : String) : Option Scene := (Document.read? text).bind Scene.ofDocument?

end SceneMarkup
