import SceneMarkup.Json.Printer
import SceneMarkup.Naming
import SceneMarkup.Number.Numeral
import SceneMarkup.Scene.Basic
import SceneMarkup.Text

/-! Context values: what the controls edit and what is kept from one visit to the next. -/

namespace SceneMarkup

inductive ContextValue
  | number (x : Float)
  | bool (b : Bool)
  | text (t : String)
  /-- An angular vector holds radians. -/
  | vector (v : Vec3) (angular : Bool)
  | group (entries : List (String × ContextValue))

namespace ContextValue

def values (v : Vec3) : ContextValue := .vector v false

def angles (v : Vec3) : ContextValue := .vector v true

def get? (v : ContextValue) (key : String) : Option ContextValue :=
  match v with
  | group entries => Json.member? key entries
  | _ => none

def path? (value : ContextValue) : List String → Option ContextValue
  | [] => some value
  | key :: rest => (value.get? key).bind fun v => v.path? rest

mutual

def round (p : Number.Precision) : ContextValue → ContextValue
  | number x => number (p.round x)
  | bool b => bool b
  | text t => text t
  | vector v angular => vector (v.map p.round) angular
  | group entries => group (roundEntries p entries)

def roundEntries (p : Number.Precision) :
    List (String × ContextValue) → List (String × ContextValue)
  | [] => []
  | (key, v) :: rest => (key, round p v) :: roundEntries p rest

end

def savedVector? : Json → Option Vec3
  | .array items => (items.mapM Json.number?).bind Vec3.ofList?
  | .number n => some (.splat n.toFloat)
  | _ => none

mutual

/-- Takes from a saved value what fits: a leaf of the same kind at the same keys. Everything else
keeps its default. -/
def overlay (saved : Json) : ContextValue → ContextValue
  | number x =>
    match saved with
    | .number n => number n.toFloat
    | _ => number x
  | bool b =>
    match saved with
    | .bool b' => bool b'
    | _ => bool b
  | text t =>
    match saved with
    | .string t' => text t'
    | _ => text t
  | vector v angular => vector ((savedVector? saved).getD v) angular
  | group entries =>
    match saved with
    | .object members => group (overlayEntries members entries)
    | _ => group entries

def overlayEntries (members : List (String × Json)) :
    List (String × ContextValue) → List (String × ContextValue)
  | [] => []
  | (key, v) :: rest =>
    match Json.member? key members with
    | some saved => (key, overlay saved v) :: overlayEntries members rest
    | none => (key, v) :: overlayEntries members rest

end

mutual

def toJson : ContextValue → Json
  | number x => .real x
  | bool b => .bool b
  | text t => .string t
  | vector v _ => .array (v.toList.map .real)
  | group entries => .object (entriesToJson entries)

def entriesToJson : List (String × ContextValue) → List (String × Json)
  | [] => []
  | (key, v) :: rest => (key, toJson v) :: entriesToJson rest

end

def blob (v : ContextValue) : String := v.toJson.pretty

end ContextValue

inductive Shape
  | number
  | boolean
  | string
  | tuple (length : Nat)
  | object (entries : List (String × Shape))

namespace Shape

mutual

def of : ContextValue → Shape
  | .number _ => number
  | .bool _ => boolean
  | .text _ => string
  | .vector _ _ => tuple 3
  | .group entries => object (ofEntries entries)

def ofEntries : List (String × ContextValue) → List (String × Shape)
  | [] => []
  | (key, v) :: rest => (key, of v) :: ofEntries rest

end

mutual

def textAt (depth : Nat) : Shape → String
  | number => "number"
  | boolean => "boolean"
  | string => "string"
  | tuple n => "[" ++ ", ".intercalate (List.replicate n "number") ++ "]"
  | object [] => Text.braced ""
  | object (e :: rest) =>
    Text.braced ("\n" ++ entriesTextAt (depth + 1) (e :: rest) ++ Text.pad depth)

def entriesTextAt (depth : Nat) : List (String × Shape) → String
  | [] => ""
  | (key, s) :: rest =>
    Text.pad depth ++ Naming.objectKey key ++ ": " ++ textAt depth s ++ "\n" ++
      entriesTextAt depth rest

end

def text (s : Shape) : String := s.textAt 0

end Shape

end SceneMarkup
