import SceneMarkup.Context
import SceneMarkup.Json.Printer
import SceneMarkup.Naming
import SceneMarkup.Number.Numeral
import SceneMarkup.Text

namespace SceneMarkup

inductive Scope
  | nodes
  | materials
  | instances
  | context
  deriving DecidableEq

def Scope.text : Scope → String
  | .nodes => "nodes"
  | .materials => "materials"
  | .instances => "instances"
  | .context => "ctx"

def Scope.reference (scope : Scope) (path : List String) : String :=
  Naming.accessPath scope.text path

inductive Expression
  | verbatim (text : String)
  | reference (scope : Scope) (path : List String)
  | bool (value : Bool)
  | numeral (n : Number.Numeral)
  | vector (items : List Number.Numeral)
  | json (value : Json)

def boolText (b : Bool) : String := if b then "true" else "false"

def vectorText (items : List String) : String := "[" ++ ", ".intercalate items ++ "]"

def Expression.text : Expression → String
  | .verbatim t => t
  | .reference scope path => scope.reference path
  | .bool b => boolText b
  | .numeral n => n.text
  | .vector items => vectorText (items.map Number.Numeral.text)
  | .json j => j.compact

inductive AttributeValue
  | flag
  | text (t : String)
  | expression (e : Expression)

structure Attribute where
  name : String
  value : AttributeValue

namespace Attribute

def flag (name : String) : Attribute := ⟨name, .flag⟩

def text (name t : String) : Attribute := ⟨name, .text t⟩

def expression (name : String) (e : Expression) : Attribute := ⟨name, .expression e⟩

/-- Plain attribute strings have no escapes, so these characters need a quoted literal. -/
def needsLiteral (t : String) : Bool := t.toList.any fun c => c == '"' || c == '\n'

def render (a : Attribute) : String :=
  match a.value with
  | .flag => a.name
  | .text t =>
    if needsLiteral t then a.name ++ "=" ++ Text.braced (Text.quote t)
    else a.name ++ "=\"" ++ t ++ "\""
  | .expression e => a.name ++ "=" ++ Text.braced e.text

end Attribute

def openingText (tag : String) (attributes : List Attribute) : String :=
  "<" ++ tag ++ String.join (attributes.map fun a => " " ++ a.render)

def elementText (tag : String) (attributes : List Attribute) (content : String) : String :=
  let opening := openingText tag attributes
  if content.isEmpty then opening ++ " />\n"
  else opening ++ ">\n" ++ Text.indent 1 content ++ "</" ++ tag ++ ">\n"

def liveText (object : String) : String :=
  "<primitive object=" ++ Text.braced object ++ " />\n"

def vectorLiteral (p : Number.Precision) (v : Vec3) (angular : Bool) : String :=
  vectorText (v.toList.map fun x => (if angular then p.angle x else p.numeral x).text)

namespace ContextValue

mutual

def literalAt (p : Number.Precision) (depth : Nat) : ContextValue → String
  | number x => (p.numeral x).text
  | bool b => boolText b
  | text t => Text.quote t
  | vector v angular => vectorLiteral p v angular
  | group [] => Text.braced ""
  | group (e :: rest) =>
    Text.braced ("\n" ++ entriesLiteralAt p (depth + 1) (e :: rest) ++ Text.pad depth)

def entriesLiteralAt (p : Number.Precision) (depth : Nat) :
    List (String × ContextValue) → String
  | [] => ""
  | (key, v) :: rest =>
    Text.pad depth ++ Naming.objectKey key ++ ": " ++ literalAt p depth v ++ ",\n" ++
      entriesLiteralAt p depth rest

end

def literal (p : Number.Precision) (v : ContextValue) : String := v.literalAt p 0

end ContextValue

def defaultContextName : String := "defaultContext"

def contextBlock (p : Number.Precision) (context : ContextValue) : String :=
  "const " ++ defaultContextName ++ " = " ++ context.literal p ++ "\n"

end SceneMarkup
