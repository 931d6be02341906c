namespace SceneMarkup

inductive JsonNumber
  | integer (n : Int)
  | real (x : Float)
  deriving DecidableEq

def JsonNumber.toFloat : JsonNumber → Float
  | .integer n => Float.ofInt n
  | .real x => x

inductive Json
  | null
  | bool (value : Bool)
  | number (value : JsonNumber)
  | string (value : String)
  | array (items : List Json)
  | object (members : List (String × Json))

namespace Json

def natural (n : Nat) : Json := .number (.integer n)

def real (x : Float) : Json := .number (.real x)

def ofOption (f : α → Json) : Option α → Json
  | some a => f a
  | none => .null

def member? (key : String) : List (String × α) → Option α
  | [] => none
  | (k, v) :: rest => if k = key then some v else member? key rest

def number? : Json → Option Float
  | .number n => some n.toFloat
  | _ => none

def insertSorted (key : String) (value : α) : List (String × α) → List (String × α)
  | [] => [(key, value)]
  | (k, v) :: rest =>
    if key < k then (key, value) :: (k, v) :: rest
    else if key = k then (key, value) :: rest
    else (k, v) :: insertSorted key value rest

def sortMembers (members : List (String × α)) : List (String × α) :=
  members.foldl (fun sorted m => insertSorted m.1 m.2 sorted) []

end Json

inductive Document
  | null
  | bool (value : Bool)
  | number (value : Option JsonNumber)
  | string (value : Option String)
  | array (items : List Document)
  | object (members : List (Option String × Document))

namespace Document

mutual

/--
The value of a document, if it has one and opens at most `depth` arrays and objects at once. Keys
are sorted, and of several members with one key the last is kept.
-/
def toJson? (depth : Nat) : Document → Option Json
  | .null => some .null
  | .bool b => some (.bool b)
  | .number n => n.map .number
  | .string s => s.map .string
  | .array items =>
    match depth with
    | 0 => none
    | depth + 1 => (toItems? depth items).map .array
  | .object members =>
    match depth with
    | 0 => none
    | depth + 1 => (toMembers? depth members).map (.object ∘ Json.sortMembers)

def toItems? (depth : Nat) : List Document → Option (List Json)
  | [] => some []
  | d :: rest => do return (← toJson? depth d) :: (← toItems? depth rest)

def toMembers? (depth : Nat) : List (Option String × Document) → Option (List (String × Json))
  | [] => some []
  | (k, d) :: rest => do return (← k, ← toJson? depth d) :: (← toMembers? depth rest)

end

end Document

end SceneMarkup
