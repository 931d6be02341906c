import SceneMarkup.Json.Value

namespace SceneMarkup.Document

def text? : Document → Option String
  | .string s => s
  | _ => none

def flag? : Document → Option Bool
  | .bool b => some b
  | _ => none

def real? : Document → Option Float
  | .number n => n.map JsonNumber.toFloat
  | _ => none

def natural? (bound : Nat) : Document → Option Nat
  | .number (some (.integer n)) => if 0 ≤ n ∧ n < bound then some n.toNat else none
  | _ => none

def word32? : Document → Option Nat := natural? 0x100000000

def word64? : Document → Option Nat := natural? 0x10000000000000000

def list? (read : Document → Option α) : Document → Option (List α)
  | .array items => items.mapM read
  | _ => none

def nullable? (read : Document → Option α) : Document → Option (Option α)
  | .null => some none
  | d => (read d).map some

def named? (read : Document → Option α) (m : Option String × Document) : Option (String × α) := do
  return (← m.1, ← read m.2)

def dictionary? (read : Document → Option α) : Document → Option (List (String × α))
  | .object members =>
    (members.mapM (named? read)).map Json.sortMembers
  | _ => none

abbrev Fields := List (String × Document)

def record? (names : List String) : Document → Option Fields
  | .object members => do
    let named ← members.mapM (named? some)
    let fields := named.filter fun m => names.contains m.1
    if (fields.map Prod.fst).Nodup then some fields else none
  | .array items => if items.length ≤ names.length then some (names.zip items) else none
  | _ => none

def Fields.required (fields : Fields) (name : String) (read : Document → Option α) : Option α :=
  (Json.member? name fields).bind read

def Fields.defaulted (fields : Fields) (name : String) (default : α)
    (read : Document → Option α) : Option α :=
  match Json.member? name fields with
  | some d => read d
  | none => some default

def Fields.optional (fields : Fields) (name : String) (read : Document → Option α) :
    Option (Option α) :=
  fields.defaulted name none (nullable? read)

end SceneMarkup.Document
