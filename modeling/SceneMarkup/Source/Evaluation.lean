import SceneMarkup.Json.Value
import SceneMarkup.Source.Script

/-!
What scripts do. Objects stand on a heap and are known by their addresses. There is no result where
a value is used for what it is not, where something is written to that is not there, or where a run
never ends.
-/

namespace SceneMarkup.Script

abbrev Address := Nat

inductive Value
  | undefined
  | null
  | bool (b : Bool)
  | number (x : Float)
  | count (n : Nat)
  | string (s : String)
  | reference (address : Address)

/-- An object: a record with its fields in the order in which its keys are given, or an array. -/
inductive Cell
  | record (fields : List (String × Value))
  | array (items : List Value)

abbrev Heap := List Cell

abbrev Locals := List (String × Value)

abbrev Action := StateT Heap Option

namespace Value

def toFloat? : Value → Option Float
  | number x => some x
  | count n => some (Float.ofNat n)
  | _ => none

def isTruthy : Value → Bool
  | undefined | null => false
  | bool b => b
  | number x => !(x == 0 || x.isNaN)
  | count n => n != 0
  | string s => !s.isEmpty
  | reference _ => true

def kind : Value → String
  | undefined => "undefined"
  | null | reference _ => "object"
  | bool _ => "boolean"
  | number _ | count _ => "number"
  | string _ => "string"

def isSame : Value → Value → Bool
  | undefined, undefined | null, null => true
  | bool b, bool b' => b == b'
  | count m, count n => m == n
  | number x, number y => x == y
  | number x, count n | count n, number x => x == Float.ofNat n
  | string s, string t => s == t
  | reference a, reference b => a == b
  | _, _ => false

end Value

def index? (key : String) : Option Nat :=
  match key.toList with
  | ['0'] => some 0
  | '0' :: _ => none
  | [] => none
  | cs => if cs.all Char.isDigit then key.toNat? else none

namespace Cell

def isArray : Cell → Bool
  | record _ => false
  | array _ => true

def keys : Cell → List String
  | record fields => fields.map Prod.fst
  | array items => (List.range items.length).map toString

def property? : Cell → String → Option Value
  | record fields, key => Json.member? key fields
  | array items, key =>
    if key = "length" then some (.count items.length)
    else (index? key).bind (items[·]?)

def put? : Cell → String → Value → Option Cell
  | record fields, key, value =>
    if key ∈ fields.map Prod.fst then
      some (record (fields.map fun f => if f.1 = key then (key, value) else f))
    else none
  | array _, _, _ => none

end Cell

namespace Action

def cell (a : Address) : Action Cell := fun heap => heap[a]?.map (·, heap)

def allocate (c : Cell) : Action Value := fun heap => some (.reference heap.length, heap ++ [c])

def store (a : Address) (c : Cell) : Action Unit := fun heap => some ((), heap.set a c)

def property : Value → Value → Action Value
  | .reference a, .string key => return ((← cell a).property? key).getD .undefined
  | _, _ => failure

def isKeyOf : Value → Value → Action Value
  | .string key, .reference a => return .bool ((← cell a).property? key).isSome
  | _, _ => failure

def put : Value → Value → Value → Action Unit
  | .reference a, .string key, value => do
    let c ← (← cell a).put? key value
    store a c
  | _, _, _ => failure

def isArray : Value → Action Bool
  | .reference a => return (← cell a).isArray
  | _ => return false

def keys : Value → Action Value
  | .reference a => do
    let c ← cell a
    allocate (.array (c.keys.map .string))
  | _ => failure

def items : Value → Action (List Value)
  | .reference a => do
    match ← cell a with
    | .array vs => return vs
    | .record _ => failure
  | _ => failure

def all (condition : Value → Action Value) : List Value → Action Bool
  | [] => return true
  | v :: rest => do
    if (← condition v).isTruthy then all condition rest else return false

end Action

namespace Term

def eval (locals : Locals) : Term → Action Value
  | name x => Json.member? x locals
  | null => return .null
  | string s => return .string s
  | not t => return .bool !(← t.eval locals).isTruthy
  | kind t => return .string (← t.eval locals).kind
  | binary .and left right => do
    let v ← left.eval locals
    if v.isTruthy then right.eval locals else return v
  | binary .or left right => do
    let v ← left.eval locals
    if v.isTruthy then return v else right.eval locals
  | binary .same left right => return .bool ((← left.eval locals).isSame (← right.eval locals))
  | binary .differs left right =>
    return .bool !((← left.eval locals).isSame (← right.eval locals))
  | binary .isKeyOf left right => do
    let key ← left.eval locals
    Action.isKeyOf key (← right.eval locals)
  | item object key => do
    let o ← object.eval locals
    Action.property o (← key.eval locals)
  | length t => do Action.property (← t.eval locals) (.string "length")
  | isArray t => return .bool (← Action.isArray (← t.eval locals))
  | keys t => do Action.keys (← t.eval locals)
  | every items x condition => do
    let vs ← Action.items (← items.eval locals)
    return .bool (← Action.all (fun v => condition.eval ((x, v) :: locals)) vs)
  | fill items value => do
    let vs ← Action.items (← items.eval locals)
    let copies ← vs.mapM fun _ => value.eval locals
    Action.allocate (.array copies)

end Term

inductive Outcome
  | next (locals : Locals)
  | skip
  | leave

inductive Task
  | statement (s : Statement)
  | body (statements : List Statement)
  | branches (branches : List (Term × List Statement))
  | loop (x : String) (body : List Statement) (values : List Value)
  | call (function : String) (arguments : List Value)

def Task.run (program : List Function) (locals : Locals) : Task → Action Outcome
  | .statement (.returnIf c) => do
    if (← c.eval locals).isTruthy then return .leave else return .next locals
  | .statement (.continueIf c) => do
    if (← c.eval locals).isTruthy then return .skip else return .next locals
  | .statement (.bind x value) => do
    let v ← value.eval locals
    return .next ((x, v) :: locals)
  | .statement (.put object key value) => do
    let o ← object.eval locals
    let k ← key.eval locals
    Action.put o k (← value.eval locals)
    return .next locals
  | .statement (.call function arguments) => do
    let values ← arguments.mapM fun t => t.eval locals
    Task.call function values |>.run program locals
  | .statement (.each x items statements) => do
    let v ← items.eval locals
    Task.loop x statements (← Action.items v) |>.run program locals
  | .statement (.cases cs) => Task.branches cs |>.run program locals
  | .body [] => return .next locals
  | .body (s :: rest) => do
    match ← Task.statement s |>.run program locals with
    | .next locals => Task.body rest |>.run program locals
    | .skip => return .skip
    | .leave => return .leave
  | .branches [] => return .next locals
  | .branches ((condition, statements) :: rest) => do
    if (← condition.eval locals).isTruthy then
      match ← Task.body statements |>.run program locals with
      | .next _ => return .next locals
      | .skip => return .skip
      | .leave => return .leave
    else Task.branches rest |>.run program locals
  | .loop _ _ [] => return .next locals
  | .loop x statements (v :: rest) => do
    match ← Task.body statements |>.run program ((x, v) :: locals) with
    | .leave => return .leave
    | _ => Task.loop x statements rest |>.run program locals
  | .call function arguments => do
    let f ← program.find? (·.name == function)
    let _ ← Task.body f.body |>.run program (f.parameters.zip arguments)
    return .next locals
partial_fixpoint

def call (program : List Function) (function : String) (arguments : List Value) :
    Action Unit := do
  let _ ← (Task.call function arguments).run program []

end SceneMarkup.Script
