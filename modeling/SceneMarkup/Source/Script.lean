import SceneMarkup.Text

namespace SceneMarkup.Script

inductive Operator
  | and
  | or
  | same
  | differs
  | isKeyOf
  deriving DecidableEq

def Operator.text : Operator → String
  | .and => "&&"
  | .or => "||"
  | .same => "==="
  | .differs => "!=="
  | .isKeyOf => "in"

inductive Term
  | name (x : String)
  | null
  | string (s : String)
  | not (t : Term)
  | kind (t : Term)
  | binary (op : Operator) (left right : Term)
  | item (object key : Term)
  | length (t : Term)
  | isArray (t : Term)
  | keys (t : Term)
  | every (items : Term) (x : String) (condition : Term)
  | fill (items value : Term)

namespace Term

def isBinary : Term → Bool
  | binary _ _ _ => true
  | _ => false

def text : Term → String
  | name x => x
  | null => "null"
  | string s => Text.quote s
  | not t => if t.isBinary then "!(" ++ t.text ++ ")" else "!" ++ t.text
  | kind t => "typeof " ++ t.text
  | binary op left right => left.text ++ " " ++ op.text ++ " " ++ right.text
  | item object key => object.text ++ "[" ++ key.text ++ "]"
  | length t => t.text ++ ".length"
  | isArray t => "Array.isArray(" ++ t.text ++ ")"
  | keys t => "Object.keys(" ++ t.text ++ ")"
  | every items x condition => items.text ++ ".every((" ++ x ++ ") => " ++ condition.text ++ ")"
  | fill items value => items.text ++ ".map(() => " ++ value.text ++ ")"

end Term

inductive Statement
  | returnIf (condition : Term)
  | continueIf (condition : Term)
  | bind (x : String) (value : Term)
  | put (object key value : Term)
  | call (function : String) (arguments : List Term)
  | each (x : String) (items : Term) (body : List Statement)
  | cases (branches : List (Term × List Statement))

mutual

def Statement.text (depth : Nat) : Statement → String
  | .returnIf c => Text.pad depth ++ "if (" ++ c.text ++ ") return\n"
  | .continueIf c => Text.pad depth ++ "if (" ++ c.text ++ ") continue\n"
  | .bind x value => Text.pad depth ++ "const " ++ x ++ " = " ++ value.text ++ "\n"
  | .put object key value =>
    Text.pad depth ++ (Term.item object key).text ++ " = " ++ value.text ++ "\n"
  | .call function arguments =>
    Text.pad depth ++ function ++ "(" ++ ", ".intercalate (arguments.map Term.text) ++ ")\n"
  | .each x items body =>
    Text.pad depth ++ "for (const " ++ x ++ " of " ++ items.text ++ ") \x7b\n" ++
      bodyText (depth + 1) body ++ Text.pad depth ++ "\x7d\n"
  | .cases branches => Text.pad depth ++ branchesText depth branches

def bodyText (depth : Nat) : List Statement → String
  | [] => ""
  | s :: rest => s.text depth ++ bodyText depth rest

def branchesText (depth : Nat) : List (Term × List Statement) → String
  | [] => ""
  | [(condition, body)] =>
    "if (" ++ condition.text ++ ") \x7b\n" ++ bodyText (depth + 1) body ++
      Text.pad depth ++ "\x7d\n"
  | (condition, body) :: rest =>
    "if (" ++ condition.text ++ ") \x7b\n" ++ bodyText (depth + 1) body ++
      Text.pad depth ++ "\x7d else " ++ branchesText depth rest

end

structure Function where
  name : String
  parameters : List String
  body : List Statement

def Function.text (typing : String) (f : Function) : String :=
  "function " ++ f.name ++ "(" ++ ", ".intercalate (f.parameters.map (· ++ typing)) ++
    ") \x7b\n" ++ bodyText 1 f.body ++ "\x7d\n"

def isKind (t : Term) (kind : String) : Term := .binary .same (.kind t) (.string kind)

def isFittingArray : Term :=
  .binary .and
    (.binary .and (.isArray (.name "value"))
      (.binary .same (.length (.name "value")) (.length (.name "current"))))
    (.every (.name "value") "v" (isKind (.name "v") "number"))

def putValue (value : Term) : Statement := .put (.name "target") (.name "key") value

def overlayVector : List Statement := [
  .cases [
    (isFittingArray, [putValue (.name "value")]),
    (isKind (.name "value") "number", [putValue (.fill (.name "current") (.name "value"))])]]

def isGroup : Term :=
  .binary .and (.binary .differs (.name "current") .null) (isKind (.name "current") "object")

def overlayKey : List Statement := [
  .continueIf (.not (.binary .isKeyOf (.name "key") (.name "saved"))),
  .bind "current" (.item (.name "target") (.name "key")),
  .bind "value" (.item (.name "saved") (.name "key")),
  .cases [
    (.isArray (.name "current"), overlayVector),
    (isGroup, [.call "applySaved" [.name "current", .name "value"]]),
    (.binary .same (.kind (.name "value")) (.kind (.name "current")),
      [putValue (.name "value")])]]

def overlay : Function where
  name := "applySaved"
  parameters := ["target", "saved"]
  body := [
    .returnIf (.binary .or (.not (.name "saved"))
      (.binary .differs (.kind (.name "saved")) (.string "object"))),
    .each "key" (.keys (.name "target")) overlayKey]

end SceneMarkup.Script
