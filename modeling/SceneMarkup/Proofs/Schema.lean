import SceneMarkup.Context
import SceneMarkup.Proofs.Leaves

namespace SceneMarkup

inductive Kind
  | number
  | bool
  | text
  | vector (angular : Bool)
  deriving DecidableEq

def Leaf.kind : Leaf → Kind
  | number _ => .number
  | bool _ => .bool
  | text _ => .text
  | vector _ angular => .vector angular

theorem Leaf.kind_round (p : Number.Precision) (l : Leaf) : (l.round p).kind = l.kind := by
  cases l <;> rfl

inductive Schema
  | leaf (kind : Kind)
  | group (entries : List (String × Schema))

namespace ContextValue

mutual

def schema : ContextValue → Schema
  | number _ => .leaf .number
  | bool _ => .leaf .bool
  | text _ => .leaf .text
  | vector _ angular => .leaf (.vector angular)
  | group entries => .group (entrySchemas entries)

def entrySchemas : List (String × ContextValue) → List (String × Schema)
  | [] => []
  | (key, v) :: rest => (key, v.schema) :: entrySchemas rest

end

theorem entrySchemas_eq (entries : List (String × ContextValue)) :
    entrySchemas entries = entries.map fun e => (e.1, e.2.schema) := by
  induction entries with
  | nil => rfl
  | cons e rest ih => simp [entrySchemas, ih]

@[simp] theorem schema_value (l : Leaf) : l.value.schema = .leaf l.kind := by cases l <;> rfl

@[simp] theorem schema_group (entries : List (String × ContextValue)) :
    (group entries).schema = .group (entries.map fun e => (e.1, e.2.schema)) := by
  rw [schema, entrySchemas_eq]

theorem schema_eq_leaf {v : ContextValue} {k : Kind} (h : v.schema = .leaf k) :
    ∃ l : Leaf, v = l.value ∧ l.kind = k := by
  cases v using induct with
  | leaf l => exact ⟨l, rfl, by simpa using h⟩
  | group entries _ => simp at h

theorem schema_eq_group {v : ContextValue} {es : List (String × Schema)}
    (h : v.schema = .group es) :
    ∃ entries, v = .group entries ∧ es = entries.map fun e => (e.1, e.2.schema) := by
  cases v using induct with
  | leaf l => simp at h
  | group entries _ => exact ⟨entries, rfl, by simpa using h.symm⟩

theorem schema_mapLeaves {f : List String → Leaf → Leaf} (h : ∀ path l, (f path l).kind = l.kind)
    (v : ContextValue) : (v.mapLeaves f).schema = v.schema := by
  induction v generalizing f with
  | leaf l => simp [h]
  | group entries ih =>
    rw [mapLeaves_group, schema_group, schema_group, List.map_map]
    congr 1
    refine List.map_congr_left fun e he => ?_
    simp [ih e he fun path => h (e.1 :: path)]

theorem schema_round (p : Number.Precision) (v : ContextValue) :
    (v.round p).schema = v.schema := by
  rw [round_eq_mapLeaves]
  exact schema_mapLeaves (fun _ => Leaf.kind_round p) v

end ContextValue

namespace Schema

def get? (s : Schema) (key : String) : Option Schema :=
  match s with
  | group entries => Json.member? key entries
  | leaf _ => none

def path? (s : Schema) : List String → Option Schema
  | [] => some s
  | key :: rest => (s.get? key).bind fun below => below.path? rest

mutual

def shape : Schema → Shape
  | leaf .number => .number
  | leaf .bool => .boolean
  | leaf .text => .string
  | leaf (.vector _) => .tuple 3
  | group entries => .object (entryShapes entries)

def entryShapes : List (String × Schema) → List (String × Shape)
  | [] => []
  | (key, s) :: rest => (key, s.shape) :: entryShapes rest

end

theorem path?_append (s : Schema) (path rest : List String) :
    s.path? (path ++ rest) = (s.path? path).bind (·.path? rest) := by
  induction path generalizing s with
  | nil => rfl
  | cons key path ih =>
    rw [List.cons_append, path?, path?]
    cases s.get? key with
    | none => rfl
    | some below => exact ih below

end Schema

namespace ContextValue

theorem get?_schema (v : ContextValue) (key : String) :
    v.schema.get? key = (v.get? key).map schema := by
  cases v using induct with
  | leaf l => cases l <;> rfl
  | group entries _ => rw [schema_group, Schema.get?, get?, Json.member?_map]

theorem path?_schema (v : ContextValue) (path : List String) :
    v.schema.path? path = (v.path? path).map schema := by
  induction path generalizing v with
  | nil => rfl
  | cons key rest ih =>
    rw [Schema.path?, path?, get?_schema]
    cases v.get? key with
    | none => rfl
    | some below => exact ih below

variable {v : ContextValue} {path : List String}

theorem exists_leaf_of_schema {k : Kind} (h : v.schema.path? path = some (.leaf k)) :
    ∃ l : Leaf, v.path? path = some l.value ∧ l.kind = k := by
  rw [path?_schema, Option.map_eq_some_iff] at h
  obtain ⟨below, hb, hs⟩ := h
  obtain ⟨l, rfl, hk⟩ := schema_eq_leaf hs
  exact ⟨l, hb, hk⟩

theorem exists_group_of_schema {es : List (String × Schema)}
    (h : v.schema.path? path = some (.group es)) :
    ∃ entries, v.path? path = some (.group entries) ∧ entries.map Prod.fst = es.map Prod.fst := by
  rw [path?_schema, Option.map_eq_some_iff] at h
  obtain ⟨below, hb, hs⟩ := h
  obtain ⟨entries, rfl, rfl⟩ := schema_eq_group hs
  exact ⟨entries, hb, by simp⟩

end ContextValue

theorem Shape.ofEntries_eq (entries : List (String × ContextValue)) :
    Shape.ofEntries entries = entries.map fun e => (e.1, Shape.of e.2) := by
  induction entries with
  | nil => rfl
  | cons e rest ih => simp [Shape.ofEntries, ih]

theorem Schema.entryShapes_eq (entries : List (String × Schema)) :
    Schema.entryShapes entries = entries.map fun e => (e.1, e.2.shape) := by
  induction entries with
  | nil => rfl
  | cons e rest ih => simp [Schema.entryShapes, ih]

theorem ContextValue.shape_schema (v : ContextValue) : v.schema.shape = Shape.of v := by
  induction v with
  | leaf l => cases l <;> rfl
  | group entries ih =>
    rw [schema_group, Schema.shape, Schema.entryShapes_eq, Shape.of, Shape.ofEntries_eq,
      List.map_map]
    congr 1
    exact List.map_congr_left fun e he => congrArg (e.1, ·) (ih e he)

end SceneMarkup
