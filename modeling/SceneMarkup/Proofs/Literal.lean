import SceneMarkup.Proofs.Angles

/-!
The literal of a context. Its schema is a template, in which the keys and all that is between them
is fixed, and the leaves give the tokens for the gaps. What was saved is seen in a unit by these
tokens only.
-/

namespace SceneMarkup

inductive Piece
  | fixed (text : String)
  | gap
  deriving DecidableEq

abbrev Template := List Piece

namespace Template

def gaps (t : Template) : Nat := t.count .gap

def fill : Template → List String → String
  | [], _ => ""
  | .fixed text :: rest, tokens => text ++ fill rest tokens
  | .gap :: rest, [] => fill rest []
  | .gap :: rest, token :: tokens => token ++ fill rest tokens

@[simp] theorem gaps_nil : gaps [] = 0 := rfl

@[simp] theorem gaps_fixed (text : String) (t : Template) : gaps (.fixed text :: t) = gaps t :=
  List.count_cons_of_ne (by simp)

@[simp] theorem gaps_gap (t : Template) : gaps (.gap :: t) = gaps t + 1 := List.count_cons_self

@[simp] theorem gaps_append (t t' : Template) : gaps (t ++ t') = gaps t + gaps t' :=
  List.count_append

theorem fill_append {t t' : Template} {tokens tokens' : List String}
    (h : tokens.length = t.gaps) :
    (t ++ t').fill (tokens ++ tokens') = t.fill tokens ++ t'.fill tokens' := by
  induction t generalizing tokens with
  | nil =>
    rw [List.length_eq_zero_iff.mp h]
    simp [fill]
  | cons piece rest ih =>
    cases piece with
    | fixed text =>
      rw [gaps_fixed] at h
      rw [List.cons_append, fill, fill, ih h, String.append_assoc]
    | gap =>
      cases tokens with
      | nil => simp at h
      | cons token tokens =>
        rw [List.length_cons, gaps_gap, Nat.add_right_cancel_iff] at h
        rw [List.cons_append, List.cons_append, fill, fill, ih h, String.append_assoc]

end Template

def Leaf.tokens (p : Number.Precision) : Leaf → List String
  | number x => [(p.numeral x).text]
  | bool b => [boolText b]
  | text t => [Text.quote t]
  | vector v angular => v.toList.map fun x => (if angular then p.angle x else p.numeral x).text

def Kind.template : Kind → Template
  | vector _ => [.fixed "[", .gap, .fixed ", ", .gap, .fixed ", ", .gap, .fixed "]"]
  | _ => [.gap]

namespace Schema

mutual

def templateAt (depth : Nat) : Schema → Template
  | leaf k => k.template
  | group [] => [.fixed (Text.braced "")]
  | group (e :: rest) =>
    .fixed "\x7b\n" :: entriesTemplateAt (depth + 1) (e :: rest) ++
      [.fixed (Text.pad depth ++ "\x7d")]

def entriesTemplateAt (depth : Nat) : List (String × Schema) → Template
  | [] => []
  | (key, s) :: rest =>
    .fixed (Text.pad depth ++ Naming.objectKey key ++ ": ") :: templateAt depth s ++
      .fixed ",\n" :: entriesTemplateAt depth rest

end

def template (s : Schema) : Template := s.templateAt 0

theorem templateAt_group {entries : List (String × Schema)} (h : entries ≠ []) (depth : Nat) :
    (group entries).templateAt depth = .fixed "\x7b\n" ::
      (entriesTemplateAt (depth + 1) entries ++ [.fixed (Text.pad depth ++ "\x7d")]) := by
  cases entries with
  | nil => exact absurd rfl h
  | cons e rest => rw [templateAt, List.cons_append]

end Schema

namespace ContextValue

def tokens (p : Number.Precision) (v : ContextValue) : List String :=
  v.leaves.flatMap fun l => l.2.tokens p

variable (p : Number.Precision)

@[simp] theorem tokens_value (l : Leaf) : l.value.tokens p = l.tokens p := by simp [tokens]

@[simp] theorem tokens_group (entries : List (String × ContextValue)) :
    (group entries).tokens p = entries.flatMap fun e => e.2.tokens p := by
  rw [tokens, leaves_group, List.flatMap_assoc]
  exact List.flatMap_congr fun e _ => by rw [List.flatMap_map, tokens]

structure Fills (v : ContextValue) : Prop where
  length (depth : Nat) : (v.tokens p).length = (v.schema.templateAt depth).gaps
  literal (depth : Nat) : v.literalAt p depth = (v.schema.templateAt depth).fill (v.tokens p)

variable {p}

theorem fills_value (l : Leaf) : Fills p l.value := by
  constructor <;> intro depth <;> rw [tokens_value, schema_value, Schema.templateAt]
  · cases l <;> rfl
  · cases l with
    | vector v angular =>
      change vectorLiteral p v angular = _
      simp [vectorLiteral, vectorText, Vec3.toList, Kind.template, Leaf.kind, Leaf.tokens,
        Template.fill, String.append_assoc]
    | _ => simp [Leaf.value, literalAt, Leaf.kind, Leaf.tokens, Kind.template, Template.fill]

theorem fills_entries {entries : List (String × ContextValue)} (h : ∀ e ∈ entries, Fills p e.2)
    (depth : Nat) :
    (entries.flatMap fun e => e.2.tokens p).length =
      (Schema.entriesTemplateAt depth (entrySchemas entries)).gaps ∧
    entriesLiteralAt p depth entries =
      (Schema.entriesTemplateAt depth (entrySchemas entries)).fill
        (entries.flatMap fun e => e.2.tokens p) := by
  induction entries with
  | nil => exact ⟨rfl, rfl⟩
  | cons e rest ih =>
    obtain ⟨hlength, hliteral⟩ := ih fun e he => h e (List.mem_cons_of_mem _ he)
    have he := h e List.mem_cons_self
    rw [List.flatMap_cons, entrySchemas, Schema.entriesTemplateAt, entriesLiteralAt]
    constructor
    · simp [he.length depth, hlength]
    · rw [List.cons_append, Template.fill, Template.fill_append (he.length depth), Template.fill,
        ← he.literal, ← hliteral]
      simp only [String.append_assoc]

theorem fills (p : Number.Precision) (v : ContextValue) : Fills p v := by
  induction v with
  | leaf l => exact fills_value l
  | group entries ih =>
    by_cases hempty : entries = []
    · subst hempty
      exact ⟨fun _ => rfl, fun _ => rfl⟩
    have hschemas : entrySchemas entries ≠ [] := by simpa [entrySchemas_eq] using hempty
    constructor <;> intro depth <;> obtain ⟨hlength, hliteral⟩ := fills_entries ih (depth + 1)
    · rw [tokens_group, schema, Schema.templateAt_group hschemas, hlength]
      simp
    · have hlast : Template.fill (_ ++ [.fixed (Text.pad depth ++ "\x7d")]) (_ ++ []) = _ :=
        Template.fill_append hlength
      rw [List.append_nil, ← hliteral] at hlast
      rw [literalAt_group hempty, tokens_group, schema, Schema.templateAt_group hschemas,
        Template.fill, hlast, Text.braced, show "\x7b\n" = "\x7b" ++ "\n" from rfl]
      simp only [Template.fill, String.append_assoc, String.append_empty]

end ContextValue

namespace Plan

def preamble (p : Plan) : String :=
  p.imports.text ++ "\n" ++ (if p.options.types then p.types.text ++ "\n" else "") ++
    "const " ++ defaultContextName ++ " = "

def remainder (p : Plan) : String :=
  "\n\n" ++ p.model.text ++ "\n" ++ p.controls.text p.setting.precision p.options.types ++ "\n" ++
    p.host.text

theorem text_eq (p : Plan) :
    p.text = p.preamble ++ p.controls.defaults.literal p.setting.precision ++ p.remainder := by
  rw [text, blocks, preamble, remainder, contextBlock, show "\n\n" = "\n" ++ "\n" from rfl]
  split <;> simp only [List.nil_append, List.cons_append, String.intercalate_cons_cons,
    String.intercalate_singleton, String.append_assoc, String.empty_append]

variable (scene : Scene) (options : Options) (saved saved' : Option Json) (tree : SceneTree)

theorem eq_of_blind {α : Type} (f : Plan → α) (hf : ∀ (p : Plan) (v : ContextValue),
      f { p with controls := { p.controls with defaults := v } } = f p) :
    f (Plan.of scene options saved tree) = f (Plan.of scene options saved' tree) := by
  have hnone (saved : Option Json) :
      f (Plan.of scene options saved tree) = f (Plan.of scene options none tree) := by
    cases saved with
    | none => rfl
    | some j => exact hf (Plan.of scene options none tree) _
  rw [hnone saved, hnone saved']

theorem schema_defaults_eq : (Plan.of scene options saved tree).controls.defaults.schema =
    (Plan.of scene options saved' tree).controls.defaults.schema := by
  rw [schema_defaults_of, schema_defaults_of]

theorem types_eq :
    (Plan.of scene options saved tree).types = (Plan.of scene options saved' tree).types := by
  have hshape : Shape.of (Plan.of scene options saved tree).controls.defaults =
      Shape.of (Plan.of scene options saved' tree).controls.defaults := by
    rw [← ContextValue.shape_schema, ← ContextValue.shape_schema, schema_defaults_eq _ _ saved]
  exact congrArg (AssetTypes.mk _ _ _) hshape

theorem preamble_eq :
    (Plan.of scene options saved tree).preamble = (Plan.of scene options saved' tree).preamble := by
  rw [preamble, preamble, types_eq scene options saved saved' tree,
    eq_of_blind scene options saved saved' tree imports fun _ _ => rfl]
  rfl

structure Fills (p : Plan) (before : String) (template : Template) (after : String) : Prop where
  text : p.unit.text = before ++ p.unit.context.literal p.setting.precision ++ after
  literal : p.unit.context.literal p.setting.precision =
    template.fill (p.unit.context.tokens p.setting.precision)
  length : (p.unit.context.tokens p.setting.precision).length = template.gaps

theorem fills (p : Plan) : p.Fills p.preamble p.controls.defaults.schema.template p.remainder where
  text := p.text_eq
  literal := (p.controls.defaults.fills p.setting.precision).literal 0
  length := (p.controls.defaults.fills p.setting.precision).length 0

end Plan

/-- All blocks of two units but the literals of their contexts are the same, and so is the registry.
The contexts have one schema, so that their literals are one template, with other tokens in its gaps
at most. -/
structure Plan.AgreesButForTokens (p p' : Plan) (options : Options) : Prop where
  imports : p.imports = p'.imports
  types : p.types = p'.types
  model : p.model = p'.model
  controls : p.controls.text options.canonical options.types =
    p'.controls.text options.canonical options.types
  host : p.host = p'.host
  registry : p.unit.registry = p'.unit.registry
  schema : p.unit.context.schema = p'.unit.context.schema
  literal : ∃ before after, p.Fills before p.unit.context.schema.template after ∧
    p'.Fills before p.unit.context.schema.template after

/-- What was saved, if anything, changes the values in the default context and nothing else. -/
theorem units_agree_but_for_tokens {scene : Scene} {tree : SceneTree}
    (h : scene.validate = .ok tree) (options : Options) (saved saved' : Option Json) :
    ∃ p p', plan scene options saved = .ok p ∧ plan scene options saved' = .ok p' ∧
      p.AgreesButForTokens p' options := by
  have hsame {α : Type} (f : Plan → α) := Plan.eq_of_blind scene options saved saved' tree f
  have hschema := Plan.schema_defaults_eq scene options saved saved' tree
  refine ⟨_, _, plan_eq_ok.mpr ⟨tree, h, rfl⟩, plan_eq_ok.mpr ⟨tree, h, rfl⟩, ?_⟩
  constructor
  case imports => exact hsame Plan.imports fun _ _ => rfl
  case types => exact Plan.types_eq ..
  case model => exact hsame Plan.model fun _ _ => rfl
  case controls => exact hsame (·.controls.text options.canonical options.types) fun _ _ => rfl
  case host => exact hsame Plan.host fun _ _ => rfl
  case registry => exact hsame (·.unit.registry) fun _ _ => rfl
  case schema => exact hschema
  case literal =>
    have hfills' := (Plan.of scene options saved' tree).fills
    rw [← hschema, ← Plan.preamble_eq scene options saved, ← hsame Plan.remainder fun _ _ => rfl]
      at hfills'
    exact ⟨_, _, (Plan.of scene options saved tree).fills, hfills'⟩

def Json.enlarged : Json := .object [("model", .object [("scale", .natural 2)])]

theorem turned_units_agree : ∃ tree p p', Scene.turned.validate = .ok tree ∧
    plan Scene.turned {} none = .ok p ∧ plan Scene.turned {} (some .enlarged) = .ok p' ∧
    p.model = p'.model ∧ p.host = p'.host ∧ ∃ before after,
      p.Fills before p.unit.context.schema.template after ∧
        p'.Fills before p.unit.context.schema.template after := by
  obtain ⟨tree, h⟩ := Scene.turned_validate
  obtain ⟨p, p', hp, hp', hagree⟩ := units_agree_but_for_tokens h {} none (some .enlarged)
  exact ⟨tree, p, p', h, hp, hp', hagree.model, hagree.host, hagree.literal⟩

end SceneMarkup
