import SceneMarkup.Proofs.Defaults

namespace SceneMarkup

namespace ContextValue

variable {p : Number.Precision}

theorem entriesLiteralAt_append (depth : Nat) (before after : List (String × ContextValue)) :
    entriesLiteralAt p depth (before ++ after) =
      entriesLiteralAt p depth before ++ entriesLiteralAt p depth after := by
  induction before with
  | nil => simp [entriesLiteralAt]
  | cons e rest ih => simp [entriesLiteralAt, ih, String.append_assoc]

def entryLiteral (p : Number.Precision) (depth : Nat) (key : String) (v : ContextValue) : String :=
  Text.pad depth ++ Naming.objectKey key ++ ": " ++ v.literalAt p depth ++ ",\n"

theorem literalAt_group {entries : List (String × ContextValue)} (h : entries ≠ []) (depth : Nat) :
    literalAt p depth (group entries) =
      Text.braced ("\n" ++ entriesLiteralAt p (depth + 1) entries ++ Text.pad depth) := by
  cases entries with
  | nil => exact absurd rfl h
  | cons e rest => rw [literalAt]

theorem literalAt_of_get? {v w : ContextValue} {key : String} (h : v.get? key = some w)
    (depth : Nat) : ∃ before after,
      v.literalAt p depth = before ++ entryLiteral p (depth + 1) key w ++ after := by
  cases v with
  | group entries =>
    obtain ⟨front, back, rfl⟩ := List.append_of_mem (Json.mem_of_member? h)
    refine ⟨"\x7b\n" ++ entriesLiteralAt p (depth + 1) front,
      entriesLiteralAt p (depth + 1) back ++ Text.pad depth ++ "\x7d", ?_⟩
    rw [literalAt_group (by simp), Text.braced, entriesLiteralAt_append, entriesLiteralAt,
      entryLiteral, show "\x7b\n" = "\x7b" ++ "\n" from rfl]
    simp only [String.append_assoc]
  | _ => cases h

theorem literalAt_of_path? {v w : ContextValue} {path : List String} {key : String}
    (h : v.path? (path ++ [key]) = some w) (depth : Nat) : ∃ before after,
      v.literalAt p depth =
        before ++ entryLiteral p (depth + path.length + 1) key w ++ after := by
  induction path generalizing v depth with
  | nil =>
    rw [List.nil_append, path?, Option.bind_eq_some_iff] at h
    obtain ⟨below, hget, hbelow⟩ := h
    cases hbelow
    exact literalAt_of_get? hget depth
  | cons k rest ih =>
    rw [List.cons_append, path?, Option.bind_eq_some_iff] at h
    obtain ⟨below, hget, hpath⟩ := h
    obtain ⟨before, after, hbelow⟩ := literalAt_of_get? (p := p) hget depth
    obtain ⟨before', after', hline⟩ := ih hpath (depth + 1)
    refine ⟨before ++ (Text.pad (depth + 1) ++ Naming.objectKey k ++ ": ") ++ before',
      after' ++ ",\n" ++ after, ?_⟩
    rw [hbelow, entryLiteral, hline, List.length_cons,
      show depth + (rest.length + 1) + 1 = depth + 1 + rest.length + 1 by omega]
    simp only [String.append_assoc]

/-- The literal of a context has a rotation under these keys, with such a text for each of its
angles. -/
def PrintsRotation (p : Number.Precision) (context : ContextValue) (path : List String)
    (items : List String) : Prop :=
  ∃ v, context.path? (path ++ ["rotation"]) = some (angles v) ∧
    items = v.toList.map (fun x => (p.angle x).text) ∧
    ∃ before after, context.literal p =
      before ++ (Text.pad (path.length + 1) ++ "rotation: " ++ vectorText items ++ ",\n") ++ after

theorem PrintsRotation.of_path? {context : ContextValue} {path : List String} {v : Vec3}
    (h : context.path? (path ++ ["rotation"]) = some (angles v)) :
    context.PrintsRotation p path (v.toList.map fun x => (p.angle x).text) := by
  obtain ⟨before, after, hline⟩ := literalAt_of_path? (p := p) h 0
  refine ⟨v, h, rfl, before, after, ?_⟩
  have hkey : Naming.objectKey "rotation" ++ ": " = "rotation: " := by decide +kernel
  have hvalue : (angles v).literalAt p (path.length + 1) =
      vectorText (v.toList.map fun x => (p.angle x).text) := rfl
  rw [literal, hline, entryLiteral, Nat.zero_add, hvalue, ← hkey]
  simp only [String.append_assoc]

theorem PrintsRotation.unique {context : ContextValue} {path items items' : List String}
    (h : context.PrintsRotation p path items) (h' : context.PrintsRotation p path items') :
    items = items' := by
  obtain ⟨v, hv, rfl, -⟩ := h
  obtain ⟨v', hv', rfl, -⟩ := h'
  cases hv.symm.trans hv'
  rfl

end ContextValue

namespace Setting

variable (s : Setting) (root : Node) (c : Composition)

theorem path?_modelRotation :
    (s.exactDefaults root c).path? ["model", "rotation"] = some (.angles root.rotation) := rfl

theorem path?_transformRotation (hkeys : (s.survey.transformKeys.map Prod.snd).Nodup)
    {placed : Placed} {key : String} (h : (placed, key) ∈ s.survey.transformKeys)
    (hkept : placed.id ∉ c.removed)
    (hrotation : (TransformDelta.of s.precision placed.node).rotation) :
    (s.exactDefaults root c).path? ["transforms", key, "rotation"] =
      some (.angles placed.node.rotation) := by
  have hentries : (s.transformDefaults c).get? key =
      some (.group (s.transformEntries placed.node)) :=
    (get?_transformDefaults s hkeys).mpr ⟨placed, h, hkept, rfl⟩
  have hfield : Json.member? "rotation" (s.transformEntries placed.node) =
      some (.angles placed.node.rotation) := by
    rw [transformEntries, hrotation]
    cases (TransformDelta.of s.precision placed.node).position <;> rfl
  change ((s.transformDefaults c).get? key).bind _ = _
  rw [hentries, Option.bind_some, ContextValue.path?, ContextValue.get?, hfield]
  rfl

end Setting

theorem Search.Finds.root_node {scene : Scene} {tree : SceneTree} (h : Search.Finds scene tree) :
    scene.nodes[scene.root]? = some tree.node := by
  have hmem : tree.placed ∈ tree.preorder := by cases tree; simp [SceneTree.placed]
  rw [← h.root]
  exact h.unfolds.node_of_mem hmem

namespace Plan

variable {scene : Scene} {options : Options} {tree : SceneTree}

def rotationItems (p : Number.Precision) (v : Vec3) : List String :=
  v.toList.map fun x => (p.angle (p.round x)).text

theorem printsRotation_of_path? {path : List String} {v : Vec3}
    (h : ((Setting.of scene options).exactDefaults tree.node (.of (.of scene options) tree)).path?
      (path ++ ["rotation"]) = some (.angles v)) :
    (Plan.of scene options none tree).controls.defaults.PrintsRotation options.canonical path
      (rotationItems options.canonical v) := by
  refine .of_path? (v := v.map options.canonical.round) ?_
  rw [Plan.defaults_of_none, ContextValue.path?_round, h]
  rfl

theorem printsRotation_model {root : Node} (options : Options) (h : Search.Finds scene tree)
    (hroot : scene.nodes[scene.root]? = some root) :
    (Plan.of scene options none tree).controls.defaults.PrintsRotation options.canonical ["model"]
      (rotationItems options.canonical root.rotation) := by
  have hnode : tree.node = root := Option.some.inj (h.root_node.symm.trans hroot)
  exact printsRotation_of_path? (hnode ▸ Setting.path?_modelRotation _ _ _)

end Plan

/-- The rotations of a good scene in its emitted defaults, if nothing is saved: for each angle stands
the text of the rounded angle. -/
theorem printsRotation_of_validate {scene : Scene} {tree : SceneTree}
    (h : scene.validate = .ok tree) (options : Options) :
    let p := options.canonical
    let plan := Plan.of scene options none tree
    (∀ root, scene.nodes[scene.root]? = some root →
      plan.controls.defaults.PrintsRotation p ["model"] (Plan.rotationItems p root.rotation)) ∧
    ∀ placed key, (placed, key) ∈ plan.survey.transformKeys →
      placed.id ∉ plan.composition.removed → (TransformDelta.of p placed.node).rotation →
      plan.controls.defaults.PrintsRotation p ["transforms", key]
        (Plan.rotationItems p placed.node.rotation) :=
  ⟨fun _ => Plan.printsRotation_model options (Scene.tree_finds (Scene.validate_eq_ok.mp h).1),
    fun _ _ hkey hkept hrotation => Plan.printsRotation_of_path?
      (Setting.path?_transformRotation _ _ _ Setting.nodup_map_snd_transformKeys hkey hkept
        hrotation)⟩

def Vec3.quarterTurn : Vec3 := ⟨1.5707963267948966, 0, 0⟩

def Scene.turned : Scene where
  nodes := #[{ type := "Scene", rotation := .quarterTurn }]

theorem Scene.turned_validate : ∃ tree, Scene.turned.validate = .ok tree :=
  exists_tree_of_isOk (by decide +kernel)

theorem rotationItems_quarterTurn :
    Plan.rotationItems (Options.canonical {}) .quarterTurn = ["1.57", "0", "0"] := by
  decide +kernel

theorem turned_printsRotation : ∃ tree, Scene.turned.validate = .ok tree ∧
    (Plan.of Scene.turned {} none tree).controls.defaults.PrintsRotation
      (Options.canonical {}) ["model"] ["1.57", "0", "0"] := by
  obtain ⟨tree, h⟩ := Scene.turned_validate
  have hroot : Scene.turned.nodes[Scene.turned.root]? =
      some { type := "Scene", rotation := .quarterTurn } := rfl
  have hprinted := (printsRotation_of_validate h {}).1 _ hroot
  exact ⟨tree, h, rotationItems_quarterTurn ▸ hprinted⟩

/-- The texts of the angles themselves are not what is written: a quarter turn is half of π. -/
theorem not_printsRotation_turned : ∃ tree, Scene.turned.validate = .ok tree ∧
    Vec3.quarterTurn.toList.map (fun x => ((Options.canonical {}).angle x).text) =
      ["Math.PI / 2", "0", "0"] ∧
    ¬ (Plan.of Scene.turned {} none tree).controls.defaults.PrintsRotation
      (Options.canonical {}) ["model"] ["Math.PI / 2", "0", "0"] := by
  obtain ⟨tree, h⟩ := Scene.turned_validate
  have hf := Scene.tree_finds (Scene.validate_eq_ok.mp h).1
  have hroot : Scene.turned.nodes[Scene.turned.root]? =
      some { type := "Scene", rotation := .quarterTurn } := rfl
  have hprinted := Plan.printsRotation_model {} hf hroot
  rw [rotationItems_quarterTurn] at hprinted
  exact ⟨tree, h, by decide +kernel, fun hclaimed =>
    absurd (hprinted.unique hclaimed) (by decide)⟩

end SceneMarkup
