import SceneMarkup.Proofs.Elision
import SceneMarkup.Proofs.Lookup
import SceneMarkup.Proofs.Naming

/-!
Bound transforms. A line of the markup of a good scene binds an element to a field of a transform of
the context just where the default context has that field, and no field is bound twice.
-/

namespace SceneMarkup

open SceneTree

section Keys

variable {precision : Number.Precision} {root : NodeId} {visits : List Visit}

theorem map_fst_boundKeys : (boundKeys precision root visits).map Prod.fst =
    (visits.filter (·.isBound precision root)).map (·.placed) := by
  rw [boundKeys, List.map_fst_zip]
  simp [Naming.length_uniqueAll]

theorem nodup_map_snd_boundKeys : ((boundKeys precision root visits).map Prod.snd).Nodup := by
  rw [boundKeys, List.map_snd_zip]
  · exact Naming.nodup_uniqueAll _ _
  · simp [Naming.length_uniqueAll]

end Keys

namespace Setting

variable {scene : Scene} {tree : SceneTree} {options : Options}

theorem map_fst_transformKeys : (of scene options).survey.transformKeys.map Prod.fst =
    (scene.visits.filter (·.isBound options.canonical scene.root)).map (·.placed) :=
  map_fst_boundKeys

theorem map_fst_transformKeys_sublist (h : Search.Finds scene tree) :
    ((of scene options).survey.transformKeys.map Prod.fst).Sublist tree.exposed := by
  rw [map_fst_transformKeys, ← h.map_placed_filter_visits]
  refine (List.monotone_filter_right _ fun v hv => ?_).map _
  simp only [Visit.isBound, Bool.and_eq_true] at hv
  exact hv.1.2

theorem nodup_map_snd_transformKeys :
    ((of scene options).survey.transformKeys.map Prod.snd).Nodup :=
  nodup_map_snd_boundKeys

theorem exists_isBound_of_mem_transformKeys {p : Placed} {key : String}
    (h : (p, key) ∈ (of scene options).survey.transformKeys) :
    ∃ v ∈ scene.visits, v.isBound options.canonical scene.root ∧ v.placed = p := by
  have hp : p ∈ (of scene options).survey.transformKeys.map Prod.fst := List.mem_map_of_mem h
  simpa only [map_fst_transformKeys, List.mem_map, List.mem_filter, and_assoc] using hp

theorem ne_root_of_mem_transformKeys {p : Placed} {key : String}
    (h : (p, key) ∈ (of scene options).survey.transformKeys) : p.id ≠ scene.root := by
  obtain ⟨v, -, hb, rfl⟩ := exists_isBound_of_mem_transformKeys h
  simp only [Visit.isBound, Bool.and_eq_true, bne_iff_ne] at hb
  exact hb.1.1

theorem delta_any_of_mem_transformKeys {p : Placed} {key : String}
    (h : (p, key) ∈ (of scene options).survey.transformKeys) :
    (TransformDelta.of options.canonical p.node).any := by
  obtain ⟨v, -, hb, rfl⟩ := exists_isBound_of_mem_transformKeys h
  simp only [Visit.isBound, Bool.and_eq_true] at hb
  exact hb.2

theorem exposed_of_mem_transformKeys (h : Search.Finds scene tree) {p : Placed} {key : String}
    (hp : (p, key) ∈ (of scene options).survey.transformKeys) : p ∈ tree.exposed :=
  (map_fst_transformKeys_sublist h).subset (List.mem_map_of_mem hp)

theorem nodup_map_id_transformKeys (h : Search.Finds scene tree) :
    ((of scene options).survey.transformKeys.map (·.1.id)).Nodup := by
  have hsub : (((of scene options).survey.transformKeys.map Prod.fst).map (·.id)).Sublist tree.ids :=
    ((map_fst_transformKeys_sublist h).trans tree.exposed_sublist).map _
  rw [List.map_map] at hsub
  exact hsub.nodup h.nodup

theorem transformKeys_eq (h : Search.Finds scene tree) (options : Options) :
    (Survey.of scene options).transformKeys =
      boundKeys options.canonical scene.root (tree.visits none false) :=
  congrArg (boundKeys options.canonical scene.root) h.visits_eq

theorem transformKey?_iff (h : Search.Finds scene tree) {id : NodeId} {key : String} :
    (of scene options).survey.transformKey? id = some key ↔
      ∃ e ∈ (of scene options).survey.transformKeys, e.1.id = id ∧ e.2 = key := by
  rw [Survey.transformKey?, Option.map_eq_some_iff]
  simp only [find?_eq_some_iff_mem (nodup_map_id_transformKeys h), and_assoc]

theorem transformKey?_eq_some (h : Search.Finds scene tree) {p : Placed} (hp : p ∈ tree.preorder)
    {key : String} : (of scene options).survey.transformKey? p.id = some key ↔
      (p, key) ∈ (of scene options).survey.transformKeys := by
  rw [transformKey?_iff h]
  constructor
  · rintro ⟨⟨q, key⟩, he, hid, rfl⟩
    have hq := tree.exposed_sublist.subset (exposed_of_mem_transformKeys h he)
    rw [← h.eq_of_id_eq hq hp hid]
    exact he
  · exact fun hm => ⟨(p, key), hm, rfl, rfl⟩

variable (s : Setting)

theorem mem_boundFields {p : Placed} {key field : String} :
    (key, field) ∈ s.boundFields p ↔ s.survey.transformKey? p.id = some key ∧
      field ∈ (s.transformEntries p.node).map Prod.fst := by
  rw [boundFields]
  cases s.survey.transformKey? p.id with
  | none => simp
  | some k => simp [eq_comm, and_comm]

theorem transformEntries_ne_nil {node : Node} (h : (TransformDelta.of s.precision node).any) :
    s.transformEntries node ≠ [] := by
  intro hnil
  simp only [transformEntries, List.append_eq_nil_iff, ite_eq_right_iff, List.cons_ne_nil,
    imp_false, Bool.not_eq_true] at hnil
  simp [TransformDelta.any, hnil] at h

theorem path?_transforms (root : Node) (c : Composition) (path : List String) :
    ((s.controls root c).defaults.path? ("transforms" :: path)).isSome ↔
      ((s.transformDefaults c).path? path).isSome := by
  rw [controls, ContextValue.path?_round, Option.isSome_map]
  simp [exactDefaults, ContextValue.path?, ContextValue.get?, Json.member?]

theorem nodup_keys_transformDefaults (hkeys : (s.survey.transformKeys.map Prod.snd).Nodup)
    (c : Composition) : ((s.transformDefaults c).entries.map Prod.fst).Nodup := by
  rw [transformDefaults, ContextValue.entries, List.map_map]
  exact (List.filter_sublist.map _).nodup hkeys

theorem get?_transformDefaults (hkeys : (s.survey.transformKeys.map Prod.snd).Nodup)
    {c : Composition} {key : String} {v : ContextValue} :
    (s.transformDefaults c).get? key = some v ↔ ∃ p, (p, key) ∈ s.survey.transformKeys ∧
      p.id ∉ c.removed ∧ v = .group (s.transformEntries p.node) := by
  rw [ContextValue.get?_eq_some_iff (s.nodup_keys_transformDefaults hkeys c), transformDefaults,
    ContextValue.entries]
  simp only [List.mem_map, List.mem_filter, Prod.exists, Prod.mk.injEq, Composition.isRemoved]
  constructor
  · rintro ⟨p, k, ⟨hp, hr⟩, rfl, rfl⟩
    exact ⟨p, hp, by simpa using hr, rfl⟩
  · rintro ⟨p, hp, hr, rfl⟩
    exact ⟨p, key, ⟨hp, by simpa using hr⟩, rfl, rfl⟩

theorem isSome_path?_transformDefaults (hkeys : (s.survey.transformKeys.map Prod.snd).Nodup)
    {c : Composition} {key field : String} :
    ((s.transformDefaults c).path? [key, field]).isSome ↔
      ∃ p, (p, key) ∈ s.survey.transformKeys ∧ p.id ∉ c.removed ∧
        field ∈ (s.transformEntries p.node).map Prod.fst := by
  have hfield : ∀ p : Placed, ((ContextValue.group (s.transformEntries p.node)).path? [field]).isSome
      ↔ field ∈ (s.transformEntries p.node).map Prod.fst := fun p => by
    rw [ContextValue.path?, ContextValue.get?, ← Json.isSome_member?]
    cases Json.member? field (s.transformEntries p.node) <;> rfl
  rw [ContextValue.path?]
  simp only [Option.isSome_bind, Option.any_eq_true, get?_transformDefaults s hkeys]
  constructor
  · rintro ⟨v, ⟨p, hp, hr, rfl⟩, hv⟩
    exact ⟨p, hp, hr, (hfield p).mp hv⟩
  · rintro ⟨p, hp, hr, hf⟩
    exact ⟨_, ⟨p, hp, hr, rfl⟩, (hfield p).mpr hf⟩

end Setting

namespace Composition

def bindings (c : Composition) : List (String × String) :=
  c.written.flatMap (·.attributes.filterMap Attribute.binding?)

variable {scene : Scene} {tree : SceneTree} {options : Options}

theorem bindings_of (s : Setting) (tree : SceneTree) : (of s tree).bindings =
    ((tree.outermost.flatMap exposed).filter (!s.elides ·)).flatMap s.boundFields := by
  rw [bindings, written_of, List.flatMap_map]
  exact List.flatMap_congr fun p _ => s.filterMap_binding?_attributes p

theorem mem_removed_iff_elides (h : Search.Finds scene tree) {s : Setting} {p : Placed}
    (hp : p ∈ tree.outermost.flatMap exposed) : p.id ∈ (of s tree).removed ↔ s.elides p := by
  have hsub : ∀ q ∈ tree.outermost.flatMap exposed, q ∈ tree.preorder := fun q hq =>
    tree.exposed_sublist.subset (tree.outermost_sublist.subset hq)
  rw [mem_removed]
  constructor
  · rintro ⟨q, hq, he, hid⟩
    rwa [h.eq_of_id_eq (hsub q hq) (hsub p hp) hid] at he
  · intro he
    exact ⟨p, hp, he, rfl⟩

theorem outermost_of_mem_transformKeys (h : Search.Finds scene tree) {p : Placed} {key : String}
    (hp : (p, key) ∈ (Setting.of scene options).survey.transformKeys) :
    p ∈ tree.outermost.flatMap exposed :=
  (mem_outermost (h.root ▸ Setting.ne_root_of_mem_transformKeys hp)).mpr
    (Setting.exposed_of_mem_transformKeys h hp)

theorem mem_bindings (h : Search.Finds scene tree) {key field : String} :
    (key, field) ∈ (of (.of scene options) tree).bindings ↔
      ∃ p, (p, key) ∈ (Setting.of scene options).survey.transformKeys ∧
        p.id ∉ (of (.of scene options) tree).removed ∧
        field ∈ ((Setting.of scene options).transformEntries p.node).map Prod.fst := by
  have hsub : ∀ p ∈ tree.outermost.flatMap exposed, p ∈ tree.preorder := fun p hp =>
    tree.exposed_sublist.subset (tree.outermost_sublist.subset hp)
  rw [bindings_of, List.mem_flatMap]
  constructor
  · rintro ⟨p, hp, hb⟩
    obtain ⟨hp, he⟩ := List.mem_filter.mp hp
    obtain ⟨hkey, hfield⟩ := (Setting.mem_boundFields _).mp hb
    refine ⟨p, (Setting.transformKey?_eq_some h (hsub p hp)).mp hkey, ?_, hfield⟩
    simpa [mem_removed_iff_elides h hp] using he
  · rintro ⟨p, hkey, hr, hfield⟩
    have hp := outermost_of_mem_transformKeys h hkey
    rw [mem_removed_iff_elides h hp] at hr
    refine ⟨p, List.mem_filter.mpr ⟨hp, by simpa using hr⟩, (Setting.mem_boundFields _).mpr
      ⟨(Setting.transformKey?_eq_some h (hsub p hp)).mpr hkey, hfield⟩⟩

theorem nodup_bindings (h : Search.Finds scene tree) :
    (of (.of scene options) tree).bindings.Nodup := by
  have hsub : ((tree.outermost.flatMap exposed).filter
      (!(Setting.of scene options).elides ·)).Sublist tree.exposed :=
    List.filter_sublist.trans tree.outermost_sublist
  have hpre : ∀ p ∈ (tree.outermost.flatMap exposed).filter
      (!(Setting.of scene options).elides ·), p ∈ tree.preorder := fun p hp =>
    tree.exposed_sublist.subset (hsub.subset hp)
  rw [bindings_of, List.nodup_flatMap]
  constructor
  · exact fun p _ => List.Nodup.of_map _ (Setting.nodup_map_snd_boundFields _ p)
  · refine (hsub.nodup h.nodup_exposed).pairwise_of_forall_ne fun p hp q hq hne => ?_
    rintro ⟨key, field⟩ hbp hbq
    have hkp := ((Setting.mem_boundFields _).mp hbp).1
    have hkq := ((Setting.mem_boundFields _).mp hbq).1
    rw [Setting.transformKey?_eq_some h (hpre p hp)] at hkp
    rw [Setting.transformKey?_eq_some h (hpre q hq)] at hkq
    have he := List.inj_on_of_nodup_map Setting.nodup_map_snd_transformKeys hkp hkq rfl
    exact hne (congrArg Prod.fst he)

end Composition

/-- How an attribute is spelled that binds a field to the transform with this key. -/
def bindingText (key field : String) : String :=
  field ++ "=\x7bctx.transforms" ++ Naming.propertySuffix key ++ "." ++ field ++ "\x7d"

section Spelling

variable {a : Attribute} {key field : String}

theorem propertySuffix_of_mem_transformFields (h : field ∈ transformFields) :
    Naming.propertySuffix field = "." ++ field := by
  have hbare : ∀ f ∈ "transforms" :: transformFields, Naming.isBareIdentifier f = true := by
    decide +kernel
  exact if_pos (hbare field (List.mem_cons_of_mem _ h))

theorem spelling_bound (h : field ∈ transformFields) :
    (Attribute.bound key field).spelling = bindingText key field := by
  have hbare : Naming.isBareIdentifier "transforms" = true := by decide +kernel
  have hpath : Scope.context.reference (Setting.transformPath key ++ [field]) =
      "ctx" ++ Naming.propertySuffix "transforms" ++ Naming.propertySuffix key ++
        Naming.propertySuffix field := rfl
  have hsuffix : Naming.propertySuffix "transforms" = ".transforms" := if_pos hbare
  have hlead : "=\x7b" ++ "ctx" ++ ".transforms" = "=\x7bctx.transforms" := by decide
  show field ++ "=\x7b" ++ Scope.context.reference _ ++ "\x7d" = _
  unfold bindingText
  rw [hpath, hsuffix, propertySuffix_of_mem_transformFields h, ← hlead]
  simp only [String.append_assoc]

theorem toList_bindingText (key field : String) :
    ∃ rest, (bindingText key field).toList = field.toList ++ '=' :: rest := by
  unfold bindingText
  simp only [String.toList_append, List.append_assoc]
  exact ⟨_, rfl⟩

theorem bindingText_inj {key' field' : String} (h : field ∈ transformFields)
    (h' : field' ∈ transformFields) :
    bindingText key field = bindingText key' field' ↔ key = key' ∧ field = field' := by
  have hnames : ∀ f ∈ transformFields, '=' ∉ f.toList := by decide
  constructor
  · intro heq
    obtain ⟨rest, hrest⟩ := toList_bindingText key field
    obtain ⟨rest', hrest'⟩ := toList_bindingText key' field'
    have htake := congrArg (·.toList.takeWhile (· != '=')) heq
    simp only [hrest, hrest', Text.takeWhile_ne (hnames _ h),
      Text.takeWhile_ne (hnames _ h')] at htake
    obtain rfl : field = field' := String.toList_injective htake
    unfold bindingText at heq
    rw [String.append_left_inj, String.append_left_inj, String.append_left_inj,
      String.append_right_inj] at heq
    exact ⟨Scope.context.reference_injective (congrArg ("ctx" ++ ·) heq), rfl⟩
  · rintro ⟨rfl, rfl⟩
    rfl

theorem Attribute.IsPlain.spelling_ne (ha : a.IsPlain) (h : field ∈ transformFields) :
    a.spelling ≠ bindingText key field := by
  have hplain : ∀ n ∈ plainNames, '=' ∉ n.toList ∧ n ∉ transformFields := by decide
  have hfields : ∀ f ∈ transformFields, '=' ∉ f.toList := by decide
  obtain ⟨hname, hother⟩ := hplain _ ha.name
  obtain ⟨rest, hrest⟩ := toList_bindingText key field
  intro heq
  have htake : a.spelling.toList.takeWhile (· != '=') = field.toList := by
    rw [heq, hrest, Text.takeWhile_ne (hfields _ h)]
  -- An attribute is spelled with its name before the first equals sign, whatever its value.
  have hown : a.spelling.toList.takeWhile (· != '=') = a.name.toList := by
    have hvalue (t : String) : ("=\x7b" ++ t).toList = '=' :: ("\x7b" ++ t).toList := by simp
    rw [spelling]
    split
    · exact List.takeWhile_eq_self_iff.mpr fun c hc => by
        simpa using fun he : c = '=' => hname (he ▸ hc)
    · split
      · simp [Text.takeWhile_ne hname]
      · simp [Text.takeWhile_ne hname]
    · simp [Text.takeWhile_ne hname]
  exact hother (String.toList_injective (hown.symm.trans htake) ▸ h)

theorem spelling_eq_bindingText_iff {s : Setting} {p : Placed} (ha : a ∈ s.attributes p)
    (h : field ∈ transformFields) :
    a.spelling = bindingText key field ↔ a.binding? = some (key, field) := by
  rcases s.isPlain_or_bound ha with hplain | ⟨b, hb, rfl⟩
  · rw [hplain.binding?_eq_none]
    exact iff_of_false (hplain.spelling_ne h) (Option.some_ne_none _).symm
  · have hfield := s.snd_mem_of_mem_boundFields hb
    rw [spelling_bound hfield, bindingText_inj hfield h, Attribute.binding?_bound,
      Option.some.injEq, Prod.mk.injEq]

end Spelling

namespace Composition

def spellings (c : Composition) : List String :=
  (c.lines.filterMap (·.kind.element?)).flatMap fun e => e.attributes.map Attribute.spelling

theorem count_spellings (s : Setting) (tree : SceneTree) {key field : String}
    (h : field ∈ transformFields) :
    (of s tree).spellings.count (bindingText key field) =
      (of s tree).bindings.count (key, field) := by
  rw [spellings, filterMap_element?_lines, bindings, List.count_flatMap, List.count_flatMap]
  congr 1
  refine List.map_congr_left fun e he => ?_
  rw [written_of] at he
  obtain ⟨p, -, rfl⟩ := List.mem_map.mp he
  rw [Function.comp_apply, Function.comp_apply, List.count_eq_countP, List.count_eq_countP,
    List.countP_map, List.countP_filterMap]
  refine List.countP_congr fun a ha => ?_
  have hiff : a.spelling = bindingText key field ↔ a.binding? = some (key, field) :=
    spelling_eq_bindingText_iff (show a ∈ s.attributes p from ha) h
  rw [Function.comp_apply, beq_iff_eq, hiff]
  cases a.binding? <;> simp

end Composition

/-- What the elements are bound to in the text, and what the context has for them. -/
structure Composition.BindsAll (c : Composition) (context : ContextValue) : Prop where
  lines : Text.ink c.text = c.lines.flatMap fun l => Text.ink l.kind.text
  bound : ∀ key, ∀ field ∈ ["position", "rotation", "scale"],
    c.spellings.count (bindingText key field) =
      if (context.path? ["transforms", key, field]).isSome then 1 else 0
  fields : ∀ key field, (context.path? ["transforms", key, field]).isSome →
    field ∈ ["position", "rotation", "scale"]

theorem Composition.isSome_path?_iff {scene : Scene} {options : Options} {tree : SceneTree}
    {key field : String} (h : Search.Finds scene tree) :
    (((Setting.of scene options).controls tree.node
      (.of (.of scene options) tree)).defaults.path? ["transforms", key, field]).isSome ↔
        (key, field) ∈ (Composition.of (.of scene options) tree).bindings := by
  rw [Setting.path?_transforms, Setting.isSome_path?_transformDefaults _
    Setting.nodup_map_snd_transformKeys, Composition.mem_bindings h]

/-- The elements of a good scene are bound to just those transforms that the default context has,
each of them once. -/
theorem bindings_iff_defaults {scene : Scene} {tree : SceneTree} (h : scene.validate = .ok tree)
    (options : Options) :
    (Composition.of (.of scene options) tree).BindsAll ((Setting.of scene options).controls tree.node
      (.of (.of scene options) tree)).defaults := by
  have hf := Scene.tree_finds (Scene.validate_eq_ok.mp h).1
  constructor
  case lines => exact Composition.ink_text _
  case bound =>
    intro key field hfield
    rw [Composition.count_spellings _ _ hfield, (Composition.nodup_bindings hf).count]
    simp only [Composition.isSome_path?_iff hf]
  case fields =>
    intro key field hsome
    obtain ⟨p, -, -, hentries⟩ :=
      (Composition.mem_bindings hf).mp ((Composition.isSome_path?_iff hf).mp hsome)
    exact (Setting.map_fst_transformEntries_sublist _ p.node).subset hentries

theorem transformKeys_sample :
    (Survey.of Scene.sample {}).transformKeys.map (fun e => (e.1.id, e.2)) =
      [(3, "node"), (0, "Arm")] := by
  obtain ⟨tree, htree⟩ := Scene.sample_validate
  have hall : Scene.sample.validate.toOption.map (fun tree =>
      (boundKeys (Options.canonical {}) 1 (tree.visits none false)).map fun e => (e.1.id, e.2)) =
        some [(3, "node"), (0, "Arm")] := by
    decide +kernel
  rw [htree] at hall
  rw [Setting.transformKeys_eq (Scene.tree_finds (Scene.validate_eq_ok.mp htree).1)]
  exact Option.some.inj hall

theorem sample_bindings : ∃ tree, Scene.sample.validate = .ok tree ∧
    let c := Composition.of (.of Scene.sample {}) tree
    let context := ((Setting.of Scene.sample {}).controls tree.node c).defaults
    c.BindsAll context ∧ (context.path? ["transforms", "Arm", "position"]).isSome ∧
      c.spellings.count "position=\x7bctx.transforms.Arm.position\x7d" = 1 ∧
      c.spellings.count "position=\x7bctx.transforms.node.position\x7d" = 0 := by
  obtain ⟨tree, h⟩ := Scene.sample_validate
  have hf := Scene.tree_finds (Scene.validate_eq_ok.mp h).1
  have hall := bindings_iff_defaults h {}
  have hnode : ∀ p key, (p, key) ∈ (Setting.of Scene.sample {}).survey.transformKeys →
      (p.id, key) ∈ [(3, "node"), (0, "Arm")] ∧ Scene.sample.nodes[p.id]? = some p.node := by
    intro p key hp
    have hexposed := Setting.exposed_of_mem_transformKeys hf hp
    exact ⟨transformKeys_sample ▸ List.mem_map_of_mem hp,
      hf.unfolds.node_of_mem (tree.exposed_sublist.subset hexposed)⟩
  -- The mesh keeps its element, and with it the binding.
  have harm : ("Arm", "position") ∈ (Composition.of (.of Scene.sample {}) tree).bindings := by
    have hlisted : (0, "Arm") ∈ (Survey.of Scene.sample {}).transformKeys.map
        fun e => (e.1.id, e.2) := transformKeys_sample ▸ by decide
    obtain ⟨⟨⟨id, node⟩, key⟩, hp, heq⟩ := List.mem_map.mp hlisted
    obtain ⟨rfl, rfl⟩ := Prod.mk.inj heq
    cases (hnode _ _ hp).2
    refine (Composition.mem_bindings hf).mpr ⟨_, hp, fun hr => ?_, by decide +kernel⟩
    rw [Composition.mem_removed_iff_elides hf (Composition.outermost_of_mem_transformKeys hf hp)]
      at hr
    exact absurd (Setting.elides_iff.mp hr).group (by decide)
  -- The group gives way to what it holds, so that its key is bound nowhere.
  have hgroup : ("node", "position") ∉ (Composition.of (.of Scene.sample {}) tree).bindings := by
    intro hb
    obtain ⟨⟨id, node⟩, hp, hr, -⟩ := (Composition.mem_bindings hf).mp hb
    rw [Composition.mem_removed_iff_elides hf (Composition.outermost_of_mem_transformKeys hf hp)]
      at hr
    obtain ⟨hid, hn⟩ := hnode _ _ hp
    obtain rfl : id = 3 := by simpa using hid
    cases hn
    exact hr (Setting.elides_iff.mpr
      ⟨rfl, by simp [Setting.shared?, Scene.geometryOf?], by decide, .inr rfl⟩)
  rw [← Composition.isSome_path?_iff hf] at harm hgroup
  have hcount := hall.bound "Arm" "position" (by decide)
  have hcount' := hall.bound "node" "position" (by decide)
  rw [if_pos harm] at hcount
  rw [if_neg hgroup] at hcount'
  have hspelled : bindingText "Arm" "position" =
      "position=\x7bctx.transforms.Arm.position\x7d" := by decide +kernel
  have hspelled' : bindingText "node" "position" =
      "position=\x7bctx.transforms.node.position\x7d" := by decide +kernel
  exact ⟨tree, h, hall, harm, hspelled ▸ hcount, hspelled' ▸ hcount'⟩

end SceneMarkup
