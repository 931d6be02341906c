import SceneMarkup.Proofs.Angles
import SceneMarkup.Proofs.JsonText
import SceneMarkup.Proofs.Keyed

/-!
Saving and generating again. The saved text of a context is read as a value with the same leaves, but
null for what is not finite; restored over the defaults it gives the context again, as a leaf that
is not finite can only be the default itself.
-/

namespace SceneMarkup

namespace Json

inductive Finite : Json → Prop
  | null : Finite .null
  | bool : Finite (.bool b)
  | number : n.toFloat.isFinite → Finite (.number n)
  | string : Finite (.string s)
  | array : (∀ j ∈ items, Finite j) → Finite (.array items)
  | object : (∀ m ∈ members, Finite m.2) → Finite (.object members)

theorem Finite.path? {j below : Json} {path : List String} (h : j.Finite)
    (hp : j.path? path = some below) : below.Finite := by
  induction path generalizing j with
  | nil =>
    cases hp
    exact h
  | cons key rest ih =>
    obtain ⟨next, hnext, hrest⟩ := Option.bind_eq_some_iff.mp hp
    cases h with
    | object hmembers => exact ih (hmembers _ (mem_of_member? hnext)) hrest
    | _ => cases hnext

end Json

namespace Leaf

variable {p : Number.Precision}

def isFinite (l : Leaf) : Bool := l.numbers.all Float.isFinite

theorem isFinite_round {l : Leaf} (h : l.isFinite) : (l.round p).isFinite := by
  rw [isFinite, List.all_eq_true] at *
  cases l with
  | number x => simpa [round, numbers] using p.isFinite_round (h x (by simp [numbers]))
  | vector v angular =>
    simp only [numbers, Vec3.toList, List.forall_mem_cons] at h
    simpa [round, numbers, Vec3.map, Vec3.toList] using
      ⟨p.isFinite_round h.1, p.isFinite_round h.2.1, p.isFinite_round h.2.2.1⟩
  | bool | text => exact h

theorem restored_eq_self_or_isFinite {saved : Option Json} (h : ∀ j, saved = some j → j.Finite)
    (l : Leaf) : l.restored saved = l ∨ (l.restored saved).isFinite := by
  fun_cases restored l saved with
  | case1 x n =>
    cases h _ rfl with
    | number hn => exact .inr (by simpa [isFinite, numbers] using hn)
  | case2 | case3 => exact .inr rfl
  | case4 v angular x y z =>
    cases h _ rfl with
    | array hitems =>
      have hnumber (n : JsonNumber) (hn : (Json.number n).Finite) : n.toFloat.isFinite := by
        cases hn with
        | number hn => exact hn
      simp only [List.forall_mem_cons] at hitems
      right
      simp [isFinite, numbers, Vec3.toList, hnumber x hitems.1, hnumber y hitems.2.1,
        hnumber z hitems.2.2.1]
  | case5 v angular n =>
    cases h _ rfl with
    | number hn => exact .inr (by simp [isFinite, numbers, Vec3.toList, Vec3.splat, hn])
  | case6 => exact .inl rfl

theorem restored_reread {l l' : Leaf} (h : l'.kind = l.kind) :
    l.restored (some l'.value.toJson.reread) = if l'.isFinite then l' else l := by
  cases l <;> cases l' <;> try cases h
  case number x x' =>
    by_cases hx : x'.isFinite <;>
      simp [value, ContextValue.toJson, Json.real, Json.reread, JsonNumber.isFinite, isFinite,
        numbers, restored, JsonNumber.toFloat, hx]
  case bool => rfl
  case text => rfl
  case vector v angular v' =>
    obtain ⟨x, y, z⟩ := v'
    by_cases hx : x.isFinite <;> by_cases hy : y.isFinite <;> by_cases hz : z.isFinite <;>
      simp [value, ContextValue.toJson, Json.real, Json.reread, JsonNumber.isFinite, isFinite,
        numbers, restored, JsonNumber.toFloat, Vec3.toList, hx, hy, hz]

end Leaf

namespace ContextValue

variable {v : ContextValue} {depth : Nat}

theorem entriesToJson_eq (entries : List (String × ContextValue)) :
    entriesToJson entries = entries.map fun e => (e.1, e.2.toJson) := by
  induction entries with
  | nil => rfl
  | cons e rest ih => simp [entriesToJson, ih]

theorem toJson_group (entries : List (String × ContextValue)) :
    (group entries).toJson = .object (entries.map fun e => (e.1, e.2.toJson)) := by
  rw [toJson, entriesToJson_eq]

theorem reread_group (entries : List (String × ContextValue)) : (group entries).toJson.reread =
    .object (Json.sortMembers (entries.map fun e => (e.1, e.2.toJson.reread))) := by
  rw [toJson_group, Json.reread, Json.rereadMembers_eq, List.map_map]
  rfl

theorem legible_toJson (h : v.schema.Keyed depth) (hread : ∀ x ∈ v.numbers, x.isFinite →
    Json.read? (Json.realText x) = some (.real x)) : v.toJson.Legible depth := by
  induction v generalizing depth with
  | leaf l =>
    obtain ⟨depth, rfl⟩ := h.exists_succ
    cases l with
    | number x => exact .number (hread x (by simp [numbers, Leaf.numbers]))
    | bool => exact .bool
    | text => exact .string
    | vector v angular =>
      refine .array (List.forall_mem_map.mpr fun x hx => .number (hread x ?_))
      simpa [numbers, Leaf.numbers] using hx
  | group entries ih =>
    obtain ⟨depth, rfl⟩ := h.exists_succ
    rw [toJson_group]
    refine .object (List.forall_mem_map.mpr fun e he => ?_)
    exact ih e he ((keyed_group.mp h).2 e he) fun x hx => hread x (numbers_subset he hx)

theorem keyed_of_get? {below : ContextValue} {key : String} (h : v.schema.Keyed depth)
    (hbelow : v.get? key = some below) : ∃ depth, below.schema.Keyed depth := by
  cases v using induct with
  | leaf l => cases l <;> cases hbelow
  | group entries =>
    obtain ⟨depth, rfl⟩ := h.exists_succ
    exact ⟨depth, (keyed_group.mp h).2 _ (Json.mem_of_member? hbelow)⟩

theorem member?_reread {entries : List (String × ContextValue)} (h : (entries.map Prod.fst).Nodup)
    (key : String) :
    Json.member? key (Json.sortMembers (entries.map fun e => (e.1, e.2.toJson.reread))) =
      (Json.member? key entries).map fun below => below.toJson.reread := by
  have hnodup : ((entries.map fun e => (e.1, e.2.toJson.reread)).map Prod.fst).Nodup := by
    rwa [List.map_map]
  rw [Json.member?_sortMembers hnodup]
  exact Json.member?_map fun below : ContextValue => below.toJson.reread

theorem get?_reread (h : v.schema.Keyed depth) (key : String) :
    v.toJson.reread.get? key = (v.get? key).map fun below => below.toJson.reread := by
  cases v using induct with
  | leaf l =>
    cases l with
    | number x =>
      simp only [Leaf.value, toJson, Json.real, Json.reread]
      split <;> rfl
    | _ => rfl
  | group entries =>
    obtain ⟨depth, rfl⟩ := h.exists_succ
    rw [reread_group, Json.get?, member?_reread (keyed_group.mp h).1]
    rfl

theorem path?_reread (h : v.schema.Keyed depth) (path : List String) :
    v.toJson.reread.path? path = (v.path? path).map fun below => below.toJson.reread := by
  induction path generalizing v depth with
  | nil => rfl
  | cons key rest ih =>
    rw [Json.path?, path?, get?_reread h]
    cases hbelow : v.get? key with
    | none => rfl
    | some below =>
      obtain ⟨_, hkeyed⟩ := keyed_of_get? h hbelow
      exact ih hkeyed

variable {f : List String → Leaf → Leaf} {p : Number.Precision}

theorem overlay_reread (h : v.schema.Keyed depth) (hkind : ∀ path l, (f path l).kind = l.kind)
    (hf : ∀ path l, f path l = l.round p ∨ (f path l).isFinite)
    (hround : ∀ x ∈ (v.mapLeaves f).numbers, p.round x = x) :
    (v.overlay (v.mapLeaves f).toJson.reread).round p = v.mapLeaves f := by
  have hkeyed : (v.mapLeaves f).schema.Keyed depth := (schema_mapLeaves hkind v).symm ▸ h
  rw [overlay_eq_mapLeaves, round_eq_mapLeaves, mapLeaves_mapLeaves]
  refine mapLeaves_congr fun (path, l) hl => ?_
  have hmem : (path, f path l) ∈ (v.mapLeaves f).leaves := by
    rw [leaves_mapLeaves]
    exact List.mem_map_of_mem hl
  have hfix : (f path l).round p = f path l :=
    Leaf.round_eq_self fun x hx => hround x (List.mem_flatMap.mpr ⟨_, hmem, hx⟩)
  simp only
  rw [path?_reread hkeyed, path?_of_mem_leaves hkeyed hmem, Option.map_some,
    Leaf.restored_reread (hkind path l)]
  split
  · exact hfix
  · next hn => exact ((hf path l).resolve_right hn).symm

end ContextValue

namespace Plan

variable {scene : Scene} {options : Options} {tree : SceneTree}

theorem exists_defaults_eq (scene : Scene) (options : Options) {saved : Option Json}
    (hsaved : ∀ j, saved = some j → j.Finite) (tree : SceneTree)
    (hround : ∀ x ∈ (Plan.of scene options saved tree).controls.defaults.numbers,
      options.canonical.round x = x) :
    ∃ f : List String → Leaf → Leaf, (∀ path l, (f path l).kind = l.kind) ∧
      (∀ path l, f path l = l.round options.canonical ∨ (f path l).isFinite) ∧
      (Plan.of scene options saved tree).controls.defaults =
        (Plan.of scene options none tree).controls.defaults.mapLeaves f := by
  cases saved with
  | none =>
    refine ⟨fun _ l => l.round options.canonical, fun _ => Leaf.kind_round _,
      fun _ _ => .inl rfl, ?_⟩
    refine (ContextValue.mapLeaves_eq_self fun l hl => ?_).symm
    exact Leaf.round_eq_self fun x hx => hround x (List.mem_flatMap.mpr ⟨l, hl, hx⟩)
  | some j =>
    refine ⟨fun path l => (l.restored (j.path? path)).round options.canonical, fun path l => ?_,
      fun path l => ?_, ?_⟩
    · rw [Leaf.kind_round, Leaf.kind_restored]
    · rcases Leaf.restored_eq_self_or_isFinite (fun _ => (hsaved j rfl).path?) l with h | h
      · exact .inl (congrArg _ h)
      · exact .inr (Leaf.isFinite_round h)
    · rw [defaults_of_some, ← defaults_of_none, ContextValue.overlay_eq_mapLeaves,
        ContextValue.round_eq_mapLeaves, ContextValue.mapLeaves_mapLeaves]

theorem keyed_defaults (scene : Scene) (options : Options) (saved : Option Json)
    (tree : SceneTree) :
    (Plan.of scene options saved tree).controls.defaults.schema.Keyed Json.maxDepth := by
  rw [schema_defaults_of]
  exact Setting.keyed_exactDefaults _ Setting.nodup_map_snd_transformKeys _ _ 123

theorem of_congr {saved saved' : Option Json}
    (h : (Plan.of scene options saved tree).controls.defaults =
      (Plan.of scene options saved' tree).controls.defaults) :
    Plan.of scene options saved tree = Plan.of scene options saved' tree := by
  have hplan (saved : Option Json) : Plan.of scene options saved tree =
      { Plan.of scene options none tree with
        controls := { (Plan.of scene options none tree).controls with
          defaults := (Plan.of scene options saved tree).controls.defaults } } := by
    cases saved <;> rfl
  rw [hplan saved, h, ← hplan saved']

end Plan

/-- Saving and generating again is a fixed point, whatever was saved before. All that is asked is
that rounding has nothing left to do in the context, and that its finite numbers are read back from
their texts. -/
theorem generate_read_blob {scene : Scene} (h : scene.validate.isOk) (options : Options)
    {saved : Option Json} (hsaved : ∀ j, saved = some j → j.Finite) :
    ∃ u, generate scene options saved = .ok u ∧
      ((∀ x ∈ u.context.numbers, options.canonical.round x = x) →
        (∀ x ∈ u.context.numbers, x.isFinite → Json.read? (Json.realText x) = some (.real x)) →
        ∃ again, Json.read? u.context.blob = some again ∧
          generate scene options (some again) = .ok u) := by
  obtain ⟨tree, htree⟩ := Scene.exists_tree_of_isOk h
  refine ⟨_, generate_eq_ok.mpr ⟨tree, htree, rfl⟩, fun hround hread => ?_⟩
  obtain ⟨f, hkind, hf, hdefaults⟩ := Plan.exists_defaults_eq scene options hsaved tree hround
  refine ⟨(Plan.of scene options saved tree).controls.defaults.toJson.reread,
    Json.read?_pretty (ContextValue.legible_toJson (Plan.keyed_defaults ..) hread), ?_⟩
  refine generate_eq_ok.mpr ⟨tree, htree, congrArg Plan.unit (Plan.of_congr ?_)⟩
  rw [Plan.defaults_of_some, ← Plan.defaults_of_none, hdefaults]
  exact ContextValue.overlay_reread (Plan.keyed_defaults ..) hkind hf (hdefaults ▸ hround)

def Scene.turnedDefaults : ContextValue := .group (
  [("model", Setting.modelDefaults { type := "Scene", rotation := .quarterTurn }),
    ("materials", .group []), ("transforms", .group [])] ++
  Rig.catalog.map fun rig => (rig.key, .group rig.fields))

theorem exactDefaults_turned {tree : SceneTree} (h : Scene.turned.validate = .ok tree)
    (c : Composition) :
    (Setting.of Scene.turned {}).exactDefaults tree.node c = Scene.turnedDefaults := by
  have hf := Scene.tree_finds (Scene.validate_eq_ok.mp h).1
  have hnode : tree.node = { type := "Scene", rotation := .quarterTurn } :=
    Option.some.inj (hf.root_node.symm.trans rfl)
  have hvisits := hf.visits_of_children_eq_nil (hnode ▸ rfl)
  have hmaterials : (Setting.of Scene.turned {}).survey.materials = [] := by
    change distinctBy _ (List.filterMap _ (List.filter _ (Scene.turned.visits.map _))) = []
    rw [hvisits, hnode]
    rfl
  have hkeys : (Setting.of Scene.turned {}).survey.transformKeys = [] := by
    change boundKeys _ _ Scene.turned.visits = []
    rw [hvisits, hnode]
    rfl
  rw [Setting.exactDefaults, Setting.transformDefaults, hmaterials, hkeys, hnode]
  rfl

def Json.stale : Json := .object [("old", .null), ("stars", .object [("count", .natural 300)]),
  ("model", .object [("scale", .real 2.5), ("position", .string "here")])]

theorem Json.finite_stale : stale.Finite := by
  have hcount : Finite (.object [("count", .natural 300)]) :=
    .object (List.forall_mem_singleton.mpr (.number (by decide +kernel)))
  have hmodel : Finite (.object [("scale", .real 2.5), ("position", .string "here")]) :=
    .object (by simpa using ⟨.number (by decide +kernel), .string⟩)
  exact .object (by simpa [stale] using ⟨.null, hcount, hmodel⟩)

theorem turned_generate_read_blob : ∃ u, generate Scene.turned {} (some .stale) = .ok u ∧
    ∃ again, Json.read? u.context.blob = some again ∧
      generate Scene.turned {} (some again) = .ok u := by
  obtain ⟨tree, htree⟩ := Scene.turned_validate
  have hok : Scene.turned.validate.isOk := by rw [htree]; rfl
  have hsaved : ∀ j, some Json.stale = some j → j.Finite :=
    fun j hj => Option.some.inj hj ▸ Json.finite_stale
  obtain ⟨u, hu, h⟩ := generate_read_blob hok {} hsaved
  have hcontext : u.context = ((Scene.turnedDefaults.round (Options.canonical {})).overlay
      .stale).round (Options.canonical {}) := by
    obtain ⟨tree', htree', rfl⟩ := generate_eq_ok.mp hu
    rw [← exactDefaults_turned htree']
    exact Plan.defaults_of_some Scene.turned {} tree' .stale
  have hnumbers : ∀ x ∈ u.context.numbers, (Options.canonical {}).round x = x ∧
      (x.isFinite → Json.read? (Json.realText x) = some (.real x)) := by
    rw [hcontext]
    decide +kernel
  exact ⟨u, hu, h (fun x hx => (hnumbers x hx).1) fun x hx => (hnumbers x hx).2⟩

namespace ContextValue

variable {v w : ContextValue} {depth : Nat}

theorem numbers_toJson (v : ContextValue) : v.toJson.numbers = v.numbers.map .real := by
  induction v with
  | leaf l =>
    cases l with
    | vector v angular => rfl
    | _ => rfl
  | group entries ih =>
    rw [toJson_group, Json.numbers_object, List.flatMap_map]
    simp only [numbers, leaves_group, List.flatMap_assoc, List.flatMap_map, List.map_flatMap]
    refine List.flatMap_congr fun e he => ?_
    rw [ih e he, numbers, List.map_flatMap]

theorem overlay_toJson_reread (hschema : v.schema = w.schema) (hkeys : w.schema.Keyed depth)
    (hfinite : ∀ x ∈ w.numbers, x.isFinite) : v.overlay w.toJson.reread = w := by
  induction w generalizing v depth with
  | leaf l =>
    rw [schema_value] at hschema
    obtain ⟨l', rfl, hkind⟩ := schema_eq_leaf hschema
    have hl : l.isFinite := List.all_eq_true.mpr fun x hx => hfinite x (by simpa [numbers] using hx)
    rw [overlay_value, Leaf.restored_reread hkind.symm, if_pos hl]
  | group entries ih =>
    obtain ⟨depth, rfl⟩ := hkeys.exists_succ
    obtain ⟨hnodup, hbelow⟩ := keyed_group.mp hkeys
    rw [schema_group] at hschema
    obtain ⟨entries', rfl, hentries⟩ := schema_eq_group hschema
    have hlength : entries.length = entries'.length := by simpa using congrArg List.length hentries
    rw [reread_group, overlay, overlayEntries_eq]
    refine congrArg group (List.ext_getElem (by simp [hlength]) fun i hi' hi => ?_)
    rw [List.length_map] at hi'
    have he := List.getElem_mem hi
    have hpair : (entries[i].1, entries[i].2.schema) = (entries'[i].1, entries'[i].2.schema) := by
      simpa [hi, hi'] using congrArg (·[i]?) hentries
    obtain ⟨hkey, hbelow'⟩ := Prod.ext_iff.mp hpair
    have hrestored := ih entries[i] he (v := entries'[i].2) hbelow'.symm (hbelow _ he)
      fun x hx => hfinite x (numbers_subset he hx)
    have hsaved : Json.member? entries[i].1 entries = some entries[i].2 :=
      (Json.member?_eq_some_iff hnodup).mpr he
    rw [List.getElem_map, ← hkey, member?_reread hnodup, hsaved, Option.map_some]
    exact Prod.ext rfl hrestored

/-- What a context is restored from need not be what it was saved over: only the schema has to be
the same, with no key twice in a group. The saved text may be nested as deep as is read at all, and
the numbers in it are finite and read from their own texts. -/
theorem overlay_read_blob (hschema : v.schema = w.schema) (hkeys : ∃ depth, w.schema.Keyed depth)
    (hdepth : w.toJson.depth ≤ Json.maxDepth)
    (hread : ∀ x ∈ w.numbers, x.isFinite ∧ Json.read? (Json.realText x) = some (.real x)) :
    ∃ saved, Json.read? w.blob = some saved ∧ v.overlay saved = w := by
  obtain ⟨depth, hkeys⟩ := hkeys
  have hlegible : w.toJson.Legible Json.maxDepth := by
    refine Json.legible_of_depth_le hdepth ?_
    rw [numbers_toJson]
    exact List.forall_mem_map.mpr fun x hx _ => (hread x hx).2
  exact ⟨w.toJson.reread, Json.read?_pretty hlegible,
    overlay_toJson_reread hschema hkeys fun x hx => (hread x hx).1⟩

def sampled (x : Float) (b : Bool) (t : String) (v : Vec3) : ContextValue :=
  .group [("stars", .group [("speed", .number x), ("fade", .bool b)]), ("a b", .group []),
    ("background", .group [("top", .text t), ("sun", .group [("position", values v),
      ("rotation", angles v)])])]

theorem sampled_overlay_read_blob :
    ∃ saved, Json.read? (sampled 0.25 true "#1e1e2e" ⟨1, -2.5, 1e21⟩).blob = some saved ∧
      (sampled 3 false "\"" .zero).overlay saved =
        sampled 0.25 true "#1e1e2e" ⟨1, -2.5, 1e21⟩ := by
  refine overlay_read_blob rfl ⟨5, ?_⟩ (by decide) (by decide +kernel)
  simp [sampled, values, angles, schema, entrySchemas, Schema.keyed_group, Schema.Keyed.leaf]

end ContextValue

end SceneMarkup
