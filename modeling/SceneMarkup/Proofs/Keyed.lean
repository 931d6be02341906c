import SceneMarkup.Proofs.Controls

namespace SceneMarkup

/-- A schema whose groups have no key twice, and which is nested at most so deep in JSON, where a
vector is an array. -/
inductive Schema.Keyed : Nat → Schema → Prop
  | leaf : Keyed (depth + 1) (.leaf kind)
  | group : (entries.map Prod.fst).Nodup → (∀ e ∈ entries, Keyed depth e.2) →
      Keyed (depth + 1) (.group entries)

theorem Schema.keyed_group {entries : List (String × Schema)} {depth : Nat} :
    (group entries).Keyed (depth + 1) ↔
      (entries.map Prod.fst).Nodup ∧ ∀ e ∈ entries, e.2.Keyed depth :=
  ⟨fun | .group hkeys h => ⟨hkeys, h⟩, fun ⟨hkeys, h⟩ => .group hkeys h⟩

theorem Schema.Keyed.exists_succ {s : Schema} {depth : Nat} (h : s.Keyed depth) :
    ∃ n, depth = n + 1 := by
  cases h <;> exact ⟨_, rfl⟩

namespace ContextValue

variable {entries : List (String × ContextValue)} {v : ContextValue} {depth : Nat}

theorem keyed_group : (group entries).schema.Keyed (depth + 1) ↔
    (entries.map Prod.fst).Nodup ∧ ∀ e ∈ entries, e.2.schema.Keyed depth := by
  have hkeys : (entries.map fun e => (e.1, e.2.schema)).map Prod.fst = entries.map Prod.fst := by
    rw [List.map_map]
    rfl
  rw [schema_group, Schema.keyed_group, hkeys, List.forall_mem_map]

theorem keyed_record (hkeys : (entries.map Prod.fst).Nodup)
    (h : ∀ e ∈ entries, ∃ k, e.2.schema = .leaf k) (depth : Nat) :
    (group entries).schema.Keyed (depth + 2) :=
  keyed_group.mpr ⟨hkeys, fun e he => by
    obtain ⟨k, hk⟩ := h e he
    rw [hk]
    exact .leaf⟩

theorem keyed_of_isEdited {kind : RigKind} (hkeys : (entries.map Prod.fst).Nodup)
    (h : (group entries).schema.isEdited kind (entries.map Prod.fst)) (depth : Nat) :
    (group entries).schema.Keyed (depth + 2) := by
  refine keyed_record hkeys (fun e he => ?_) depth
  have hfield := Schema.isEdited_iff.mp h ⟨e.1, _⟩
    (List.mem_map_of_mem (List.mem_map_of_mem he))
  obtain ⟨k, hk, -⟩ := hfield
  have hget : (group entries).get? e.1 = some e.2 :=
    (get?_eq_some_iff (v := group entries) hkeys).mpr he
  rw [get?_schema, hget] at hk
  exact ⟨k, Option.some.inj hk⟩

theorem path?_of_mem_leaves (h : v.schema.Keyed depth) {path : List String} {l : Leaf}
    (hl : (path, l) ∈ v.leaves) : v.path? path = some l.value := by
  induction v generalizing depth path with
  | leaf l' =>
    rw [leaves_value, List.mem_singleton] at hl
    cases hl
    rfl
  | group entries ih =>
    obtain ⟨depth, rfl⟩ := h.exists_succ
    obtain ⟨hnodup, hbelow⟩ := keyed_group.mp h
    rw [leaves_group, List.mem_flatMap] at hl
    obtain ⟨e, he, hl⟩ := hl
    obtain ⟨l', hl', heq⟩ := List.mem_map.mp hl
    cases heq
    have hget : (group entries).get? e.1 = some e.2 :=
      (get?_eq_some_iff (v := group entries) hnodup).mpr he
    rw [path?, hget]
    exact ih e he (hbelow e he) hl'

end ContextValue

namespace Setting

open ContextValue

theorem keyed_modelDefaults (root : Node) (depth : Nat) :
    (modelDefaults root).schema.Keyed (depth + 2) :=
  keyed_of_isEdited (by simp) (isEdited_modelDefaults root) depth

theorem keyed_materialDefaults (m : Material) (depth : Nat) :
    (materialDefaults m).schema.Keyed (depth + 2) := by
  obtain ⟨entries, he, hnames⟩ := materialFields_of m
  have hedited := isEdited_materialDefaults m
  have hnodup := nodup_materialFields (.of m)
  rw [he, hnames] at hedited
  rw [hnames] at hnodup
  rw [he]
  exact keyed_of_isEdited hnodup hedited depth

variable (s : Setting)

theorem keyed_transformEntries (node : Node) (depth : Nat) :
    (ContextValue.group (s.transformEntries node)).schema.Keyed (depth + 2) := by
  refine keyed_record ?_ ?_ depth
  · rw [transformEntries]
    generalize TransformDelta.of s.precision node = delta
    split <;> split <;> split <;> simp
  · have hentry (b : Bool) (key : String) (l : Leaf) :
        ∀ e ∈ if b then [(key, l.value)] else [], ∃ k, e.2.schema = .leaf k := by
      cases b <;> simp
    simp only [transformEntries, List.forall_mem_append]
    exact ⟨⟨hentry _ _ (.vector _ false), hentry _ _ (.vector _ true)⟩,
      hentry _ _ (.vector _ false)⟩

theorem keyed_exactDefaults (hkeys : (s.survey.transformKeys.map Prod.snd).Nodup) (root : Node)
    (c : Composition) (depth : Nat) : (s.exactDefaults root c).schema.Keyed (depth + 4) := by
  rw [exactDefaults, keyed_group]
  refine ⟨Rig.nodup_keys, ?_⟩
  simp only [List.cons_append, List.nil_append, List.forall_mem_cons, List.forall_mem_map]
  refine ⟨keyed_modelDefaults root _, ?_, ?_, fun rig hr => ?_⟩
  · exact keyed_group.mpr ⟨s.nodup_keys_materials,
      List.forall_mem_map.mpr fun _ _ => keyed_materialDefaults _ _⟩
  · exact keyed_group.mpr ⟨s.nodup_keys_transformDefaults hkeys c,
      List.forall_mem_map.mpr fun _ _ => s.keyed_transformEntries _ _⟩
  · exact keyed_of_isEdited (Rig.nodup_fields rig hr) (Rig.isEdited rig hr) _

end Setting

end SceneMarkup
