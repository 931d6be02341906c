import SceneMarkup.Proofs.Lines
import SceneMarkup.Proofs.OverlayKey
import SceneMarkup.Proofs.Regeneration
import SceneMarkup.Proofs.Types

/-!
The overlay of a unit's own script. It gives every leaf of a context what it reads at the leaf's
path, and nothing else is written to. It reads the items of arrays as it reads the members of
objects; where no array is saved in place of a group, it agrees with the overlay of contexts.
-/

namespace SceneMarkup

namespace Script

variable {heap heap' : Heap} {avoid records : Set Address} {a b : Address} {key : String}
  {fields : List (String × Value)} {x y z : Value} {j : Json}
  {entries : List (String × ContextValue)}

theorem Holds.exists_record (h : Holds heap (.group entries) x records) :
    ∃ a fields, x = .reference a ∧ heap[a]? = some (.record fields) ∧
      (fields.map Prod.fst).Nodup ∧ List.Perm (fields.map Prod.fst) (entries.map Prod.fst) := by
  cases h with
  | group hc hnodup hkeys => exact ⟨_, _, rfl, hc, hnodup, hkeys⟩

theorem Holds.focus (h : Holds heap (.group entries) (.reference a) records)
    {e : String × ContextValue} (he : e ∈ entries) :
    ∃ fields x below, heap[a]? = some (.record fields) ∧ Json.member? e.1 fields = some x ∧
      Holds heap e.2 x below ∧ a ∉ below ∧ insert a below ⊆ records ∧
      ∀ {heap' z entries'}, Puts a e.1 z fields below heap heap' →
        entries'.map Prod.fst = entries.map Prod.fst →
        (∀ e' ∈ entries', e'.1 ≠ e.1 → e' ∈ entries) →
        (∀ e' ∈ entries', e'.1 = e.1 → Holds heap' e'.2 z below) →
        Holds heap' (.group entries') (.reference a) records := by
  cases h with
  | @group _ fields _ value below hc hnodup hkeys hvalue hbelow hown hapart =>
    have hkey : e.1 ∈ entries.map Prod.fst := List.mem_map_of_mem he
    refine ⟨fields, value e.1, below e.1, hc, hvalue e he, hbelow e he, hown e.1 hkey, ?_,
      fun {heap' z entries'} hputs hkeys' hsame hnew => ?_⟩
    · rintro d (rfl | hd)
      · exact .inl rfl
      · exact .inr ⟨e.1, hkey, hd⟩
    obtain ⟨fields', hc', hfields, hmember⟩ := hputs.record
    rw [← hkeys'] at hkeys hown hapart ⊢
    have hvalue' : ∀ e' ∈ entries',
        Json.member? e'.1 fields' = some (Function.update value e.1 z e'.1) := fun e' he' => by
      rw [hmember]
      split
      · next heq => rw [heq, Function.update_self]
      · next hne =>
        rw [Function.update_of_ne hne]
        exact hvalue e' (hsame e' he' hne)
    refine .group hc' (hfields ▸ hnodup) (hfields ▸ hkeys) hvalue' (fun e' he' => ?_) hown hapart
    by_cases heq : e'.1 = e.1
    · rw [heq, Function.update_self]
      exact hnew e' he' heq
    · rw [Function.update_of_ne heq]
      refine (hbelow e' (hsame e' he' heq)).changes hputs.changes fun d hd hwritten => ?_
      have hkey' : e'.1 ∈ entries'.map Prod.fst := List.mem_map_of_mem he'
      -- Written was the record itself or what is below the key, and neither is below another one.
      rcases hwritten with rfl | hd'
      · exact hown e'.1 hkey' hd
      · exact heq (hapart e'.1 hkey' e.1 (hkeys' ▸ hkey) d hd hd')

def bodyLocals (a b : Address) : Locals := [("target", .reference a), ("saved", .reference b)]

theorem run_overlayKey {v : ContextValue} (hv : Overlays v)
    (hrecord : heap[a]? = some (.record fields)) (hx : Json.member? key fields = some x)
    (hholds : Holds heap v x records) (hown : a ∉ records) (hsub : insert a records ⊆ avoid)
    (hspells : Spells heap avoid (.reference b) j) :
    ∃ outcome heap' z,
      Task.run [overlay] (("key", .string key) :: bodyLocals a b) (.body overlayKey) heap =
        some (outcome, heap') ∧ outcome ≠ .leave ∧ Puts a key z fields records heap heap' ∧
      Holds heap' (v.overlayOwn (j.own? key)) z records := by
  obtain ⟨c, hc, hproperty⟩ := hspells.property?
  have hkey : (Term.name "key").Yields (("key", .string key) :: bodyLocals a b) heap
      (.string key) := Term.yields_name (by simp [Json.member?])
  have hsaved : (Term.name "saved").Yields (("key", .string key) :: bodyLocals a b) heap
      (.reference b) := Term.yields_name (by simp [Json.member?, bodyLocals])
  have hmissing := Term.counts_not (Term.counts_isKeyOf hkey hsaved hc)
  have hrel := hproperty key
  generalize hp : c.property? key = p at hrel hmissing
  generalize j.own? key = below at hrel
  -- A key that the saved value does not have is skipped; else both values are bound and compared.
  cases hrel with
  | none =>
    refine ⟨.skip, heap, x, run_body_of_skip (run_continueIf hmissing), by simp,
      .of_member? (.refl _ _) hrecord hx, ?_⟩
    rwa [ContextValue.overlayOwn_none]
  | @some y below hy =>
    have htarget : (Term.name "target").Yields (("key", .string key) :: bodyLocals a b) heap
        (.reference a) := Term.yields_name (by simp [Json.member?, bodyLocals])
    have hcurrent := Term.yields_item htarget hkey hrecord
    rw [Cell.property?, hx, Option.getD_some] at hcurrent
    have hkey' : (Term.name "key").Yields (("current", x) :: ("key", .string key) :: bodyLocals a b)
        heap (.string key) := Term.yields_name (by simp [Json.member?])
    have hsaved' : (Term.name "saved").Yields
        (("current", x) :: ("key", .string key) :: bodyLocals a b) heap (.reference b) :=
      Term.yields_name (by simp [Json.member?, bodyLocals])
    have hvalue := Term.yields_item hsaved' hkey' hc
    rw [hp, Option.getD_some] at hvalue
    obtain ⟨heap', z, hexec, hputs, hz⟩ := hv hrecord hx hholds hown hsub hy
    refine ⟨.next (keyLocals a b key x y), heap', z, ?_, by simp, hputs, hz⟩
    rw [overlayKey, run_body_of_next (run_continueIf hmissing),
      run_body_of_next (run_bind hcurrent), run_body_of_next (run_bind hvalue)]
    exact run_body_singleton hexec

def overlaidBut (j : Json) (left : List String) (entries : List (String × ContextValue)) :
    List (String × ContextValue) :=
  entries.map fun e => (e.1, if e.1 ∈ left then e.2 else e.2.overlayOwn (j.own? e.1))

theorem map_fst_overlaidBut (left : List String) :
    (overlaidBut j left entries).map Prod.fst = entries.map Prod.fst := by
  simp [overlaidBut, Function.comp_def]

theorem overlaidBut_nil : ContextValue.group (overlaidBut j [] entries) =
    (ContextValue.group entries).overlayOwn (some j) := by
  rw [ContextValue.overlayOwn_group]
  simp [overlaidBut]

theorem overlaidBut_of_subset {left : List String} (h : entries.map Prod.fst ⊆ left) :
    overlaidBut j left entries = entries := by
  refine (List.map_congr_left fun e he => ?_).trans (List.map_id _)
  rw [if_pos (h (List.mem_map_of_mem he))]
  rfl

theorem run_loop_overlayKey (h : ∀ e ∈ entries, Overlays e.2) {left : List String}
    (hleft : left.Nodup) (hkeys : left ⊆ entries.map Prod.fst)
    (hnodup : (entries.map Prod.fst).Nodup)
    (hholds : Holds heap (.group (overlaidBut j left entries)) (.reference a) records)
    (hsub : records ⊆ avoid) (hspells : Spells heap avoid (.reference b) j) :
    ∃ heap', Task.run [overlay] (bodyLocals a b) (.loop "key" overlayKey (left.map .string)) heap =
        some (.next (bodyLocals a b), heap') ∧ Heap.Changes records heap heap' ∧
      Holds heap' ((ContextValue.group entries).overlayOwn (some j)) (.reference a) records := by
  -- Between two turns the heap holds the context that is overlaid but for the keys left.
  induction left generalizing heap with
  | nil =>
    refine ⟨heap, ?_, .refl _ _, overlaidBut_nil ▸ hholds⟩
    rw [List.map_nil, Task.run]
    rfl
  | cons key left ih =>
    rw [List.nodup_cons] at hleft
    obtain ⟨hkey, hrest⟩ := List.cons_subset.mp hkeys
    obtain ⟨e, he, rfl⟩ := List.mem_map.mp hkey
    have hentry : (e.1, e.2) ∈ overlaidBut j (e.1 :: left) entries := by
      refine List.mem_map.mpr ⟨e, he, ?_⟩
      simp
    obtain ⟨fields, x, below, hrecord, hx, hbelow, hown, hin, hfocus⟩ := hholds.focus hentry
    obtain ⟨outcome, heap₁, z, hexec, hgoes, hputs, hz⟩ :=
      run_overlayKey (h e he) hrecord hx hbelow hown (hin.trans hsub) hspells
    have hnext : Holds heap₁ (.group (overlaidBut j left entries)) (.reference a) records := by
      refine hfocus hputs (by simp only [map_fst_overlaidBut]) (fun e' he' hne => ?_)
        (fun e' he' heq => ?_)
      · obtain ⟨e₀, he₀, rfl⟩ := List.mem_map.mp he'
        exact List.mem_map.mpr ⟨e₀, he₀, by simp [show e₀.1 ≠ e.1 from hne]⟩
      · obtain ⟨e₀, he₀, rfl⟩ := List.mem_map.mp he'
        obtain rfl : e₀ = e := List.inj_on_of_nodup_map hnodup he₀ he heq
        rwa [if_neg hleft.1]
    have hchanges : Heap.Changes records heap heap₁ := hputs.changes.mono hin
    obtain ⟨heap₂, hloop, hchanges', hresult⟩ :=
      ih hleft.2 hrest hnext (hspells.changes (hchanges.mono hsub))
    exact ⟨heap₂, by rw [List.map_cons, run_loop_cons hexec hgoes, hloop],
      hchanges.trans hchanges', hresult⟩

theorem find?_overlay : [overlay].find? (·.name == "applySaved") = some overlay :=
  List.find?_cons_of_pos (by decide)

def Value.isRefused (y : Value) : Bool := !y.isTruthy || !(y.kind == "object")

theorem run_returnIf_isRefused (x y : Value) (program : List Function) :
    Task.run program [("target", x), ("saved", y)]
        (.statement (.returnIf (.binary .or (.not (.name "saved"))
          (.binary .differs (.kind (.name "saved")) (.string "object"))))) heap =
      some (if y.isRefused then .leave else .next [("target", x), ("saved", y)], heap) := by
  have hsaved : (Term.name "saved").Yields [("target", x), ("saved", y)] heap y :=
    Term.yields_name (by simp [Json.member?])
  exact run_returnIf (Term.counts_or (Term.counts_not ⟨y, hsaved, rfl⟩) fun _ =>
    Term.counts_differs (Term.yields_kind hsaved) (Term.yields_string _))

theorem run_overlay_of_isRefused (h : y.isRefused) (x : Value) (locals : Locals) :
    Task.run [overlay] locals (.call "applySaved" [x, y]) heap = some (.next locals, heap) := by
  have hreturn := (@run_returnIf_isRefused heap x y [overlay]).trans (by rw [if_pos h])
  exact run_call find?_overlay (run_body_of_leave hreturn)

theorem null_or_kind_of_isRefused (hspells : Spells heap avoid y j) (h : y.isRefused) :
    j = .null ∨ j.kind ≠ "object" := by
  cases hspells with
  | null => exact .inl rfl
  | bool | number | string => exact .inr (by simp [Json.kind])
  | array | object => cases h

theorem exists_reference_of_not_isRefused (h : ¬ y.isRefused) : ∃ b, y = .reference b := by
  cases y with
  | reference b => exact ⟨b, rfl⟩
  | _ => simp [Value.isRefused, Value.isTruthy, Value.kind] at h

theorem run_overlay (h : ∀ e ∈ entries, Overlays e.2)
    (hholds : Holds heap (.group entries) x records) (hsub : records ⊆ avoid)
    (hspells : Spells heap avoid y j) (locals : Locals) :
    ∃ heap', Task.run [overlay] locals (.call "applySaved" [x, y]) heap =
        some (.next locals, heap') ∧
      Heap.Changes records heap heap' ∧
      Holds heap' ((ContextValue.group entries).overlayOwn (some j)) x records := by
  by_cases hy : y.isRefused
  · refine ⟨heap, run_overlay_of_isRefused hy x locals, .refl _ _, ?_⟩
    rwa [ContextValue.overlayOwn_group_of_kind (null_or_kind_of_isRefused hspells hy)]
  obtain ⟨b, rfl⟩ := exists_reference_of_not_isRefused hy
  obtain ⟨a, fields, rfl, hrecord, hnodup, hperm⟩ := hholds.exists_record
  -- The keys are listed in an array of their own before the first turn.
  let listed : Heap := heap ++ [.array ((Cell.record fields).keys.map .string)]
  have hlisted : heap <+: listed := List.prefix_append ..
  have htarget : (Term.name "target").Yields (bodyLocals a b) heap (.reference a) :=
    Term.yields_name (by simp [Json.member?, bodyLocals])
  have hkeys : listed[heap.length]? = some (.array ((fields.map Prod.fst).map .string)) := by
    simp [listed, Cell.keys]
  have hstart : Holds listed (.group (overlaidBut j (fields.map Prod.fst) entries))
      (.reference a) records := by
    rw [overlaidBut_of_subset hperm.symm.subset]
    exact hholds.changes (.of_allocated hlisted) fun _ _ => Set.notMem_empty _
  obtain ⟨heap', hloop, hchanges, hresult⟩ := run_loop_overlayKey h hnodup hperm.subset
    (hperm.nodup_iff.mp hnodup) hstart hsub (hspells.changes (.of_allocated hlisted))
  have hreturn := (@run_returnIf_isRefused heap (.reference a) (.reference b) [overlay]).trans
    (by rw [if_neg hy])
  have hbody := (run_body_of_next hreturn).trans (run_body_singleton
    ((run_each (Term.eval_keys htarget hrecord) hkeys).trans hloop))
  exact ⟨heap', run_call find?_overlay hbody, (Heap.Changes.of_allocated hlisted).trans hchanges,
    hresult⟩

theorem overlays_group (h : ∀ e ∈ entries, Overlays e.2) : Overlays (.group entries) := by
  intro heap avoid records a b key fields x y j hrecord hx hholds hown hsub hspells
  obtain ⟨c, _, rfl, hc, -, -⟩ := hholds.exists_record
  have hcurrent : (Term.name "current").Yields (keyLocals a b key (.reference c) y) heap
      (.reference c) := Term.yields_name member?_current
  have harray := Term.counts_isArray hcurrent hc
  have hgroup : isGroup.Counts (keyLocals a b key (.reference c) y) heap true :=
    Term.counts_and (Term.counts_differs hcurrent Term.yields_null) fun _ =>
      counts_isKind hcurrent "object"
  obtain ⟨heap', hcall, hchanges, hresult⟩ :=
    run_overlay h hholds ((Set.subset_insert ..).trans hsub) hspells _
  have hexec := run_call_statement hcurrent (Term.yields_name member?_value) hcall
  refine ⟨heap', .reference c, run_cases ▸ (run_branches_of_not_met harray).trans
    (run_branches_of_met hgroup (run_body_singleton hexec)),
    .of_member? hchanges (hchanges.kept _ _ hrecord (.inl hown)) hx, hresult⟩

theorem overlays (v : ContextValue) : Overlays v := by
  induction v with
  | leaf l => exact overlays_value l
  | group entries ih => exact overlays_group ih

end Script

namespace Json

theorem own?_eq_get? {j : Json} (h : ∀ items, j ≠ .array items) (key : String) :
    j.own? key = j.get? key := by
  cases j with
  | array items => exact absurd rfl (h items)
  | _ => rfl

end Json

namespace ContextValue

/-- No array is saved where the context has a group. -/
def NoArrayFor (v : ContextValue) (saved : Json) : Prop :=
  ∀ path entries items, v.path? path = some (.group entries) →
    saved.path? path ≠ some (.array items)

theorem overlay_group (saved : Json) (entries : List (String × ContextValue)) :
    (group entries).overlay saved = group (entries.map fun e => (e.1, match saved.get? e.1 with
      | some below => e.2.overlay below
      | none => e.2)) := by
  cases saved with
  | object members => rw [overlay, overlayEntries_eq]; rfl
  | _ => simp [overlay, Json.get?]

theorem overlayOwn_eq_overlay {v : ContextValue} {depth : Nat} (h : v.schema.Keyed depth)
    {saved : Json} (hsaved : v.NoArrayFor saved) :
    v.overlayOwn (some saved) = v.overlay saved := by
  induction v generalizing depth saved with
  | leaf l => rw [overlayOwn_value, overlay_value]
  | group entries ih =>
    obtain ⟨depth, rfl⟩ := h.exists_succ
    obtain ⟨hnodup, hbelow⟩ := keyed_group.mp h
    have hnone : ∀ items, saved ≠ .array items := fun items he =>
      hsaved [] entries items rfl (congrArg some he)
    rw [overlayOwn_group, overlay_group]
    congr 1
    refine List.map_congr_left fun e he => congrArg (e.1, ·) ?_
    rw [Option.bind_some, Json.own?_eq_get? hnone]
    cases hget : saved.get? e.1 with
    | none => exact overlayOwn_none _
    | some below =>
      refine ih e he (hbelow e he) fun path entries' items hpath => ?_
      have hentry : (group entries).get? e.1 = some e.2 :=
        (get?_eq_some_iff (v := group entries) hnodup).mpr he
      have hstep := hsaved (e.1 :: path) entries' items (by rw [path?, hentry]; exact hpath)
      rwa [Json.path?, hget] at hstep

theorem noArrayFor_reread {v w : ContextValue} {depth : Nat} (h : w.schema.Keyed depth)
    (hschema : v.schema = w.schema) : v.NoArrayFor w.toJson.reread := by
  intro path entries items hpath hsaved
  have hgroup : w.schema.path? path = some (group entries).schema := by
    rw [← hschema, path?_schema, hpath, Option.map_some]
  obtain ⟨entries', hpath', -⟩ := exists_group_of_schema ((schema_group entries) ▸ hgroup)
  rw [path?_reread h, hpath', Option.map_some, reread_group] at hsaved
  cases hsaved

end ContextValue

/-- The overlay as the host has it, line by line. -/
def Script.overlayLines (typing : String) : List String := [
  "function applySaved(target" ++ typing ++ ", saved" ++ typing ++ ") \x7b",
  "  if (!saved || typeof saved !== 'object') return",
  "  for (const key of Object.keys(target)) \x7b",
  "    if (!(key in saved)) continue",
  "    const current = target[key]",
  "    const value = saved[key]",
  "    if (Array.isArray(current)) \x7b",
  "      if (Array.isArray(value) && value.length === current.length && " ++
    "value.every((v) => typeof v === 'number')) \x7b",
  "        target[key] = value",
  "      \x7d else if (typeof value === 'number') \x7b",
  "        target[key] = current.map(() => value)",
  "      \x7d",
  "    \x7d else if (current !== null && typeof current === 'object') \x7b",
  "      applySaved(current, value)",
  "    \x7d else if (typeof value === typeof current) \x7b",
  "      target[key] = value",
  "    \x7d",
  "  \x7d",
  "\x7d"]

theorem Script.text_overlay (typed : Bool) :
    overlay.text (if typed then ": any" else "") =
      Text.unlines (overlayLines (if typed then ": any" else "")) := by
  cases typed <;> decide +kernel

theorem Host.text_eq_around_overlay (h : Host) : ∃ before after, h.text =
    before ++ Script.overlay.text (if h.typed then ": any" else "") ++ after := by
  refine ⟨"const " ++ storageName ++ " = " ++ Text.quote h.storageKey ++ "\n\n",
    "\n" ++ loadText h.typed ++ saveText h.typed ++ h.appText, ?_⟩
  simp only [text, String.append_assoc]

namespace Plan

variable {scene : Scene} {options : Options} {restored : Option Json} {tree : SceneTree}

theorem exists_entries_defaults :
    ∃ entries, (Plan.of scene options restored tree).controls.defaults = .group entries := by
  have hschema := schema_defaults_of scene options restored tree
  rw [Setting.exactDefaults, ContextValue.schema_group] at hschema
  obtain ⟨entries, he, -⟩ := ContextValue.schema_eq_group hschema
  exact ⟨entries, he⟩

theorem exists_objects (saved : Json) : ∃ heap x y records,
    Script.Holds heap (Plan.of scene options restored tree).controls.defaults x records ∧
      Script.Spells heap records y saved := by
  obtain ⟨heap₁, x, records, -, hholds, hnew⟩ :=
    Script.Holds.exists_allocated (keyed_defaults scene options restored tree) []
  obtain ⟨heap₂, y, hle, hspells⟩ :=
    Script.Spells.exists_allocated saved heap₁ fun a ha => (hnew a ha).2
  exact ⟨heap₂, x, y, records,
    hholds.changes (.of_allocated hle) fun _ _ => Set.notMem_empty _, hspells⟩

theorem call_overlay {heap : Script.Heap} {x y : Script.Value} {records : Set Script.Address}
    {saved : Json}
    (hholds : Script.Holds heap (Plan.of scene options restored tree).controls.defaults x records)
    (hspells : Script.Spells heap records y saved) :
    ∃ heap', Script.call [Script.overlay] "applySaved" [x, y] heap = some ((), heap') ∧
      Script.Heap.Changes records heap heap' ∧
      Script.Holds heap' ((Plan.of scene options restored tree).controls.defaults.overlayOwn
        (some saved)) x records := by
  obtain ⟨entries, hentries⟩ := @exists_entries_defaults scene options restored tree
  rw [hentries] at hholds ⊢
  obtain ⟨heap', hrun, hchanges, hresult⟩ :=
    Script.run_overlay (fun e _ => Script.overlays e.2) hholds subset_rfl hspells []
  exact ⟨heap', Script.call_eq hrun, hchanges, hresult⟩

theorem host_text_mem_blocks (p : Plan) : p.host.text ∈ p.blocks := by
  simp [blocks]

end Plan

/-- The overlay that a unit's host brings along has a result whatever is saved, on every object for
the context and with every object for the saved value that shares no record with it. It gives each
leaf what is read at its path, and writes to the records of the context only. If no array is saved
in place of a group, it leaves an object for the context with the saved value over it. -/
theorem host_overlays {scene : Scene} {options : Options} {restored : Option Json} {p : Plan}
    (h : plan scene options restored = .ok p) (saved : Json) :
    (p.host.text ∈ p.blocks ∧ (∃ before after, p.host.text =
      before ++ Script.overlay.text (if p.options.types then ": any" else "") ++ after) ∧
      Script.overlay.text (if p.options.types then ": any" else "") =
        Text.unlines (Script.overlayLines (if p.options.types then ": any" else ""))) ∧
    (∃ heap x y records, Script.Holds heap p.controls.defaults x records ∧
      Script.Spells heap records y saved) ∧
    ∀ heap x y records, Script.Holds heap p.controls.defaults x records →
      Script.Spells heap records y saved →
      ∃ heap', Script.call [Script.overlay] "applySaved" [x, y] heap = some ((), heap') ∧
        Script.Heap.Changes records heap heap' ∧
        Script.Holds heap' (p.controls.defaults.overlayOwn (some saved)) x records ∧
        (p.controls.defaults.NoArrayFor saved →
          Script.Holds heap' (p.controls.defaults.overlay saved) x records) := by
  obtain ⟨tree, -, rfl⟩ := plan_eq_ok.mp h
  refine ⟨⟨Plan.host_text_mem_blocks _, Host.text_eq_around_overlay _, Script.text_overlay _⟩,
    Plan.exists_objects saved, fun heap x y records hholds hspells => ?_⟩
  obtain ⟨heap', hcall, hchanges, hresult⟩ := Plan.call_overlay hholds hspells
  refine ⟨heap', hcall, hchanges, hresult, fun hsaved => ?_⟩
  rwa [← ContextValue.overlayOwn_eq_overlay
    (Plan.keyed_defaults scene options restored tree) hsaved]

theorem turned_overlays : ∃ p q, plan Scene.turned {} none = .ok p ∧
    plan Scene.turned {} (some .stale) = .ok q ∧ ∃ heap x y records heap',
      Script.Holds heap p.controls.defaults x records ∧
      Script.Spells heap records y q.controls.defaults.toJson.reread ∧
      Script.call [Script.overlay] "applySaved" [x, y] heap = some ((), heap') ∧
      Script.Holds heap' (p.controls.defaults.overlay q.controls.defaults.toJson.reread) x
        records := by
  obtain ⟨tree, htree⟩ := Scene.turned_validate
  have hp (saved : Option Json) :
      plan Scene.turned {} saved = .ok (.of Scene.turned {} saved tree) :=
    plan_eq_ok.mpr ⟨tree, htree, rfl⟩
  obtain ⟨-, ⟨heap, x, y, records, hholds, hspells⟩, hruns⟩ := host_overlays (hp none)
    (Plan.of Scene.turned {} (some .stale) tree).controls.defaults.toJson.reread
  obtain ⟨heap', hcall, -, -, hresult⟩ := hruns heap x y records hholds hspells
  have hschema : (Plan.of Scene.turned {} none tree).controls.defaults.schema =
      (Plan.of Scene.turned {} (some .stale) tree).controls.defaults.schema := by
    rw [Plan.schema_defaults_of, Plan.schema_defaults_of]
  exact ⟨_, _, hp none, hp (some .stale), heap, x, y, records, heap', hholds, hspells, hcall,
    hresult (ContextValue.noArrayFor_reread (Plan.keyed_defaults ..) hschema)⟩

def Scene.cube : Scene where
  nodes := #[
    { type := "Scene", children := [1] },
    { type := "Mesh", name := "Cube", geometry := some 0, material := some 0 }]
  materials := #[{ name := "Steel" }]
  geometries := #[{ key := "cube" }]

theorem Scene.cube_validate : ∃ tree, Scene.cube.validate = .ok tree :=
  exists_tree_of_isOk (by decide +kernel)

def Json.listed : Json :=
  .object [("materials", .array [.object [("metalness", .real 0.5)]])]

theorem cube_metalness {tree : SceneTree} (h : Scene.cube.validate = .ok tree) :
    (Plan.of Scene.cube {} none tree).controls.defaults.path? ["materials", "0", "metalness"] =
      some (.number ((Options.canonical {}).round 0)) := by
  have hf := Scene.tree_finds (Scene.validate_eq_ok.mp h).1
  have hroot : Scene.cube.Reaches 0 := .root
  obtain ⟨v, hv, hplaced⟩ := hf.exists_visit
    (Scene.mem_reachable.mpr ⟨by decide, hroot.child (by decide +kernel)⟩)
    (show Scene.cube.nodes[1]? = some _ from rfl)
  obtain ⟨u, hu, -⟩ := @Survey.exists_use Scene.cube {} v hv (by rw [Visit.node, hplaced]; decide)
    { name := "Steel" } (by rw [Visit.node, hplaced]; rfl)
  obtain ⟨first, rest, hfirst⟩ := List.exists_cons_of_ne_nil (List.ne_nil_of_mem hu)
  have hmem : first ∈ (Survey.of Scene.cube {}).materials := hfirst ▸ List.mem_cons_self
  obtain ⟨-, -, -, hmaterial⟩ := Survey.firstUser_of_mem_materials hmem
  have hsteel : ∀ m ∈ Scene.cube.materials, m = { name := "Steel" } := by simp [Scene.cube]
  have hzip : (first, 0) ∈ (Setting.of Scene.cube {}).survey.materials.zipIdx := by
    change (first, 0) ∈ (Survey.of Scene.cube {}).materials.zipIdx
    rw [hfirst]
    exact List.mem_cons_self
  have hpath := (Setting.of Scene.cube {}).path?_material tree.node
    (.of (.of Scene.cube {}) tree) hzip
  rw [hsteel _ (Array.mem_of_getElem? hmaterial)] at hpath
  rw [Plan.defaults_of_none, ContextValue.path?_round,
    show ["materials", "0", "metalness"] = Setting.materialPath 0 ++ ["metalness"] from rfl,
    ContextValue.path?_append, hpath]
  rfl

/-- The script takes the metalness from the array, the overlay of contexts does not. -/
theorem cube_overlays_differ : ∃ p, plan Scene.cube {} none = .ok p ∧
    ∃ heap x y records heap', Script.Holds heap p.controls.defaults x records ∧
      Script.Spells heap records y .listed ∧
      Script.call [Script.overlay] "applySaved" [x, y] heap = some ((), heap') ∧
      ¬ ∃ records', Script.Holds heap' (p.controls.defaults.overlay .listed) x records' := by
  obtain ⟨tree, htree⟩ := Scene.cube_validate
  obtain ⟨heap, x, y, records, hholds, hspells⟩ :=
    @Plan.exists_objects Scene.cube {} none tree .listed
  obtain ⟨heap', hcall, -, hresult⟩ := Plan.call_overlay hholds hspells
  refine ⟨_, plan_eq_ok.mpr ⟨tree, htree, rfl⟩, heap, x, y, records, heap', hholds, hspells, hcall,
    fun ⟨records', hother⟩ => ?_⟩
  have hsame := hresult.unique hother
    (by rw [ContextValue.schema_overlayOwn, ContextValue.schema_overlay])
  have hpath := congrArg (·.path? ["materials", "0", "metalness"]) hsame
  simp only [ContextValue.overlayOwn, ContextValue.overlay_eq_mapLeaves,
    ContextValue.path?_mapLeaves, cube_metalness htree, Option.map_some] at hpath
  have hnumber : (0.5 : Float) = (Options.canonical {}).round 0 :=
    ContextValue.number.inj (Option.some.inj hpath)
  exact absurd hnumber (by decide +kernel)

end SceneMarkup
