import Mathlib.Data.List.Flatten
import Mathlib.Logic.Function.Iterate
import SceneMarkup.Proofs.Defaults
import SceneMarkup.Proofs.Elision
import SceneMarkup.Proofs.IndexedWalk

namespace SceneMarkup

open SceneTree

structure Ticker where
  stage : Stage
  interval : Nat
  total : Nat
  done : Nat
  sent : List Report

namespace Ticker

def start (stage : Stage) (interval total : Nat) : Ticker := ⟨stage, max interval 1, total, 0, []⟩

def tick (k : Ticker) : Ticker :=
  let done := k.done + 1
  let isDue := done % k.interval == 0 || done == k.total
  { k with done, sent := k.sent ++ if isDue then [⟨k.stage, done, k.total⟩] else [] }

end Ticker

namespace Stage

/-- What a stage of so many steps reports when it is told a total: the steps done, one after the
other, where they are a multiple of the interval or reach the total. -/
structure Sends (stage : Stage) (interval total steps : Nat) (rs : List Report) : Prop where
  same : ∀ r ∈ rs, r.stage = stage ∧ r.total = total
  increasing : (rs.map (·.done)).Pairwise (· < ·)
  mem_done : ∀ d, d ∈ rs.map (·.done) ↔
    1 ≤ d ∧ d ≤ steps ∧ (max interval 1 ∣ d ∨ d = total)

variable {stage : Stage} {interval total steps : Nat}

theorem reports_succ : stage.reports interval total (steps + 1) =
    stage.reports interval total steps ++
      if (steps + 1) % max interval 1 == 0 || steps + 1 == total then [⟨stage, steps + 1, total⟩]
      else [] := by
  rw [reports, List.range'_1_concat, List.filter_append, List.map_append, Nat.add_comm 1 steps]
  congr 1
  split
  case isTrue h => simp [h]
  case isFalse h => simp [h]

theorem iterate_tick_start : Ticker.tick^[steps] (.start stage interval total) =
    ⟨stage, max interval 1, total, steps, stage.reports interval total steps⟩ := by
  induction steps with
  | zero => rfl
  | succ n ih =>
    rw [Function.iterate_succ_apply', ih, reports_succ]
    rfl

theorem map_done_reports : (stage.reports interval total steps).map (·.done) =
    (List.range' 1 steps).filter fun d => d % max interval 1 == 0 || d == total := by
  rw [reports, List.map_map]
  exact List.map_id _

theorem sends_reports : stage.Sends interval total steps (stage.reports interval total steps) where
  same := by
    intro r hr
    obtain ⟨d, -, rfl⟩ := List.mem_map.mp hr
    exact ⟨rfl, rfl⟩
  increasing := by
    rw [map_done_reports]
    exact (List.pairwise_lt_range').filter _
  mem_done := by
    intro d
    rw [map_done_reports, List.mem_filter, List.mem_range'_1, Nat.dvd_iff_mod_eq_zero]
    simp only [Bool.or_eq_true, beq_iff_eq]
    omega

theorem getLast?_reports (h : 1 ≤ total) (hle : steps ≤ total) :
    (stage.reports interval total steps).getLast? = some ⟨stage, total, total⟩ ↔ steps = total := by
  constructor
  · intro hlast
    have hmem := List.mem_map_of_mem (f := Report.done) (List.mem_of_getLast? hlast)
    have hdone := (sends_reports.mem_done total).mp hmem
    omega
  · rintro rfl
    obtain ⟨n, rfl⟩ := Nat.exists_eq_add_of_le' h
    simp [reports_succ]

end Stage

namespace Scene

/-- The ticks of a node and of what is below it, as the writing goes down from child to child. It
comes to nothing below a bone. There is no result if it never ends. -/
def tickBelow? (scene : Scene) (k : Ticker) (id : NodeId) : Option Ticker := do
  let node ← scene.nodes[id]?
  if node.isBone then return k.tick
  else node.children.foldlM (fun k child => scene |>.tickBelow? k child) k.tick
partial_fixpoint

def tickMarkup? (scene : Scene) (k : Ticker) : Option Ticker := do
  let root ← scene.rootNode?
  if root.nodeClass == .container then root.children.foldlM scene.tickBelow? k.tick
  else scene.tickBelow? k scene.root

def tickWalk (order : List NodeId) (k : Ticker) : Ticker := order.foldl (fun k _ => k.tick) k

def sent? (scene : Scene) (interval : Nat) : Option (List Report × List Report) := do
  let w ← scene.walk?
  let walked := tickWalk w.order (.start .walk interval w.order.length)
  let written ← scene.tickMarkup? (.start .emit interval w.order.length)
  return (walked.sent, written.sent)

inductive Enters (scene : Scene) : NodeId → Prop
  | root : Enters scene scene.root
  | child {id node child} : Enters scene id → scene.nodes[id]? = some node → ¬ node.isBone →
    child ∈ node.children → Enters scene child

open Classical in
noncomputable def entered (scene : Scene) : Finset NodeId :=
  {id ∈ scene.reachable | scene.Enters id}

def BonesAreLeaves (scene : Scene) : Prop :=
  ∀ id ∈ scene.reachable, ∀ node, scene.nodes[id]? = some node → node.isBone → node.children = []

variable {scene : Scene}

theorem mem_entered {id : NodeId} :
    id ∈ scene.entered ↔ id ∈ scene.reachable ∧ scene.Enters id := by
  simp [entered]

theorem mem_childrenOf {id child : NodeId} {node : Node} (hn : scene.nodes[id]? = some node) :
    child ∈ scene.childrenOf id ↔ child ∈ node.children := by
  simp [childrenOf, hn]

theorem Enters.reaches {id : NodeId} (h : scene.Enters id) : scene.Reaches id := by
  induction h with
  | root => exact .root
  | child _ hn _ hc ih => exact ih.child ((mem_childrenOf hn).mpr hc)

end Scene

namespace SceneTree

mutual

def entered : SceneTree → List Placed
  | branch p ts => p :: if p.node.isBone then [] else enteredAll ts

def enteredAll : List SceneTree → List Placed
  | [] => []
  | t :: rest => entered t ++ enteredAll rest

end

theorem enteredAll_eq (ts : List SceneTree) : enteredAll ts = ts.flatMap entered := by
  induction ts with
  | nil => rfl
  | cons t rest ih => simp [enteredAll, ih]

@[simp] theorem entered_branch (p : Placed) (ts : List SceneTree) :
    (branch p ts).entered = p :: if p.node.isBone then [] else ts.flatMap entered := by
  rw [entered, enteredAll_eq]

theorem entered_sublist (t : SceneTree) : t.entered.Sublist t.preorder := by
  induction t with
  | branch p ts ih =>
    rw [entered_branch, preorder_branch]
    apply List.Sublist.cons_cons
    split
    · exact List.nil_sublist _
    · exact List.Sublist.flatMap_right ts ih

variable {scene : Scene} {t : SceneTree}

theorem mem_entered_self (t : SceneTree) : t.placed ∈ t.entered := by
  cases t
  simp [placed]

theorem enters_of_mem_entered (h : t.Unfolds scene) (ht : scene.Enters t.id) {p : Placed}
    (hp : p ∈ t.entered) : scene.Enters p.id := by
  induction t with
  | branch q ts ih =>
    rw [entered_branch, List.mem_cons] at hp
    rcases hp with rfl | hp
    · exact ht
    · split at hp
      · contradiction
      · next hb =>
        obtain ⟨t, hm, hp⟩ := List.mem_flatMap.mp hp
        cases h with
        | branch hn hc hts =>
          exact ih t hm (hts t hm) (ht.child hn hb (hc ▸ List.mem_map_of_mem hm)) hp

theorem entered_child (h : t.Unfolds scene) {p : Placed} (hp : p ∈ t.entered)
    (hb : ¬ p.node.isBone) {child : NodeId} (hc : child ∈ p.node.children) :
    child ∈ t.entered.map (·.id) := by
  induction t with
  | branch q ts ih =>
    have hlater : ∀ t ∈ ts, ¬ q.node.isBone → child ∈ t.entered.map (·.id) →
        child ∈ (branch q ts).entered.map (·.id) := by
      intro t ht hq hchild
      rw [entered_branch, if_neg hq, List.map_cons, List.map_flatMap]
      exact List.mem_cons_of_mem _ (List.mem_flatMap.mpr ⟨t, ht, hchild⟩)
    cases h with
    | branch _ hcs hts =>
      rw [entered_branch, List.mem_cons] at hp
      rcases hp with rfl | hp
      · rw [← hcs] at hc
        obtain ⟨t, ht, rfl⟩ := List.mem_map.mp hc
        exact hlater t ht hb (List.mem_map_of_mem t.mem_entered_self)
      · split at hp
        · contradiction
        · next hq =>
          obtain ⟨t, ht, hp⟩ := List.mem_flatMap.mp hp
          exact hlater t ht hq (ih t ht (hts t ht) hp)

theorem steps_eq (t : SceneTree) : Setting.steps t = t.entered.length := by
  induction t with
  | branch p ts ih =>
    have hbelow : Setting.stepsAll ts = (ts.flatMap entered).length := by
      clear * - ih
      induction ts with
      | nil => rfl
      | cons t rest ihr =>
        rw [List.forall_mem_cons] at ih
        rw [Setting.stepsAll, ih.1, ihr ih.2, List.flatMap_cons, List.length_append]
    rw [Setting.steps, entered_branch, hbelow]
    split <;> rfl

end SceneTree

namespace Search.Finds

variable {scene : Scene} {t : SceneTree}

theorem entered_eq (h : Finds scene t) : scene.entered = (t.entered.map (·.id)).toFinset := by
  ext id
  rw [Scene.mem_entered, List.mem_toFinset]
  constructor
  · rintro ⟨-, he⟩
    induction he with
    | root => exact h.root ▸ List.mem_map_of_mem t.mem_entered_self
    | child _ hn hb hc ih =>
      obtain ⟨p, hp, rfl⟩ := List.mem_map.mp ih
      have hread := h.unfolds.node_of_mem (t.entered_sublist.subset hp)
      cases hread.symm.trans hn
      exact SceneTree.entered_child h.unfolds hp hb hc
  · intro hid
    obtain ⟨p, hp, rfl⟩ := List.mem_map.mp hid
    rw [h.reachable_eq, List.mem_toFinset]
    exact ⟨List.mem_map_of_mem (t.entered_sublist.subset hp),
      SceneTree.enters_of_mem_entered h.unfolds (h.root ▸ .root) hp⟩

theorem card_entered (h : Finds scene t) : scene.entered.card = t.entered.length := by
  have hnodup : (t.entered.map (·.id)).Nodup := (t.entered_sublist.map _).nodup h.nodup
  rw [h.entered_eq, List.toFinset_card_of_nodup hnodup, List.length_map]

theorem card_reachable (h : Finds scene t) : scene.reachable.card = t.preorder.length := by
  rw [h.reachable_eq, List.toFinset_card_of_nodup h.nodup, SceneTree.ids, List.length_map]

theorem entered_eq_reachable_iff (h : Finds scene t) :
    scene.entered = scene.reachable ↔ scene.BonesAreLeaves := by
  have hreachable : ∀ {id}, id ∈ scene.reachable ↔ id ∈ t.ids := by simp [h.reachable_eq]
  have hreaches : ∀ {id}, id ∈ t.ids ↔ scene.Reaches id := h.unfolds.mem_ids_iff h.root
  constructor
  · intro hsame id hid node hn hb
    by_contra hne
    obtain ⟨child, hc⟩ := List.exists_mem_of_ne_nil _ hne
    have hchild := (Scene.mem_childrenOf hn).mpr hc
    have hid := hreachable.mp hid
    have hentered : child ∈ scene.entered := by
      rw [hsame, hreachable, hreaches]
      exact (hreaches.mp hid).child hchild
    cases (Scene.mem_entered.mp hentered).2 with
    | root => exact h.wellFormedTree.root_unlisted id (hreachable.mpr hid) hchild
    | child he hn' hb' hc' =>
      cases h.parent_unique hid (hreaches.mpr he.reaches) hchild ((Scene.mem_childrenOf hn').mpr hc')
      cases hn.symm.trans hn'
      exact hb' hb
  · intro hbones
    refine Finset.Subset.antisymm (fun id hid => (Scene.mem_entered.mp hid).1) fun id hid => ?_
    refine Scene.mem_entered.mpr ⟨hid, ?_⟩
    have hr := hreaches.mp (hreachable.mp hid)
    clear hid
    induction hr with
    | root => exact .root
    | child hr hc ih =>
      have hid := hreaches.mpr hr
      obtain ⟨p, hp, rfl⟩ := List.mem_map.mp hid
      have hn := h.unfolds.node_of_mem hp
      rw [Scene.mem_childrenOf hn] at hc
      refine ih.child hn (fun hb => ?_) hc
      rw [hbones p.id (hreachable.mpr hid) p.node hn hb] at hc
      contradiction

end Search.Finds

namespace Scene

variable {scene : Scene} {tree : SceneTree} {t : SceneTree}

theorem foldlM_tickBelow? {ts : List SceneTree} (k : Ticker)
    (h : ∀ t ∈ ts, ∀ k, scene.tickBelow? k t.id = some (Ticker.tick^[Setting.steps t] k)) :
    (ts.map SceneTree.id).foldlM scene.tickBelow? k =
      some (Ticker.tick^[Setting.stepsAll ts] k) := by
  induction ts generalizing k with
  | nil => rfl
  | cons t rest ih =>
    rw [List.forall_mem_cons] at h
    rw [List.map_cons, List.foldlM_cons, h.1, Setting.stepsAll, Nat.add_comm,
      Function.iterate_add_apply]
    exact ih _ h.2

theorem tickBelow?_eq (h : t.Unfolds scene) (k : Ticker) :
    scene.tickBelow? k t.id = some (Ticker.tick^[Setting.steps t] k) := by
  induction t generalizing k with
  | branch p ts ih =>
    cases h with
    | branch hn hc hts =>
      have hbelow := foldlM_tickBelow? k.tick fun t ht => ih t ht (hts t ht)
      rw [hc] at hbelow
      rw [SceneTree.id_branch, tickBelow?, hn, Setting.steps]
      simp only [Option.bind_eq_bind, Option.bind_some, hbelow]
      cases p.node.isBone <;> rfl

theorem tickMarkup?_eq (h : Search.Finds scene tree) (k : Ticker) :
    scene.tickMarkup? k = some (Ticker.tick^[Setting.steps tree] k) := by
  rw [tickMarkup?, SceneTree.rootNode?_eq h, ← h.root, tickBelow?_eq h.unfolds]
  simp only [Option.bind_eq_bind, Option.bind_some]
  split
  case isTrue hclass =>
    cases h.unfolds with
    | @branch ts p hn hc hts =>
      have hbone : p.node.isBone = false := Node.isBone_eq_false (beq_iff_eq.mp hclass)
      have hbelow := foldlM_tickBelow? k.tick fun t ht => tickBelow?_eq (hts t ht)
      rw [hc] at hbelow
      rw [Setting.steps, hbone]
      exact hbelow
  case isFalse => rfl

theorem sent?_eq (h : Search.Finds scene tree) (interval : Nat) :
    scene.sent? interval = some
      (Stage.walk.reports interval scene.reachable.card scene.reachable.card,
        Stage.emit.reports interval scene.reachable.card scene.entered.card) := by
  rw [sent?, h.walk?_eq]
  have hlength : (Walk.through scene tree).order.length = scene.reachable.card := by
    rw [h.card_reachable, Walk.order_through, List.length_map]
  simp only [Option.bind_eq_bind, Option.bind_some, hlength, tickMarkup?_eq h, tickWalk,
    List.foldl_const, Stage.iterate_tick_start, SceneTree.steps_eq, ← h.card_entered]
  rfl

end Scene

section

variable {scene : Scene} {tree : SceneTree}

theorem Composition.steps_of (s : Setting) (tree : SceneTree) :
    (Composition.of s tree).steps = Setting.steps tree := by
  rw [Composition.of]
  split
  case isTrue hclass =>
    cases tree with
    | branch p ts =>
      have hbone : p.node.isBone = false := Node.isBone_eq_false (beq_iff_eq.mp hclass)
      rw [Setting.steps, hbone]
      rfl
  case isFalse => rfl

theorem Plan.reports_of (h : Search.Finds scene tree) (options : Options) (saved : Option Json) :
    (Plan.of scene options saved tree).reports =
      Stage.walk.reports options.progressInterval scene.reachable.card scene.reachable.card ++
        Stage.emit.reports options.progressInterval scene.reachable.card scene.entered.card := by
  have hvisits : scene.visits.length = scene.reachable.card := by
    rw [h.card_reachable, ← h.map_placed_visits, List.length_map]
  have hsteps : (Composition.of (.of scene options) tree).steps = scene.entered.card := by
    rw [Composition.steps_of, SceneTree.steps_eq, h.card_entered]
  show Stage.walk.reports _ scene.visits.length scene.visits.length ++
    Stage.emit.reports _ scene.visits.length (Composition.of (.of scene options) tree).steps = _
  rw [hvisits, hsteps]
  rfl

end

/-- A unit has the reports of the walk and then those of the writing, as the tickers of both stages
send them. Both tell the number of nodes that can be reached as their total. The walk reports every
multiple of the interval up to the total and last of all the total; the writing does not come below
bones, and reports the total only if no bone has children. -/
theorem generate_reports {scene : Scene} {options : Options} {saved : Option Json}
    {unit : SourceUnit} (h : generate scene options saved = .ok unit) :
    ∃ walked written, scene.sent? options.progressInterval = some (walked, written) ∧
      unit.reports = walked ++ written ∧
      Stage.walk.Sends options.progressInterval scene.reachable.card scene.reachable.card walked ∧
      walked.getLast? = some ⟨.walk, scene.reachable.card, scene.reachable.card⟩ ∧
      Stage.emit.Sends options.progressInterval scene.reachable.card scene.entered.card written ∧
      (scene.entered = scene.reachable ↔ scene.BonesAreLeaves) ∧
      (written.getLast? = some ⟨.emit, scene.reachable.card, scene.reachable.card⟩ ↔
        scene.BonesAreLeaves) := by
  obtain ⟨tree, htree, rfl⟩ := generate_eq_ok.mp h
  have hf := Scene.tree_finds (Scene.validate_eq_ok.mp htree).1
  have hsub : scene.entered ⊆ scene.reachable := fun id hid => (Scene.mem_entered.mp hid).1
  have hpos : 1 ≤ scene.reachable.card := by
    rw [hf.card_reachable]
    cases tree
    simp
  have hlast : scene.entered.card = scene.reachable.card ↔ scene.BonesAreLeaves := by
    rw [← hf.entered_eq_reachable_iff]
    exact ⟨fun hc => Finset.eq_of_subset_of_card_le hsub hc.ge, fun he => he ▸ rfl⟩
  refine ⟨_, _, Scene.sent?_eq hf _, Plan.reports_of hf options saved, Stage.sends_reports,
    (Stage.getLast?_reports hpos le_rfl).mpr rfl, Stage.sends_reports,
    hf.entered_eq_reachable_iff, ?_⟩
  rw [Stage.getLast?_reports hpos (Finset.card_le_card hsub), hlast]

theorem sample_reports : ∃ unit walked written,
    generate Scene.sample { progressInterval := 2 } none = .ok unit ∧
      unit.reports = walked ++ written ∧
      walked.getLast? = some ⟨.walk, Scene.sample.reachable.card, Scene.sample.reachable.card⟩ ∧
      written.getLast? ≠ some ⟨.emit, Scene.sample.reachable.card, Scene.sample.reachable.card⟩ := by
  obtain ⟨tree, htree⟩ := Scene.sample_validate
  have hf := Scene.tree_finds (Scene.validate_eq_ok.mp htree).1
  have hunit : generate Scene.sample { progressInterval := 2 } none =
      .ok (Plan.of Scene.sample { progressInterval := 2 } none tree).unit :=
    generate_eq_ok.mpr ⟨tree, htree, rfl⟩
  obtain ⟨walked, written, -, hreports, -, hwalked, -, -, hwritten⟩ := generate_reports hunit
  have hhip : 2 ∈ Scene.sample.reachable :=
    Scene.mem_reachable.mpr ⟨by decide, .child .root (by decide)⟩
  refine ⟨_, walked, written, hunit, hreports, hwalked, fun hlast => ?_⟩
  have hleaf := hwritten.mp hlast 2 hhip { type := "Bone", name := "Hip", children := [4] } rfl
    (by decide)
  contradiction

def Scene.rigged : Scene where
  nodes := #[
    { type := "Scene", children := [1] },
    { type := "Bone", name := "Hip", children := [2] },
    { type := "Bone", name := "Spine" }]

theorem Scene.rigged_validate : ∃ tree, Scene.rigged.validate = .ok tree :=
  exists_tree_of_isOk (by decide +kernel)

/-- The writing of the three nodes ends after two of them, and says so. -/
theorem rigged_reports : ∃ unit, generate Scene.rigged {} none = .ok unit ∧
    Scene.rigged.reachable.card = 3 ∧
    unit.reports = [⟨.walk, 1, 3⟩, ⟨.walk, 2, 3⟩, ⟨.walk, 3, 3⟩, ⟨.emit, 1, 3⟩, ⟨.emit, 2, 3⟩] := by
  obtain ⟨tree, htree⟩ := Scene.rigged_validate
  have hf := Scene.tree_finds (Scene.validate_eq_ok.mp htree).1
  have hcards : Scene.rigged.validate.toOption.map
      (fun tree => (tree.preorder.length, tree.entered.length)) = some (3, 2) := by
    decide +kernel
  rw [htree] at hcards
  obtain ⟨hreachable, hentered⟩ := Prod.mk.inj (Option.some.inj hcards)
  rw [← hf.card_reachable] at hreachable
  rw [← hf.card_entered] at hentered
  refine ⟨_, generate_eq_ok.mpr ⟨tree, htree, rfl⟩, hreachable, ?_⟩
  show (Plan.of Scene.rigged {} none tree).reports = _
  rw [Plan.reports_of hf, hreachable, hentered]
  decide

end SceneMarkup
