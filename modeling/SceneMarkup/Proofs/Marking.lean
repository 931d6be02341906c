import Mathlib.Algebra.BigOperators.Group.List.Basic
import Mathlib.Algebra.GroupWithZero.Nat
import Mathlib.Logic.Function.Basic
import SceneMarkup.Proofs.Defects

/-!
The search for the tree of a scene with marks on its nodes. The marks stand in a table beside the
nodes, the path is a stack of nodes with the place of the next child of each, and no read or write
of a table is guarded but where the loop asks whether a child exists. Round by round it does what
the search does, so that on every scene with a root it ends within its tables.
-/

namespace SceneMarkup

open scoped List

inductive Mark
  | unseen
  | onPath
  | done
  deriving DecidableEq

structure Marking where
  marks : Array Mark
  parents : List (NodeId × NodeId)
  stack : List (NodeId × Nat)

namespace Marking

def set? (m : Marking) (id : NodeId) (mark : Mark) : Option Marking :=
  if id < m.marks.size then some { m with marks := m.marks.setIfInBounds id mark } else none

inductive Step
  | next (m : Marking)
  | ended
  | refused (e : SceneError)

def step? (scene : Scene) (m : Marking) : Option Step :=
  match m.stack with
  | [] => some .ended
  | (id, place) :: below => do
    let node ← scene.nodes[id]?
    if node.children.length ≤ place then
      return .next { ← m.set? id .done with stack := below }
    else
      let child ← node.children[place]?
      if scene.nodes.size ≤ child then
        return .refused (.danglingChild id child)
      else
        match ← m.marks[child]? with
        | .onPath => return .refused (.cycle child)
        | .done =>
          return .refused (.sharedChild child ((m.parents.lookup child).getD scene.root) id)
        | .unseen =>
          return .next { ← m.set? child .onPath with
            parents := (child, id) :: m.parents
            stack := (child, 0) :: (id, place + 1) :: below }

def start? (scene : Scene) : Option Marking :=
  set? ⟨.replicate scene.nodes.size .unseen, [], [(scene.root, 0)]⟩ scene.root .onPath

/-- The verdict, with the number of rounds up to it. There is none if the loop never ends or leaves
its tables. -/
def run? (scene : Scene) (m : Marking) (rounds : Nat) : Option (Except SceneError Unit × Nat) := do
  match ← m.step? scene with
  | .next m => m |>.run? scene (rounds + 1)
  | .ended => return (.ok (), rounds)
  | .refused e => return (.error e, rounds + 1)
partial_fixpoint

def check? (scene : Scene) : Option (Except SceneError Unit × Nat) := do
  run? scene (← start? scene) 0

inductive After (scene : Scene) : Nat → Marking → Prop
  | start {m : Marking} : start? scene = some m → After scene 0 m
  | next {n : Nat} {m m' : Marking} :
    After scene n m → m.step? scene = some (.next m') → After scene (n + 1) m'

def path (m : Marking) : List NodeId := (m.stack.map Prod.fst).reverse

def pushed (scene : Scene) (m : Marking) : List NodeId := m.parents.map Prod.fst ++ [scene.root]

end Marking

structure Scene.RootPath (scene : Scene) (path : List NodeId) : Prop where
  root : ∀ id ∈ path.head?, id = scene.root
  links : path.IsChain scene.Lists
  nodup : path.Nodup

def Scene.entries (scene : Scene) : Nat := (scene.nodes.toList.map (·.children.length)).sum

def Frame.place (f : Frame) : Nat := f.placed.node.children.length - f.pending.length

namespace Frame

variable {scene : Scene} {f : Frame} {above : List NodeId}

theorem Fits.drop_place (h : f.Fits scene above) :
    f.placed.node.children.drop f.place = f.pending := by
  rw [place, h.children, List.length_append, Nat.add_sub_cancel, List.drop_left]

theorem Fits.place_eq (h : f.Fits scene above) :
    f.place = f.finished.length + above.length := by
  simp only [place, h.children, List.length_append, List.length_reverse, List.length_map]
  omega

theorem place_enter (p : Placed) : (Frame.enter p).place = 0 := Nat.sub_self _

theorem IsPath.isChain {frames : List Frame} (h : IsPath scene above frames) :
    (frames.map (·.placed.id)).IsChain fun child parent => scene.Lists parent child := by
  induction frames generalizing above with
  | nil => exact .nil
  | cons f below ih =>
    cases below with
    | nil => exact .singleton _
    | cons parent below =>
      have hlists : scene.Lists parent.placed.id f.placed.id :=
        h.2.1.lists_above List.mem_cons_self
      exact List.isChain_cons_cons.mpr ⟨hlists, ih h.2⟩

theorem IsPath.getLast? {below : List Frame} (h : IsPath scene above (f :: below)) :
    ((f :: below).map (·.placed.id)).getLast? = some scene.root := by
  induction below generalizing f above with
  | nil => simpa [IsPath] using h.2
  | cons parent below ih => simpa using ih h.2

end Frame

namespace Search

variable {scene : Scene} {s s' : Search}

def mark (s : Search) (id : NodeId) : Mark :=
  if id ∈ s.path then .onPath else if id ∈ s.unseen then .unseen else .done

def tableOf (scene : Scene) (mark : NodeId → Mark) : Array Mark :=
  (Array.range scene.nodes.size).map mark

def marking (scene : Scene) (s : Search) : Marking where
  marks := tableOf scene s.mark
  parents := s.parents
  stack := (s.top :: s.below).map fun f => (f.placed.id, f.place)

theorem size_tableOf (mark : NodeId → Mark) : (tableOf scene mark).size = scene.nodes.size := by
  simp [tableOf]

theorem getElem?_tableOf (mark : NodeId → Mark) {id : NodeId} (h : id < scene.nodes.size) :
    (tableOf scene mark)[id]? = some (mark id) := by
  simp [tableOf, h]

theorem setIfInBounds_tableOf (mark : NodeId → Mark) (id : NodeId) (m : Mark) :
    (tableOf scene mark).setIfInBounds id m = tableOf scene (Function.update mark id m) := by
  apply Array.ext
  · simp [tableOf]
  · intro i hi hi'
    rw [Array.getElem_setIfInBounds (by simpa using hi)]
    simp [tableOf, Function.update_apply, @eq_comm _ i id]

theorem mark_leave {parent : Frame} {below : List Frame} (h : s.Sound scene)
    (hb : s.below = parent :: below) (finished : List SceneTree) :
    mark { s with top := { parent with finished }, below } =
      Function.update s.mark s.top.placed.id .done := by
  have hpath := h.nodup_path
  have hseen := h.not_mem_unseen (s.path_subset_entered List.mem_cons_self)
  funext id
  rw [Function.update_apply]
  simp only [path, hb, List.map_cons, List.nodup_cons] at hpath
  simp only [mark, path, hb, List.map_cons, List.mem_cons]
  by_cases hid : id = s.top.placed.id
  -- The node left stands once on the path and is not unseen, so that only `done` remains for it.
  · simp_all
  · simp only [hid, if_false, false_or]

theorem mark_enter (pending : List NodeId) (child : Placed) :
    (s.enter pending child).mark = Function.update s.mark child.id .onPath := by
  funext id
  rw [Function.update_apply]
  simp only [mark, path, Search.enter, Frame.enter, List.map_cons, List.mem_cons]
  by_cases hid : id = child.id
  · simp only [hid, true_or, if_true]
  · simp only [hid, false_or, if_false, List.mem_erase_of_ne hid]

def markingLeft (scene : Scene) (s : Search) : Marking where
  marks := tableOf scene (Function.update s.mark s.top.placed.id .done)
  parents := s.parents
  stack := []

theorem Sound.lt_size {id : NodeId} (h : s.Sound scene) (hid : id ∈ s.entered) :
    id < scene.nodes.size :=
  List.mem_range.mp (h.nodes.subset (List.mem_append_left _ hid))

theorem set?_marking {id : NodeId} (hid : id < scene.nodes.size) (mark : Mark) :
    (s.marking scene).set? id mark =
      some { s.marking scene with marks := tableOf scene (Function.update s.mark id mark) } := by
  have hsize : id < (s.marking scene).marks.size := (size_tableOf s.mark).symm ▸ hid
  rw [Marking.set?, if_pos hsize]
  simp only [marking, setIfInBounds_tableOf]

theorem Sound.step?_of_nil (h : s.Sound scene) (hp : s.top.pending = []) :
    (s.marking scene).step? scene = some (.next { s.marking scene with
      marks := tableOf scene (Function.update s.mark s.top.placed.id .done)
      stack := s.below.map fun f => (f.placed.id, f.place) }) := by
  have hplace : s.top.placed.node.children.length ≤ s.top.place := by simp [Frame.place, hp]
  have htop := h.lt_size (s.path_subset_entered List.mem_cons_self)
  have hset := s.set?_marking htop .done
  simp only [Marking.step?, marking, List.map_cons] at hset ⊢
  simp [h.path.1.node, hplace, hset]

theorem Sound.step?_of_cons {child : NodeId} {pending : List NodeId} (h : s.Sound scene)
    (hp : s.top.pending = child :: pending) :
    (s.marking scene).step? scene = some (
      if scene.nodes.size ≤ child then .refused (.danglingChild s.top.placed.id child)
      else match s.mark child with
        | .onPath => .refused (.cycle child)
        | .done => .refused (.sharedChild child (s.firstParent scene child) s.top.placed.id)
        | .unseen => .next {
            marks := tableOf scene (Function.update s.mark child .onPath)
            parents := (child, s.top.placed.id) :: s.parents
            stack := (child, 0) :: (s.top.placed.id, s.top.place + 1) ::
              s.below.map fun f => (f.placed.id, f.place) }) := by
  have hget : s.top.placed.node.children[s.top.place]? = some child := by
    rw [← List.head?_drop, h.path.1.drop_place, hp, List.head?_cons]
  have hplace := not_le.mpr (List.getElem?_eq_some_iff.mp hget).1
  simp only [Marking.step?, marking, List.map_cons, h.path.1.node, hget, if_neg hplace,
    Option.bind_eq_bind, Option.bind_some]
  by_cases hsize : scene.nodes.size ≤ child
  · rw [if_pos hsize, if_pos hsize]
    rfl
  · have hset := s.set?_marking (not_le.mp hsize) .onPath
    rw [marking, List.map_cons] at hset
    rw [if_neg hsize, if_neg hsize, getElem?_tableOf s.mark (not_le.mp hsize)]
    cases s.mark child with
    | unseen => simp [hset]
    | _ => rfl

theorem Sound.step?_of_next (h : s.Sound scene) (hs : s.step scene = .next s') :
    (s.marking scene).step? scene = some (.next (s'.marking scene)) := by
  rcases step_cases hs with ⟨parent, below, hp, hb, rfl⟩ | ⟨child, pending, hp, hn, hu, rfl⟩
  · rw [h.step?_of_nil hp]
    simp only [marking, mark_leave h hb, hb, List.map_cons]
    rfl
  · have hlt := (Array.getElem?_eq_some_iff.mp hn).1
    have hpath : child.id ∉ s.path := fun hm => h.not_mem_unseen (s.path_subset_entered hm) hu
    have hmark : s.mark child.id = .unseen := by simp [mark, hpath, hu]
    have hplace : Frame.place { s.top with pending } = s.top.place + 1 := by
      rw [(h.path.1.descend hp).place_eq, h.path.1.place_eq]
      rfl
    rw [h.step?_of_cons hp, if_neg (not_le.mpr hlt), hmark, marking, mark_enter]
    simp only [Search.enter, List.map_cons, hplace, Frame.place_enter]
    rfl

theorem Sound.step?_of_found {t : SceneTree} (h : s.Sound scene) (hs : s.step scene = .found t) :
    (s.marking scene).step? scene = some (.next (s.markingLeft scene)) := by
  obtain ⟨hp, hb, -⟩ := step_found hs
  rw [h.step?_of_nil hp, hb]
  rfl

theorem Sound.step?_of_refused {e : SceneError} (h : s.Sound scene)
    (hs : s.step scene = .refused e) : (s.marking scene).step? scene = some (.refused e) := by
  obtain ⟨child, pending, hp, hcases⟩ := step_refused hs
  rw [h.step?_of_cons hp]
  rcases hcases with ⟨hn, rfl⟩ | ⟨hpath, rfl⟩ | ⟨hlt, hpath, hu, rfl⟩
  · rw [if_pos (Array.getElem?_eq_none_iff.mp hn)]
  · have hlt := h.lt_size (s.path_subset_entered hpath)
    simp [not_le.mpr hlt, mark, hpath]
  · simp [not_le.mpr hlt, mark, hpath, hu]

/-- The rounds that are still to come at most: one for each child not looked at and one for each
node not left behind, where those not seen count with all their children. -/
def work (scene : Scene) (s : Search) : Nat :=
  ((s.top :: s.below).map fun f => f.pending.length + 1).sum +
    (s.unseen.map fun id => (scene.childrenOf id).length + 1).sum

theorem work_pos (scene : Scene) (s : Search) : 0 < s.work scene := by
  rw [work, List.map_cons, List.sum_cons]
  omega

theorem work_step (h : s.step scene = .next s') : s'.work scene + 1 = s.work scene := by
  rcases step_cases h with ⟨parent, below, hp, hb, rfl⟩ | ⟨child, pending, hp, hn, hu, rfl⟩
  · simp only [work, hp, hb, List.map_cons, List.sum_cons, List.length_nil]
    omega
  · have hchildren := Scene.childrenOf_eq hn
    have hunseen := List.sum_map_erase (fun id => (scene.childrenOf id).length + 1) hu
    simp only [work, Search.enter, Frame.enter, hp, List.map_cons, List.sum_cons, List.length_cons,
      ← hunseen, hchildren]
    omega

theorem work_start {node : Node} (h : scene.nodes[scene.root]? = some node) :
    (start scene ⟨scene.root, node⟩).work scene = scene.entries + scene.nodes.size := by
  have hroot : scene.root ∈ List.range scene.nodes.size :=
    List.mem_range.mpr (Array.getElem?_eq_some_iff.mp h).1
  have hchildren : scene.childrenOf scene.root = node.children :=
    Scene.childrenOf_eq (p := ⟨scene.root, node⟩) h
  have hentries : scene.nodes.toList.map (·.children.length) =
      (List.range scene.nodes.size).map fun id => (scene.childrenOf id).length := by
    apply List.ext_getElem
    · simp
    · intro i hi hi'
      rw [List.length_map, Array.length_toList] at hi
      simp [Scene.childrenOf, hi]
  calc
    (start scene ⟨scene.root, node⟩).work scene
      = ((List.range scene.nodes.size).map fun id => (scene.childrenOf id).length + 1).sum := by
        rw [← List.sum_map_erase _ hroot, hchildren]
        simp [work, start, Frame.enter]
    _ = scene.entries + scene.nodes.size := by
        rw [Scene.entries, hentries, List.sum_map_add]
        simp

theorem Sound.run?_marking (h : s.Sound scene) (rounds : Nat) : ∃ n ≤ s.work scene,
    (s.marking scene).run? scene rounds = some ((s.run scene).map fun _ => (), rounds + n) := by
  fun_induction Search.run scene s generalizing rounds with
  | case1 s s' hs ih =>
    obtain ⟨n, hn, hrun⟩ := ih (h.step hs) (rounds + 1)
    refine ⟨n + 1, work_step hs ▸ Nat.succ_le_succ hn, ?_⟩
    rw [Marking.run?, h.step?_of_next hs, Nat.add_comm n 1, ← Nat.add_assoc]
    exact hrun
  | case2 s t hs =>
    -- The search is over here. The loop still leaves the root, and then finds its stack empty.
    refine ⟨1, s.work_pos scene, ?_⟩
    rw [Marking.run?, h.step?_of_found hs]
    show (s.markingLeft scene).run? scene (rounds + 1) = _
    rw [Marking.run?]
    rfl
  | case3 s e hs =>
    refine ⟨1, s.work_pos scene, ?_⟩
    rw [Marking.run?, h.step?_of_refused hs]
    rfl

structure Traced (scene : Scene) (s : Search) : Prop where
  sound : s.Sound scene
  pushed : (s.marking scene).pushed scene ~ s.entered

theorem traced_start {node : Node} (h : scene.nodes[scene.root]? = some node) :
    (start scene ⟨scene.root, node⟩).Traced scene where
  sound := sound_start h
  pushed := by simp [Marking.pushed, marking, Search.entered, start, Frame.enter, Frame.entered]

theorem Traced.step (h : s.Traced scene) (hs : s.step scene = .next s') : s'.Traced scene where
  sound := h.sound.step hs
  pushed := by
    rcases step_cases hs with ⟨parent, below, hp, hb, rfl⟩ | ⟨child, pending, hp, hn, hu, rfl⟩
    · exact h.pushed.trans (entered_leave_perm hb).symm
    · rw [entered_enter]
      exact h.pushed.cons child.id

theorem path_marking (s : Search) : (s.marking scene).path = s.path.reverse := by
  simp [Marking.path, marking, path, Function.comp_def]

theorem Sound.rootPath (h : s.Sound scene) : scene.RootPath (s.marking scene).path where
  root := by
    rw [path_marking, List.head?_reverse, Search.path, h.path.getLast?]
    simp
  links := by
    rw [path_marking, List.isChain_reverse]
    exact h.path.isChain
  nodup := by
    rw [path_marking, List.nodup_reverse]
    exact h.nodup_path

theorem start?_eq {node : Node} (h : scene.nodes[scene.root]? = some node) :
    Marking.start? scene = some ((start scene ⟨scene.root, node⟩).marking scene) := by
  have hroot := (Array.getElem?_eq_some_iff.mp h).1
  have hmarks : (Array.replicate scene.nodes.size Mark.unseen).setIfInBounds scene.root .onPath =
      tableOf scene (start scene ⟨scene.root, node⟩).mark := by
    apply Array.ext
    · simp [tableOf]
    · intro id hid hid'
      rw [size_tableOf] at hid'
      rw [Array.getElem_setIfInBounds (by simpa using hid')]
      by_cases heq : scene.root = id
      · simp [tableOf, mark, path, start, Frame.enter, heq]
      · have hne : id ≠ scene.root := Ne.symm heq
        simp [tableOf, mark, path, start, Frame.enter, heq, hne, hid', List.mem_erase_of_ne]
  rw [Marking.start?, Marking.set?, if_pos (by simpa using hroot), hmarks, marking]
  simp [start, Frame.place_enter]
  rfl

end Search

namespace Marking

variable {scene : Scene} {m : Marking} {n : Nat}

theorem After.exists_search (h : After scene n m) :
    ∃ s : Search, s.Traced scene ∧ (m = s.marking scene ∨ m = s.markingLeft scene) := by
  induction h with
  | @start m hstart =>
    have hroot : scene.root < scene.nodes.size := by
      by_contra hlt
      simp [start?, set?, hlt] at hstart
    have hnode := Array.getElem?_eq_getElem hroot
    rw [Search.start?_eq hnode] at hstart
    exact ⟨_, Search.traced_start hnode, .inl (Option.some.inj hstart).symm⟩
  | @next n m m' _ hstep ih =>
    obtain ⟨s, hs, rfl | rfl⟩ := ih
    · cases hsearch : s.step scene with
      | next s' =>
        rw [hs.sound.step?_of_next hsearch] at hstep
        cases hstep
        exact ⟨s', hs.step hsearch, .inl rfl⟩
      | found t =>
        rw [hs.sound.step?_of_found hsearch] at hstep
        cases hstep
        exact ⟨s, hs, .inr rfl⟩
      | refused e =>
        rw [hs.sound.step?_of_refused hsearch] at hstep
        cases hstep
    · cases hstep

theorem After.exists_step (h : After scene n m) : ∃ step, m.step? scene = some step := by
  obtain ⟨s, hs, rfl | rfl⟩ := h.exists_search
  · cases hsearch : s.step scene with
    | next s' => exact ⟨_, hs.sound.step?_of_next hsearch⟩
    | found t => exact ⟨_, hs.sound.step?_of_found hsearch⟩
    | refused e => exact ⟨_, hs.sound.step?_of_refused hsearch⟩
  · exact ⟨.ended, rfl⟩

theorem After.rootPath (h : After scene n m) : scene.RootPath m.path := by
  obtain ⟨s, hs, rfl | rfl⟩ := h.exists_search
  · exact hs.sound.rootPath
  · exact ⟨by simp [path, Search.markingLeft], .nil, .nil⟩

theorem After.nodup_pushed (h : After scene n m) : (m.pushed scene).Nodup := by
  obtain ⟨s, hs, rfl | rfl⟩ := h.exists_search
  all_goals exact hs.pushed.nodup_iff.mpr hs.sound.nodup

end Marking

/-- The loop ends on every scene that has its root, whatever the child lists are, and with the
verdict of the search. It makes at most one round for each entry of a child list and one for each
node. In each of its states it stays within its tables, its stack is a path of child links from the
root that comes to no node twice, and no node was pushed twice. -/
theorem marking_ends {scene : Scene} (h : scene.root < scene.nodes.size) :
    (∃ rounds ≤ scene.entries + scene.nodes.size,
      Marking.check? scene = some (scene.tree.map fun _ => (), rounds)) ∧
    ∀ n m, Marking.After scene n m → (∃ step, m.step? scene = some step) ∧
      scene.RootPath m.path ∧ (m.pushed scene).Nodup := by
  refine ⟨?_, fun n m hm => ⟨hm.exists_step, hm.rootPath, hm.nodup_pushed⟩⟩
  have hnode := Array.getElem?_eq_getElem h
  obtain ⟨rounds, hle, hrun⟩ := (Search.sound_start hnode).run?_marking 0
  rw [Search.work_start hnode] at hle
  rw [Nat.zero_add] at hrun
  refine ⟨rounds, hle, ?_⟩
  rw [Marking.check?, Search.start?_eq hnode, Scene.tree, Scene.rootNode?, hnode]
  exact hrun

def Scene.tangled : Scene where
  nodes := #[
    { type := "Scene", children := [1, 9] },
    { type := "Group", children := [2, 2] },
    { type := "Group", children := [1, 2, 7] }]

theorem tangled_marking_ends : Scene.tangled.root < Scene.tangled.nodes.size ∧
    (∃ rounds ≤ 10, Marking.check? .tangled = some (.error (.cycle 1), rounds)) ∧
    ∀ n m, Marking.After .tangled n m → (∃ step, m.step? .tangled = some step) ∧
      Scene.tangled.RootPath m.path ∧ (m.pushed .tangled).Nodup := by
  have hroot : Scene.tangled.root < Scene.tangled.nodes.size := by decide
  have htree : (Scene.tangled.tree.map fun _ => ()) = .error (.cycle 1) := by decide +kernel
  obtain ⟨⟨rounds, hle, hcheck⟩, hstates⟩ := marking_ends hroot
  exact ⟨hroot, ⟨rounds, hle, htree ▸ hcheck⟩, hstates⟩

end SceneMarkup
