import SceneMarkup.Proofs.Elision

namespace SceneMarkup

namespace Composition

theorem elementsAll_content (c : Composition) :
    Markup.elementsAll c.content = c.written.map fun e => (e.origin, e.tag) := by
  rw [Markup.elementsAll_eq, written, List.map_flatMap]
  exact List.flatMap_congr fun m _ => m.elements_eq

theorem mem_cameras {c : Composition} {tag : String} :
    tag ∈ c.cameras ↔ ∃ e ∈ c.written, e.origin.node.nodeClass.isCamera ∧ e.tag = tag := by
  rw [cameras, mem_sortedDistinct, elementsAll_content, List.filterMap_map, List.mem_filterMap]
  simp

variable {scene : Scene} {tree : SceneTree} {s : Setting} {e : Element}

theorem mem_written (h : Search.Finds scene tree) : e ∈ (of s tree).written ↔
    scene.nodes[e.origin.id]? = some e.origin.node ∧ scene.Visited e.origin.id ∧
      ¬ e.origin.node.isBone ∧ ¬ s.GivesWay e.origin ∧ e = s.element e.origin := by
  rw [written_of, List.mem_map]
  constructor
  · rintro ⟨p, hp, rfl⟩
    obtain ⟨hp, he⟩ := List.mem_filter.mp hp
    obtain ⟨hn, hv, hb⟩ := (SceneTree.mem_exposed_outermost h).mp hp
    refine ⟨hn, hv, hb, fun hg => ?_, rfl⟩
    have hgone : s.elides p = true := Setting.elides_iff.mpr hg
    rw [hgone] at he
    contradiction
  · rintro ⟨hn, hv, hb, hg, he⟩
    refine ⟨e.origin, List.mem_filter.mpr
      ⟨(SceneTree.mem_exposed_outermost h).mpr ⟨hn, hv, hb⟩, ?_⟩, he.symm⟩
    rw [Bool.not_eq_true', ← Bool.not_eq_true]
    exact fun he => hg (Setting.elides_iff.mp he)

theorem reachable_of_mem_written (h : Search.Finds scene tree) (he : e ∈ (of s tree).written) :
    e.origin.id ∈ scene.reachable := by
  obtain ⟨hn, hv, hb, -⟩ := (mem_written h).mp he
  have hp := (SceneTree.mem_exposed_outermost h).mpr ⟨hn, hv, hb⟩
  rw [h.reachable_eq, List.mem_toFinset]
  exact List.mem_map_of_mem (tree.exposed_sublist.subset (tree.outermost_sublist.subset hp))

theorem eq_of_mem_written (h : Search.Finds scene tree) (he : e ∈ (of s tree).written) {id : NodeId}
    {node : Node} (hn : scene.nodes[id]? = some node) (hid : e.origin.id = id) :
    e = s.element ⟨id, node⟩ := by
  obtain ⟨hnode, -, -, -, heq⟩ := (mem_written h).mp he
  subst hid
  cases hnode.symm.trans hn
  exact heq

end Composition

end SceneMarkup
