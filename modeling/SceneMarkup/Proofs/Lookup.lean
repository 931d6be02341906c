import Mathlib.Data.List.Nodup
import SceneMarkup.Context

namespace SceneMarkup

theorem lookup_eq_some_iff_mem [BEq α] [LawfulBEq α] {l : List (α × β)}
    (h : (l.map Prod.fst).Nodup) {a : α} {b : β} : l.lookup a = some b ↔ (a, b) ∈ l := by
  induction l with
  | nil => simp
  | cons e rest ih =>
    obtain ⟨k, v⟩ := e
    rw [List.map_cons, List.nodup_cons] at h
    rw [List.lookup_cons, List.mem_cons]
    by_cases hk : a = k
    · subst hk
      have hn : (a, b) ∉ rest := fun hm => h.1 (List.mem_map.mpr ⟨(a, b), hm, rfl⟩)
      simp [hn, eq_comm]
    · simp [beq_false_of_ne hk, hk, ih h.2]

theorem lookup_eq_none_iff_not_mem [BEq α] [LawfulBEq α] {l : List (α × β)} {a : α} :
    l.lookup a = none ↔ a ∉ l.map Prod.fst := by
  rw [List.lookup_eq_none_iff, List.mem_map, not_exists]
  refine forall_congr' fun e => ?_
  rw [not_and, bne_iff_ne, ne_comm]

theorem mem_of_lookup_eq_some [BEq α] [LawfulBEq α] {l : List (α × β)} {a : α} {b : β}
    (h : l.lookup a = some b) : (a, b) ∈ l := by
  obtain ⟨l₁, l₂, rfl, -⟩ := List.lookup_eq_some_iff.mp h
  simp

section Find

variable [BEq κ] [LawfulBEq κ] {key : α → κ} {as : List α}

theorem find?_eq_some_iff_mem (h : (as.map key).Nodup) {k : κ} {a : α} :
    as.find? (key · == k) = some a ↔ a ∈ as ∧ key a = k := by
  constructor
  · intro hfind
    exact ⟨List.mem_of_find?_eq_some hfind, by simpa using List.find?_some hfind⟩
  · rintro ⟨ha, rfl⟩
    have hsome : (as.find? (key · == key a)).isSome := List.find?_isSome.mpr ⟨a, ha, by simp⟩
    obtain ⟨b, hb⟩ := Option.isSome_iff_exists.mp hsome
    have hkey : key b = key a := by simpa using List.find?_some hb
    rw [hb, List.inj_on_of_nodup_map h (List.mem_of_find?_eq_some hb) ha hkey]

theorem filter_eq_singleton (h : (as.map key).Nodup) {a : α} (ha : a ∈ as) :
    as.filter (key · == key a) = [a] := by
  induction as with
  | nil => contradiction
  | cons b rest ih =>
    rw [List.map_cons, List.nodup_cons] at h
    rcases List.mem_cons.mp ha with rfl | ha
    · have hrest : rest.filter (key · == key a) = [] := by
        rw [List.filter_eq_nil_iff]
        intro b hb hkey
        exact h.1 (List.mem_map.mpr ⟨b, hb, by simpa using hkey⟩)
      rw [List.filter_cons_of_pos (by simp), hrest]
    · have hne : ¬ (key b == key a) = true := by
        rw [beq_iff_eq]
        exact fun hkey => h.1 (hkey ▸ List.mem_map_of_mem ha)
      rw [List.filter_cons, if_neg hne, ih h.2 ha]

theorem lookup_map_eq_find? (value : α → β) (as : List α) (k : κ) :
    (as.map fun a => (key a, value a)).lookup k = (as.find? (key · == k)).map value := by
  induction as with
  | nil => rfl
  | cons a rest ih =>
    rw [List.map_cons, List.lookup_cons, List.find?_cons, BEq.comm, ih]
    cases key a == k <;> rfl

end Find

theorem mapM_eq_some_map {f : α → Option β} {g : α → β} {as : List α}
    (h : ∀ a ∈ as, f a = some (g a)) : as.mapM f = some (as.map g) := by
  induction as with
  | nil => rfl
  | cons a rest ih =>
    rw [List.forall_mem_cons] at h
    rw [List.mapM_cons, h.1, ih h.2]
    rfl

theorem mapM_map_eq_some {f : β → Option α} {g : α → β} {as : List α}
    (h : ∀ a ∈ as, f (g a) = some a) : (as.map g).mapM f = some as := by
  have hall := mapM_eq_some_map (f := f ∘ g) (g := id) h
  rw [List.mapM_map, hall, List.map_id]

theorem exists_of_mapM_eq_some {f : α → Option β} {as : List α} {bs : List β}
    (h : as.mapM f = some bs) : ∀ b ∈ bs, ∃ a ∈ as, f a = some b := by
  induction as generalizing bs with
  | nil =>
    cases h
    exact List.forall_mem_nil _
  | cons a rest ih =>
    rw [List.mapM_cons] at h
    obtain ⟨b, hb, h⟩ := Option.bind_eq_some_iff.mp h
    obtain ⟨bs, hbs, h⟩ := Option.bind_eq_some_iff.mp h
    cases h
    refine List.forall_mem_cons.mpr ⟨⟨a, List.mem_cons_self, hb⟩, fun b' hb' => ?_⟩
    obtain ⟨a', ha', hf⟩ := ih hbs b' hb'
    exact ⟨a', List.mem_cons_of_mem a ha', hf⟩

namespace Json

theorem member?_eq_lookup (members : List (String × α)) (key : String) :
    member? key members = members.lookup key := by
  induction members with
  | nil => rfl
  | cons m rest ih =>
    obtain ⟨k, x⟩ := m
    rw [member?, List.lookup_cons, ih]
    by_cases hk : k = key
    · simp [hk]
    · simp [hk, beq_false_of_ne (Ne.symm hk)]

theorem member?_eq_some_iff {members : List (String × α)} (h : (members.map Prod.fst).Nodup)
    {key : String} {v : α} : member? key members = some v ↔ (key, v) ∈ members := by
  rw [member?_eq_lookup, lookup_eq_some_iff_mem h]

theorem mem_of_member? {members : List (String × α)} {key : String} {v : α}
    (h : member? key members = some v) : (key, v) ∈ members := by
  induction members with
  | nil => simp [member?] at h
  | cons m rest ih =>
    obtain ⟨k, x⟩ := m
    rw [member?] at h
    split at h
    · next hk =>
      cases h
      exact hk ▸ List.mem_cons_self
    · exact List.mem_cons_of_mem _ (ih h)

theorem isSome_member? {members : List (String × α)} {key : String} :
    (member? key members).isSome ↔ key ∈ members.map Prod.fst := by
  induction members with
  | nil => simp [member?]
  | cons m rest ih =>
    obtain ⟨k, x⟩ := m
    rw [member?, List.map_cons, List.mem_cons]
    by_cases hk : k = key
    · simp [hk]
    · simp [hk, Ne.symm hk, ih]

theorem member?_map_key {members : List (String × α)} {key : String} (f : String → α → β) :
    member? key (members.map fun m => (m.1, f m.1 m.2)) = (member? key members).map (f key) := by
  induction members with
  | nil => rfl
  | cons m rest ih =>
    rw [List.map_cons, member?, member?, ih]
    split
    · next hkey => rw [hkey, Option.map_some]
    · rfl

theorem member?_map {members : List (String × α)} {key : String} (f : α → β) :
    member? key (members.map fun m => (m.1, f m.2)) = (member? key members).map f :=
  member?_map_key fun _ => f

theorem member?_insertSorted (key k : String) (v : α) (members : List (String × α)) :
    member? key (insertSorted k v members) = if k = key then some v else member? key members := by
  induction members with
  | nil => rfl
  | cons m rest ih =>
    obtain ⟨k', v'⟩ := m
    rw [insertSorted]
    split
    · rw [member?]
    · split
      · next hk =>
        subst hk
        rw [member?, member?]
        split <;> rfl
      · rw [member?, member?, ih]
        split
        · next hk' => rw [if_neg (hk' ▸ ‹¬ k = k'›)]
        · rfl

theorem member?_append (key : String) (members rest : List (String × α)) :
    member? key (members ++ rest) = (member? key members).or (member? key rest) := by
  simp only [member?_eq_lookup, List.lookup_append]

theorem member?_foldl_insertSorted (key : String) (members sorted : List (String × α)) :
    member? key (members.foldl (fun sorted m => insertSorted m.1 m.2 sorted) sorted) =
      (member? key members.reverse).or (member? key sorted) := by
  induction members generalizing sorted with
  | nil => rfl
  | cons m rest ih =>
    rw [List.foldl_cons, ih, member?_insertSorted, List.reverse_cons, member?_append,
      Option.or_assoc, member?, member?]
    split <;> rfl

theorem member?_sortMembers {members : List (String × α)} (h : (members.map Prod.fst).Nodup)
    (key : String) : member? key (sortMembers members) = member? key members := by
  have hreverse : (members.reverse.map Prod.fst).Nodup := by
    rw [List.map_reverse]
    exact List.nodup_reverse.mpr h
  rw [sortMembers, member?_foldl_insertSorted, member?, Option.or_none]
  refine Option.ext fun v => ?_
  rw [member?_eq_some_iff hreverse, member?_eq_some_iff h, List.mem_reverse]

def Ascending (members : List (String × α)) : Prop := members.Pairwise fun m n => m.1 < n.1

theorem mem_of_mem_insertSorted {key : String} {v : α} {members : List (String × α)}
    {m : String × α} (h : m ∈ insertSorted key v members) : m = (key, v) ∨ m ∈ members := by
  induction members with
  | nil => exact .inl (List.mem_singleton.mp h)
  | cons m' rest ih =>
    rw [insertSorted] at h
    split at h
    · exact List.mem_cons.mp h
    · split at h
      · exact (List.mem_cons.mp h).imp_right (List.mem_cons_of_mem _)
      · rcases List.mem_cons.mp h with rfl | h
        · exact .inr List.mem_cons_self
        · exact (ih h).imp_right (List.mem_cons_of_mem _)

theorem Ascending.insertSorted {members : List (String × α)} (h : Ascending members) (key : String)
    (v : α) : Ascending (Json.insertSorted key v members) := by
  induction members with
  | nil => exact List.pairwise_singleton _ _
  | cons m rest ih =>
    obtain ⟨k, x⟩ := m
    obtain ⟨hfirst, hrest⟩ := List.pairwise_cons.mp h
    rw [Json.insertSorted]
    split
    · next hlt =>
      refine List.pairwise_cons.mpr ⟨?_, h⟩
      exact List.forall_mem_cons.mpr ⟨hlt, fun m hm => String.lt_trans hlt (hfirst m hm)⟩
    · next hlt =>
      split
      · next heq =>
        subst heq
        exact List.pairwise_cons.mpr ⟨hfirst, hrest⟩
      · next hne =>
        refine List.pairwise_cons.mpr ⟨fun m hm => ?_, ih hrest⟩
        rcases mem_of_mem_insertSorted hm with rfl | hm
        · exact Std.lt_of_le_of_ne hlt (Ne.symm hne)
        · exact hfirst m hm

theorem ascending_sortMembers (members : List (String × α)) : Ascending (sortMembers members) := by
  rw [sortMembers]
  refine List.foldlRecOn members _ List.Pairwise.nil fun sorted h m _ => h.insertSorted m.1 m.2

theorem mem_of_mem_sortMembers {members : List (String × α)} {m : String × α}
    (h : m ∈ sortMembers members) : m ∈ members := by
  refine List.foldlRecOn (motive := fun sorted => ∀ m ∈ sorted, m ∈ members) members _
    (List.forall_mem_nil _) (fun sorted ih m' hm' m hm => ?_) m h
  rcases mem_of_mem_insertSorted hm with rfl | hm
  · exact hm'
  · exact ih m hm

theorem insertSorted_eq_append {members : List (String × α)} {key : String}
    (h : ∀ m ∈ members, m.1 < key) (v : α) : insertSorted key v members = members ++ [(key, v)] := by
  induction members with
  | nil => rfl
  | cons m rest ih =>
    obtain ⟨hm, hrest⟩ := List.forall_mem_cons.mp h
    have hne : key ≠ m.1 := fun heq => String.lt_irrefl key (heq ▸ hm)
    rw [insertSorted, if_neg (String.lt_asymm hm), if_neg hne, ih hrest, List.cons_append]

theorem foldl_insertSorted_eq_append {sorted members : List (String × α)}
    (h : Ascending (sorted ++ members)) :
    members.foldl (fun sorted m => insertSorted m.1 m.2 sorted) sorted = sorted ++ members := by
  induction members generalizing sorted with
  | nil => rw [List.foldl_nil, List.append_nil]
  | cons m rest ih =>
    have hlast : ∀ m' ∈ sorted, m'.1 < m.1 := fun m' hm' =>
      (List.pairwise_append.mp h).2.2 m' hm' m List.mem_cons_self
    rw [List.foldl_cons, insertSorted_eq_append hlast, ih (by simpa using h), List.append_assoc,
      List.singleton_append]

theorem Ascending.sortMembers_eq {members : List (String × α)} (h : Ascending members) :
    sortMembers members = members :=
  foldl_insertSorted_eq_append h

end Json

namespace ContextValue

def entries : ContextValue → List (String × ContextValue)
  | group entries => entries
  | _ => []

theorem get?_eq_member? (v : ContextValue) (key : String) :
    v.get? key = Json.member? key v.entries := by
  cases v <;> rfl

theorem get?_eq_some_iff {v w : ContextValue} {key : String} (h : (v.entries.map Prod.fst).Nodup) :
    v.get? key = some w ↔ (key, w) ∈ v.entries := by
  rw [get?_eq_member?, Json.member?_eq_some_iff h]

variable {p : Number.Precision}

theorem roundEntries_eq (entries : List (String × ContextValue)) :
    roundEntries p entries = entries.map fun e => (e.1, e.2.round p) := by
  induction entries with
  | nil => rfl
  | cons e rest ih => simp [roundEntries, ih]

theorem get?_round (v : ContextValue) (key : String) :
    (v.round p).get? key = (v.get? key).map (·.round p) := by
  cases v with
  | group entries => rw [round, get?, get?, roundEntries_eq, Json.member?_map]
  | _ => rfl

theorem path?_append (v : ContextValue) (path rest : List String) :
    v.path? (path ++ rest) = (v.path? path).bind (·.path? rest) := by
  induction path generalizing v with
  | nil => rfl
  | cons key path ih =>
    rw [List.cons_append, path?, path?]
    cases v.get? key with
    | none => rfl
    | some below => exact ih below

theorem path?_round (v : ContextValue) (path : List String) :
    (v.round p).path? path = (v.path? path).map (·.round p) := by
  induction path generalizing v with
  | nil => rfl
  | cons key rest ih =>
    rw [path?, path?, get?_round]
    cases v.get? key with
    | none => rfl
    | some below => exact ih below

end ContextValue

end SceneMarkup
