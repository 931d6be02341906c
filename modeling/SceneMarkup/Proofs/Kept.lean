import SceneMarkup.Json.Decode
import SceneMarkup.Proofs.Lookup
import SceneMarkup.Proofs.ReadNumbers

namespace SceneMarkup

namespace Json

def Sound (j : Json) : Prop := ∀ n ∈ j.numbers, n.Sound

theorem sound_null : Sound .null := List.forall_mem_nil _

theorem sound_bool (b : Bool) : Sound (.bool b) := List.forall_mem_nil _

theorem sound_string (s : String) : Sound (.string s) := List.forall_mem_nil _

@[simp] theorem sound_number {n : JsonNumber} : Sound (.number n) ↔ n.Sound := by
  simp [Sound, numbers]

@[simp] theorem sound_array {items : List Json} :
    Sound (.array items) ↔ ∀ j ∈ items, j.Sound := by
  simp only [Sound, numbers_array, List.mem_flatMap]
  exact ⟨fun h j hj n hn => h n ⟨j, hj, hn⟩, fun h n ⟨j, hj, hn⟩ => h j hj n hn⟩

@[simp] theorem sound_object {members : List (String × Json)} :
    Sound (.object members) ↔ ∀ m ∈ members, m.2.Sound := by
  simp only [Sound, numbers_object, List.mem_flatMap]
  exact ⟨fun h m hm n hn => h n ⟨m, hm, hn⟩, fun h n ⟨m, hm, hn⟩ => h m hm n hn⟩

theorem document_number {n : JsonNumber} (h : n.Sound) :
    (number n).document = .number (some n) := by
  rw [document, if_pos h.isFinite]

theorem document_array (items : List Json) :
    (array items).document = .array (items.map document) := by
  rw [document, documentItems_eq]

theorem document_object (members : List (String × Json)) :
    (object members).document = .object (members.map fun m => (some m.1, m.2.document)) := by
  rw [document, documentMembers_eq]

theorem eq_null_of_document {j : Json} (h : j.Sound) (hj : j.document = .null) : j = .null := by
  cases j with
  | null => rfl
  | number n =>
    rw [document_number (sound_number.mp h)] at hj
    cases hj
  | _ => cases hj

end Json

/-- A value that is read again from what is written of it. -/
structure Kept (read : Document → Option α) (write : α → Json) (a : α) : Prop where
  sound : (write a).Sound
  read_document : read (write a).document = some a

structure Keeps (read : Document → Option α) (write : α → Json) : Prop where
  kept : ∀ {d a}, d.Sound → read d = some a → Kept read write a
  eq_null : ∀ {d a}, read d = some a → write a = .null → d = .null

namespace Keeps

open Document

variable {read : Document → Option α} {write : α → Json}

theorem text : Keeps text? .string where
  kept _ _ := ⟨Json.sound_string _, rfl⟩
  eq_null _ h := nomatch h

theorem flag : Keeps flag? .bool where
  kept _ _ := ⟨Json.sound_bool _, rfl⟩
  eq_null _ h := nomatch h

theorem kept_real {x : Float} (h : x.isFinite) : Kept real? .real x := by
  have hx : (JsonNumber.real x).Sound := h
  refine ⟨Json.sound_number.mpr hx, ?_⟩
  rw [Json.real, Json.document_number hx]
  rfl

theorem real : Keeps real? .real where
  kept hd h := by
    cases hd with
    | number hn =>
      obtain ⟨n, rfl, rfl⟩ := Option.map_eq_some_iff.mp h
      exact kept_real (hn n rfl).isFinite_toFloat
    | _ => cases h
  eq_null _ h := nomatch h

theorem kept_natural {bound n : Nat} (h : n < bound) (hbound : bound ≤ 0x10000000000000000) :
    Kept (natural? bound) .natural n := by
  have hn : (JsonNumber.integer n).Sound := ⟨by omega, by omega⟩
  refine ⟨Json.sound_number.mpr hn, ?_⟩
  rw [Json.natural, Json.document_number hn, natural?, if_pos ⟨by omega, by omega⟩, Int.toNat_natCast]

theorem natural {bound : Nat} (hbound : bound ≤ 0x10000000000000000) :
    Keeps (natural? bound) .natural where
  kept {d n} _ h := by
    refine kept_natural ?_ hbound
    rw [natural?.eq_def] at h
    split at h
    · split at h
      · cases h
        omega
      · cases h
    · cases h
  eq_null _ h := nomatch h

theorem word32 : Keeps word32? .natural := natural (by decide)

theorem word64 : Keeps word64? .natural := natural (by decide)

theorem kept_list {as : List α} (h : ∀ a ∈ as, Kept read write a) :
    Kept (list? read) (fun as => .array (as.map write)) as where
  sound := Json.sound_array.mpr (List.forall_mem_map.mpr fun a ha => (h a ha).sound)
  read_document := by
    rw [Json.document_array, list?, List.map_map]
    exact mapM_map_eq_some fun a ha => (h a ha).read_document

theorem list (h : Keeps read write) : Keeps (list? read) fun as => .array (as.map write) where
  kept hd hread := by
    cases hd with
    | array hitems =>
      refine kept_list fun a ha => ?_
      obtain ⟨d, hd, hda⟩ := exists_of_mapM_eq_some hread a ha
      exact h.kept (hitems d hd) hda
    | _ => cases hread
  eq_null _ h := nomatch h

theorem kept_dictionary {entries : List (String × α)} (hascending : Json.Ascending entries)
    (h : ∀ e ∈ entries, Kept read write e.2) :
    Kept (dictionary? read) (fun entries => .object (entries.map fun e => (e.1, write e.2)))
      entries where
  sound := Json.sound_object.mpr (List.forall_mem_map.mpr fun e he => (h e he).sound)
  read_document := by
    have hnamed : ∀ e ∈ entries, named? read (some e.1, (write e.2).document) = some e := by
      intro e he
      simp [named?, (h e he).read_document]
    rw [Json.document_object, dictionary?, List.map_map]
    simp only [Function.comp_def, mapM_map_eq_some hnamed, Option.map_some,
      hascending.sortMembers_eq]

theorem dictionary (h : Keeps read write) :
    Keeps (dictionary? read) fun entries => .object (entries.map fun e => (e.1, write e.2)) where
  kept hd hread := by
    cases hd with
    | object hmembers =>
      obtain ⟨named, hnamed, rfl⟩ := Option.map_eq_some_iff.mp hread
      refine kept_dictionary (Json.ascending_sortMembers named) fun e he => ?_
      obtain ⟨m, hm, hme⟩ := exists_of_mapM_eq_some hnamed e (Json.mem_of_mem_sortMembers he)
      simp only [named?, Option.bind_eq_bind, Option.bind_eq_some_iff] at hme
      obtain ⟨key, -, a, ha, heq⟩ := hme
      cases heq
      exact h.kept (hmembers m hm) ha
    | _ => cases hread
  eq_null _ h := nomatch h

theorem toItems?_eq (depth : Nat) (items : List Document) :
    toItems? depth items = items.mapM (toJson? depth) := by
  induction items with
  | nil => rfl
  | cons d rest ih => rw [toItems?, ih, List.mapM_cons]

theorem toMembers?_eq (depth : Nat) (members : List (Option String × Document)) :
    toMembers? depth members = members.mapM (named? (toJson? depth)) := by
  induction members with
  | nil => rfl
  | cons m rest ih =>
    obtain ⟨k, d⟩ := m
    rw [toMembers?, ih, List.mapM_cons]
    simp [named?, Option.bind_assoc]

theorem toJson?_array (depth : Nat) (items : List Document) :
    toJson? (depth + 1) (.array items) = (list? (toJson? depth) (.array items)).map .array := by
  rw [toJson?, toItems?_eq, list?]

theorem toJson?_object (depth : Nat) (members : List (Option String × Document)) :
    toJson? (depth + 1) (.object members) =
      (dictionary? (toJson? depth) (.object members)).map .object := by
  rw [toJson?, toMembers?_eq, dictionary?, Option.map_map]

theorem eq_null_of_toJson? {depth : Nat} {d : Document} (h : toJson? depth d = some .null) :
    d = .null := by
  cases d <;> cases depth <;> simp_all [toJson?]

theorem kept_scalar {depth : Nat} {d : Document} {j : Json} (hd : d.Sound)
    (h : toJson? depth d = some j) (hitems : ∀ items, d ≠ .array items)
    (hmembers : ∀ members, d ≠ .object members) : Kept (toJson? depth) id j := by
  cases hd with
  | null =>
    cases h
    exact ⟨Json.sound_null, rfl⟩
  | bool =>
    cases h
    exact ⟨Json.sound_bool _, rfl⟩
  | number hn =>
    obtain ⟨n, rfl, rfl⟩ := Option.map_eq_some_iff.mp h
    refine ⟨Json.sound_number.mpr (hn n rfl), ?_⟩
    rw [id, Json.document_number (hn n rfl)]
    rfl
  | string =>
    obtain ⟨s, rfl, rfl⟩ := Option.map_eq_some_iff.mp h
    exact ⟨Json.sound_string s, rfl⟩
  | array => exact absurd rfl (hitems _)
  | object => exact absurd rfl (hmembers _)

theorem json (depth : Nat) : Keeps (toJson? depth) id := by
  refine ⟨fun {d j} hd h => ?_, fun h hnull => eq_null_of_toJson? (h.trans (congrArg some hnull))⟩
  induction depth generalizing d j with
  | zero => exact kept_scalar hd h (by rintro _ rfl; cases h) (by rintro _ rfl; cases h)
  | succ depth ih =>
    have hbelow : Keeps (toJson? depth) id :=
      ⟨ih, fun h hnull => eq_null_of_toJson? (h.trans (congrArg some hnull))⟩
    cases d with
    | array items =>
      rw [toJson?_array] at h
      obtain ⟨js, hjs, rfl⟩ := Option.map_eq_some_iff.mp h
      obtain ⟨hsound, hread⟩ := hbelow.list.kept hd hjs
      simp only [List.map_id] at hsound hread
      refine ⟨hsound, ?_⟩
      rw [id, Json.document_array, toJson?_array, ← Json.document_array, hread, Option.map_some]
    | object members =>
      rw [toJson?_object] at h
      obtain ⟨entries, hentries, rfl⟩ := Option.map_eq_some_iff.mp h
      obtain ⟨hsound, hread⟩ := hbelow.dictionary.kept hd hentries
      simp only [id, Prod.mk.eta, List.map_id'] at hsound hread
      refine ⟨hsound, ?_⟩
      rw [id, Json.document_object, toJson?_object, ← Json.document_object, hread,
        Option.map_some]
    | _ => exact kept_scalar hd h nofun nofun

theorem kept_none : Kept (nullable? read) (.ofOption write) none := ⟨Json.sound_null, rfl⟩

theorem nullable?_of_ne_null {d : Document} (h : d ≠ .null) :
    nullable? read d = (read d).map some := by
  cases d with
  | null => exact absurd rfl h
  | _ => rfl

theorem nullable (h : Keeps read write) : Keeps (nullable? read) (.ofOption write) where
  kept {d o} hd hread := by
    by_cases hnull : d = .null
    · subst hnull
      cases hread
      exact kept_none
    · rw [nullable?_of_ne_null hnull] at hread
      obtain ⟨a, ha, rfl⟩ := Option.map_eq_some_iff.mp hread
      obtain ⟨hsound, hagain⟩ := h.kept hd ha
      have hne : (write a).document ≠ .null := fun hdocument =>
        hnull (h.eq_null ha (Json.eq_null_of_document hsound hdocument))
      refine ⟨hsound, ?_⟩
      rw [Json.ofOption, nullable?_of_ne_null hne, hagain, Option.map_some]
  eq_null {d o} hread hnull := by
    by_contra hd
    rw [nullable?_of_ne_null hd] at hread
    obtain ⟨a, ha, rfl⟩ := Option.map_eq_some_iff.mp hread
    exact hd (h.eq_null ha hnull)

theorem sound_of_record? {names : List String} {d : Document} {fields : Fields} (hd : d.Sound)
    (h : record? names d = some fields) : ∀ f ∈ fields, f.2.Sound := by
  cases hd with
  | array hitems =>
    rw [record?] at h
    split at h
    · cases h
      exact fun f hf => hitems f.2 (List.of_mem_zip hf).2
    · cases h
  | object hmembers =>
    simp only [record?, Option.bind_eq_bind, Option.bind_eq_some_iff] at h
    obtain ⟨named, hnamed, h⟩ := h
    split at h
    · cases h
      intro f hf
      obtain ⟨m, hm, hmf⟩ := exists_of_mapM_eq_some hnamed f (List.mem_of_mem_filter hf)
      simp only [named?, Option.bind_eq_bind, Option.bind_eq_some_iff] at hmf
      obtain ⟨key, -, d, hd, heq⟩ := hmf
      cases heq
      cases hd
      exact hmembers m hm
    · cases h
  | _ => cases h

theorem record?_document {names : List String} {members : List (String × Json)}
    (hnames : members.map Prod.fst = names) (hnodup : names.Nodup) :
    record? names (Json.object members).document =
      some (members.map fun m => (m.1, m.2.document)) := by
  have hmapM : (members.map fun m => (some m.1, m.2.document)).mapM (named? some) =
      some (members.map fun m => (m.1, m.2.document)) := by
    rw [List.mapM_map]
    exact mapM_eq_some_map fun _ _ => rfl
  have hkeys : (members.map fun m => (m.1, m.2.document)).map Prod.fst = names := by
    rw [List.map_map, ← hnames]
    rfl
  have hfilter : (members.map fun m => (m.1, m.2.document)).filter
      (fun f => names.contains f.1) = members.map fun m => (m.1, m.2.document) := by
    refine List.filter_eq_self.mpr fun f hf => ?_
    rw [List.contains_iff_mem, ← hkeys]
    exact List.mem_map_of_mem hf
  simp only [Json.document_object, record?, hmapM, Option.bind_eq_bind, Option.bind_some, hfilter,
    hkeys, if_pos hnodup]

variable {fields : Fields} {name : String}

theorem required (h : Keeps read write) (hfields : ∀ f ∈ fields, f.2.Sound)
    {make : α → Option β} {b : β} (hread : (fields.required name read).bind make = some b) :
    ∃ a, Kept read write a ∧ make a = some b := by
  obtain ⟨a, ha, hb⟩ := Option.bind_eq_some_iff.mp hread
  obtain ⟨d, hd, ha⟩ := Option.bind_eq_some_iff.mp ha
  exact ⟨a, h.kept (hfields _ (Json.mem_of_member? hd)) ha, hb⟩

theorem defaulted (h : Keeps read write) {standard : α} (hstandard : Kept read write standard)
    (hfields : ∀ f ∈ fields, f.2.Sound) {make : α → Option β} {b : β}
    (hread : (fields.defaulted name standard read).bind make = some b) :
    ∃ a, Kept read write a ∧ make a = some b := by
  obtain ⟨a, ha, hb⟩ := Option.bind_eq_some_iff.mp hread
  refine ⟨a, ?_, hb⟩
  rw [Fields.defaulted] at ha
  split at ha
  · next hd => exact h.kept (hfields _ (Json.mem_of_member? hd)) ha
  · cases ha
    exact hstandard

theorem optional (h : Keeps read write) (hfields : ∀ f ∈ fields, f.2.Sound)
    {make : Option α → Option β} {b : β}
    (hread : (fields.optional name read).bind make = some b) :
    ∃ o, Kept (nullable? read) (.ofOption write) o ∧ make o = some b :=
  h.nullable.defaulted kept_none hfields hread

theorem record {names : List String} {make : Fields → Option α}
    {members : α → List (String × Json)} (hnames : ∀ a, (members a).map Prod.fst = names)
    (hnodup : names.Nodup)
    (h : ∀ {fields a}, (∀ f ∈ fields, f.2.Sound) → make fields = some a →
      (∀ m ∈ members a, m.2.Sound) ∧
        make ((members a).map fun m => (m.1, m.2.document)) = some a) :
    Keeps (fun d => (record? names d).bind make) fun a => .object (members a) where
  kept hd hread := by
    obtain ⟨fields, hfields, ha⟩ := Option.bind_eq_some_iff.mp hread
    obtain ⟨hsound, hagain⟩ := h (sound_of_record? hd hfields) ha
    refine ⟨Json.sound_object.mpr hsound, ?_⟩
    rw [record?_document (hnames _) hnodup, Option.bind_some, hagain]
  eq_null _ h := nomatch h

end Keeps

end SceneMarkup
