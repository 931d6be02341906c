import SceneMarkup.Proofs.Finite
import SceneMarkup.Proofs.JsonLayout
import SceneMarkup.Proofs.JsonTokens

namespace SceneMarkup

def JsonNumber.isFinite : JsonNumber → Bool
  | .integer _ => true
  | .real x => x.isFinite

namespace Json

mutual

def reread : Json → Json
  | .null => .null
  | .bool b => .bool b
  | .number n => if n.isFinite then .number n else .null
  | .string s => .string s
  | .array items => .array (rereadItems items)
  | .object members => .object (sortMembers (rereadMembers members))

def rereadItems : List Json → List Json
  | [] => []
  | j :: rest => j.reread :: rereadItems rest

def rereadMembers : List (String × Json) → List (String × Json)
  | [] => []
  | (k, j) :: rest => (k, j.reread) :: rereadMembers rest

end

@[simp] theorem rereadItems_eq (items : List Json) : rereadItems items = items.map reread := by
  induction items with
  | nil => rfl
  | cons j rest ih => simp [rereadItems, ih]

@[simp] theorem rereadMembers_eq (members : List (String × Json)) :
    rereadMembers members = members.map fun m => (m.1, m.2.reread) := by
  induction members with
  | nil => rfl
  | cons m rest ih => simp [rereadMembers, ih]

inductive Legible : Nat → Json → Prop
  | null : Legible depth .null
  | bool : Legible depth (.bool b)
  | number : (n.isFinite → read? (numberText n) = some (.number n)) → Legible depth (.number n)
  | string : Legible depth (.string s)
  | array : (∀ j ∈ items, Legible depth j) → Legible (depth + 1) (.array items)
  | object : (∀ m ∈ members, Legible depth m.2) → Legible (depth + 1) (.object members)

mutual

def numbers : Json → List JsonNumber
  | .number n => [n]
  | .array items => itemNumbers items
  | .object members => memberNumbers members
  | _ => []

def itemNumbers : List Json → List JsonNumber
  | [] => []
  | j :: rest => j.numbers ++ itemNumbers rest

def memberNumbers : List (String × Json) → List JsonNumber
  | [] => []
  | (_, j) :: rest => j.numbers ++ memberNumbers rest

end

mutual

def depth : Json → Nat
  | .array items => itemDepth items + 1
  | .object members => memberDepth members + 1
  | _ => 0

def itemDepth : List Json → Nat
  | [] => 0
  | j :: rest => max j.depth (itemDepth rest)

def memberDepth : List (String × Json) → Nat
  | [] => 0
  | (_, j) :: rest => max j.depth (memberDepth rest)

end

@[simp] theorem numbers_array (items : List Json) :
    (array items).numbers = items.flatMap numbers := by
  rw [numbers]
  induction items with
  | nil => rfl
  | cons j rest ih => rw [itemNumbers, ih, List.flatMap_cons]

@[simp] theorem numbers_object (members : List (String × Json)) :
    (object members).numbers = members.flatMap fun m => m.2.numbers := by
  rw [numbers]
  induction members with
  | nil => rfl
  | cons m rest ih => rw [memberNumbers, ih, List.flatMap_cons]

theorem depth_array_le {items : List Json} {n : Nat} :
    (array items).depth ≤ n + 1 ↔ ∀ j ∈ items, j.depth ≤ n := by
  rw [depth, Nat.add_le_add_iff_right]
  induction items with
  | nil => simp [itemDepth]
  | cons j rest ih => rw [itemDepth, max_le_iff, ih, List.forall_mem_cons]

theorem depth_object_le {members : List (String × Json)} {n : Nat} :
    (object members).depth ≤ n + 1 ↔ ∀ m ∈ members, m.2.depth ≤ n := by
  rw [depth, Nat.add_le_add_iff_right]
  induction members with
  | nil => simp [memberDepth]
  | cons m rest ih => rw [memberDepth, max_le_iff, ih, List.forall_mem_cons]

theorem legible_of_depth_le {j : Json} (hdepth : j.depth ≤ n)
    (h : ∀ x ∈ j.numbers, x.isFinite → read? (numberText x) = some (.number x)) :
    Legible n j := by
  induction j using induct generalizing n with
  | null => exact .null
  | bool => exact .bool
  | string => exact .string
  | number x => exact .number (h x (List.mem_singleton_self x))
  | array items ih =>
    obtain ⟨n, rfl⟩ : ∃ m, n = m + 1 := Nat.exists_eq_add_one.mpr (by rw [depth] at hdepth; omega)
    rw [numbers_array] at h
    exact .array fun j hj => ih j hj (depth_array_le.mp hdepth j hj) fun x hx =>
      h x (List.mem_flatMap_of_mem hj hx)
  | object members ih =>
    obtain ⟨n, rfl⟩ : ∃ m, n = m + 1 := Nat.exists_eq_add_one.mpr (by rw [depth] at hdepth; omega)
    rw [numbers_object] at h
    exact .object fun m hm => ih m hm (depth_object_le.mp hdepth m hm) fun x hx =>
      h x (List.mem_flatMap_of_mem hm hx)

mutual

def document : Json → Document
  | .null => .null
  | .bool b => .bool b
  | .number n => if n.isFinite then .number (some n) else .null
  | .string s => .string (some s)
  | .array items => .array (documentItems items)
  | .object members => .object (documentMembers members)

def documentItems : List Json → List Document
  | [] => []
  | j :: rest => j.document :: documentItems rest

def documentMembers : List (String × Json) → List (Option String × Document)
  | [] => []
  | (k, j) :: rest => (some k, j.document) :: documentMembers rest

end

theorem documentItems_eq (items : List Json) : documentItems items = items.map document := by
  induction items with
  | nil => rfl
  | cons j rest ih => simp [documentItems, ih]

theorem documentMembers_eq (members : List (String × Json)) :
    documentMembers members = members.map fun m => (some m.1, m.2.document) := by
  induction members with
  | nil => rfl
  | cons m rest ih => simp [documentMembers, ih]

theorem toItems?_document {items : List Json} {depth : Nat}
    (h : ∀ j ∈ items, j.document.toJson? depth = some j.reread) :
    Document.toItems? depth (items.map document) = some (items.map reread) := by
  induction items with
  | nil => rfl
  | cons j rest ih =>
    rw [List.forall_mem_cons] at h
    simp [Document.toItems?, h.1, ih h.2]

theorem toMembers?_document {members : List (String × Json)} {depth : Nat}
    (h : ∀ m ∈ members, m.2.document.toJson? depth = some m.2.reread) :
    Document.toMembers? depth (members.map fun m => (some m.1, m.2.document)) =
      some (members.map fun m => (m.1, m.2.reread)) := by
  induction members with
  | nil => rfl
  | cons m rest ih =>
    rw [List.forall_mem_cons] at h
    simp [Document.toMembers?, h.1, ih h.2]

theorem toJson?_document {j : Json} {depth : Nat} (h : Legible depth j) :
    j.document.toJson? depth = some j.reread := by
  induction h with
  | null | bool | string => rfl
  | number =>
    rw [document, reread]
    split <;> rfl
  | array _ ih => simp [document, documentItems_eq, Document.toJson?, toItems?_document ih, reread]
  | object _ ih =>
    simp [document, documentMembers_eq, Document.toJson?, toMembers?_document ih, reread]

namespace Reader

variable {cs rest t : List Char}

theorem value?_skipBlanks (fuel : Nat) (cs : List Char) :
    value? fuel (skipBlanks cs) = value? fuel cs := by
  cases fuel with
  | zero => rfl
  | succ fuel => rw [value?, value?, skipBlanks_skipBlanks]

theorem items?_skipBlanks (fuel : Nat) (cs : List Char) :
    items? fuel (skipBlanks cs) = items? fuel cs := by
  cases fuel with
  | zero => rfl
  | succ fuel => rw [items?, items?, value?_skipBlanks]

theorem member?_skipBlanks (fuel : Nat) (cs : List Char) :
    member? fuel (skipBlanks cs) = member? fuel cs := by
  cases fuel with
  | zero => rfl
  | succ fuel => rw [member?, member?, skipBlanks_skipBlanks]

theorem members?_skipBlanks (fuel : Nat) (cs : List Char) :
    members? fuel (skipBlanks cs) = members? fuel cs := by
  cases fuel with
  | zero => rfl
  | succ fuel => rw [members?, members?, member?_skipBlanks]

theorem items?_bracket (fuel : Nat) (rest : List Char) : items? fuel (']' :: rest) = none := by
  match fuel with
  | 0 | 1 => rfl
  | fuel + 2 => rfl

theorem members?_brace (fuel : Nat) (rest : List Char) : members? fuel ('}' :: rest) = none := by
  match fuel with
  | 0 | 1 => rfl
  | fuel + 2 => rfl

theorem value?_array {fuel : Nat} {docs : List Document}
    (h : items? fuel cs = some (docs, rest)) :
    value? (fuel + 1) ('[' :: cs) = some (.array docs, rest) := by
  rw [← items?_skipBlanks] at h
  rw [value?, skipBlanks_of_isBlank_eq_false rfl]
  simp only
  split
  · next heq => rw [heq, items?_bracket] at h; cases h
  · rw [h]; rfl

theorem value?_object {fuel : Nat} {docs : List (Option String × Document)}
    (h : members? fuel cs = some (docs, rest)) :
    value? (fuel + 1) ('{' :: cs) = some (.object docs, rest) := by
  rw [← members?_skipBlanks] at h
  rw [value?, skipBlanks_of_isBlank_eq_false rfl]
  simp only
  split
  · next heq => rw [heq, members?_brace] at h; cases h
  · rw [h]; rfl

theorem isBlank_of_isNumeral {c : Char} (h : c = '-' ∨ c.isDigit) : isBlank c = false := by
  rw [isBlank]
  simp only [Bool.or_eq_false_iff, beq_eq_false_iff_ne]
  refine ⟨⟨⟨?_, ?_⟩, ?_⟩, ?_⟩ <;> (rintro rfl; exact absurd h (by decide))

theorem value?_literal {l : Literal} (h : literal? cs = some (l, rest)) (fuel : Nat) :
    value? (fuel + 1) cs = some (.number l.value?, rest) := by
  obtain ⟨c, tail, rfl, hc⟩ := exists_cons_of_literal? h
  rw [value?, skipBlanks_of_isBlank_eq_false (isBlank_of_isNumeral hc)]
  split
  case h_7 =>
    rw [h]
    rfl
  all_goals
    next heq =>
      cases heq
      exact absurd hc (by decide)

theorem literal?_of_value? {fuel : Nat} {v : Option JsonNumber}
    (h : value? fuel cs = some (.number v, rest)) :
    ∃ l, literal? (skipBlanks cs) = some (l, rest) ∧ l.value? = v := by
  cases fuel with
  | zero => cases h
  | succ fuel =>
    rw [value?] at h
    split at h
    case h_7 =>
      obtain ⟨⟨l, left⟩, hl, heq⟩ := Option.map_eq_some_iff.mp h
      cases heq
      exact ⟨l, hl, rfl⟩
    case h_5 | h_6 =>
      split at h
      · cases h
      · obtain ⟨_, -, heq⟩ := Option.map_eq_some_iff.mp h
        cases heq
    case h_4 =>
      obtain ⟨_, -, heq⟩ := Option.map_eq_some_iff.mp h
      cases heq
    all_goals cases h

theorem document?_eq_some {doc : Document} : document? cs = some doc ↔
    ∃ rest, value? (fuel cs) cs = some (doc, rest) ∧ skipBlanks rest = [] := by
  rw [document?]
  cases value? (fuel cs) cs with
  | none => simp
  | some r => simp [List.isEmpty_iff, and_comm, Prod.ext_iff]

theorem toJson?_eq_number {depth : Nat} {doc : Document} {n : JsonNumber}
    (h : doc.toJson? depth = some (.number n)) : doc = .number (some n) := by
  cases doc <;> cases depth <;> simp_all [Document.toJson?]

theorem value?_number {n : JsonNumber} (h : read? (numberText n) = some (.number n))
    (ht : Stops t) (fuel : Nat) : ∃ left,
      value? (fuel + 1) ((numberText n).toList ++ t) = some (.number (some n), left) ∧
        skipBlanks left = skipBlanks t := by
  obtain ⟨doc, hdoc, hjson⟩ := Option.bind_eq_some_iff.mp h
  obtain ⟨rest, hvalue, hrest⟩ := document?_eq_some.mp hdoc
  rw [toJson?_eq_number hjson] at hvalue
  obtain ⟨l, hl, hn⟩ := literal?_of_value? hvalue
  have hne : skipBlanks (numberText n).toList ≠ [] := by
    obtain ⟨c, tail, heq, -⟩ := exists_cons_of_literal? hl
    simp [heq]
  refine ⟨rest ++ t, ?_, skipBlanks_append_of_eq_nil t hrest⟩
  rw [← value?_skipBlanks, skipBlanks_append t hne, value?_literal (literal?_append ht hl), hn]

variable {l : Layout}

theorem skipBlanks_append_of_isBlank {blanks : List Char} (h : ∀ c ∈ blanks, isBlank c)
    (t : List Char) : skipBlanks (blanks ++ t) = skipBlanks t :=
  List.dropWhile_append_of_pos h

@[simp] theorem skipBlanks_gap (depth : Nat) (t : List Char) :
    skipBlanks (l.gap depth ++ t) = skipBlanks t :=
  skipBlanks_append_of_isBlank (l.gap_blank depth) t

@[simp] theorem skipBlanks_spaces (t : List Char) : skipBlanks (l.space ++ t) = skipBlanks t :=
  skipBlanks_append_of_isBlank l.space_blank t

theorem stops_of_isBlank {c : Char} (h : isBlank c) (t : List Char) : Stops (c :: t) := by
  simp only [isBlank, Bool.or_eq_true, beq_iff_eq] at h
  rcases h with ((rfl | rfl) | rfl) | rfl <;> simp [Stops]

theorem stops_gap (depth : Nat) (ht : Stops t) : Stops (l.gap depth ++ t) := by
  have hblank := l.gap_blank depth
  cases hgap : l.gap depth with
  | nil => exact ht
  | cons c rest =>
    rw [hgap] at hblank
    exact stops_of_isBlank (hblank c List.mem_cons_self) _

theorem stops_comma (t : List Char) : Stops (',' :: t) := by simp [Stops]

theorem stops_bracket (t : List Char) : Stops (']' :: t) := by simp [Stops]

theorem stops_brace (t : List Char) : Stops ('}' :: t) := by simp [Stops]

/-- The value is read in every layout and before other text. There has to be fuel for three calls
for each character. -/
def Reads (j : Json) : Prop :=
  ∀ (l : Layout) depth fuel t, Stops t → 3 * (l.chars depth j).length ≤ fuel + 1 → ∃ left,
    value? (fuel + 1) (l.chars depth j ++ t) = some (j.document, left) ∧
      skipBlanks left = skipBlanks t

theorem items?_chars {items : List Json} (hne : items ≠ []) (h : ∀ j ∈ items, Reads j)
    (depth fuel : Nat) (hstops : Stops t) (ht : skipBlanks t = ']' :: rest)
    (hfuel : 3 * (l.itemChars depth items).length + 3 ≤ fuel) :
    items? fuel (l.itemChars depth items ++ t) = some (items.map document, rest) := by
  induction items generalizing fuel with
  | nil => exact absurd rfl hne
  | cons j items ih =>
    obtain ⟨hj, hitems⟩ := List.forall_mem_cons.mp h
    obtain ⟨fuel, rfl⟩ := Nat.exists_eq_add_of_le' (show 2 ≤ fuel by omega)
    have hgap (cs : List Char) : value? (fuel + 1) (l.gap depth ++ cs) = value? (fuel + 1) cs := by
      rw [← value?_skipBlanks, skipBlanks_gap, value?_skipBlanks]
    cases items with
    | nil =>
      simp only [Layout.itemChars, List.length_append] at hfuel
      obtain ⟨left, hvalue, hleft⟩ := hj l depth fuel t hstops (by omega)
      rw [Layout.itemChars, List.append_assoc, items?, hgap, hvalue]
      simp only [hleft, ht, List.map_cons, List.map_nil]
    | cons j' items =>
      simp only [Layout.itemChars, List.length_append, List.length_cons] at hfuel
      have hrest := ih (by simp) hitems (fuel + 1) (by omega)
      obtain ⟨left, hvalue, hleft⟩ := hj l depth fuel
        (',' :: (l.itemChars depth (j' :: items) ++ t)) (stops_comma _) (by omega)
      simp only [Layout.itemChars, List.append_assoc, List.cons_append]
      rw [items?, hgap, hvalue]
      simp only [hleft, skipBlanks_comma, hrest, List.map_cons, Option.map_some]

theorem member?_chars {v : Json} (h : Reads v) (key : String) (depth fuel : Nat) (ht : Stops t)
    (hfuel : 3 * (l.chars depth v).length ≤ fuel + 1) : ∃ left,
      member? (fuel + 2) (l.gap depth ++
        (stringChars key ++ ':' :: (l.space ++ (l.chars depth v ++ t)))) =
          some ((some key, v.document), left) ∧ skipBlanks left = skipBlanks t := by
  obtain ⟨left, hvalue, hleft⟩ := h l depth fuel t ht hfuel
  refine ⟨left, ?_, hleft⟩
  rw [← value?_skipBlanks, ← skipBlanks_spaces (l := l), value?_skipBlanks] at hvalue
  rw [member?, skipBlanks_gap]
  simp only [stringChars, List.append_assoc, List.cons_append, List.nil_append, skipBlanks_quote,
    string?_escaped, skipBlanks_colon, hvalue]
  rfl

theorem members?_chars {members : List (String × Json)} (hne : members ≠ [])
    (h : ∀ m ∈ members, Reads m.2) (depth fuel : Nat) (hstops : Stops t)
    (ht : skipBlanks t = '}' :: rest)
    (hfuel : 3 * (l.memberChars depth members).length + 3 ≤ fuel) :
    members? fuel (l.memberChars depth members ++ t) =
      some (members.map fun m => (some m.1, m.2.document), rest) := by
  induction members generalizing fuel with
  | nil => exact absurd rfl hne
  | cons m members ih =>
    obtain ⟨key, v⟩ := m
    obtain ⟨hv, hmembers⟩ : Reads v ∧ ∀ m ∈ members, Reads m.2 := List.forall_mem_cons.mp h
    obtain ⟨fuel, rfl⟩ := Nat.exists_eq_add_of_le' (show 3 ≤ fuel by omega)
    cases members with
    | nil =>
      simp only [Layout.memberChars, List.length_append, List.length_cons] at hfuel
      obtain ⟨left, hmember, hleft⟩ := member?_chars (l := l) hv key depth fuel hstops (by omega)
      simp only [Layout.memberChars, List.append_assoc, List.cons_append]
      rw [members?, hmember]
      simp only [hleft, ht, List.map_cons, List.map_nil]
    | cons m' members =>
      simp only [Layout.memberChars, List.length_append, List.length_cons] at hfuel
      have hrest := ih (by simp) hmembers (fuel + 2) (by omega)
      obtain ⟨left, hmember, hleft⟩ := member?_chars (l := l) hv key depth fuel
        (stops_comma (l.memberChars depth (m' :: members) ++ t)) (by omega)
      simp only [Layout.memberChars, List.append_assoc, List.cons_append]
      rw [members?, hmember]
      simp only [hleft, skipBlanks_comma, hrest, List.map_cons, Option.map_some]

theorem value?_string (s : String) (fuel : Nat) (t : List Char) :
    value? (fuel + 1) (stringChars s ++ t) = some (.string (some s), t) := by
  simp only [stringChars, List.cons_append, List.append_assoc, List.nil_append, value?,
    skipBlanks_quote, string?_escaped]
  rfl

theorem numberText_of_not_isFinite {n : JsonNumber} (h : ¬ n.isFinite) : numberText n = "null" := by
  cases n with
  | integer n => exact absurd rfl h
  | real x =>
    have hx : x.isNaN || x.isInf := by
      rwa [JsonNumber.isFinite, Number.isFinite_eq, Bool.not_eq_true, Bool.not_eq_false'] at h
    rw [numberText, realText, if_pos hx]

theorem reads_of_legible {depth : Nat} {j : Json} (h : Legible depth j) : Reads j := by
  induction h with
  | null => exact fun _ _ _ t _ _ => ⟨t, rfl, rfl⟩
  | @bool _ b => cases b <;> exact fun _ _ _ t _ _ => ⟨t, rfl, rfl⟩
  | @number n _ hread =>
    intro l indent fuel t ht hfuel
    rw [Layout.chars, document]
    split
    · next hn => exact value?_number (hread hn) ht fuel
    · next hn =>
      rw [numberText_of_not_isFinite hn]
      exact ⟨t, rfl, rfl⟩
  | @string _ s => exact fun _ _ fuel t _ _ => ⟨t, value?_string s fuel t, rfl⟩
  | @array items depth _ ih =>
    cases items with
    | nil => exact fun _ _ _ t _ _ => ⟨t, rfl, rfl⟩
    | cons j items =>
      intro l indent fuel t ht hfuel
      simp only [Layout.chars, List.length_append, List.length_cons] at hfuel
      have hitems := items?_chars (l := l) (List.cons_ne_nil j items) ih (indent + 1) fuel
        (stops_gap indent (stops_bracket t)) (skipBlanks_gap (l := l) indent (']' :: t)) (by omega)
      refine ⟨t, ?_, rfl⟩
      simp only [Layout.chars, List.append_assoc, List.cons_append, List.nil_append]
      rw [value?_array hitems, document, documentItems_eq]
  | @object members depth _ ih =>
    cases members with
    | nil => exact fun _ _ _ t _ _ => ⟨t, rfl, rfl⟩
    | cons m members =>
      intro l indent fuel t ht hfuel
      simp only [Layout.chars, List.length_append, List.length_cons] at hfuel
      have hmembers := members?_chars (l := l) (List.cons_ne_nil m members) ih (indent + 1) fuel
        (stops_gap indent (stops_brace t)) (skipBlanks_gap (l := l) indent ('}' :: t)) (by omega)
      refine ⟨t, ?_, rfl⟩
      simp only [Layout.chars, List.append_assoc, List.cons_append, List.nil_append]
      rw [value?_object hmembers, document, documentMembers_eq]

end Reader

theorem read?_chars {j : Json} (h : Legible n j) (l : Layout) :
    Document.read? (String.ofList (l.chars 0 j)) = some j.document := by
  obtain ⟨left, hvalue, hleft⟩ := Reader.reads_of_legible h l 0 (3 * (l.chars 0 j).length + 2) []
    (by simp [Reader.Stops]) (by omega)
  rw [List.append_nil] at hvalue
  rw [Document.read?, String.toList_ofList]
  exact Reader.document?_eq_some.mpr ⟨left, hvalue, hleft⟩

theorem read?_pretty {j : Json} (h : Legible maxDepth j) : read? j.pretty = some j.reread := by
  rw [read?, pretty, prettyChars_eq, read?_chars h, Option.bind_some, toJson?_document h]

theorem read?_compact {j : Json} (h : Legible n j) :
    Document.read? j.compact = some j.document := by
  rw [compact, compactChars_eq j 0, read?_chars h]

instance decidableReadReal (text : String) (x : Float) :
    Decidable (read? text = some (.real x)) :=
  match read? text with
  | some (.number (.real y)) => decidable_of_iff (y = x) (by simp [real])
  | some (.number (.integer _)) | none | some .null | some (.bool _) | some (.string _)
  | some (.array _) | some (.object _) => isFalse (by simp [real])

end Json

end SceneMarkup
