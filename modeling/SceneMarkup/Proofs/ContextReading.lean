import SceneMarkup.Proofs.JsonText
import SceneMarkup.Proofs.Lines
import SceneMarkup.Proofs.Literal
import SceneMarkup.Proofs.Numerals
import SceneMarkup.Proofs.References

namespace SceneMarkup

inductive LiteralTree
  | numeral (text : String)
  | bool (b : Bool)
  | text (t : String)
  | triple (x y z : String)
  | group (entries : List (String × LiteralTree))

namespace LiteralTree

open Json.Reader (isBlank skipBlanks)

def numeral? (cs : List Char) : Option (String × List Char) :=
  let (word, rest) := cs.span Number.continuesNumeral
  if Number.isNumeral word then some (String.ofList word, rest) else none

def item? (stop : Char) (cs : List Char) : Option (String × List Char) :=
  match numeral? (skipBlanks cs) with
  | some (x, c :: rest) => if c = stop then some (x, rest) else none
  | _ => none

def triple? (cs : List Char) : Option (LiteralTree × List Char) := do
  let (x, rest) ← item? ',' cs
  let (y, rest) ← item? ',' rest
  let (z, rest) ← item? ']' rest
  return (.triple x y z, rest)

def key? (cs : List Char) : Option (String × List Char) :=
  (Text.quoted? cs).or (Naming.bareName? cs)

mutual

def value? : Nat → List Char → Option (LiteralTree × List Char)
  | 0, _ => none
  | fuel + 1, cs =>
    match skipBlanks cs with
    | 't' :: 'r' :: 'u' :: 'e' :: rest => some (.bool true, rest)
    | 'f' :: 'a' :: 'l' :: 's' :: 'e' :: rest => some (.bool false, rest)
    | '\x27' :: rest => (Text.quoted? ('\x27' :: rest)).map fun (t, rest) => (.text t, rest)
    | '[' :: rest => triple? rest
    | '{' :: rest => (entries? fuel rest).map fun (entries, rest) => (.group entries, rest)
    | rest => (numeral? rest).map fun (x, rest) => (.numeral x, rest)

def entries? : Nat → List Char → Option (List (String × LiteralTree) × List Char)
  | 0, _ => none
  | fuel + 1, cs =>
    match skipBlanks cs with
    | '}' :: rest => some ([], rest)
    | rest =>
      match pair? fuel rest with
      | none => none
      | some (e, rest) =>
        match skipBlanks rest with
        | ',' :: rest => (entries? fuel rest).map fun (entries, rest) => (e :: entries, rest)
        | '}' :: rest => some ([e], rest)
        | _ => none

def pair? : Nat → List Char → Option ((String × LiteralTree) × List Char)
  | 0, _ => none
  | fuel + 1, cs =>
    match key? cs with
    | none => none
    | some (key, rest) =>
      match skipBlanks rest with
      | ':' :: rest => (value? fuel rest).map fun (v, rest) => ((key, v), rest)
      | _ => none

end

def fuel (cs : List Char) : Nat := 2 * cs.length + 1

/-- The tree of the default context that a text declares, and what follows its line. -/
def context? (cs : List Char) : Option (LiteralTree × List Char) :=
  match ("const " ++ defaultContextName ++ " = ").toList.isPrefixOf? cs with
  | none => none
  | some rest =>
    match value? (fuel rest) rest with
    | some (tree, '\n' :: rest) => some (tree, rest)
    | _ => none

end LiteralTree

def componentText (p : Number.Precision) (angular : Bool) (x : Float) : String :=
  (if angular then p.angle x else p.numeral x).text

namespace ContextValue

mutual

def tree (p : Number.Precision) : ContextValue → LiteralTree
  | number x => .numeral (p.numeral x).text
  | bool b => .bool b
  | text t => .text t
  | vector v angular =>
    .triple (componentText p angular v.x) (componentText p angular v.y)
      (componentText p angular v.z)
  | group entries => .group (entryTrees p entries)

def entryTrees (p : Number.Precision) :
    List (String × ContextValue) → List (String × LiteralTree)
  | [] => []
  | (key, v) :: rest => (key, v.tree p) :: entryTrees p rest

end

theorem entryTrees_eq (p : Number.Precision) (entries : List (String × ContextValue)) :
    entryTrees p entries = entries.map fun e => (e.1, e.2.tree p) := by
  induction entries with
  | nil => rfl
  | cons e rest ih => simp [entryTrees, ih]

theorem tree_group (p : Number.Precision) (entries : List (String × ContextValue)) :
    (group entries).tree p = .group (entries.map fun e => (e.1, e.2.tree p)) := by
  rw [tree, entryTrees_eq]

end ContextValue

namespace LiteralTree

open Json.Reader Number

variable {p : Precision} {cs t : List Char}

def EndsNumeral (t : List Char) : Prop := ∀ c ∈ t.head?, continuesNumeral c = false

theorem numeral?_text (n : Numeral) (ht : EndsNumeral t) :
    numeral? (n.text.toList ++ t) = some (n.text, t) := by
  have hn := isNumeral_text n
  rw [numeral?, Text.span_append (continuesNumeral_of_isNumeral hn) ht]
  simp only [hn, if_true, String.ofList_toList]

theorem isBlank_of_startsNumeral {c : Char} (h : startsNumeral c) : isBlank c = false := by
  by_contra hblank
  simp only [isBlank, Bool.not_eq_false, Bool.or_eq_true, beq_iff_eq] at hblank
  rcases hblank with ((rfl | rfl) | rfl) | rfl <;> exact absurd h (by decide)

theorem skipBlanks_numeral (n : Numeral) (t : List Char) :
    skipBlanks (n.text.toList ++ t) = n.text.toList ++ t := by
  obtain ⟨c, tail, htext, hc⟩ := exists_cons_of_isNumeral (isNumeral_text n)
  rw [htext]
  exact skipBlanks_of_isBlank_eq_false (isBlank_of_startsNumeral hc)

theorem item?_text (n : Numeral) {stop : Char} (hstop : continuesNumeral stop = false)
    (rest : List Char) : item? stop (n.text.toList ++ stop :: rest) = some (n.text, rest) := by
  have hends : EndsNumeral (stop :: rest) := by simpa [EndsNumeral] using hstop
  rw [item?, skipBlanks_numeral, numeral?_text n hends]
  exact if_pos rfl

theorem item?_space (stop : Char) (cs : List Char) : item? stop (' ' :: cs) = item? stop cs := rfl

theorem triple?_vectorLiteral (v : Vec3) (angular : Bool) (t : List Char) :
    ∃ rest, (vectorLiteral p v angular).toList ++ t = '[' :: rest ∧
      triple? rest = some ((ContextValue.vector v angular).tree p, t) := by
  refine ⟨(componentText p angular v.x).toList ++ ',' :: ' ' ::
    ((componentText p angular v.y).toList ++ ',' :: ' ' ::
      ((componentText p angular v.z).toList ++ ']' :: t)), ?_, ?_⟩
  · simp [vectorLiteral, vectorText, Vec3.toList, componentText, String.intercalate_cons_cons]
  · have hcomma : continuesNumeral ',' = false := by decide
    have hbracket : continuesNumeral ']' = false := by decide
    simp only [triple?, componentText, ContextValue.tree, item?_space, item?_text _ hcomma,
      item?_text _ hbracket, Option.bind_eq_bind, Option.bind_some]
    rfl

theorem exists_cons_of_isBareIdentifier {name : String} (h : Naming.isBareIdentifier name) :
    ∃ c tail, name.toList = c :: tail ∧ Naming.startsIdentifier c := by
  rw [Naming.isBareIdentifier, Bool.and_eq_true] at h
  cases hname : name.toList with
  | nil =>
    rw [hname] at h
    cases h.1
  | cons c tail =>
    rw [hname, Naming.hasIdentifierShape, Bool.and_eq_true] at h
    exact ⟨c, tail, rfl, h.1.1⟩

theorem isBlank_of_startsIdentifier {c : Char} (h : Naming.startsIdentifier c) :
    isBlank c = false := by
  by_contra hblank
  simp only [isBlank, Bool.not_eq_false, Bool.or_eq_true, beq_iff_eq] at hblank
  rcases hblank with ((rfl | rfl) | rfl) | rfl <;> exact absurd h (by decide)

theorem exists_cons_of_objectKey (key : String) :
    ∃ c tail, (Naming.objectKey key).toList = c :: tail ∧ isBlank c = false ∧ c ≠ '}' := by
  rw [Naming.objectKey]
  split
  case isTrue h =>
    obtain ⟨c, tail, hkey, hc⟩ := exists_cons_of_isBareIdentifier h
    refine ⟨c, tail, hkey, isBlank_of_startsIdentifier hc, ?_⟩
    rintro rfl
    exact absurd hc (by decide)
  case isFalse =>
    rw [Text.quote, String.toList_ofList]
    exact ⟨'\x27', _, rfl, rfl, by decide⟩

theorem key?_objectKey (key : String) (rest : List Char) :
    key? ((Naming.objectKey key).toList ++ ':' :: rest) = some (key, ':' :: rest) := by
  rw [key?, Naming.objectKey]
  split
  case isTrue h =>
    have hends : Naming.EndsName (':' :: rest) := by
      rintro c hc
      cases hc
      decide
    obtain ⟨c, tail, hkey, hc⟩ := exists_cons_of_isBareIdentifier h
    have hquoted : Text.quoted? (key.toList ++ ':' :: rest) = none := by
      rw [hkey, List.cons_append, Text.quoted?]
      intro _ heq
      cases heq
      exact absurd hc (by decide)
    rw [hquoted, Option.none_or, Naming.bareName?_append h hends]
  case isFalse => rw [Text.quoted?_quote, Option.some_or]

theorem endsNumeral_comma (t : List Char) : EndsNumeral (',' :: t) := by
  simp [EndsNumeral, show continuesNumeral ',' = false by decide]

theorem value?_space (fuel : Nat) (cs : List Char) : value? fuel (' ' :: cs) = value? fuel cs := by
  cases fuel with
  | zero => rfl
  | succ fuel =>
    rw [value?, value?]
    rfl

theorem entries?_blanks {blanks : List Char} (h : ∀ c ∈ blanks, isBlank c) (fuel : Nat)
    (cs : List Char) : entries? fuel (blanks ++ cs) = entries? fuel cs := by
  cases fuel with
  | zero => rfl
  | succ fuel => rw [entries?, entries?, skipBlanks_append_of_isBlank h]

theorem isBlank_padding (depth : Nat) : ∀ c ∈ Text.padding depth, isBlank c := fun _ hc => by
  rw [List.eq_of_mem_replicate hc]
  rfl

theorem isBlank_feed : ∀ c ∈ ['\n'], isBlank c := by simp [isBlank]

theorem value?_numeral (n : Numeral) (fuel : Nat) (ht : EndsNumeral t) :
    value? (fuel + 1) (n.text.toList ++ t) = some (.numeral n.text, t) := by
  obtain ⟨c, tail, htext, hc⟩ := exists_cons_of_isNumeral (isNumeral_text n)
  have hnumeral := numeral?_text n ht
  rw [value?, skipBlanks_numeral]
  rw [htext, List.cons_append] at hnumeral ⊢
  split
  case h_6 => rw [hnumeral, Option.map_some]
  all_goals
    next heq =>
      obtain ⟨rfl, -⟩ := List.cons.inj heq
      exact absurd hc (by decide)

def Reads (p : Precision) (v : ContextValue) : Prop :=
  ∀ depth fuel t, EndsNumeral t → 2 * ((v.literalAt p depth).toList ++ t).length < fuel →
    value? fuel ((v.literalAt p depth).toList ++ t) = some (v.tree p, t)

theorem pair?_literal {v : ContextValue} (h : Reads p v) (key : String) (depth fuel : Nat)
    (ht : EndsNumeral t)
    (hfuel : 2 * ((v.literalAt p depth).toList ++ t).length < fuel) :
    pair? (fuel + 1) ((Naming.objectKey key).toList ++ ':' :: ' ' ::
      ((v.literalAt p depth).toList ++ t)) = some ((key, v.tree p), t) := by
  rw [pair?, key?_objectKey]
  simp only [skipBlanks_colon, value?_space, h depth fuel t ht hfuel, Option.map_some]

theorem entries?_of_pair? {fuel : Nat} {key : String} {e : String × LiteralTree}
    {rest rest' : List Char}
    (h : pair? fuel ((Naming.objectKey key).toList ++ rest) = some (e, ',' :: rest')) :
    entries? (fuel + 1) ((Naming.objectKey key).toList ++ rest) =
      (entries? fuel rest').map fun (entries, rest) => (e :: entries, rest) := by
  obtain ⟨c, tail, hkey, hblank, hbrace⟩ := exists_cons_of_objectKey key
  rw [hkey, List.cons_append] at h ⊢
  rw [entries?, skipBlanks_of_isBlank_eq_false hblank]
  split
  case h_1 heq =>
    cases heq
    exact absurd rfl hbrace
  case h_2 =>
    rw [h]
    rfl

theorem entries?_literal {entries : List (String × ContextValue)} (h : ∀ e ∈ entries, Reads p e.2)
    {blanks : List Char} (hblanks : ∀ c ∈ blanks, isBlank c) (depth fuel : Nat) (t : List Char)
    (hfuel : 2 * ((ContextValue.entriesLiteralAt p depth entries).toList ++
      (blanks ++ '}' :: t)).length < fuel) :
    entries? fuel ((ContextValue.entriesLiteralAt p depth entries).toList ++
      (blanks ++ '}' :: t)) = some (entries.map fun e => (e.1, e.2.tree p), t) := by
  induction entries generalizing fuel with
  | nil =>
    obtain ⟨fuel, rfl⟩ := Nat.exists_eq_add_of_lt (Nat.zero_lt_of_lt hfuel)
    rw [ContextValue.entriesLiteralAt, String.toList_empty, List.nil_append,
      entries?_blanks hblanks]
    rfl
  | cons e rest ih =>
    obtain ⟨key, v⟩ := e
    have hv : Reads p v := h (key, v) List.mem_cons_self
    have hrest : ∀ e ∈ rest, Reads p e.2 := fun e he => h e (List.mem_cons_of_mem _ he)
    have htext (t : List Char) :
        (ContextValue.entriesLiteralAt p depth ((key, v) :: rest)).toList ++ t =
          Text.padding depth ++ ((Naming.objectKey key).toList ++ ':' :: ' ' ::
            ((v.literalAt p depth).toList ++ ',' :: (['\n'] ++
              ((ContextValue.entriesLiteralAt p depth rest).toList ++ t)))) := by
      simp [ContextValue.entriesLiteralAt]
    rw [htext] at hfuel ⊢
    simp only [List.length_append, List.length_cons, List.length_nil] at hfuel
    obtain ⟨fuel, rfl⟩ : ∃ f, fuel = f + 1 + 1 := ⟨fuel - 2, by omega⟩
    have hentry := pair?_literal hv key depth fuel
      (t := ',' :: (['\n'] ++ ((ContextValue.entriesLiteralAt p depth rest).toList ++
        (blanks ++ '}' :: t)))) (endsNumeral_comma _) (by simp; omega)
    have hlater := ih hrest (fuel + 1) (by simp; omega)
    rw [entries?_blanks (isBlank_padding depth), entries?_of_pair? hentry,
      entries?_blanks isBlank_feed, hlater]
    rfl

theorem value?_leaf (l : Leaf) (depth fuel : Nat) (ht : EndsNumeral t) :
    value? (fuel + 1) ((l.value.literalAt p depth).toList ++ t) = some (l.value.tree p, t) := by
  cases l with
  | number x => exact value?_numeral (p.numeral x) fuel ht
  | bool b =>
    rw [Leaf.value, ContextValue.literalAt]
    cases b <;> rfl
  | text t' =>
    have hquoted := Text.quoted?_quote t' t
    rw [Leaf.value, ContextValue.literalAt]
    rw [Text.quote, String.toList_ofList, Text.quoteChars, List.cons_append] at hquoted ⊢
    rw [value?, skipBlanks_of_isBlank_eq_false rfl]
    simp only [hquoted, Option.map_some]
    rfl
  | vector v angular =>
    obtain ⟨rest, htext, hread⟩ := triple?_vectorLiteral (p := p) v angular t
    rw [Leaf.value, ContextValue.literalAt, htext]
    exact hread

theorem value?_group {fuel : Nat} {cs rest : List Char} {entries : List (String × LiteralTree)}
    (h : entries? fuel cs = some (entries, rest)) :
    value? (fuel + 1) ('{' :: cs) = some (.group entries, rest) := by
  rw [value?, skipBlanks_of_isBlank_eq_false rfl]
  simp only [h, Option.map_some]

theorem exists_group_literal (entries : List (String × ContextValue)) (depth : Nat) :
    ∃ before after : List Char, (∀ c ∈ before, isBlank c) ∧ (∀ c ∈ after, isBlank c) ∧
      ∀ t, ((ContextValue.group entries).literalAt p depth).toList ++ t =
        '{' :: (before ++ ((ContextValue.entriesLiteralAt p (depth + 1) entries).toList ++
          (after ++ '}' :: t))) := by
  by_cases h : entries = []
  · subst h
    refine ⟨[], [], List.forall_mem_nil _, List.forall_mem_nil _, fun t => ?_⟩
    rw [ContextValue.literalAt, ContextValue.entriesLiteralAt]
    rfl
  · refine ⟨['\n'], Text.padding depth, isBlank_feed, isBlank_padding depth, fun t => ?_⟩
    simp [ContextValue.literalAt_group h, Text.braced]

theorem reads (p : Precision) (v : ContextValue) : Reads p v := by
  induction v with
  | leaf l =>
    intro depth fuel t ht hfuel
    cases fuel with
    | zero => omega
    | succ fuel => exact value?_leaf l depth fuel ht
  | group entries ih =>
    intro depth fuel t _ hfuel
    obtain ⟨before, after, hbefore, hafter, htext⟩ := exists_group_literal (p := p) entries depth
    rw [htext] at hfuel ⊢
    simp only [List.length_append, List.length_cons] at hfuel
    cases fuel with
    | zero => omega
    | succ fuel =>
      have hentries := entries?_literal ih hafter (depth + 1) fuel t (by simp; omega)
      rw [ContextValue.tree_group]
      refine value?_group ?_
      rw [entries?_blanks hbefore, hentries]

end LiteralTree

theorem LiteralTree.context?_contextBlock (p : Number.Precision) (v : ContextValue)
    (after : List Char) :
    context? ((contextBlock p v).toList ++ after) = some (v.tree p, after) := by
  let literal := (v.literalAt p 0).toList ++ '\n' :: after
  have htext : (contextBlock p v).toList ++ after =
      ("const " ++ defaultContextName ++ " = ").toList ++ literal := by
    simp [literal, contextBlock, ContextValue.literal]
  have hends : EndsNumeral ('\n' :: after) := by
    simp [EndsNumeral, show Number.continuesNumeral '\n' = false by decide]
  have hread : value? (fuel literal) literal = some (v.tree p, '\n' :: after) :=
    reads p v 0 _ _ hends (Nat.lt_succ_self _)
  rw [htext, context?, Text.isPrefixOf?_append]
  simp only [hread]

/-- The declaration of a context is read as its tree, and the reader stops where its line ends. So
whatever the keys and the texts are, all that follows in a unit is read by itself. -/
theorem context_rereads (p : Number.Precision) (v : ContextValue) :
    (∀ after, LiteralTree.context? ((contextBlock p v).toList ++ after) =
      some (v.tree p, after)) ∧
    ∀ plan : Plan, ∃ before after,
      let block := contextBlock plan.setting.precision plan.unit.context
      plan.unit.text = before ++ (block ++ after) ∧
        LiteralTree.context? (block ++ after).toList =
          some (plan.unit.context.tree plan.setting.precision, after.toList) := by
  refine ⟨LiteralTree.context?_contextBlock p v, fun plan => ?_⟩
  obtain ⟨before, after, htext⟩ : Text.Within
      (contextBlock plan.setting.precision plan.unit.context) plan.unit.text :=
    Plan.within_text (by simp [Plan.blocks, Plan.unit])
  refine ⟨before, after, htext.trans (String.append_assoc ..), ?_⟩
  rw [String.toList_append]
  exact LiteralTree.context?_contextBlock _ _ _

end SceneMarkup
