import Mathlib.Tactic.Basic
import SceneMarkup.CommandLine.Program

namespace SceneMarkup.CommandLine

namespace Program

inductive ReadOnly {ε α : Type} : Program ε α → Prop
  | done (a : α) : ReadOnly (done a)
  | fail (e : ε) : ReadOnly (fail e)
  | read {path : String} {next : Option String → Program ε α} :
    (∀ content, ReadOnly (next content)) → ReadOnly (read path next)

inductive Blind {ε α : Type} : Program ε α → Prop
  | done (a : α) : Blind (done a)
  | fail (e : ε) : Blind (fail e)
  | print {text : String} {next : Program ε α} : Blind next → Blind (print text next)
  | write {path content : String} {next : Bool → Program ε α} :
    (∀ written, Blind (next written)) → Blind (write path content next)

/-- Nothing is read after something was printed or written, whatever was read before. -/
inductive ReadsFirst {ε α : Type} : Program ε α → Prop
  | read {path : String} {next : Option String → Program ε α} :
    (∀ content, ReadsFirst (next content)) → ReadsFirst (read path next)
  | rest {p : Program ε α} : Blind p → ReadsFirst p

theorem ReadOnly.bind {p : Program ε α} {f : α → Program ε β} (h : p.ReadOnly)
    (hf : ∀ a, (f a).ReadOnly) : (p.bind f).ReadOnly := by
  induction h with
  | done a => exact hf a
  | fail e => exact .fail e
  | read _ ih => exact .read ih

theorem Blind.bind {p : Program ε α} {f : α → Program ε β} (h : p.Blind)
    (hf : ∀ a, (f a).Blind) : (p.bind f).Blind := by
  induction h with
  | done a => exact hf a
  | fail e => exact .fail e
  | print _ ih => exact .print ih
  | write _ ih => exact .write ih

theorem ReadOnly.readsFirst {p : Program ε α} {f : α → Program ε β} (h : p.ReadOnly)
    (hf : ∀ a, (f a).Blind) : (p.bind f).ReadsFirst := by
  induction h with
  | done a => exact .rest (hf a)
  | fail e => exact .rest (.fail e)
  | read _ ih => exact .read ih

theorem readOnly_ofExcept (x : Except ε α) : (ofExcept x).ReadOnly := by
  cases x with
  | ok a => exact .done a
  | error e => exact .fail e

theorem readOnly_readFile (path : String) : (readFile path : Program ε _).ReadOnly :=
  .read .done

theorem blind_printText (text : String) : (printText text : Program ε _).Blind :=
  .print (.done ())

theorem blind_writeFile (path content : String) (e : ε) : (writeFile path content e).Blind := by
  apply Blind.write
  intro written
  cases written with
  | true => exact .done ()
  | false => exact .fail e

variable {fs : FileSystem σ}

theorem exec_bind (p : Program ε α) (f : α → Program ε β) (w : World σ) :
    (p.bind f).exec fs w =
      match p.exec fs w with
      | (.ok a, w) => (f a).exec fs w
      | (.error e, w) => (.error e, w) := by
  induction p generalizing w with
  | done a => rfl
  | fail e => rfl
  | read path next ih => exact ih _ w
  | print text next ih => exact ih _
  | write path content next ih =>
    rw [Program.bind, exec, exec]
    cases fs.write? w.directory path content with
    | none => exact ih false w
    | some d => exact ih true _

theorem ReadOnly.exec_eq {p : Program ε α} (h : p.ReadOnly) (w : World σ) :
    p.exec fs w = (p.answer (fs.read? w.directory), w) := by
  induction h with
  | done a => rfl
  | fail e => rfl
  | read _ ih => exact ih _

section

variable (reading : Reading)

@[simp] theorem answer_ofExcept (x : Except ε α) : (ofExcept x).answer reading = x := by
  cases x <;> rfl

@[simp] theorem answer_pure (a : α) : (pure a : Program ε α).answer reading = .ok a := rfl

@[simp] theorem answer_readFile (path : String) :
    (readFile path : Program ε _).answer reading = .ok (reading path) := rfl

theorem answer_bind (p : Program ε α) (f : α → Program ε β) :
    (p >>= f).answer reading = p.answer reading >>= fun a => (f a).answer reading := by
  induction p with
  | done a => rfl
  | fail e => rfl
  | read path next ih => exact ih _
  | print text next ih => exact ih
  | write path content next ih => exact ih false

@[simp] theorem answer_bind_eq_ok {p : Program ε α} {f : α → Program ε β} {b : β} :
    (p >>= f).answer reading = .ok b ↔
      ∃ a, p.answer reading = .ok a ∧ (f a).answer reading = .ok b := by
  rw [answer_bind]
  cases p.answer reading with
  | ok a => simp [Bind.bind, Except.bind]
  | error e => simp [Bind.bind, Except.bind]

end

end Program

/-- Files as contents by path. A path that leads to a file can be written to, and then just the
paths to that file have the new content. -/
structure FileSystem.Lawful (fs : FileSystem σ) (file? : String → Option κ) : Prop where
  isSome_write? : ∀ d path content, (fs.write? d path content).isSome = (file? path).isSome
  read?_same : ∀ {d d' path content}, fs.write? d path content = some d' → ∀ {other},
    file? other = file? path → fs.read? d' other = some content
  read?_other : ∀ {d d' path content}, fs.write? d path content = some d' → ∀ {other},
    file? other ≠ file? path → fs.read? d' other = fs.read? d other

namespace Directory

theorem member?_put (name content other : String) (files : List (String × String)) :
    Json.member? other (put name content files) =
      if name = other then some content else Json.member? other files := by
  induction files with
  | nil => rfl
  | cons file rest ih =>
    obtain ⟨n, c⟩ := file
    rw [put]
    by_cases hn : n = name
    · rw [if_pos hn, Json.member?, Json.member?, hn]
      split <;> rfl
    · rw [if_neg hn, Json.member?, Json.member?, ih]
      by_cases ho : n = other
      · rw [if_pos ho, if_pos ho, if_neg fun h => hn (ho.trans h.symm)]
      · rw [if_neg ho, if_neg ho]

theorem lawful : fileSystem.Lawful fileName? where
  isSome_write? d path content := by
    simp [fileSystem, write?]
  read?_same {d d' path content} h {other} ho := by
    obtain ⟨name, hname, rfl⟩ := Option.map_eq_some_iff.mp h
    simp [fileSystem, read?, ho, hname, member?_put]
  read?_other {d d' path content} h {other} ho := by
    obtain ⟨name, hname, rfl⟩ := Option.map_eq_some_iff.mp h
    cases hother : fileName? other with
    | none => simp [fileSystem, read?, hother]
    | some n =>
      have hne : name ≠ n := by
        intro he
        rw [hname, hother, he] at ho
        contradiction
      simp [fileSystem, read?, hother, member?_put, hne]

end Directory

end SceneMarkup.CommandLine
