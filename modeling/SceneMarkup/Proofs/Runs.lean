import SceneMarkup.CommandLine.Run
import SceneMarkup.Proofs.Defaults
import SceneMarkup.Proofs.Programs

namespace SceneMarkup.CommandLine

inductive Loads (reading : Reading) (parse? : String → Option α) :
    Option String → Option α → Prop
  | absent : Loads reading parse? none none
  | file {path : String} {a : α} : (reading path).bind parse? = some a →
    Loads reading parse? (some path) (some a)

/-- The unit that files and arguments give, with what the arguments say. -/
inductive Gives (reading : Reading) (args : List String) (a : Arguments) (unit : SourceUnit) : Prop
  | intro {scene : Scene} {options : Option Options} {saved : Option Json} :
    Arguments.parse args = .ok a →
    Loads reading Scene.read? a.scene (some scene) →
    Loads reading Options.read? a.options options →
    Loads reading Json.read? a.savedContext saved →
    generate scene (a.adjust (options.getD {})) saved = .ok unit →
    Gives reading args a unit

section

open Program

variable {reading : Reading} {source : Source} {parse? : String → Option α}

theorem decode_eq_ok {path : String} {content : Option String} {a : α} :
    decode source parse? path content = .ok a ↔ content.bind parse? = some a := by
  cases content with
  | none => simp [decode]
  | some text =>
    rw [decode, Option.bind_some]
    cases parse? text <;> simp

theorem answer_load_eq_ok {path : String} {a : α} :
    (load source parse? path).answer reading = .ok a ↔ (reading path).bind parse? = some a := by
  simp [load, decode_eq_ok]

theorem answer_loadAny_eq_ok {path : Option String} {a : Option α} :
    (loadAny (load source parse?) path).answer reading = .ok a ↔ Loads reading parse? path a := by
  cases path with
  | none =>
    constructor
    · rintro ⟨⟩
      exact .absent
    · rintro ⟨⟩
      rfl
  | some path =>
    simp only [loadAny, answer_bind_eq_ok, answer_load_eq_ok, answer_pure, Except.ok.injEq]
    constructor
    · rintro ⟨a, ha, rfl⟩
      exact .file ha
    · rintro ⟨⟩
      exact ⟨_, ‹_›, rfl⟩

theorem answer_optionsOf_eq_ok {a : Arguments} {o : Options} :
    (optionsOf a).answer reading = .ok o ↔
      ∃ base, Loads reading Options.read? a.options base ∧ a.adjust (base.getD {}) = o := by
  simp [optionsOf, loadOptions, answer_loadAny_eq_ok]

theorem requireScene_eq_ok {a : Arguments} {path : String} :
    requireScene a = .ok path ↔ a.scene = some path := by
  rw [requireScene]
  cases a.scene <;> simp

theorem mapError_eq_ok {x : Except ε α} {f : ε → ε'} {a : α} : x.mapError f = .ok a ↔ x = .ok a := by
  cases x <;> simp [Except.mapError]

theorem answer_prepare_eq_ok {args : List String} {a : Arguments} {unit : SourceUnit} :
    (prepare args).answer reading = .ok (a, unit) ↔ Gives reading args a unit := by
  simp only [prepare, loadScene, loadSaved, answer_bind_eq_ok, answer_ofExcept, parseArguments,
    mapError_eq_ok, requireScene_eq_ok, answer_load_eq_ok, answer_optionsOf_eq_ok,
    answer_loadAny_eq_ok, answer_pure, Except.ok.injEq]
  constructor
  · rintro ⟨a', hparse, path, hpath, scene, hscene, _, ⟨base, hbase, rfl⟩, saved, hsaved, u, hunit,
      heq⟩
    cases heq
    exact .intro hparse (hpath ▸ .file hscene) hbase hsaved hunit
  · rintro ⟨hparse, hscene, hbase, hsaved, hunit⟩
    generalize hpath : a.scene = path at hscene
    cases hscene with
    | file hscene =>
      exact ⟨a, hparse, _, hpath, _, hscene, _, ⟨_, hbase, rfl⟩, _, hsaved, unit, hunit, rfl⟩

theorem readOnly_load (path : String) : (load source parse? path).ReadOnly :=
  (readOnly_readFile path).bind fun _ => readOnly_ofExcept _

theorem readOnly_loadAny (path : Option String) : (loadAny (load source parse?) path).ReadOnly := by
  cases path with
  | none => exact .done none
  | some path => exact (readOnly_load path).bind fun a => .done (some a)

theorem readOnly_optionsOf (a : Arguments) : (optionsOf a).ReadOnly :=
  (readOnly_loadAny a.options).bind fun _ => .done _

theorem readOnly_prepare (args : List String) : (prepare args).ReadOnly := by
  apply (readOnly_ofExcept _).bind
  intro a
  apply (readOnly_ofExcept _).bind
  intro path
  apply (readOnly_load path).bind
  intro scene
  apply (readOnly_optionsOf a).bind
  intro options
  apply (readOnly_loadAny a.savedContext).bind
  intro saved
  apply (readOnly_ofExcept _).bind
  intro unit
  exact .done (a, unit)

theorem blind_deliverText (text : String) (path : Option String) :
    (deliverText text path).Blind := by
  cases path with
  | none => exact blind_printText text
  | some path => exact blind_writeFile path text _

theorem blind_deliverContext (blob : String) (path : Option String) :
    (deliverContext blob path).Blind := by
  cases path with
  | none => exact .done ()
  | some path => exact blind_writeFile path blob _

theorem blind_deliver (a : Arguments) (unit : SourceUnit) : (deliver a unit).Blind := by
  apply (blind_deliverText unit.text a.output).bind
  intro _
  exact blind_deliverContext unit.context.blob a.contextOut

theorem readsFirst_program (args : List String) : (program args).ReadsFirst := by
  apply (readOnly_prepare args).readsFirst
  rintro ⟨a, unit⟩
  exact blind_deliver a unit

end

section

open Program

variable {fs : FileSystem σ} {file? : String → Option κ}

structure Stored (fs : FileSystem σ) (file? : String → Option κ) (path : Option String)
    (content : String) (before after : σ) : Prop where
  leads : ∀ p ∈ path, (file? p).isSome
  same : ∀ p ∈ path, ∀ other, file? other = file? p → fs.read? after other = some content
  rest : ∀ other, (∀ p ∈ path, file? other ≠ file? p) →
    fs.read? after other = fs.read? before other

theorem Stored.absent (content : String) (d : σ) : Stored fs file? none content d d where
  leads := by simp
  same := by simp
  rest _ _ := rfl

theorem Stored.file?_ne_none {path : Option String} {content : String} {d d' : σ} {p : String}
    (h : Stored fs file? path content d d') (hp : p ∈ path) : file? p ≠ none := by
  intro hnone
  have hleads := h.leads p hp
  rw [hnone] at hleads
  contradiction

theorem exec_writeFile (laws : fs.Lawful file?) (path content : String) (e : ε) (w : World σ) :
    file? path = none ∧ (writeFile path content e).exec fs w = (.error e, w) ∨
      ∃ d, Stored fs file? (some path) content w.directory d ∧
        (writeFile path content e).exec fs w = (.ok (), { w with directory := d }) := by
  have hleads := laws.isSome_write? w.directory path content
  cases hw : fs.write? w.directory path content with
  | none =>
    rw [hw, Option.isSome_none, eq_comm, Option.isSome_eq_false_iff, Option.isNone_iff_eq_none]
      at hleads
    exact .inl ⟨hleads, by simp [writeFile, exec, hw]⟩
  | some d =>
    refine .inr ⟨d, ⟨?_, ?_, ?_⟩, by simp [writeFile, exec, hw]⟩
    · rintro p ⟨⟩
      rw [← hleads, hw]
      rfl
    · rintro p ⟨⟩ other hother
      exact laws.read?_same hw hother
    · intro other hother
      exact laws.read?_other hw (hother path rfl)

theorem exec_deliverText (laws : fs.Lawful file?) (text : String) (path : Option String)
    (w : World σ) :
    (∃ p ∈ path, file? p = none ∧
      (deliverText text path).exec fs w = (.error (.unwritable p), w)) ∨
    ∃ d, Stored fs file? path text w.directory d ∧ (deliverText text path).exec fs w =
      (.ok (), ⟨w.stdout ++ if path.isSome then "" else text, d⟩) := by
  cases path with
  | none => exact .inr ⟨w.directory, .absent _ _, rfl⟩
  | some p =>
    rcases exec_writeFile laws p text (CommandError.unwritable p) w with ⟨hp, hw⟩ | ⟨d, hd, hw⟩
    · exact .inl ⟨p, rfl, hp, hw⟩
    · exact .inr ⟨d, hd, by simp [deliverText, hw]⟩

theorem exec_deliverContext (laws : fs.Lawful file?) (blob : String) (path : Option String)
    (w : World σ) :
    (∃ p ∈ path, file? p = none ∧
      (deliverContext blob path).exec fs w = (.error (.unwritable p), w)) ∨
    ∃ d, Stored fs file? path blob w.directory d ∧
      (deliverContext blob path).exec fs w = (.ok (), { w with directory := d }) := by
  cases path with
  | none => exact .inr ⟨w.directory, .absent _ _, rfl⟩
  | some p =>
    rcases exec_writeFile laws p blob (CommandError.unwritable p) w with ⟨hp, hw⟩ | ⟨d, hd, hw⟩
    · exact .inl ⟨p, rfl, hp, hw⟩
    · exact .inr ⟨d, hd, hw⟩

/-- The unit stands where the arguments ask for it, as far as paths lead to files. Where both of its
parts go to one file it is the context that remains. -/
structure Delivered (fs : FileSystem σ) (file? : String → Option κ) (a : Arguments)
    (unit : SourceUnit) (before : σ) (o : Outcome σ) : Prop where
  exitCode : o.exitCode = 0 ↔
    ∀ path, path ∈ a.output ∨ path ∈ a.contextOut → (file? path).isSome
  stdout : o.stdout = if a.output.isSome then "" else unit.text
  text : ∀ path ∈ a.output, (file? path).isSome →
    (∀ other ∈ a.contextOut, file? path ≠ file? other) →
    ∀ link, file? link = file? path → fs.read? o.directory link = some unit.text
  blob : ∀ path ∈ a.contextOut, o.exitCode = 0 →
    ∀ link, file? link = file? path → fs.read? o.directory link = some unit.context.blob
  refused : ∀ path ∈ a.output, file? path = none → o.directory = before
  rest : ∀ path, (∀ other, other ∈ a.output ∨ other ∈ a.contextOut → (file? other).isSome →
    file? path ≠ file? other) → fs.read? o.directory path = fs.read? before path

namespace Delivered

variable {a : Arguments} {unit : SourceUnit} {files d d' : σ} {p : String} {e : CommandError}

theorem of_refused (hp : p ∈ a.output) (hnone : file? p = none) :
    Delivered fs file? a unit files ⟨⟨"", files⟩, some e⟩ where
  exitCode := by
    simpa [Outcome.exitCode] using ⟨p, .inl hp, hnone⟩
  stdout := by
    simp [Option.isSome_of_mem hp]
  text path hpath hleads := by
    rw [Option.mem_unique hpath hp, hnone] at hleads
    contradiction
  blob _ _ hzero := by
    simp [Outcome.exitCode] at hzero
  refused _ _ _ := rfl
  rest _ _ := rfl

theorem of_stored (hd : Stored fs file? a.output unit.text files d) (hp : p ∈ a.contextOut)
    (hnone : file? p = none) : Delivered fs file? a unit files
      ⟨⟨if a.output.isSome then "" else unit.text, d⟩, some e⟩ where
  exitCode := by
    simpa [Outcome.exitCode] using ⟨p, .inr hp, hnone⟩
  stdout := rfl
  text path hpath _ _ := hd.same path hpath
  blob _ _ hzero := by
    simp [Outcome.exitCode] at hzero
  refused _ hpath hnone := absurd hnone (hd.file?_ne_none hpath)
  rest path hother := hd.rest path fun p hp => hother p (.inl hp) (hd.leads p hp)

theorem of_stored_of_stored (hd : Stored fs file? a.output unit.text files d)
    (hd' : Stored fs file? a.contextOut unit.context.blob d d') : Delivered fs file? a unit files
      ⟨⟨if a.output.isSome then "" else unit.text, d'⟩, none⟩ where
  exitCode := by
    simpa [Outcome.exitCode] using fun path hpath => hpath.elim (hd.leads path) (hd'.leads path)
  stdout := rfl
  text path hpath _ hother link hlink := by
    -- The context goes to another file, so the text is still there.
    have hcontext := hd'.rest link fun p hp => hlink ▸ hother p hp
    exact hcontext.trans (hd.same path hpath link hlink)
  blob path hpath _ := hd'.same path hpath
  refused _ hpath hnone := absurd hnone (hd.file?_ne_none hpath)
  rest path hother := by
    have hcontext := hd'.rest path fun p hp => hother p (.inr hp) (hd'.leads p hp)
    have htext := hd.rest path fun p hp => hother p (.inl hp) (hd.leads p hp)
    exact hcontext.trans htext

theorem of_deliver (laws : fs.Lawful file?) (a : Arguments) (unit : SourceUnit) (files : σ) :
    Delivered fs file? a unit files (.of ((deliver a unit).exec fs ⟨"", files⟩)) := by
  have hbind : (deliver a unit).exec fs ⟨"", files⟩ = _ := exec_bind _ _ _
  rcases exec_deliverText laws unit.text a.output ⟨"", files⟩ with
    ⟨p, hp, hnone, hw⟩ | ⟨d, hd, hw⟩
  · rw [hbind, hw]
    exact of_refused hp hnone
  · rw [String.empty_append] at hw
    rw [hbind, hw]
    rcases exec_deliverContext laws unit.context.blob a.contextOut
        ⟨if a.output.isSome then "" else unit.text, d⟩ with ⟨p, hp, hnone, hw'⟩ | ⟨d', hd', hw'⟩
    · simp only [hw']
      exact of_stored hd hp hnone
    · simp only [hw']
      exact of_stored_of_stored hd hd'

end Delivered

end

/-- A run reads before it writes. If the arguments and the files at its start give no unit, it has no
effect and fails; otherwise it delivers that unit. -/
theorem runOn_delivers {fs : FileSystem σ} {file? : String → Option κ} (laws : fs.Lawful file?)
    (args : List String) (files : σ) :
    (program args).ReadsFirst ∧
      ((∀ a unit, ¬ Gives (fs.read? files) args a unit) →
        (runOn fs args files).toWorld = ⟨"", files⟩ ∧ (runOn fs args files).exitCode ≠ 0) ∧
      ∀ a unit, Gives (fs.read? files) args a unit →
        Delivered fs file? a unit files (runOn fs args files) := by
  have hprepare : (prepare args).exec fs ⟨"", files⟩ = _ := (readOnly_prepare args).exec_eq _
  have hrun : (program args).exec fs ⟨"", files⟩ = _ := Program.exec_bind _ _ _
  rw [hprepare] at hrun
  refine ⟨readsFirst_program args, ?_, ?_⟩
  · intro hnone
    cases hanswer : (prepare args).answer (fs.read? files) with
    | ok x => exact absurd (answer_prepare_eq_ok.mp hanswer) (hnone x.1 x.2)
    | error e =>
      simp only [hanswer] at hrun
      rw [runOn, hrun]
      exact ⟨rfl, by simp [Outcome.of, Outcome.exitCode]⟩
  · intro a unit hgives
    simp only [answer_prepare_eq_ok.mpr hgives] at hrun
    rw [runOn, hrun]
    exact Delivered.of_deliver laws a unit files

def Scene.soloText : String := "\x7b\"nodes\":[\x7b\"type\":\"Scene\"\x7d]\x7d"

def Directory.solo : Directory := ⟨[("scene.json", Scene.soloText)]⟩

theorem exists_unit_of_isSome {text : String}
    (h : ((Scene.read? text).bind (·.validate.toOption)).isSome) (o : Options) (j : Option Json) :
    ∃ scene unit, Scene.read? text = some scene ∧ generate scene o j = .ok unit := by
  cases hread : Scene.read? text with
  | none => simp [hread] at h
  | some scene =>
    cases hvalid : scene.validate with
    | error e => simp [hread, hvalid, Except.toOption] at h
    | ok tree => exact ⟨scene, _, rfl, generate_eq_ok.mpr ⟨tree, hvalid, rfl⟩⟩

def Arguments.inPlace : Arguments where
  scene := "scene.json"
  output := "scene.json"
  contextOut := "./scene.json"

theorem gives_solo : ∃ unit, Gives (Directory.fileSystem.read? .solo)
    ["--scene", "scene.json", "--output", "scene.json", "--context-out", "./scene.json"]
    .inPlace unit := by
  have hparse : Arguments.parse
      ["--scene", "scene.json", "--output", "scene.json", "--context-out", "./scene.json"] =
    .ok .inPlace := by
    rfl
  have hfile : Directory.fileSystem.read? .solo "scene.json" = some Scene.soloText := by
    decide +kernel
  have hvalid : ((Scene.read? Scene.soloText).bind (·.validate.toOption)).isSome := by
    decide +kernel
  obtain ⟨scene, unit, hread, hunit⟩ :=
    exists_unit_of_isSome hvalid (Arguments.inPlace.adjust (Option.getD none {})) none
  have hscene : (Directory.fileSystem.read? .solo "scene.json").bind Scene.read? = some scene := by
    rw [hfile, Option.bind_some]
    exact hread
  exact ⟨unit, .intro hparse (.file hscene) .absent .absent hunit⟩

theorem run_in_place : Directory.fileSystem.Lawful Directory.fileName? ∧
    ∃ unit, Gives (Directory.fileSystem.read? .solo)
        ["--scene", "scene.json", "--output", "scene.json", "--context-out", "./scene.json"]
        .inPlace unit ∧
      ∃ o, run ["--scene", "scene.json", "--output", "scene.json", "--context-out",
          "./scene.json"] .solo = o ∧
        o.exitCode = 0 ∧ o.stdout = "" ∧
        o.directory.read? "scene.json" = some unit.context.blob := by
  obtain ⟨unit, hgives⟩ := gives_solo
  have hdelivered := (runOn_delivers Directory.lawful _ Directory.solo).2.2 _ unit hgives
  have hzero := hdelivered.exitCode.mpr (by
    rintro path (h | h)
    · obtain rfl : "scene.json" = path := Option.some.inj h
      decide +kernel
    · obtain rfl : "./scene.json" = path := Option.some.inj h
      decide +kernel)
  have hlink : Directory.fileName? "scene.json" = Directory.fileName? "./scene.json" := by
    decide +kernel
  exact ⟨Directory.lawful, unit, hgives, _, rfl, hzero, hdelivered.stdout,
    hdelivered.blob "./scene.json" rfl hzero "scene.json" hlink⟩

end SceneMarkup.CommandLine
