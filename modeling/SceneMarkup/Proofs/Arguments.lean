import SceneMarkup.Proofs.Runs

namespace SceneMarkup.CommandLine

namespace Arguments

def merge (a b : Arguments) : Arguments where
  scene := b.scene.or a.scene
  options := b.options.or a.options
  output := b.output.or a.output
  contextOut := b.contextOut.or a.contextOut
  savedContext := b.savedContext.or a.savedContext
  precision := b.precision.or a.precision
  switches := a.switches ++ b.switches

@[simp] theorem merge_empty (a : Arguments) : a.merge {} = a := by simp [merge]

section

variable {a b : Arguments} {t : String} {rest : List String}

theorem add_unknown (ht : Token.ofText? t = none) : a.add (t :: rest) = .error (.unknown t) := by
  rw [add.eq_def]
  simp only [ht]

theorem add_switch {s : Switch} (ht : Token.ofText? t = some (.switch s)) :
    a.add (t :: rest) = add { a with switches := a.switches ++ [s] } rest := by
  rw [add.eq_def]
  simp only [ht]

theorem merge_addSwitch (s : Switch) :
    { a.merge b with switches := (a.merge b).switches ++ [s] } =
      a.merge { b with switches := b.switches ++ [s] } := by
  simp [merge]

theorem merge_setPath (value : String) (o : PathOption) :
    (a.merge b).setPath value o = a.merge (b.setPath value o) := by
  cases o <;> rfl

theorem merge_setPrecision (value : String) :
    (a.merge b).setPrecision value = (b.setPrecision value).map a.merge := by
  rw [setPrecision, setPrecision]
  cases number value <;> rfl

theorem add_merge (args : List String) : (a.merge b).add args = (b.add args).map a.merge := by
  fun_induction add b args with
  | case1 b => rfl
  | case2 b t rest ht => rw [add_unknown ht, Except.map]
  | case3 b t rest s ht ih => rw [add_switch ht, merge_addSwitch, ih]
  | case4 b t o ht => simp only [add, ht, Except.map]
  | case5 b t o ht value rest ih => simp only [add, ht, merge_setPath, ih]
  | case6 b t ht => simp only [add, ht, Except.map]
  | case7 b t ht value rest b' hvalue ih =>
    simp only [add, ht, merge_setPrecision, hvalue, Except.map, ih]
  | case8 b t ht value rest e hvalue =>
    simp only [add, ht, merge_setPrecision, hvalue, Except.map]

theorem add_append {args : List String} (h : a.add args = .ok b) (more : List String) :
    a.add (args ++ more) = b.add more := by
  fun_induction add a args with
  | case1 a =>
    cases h
    rfl
  | case3 a t rest s ht ih => rw [List.cons_append, add_switch ht, ih h]
  | case5 a t o ht value rest ih =>
    simp only [List.cons_append, add, ht]
    exact ih h
  | case7 a t ht value rest a' hvalue ih =>
    simp only [List.cons_append, add, ht, hvalue]
    exact ih h
  | _ => contradiction

theorem parse_append {args : List String} (h : parse args = .ok a) (more : List String) :
    parse (args ++ more) = (parse more).map a.merge := by
  calc
    parse (args ++ more) = a.add more := add_append h more
    _ = (a.merge {}).add more := by rw [merge_empty]
    _ = (parse more).map a.merge := add_merge more

end

end Arguments

def Switch.applyAll (given : Switch → Bool) (o : Options) : Options :=
  { o with
    instancing := o.instancing || given .instancing
    instanceAll := o.instanceAll || given .instanceAll
    keepNames := o.keepNames || given .keepNames
    keepGroups := o.keepGroups || given .keepGroups
    debug := o.debug || given .debug
    types := o.types || given .types
    shadows := o.shadows || given .shadows
    metadata := o.metadata || given .metadata
    lightRotationControls := o.lightRotationControls && !given .noLightRotation }

theorem Switch.foldl_apply (switches : List Switch) (o : Options) :
    switches.foldl apply o = applyAll (switches.contains ·) o := by
  induction switches generalizing o with
  | nil => simp [applyAll]
  | cons s rest ih =>
    rw [List.foldl_cons, ih]
    cases s <;> simp [applyAll, apply]

theorem Arguments.adjust_eq (a : Arguments) (o : Options) :
    a.adjust o = Switch.applyAll (a.switches.contains ·)
      { o with precision := a.precision.getD o.precision } := by
  rw [adjust, Switch.foldl_apply]
  cases a.precision <;> rfl

theorem resolveOptions_eq_ok {reading : Reading} {a : Arguments} {o : Options} :
    resolveOptions reading a = .ok o ↔
      ∃ base, Loads reading Options.read? a.options base ∧ a.adjust (base.getD {}) = o :=
  answer_optionsOf_eq_ok

theorem resolveOptions_congr {reading : Reading} {a b : Arguments} (hoptions : a.options = b.options)
    (hadjust : a.adjust = b.adjust) : resolveOptions reading a = resolveOptions reading b := by
  rw [resolveOptions, resolveOptions, optionsOf, optionsOf, hoptions, hadjust]

/-- Arguments can be read in parts. Behind arguments that are taken, more of them are taken or
refused as they are by themselves, and what they say is added to what was said. The precision and
the switches win over what was read from a file, and of the switches just their set is seen. -/
theorem arguments_compose :
    (∀ args a, Arguments.parse args = .ok a → ∀ more,
      Arguments.parse (args ++ more) = (Arguments.parse more).map a.merge) ∧
    (∀ reading a o, resolveOptions reading a = .ok o ↔
      ∃ base, Loads reading Options.read? a.options base ∧
        Switch.applyAll (a.switches.contains ·) { base.getD {} with
          precision := a.precision.getD (base.getD {}).precision } = o) ∧
    ∀ reading (a b : Arguments), a.options = b.options → a.precision = b.precision →
      (∀ s, s ∈ a.switches ↔ s ∈ b.switches) →
      resolveOptions reading a = resolveOptions reading b := by
  refine ⟨fun args a h more => Arguments.parse_append h more, ?_, ?_⟩
  · intro reading a o
    simp only [resolveOptions_eq_ok, Arguments.adjust_eq]
  · intro reading a b hoptions hprecision hswitches
    have hgiven : (a.switches.contains ·) = (b.switches.contains ·) := by
      funext s
      rw [Bool.eq_iff_iff, List.contains_iff_mem, List.contains_iff_mem, hswitches]
    apply resolveOptions_congr hoptions
    funext o
    rw [Arguments.adjust_eq, Arguments.adjust_eq, hgiven, hprecision]

def Arguments.dashed : Arguments where
  scene := "--types"
  options := "--scene"
  switches := [.debug]

theorem dashed_compose :
    Arguments.parse ["--scene", "--types", "--debug", "--options", "--scene"] = .ok .dashed ∧
    Arguments.parse ["--scene", "--types", "--debug", "--options", "--scene",
        "--types", "--scene", "a.json", "--debug", "--precision", "3"] =
      .ok { Arguments.dashed with
        scene := "a.json", precision := some 3, switches := [.debug, .types, .debug] } ∧
    Arguments.parse ["--scene", "--types", "--debug", "--options", "--scene", "--output"] =
      .error (.missingValue "--output") ∧
    ∀ reading, resolveOptions reading { Arguments.dashed with
        switches := [.debug, .types, .debug] } =
      resolveOptions reading { Arguments.dashed with switches := [.types, .debug] } := by
  obtain ⟨hparse, -, hresolve⟩ := arguments_compose
  have hdashed :
      Arguments.parse ["--scene", "--types", "--debug", "--options", "--scene"] = .ok .dashed := by
    rfl
  refine ⟨hdashed, hparse _ _ hdashed _, hparse _ _ hdashed _, fun reading => ?_⟩
  refine hresolve reading _ _ rfl rfl fun s => ?_
  cases s <;> decide

end SceneMarkup.CommandLine
