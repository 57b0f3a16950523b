import Playback.Proofs.ExitCode
import Playback.Proofs.IndexSet

namespace Playback

namespace ReplayArguments

/-- The settings that the command line makes of other ones. Skips are added, and a stop at divergences
may be asked for on either side. -/
structure Overrides (arguments : ReplayArguments) (base settings : Settings) : Prop where
  mode : settings.mode = arguments.mode.getD base.mode
  first : settings.first = arguments.first.getD base.first
  last : settings.last = arguments.last.or base.last
  skips : ∀ index,
    index ∈ settings.skips.indices ↔ index ∈ base.skips.indices ∨ index ∈ arguments.skips
  stopsAtDivergence :
    settings.stopsAtDivergence = (base.stopsAtDivergence || arguments.stopsAtDivergence)
  pausesBefore : settings.pausesBefore = base.pausesBefore
  pausesAfter : settings.pausesAfter = base.pausesAfter
  autoAdvance : settings.autoAdvance = base.autoAdvance
  delay : settings.delay = base.delay
  verifies : settings.verifies = base.verifies
  limit : settings.limit = base.limit

variable {arguments : ReplayArguments} {base settings : Settings}

theorem foldl_skip (skips : List UInt64) (settings : Settings) :
    skips.foldl Settings.skip settings =
      { settings with skips := skips.foldl IndexSet.insert settings.skips } := by
  induction skips generalizing settings with
  | nil => rfl
  | cons index rest inductionHypothesis =>
      rw [List.foldl_cons, inductionHypothesis]
      rfl

/-- All settings that the command line makes of other ones. -/
theorem override_eq (base : Settings) (arguments : ReplayArguments) :
    Command.override base arguments =
      { base with
        mode := arguments.mode.getD base.mode
        first := arguments.first.getD base.first
        last := arguments.last.or base.last
        skips := arguments.skips.foldl IndexSet.insert base.skips
        stopsAtDivergence := base.stopsAtDivergence || arguments.stopsAtDivergence } := by
  rw [Command.override]
  simp only [foldl_skip]
  cases arguments.mode <;> cases arguments.first <;> cases arguments.last <;>
    cases arguments.stopsAtDivergence <;>
    simp [Settings.withMode, Settings.startingAt, Settings.endingAt, Settings.withStop]

theorem overrides_override (base : Settings) (arguments : ReplayArguments) :
    arguments.Overrides base (Command.override base arguments) := by
  rw [override_eq]
  exact ⟨rfl, rfl, rfl, fun index => IndexSet.mem_foldl_insert, rfl, rfl, rfl, rfl, rfl, rfl, rfl⟩

/-- There is one way to override settings. -/
theorem override_eq_iff :
    Command.override base arguments = settings ↔ arguments.Overrides base settings := by
  constructor
  · rintro rfl
    exact overrides_override base arguments
  · intro overrides
    have made := overrides_override base arguments
    have skips : (Command.override base arguments).skips = settings.skips :=
      IndexSet.eq_of_mem_iff fun index => (made.skips index).trans (overrides.skips index).symm
    generalize Command.override base arguments = other at *
    obtain ⟨mode, first, last, _, stops, before, after, advance, delay, verifies, limit⟩ := made
    obtain ⟨mode', first', last', _, stops', before', after', advance', delay', verifies', limit'⟩ :=
      overrides
    cases other
    cases settings
    simp_all

end ReplayArguments

namespace Arguments

/-- Application has been allowed. -/
def Allows (given : Given) : Prop := .allowApply ∈ given.map Prod.fst

theorem has_allowApply_iff {given : Given} : has given .allowApply = true ↔ Allows given := by
  rw [has, value?, Allows, List.lookup_isSome_iff, List.mem_map]
  simp

/-- Application is allowed only where it is named, what comes later is left, and no replay is shown at
once. -/
def Progress.Fair (named : Prop) (given : Given) (rest : List String) : Progress → Prop
  | .misuse => True
  | .shown command => ∀ arguments, command ≠ .replay arguments
  | .noted taken after => (Allows taken → Allows given ∨ named) ∧ after <:+ rest

/-- The same of all arguments up to an end. -/
def Ending.Fair (given : Given) (arguments : List String) : Ending → Prop
  | .misuse => True
  | .shown command => ∀ arguments, command ≠ .replay arguments
  | .settled taken => Allows taken → Allows given ∨ "--allow-apply" ∈ arguments
  | .positional _ _ rest => rest <:+ arguments

section Taking

variable {place : Place} {given taken : Given} {name : Name}

theorem Progress.Fair.mono {named other : Prop} {rest : List String} {progress : Progress}
    (fair : progress.Fair named given rest) (implies : named → other) :
    progress.Fair other given rest := by
  cases progress with
  | misuse => trivial
  | shown command => exact fair
  | noted taken after => exact ⟨fun allows => (fair.1 allows).imp_right implies, fair.2⟩

/-- What was allowed before may have been given from the start. -/
theorem Progress.Fair.after {named : Prop} {rest : List String} {progress : Progress}
    (fair : progress.Fair named taken rest) (earlier : Allows taken → Allows given ∨ named) :
    progress.Fair named given rest := by
  cases progress with
  | misuse => trivial
  | shown command => exact fair
  | noted last after => exact ⟨fun allows => (fair.1 allows).elim earlier .inr, fair.2⟩

theorem allows_of_note? {value : String} (noted : note? given name value = some taken)
    (allows : Allows taken) : Allows given ∨ name = .allowApply := by
  rw [note?] at noted
  obtain ⟨_, same⟩ := Option.ite_none_right_eq_some.mp noted
  obtain rfl := Option.some.inj same
  simpa [Allows, eq_comm] using allows

theorem takeValue_fair (given : Given) (name : Name) (attached : Option String)
    (rest : List String) : (takeValue given name attached rest).Fair (name = .allowApply) given rest := by
  unfold takeValue
  split
  · split
    · rename_i noted
      exact ⟨allows_of_note? noted, List.suffix_refl _⟩
    · trivial
  · split
    · split
      · rename_i noted
        exact ⟨allows_of_note? noted, List.suffix_cons _ _⟩
      · trivial
    · trivial
  · trivial

theorem takeFlag_fair (given : Given) (name : Name) (rest : List String) :
    (takeFlag given name rest).Fair (name = .allowApply) given rest := by
  unfold takeFlag
  split
  · exact nofun
  · exact nofun
  · split
    · rename_i noted
      exact ⟨allows_of_note? noted, List.suffix_refl _⟩
    · trivial

/-- No short name allows application. -/
theorem short?_ne_allowApply {letter : Char} (known : short? place letter = some name) :
    name ≠ .allowApply := by
  obtain ⟨found, _⟩ := Option.filter_eq_some_iff.mp known
  obtain ⟨front, back, parts, _⟩ := List.lookup_eq_some_iff.mp found
  have member : name ∈ shortNames.map Prod.snd :=
    List.mem_map.mpr ⟨(letter, name), by simp [parts], rfl⟩
  rintro rfl
  revert member
  decide

theorem long?_allowApply {written : String} (known : long? place written = some .allowApply) :
    written = "allow-apply" := by
  obtain ⟨found, _⟩ := Option.filter_eq_some_iff.mp known
  obtain ⟨front, back, parts, _⟩ := List.lookup_eq_some_iff.mp found
  have member : (written, Name.allowApply) ∈ longNames := by simp [parts]
  simpa [longNames] using member

theorem takeShort_fair (place : Place) (rest : List String) (given : Given) (letters : List Char) :
    (takeShort place rest given letters).Fair False given rest := by
  induction letters generalizing given with
  | nil => exact ⟨.inl, List.suffix_refl _⟩
  | cons letter letters inductionHypothesis =>
      unfold takeShort
      split
      · trivial
      · rename_i name known
        have other := short?_ne_allowApply known
        split
        · exact (takeValue_fair given name _ rest).mono other
        · have flag := (takeFlag_fair given name rest).mono other
          split
          · rename_i noted
            rw [noted] at flag
            exact (inductionHypothesis _).after flag.1
          · exact flag

/-- A text without an attached value is a name as a whole. -/
theorem splitValue_none {text written : String} (whole : splitValue text = (written, none)) :
    written = text := by
  obtain ⟨same, plain⟩ := Prod.mk.inj whole
  have front : text.toList.takeWhile (fun letter => letter != '=') <+: text.toList :=
    List.takeWhile_prefix _
  have all : text.toList.takeWhile (fun letter => letter != '=') = text.toList := by
    refine front.eq_of_length_le ?_
    by_contra shorter
    rw [if_pos (by omega)] at plain
    contradiction
  rw [← same, all, String.ofList_toList]

theorem takeLong_fair (place : Place) (given : Given) (text : String) (rest : List String) :
    (takeLong place given text rest).Fair (text = "allow-apply") given rest := by
  unfold takeLong
  cases cut : splitValue text with
  | mk written attached =>
      dsimp only
      split
      · trivial
      · rename_i name known
        split
        · rename_i valued
          refine (takeValue_fair given name attached rest).mono ?_
          rintro rfl
          contradiction
        · split
          · trivial
          · rename_i bare
            refine (takeFlag_fair given name rest).mono ?_
            rintro rfl
            obtain rfl : attached = none := by simpa using bare
            rw [← splitValue_none cut]
            exact long?_allowApply known

/-- A named argument that allows application is its long name. -/
theorem takeNamed_fair (place : Place) (given : Given) (argument : String) (rest : List String) :
    (takeNamed place given argument rest).Fair (argument = "--allow-apply") given rest := by
  unfold takeNamed
  split
  · rename_i letters long
    refine (takeLong_fair place given _ rest).mono fun same => ?_
    rw [← @String.ofList_toList argument, long, ← @String.toList_ofList letters, same]
    rfl
  · exact (takeShort_fair place rest given _).mono False.elim
  · trivial

/-- Application is allowed by nothing but its long name. -/
theorem takeAll_fair (place : Place) (given : Given) (arguments : List String) :
    (takeAll place given arguments).Fair given arguments := by
  fun_induction takeAll place given arguments
  case case1 given => exact .inl
  case case2 given rest last => exact .inl
  case case3 given rest more => trivial
  case case4 given argument rest other named misused => trivial
  case case5 given argument rest other named command shown =>
    have fair := takeNamed_fair place given argument rest
    rw [shown] at fair
    exact fair
  case case6 given argument rest other named taken after noted inductionHypothesis =>
    have fair := takeNamed_fair place given argument rest
    rw [noted] at fair
    obtain ⟨allows, shorter⟩ := fair
    cases ended : takeAll place taken after with
    | misuse => trivial
    | shown command =>
        rw [ended] at inductionHypothesis
        exact inductionHypothesis
    | settled last =>
        rw [ended] at inductionHypothesis
        intro allowed
        rcases inductionHypothesis allowed with earlier | later
        · rcases allows earlier with first | rfl
          · exact .inl first
          · exact .inr List.mem_cons_self
        · exact .inr (List.mem_cons_of_mem _ (shorter.subset later))
    | positional last first remaining =>
        rw [ended] at inductionHypothesis
        exact inductionHypothesis.trans (shorter.trans (List.suffix_cons _ _))
  case case7 given argument rest other unnamed => exact List.suffix_cons _ _

end Taking

/-- The arguments of a command settle whether it may apply. -/
theorem allowed_of_commandAt? {place : Place} {given : List String} {arguments : ReplayArguments}
    (accepted : commandAt? place given = some (.replay arguments))
    (allowed : arguments.allowsApply = true) : "--allow-apply" ∈ given := by
  have fair := takeAll_fair place [] given
  rw [commandAt?] at accepted
  cases ended : takeAll place [] given with
  | misuse => simp [ended] at accepted
  | positional taken name rest => simp [ended] at accepted
  | shown command =>
      simp only [ended, Option.some.injEq] at accepted
      rw [ended] at fair
      exact absurd accepted (fair arguments)
  | settled taken =>
      simp only [ended, command?] at accepted
      rw [ended] at fair
      obtain ⟨journal, _, accepted⟩ := Option.bind_eq_some_iff.mp accepted
      cases place with
      | replay =>
          obtain rfl := Command.replay.inj (Option.some.inj accepted)
          exact (fair (has_allowApply_iff.mp allowed)).resolve_left List.not_mem_nil
      | _ => simp at accepted

theorem helpFor?_ne_replay (names : List String) (arguments : ReplayArguments) :
    helpFor? names ≠ some (.replay arguments) := by
  rcases names with _ | ⟨name, _ | ⟨other, rest⟩⟩
  · simp [helpFor?]
  · rw [helpFor?]
    split <;> simp
  · simp [helpFor?]

/-- A replay is allowed to apply only if the arguments have the name of this permission. -/
theorem allowed_of_read? {given : List String} {arguments : ReplayArguments}
    (accepted : read? given = some (.replay arguments)) (allowed : arguments.allowsApply = true) :
    "--allow-apply" ∈ given := by
  have top := takeAll_fair .top [] given
  rw [read?] at accepted
  cases ended : takeAll .top [] given with
  | misuse => simp [ended] at accepted
  | settled taken => simp [ended] at accepted
  | shown command =>
      simp only [ended, Option.some.injEq] at accepted
      rw [ended] at top
      exact absurd accepted (top arguments)
  | positional taken name rest =>
      simp only [ended] at accepted
      rw [ended] at top
      split at accepted
      · exact absurd accepted (helpFor?_ne_replay rest arguments)
      · obtain ⟨place, _, accepted⟩ := Option.bind_eq_some_iff.mp accepted
        exact top.subset (allowed_of_commandAt? accepted allowed)

end Arguments

namespace ReplayArguments

variable {files : Files} {arguments : ReplayArguments} {base settings : Settings}

/-- The settings that are made override the settings of the options file. -/
theorem resolves_iff :
    arguments.Resolves files settings ↔
      (∃ base, arguments.Bases files base ∧ arguments.Overrides base settings) ∧
        (settings.mode = .apply → arguments.allowsApply = true) := by
  simp only [← override_eq_iff]
  exact ⟨fun resolves => ⟨resolves.made, resolves.allowed⟩, fun ⟨made, allowed⟩ => ⟨made, allowed⟩⟩

/-- Settings that could be read are refused only for want of a permission. -/
theorem settings_eq_error_iff (bases : arguments.Bases files base) (faults : List String) :
    Command.settings files arguments = .error faults ↔
      arguments.mode.getD base.mode = .apply ∧ arguments.allowsApply = false ∧
        faults = ["apply mode requires --allow-apply"] := by
  rw [Command.settings, fileSettings_eq_ok_iff.mpr bases, ← (overrides_override base arguments).mode]
  dsimp only
  by_cases allowed :
      (Command.override base arguments).mode = .apply → arguments.allowsApply = true
  · rw [if_neg (mt refused_eq_true_iff.mp (not_not.mpr allowed))]
    refine iff_of_false (by simp) fun refused => ?_
    rw [allowed refused.1] at refused
    exact absurd refused.2.1 (by simp)
  · rw [if_pos (refused_eq_true_iff.mpr allowed), Except.error.injEq]
    obtain ⟨applying, forbidden⟩ := Classical.not_imp.mp allowed
    simp [applying, forbidden, eq_comm]

end ReplayArguments

/-- A replay tells its outcomes and its report, whether it ends with a fault or not. -/
theorem Command.perform_output (now : Instant) (elapsed : Nat → Nat) (journal : Journal)
    (settings : Settings) (asJson : Bool) :
    let taken := (Player.start now journal settings).playToEnd
    let report := Report.of taken.2.state taken.1.outcomes
    (perform now elapsed journal settings asJson).output =
      if asJson then jsonOutput elapsed taken.1 report else textOutput elapsed taken.1 report := by
  intro taken report
  rw [perform]
  dsimp only
  split <;> rfl

/-- The settings of a replay command are those of the options file, or the standard ones, overridden by
the command line. They are refused only if they would apply without permission. So a replay whose
command line does not name the permission tells a report without applied paths, if it tells one. -/
theorem settings_of_arguments (files : Files) (arguments : ReplayArguments) :
    (∀ settings, Command.settings files arguments = .ok settings ↔
      (∃ base, arguments.Bases files base ∧ arguments.Overrides base settings) ∧
        (settings.mode = .apply → arguments.allowsApply = true)) ∧
    (∀ base, arguments.Bases files base → ∀ faults,
      Command.settings files arguments = .error faults ↔
        arguments.mode.getD base.mode = .apply ∧ arguments.allowsApply = false ∧
          faults = ["apply mode requires --allow-apply"]) ∧
    ∀ now elapsed given, Arguments.read? given = some (.replay arguments) →
      "--allow-apply" ∉ given →
      (∃ faults, Command.answer now files given elapsed = Command.failure faults) ∨
        ∃ journal settings,
          let taken := (Player.start now journal settings).playToEnd
          let report := Report.of taken.2.state taken.1.outcomes
          arguments.Loads now files journal ∧
            Command.settings files arguments = .ok settings ∧
            (Command.answer now files given elapsed).output =
              (if arguments.asJson then Command.jsonOutput elapsed taken.1 report
                else Command.textOutput elapsed taken.1 report) ∧
            report.mode ≠ .apply ∧ report.applied = [] := by
  refine ⟨fun settings => ?_, fun base bases => ReplayArguments.settings_eq_error_iff bases,
    fun now elapsed given accepted unnamed => ?_⟩
  · rw [ReplayArguments.settings_eq_ok_iff, ReplayArguments.resolves_iff]
  · by_cases resolved : ∃ journal settings,
        arguments.Loads now files journal ∧ arguments.Resolves files settings
    · obtain ⟨journal, settings, loads, resolves⟩ := resolved
      have harmless : settings.mode ≠ .apply := fun applying =>
        unnamed (Arguments.allowed_of_read? accepted (resolves.allowed applying))
      have told := (Player.start now journal settings).history_playToEnd.told
      refine .inr ⟨journal, settings, loads, ReplayArguments.settings_eq_ok_iff.mpr resolves, ?_,
        ?_, ?_⟩
      · rw [Command.answer_of_resolved accepted loads resolves, Command.perform_output]
      · rw [Report.of, told]
        exact harmless
      · rw [Report.of, told]
        exact if_neg harmless
    · exact .inl (Command.answer_of_unresolved accepted resolved)

/-- An options file that asks for application and for a skip. -/
def Settings.guarded : Settings := { ofMode .apply with skips := .ofList [1] }

/-- The journal has an options file beside it. -/
def Files.guarded : Files := fun path =>
  if path = "options.json" then .ok Settings.guarded.toJson.pretty.toUTF8
  else Files.partlyNamed path

/-- Without permission the options file is refused, and a mode on the command line replaces its mode but
not its skip. -/
theorem settings_of_guarded :
    let arguments (mode : Option Mode) : ReplayArguments :=
      ⟨"journal.json", mode, none, none, [7], false, some "options.json", false, false⟩
    let given := ["replay", "-s", "journal.json", "--options=options.json", "-m", "simulate",
      "--skip", "7"]
    Command.settings .guarded (arguments none) = .error ["apply mode requires --allow-apply"] ∧
      ∃ settings, Command.settings .guarded (arguments (some .simulate)) = .ok settings ∧
        settings.mode = .simulate ∧ settings.skips = .ofList [1, 7] ∧
        let taken := (Player.start .epoch .partlyNamed settings).playToEnd
        let report := Report.of taken.2.state taken.1.outcomes
        (Command.answer .epoch .guarded given).output =
            Command.textOutput (fun _ => 0) taken.1 report ∧
          report.completed = 1 ∧ report.skipped = 1 ∧ report.applied = [] := by
  intro arguments given
  have read : Command.fileSettings .guarded (some "options.json") = .ok .guarded :=
    Json.eq_ok_of_toOption (by decide +kernel)
  have bases (mode : Option Mode) : (arguments mode).Bases .guarded .guarded :=
    ReplayArguments.fileSettings_eq_ok_iff.mp read
  have loaded : Command.loadJournal .epoch .guarded "journal.json" = .ok .partlyNamed :=
    Json.eq_ok_of_toOption (by decide +kernel)
  have accepted : Arguments.read? given = some (.replay (arguments (some .simulate))) := by
    decide +kernel
  obtain ⟨_, refused, _⟩ := settings_of_arguments .guarded (arguments none)
  obtain ⟨made, _, tells⟩ := settings_of_arguments .guarded (arguments (some .simulate))
  have overridden : Command.settings .guarded (arguments (some .simulate)) =
      .ok (Command.override .guarded (arguments (some .simulate))) :=
    (made _).mpr ⟨⟨_, bases _, ReplayArguments.overrides_override _ _⟩, nofun⟩
  refine ⟨(refused _ (bases none) _).mpr ⟨rfl, rfl, rfl⟩, _, overridden, rfl, by decide +kernel, ?_⟩
  rcases tells .epoch (fun _ => 0) given accepted (by decide) with
    ⟨faults, failed⟩ | ⟨journal, settings, loads, same, output, _, applied⟩
  · have performed : Command.answer .epoch .guarded given = _ := Command.answer_of_resolved accepted
      (ReplayArguments.loadJournal_eq_ok_iff.mp loaded)
      (ReplayArguments.settings_eq_ok_iff.mp overridden)
    rw [performed] at failed
    have blank : (Command.perform .epoch (fun _ => 0) .partlyNamed (Command.override .guarded
        (arguments (some .simulate))) false).output = "" := congrArg Answer.output failed
    exact absurd blank (by decide +kernel)
  · have reloaded := ReplayArguments.loadJournal_eq_ok_iff.mpr loads
    obtain rfl : journal = .partlyNamed := Except.ok.inj (reloaded.symm.trans loaded)
    obtain rfl := Except.ok.inj (same.symm.trans overridden)
    exact ⟨output, by decide +kernel, by decide +kernel, applied⟩

end Playback
