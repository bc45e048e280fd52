import KernelLog.Proofs.ConfigWarnings
import KernelLog.Proofs.Configurations
import Mathlib.Data.List.TakeWhile

/-!
# The logger of the process

The process has a logger that nobody makes. The first step that uses it finds none,
reads the configuration that the environment gives at that moment, and makes it.
For all that, it is a logger like any other: the process could have made one itself,
just before that step, and used its number from then on.

A run is taken apart at the first use. What comes before neither knows the logger nor
makes it; the first use makes it as the steps of `Step.creation` do; and what comes
after is the run on the logger of that number.
-/

namespace KernelLog

namespace Step

/-- The steps that make an explicit logger of the configuration that was found: the warning if there
is one, and a logger of the configuration, or of the defaults if it was refused. -/
def creation (wording : DocumentWording) (found : Except ConfigError Config) : List Step :=
  (Message.onConfig wording found).map Step.log ++
    [.create (found.toOption.getD Config.default) .devices]

/-- Making an explicit logger does not use the one of the process. -/
theorem usesShared_creation (wording : DocumentWording) (found : Except ConfigError Config) :
    ∀ step ∈ creation wording found, step.usesShared = false := by
  intro step member
  cases found with
  | ok config =>
    obtain rfl := List.mem_singleton.mp member
    rfl
  | error cause =>
    obtain rfl | member := List.mem_cons.mp member
    · rfl
    · obtain rfl := List.mem_singleton.mp member
      rfl

/-- The steps before the first use of the logger of the process do not use it. -/
theorem unused_before (steps : List Step) :
    ∀ step ∈ steps.takeWhile (!·.usesShared), step.usesShared = false := by
  intro step member
  simpa using List.mem_takeWhile_imp member

/-- The steps from the first use on begin with one. -/
theorem begins_with_use (steps : List Step) (used : steps.dropWhile (!·.usesShared) ≠ []) :
    ∃ first rest, steps.dropWhile (!·.usesShared) = first :: rest ∧ first.usesShared = true := by
  obtain ⟨first, rest, begins⟩ := List.exists_cons_of_ne_nil used
  have head := List.head_dropWhile_not (fun step : Step => !step.usesShared) used
  exact ⟨first, rest, begins, by simpa [begins] using head⟩

end Step

namespace World

section Uses

variable (world : World)

/-- Making an explicit logger of the configuration that was found adds a new logger of it, or of the
defaults, and hands the warning to the facade. Nothing is opened. -/
theorem run_creation (found : Except ConfigError Config) :
    (run (Step.creation world.wording found) world).aborted = false ∧
      (run (Step.creation world.wording found) world).world =
        (World.addLogger
          { world with
            facade := (Message.onConfig world.wording found).foldl Facade.noting world.facade }
          (Logger.new (found.toOption.getD Config.default))).2 := by
  cases found with
  | ok config => exact ⟨rfl, rfl⟩
  | error cause =>
    have warned := emit_own _ world (Message.configRefused_internal world.wording cause)
    refine ⟨rfl, ?_⟩
    simp only [Step.creation, Message.onConfig, List.map_cons, List.map_nil, List.cons_append,
      List.nil_append, run, World.step, warned]
    rfl

/-- The explicit logger that is made is a new one of the configuration, under a number of its own,
and making it touches no file and requests no device. -/
theorem creation_makes (found : Except ConfigError Config) :
    let made := (run (Step.creation world.wording found) world).world
    made.loggers world.count = Logger.new (found.toOption.getD Config.default) ∧
      world.count < made.count ∧ made.host = world.host ∧ made.openings = world.openings := by
  intro made
  simp only [made, (run_creation world found).2]
  exact ⟨Numbered.set_same _ _ _, Nat.lt_succ_self _, rfl, rfl⟩

/-- What a collector is told about the configuration is the warning that comes with making the
logger, if there is one, and nothing in all that follows on explicit loggers. -/
theorem creation_collects (found : Except ConfigError Config) (steps : List Step)
    (warned : List Message) (held : world.facade.Collects warned)
    (others : ∀ step ∈ steps, step.warnsOfConfig = false) :
    let made := (run (Step.creation world.wording found) world).world
    made.facade.Collects (warned ++ Message.onConfig world.wording found) ∧
      (run (steps.map (Step.onto world.count)) made).world.facade.Collects
        (warned ++ Message.onConfig world.wording found) := by
  intro made
  have told : made.facade.Collects (warned ++ Message.onConfig world.wording found) := by
    simp only [made, (run_creation world found).2]
    exact held.noting_onConfig world.wording found
  have onExplicit := Step.usesShared_map_onto world.count steps
  exact ⟨told, run_collects told _ onExplicit (Step.warnsOfConfig_map_onto _ steps others)⟩

/-- The logger of the process is made as an explicit logger is, and becomes the one of the
process. -/
theorem sharedLogger_of_unmade (unmade : world.shared = none) :
    let found := world.environment.config world.host.files.read
    world.sharedLogger emit =
      (world.count,
        (run (Step.creation world.wording found) world).world.under (some world.count)
          world.environment) := by
  intro found
  have found_eq : world.environment.config world.host.files.read = found := rfl
  rw [(run_creation world found).2]
  simp only [sharedLogger, unmade, found_eq]
  cases found with
  | ok config => rfl
  | error cause =>
    simp only [emit_own _ world (Message.configRefused_internal world.wording cause)]
    rfl

/-- The first step that uses the logger of the process is the same step after an explicit logger has
been made and has become the one of the process. -/
theorem step_first (step : Step) (unmade : world.shared = none) (uses : step.usesShared = true) :
    let found := world.environment.config world.host.files.read
    world.step step =
      ((run (Step.creation world.wording found) world).world.under (some world.count)
        world.environment).step step := by
  intro found
  have referred := sharedLogger_of_unmade world unmade
  rw [step_shared world step world.count _ referred uses, ← step_of_made _ step world.count rfl]

/-- A run that begins with a use of the logger of the process is the run on an explicit logger that
has been made before it. Which environment the process has from then on does not matter. -/
theorem run_uses (first : Step) (rest : List Step) (unmade : world.shared = none)
    (uses : first.usesShared = true) :
    let found := world.environment.config world.host.files.read
    let made := (run (Step.creation world.wording found) world).world
    let later := run ((first :: rest).map (Step.onto world.count)) made
    run (first :: rest) world = later.under (some world.count) world.environment ∧
      later.world.environment = world.environment ∧
      ∀ environment, run (first :: rest) (made.under (some world.count) environment) =
        later.under (some world.count) environment := by
  intro found made later
  have explicitly := Step.usesShared_map_onto world.count (first :: rest)
  have onExplicit : ∀ environment, run (first :: rest) (made.under (some world.count) environment) =
      later.under (some world.count) environment := by
    intro environment
    rw [run_of_made _ world.count (first :: rest) rfl]
    exact run_under _ environment made _ explicitly
  refine ⟨?_, ?_, onExplicit⟩
  · rw [← onExplicit world.environment]
    simp only [run, step_first world first unmade uses]
    rfl
  · have keptLater := (run_keeps_under made _ explicitly).2
    have keptMade := (run_keeps_under world _ (Step.usesShared_creation world.wording found)).2
    exact keptLater.trans keptMade

end Uses

end World

open World

/-- The logger of the process is one explicit logger that is configured once.

Before the first step that uses it, nothing has been read or made for it. Just before that step, an
explicit logger is made of what the environment says at that moment, or of the defaults if that is
refused; no device is opened for it. The answers, and all that the run leaves of files, targets,
loggers and diagnostics, are those of the same steps on the explicit logger. From then on the
environment does not matter: whatever it names later, the run is the same, and the logger keeps its
configuration. What a collector is told about the configuration is the one warning of that moment
if it was refused, and nothing otherwise.

The steps before the first use do not depend on the logger of the process, so they run as they are.
The first use makes what `Step.creation` makes, and by induction every later use is a use of its
number. -/
theorem shared_logger_is_one_explicit_logger (world : World) (unmade : world.shared = none)
    (steps : List Step) :
    let quiet := steps.takeWhile (!·.usesShared)
    let uses := steps.dropWhile (!·.usesShared)
    let before := run quiet world
    let id := before.world.count
    let found := world.environment.config before.world.host.files.read
    let config := found.toOption.getD Config.default
    let made := run (Step.creation world.wording found) before.world
    let explicit :=
      run (quiet ++ Step.creation world.wording found ++ uses.map (Step.onto id)) world
    let whole := run steps world
    before.world.shared = none ∧
    (uses = [] ∨ before.aborted = true → whole = before) ∧
    (uses ≠ [] → before.aborted = false →
      (made.world.loggers id = Logger.new config ∧ made.world.host = before.world.host ∧
        made.world.openings = before.world.openings) ∧
      (∃ later, whole.answers = before.answers ++ later ∧
        explicit.answers = before.answers ++ made.answers ++ later) ∧
      whole.world = { explicit.world with shared := some id } ∧
      whole.aborted = explicit.aborted ∧
      (∀ environment,
        let other := run uses { made.world with shared := some id, environment := environment }
        whole.answers = before.answers ++ other.answers ∧
          other.world = { whole.world with environment := environment } ∧
          other.aborted = whole.aborted) ∧
      (whole.world.loggers id).config = config ∧
      ∀ warned, world.facade.Collects warned → (∀ step ∈ steps, step.warnsOfConfig = false) →
        before.world.facade.Collects warned ∧
        made.world.facade.Collects (warned ++ Message.onConfig world.wording found) ∧
        whole.world.facade.Collects (warned ++ Message.onConfig world.wording found)) := by
  intro quiet uses before id found config made explicit whole
  have split : quiet ++ uses = steps := List.takeWhile_append_dropWhile
  have unused : ∀ step ∈ quiet, step.usesShared = false := Step.unused_before steps
  obtain ⟨sameShared, sameEnvironment⟩ := run_keeps_under world quiet unused
  have unmadeBefore : before.world.shared = none := sameShared.trans unmade
  have sameWording : before.world.wording = world.wording := (run_grows world quiet).wording_eq
  have whole_split : whole = run (quiet ++ uses) world := by rw [split]
  refine ⟨unmadeBefore, ?_, ?_⟩
  · rintro (none | ended)
    · rw [whole_split, none, List.append_nil]
    · rw [whole_split, run_append_aborted quiet uses world ended]
  intro used survived
  obtain ⟨first, rest, begins, firstUses⟩ := Step.begins_with_use steps used
  obtain ⟨onExplicit, sameAfter, anyEnvironment⟩ :=
    run_uses before.world first rest unmadeBefore firstUses
  rw [← begins, sameEnvironment, sameWording] at onExplicit anyEnvironment sameAfter
  -- What is left of the run is taken apart as a run on the explicit logger.
  let later := run (uses.map (Step.onto id)) made.world
  have whole_eq : whole = { later.under (some id) world.environment with
      answers := before.answers ++ later.answers } := by
    rw [whole_split, run_append quiet uses world survived, onExplicit]
    rfl
  have created : made.aborted = false := by
    simp only [made, ← sameWording]
    exact (run_creation before.world found).1
  have explicit_eq : explicit = { later with
      answers := before.answers ++ made.answers ++ later.answers } := by
    simp only [explicit, List.append_assoc]
    rw [run_append quiet _ world survived, run_append _ _ _ created]
  obtain ⟨new, known, sameHost, sameOpenings⟩ := creation_makes before.world found
  rw [sameWording] at new known sameHost sameOpenings
  refine ⟨⟨new, sameHost, sameOpenings⟩, ⟨later.answers, ?_, ?_⟩, ?_, ?_, ?_, ?_, ?_⟩
  · rw [whole_eq]
  · rw [explicit_eq, List.append_assoc]
  · rw [whole_eq, explicit_eq, ← sameAfter]
    rfl
  · rw [whole_eq, explicit_eq]
    rfl
  · intro environment other
    have same : other = later.under (some id) environment := anyEnvironment environment
    rw [same, whole_eq]
    exact ⟨rfl, rfl, rfl⟩
  · have grown : made.world.Grows later.world := run_grows made.world _
    rw [whole_eq]
    exact (grown.config_eq id known).trans (congrArg Logger.config new)
  · intro warned held others
    rw [← split, List.forall_mem_append] at others
    have heldBefore := run_collects held quiet unused others.1
    have heldAfter := creation_collects before.world found uses warned heldBefore others.2
    rw [sameWording] at heldAfter
    rw [whole_eq]
    exact ⟨heldBefore, heldAfter⟩

/-- The configuration file is made after a bridge to the logger of the process. It would be accepted
now, but the logger has the defaults, without the device directory that the environment names, and
the one warning stays the only one. -/
theorem late_configuration_is_not_read :
    let path := Bytes.ofText "/liblog.toml"
    let world := World.start FileSystem.initial ⟨some path, some (Bytes.ofText "/late")⟩
      .bare Facade.collecting
    let steps := [
      .log ⟨.info, "app", []⟩,
      .makeBridge .shared .root none (.upTo .info),
      .change [Bytes.ofText "liblog.toml"] (.file (Bytes.ofText "fallback_priority = \"V\"")),
      .operate .shared (.isLoggable .debug none)]
    let whole := run steps world
    world.shared = none ∧
    world.environment.config whole.world.host.files.read =
      .ok { deviceDir := Bytes.ofText "/late", fallbackPriority := 'V' } ∧
    (whole.world.loggers 0).config = Config.default ∧
    whole.world.facade.configWarnings =
      [Message.configRefused .bare (.unreadable path .noSuchEntry)] ∧
    whole.world.facade.configWarnings.map Message.text =
      ["config error: /liblog.toml: No such file or directory (os error 2); using defaults"] := by
  intro path world steps whole
  have refused : world.environment.config world.host.files.read =
      .error (.unreadable path .noSuchEntry) := by decide +kernel
  have accepted : world.environment.config whole.world.host.files.read =
      .ok { deviceDir := Bytes.ofText "/late", fallbackPriority := 'V' } := by decide +kernel
  obtain ⟨_, _, held⟩ := shared_logger_is_one_explicit_logger world rfl steps
  obtain ⟨_, _, _, _, _, configured, collected⟩ := held (List.cons_ne_nil _ _) rfl
  have told := (collected [] ⟨rfl, rfl, rfl⟩ (by decide)).2.2.configWarnings_eq
  have found : world.environment.config
      (run (steps.takeWhile (!·.usesShared)) world).world.host.files.read =
        .error (.unreadable path .noSuchEntry) := refused
  rw [found] at configured told
  have text : [Message.configRefused .bare (.unreadable path .noSuchEntry)].map Message.text =
      ["config error: /liblog.toml: No such file or directory (os error 2); using defaults"] := by
    decide +kernel
  exact ⟨rfl, accepted, configured, told, told ▸ text⟩

end KernelLog
