import KernelLog.Proofs.SubmittedRecords
import KernelLog.Proofs.WorldMoves

/-!
# The bridge that is installed first stays

A facade takes one backend, for good. Installing a bridge changes two things, the
backend and the maximum level, one after the other; a second bridge fails at the
first of them and so changes neither.

Nothing but an installation touches what is installed. From there a run is followed
to the call in question, which finds either nothing installed or something that all
later calls find as well.
-/

namespace KernelLog

namespace Facade

/-- What is installed in a facade: its backend, and the maximum level that goes with it. -/
def installation (facade : Facade) : Backend × LevelFilter :=
  (facade.backend, facade.maxLevel)

/-- Where the same is installed, the backend is the same. -/
theorem backend_eq {facade other : Facade} (same : facade.installation = other.installation) :
    facade.backend = other.backend :=
  congrArg Prod.fst same

/-- Nor is there a backend in the one and none in the other. -/
theorem taken_of_same {facade other : Facade} (same : facade.installation = other.installation)
    (taken : other.backend ≠ .absent) : facade.backend ≠ .absent := by
  rw [backend_eq same]
  exact taken

/-- Keeping a message changes nothing that is installed. -/
theorem installation_noting (facade : Facade) (message : Message) :
    (facade.noting message).installation = facade.installation := by
  unfold noting
  split <;> rfl

/-- Nor does keeping several. -/
theorem installation_noting_all (facade : Facade) (messages : List Message) :
    (messages.foldl noting facade).installation = facade.installation := by
  induction messages generalizing facade with
  | nil => rfl
  | cons message rest inductionHypothesis =>
    rw [List.foldl_cons, inductionHypothesis, installation_noting]

end Facade

namespace World

/-- No move installs anything. -/
theorem Move.installation {world after : World} (move : Move world after) :
    after.facade.installation = world.facade.installation := by
  cases move with
  | noted message => exact Facade.installation_noting world.facade message
  | opened id waiting =>
    rw [obtain_of_unopened id world waiting]
    exact Facade.installation_noting_all world.facade _
  | written _ _ _ _ | hung _ _ | probed _ _ | added _ _ | shared _ | hosted _ => rfl

/-- Nor do several. -/
theorem Moves.installation {world after : World} (moves : Moves world after) :
    after.facade.installation = world.facade.installation := by
  induction moves with
  | refl => rfl
  | tail _ move inductionHypothesis => exact move.installation.trans inductionHypothesis

section Steps

variable (world : World)

section Install

variable (on : LoggerRef) (tagMode : TagMode) (channel : Option Channel) (filter : LevelFilter)

/-- Making a bridge leaves what is installed. -/
theorem makeBridge_installation :
    (world.makeBridge on tagMode channel filter).2.facade.installation =
      world.facade.installation :=
  Moves.installation (refer_moves world on)

/-- A bridge that finds nothing installed is installed. -/
theorem step_install_absent (absent : world.facade.backend = .absent) :
    ∃ after, world.step (.install on tagMode channel filter) =
        .answered (.installed (.ok ())) after ∧
      after.facade.installation =
        (.bridge (world.makeBridge on tagMode channel filter).1, filter) := by
  let made := world.makeBridge on tagMode channel filter
  have same := makeBridge_installation world on tagMode channel filter
  have stillAbsent : made.2.facade.backend = .absent := (Facade.backend_eq same).trans absent
  have stepped : world.step (.install on tagMode channel filter) =
      .answered (.installed (made.2.install made.1).1) (made.2.install made.1).2 := rfl
  rw [stepped, World.install, Facade.install_absent _ _ stillAbsent]
  exact ⟨_, rfl, rfl⟩

/-- A bridge that finds something installed is refused, and what is installed stays. -/
theorem step_install_taken (taken : world.facade.backend ≠ .absent) :
    ∃ after, world.step (.install on tagMode channel filter) =
        .answered (.installed (.error .alreadyInstalled)) after ∧
      after.facade.installation = world.facade.installation := by
  let made := world.makeBridge on tagMode channel filter
  have same := makeBridge_installation world on tagMode channel filter
  have stillTaken : made.2.facade.backend ≠ .absent := Facade.taken_of_same same taken
  have stepped : world.step (.install on tagMode channel filter) =
      .answered (.installed (made.2.install made.1).1) (made.2.install made.1).2 := rfl
  rw [stepped, World.install, Facade.install_taken _ _ stillTaken]
  exact ⟨_, rfl, same⟩

end Install

/-- A step leaves what is installed, unless nothing is and it installs a bridge. -/
theorem step_installation (step : Step) :
    ((world.step step).world.facade.installation = world.facade.installation ∧
        (world.facade.backend = .absent → step.installs = false)) ∨
      (world.facade.backend = .absent ∧ step.installs = true ∧
        ∃ bridge filter,
          (world.step step).world.facade.installation = (.bridge bridge, filter)) := by
  cases installs : step.installs with
  | false => exact .inl ⟨Moves.installation (step_moves world step installs), fun _ => rfl⟩
  | true =>
    cases step with
    | install on tagMode channel filter =>
      by_cases absent : world.facade.backend = .absent
      · obtain ⟨after, stepped, found⟩ := step_install_absent world on tagMode channel filter absent
        rw [stepped]
        exact .inr ⟨absent, rfl, _, _, found⟩
      · obtain ⟨after, stepped, same⟩ := step_install_taken world on tagMode channel filter absent
        rw [stepped]
        exact .inl ⟨same, fun none => (absent none).elim⟩
    | _ => cases installs

/-- Where something is installed, every step leaves it. -/
theorem step_keeps_installation (step : Step) (taken : world.facade.backend ≠ .absent) :
    (world.step step).world.facade.installation = world.facade.installation := by
  obtain ⟨same, _⟩ | ⟨absent, _⟩ := step_installation world step
  · exact same
  · exact (taken absent).elim

/-- Where something is installed, it is for good. -/
theorem run_keeps_installation (steps : List Step) (taken : world.facade.backend ≠ .absent) :
    (run steps world).world.facade.installation = world.facade.installation := by
  refine run_keeps (fun now => now.facade.installation = world.facade.installation) steps
    (fun step _ now same => ?_) world rfl
  have stillTaken : now.facade.backend ≠ .absent := Facade.taken_of_same same taken
  exact (step_keeps_installation now step stillTaken).trans same

/-- After a step, nothing is installed exactly if nothing was before it and it did not try to. -/
theorem step_absent_iff (step : Step) :
    (world.step step).world.facade.backend = .absent ↔
      world.facade.backend = .absent ∧ step.installs = false := by
  obtain ⟨same, quiet⟩ | ⟨_, installs, bridge, filter, found⟩ := step_installation world step
  · rw [Facade.backend_eq same]
    exact ⟨fun absent => ⟨absent, quiet absent⟩, And.left⟩
  · have backend : (world.step step).world.facade.backend = .bridge bridge :=
      congrArg Prod.fst found
    simp only [backend, installs, reduceCtorEq, and_false]

/-- After a run that the process survives, nothing is installed exactly if nothing was before it and
no step tried to. -/
theorem run_absent_iff (steps : List Step) (survived : (run steps world).aborted = false) :
    (run steps world).world.facade.backend = .absent ↔
      world.facade.backend = .absent ∧ ∀ step ∈ steps, step.installs = false := by
  induction steps generalizing world with
  | nil => simp [run]
  | cons step rest inductionHypothesis =>
    have first := step_absent_iff world step
    simp only [run, List.forall_mem_cons] at survived ⊢
    cases taken : world.step step with
    | aborted last => simp [taken] at survived
    | answered answer after =>
      simp only [taken, Outcome.world] at first survived ⊢
      rw [inductionHypothesis after survived, first, and_assoc]

/-- A message for the facade goes over the bridge that is installed, if the maximum level is what
that bridge lets through. -/
theorem step_log_installed (bridge : Bridge) (message : Message)
    (installed : world.facade.installation = (.bridge bridge, bridge.filter)) :
    world.step (.log message) = .answered .done (world.forward emit bridge message) := by
  have backend : world.facade.backend = .bridge bridge := congrArg Prod.fst installed
  have maxLevel : world.facade.maxLevel = bridge.filter := congrArg Prod.snd installed
  simp only [World.step, emit_bridge bridge message world backend, maxLevel, forward,
    Bridge.enabled]
  by_cases admitted : bridge.filter.admits message.level = true <;> simp [admitted]

end Steps
end World

open World Bytes

/-- The bridge that is installed first stays, with what it lets through.

A call that installs a bridge comes after some steps of a run and before others. It finds nothing
installed exactly if the run began so and no earlier step made such a call. Then it succeeds, and
from then on, whatever follows, its bridge is the backend and what that lets through is the maximum
level: a message for the facade becomes a record of the logger of the bridge exactly if its level is
let through and it is not under the library's own target. Otherwise the call is refused, and what
was installed stays, also whatever follows.

The two changes that an installation makes are made one after the other, and the second depends on
the success of the first. -/
theorem first_installed_bridge_stays (world : World) (before later : List Step) (on : LoggerRef)
    (tagMode : TagMode) (channel : Option Channel) (filter : LevelFilter)
    (survived : (run before world).aborted = false) :
    let was := (run before world).world
    let bridge : Bridge :=
      { logger := (was.refer on).1, tagMode := tagMode, channel := channel, filter := filter }
    let whole := run (before ++ .install on tagMode channel filter :: later) world
    let first := world.facade.backend = .absent ∧ ∀ step ∈ before, step.installs = false
    let answers := fun result => ∃ rest,
      whole.answers = (run before world).answers ++ .installed result :: rest
    (was.facade.backend = .absent ↔ first) ∧
    (∀ facade : Facade, facade.install bridge = (do
      let taken ← facade.setBackend bridge
      pure (taken.setMaxLevel filter))) ∧
    (first →
      answers (.ok ()) ∧ whole.world.facade.installation = (.bridge bridge, filter) ∧
      ∀ message : Message,
        (filter.admits message.level = true ∧ ¬ message.IsOwn →
          whole.world.step (.log message) = .answered .done
            (whole.world.send emit bridge.logger
              (Frame.ofText channel (Priority.ofLevel message.level)
                (ofText (bridge.tagFor message.target))
                ((Line.written message.pieces).take 1023))).2) ∧
        (¬ (filter.admits message.level = true ∧ ¬ message.IsOwn) →
          whole.world.step (.log message) = .answered .done whole.world)) ∧
    (¬ first →
      answers (.error .alreadyInstalled) ∧
      whole.world.facade.installation = was.facade.installation) := by
  intro was bridge whole first answers
  have absent_iff : was.facade.backend = .absent ↔ first := run_absent_iff world before survived
  refine ⟨absent_iff, fun _ => rfl, ?_, ?_⟩
  · intro isFirst
    obtain ⟨after, taken, found⟩ :=
      step_install_absent was on tagMode channel filter (absent_iff.mpr isFirst)
    have through := run_through before later _ world after _ survived taken
    have backend : after.facade.backend = .bridge bridge := congrArg Prod.fst found
    have installed : whole.world.facade.installation = (.bridge bridge, filter) := by
      have occupied : after.facade.backend ≠ .absent := by simp [backend]
      simp only [whole, through]
      exact (run_keeps_installation after later occupied).trans found
    refine ⟨⟨_, congrArg Run.answers through⟩, installed, fun message => ?_⟩
    have logged := step_log_installed whole.world bridge message installed
    have frame : bridge.frame message = _ := Bridge.frame_expected bridge message
    have enabled_iff : bridge.enabled message.level message.target = true ↔
        filter.admits message.level = true ∧ ¬ message.IsOwn := bridge.enabled_iff message
    rw [logged, forward, ← enabled_iff, frame]
    refine ⟨fun enabled => ?_, fun disabled => ?_⟩
    · rw [if_pos enabled]
      rfl
    · rw [if_neg disabled]
  · intro isLater
    have already : was.facade.backend ≠ .absent := fun absent => isLater (absent_iff.mp absent)
    obtain ⟨after, taken, same⟩ := step_install_taken was on tagMode channel filter already
    have through := run_through before later _ world after _ survived taken
    have stillTaken : after.facade.backend ≠ .absent := Facade.taken_of_same same already
    refine ⟨⟨_, congrArg Run.answers through⟩, ?_⟩
    simp only [whole, through]
    rw [run_keeps_installation after later stillTaken, same]

/-- A bridge for warnings is installed on a logger that the process has made. A second one, on the
logger of the process, would let everything through; it is refused, and a later information is
dropped, as it still would be after the run. Only a warning of a part of the process that is not the
library reaches the first bridge. -/
theorem second_bridge_is_refused :
    let world := World.start FileSystem.initial ⟨none, none⟩ .bare .bare
    let made : List Step := [.create Config.default .memory, .log ⟨.error, "app", [.text "early"]⟩]
    let first := Step.install (.numbered 0) (.fixed "svc") (some .system) (.upTo .warn)
    let second := Step.install .shared .target none (.upTo .trace)
    let messages : List Step :=
      [.log ⟨.info, "app", [.text "low"]⟩, .log ⟨.warn, "liblog::init", [.text "own"]⟩,
        .log ⟨.warn, "liblog_user", [.text "kept"]⟩]
    let whole := run (made ++ first :: second :: messages) world
    ((run made world).aborted = false ∧ (run (made ++ [first]) world).aborted = false) ∧
    whole.world.facade.installation =
      (.bridge ⟨0, .fixed "svc", some .system, .upTo .warn⟩, .upTo .warn) ∧
    whole.world.step (.log ⟨.info, "app", [.text "low"]⟩) = .answered .done whole.world ∧
    (∃ rest, whole.answers = (run (made ++ [first]) world).answers ++
      .installed (.error .alreadyInstalled) :: rest) ∧
    whole.world.host.framesOf 0 .system = [[5] ++ ofText "svc\x00kept\x00"] := by
  intro world made first second messages whole
  have noneBefore : ∀ step ∈ made, step.installs = false :=
    List.forall_mem_cons.mpr ⟨rfl, List.forall_mem_cons.mpr ⟨rfl, List.forall_mem_nil _⟩⟩
  obtain ⟨_, _, succeeds, _⟩ := first_installed_bridge_stays world made (second :: messages)
    (.numbered 0) (.fixed "svc") (some .system) (.upTo .warn) rfl
  obtain ⟨_, _, _, fails⟩ := first_installed_bridge_stays world (made ++ [first]) messages
    .shared .target none (.upTo .trace) rfl
  have isLater : ¬ ∀ step ∈ made ++ [first], step.installs = false := by
    intro none
    cases none first (List.mem_append_right _ (List.mem_singleton_self _))
  obtain ⟨_, installed, messages⟩ := succeeds ⟨rfl, noneBefore⟩
  have dropped := (messages ⟨.info, "app", [.text "low"]⟩).2 fun passes => by cases passes.1
  exact ⟨⟨rfl, rfl⟩, installed, dropped, (fails fun found => isLater found.2).1,
    by decide +kernel⟩

end KernelLog
