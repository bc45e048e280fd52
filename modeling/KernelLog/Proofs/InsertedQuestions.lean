import KernelLog.Proofs.RememberedAnswers

/-!
# Questions that are put in

Some operations of a logger are questions: whether it is initialized, what its
configuration is, how it describes itself, what it would let through, and whether its
main device can be written to. None of them needs the target. `Inserts` puts such
questions into a run at any places; the run goes on as it would have gone, but for what
loggers remember about their main devices.

Worlds that differ in nothing else are alike, but for the loggers that were asked
(`World.AlikeBut`). They are the same world once these loggers have forgotten
(`alikeBut_iff`), and a step that does not look at what they remember leads from there
to the same world. So one lemma for a step carries the whole run.
-/

namespace KernelLog

/-! ## Worlds that are alike -/

/-- Whether a device is requested for a logger to write to. -/
def Opening.isForWriting : Opening → Bool
  | .device _ _ => true
  | .probe _ => false

namespace World

/-- Two worlds are alike but for some loggers if they differ in nothing but what these remember
about their main devices, and in the requests that were made to learn it. -/
structure AlikeBut (asked : List Nat) (one other : World) : Prop where
  host : one.host = other.host
  config : ∀ id, (one.loggers id).config = (other.loggers id).config
  dispatch : ∀ id, (one.loggers id).dispatch = (other.loggers id).dispatch
  remembered : ∀ id, id ∉ asked →
    (one.loggers id).mainWritable = (other.loggers id).mainWritable
  count : one.count = other.count
  shared : one.shared = other.shared
  environment : one.environment = other.environment
  wording : one.wording = other.wording
  facade : one.facade = other.facade
  stuck : one.stuck = other.stuck
  requests : one.requests = other.requests

/-- Some loggers remember nothing about their main devices. -/
def forgotten (asked : List Nat) : Numbered (Option Bool → Option Bool) := fun id remembered =>
  if id ∈ asked then none else remembered

/-- The world in which some loggers remember nothing about their main devices, and of no request it
is known that it was made to learn it. -/
def forgetting (asked : List Nat) (world : World) : World :=
  world.revised (forgotten asked) Opening.isForWriting

section Alike

variable (asked : List Nat) (world : World)

/-- A logger that remembers nothing has nothing to forget. -/
theorem forgotten_none (id : Nat) : forgotten asked id none = none := ite_self _

/-- The requests of which something is known are those for devices to write to. -/
theorem forgetting_openings : (world.forgetting asked).openings =
    world.requests.map fun request => .device request.1 request.2 := by
  simp only [forgetting, revised, requests]
  induction world.openings with
  | nil => rfl
  | cons opening rest inductionHypothesis =>
    cases opening with
    | device id channel => exact congrArg (Opening.device id channel :: ·) inductionHypothesis
    | probe id => exact inductionHypothesis

/-- Those are none the fewer. -/
theorem forgetting_requests : (world.forgetting asked).requests = world.requests := by
  rw [requests, forgetting_openings, List.filterMap_map]
  exact List.filterMap_some

/-- Two worlds are alike but for some loggers if they are the same once these have forgotten. -/
theorem alikeBut_iff (one other : World) :
    one.AlikeBut asked other ↔ one.forgetting asked = other.forgetting asked := by
  constructor
  · intro alike
    have loggers : (one.forgetting asked).loggers = (other.forgetting asked).loggers := by
      funext id
      simp only [forgetting, revised, Logger.revised, alike.config, alike.dispatch, forgotten]
      by_cases member : id ∈ asked
      · simp only [member, ↓reduceIte]
      · simp only [member, ↓reduceIte, alike.remembered id member]
    have openings : (one.forgetting asked).openings = (other.forgetting asked).openings := by
      rw [forgetting_openings, forgetting_openings, alike.requests]
    simp only [forgetting, revised, World.mk.injEq]
    exact ⟨alike.host, loggers, alike.count, alike.shared, alike.environment, alike.wording,
      alike.facade, alike.stuck, openings⟩
  · intro same
    have requests := congrArg World.requests same
    rw [forgetting_requests, forgetting_requests] at requests
    have loggers : ∀ id,
        (one.forgetting asked).loggers id = (other.forgetting asked).loggers id := by
      rw [same]
      exact fun id => rfl
    have config := fun id => congrArg Logger.config (loggers id)
    have dispatch := fun id => congrArg Logger.dispatch (loggers id)
    have remembered : ∀ id, id ∉ asked →
        (one.loggers id).mainWritable = (other.loggers id).mainWritable := by
      intro id absent
      have left := congrArg Logger.mainWritable (loggers id)
      simpa only [forgetting, revised, Logger.revised, forgotten, if_neg absent] using left
    simp only [forgetting, revised, World.mk.injEq] at same
    obtain ⟨host, _, count, shared, environment, wording, facade, stuck, _⟩ := same
    exact ⟨host, config, dispatch, remembered, count, shared, environment, wording, facade, stuck,
      requests⟩

/-- Every world is alike to itself. -/
theorem AlikeBut.refl : world.AlikeBut asked world := (alikeBut_iff _ _ _).mpr rfl

variable {asked}

/-- Worlds that are alike but for some loggers are so but for more. -/
theorem AlikeBut.mono {one other : World} (alike : one.AlikeBut asked other) (more : List Nat)
    (included : asked ⊆ more) : one.AlikeBut more other :=
  { alike with
    remembered := fun id absent => alike.remembered id fun member => absent (included member) }

/-- Once some loggers have forgotten, what shows of a question is that the logger it was put to has
its answer, if that is not one of them. -/
theorem forgetting_question (id : Nat) :
    (world.isMainWritable id).2.forgetting asked = (world.forgetting asked).setLogger id
      (Logger.revised (forgotten asked id)
        { world.loggers id with mainWritable := some (world.isMainWritable id).1 }) := by
  have replaced := setLogger_revised (forgotten asked) Opening.isForWriting id world
  simp only [World.isMainWritable]
  cases remembered : (world.loggers id).mainWritable with
  | some answer =>
    have same : { world.loggers id with mainWritable := some answer } = world.loggers id := by
      rw [← remembered]
    rw [forgetting, same, replaced]
    simp only [setLogger, Numbered.set_self]
  | none =>
    rw [forgetting, forgetting, replaced]
    simp [revised, Opening.isForWriting, List.filter_append]

/-- Of a logger that has forgotten, a question does not show. -/
theorem forgetting_asked (id : Nat) (member : id ∈ asked) :
    (world.isMainWritable id).2.forgetting asked = world.forgetting asked := by
  have same : Logger.revised (forgotten asked id)
      { world.loggers id with mainWritable := some (world.isMainWritable id).1 } =
      (world.forgetting asked).loggers id := by
    simp only [Logger.revised, forgotten, if_pos member, forgetting, revised]
  rw [forgetting_question, same]
  simp only [setLogger, Numbered.set_self]

/-- All other questions to a logger are answered and leave no trace. -/
theorem step_question (id : Nat) (question : Operation) (quiet : question.needsTarget = false)
    (silent : question ≠ .isMainWritable) :
    ∃ answer, world.step (.operate (.numbered id) question) = .answered answer world := by
  cases question with
  | isMainWritable => exact (silent rfl).elim
  | isInitialized | isLoggable _ _ | config | describe => exact ⟨_, rfl⟩
  | send _ | isAvailable | failAssertion _ _ _ => cases quiet

end Alike
end World

/-! ## Runs that agree -/

/-- The number that a reference means in a process whose own logger is the given one. -/
def LoggerRef.number? (shared : Option Nat) : LoggerRef → Option Nat
  | .shared => shared
  | .numbered id => some id

/-- It means that number still when the process has got its own logger. -/
theorem LoggerRef.number_kept {shared later : Option Nat} (on : LoggerRef) {id : Nat}
    (means : on.number? shared = some id) (kept : ∀ id, shared = some id → later = some id) :
    on.number? later = some id := by
  cases on with
  | shared => exact kept id means
  | numbered other => exact means

/-- The answers to a step in two runs agree: they are the same, unless the step asks one of some
loggers whether its main device can be written to. -/
inductive Answer.Agrees (shared : Option Nat) (asked : List Nat) : Step → Answer → Answer → Prop
  | same (step : Step) (answer : Answer) : Agrees shared asked step answer answer
  | asked (on : LoggerRef) (one other : Bool) {id : Nat} (means : on.number? shared = some id)
      (member : id ∈ asked) :
      Agrees shared asked (.operate on .isMainWritable) (.flag one) (.flag other)

/-- Answers that agree do so still when the process has got its own logger. -/
theorem Answer.Agrees.mono {shared later : Option Nat} {asked : List Nat} {step : Step}
    {one other : Answer} (agrees : one.Agrees shared asked step other)
    (kept : ∀ id, shared = some id → later = some id) : one.Agrees later asked step other := by
  cases agrees with
  | same => exact .same step one
  | asked on first second means member =>
    exact .asked on first second (on.number_kept means kept) member

/-- What a step leads to in two worlds is alike but for some loggers: answers that agree and worlds
alike, or the end of the process in worlds alike. -/
inductive Outcome.AlikeBut (asked : List Nat) (step : Step) : Outcome → Outcome → Prop
  | answered (one other : Answer) (after otherAfter : World)
      (agrees : one.Agrees after.shared asked step other)
      (alike : after.AlikeBut asked otherAfter) :
      AlikeBut asked step (.answered one after) (.answered other otherAfter)
  | aborted (last otherLast : World) (alike : last.AlikeBut asked otherLast) :
      AlikeBut asked step (.aborted last) (.aborted otherLast)

/-- What a step leads to is alike if it is the same once some loggers have forgotten. -/
theorem Outcome.alikeBut_of_revised (asked : List Nat) (step : Step) {one other : Outcome}
    (same : one.revised (World.forgotten asked) Opening.isForWriting =
      other.revised (World.forgotten asked) Opening.isForWriting) :
    one.AlikeBut asked step other := by
  have alike := fun one other => (World.alikeBut_iff asked one other).mpr
  cases one with
  | answered answer after =>
    cases other with
    | answered otherAnswer otherAfter =>
      obtain ⟨rfl, sameAfter⟩ := Outcome.answered.inj same
      exact .answered _ _ _ _ (.same step answer) (alike _ _ sameAfter)
    | aborted otherLast => cases same
  | aborted last =>
    cases other with
    | answered otherAnswer otherAfter => cases same
    | aborted otherLast => exact .aborted _ _ (alike _ _ (Outcome.aborted.inj same))

namespace World

/-- The number that comes with a logger is the one that the reference to it means from then on. -/
theorem number_refer (on : LoggerRef) (world : World) :
    on.number? (world.refer on).2.shared = some (world.refer on).1 := by
  cases on with
  | numbered id => rfl
  | shared =>
    simp only [World.refer, sharedLogger, LoggerRef.number?]
    split
    · rename_i made
      exact made
    · rfl

section Steps

variable {asked : List Nat} {one other : World} (alike : one.AlikeBut asked other)
include alike

/-- Worlds that are alike are so still when the logger that a step uses is made, and it is the same
in both. -/
theorem AlikeBut.refer (on : LoggerRef) :
    (one.refer on).1 = (other.refer on).1 ∧
      (one.refer on).2.AlikeBut asked (other.refer on).2 := by
  have referred : ∀ world : World, (world.forgetting asked).refer on =
      ((world.refer on).1, (world.refer on).2.forgetting asked) := fun world =>
    refer_revised (forgotten asked) world (fun _ _ => rfl) (fun id _ => forgotten_none asked id) on
  have same := congrArg (World.refer on) ((alikeBut_iff _ _ _).mp alike)
  rw [referred, referred] at same
  obtain ⟨sameId, sameAfter⟩ := Prod.mk.inj same
  exact ⟨sameId, (alikeBut_iff _ _ _).mpr sameAfter⟩

/-- A logger that is not one of those answers the same about its main device in worlds alike, and
leads to worlds alike. -/
theorem AlikeBut.isMainWritable (id : Nat) (absent : id ∉ asked) :
    (one.isMainWritable id).1 = (other.isMainWritable id).1 ∧
      (one.isMainWritable id).2.AlikeBut asked (other.isMainWritable id).2 := by
  have same : (one.isMainWritable id).1 = (other.isMainWritable id).1 := by
    rw [(isMainWritable_eq id one).1, (isMainWritable_eq id other).1, alike.remembered id absent,
      alike.config, alike.host]
  refine ⟨same, ?_⟩
  rw [alikeBut_iff, forgetting_question, forgetting_question, same, (alikeBut_iff _ _ _).mp alike]
  simp only [alike.config, alike.dispatch]

/-- A step leads to the like in worlds that are alike. -/
theorem AlikeBut.step (step : Step) : (one.step step).AlikeBut asked step (other.step step) := by
  by_cases asks : ∃ on, step = .operate on .isMainWritable
  · obtain ⟨on, rfl⟩ := asks
    obtain ⟨same, made⟩ := alike.refer on
    by_cases member : (one.refer on).1 ∈ asked
    · have means : on.number? ((one.refer on).2.isMainWritable (one.refer on).1).2.shared =
          some (one.refer on).1 :=
        on.number_kept (number_refer on one)
          (operate_grows (one.refer on).1 (one.refer on).2 .isMainWritable).shared_eq
      have unseen : ((one.refer on).2.isMainWritable (one.refer on).1).2.AlikeBut asked
          ((other.refer on).2.isMainWritable (other.refer on).1).2 := by
        rw [alikeBut_iff, forgetting_asked _ _ member, forgetting_asked _ _ (same ▸ member)]
        exact (alikeBut_iff _ _ _).mp made
      exact .answered _ _ _ _ (.asked on _ _ means member) unseen
    · obtain ⟨sameAnswer, asked⟩ := made.isMainWritable (one.refer on).1 member
      simp only [World.step, operate, ← same, sameAnswer]
      exact .answered _ _ _ _ (.same _ _) asked
  · have stepped : ∀ world : World, (world.forgetting asked).step step =
        (world.step step).revised (forgotten asked) Opening.isForWriting := fun world =>
      step_revised (forgotten asked) world (fun _ _ => rfl) (fun id _ => forgotten_none asked id)
        step fun on same => asks ⟨on, same⟩
    have same := congrArg (World.step step) ((alikeBut_iff _ _ _).mp alike)
    rw [stepped, stepped] at same
    exact Outcome.alikeBut_of_revised asked step same

end Steps
end World

/-! ## Questions put in -/

/-- A run of steps, and the same run with questions to loggers put in at any places. -/
inductive Inserts : List Step → List Step → Prop
  | done : Inserts [] []
  | kept (step : Step) {less more : List Step} (rest : Inserts less more) :
      Inserts (step :: less) (step :: more)
  | asked (id : Nat) (question : Operation) (quiet : question.needsTarget = false)
      {less more : List Step} (rest : Inserts less more) :
      Inserts less (.operate (.numbered id) question :: more)

/-- The logger that a step asks about its main device by its number. -/
def Step.asksMain? : Step → Option Nat
  | .operate (.numbered id) .isMainWritable => some id
  | _ => none

/-- With one step more, no fewer loggers are asked. -/
theorem Step.asksMain_subset (step : Step) (steps : List Step) (asked : List Nat) :
    steps.filterMap asksMain? ++ asked ⊆ (step :: steps).filterMap asksMain? ++ asked :=
  List.append_subset.mpr ⟨List.subset_append_of_subset_left _
    (List.filterMap_subset _ (List.subset_cons_self step steps)), List.subset_append_right _ _⟩

/-- The answered steps of a run, and those of the same run with questions put in. All answers of the
first are the same in the second, but those about the main devices of loggers of which this has been
asked by a question put in before. The logger of the process counts by its number, if it has one in
the end. -/
inductive Undisturbed (shared : Option Nat) :
    List Nat → List (Step × Answer) → List (Step × Answer) → Prop
  | done (asked : List Nat) : Undisturbed shared asked [] []
  | kept {asked : List Nat} (step : Step) (one other : Answer)
      (agrees : one.Agrees shared asked step other) {less more : List (Step × Answer)}
      (rest : Undisturbed shared asked less more) :
      Undisturbed shared asked ((step, one) :: less) ((step, other) :: more)
  | asked {asked : List Nat} (id : Nat) (question : Operation)
      (quiet : question.needsTarget = false) (silent : question ≠ .isMainWritable) (answer : Answer)
      {less more : List (Step × Answer)} (rest : Undisturbed shared asked less more) :
      Undisturbed shared asked less ((.operate (.numbered id) question, answer) :: more)
  | mainWritable {asked : List Nat} (id : Nat) (answer : Answer) {less more : List (Step × Answer)}
      (rest : Undisturbed shared (id :: asked) less more) :
      Undisturbed shared asked less ((.operate (.numbered id) .isMainWritable, answer) :: more)

/-- Where a run is cut, the longer one can be cut, with questions put in before and behind. -/
theorem Inserts.cut {less more : List Step} (inserted : Inserts less more)
    (first second : List Step) (cut : less = first ++ second) :
    ∃ firstMore secondMore, more = firstMore ++ secondMore ∧ Inserts first firstMore ∧
      Inserts second secondMore := by
  induction inserted generalizing first with
  | done =>
    obtain ⟨rfl, rfl⟩ := List.append_eq_nil_iff.mp cut.symm
    exact ⟨[], [], rfl, .done, .done⟩
  | kept step rest inductionHypothesis =>
    cases first with
    | nil =>
      rw [List.nil_append] at cut
      subst cut
      exact ⟨[], _, rfl, .done, .kept step rest⟩
    | cons head tail =>
      obtain ⟨rfl, sameRest⟩ := List.cons.inj cut
      obtain ⟨firstMore, secondMore, rfl, before, behind⟩ := inductionHypothesis tail sameRest
      exact ⟨step :: firstMore, secondMore, rfl, .kept step before, behind⟩
  | asked id question quiet rest inductionHypothesis =>
    obtain ⟨firstMore, secondMore, rfl, before, behind⟩ := inductionHypothesis first cut
    exact ⟨_ :: firstMore, secondMore, rfl, .asked id question quiet before, behind⟩

namespace World

/-- The steps of a run that are answered, each with its answer. -/
def transcript (steps : List Step) (world : World) : List (Step × Answer) :=
  steps.zip (run steps world).answers

/-- Questions that are put in a run do not disturb it, in whichever of two worlds alike it is made.
Induct over the insertion: a question that is put in leads to a world alike but for the logger that
is asked, and all other steps lead from worlds alike to worlds alike. -/
theorem AlikeBut.run {less more : List Step} (inserted : Inserts less more) {asked : List Nat}
    {one other : World} (alike : one.AlikeBut asked other) :
    Undisturbed (World.run less one).world.shared asked (one.transcript less)
        (other.transcript more) ∧
      (run less one).aborted = (run more other).aborted ∧
      (run less one).world.AlikeBut (more.filterMap Step.asksMain? ++ asked)
        (run more other).world := by
  induction inserted generalizing one other asked with
  | done => exact ⟨.done asked, rfl, alike⟩
  | @kept step less more rest inductionHypothesis =>
    have stepped := alike.step step
    simp only [transcript, World.run]
    generalize one.step step = outcome, other.step step = otherOutcome at stepped ⊢
    cases stepped with
    | answered answer otherAnswer after otherAfter agrees kept =>
      obtain ⟨answered, aborted, last⟩ := inductionHypothesis kept
      have lasting := agrees.mono (run_grows after less).shared_eq
      exact ⟨.kept step answer otherAnswer lasting answered, aborted,
        last.mono _ (Step.asksMain_subset step _ asked)⟩
    | aborted last otherLast kept =>
      simp only [List.zip_nil_right]
      exact ⟨.done asked, trivial, kept.mono _ (List.subset_append_right _ asked)⟩
  | asked id question quiet rest inductionHypothesis =>
    by_cases silent : question = .isMainWritable
    · subst silent
      have kept : one.AlikeBut (id :: asked) (other.isMainWritable id).2 := by
        rw [alikeBut_iff, forgetting_asked _ _ List.mem_cons_self]
        exact (alikeBut_iff _ _ _).mp (alike.mono _ (List.subset_cons_self id asked))
      obtain ⟨answered, aborted, last⟩ := inductionHypothesis kept
      refine ⟨.mainWritable id _ answered, aborted, last.mono _ ?_⟩
      exact List.perm_middle.subset
    · obtain ⟨answer, taken⟩ := step_question other id question quiet silent
      obtain ⟨answered, aborted, last⟩ := inductionHypothesis alike
      simp only [transcript, World.run, taken]
      exact ⟨.asked id question quiet silent answer answered, aborted,
        last.mono _ (Step.asksMain_subset _ _ asked)⟩

end World

open World

/-- Questions do not disturb.

Put questions into a run at any places, to any loggers. All other steps are answered as without
them, and the process ends at the same step, if it ends. Cut the run anywhere: the longer one has a
place where nothing is different but what the asked loggers remember about their main devices.
Files, memories and writers hold the same, the facade has kept the same diagnostics, every logger is
initialized or is not and has the same target, and the same devices have been requested in the same
order.

Only a question about the main device may be answered differently, and only by a logger of which
this was asked by a question put in before. For all such questions to a logger get one answer: the
one that it remembers, or else whether its main device could be opened for writing at the moment of
the first. Whether it has a target then, and which, does not come into it; and whatever is done
between two questions, the answer is the same. -/
theorem questions_do_not_disturb (less more : List Step) (inserted : Inserts less more)
    (world : World) :
    Undisturbed (run less world).world.shared [] (world.transcript less)
      (world.transcript more) ∧
    (run less world).aborted = (run more world).aborted ∧
    (∀ first second, less = first ++ second → ∃ firstMore secondMore,
      more = firstMore ++ secondMore ∧ Inserts first firstMore ∧ Inserts second secondMore ∧
        (run first world).world.AlikeBut (firstMore.filterMap Step.asksMain?)
          (run firstMore world).world) ∧
    ∀ id < world.count, ∀ before, world.Unasked id before →
      let moment := (run before world).world
      let found := (world.loggers id).mainWritable.getD
        ((world.loggers id).config.opens moment.host.files .main)
      ∀ on, (moment.refer on).1 = id →
        ∃ after, moment.step (.operate on .isMainWritable) = .answered (.flag found) after ∧
          ∀ between again, let now := (run between after).world
            (now.refer again).1 = id →
              ∃ last, now.step (.operate again .isMainWritable) = .answered (.flag found) last := by
  obtain ⟨answered, aborted, _⟩ := (AlikeBut.refl [] world).run inserted
  refine ⟨answered, aborted, fun first second cut => ?_, fun id known before unasked =>
    answers_once id world known before unasked⟩
  obtain ⟨firstMore, secondMore, same, early, late⟩ := inserted.cut first second cut
  have alike := ((AlikeBut.refl [] world).run early).2.2
  rw [List.append_nil] at alike
  exact ⟨firstMore, secondMore, same, early, late, alike⟩

/-- The main device is made right behind a question that is put in. The run itself would have found
it; after the question it is not found any more. -/
theorem early_question_is_answered_for_good :
    let world :=
      ((World.start FileSystem.initial ⟨none, none⟩ .bare .bare).create Config.default .devices).2
    let device :=
      Step.change [Bytes.ofText "dev", Bytes.ofText "log", Bytes.ofText "main"] (.file [])
    let question := Step.operate (.numbered 0) .isMainWritable
    let write := Step.operate (.numbered 0) (.send (.write .info "app" "started"))
    let less := [device, question, write]
    let more := [question, device, .operate (.numbered 0) .isInitialized, question, write]
    let made := (run [device] world).world
    Inserts less more ∧ 0 < world.count ∧ world.Unasked 0 [device] ∧
    Undisturbed (run less world).world.shared [] (world.transcript less)
      (world.transcript more) ∧
    (∃ after, made.step question = .answered (.flag true) after) ∧
    ∃ asked, world.step question = .answered (.flag false) asked ∧
      ∃ last, (run [device, .operate (.numbered 0) .isInitialized] asked).world.step question =
        .answered (.flag false) last := by
  intro world device question write less more made
  have inserted : Inserts less more :=
    .asked 0 .isMainWritable rfl (.kept device (.asked 0 .isInitialized rfl
      (.kept question (.kept write .done))))
  have silent : ∀ step ∈ [device], ∀ on, step ≠ .operate on .isMainWritable :=
    List.forall_mem_singleton.mpr nofun
  have unasked := Unasked.of_silent 0 world [device] silent
  obtain ⟨undisturbed, _, _, settled⟩ := questions_do_not_disturb less more inserted world
  have absent : Config.default.opens world.host.files .main = false := by decide
  have present : Config.default.opens made.host.files .main = true := by decide
  have named : ∀ world : World, (world.refer (.numbered 0)).1 = 0 := fun _ => rfl
  have known : 0 < world.count := Nat.zero_lt_one
  obtain ⟨late, found, _⟩ := settled 0 known [device] unasked (.numbered 0) (named _)
  obtain ⟨early, missed, again⟩ :=
    settled 0 known [] (.of_silent 0 world [] (List.forall_mem_nil _)) (.numbered 0) (named _)
  obtain ⟨last, missedAgain⟩ :=
    again [device, .operate (.numbered 0) .isInitialized] (.numbered 0) (named _)
  have unheard : (world.loggers 0).mainWritable = none := rfl
  have configured : (world.loggers 0).config = Config.default := rfl
  simp only [unheard, configured, Option.getD_none] at found
  simp only [unheard, configured, Option.getD_none, run, absent] at missed missedAgain
  exact ⟨inserted, known, unasked, undisturbed, ⟨late, found⟩, early, missed, last, missedAgain⟩

end KernelLog
