import ExQServe.Runtime.GeneratorOwnership

/-! # Runs of the generator lifecycle

Every step of a loaded runtime keeps the invariant, so a run does, whatever the order in
which failures are noticed and close calls begin. -/

namespace ExQServe.Runtime.ExLlamaV3Runtime

structure Sound (runtime : ExLlamaV3Runtime) (resources : Resources) : Prop where
  owns : Ownership runtime.generator runtime.generatorEpisode runtime.quarantinedGenerator
    runtime.quarantinedEpisode runtime.generatorState runtime.generators.length runtime.log
  told : Causes runtime.episodes runtime.generators.length runtime.tasks runtime.sessions
    runtime.reports
  guarded : Recovering runtime.tasks runtime.recoveryTask runtime.generatorState
    runtime.generator runtime.quarantinedGenerator runtime.closers runtime.closing
  sysmem : 0 < resources.sysmemKvCacheMb → runtime.tasks = [] ∧ runtime.generators.length ≤ 1

variable {runtime : ExLlamaV3Runtime} {resources : Resources}

namespace Sound

theorem restart (sound : runtime.Sound resources) (episode : Nat) :
    (runtime.markRestartRequired episode).Sound resources :=
  ⟨sound.owns, sound.told.restart episode, sound.guarded, sound.sysmem⟩

theorem fails (sound : runtime.Sound resources) :
    ({ runtime with generatorState := .failed } : ExLlamaV3Runtime).Sound resources :=
  ⟨sound.owns.leaves GeneratorLifecycleState.noConfusion, sound.told,
    sound.guarded.leaves GeneratorLifecycleState.noConfusion, sound.sysmem⟩

/-- The current generator has the number of its episode. -/
theorem current {owned : Owned} (sound : runtime.Sound resources)
    (owns : runtime.ownsCurrent owned = true) :
    runtime.generator = some owned.generator ∧ owned.episode = owned.generator := by
  have both := of_decide_eq_true owns
  refine ⟨both.1, ?_⟩
  have same := both.2.symm.trans (sound.owns.paired.trans both.1)
  exact Option.some.inj same

theorem quarantines {owned : Owned} (sound : runtime.Sound resources)
    (unclosed : runtime.closing = false) (owns : runtime.ownsCurrent owned = true)
    (ready : runtime.generatorState = .ready) :
    ({ runtime.quarantine owned with generatorState := .failed } : ExLlamaV3Runtime).Sound
      resources := by
  rcases sound.current owns with ⟨current, same⟩
  refine ⟨?_, sound.told, sound.guarded.rest (sound.guarded.over_of_ready ready) unclosed _ _ _ _,
    sound.sysmem⟩
  show Ownership none none (some owned.generator) (some owned.episode) .failed _ _
  rw [same]
  exact sound.owns.quarantine current GeneratorLifecycleState.noConfusion

theorem failSysmem {owned : Owned} (sound : runtime.Sound resources)
    (unclosed : runtime.closing = false) :
    (runtime.failSysmem owned).Sound resources := by
  have first : (runtime.failCurrent owned).Sound resources := by
    unfold failCurrent
    split
    · rename_i owns
      exact (sound.restart owned.episode).quarantines unclosed owns.1 owns.2
    · exact sound
  unfold ExLlamaV3Runtime.failSysmem
  simp only
  split
  · exact (first.restart owned.episode).fails
  · exact first

/-- Marking an episode twice leaves the second mark. -/
theorem restart_recovering (episode : Nat) :
    (runtime.markRecovering episode).markRestartRequired episode =
      runtime.markRestartRequired episode := by
  unfold markRecovering markRestartRequired
  split
  · simp only [List.set_set]
  · rfl

theorem begins {owned : Owned} {allowUnstoredError loop : Bool} (sound : runtime.Sound resources)
    (loaded : runtime.resources = some resources) (plain : ¬ 0 < resources.sysmemKvCacheMb)
    (fresh : runtime.cause owned.episode = none) (owns : runtime.ownsCurrent owned = true) :
    (runtime.beginGeneratorRecovery owned allowUnstoredError loop).Sound resources := by
  unfold beginGeneratorRecovery
  simp only [loaded]
  split
  · exact sound
  rename_i unclosed
  have unclosed : runtime.closing = false := Bool.eq_false_iff.mpr unclosed
  split
  · exact sound
  split
  · exact sound
  split
  · exact sound
  rename_i ready
  have ready : runtime.generatorState = .ready := not_not.mp ready
  split
  · exact sound
  split
  · rcases sound.current owns with ⟨current, same⟩
    have marked : runtime.markRecovering owned.episode =
        { runtime with episodes := runtime.episodes.set owned.episode (some .runtimeRecovering) } :=
      if_pos fresh
    rw [marked]
    rcases owned with ⟨generator, episode⟩
    cases same
    refine ⟨sound.owns.quarantine current GeneratorLifecycleState.noConfusion,
      sound.told.start (sound.owns.current _ current) fresh,
      sound.guarded.start (sound.guarded.over_of_ready ready) unclosed, ?_⟩
    exact fun sysmem => absurd sysmem plain
  · have marked := (sound.restart owned.episode).quarantines unclosed owns ready
    rw [← restart_recovering] at marked
    exact marked

theorem failRecoverable {owned : Owned} {allowUnstoredError loop : Bool}
    (sound : runtime.Sound resources) (loaded : runtime.resources = some resources)
    (plain : ¬ 0 < resources.sysmemKvCacheMb) (fresh : runtime.cause owned.episode = none) :
    (runtime.failRecoverable owned allowUnstoredError loop).Sound resources := by
  have first : (runtime.recoverCurrent owned allowUnstoredError loop).Sound resources := by
    unfold recoverCurrent
    split
    · rename_i owns
      exact sound.begins loaded plain fresh owns.1
    · exact sound
  unfold ExLlamaV3Runtime.failRecoverable
  simp only
  split
  · exact first.restart owned.episode
  · exact first

theorem project {owned : Owned} {allowUnstoredError loop : Bool}
    (sound : runtime.Sound resources) (loaded : runtime.resources = some resources) :
    (runtime.projectBackendFailure owned allowUnstoredError loop).Sound resources := by
  unfold projectBackendFailure
  split
  · exact sound
  rename_i fresh
  have fresh : runtime.cause owned.episode = none := by simpa using fresh
  simp only [loaded]
  split
  · exact sound
  rename_i unclosed
  split
  · exact sound
  split
  · exact sound.failSysmem (Bool.eq_false_iff.mpr unclosed)
  · rename_i plain
    exact sound.failRecoverable loaded plain fresh

end Sound

structure Frame (before after : ExLlamaV3Runtime) : Prop where
  resources : after.resources = before.resources
  closing : after.closing = before.closing
  sessions : after.sessions = before.sessions
  generators : after.generators = before.generators
  log : after.log = before.log

namespace Frame

theorem refl (runtime : ExLlamaV3Runtime) : Frame runtime runtime := ⟨rfl, rfl, rfl, rfl, rfl⟩

theorem failSysmem (runtime : ExLlamaV3Runtime) (owned : Owned) :
    Frame runtime (runtime.failSysmem owned) := by
  have first : Frame runtime (runtime.failCurrent owned) := by
    unfold failCurrent
    split <;> exact ⟨rfl, rfl, rfl, rfl, rfl⟩
  unfold ExLlamaV3Runtime.failSysmem
  simp only
  split
  · exact ⟨first.resources, first.closing, first.sessions, first.generators, first.log⟩
  · exact first

theorem recoverCurrent (runtime : ExLlamaV3Runtime) (owned : Owned)
    (allowUnstoredError loop : Bool) :
    Frame runtime (runtime.recoverCurrent owned allowUnstoredError loop) := by
  unfold ExLlamaV3Runtime.recoverCurrent beginGeneratorRecovery markRecovering
  split
  · split
    · exact refl runtime
    · split_ifs <;> exact ⟨rfl, rfl, rfl, rfl, rfl⟩
  · exact refl runtime

theorem project (runtime : ExLlamaV3Runtime) (owned : Owned) (allowUnstoredError loop : Bool) :
    Frame runtime (runtime.projectBackendFailure owned allowUnstoredError loop) := by
  unfold projectBackendFailure
  split
  · exact refl runtime
  split
  · exact refl runtime
  split_ifs
  · exact refl runtime
  · exact refl runtime
  · exact failSysmem runtime owned
  · have first := recoverCurrent runtime owned allowUnstoredError loop
    unfold failRecoverable
    simp only
    split
    · exact ⟨first.resources, first.closing, first.sessions, first.generators, first.log⟩
    · exact first

end Frame

/-! ## Submissions -/

theorem Sound.observe (sound : runtime.Sound resources) (owned : Owned) :
    (runtime.registerGeneratorObserver owned).Sound resources := by
  unfold registerGeneratorObserver
  split
  · exact sound
  split
  · exact ⟨sound.owns, sound.told, sound.guarded, sound.sysmem⟩
  · exact sound

theorem Frame.observe (runtime : ExLlamaV3Runtime) (owned : Owned) :
    Frame runtime (runtime.registerGeneratorObserver owned) := by
  unfold registerGeneratorObserver
  split_ifs <;> exact ⟨rfl, rfl, rfl, rfl, rfl⟩

theorem generator_observe (runtime : ExLlamaV3Runtime) (owned : Owned) :
    (runtime.registerGeneratorObserver owned).generator = runtime.generator ∧
      (runtime.registerGeneratorObserver owned).generatorEpisode = runtime.generatorEpisode := by
  unfold registerGeneratorObserver
  split_ifs <;> exact ⟨rfl, rfl⟩

theorem Sound.construct (sound : runtime.Sound resources) (absent : runtime.generator = none)
    (unclosed : runtime.closing = false) (ready : runtime.generatorState = .ready)
    (made : BackendGenerator) : (runtime.construct made).Sound resources := by
  have longer : (runtime.generators ++ [made]).length = runtime.generators.length + 1 := by simp
  have empty : runtime.generators.length = 0 := sound.owns.idle ready absent
  refine ⟨?_, ?_, sound.guarded.anyGenerator unclosed _,
    fun sysmem => ⟨(sound.sysmem sysmem).1, ?_⟩⟩
  · show Ownership _ _ _ _ _ (runtime.generators ++ [made]).length _
    rw [longer]
    exact sound.owns.construct absent (sound.owns.ready ready) sound.told.counted
  · show Causes _ (runtime.generators ++ [made]).length _ _ _
    rw [longer]
    exact sound.told.construct
  · show (runtime.generators ++ [made]).length ≤ 1
    omega

/-- The current generator, or a new one where none was made yet. -/
theorem Sound.ensureGenerator {made : Option BackendGenerator} {loop : Bool}
    {result : Except SubmitFailure Nat} {next : ExLlamaV3Runtime}
    (sound : runtime.Sound resources) (loaded : runtime.resources = some resources)
    (unclosed : runtime.closing = false) (ready : runtime.generatorState = .ready)
    (ensured : runtime.ensureGenerator made loop = (result, next)) :
    next.Sound resources ∧ next.resources = runtime.resources ∧
      next.sessions = runtime.sessions ∧
      ∀ generator, result = .ok generator → next.generator = some generator := by
  unfold ExLlamaV3Runtime.ensureGenerator at ensured
  split at ensured
  · rename_i generator owned
    split at ensured
    · cases ensured
      exact ⟨sound, rfl, rfl, fun _ same => by cases same⟩
    rename_i episode _
    split at ensured
    · cases ensured
      have frame := Frame.project runtime ⟨generator, episode⟩ false loop
      exact ⟨sound.project loaded, frame.resources, frame.sessions, fun _ same => by cases same⟩
    · cases ensured
      refine ⟨sound, rfl, rfl, fun _ same => ?_⟩
      cases same
      exact owned
  · rename_i absent
    split at ensured
    · cases ensured
      exact ⟨sound, rfl, rfl, fun _ same => by cases same⟩
    split at ensured
    · cases ensured
      exact ⟨sound, rfl, rfl, fun _ same => by cases same⟩
    split at ensured
    · cases ensured
      exact ⟨sound, rfl, rfl, fun _ same => by cases same⟩
    · rename_i built
      cases ensured
      refine ⟨sound.construct absent unclosed ready built, rfl, rfl, fun _ same => ?_⟩
      cases same
      rfl

/-- A job is handed out on the current generator, which is not known to be dead. -/
theorem Sound.handOut {submission : Submission} {result : Except SubmitFailure Owned}
    {next : ExLlamaV3Runtime} (sound : runtime.Sound resources)
    (loaded : runtime.resources = some resources) (unclosed : runtime.closing = false)
    (ready : runtime.generatorState = .ready)
    (handed : runtime.handOut submission = (result, next)) :
    next.Sound resources ∧
      ((∀ owned, result ≠ .ok owned) ∧ next.sessions = runtime.sessions ∨
        ∃ owned, result = .ok owned ∧ next.sessions = runtime.sessions ++ [owned] ∧
          next.generator = some owned.generator ∧
          next.generatorIsKnownDead owned.generator = false) := by
  unfold ExLlamaV3Runtime.handOut at handed
  split at handed
  · rename_i failure ensuredNext ensured
    cases handed
    have ensures := sound.ensureGenerator loaded unclosed ready ensured
    exact ⟨ensures.1, .inl ⟨fun _ same => (by cases same), ensures.2.2.1⟩⟩
  rename_i generator ensuredNext ensured
  rcases sound.ensureGenerator loaded unclosed ready ensured with ⟨kept, same, sessions, owned⟩
  have owned := owned generator rfl
  split at handed
  · cases handed
    exact ⟨kept, .inl ⟨fun _ same => (by cases same), sessions⟩⟩
  rename_i episode told
  have observed := kept.observe ⟨generator, episode⟩
  have frame := Frame.observe ensuredNext ⟨generator, episode⟩
  have owners := generator_observe ensuredNext ⟨generator, episode⟩
  dsimp only at handed
  split at handed
  · cases handed
    have projected :=
      Frame.project (ensuredNext.registerGeneratorObserver ⟨generator, episode⟩)
        ⟨generator, episode⟩ true submission.loop
    refine ⟨observed.project (frame.resources.trans (same.trans loaded)), .inl ⟨?_, ?_⟩⟩
    · intro _ same
      cases same
    · exact projected.sessions.trans (frame.sessions.trans sessions)
  rename_i healthy
  split at handed
  · cases handed
    have paired : episode = generator :=
      Option.some.inj (told.symm.trans (kept.owns.paired.trans owned))
    refine ⟨⟨observed.owns, ?_, observed.guarded, observed.sysmem⟩, .inr ?_⟩
    · exact observed.told.handOut paired
    · refine ⟨⟨generator, episode⟩, rfl, ?_, owners.1.trans owned,
        Bool.eq_false_iff.mpr healthy⟩
      exact congrArg (· ++ _) (frame.sessions.trans sessions)
  · cases handed
    exact ⟨observed, .inl ⟨fun _ same => (by cases same), frame.sessions.trans sessions⟩⟩

theorem Sound.submit {submission : Submission} (sound : runtime.Sound resources)
    (loaded : runtime.resources = some resources) :
    (runtime.submit submission).2.Sound resources ∧
      ((∀ owned, (runtime.submit submission).1 ≠ .ok owned) ∧
          (runtime.submit submission).2.sessions = runtime.sessions ∨
        runtime.generatorState = .ready ∧ runtime.closing = false ∧
        ∃ owned, (runtime.submit submission).1 = .ok owned ∧
          (runtime.submit submission).2.sessions = runtime.sessions ++ [owned] ∧
          (runtime.submit submission).2.generator = some owned.generator ∧
          (runtime.submit submission).2.generatorIsKnownDead owned.generator = false) := by
  unfold ExLlamaV3Runtime.submit
  simp only [loaded]
  split
  · exact ⟨sound, .inl ⟨fun _ same => (by cases same), rfl⟩⟩
  rename_i unclosed
  have unclosed : runtime.closing = false := Bool.eq_false_iff.mpr unclosed
  split
  · exact ⟨sound, .inl ⟨fun _ same => (by cases same), rfl⟩⟩
  · exact ⟨sound, .inl ⟨fun _ same => (by cases same), rfl⟩⟩
  rename_i ready
  split
  · exact ⟨sound, .inl ⟨fun _ same => (by cases same), rfl⟩⟩
  split
  · exact ⟨sound, .inl ⟨fun _ same => (by cases same), rfl⟩⟩
  · rename_i fits
    have handed : runtime.handOut submission =
        ((runtime.handOut submission).1, (runtime.handOut submission).2) := rfl
    rcases sound.handOut loaded unclosed ready handed with ⟨kept, same | handed⟩
    · exact ⟨kept, .inl same⟩
    · exact ⟨kept, .inr ⟨ready, unclosed, handed⟩⟩

/-! ## The recovery -/

/-- The invariant while the recovery takes a step: its own place is left open. -/
structure Busy (runtime : ExLlamaV3Runtime) (resources : Resources) (task : Nat)
    (recovery : RecoveryTask) : Prop where
  owns : Ownership runtime.generator runtime.generatorEpisode runtime.quarantinedGenerator
    runtime.quarantinedEpisode runtime.generatorState runtime.generators.length runtime.log
  told : Causes runtime.episodes runtime.generators.length runtime.tasks runtime.sessions
    runtime.reports
  guarded : ∃ state generator quarantined, Recovering runtime.tasks runtime.recoveryTask state
    generator quarantined runtime.closers runtime.closing
  plain : ¬ 0 < resources.sysmemKvCacheMb
  present : runtime.tasks[task]? = some recovery
  live : ¬ recovery.place.Over
  unready : runtime.generatorState ≠ .ready

variable {task : Nat} {recovery : RecoveryTask}

theorem Sound.busy (sound : runtime.Sound resources)
    (present : runtime.tasks[task]? = some recovery)
    (live : ¬ recovery.place.Over) : runtime.Busy resources task recovery where
  owns := sound.owns
  told := sound.told
  guarded := ⟨_, _, _, sound.guarded⟩
  plain sysmem := by
    rw [(sound.sysmem sysmem).1] at present
    cases present
  present := present
  live := live
  unready := (sound.guarded.live task recovery present live).2.1

namespace Busy

theorem quiesced (busy : runtime.Busy resources task recovery) (generator : Nat) :
    (runtime.quiesced generator).Busy resources task recovery :=
  { busy with owns := busy.owns.quiesced generator }

theorem restart (busy : runtime.Busy resources task recovery) (episode : Nat) :
    (runtime.markRestartRequired episode).Busy resources task recovery :=
  { busy with told := busy.told.restart episode }

theorem fails (busy : runtime.Busy resources task recovery) :
    ({ runtime with generatorState := .failed } : ExLlamaV3Runtime).Busy resources task
      recovery :=
  { busy with
    owns := busy.owns.leaves GeneratorLifecycleState.noConfusion
    unready := GeneratorLifecycleState.noConfusion }

theorem clears {generator : Nat} (busy : runtime.Busy resources task recovery)
    (held : runtime.quarantinedGenerator = some generator)
    (done : .quiesced generator ∈ runtime.log) :
    runtime.clearQuarantine.Busy resources task recovery :=
  { busy with
    owns := busy.owns.clear
      (fun _ other => (Option.some.inj (held.symm.trans other)).symm) done busy.unready }

theorem observe (busy : runtime.Busy resources task recovery) (owned : Owned) :
    (runtime.registerGeneratorObserver owned).Busy resources task recovery := by
  unfold registerGeneratorObserver
  split
  · exact busy
  split
  · exact { busy with }
  · exact busy

theorem construct (busy : runtime.Busy resources task recovery)
    (absent : runtime.generator = none) (free : runtime.quarantinedGenerator = none)
    (made : BackendGenerator) : (runtime.construct made).Busy resources task recovery := by
  have longer : (runtime.generators ++ [made]).length = runtime.generators.length + 1 := by simp
  refine { busy with owns := ?_, told := ?_ }
  · show Ownership _ _ _ _ _ (runtime.generators ++ [made]).length _
    rw [longer]
    exact busy.owns.construct absent free busy.told.counted
  · show Causes _ (runtime.generators ++ [made]).length _ _ _
    rw [longer]
    exact busy.told.construct

theorem quarantines {owned : Owned} (busy : runtime.Busy resources task recovery)
    (current : runtime.generator = some owned.generator)
    (paired : owned.episode = owned.generator) :
    (runtime.quarantine owned).Busy resources task recovery := by
  refine { busy with owns := ?_ }
  show Ownership none none (some owned.generator) (some owned.episode) _ _ _
  rw [paired]
  exact busy.owns.quarantine current busy.unready

/-- The recovery ends. -/
theorem ends (busy : runtime.Busy resources task recovery) {failed : Bool}
    (lost : failed = true → runtime.cause recovery.failed.episode = some .restartRequired) :
    (runtime.endRecovery task failed).Sound resources := by
  rcases busy.guarded with ⟨state, generator, quarantined, guarded⟩
  refine ⟨busy.owns, ?_, guarded.finish busy.present busy.live failed _ _ _ _,
    fun sysmem => absurd sysmem busy.plain⟩
  refine busy.told.move fun gone found present => ?_
  cases busy.present.symm.trans present
  exact lost gone

theorem cause_restart (busy : runtime.Busy resources task recovery) :
    (runtime.markRestartRequired recovery.failed.episode).cause recovery.failed.episode =
      some .restartRequired := by
  have inside : recovery.failed.episode < runtime.episodes.length := by
    rw [busy.told.counted]
    exact (busy.told.failures _
      (List.mem_map_of_mem (List.mem_of_getElem? busy.present))).2
  simp only [cause, markRestartRequired, List.getElem?_set, if_pos inside, if_true,
    Option.join_some]

theorem failRecovery (busy : runtime.Busy resources task recovery) :
    (runtime.failRecovery task recovery.failed).Sound resources :=
  ((busy.restart recovery.failed.episode).fails).ends fun _ => busy.cause_restart

/-- The recovery waits at another place. -/
theorem waits {place : RecoveryPlace} (busy : runtime.Busy resources task recovery)
    (holds : place.Holds recovery.failed runtime.quarantinedGenerator)
    (lost : place.Lost → runtime.cause recovery.failed.episode = some .restartRequired) :
    (runtime.setTask task place).Sound resources := by
  rcases busy.guarded with ⟨state, generator, quarantined, guarded⟩
  refine ⟨busy.owns, ?_, guarded.advance busy.present busy.live busy.unready holds,
    fun sysmem => absurd sysmem busy.plain⟩
  refine busy.told.move fun gone found present => ?_
  cases busy.present.symm.trans present
  exact lost gone

theorem adoptReplacement {replacement : Owned} (busy : runtime.Busy resources task recovery)
    (current : runtime.generator = some replacement.generator)
    (paired : replacement.episode = replacement.generator) :
    (runtime.adoptReplacement task recovery replacement).Sound resources := by
  have observed := busy.observe replacement
  have owned := (generator_observe runtime replacement).1.trans current
  unfold ExLlamaV3Runtime.adoptReplacement
  dsimp only
  split
  · have marked := observed.restart recovery.failed.episode
    exact (marked.quarantines owned paired).waits rfl fun _ => observed.cause_restart
  split
  · exact (observed.quarantines owned paired).waits rfl fun gone => absurd gone id
  · rcases observed.guarded with ⟨state, generator, quarantined, guarded⟩
    refine ⟨observed.owns.becomesReady owned, ?_,
      guarded.finish observed.present observed.live false _ _ _ _,
      fun sysmem => absurd sysmem observed.plain⟩
    exact observed.told.move fun gone => absurd gone Bool.false_ne_true

theorem replaceGenerator {made : Option BackendGenerator}
    (busy : runtime.Busy resources task recovery)
    (held : runtime.quarantinedGenerator = some recovery.failed.generator)
    (done : .quiesced recovery.failed.generator ∈ runtime.log) :
    (runtime.replaceGenerator task recovery made).Sound resources := by
  have absent : runtime.generator = none :=
    busy.owns.single.resolve_right (by rw [held]; exact Option.some_ne_none _)
  have cleared := busy.clears held done
  unfold ExLlamaV3Runtime.replaceGenerator
  dsimp only
  split
  · exact busy.failRecovery
  split
  · exact cleared.ends fun gone => by cases gone
  rename_i ours
  push Not at ours
  have without : runtime.clearQuarantine.generator = none := absent
  have loaded : runtime.clearQuarantine.resources.isNone = false := by rw [ours.2]; rfl
  cases made with
  | none =>
      have ensures : runtime.clearQuarantine.ensureGenerator none true =
          (.error .backend, runtime.clearQuarantine) := by
        simp [ensureGenerator, without, loaded]
      rw [ensures]
      exact cleared.failRecovery
  | some made =>
      have ensures : runtime.clearQuarantine.ensureGenerator (some made) true =
          (.ok runtime.generators.length, runtime.clearQuarantine.construct made) := by
        simp only [ensureGenerator, without, loaded, Bool.false_eq_true, if_false, Bool.not_true]
        rfl
      rw [ensures]
      exact (cleared.construct absent rfl made).adoptReplacement rfl busy.told.counted

end Busy

theorem Sound.recover {cleaned : Bool} {made : Option BackendGenerator} {next : ExLlamaV3Runtime}
    (sound : runtime.Sound resources) (taken : runtime.recover task cleaned made = some next) :
    next.Sound resources := by
  unfold ExLlamaV3Runtime.recover at taken
  split at taken
  · cases taken
  rename_i recovery present
  have busy (live : ¬ recovery.place.Over) := sound.busy present live
  have held (live : ¬ recovery.place.Over) :=
    (sound.guarded.live task recovery present live).2.2
  split at taken
  · rename_i place
    have live : ¬ recovery.place.Over := by rw [place]; exact id
    split at taken
    · cases taken
    dsimp only at taken
    have locked : ({ runtime with lifecycleLock := some task } : ExLlamaV3Runtime).Busy resources
      task recovery := { busy live with }
    split at taken
    · rename_i owns
      cases taken
      exact locked.waits (of_decide_eq_true owns).1 fun gone => absurd gone id
    · cases taken
      exact locked.ends fun gone => by cases gone
  · rename_i place
    have live : ¬ recovery.place.Over := by rw [place]; exact id
    have holds := held live
    rw [place] at holds
    split at taken
    · cases taken
      exact ((busy live).quiesced _).replaceGenerator holds
        (List.mem_append_right _ (List.mem_singleton.mpr rfl))
    · cases taken
      exact (busy live).failRecovery
  · rename_i replacement place
    have live : ¬ recovery.place.Over := by rw [place]; exact id
    have holds := held live
    rw [place] at holds
    have lost : runtime.cause recovery.failed.episode = some .restartRequired := by
      refine sound.told.lost recovery (List.mem_of_getElem? present) ?_
      rw [place]
      trivial
    dsimp only at taken
    cases cleaned with
    | true =>
        cases taken
        have cleared := ((busy live).quiesced replacement).clears holds
          (List.mem_append_right _ (List.mem_singleton.mpr rfl))
        exact cleared.fails.ends fun _ => lost
    | false =>
        cases taken
        exact (busy live).fails.ends fun _ => lost
  · rename_i replacement place
    have live : ¬ recovery.place.Over := by rw [place]; exact id
    have holds := held live
    rw [place] at holds
    dsimp only at taken
    cases cleaned with
    | true =>
        cases taken
        have cleared := ((busy live).quiesced replacement).clears holds
          (List.mem_append_right _ (List.mem_singleton.mpr rfl))
        exact cleared.ends fun gone => by cases gone
    | false =>
        cases taken
        exact (busy live).ends fun gone => by cases gone
  · cases taken

/-! ## Close -/

def Kept (runtime : ExLlamaV3Runtime) : Prop :=
  ∀ resources, runtime.resources = some resources → runtime.Sound resources

theorem Kept.of_sound (sound : runtime.Sound resources)
    (loaded : runtime.resources = some resources) : runtime.Kept := by
  intro other same
  cases loaded.symm.trans same
  exact sound

theorem Kept.unloaded (absent : runtime.resources = none) : runtime.Kept := by
  intro resources loaded
  cases absent.symm.trans loaded

variable {closer : Nat} {unloadFails : Bool}

theorem Sound.moveCloser {place : ClosePlace} (sound : runtime.Sound resources)
    (waits : place.Waits runtime.tasks runtime.generator runtime.quarantinedGenerator) :
    (runtime.setCloser closer place).Sound resources :=
  ⟨sound.owns, sound.told, sound.guarded.moveCloser waits, sound.sysmem⟩

theorem Sound.closeCurrent (sound : runtime.Sound resources)
    (loaded : runtime.resources = some resources)
    (ended : ∀ task ∈ runtime.tasks, task.place.Over) :
    (runtime.closeCurrent closer unloadFails).Kept := by
  unfold ExLlamaV3Runtime.closeCurrent
  split
  · exact .unloaded rfl
  · rename_i generator current
    refine .of_sound (sound.moveCloser ?_) loaded
    split
    · exact ⟨ended, .inl current⟩
    · exact ended

theorem Sound.closeOwned (sound : runtime.Sound resources)
    (loaded : runtime.resources = some resources)
    (ended : ∀ task ∈ runtime.tasks, task.place.Over) :
    (runtime.closeOwned closer unloadFails).Kept := by
  unfold ExLlamaV3Runtime.closeOwned
  simp only [loaded]
  split
  · rename_i generator held
    exact .of_sound (sound.moveCloser ⟨ended, held⟩) loaded
  · exact sound.closeCurrent loaded ended

theorem over_of_taskEnded {number : Nat} (ended : runtime.taskEnded number = true)
    (only : ∀ other task, runtime.tasks[other]? = some task → ¬ task.place.Over →
      other = number) : ∀ task ∈ runtime.tasks, task.place.Over := by
  intro task member
  rcases List.mem_iff_getElem?.mp member with ⟨other, present⟩
  by_contra live
  have same := only other task present live
  subst same
  unfold taskEnded at ended
  split at ended
  · rename_i place
    cases present.symm.trans place
    exact live trivial
  · cases ended

theorem Sound.close (sound : runtime.Sound resources)
    (loaded : runtime.resources = some resources) : (runtime.close unloadFails).Kept := by
  have begun : ({ runtime with
      closing := true
      closers := runtime.closers ++ [ClosePlace.ended none] } : ExLlamaV3Runtime).Sound
        resources :=
    ⟨sound.owns, sound.told, sound.guarded.newCloser trivial, sound.sysmem⟩
  have present : runtime.resources.isNone = false := by rw [loaded]; rfl
  unfold ExLlamaV3Runtime.close
  simp only [present, Bool.false_eq_true, if_false]
  split
  · rename_i number waited
    have only (other : Nat) (task : RecoveryTask) (present : runtime.tasks[other]? = some task)
        (live : ¬ task.place.Over) : other = number :=
      (Option.some.inj
        (waited.symm.trans (sound.guarded.live other task present live).1)).symm
    split
    · rename_i ended
      exact begun.closeOwned loaded (over_of_taskEnded ended only)
    · exact .of_sound ⟨sound.owns, sound.told, sound.guarded.newCloser only, sound.sysmem⟩ loaded
  · rename_i absent
    exact begun.closeOwned loaded (sound.guarded.idle absent)

theorem Sound.resumeClose {cleaned : Bool} {next : ExLlamaV3Runtime}
    (sound : runtime.Sound resources) (loaded : runtime.resources = some resources)
    (taken : runtime.resumeClose closer cleaned unloadFails = some next) : next.Kept := by
  have waits (place : ClosePlace) (present : runtime.closers[closer]? = some place) :=
    sound.guarded.waits place (List.mem_of_getElem? present)
  unfold ExLlamaV3Runtime.resumeClose at taken
  split at taken
  · rename_i number present
    split at taken
    · rename_i ended
      cases taken
      exact sound.closeOwned loaded (over_of_taskEnded ended (waits _ present))
    · cases taken
  · rename_i captured generator present
    rcases waits _ present with ⟨ended, held⟩
    split at taken
    · cases taken
      exact .of_sound (sound.fails.moveCloser trivial) loaded
    have quiesced : (runtime.quiesced generator).Sound resources :=
      ⟨sound.owns.quiesced generator, sound.told, sound.guarded, sound.sysmem⟩
    dsimp only at taken
    split at taken
    · cases taken
      exact .of_sound (quiesced.moveCloser trivial) loaded
    · cases taken
      -- Only this generator was left, so nothing is owned now.
      have absent : runtime.generator = none :=
        sound.owns.single.resolve_right (by rw [held]; exact Option.some_ne_none _)
      unfold ExLlamaV3Runtime.closeCurrent
      rw [show (runtime.quiesced generator).clearQuarantine.generator = none from absent]
      exact .unloaded rfl
  · rename_i generator present
    rcases waits _ present with ⟨ended, owned⟩
    split at taken
    · cases taken
      exact .unloaded rfl
    · cases taken
      have poisoned : ({ runtime with
          generator := none
          quarantinedGenerator := some generator
          quarantinedEpisode := runtime.generatorEpisode
          generatorEpisode := none
          generatorState := .failed } : ExLlamaV3Runtime).Sound resources :=
        ⟨sound.owns.poison owned, sound.told,
          sound.guarded.poison ended fun _ either => sound.owns.sole owned either, sound.sysmem⟩
      exact .of_sound (poisoned.moveCloser trivial) loaded
  · cases taken
    exact .unloaded rfl
  · cases taken

/-! ## Runs -/

theorem Sound.generatorFails (sound : runtime.Sound resources)
    (change : BackendGenerator → BackendGenerator) (generator : Nat) :
    ({ runtime with generators := runtime.generators.modify generator change } :
      ExLlamaV3Runtime).Sound resources := by
  have same : (runtime.generators.modify generator change).length = runtime.generators.length :=
    List.length_modify ..
  exact ⟨same ▸ sound.owns, same ▸ sound.told, sound.guarded, same ▸ sound.sysmem⟩

/-! The recovery and the submissions leave the resources alone. -/

theorem resources_ensureGenerator (runtime : ExLlamaV3Runtime) (made : Option BackendGenerator)
    (loop : Bool) : (runtime.ensureGenerator made loop).2.resources = runtime.resources := by
  unfold ensureGenerator
  split
  · split
    · rfl
    · split
      · exact (Frame.project ..).resources
      · rfl
  · split_ifs
    · rfl
    · rfl
    · cases made <;> rfl

theorem resources_submit (runtime : ExLlamaV3Runtime) (submission : Submission) :
    (runtime.submit submission).2.resources = runtime.resources := by
  have ensured := resources_ensureGenerator runtime submission.made submission.loop
  have handed : (runtime.handOut submission).2.resources = runtime.resources := by
    unfold handOut
    split
    · rename_i result
      rw [result] at ensured
      exact ensured
    rename_i generator next result
    rw [result] at ensured
    split
    · exact ensured
    dsimp only
    split
    · exact (Frame.project ..).resources.trans ((Frame.observe ..).resources.trans ensured)
    · split
      · exact (Frame.observe ..).resources.trans ensured
      · exact (Frame.observe ..).resources.trans ensured
  unfold submit
  split
  · rfl
  split
  · rfl
  split
  · rfl
  · rfl
  split
  · rfl
  split
  · rfl
  · exact handed

theorem resources_adoptReplacement (runtime : ExLlamaV3Runtime) (task : Nat)
    (recovery : RecoveryTask) (replacement : Owned) :
    (runtime.adoptReplacement task recovery replacement).resources = runtime.resources := by
  have observed := (Frame.observe runtime replacement).resources
  unfold adoptReplacement
  dsimp only
  split
  · exact observed
  split <;> exact observed

theorem resources_replaceGenerator (runtime : ExLlamaV3Runtime) (task : Nat)
    (recovery : RecoveryTask) (made : Option BackendGenerator) :
    (runtime.replaceGenerator task recovery made).resources = runtime.resources := by
  have ensured := resources_ensureGenerator runtime.clearQuarantine made true
  unfold replaceGenerator
  dsimp only
  split
  · rfl
  split
  · rfl
  split
  · rename_i result
    rw [result] at ensured
    exact ensured
  rename_i result
  rw [result] at ensured
  split
  · exact ensured
  · exact (resources_adoptReplacement ..).trans ensured

theorem resources_recover {cleaned : Bool} {made : Option BackendGenerator}
    {next : ExLlamaV3Runtime} (taken : runtime.recover task cleaned made = some next) :
    next.resources = runtime.resources := by
  unfold recover at taken
  split at taken
  · cases taken
  split at taken
  · dsimp only at taken
    split_ifs at taken <;> cases taken <;> rfl
  · split_ifs at taken
    · cases taken
      exact resources_replaceGenerator ..
    · cases taken
      rfl
  · cases cleaned <;> cases taken <;> rfl
  · cases cleaned <;> cases taken <;> rfl
  · cases taken

theorem unloaded_closeCurrent (absent : runtime.resources = none) :
    (runtime.closeCurrent closer unloadFails).resources = none := by
  unfold closeCurrent
  split
  · rfl
  · exact absent

/-- A runtime that was closed stays closed. -/
theorem unloaded_step {action : Action} {next : ExLlamaV3Runtime}
    (absent : runtime.resources = none) (taken : runtime.step action = some next) :
    next.resources = none := by
  cases action with
  | submit submission =>
      cases taken
      exact (resources_submit ..).trans absent
  | generatorFails generator error iterationDone =>
      cases taken
      exact absent
  | iterationDone observer =>
      simp only [step] at taken
      split at taken
      · cases taken
      split at taken
      · cases taken
        unfold onGeneratorIterationDone
        split
        · exact absent
        · exact (Frame.project ..).resources.trans absent
      · cases taken
  | project session loop =>
      simp only [step] at taken
      split at taken
      · cases taken
      · cases taken
        exact (Frame.project ..).resources.trans absent
  | recover task cleaned made => exact (resources_recover taken).trans absent
  | close unloadFails =>
      cases taken
      unfold close
      rw [if_pos (by rw [absent]; rfl)]
      exact absent
  | resumeClose closer cleaned unloadFails =>
      simp only [step, resumeClose] at taken
      split at taken
      · split at taken
        · cases taken
          unfold closeOwned
          rw [absent]
          exact absent
        · cases taken
      · split at taken
        · cases taken
          exact absent
        · split at taken
          · cases taken
            exact absent
          · cases taken
            exact unloaded_closeCurrent absent
      · split at taken
        · cases taken
          rfl
        · cases taken
          exact absent
      · cases taken
        rfl
      · cases taken

theorem Sound.step {action : Action} {next : ExLlamaV3Runtime} (sound : runtime.Sound resources)
    (loaded : runtime.resources = some resources) (taken : runtime.step action = some next) :
    next.Kept := by
  cases action with
  | submit submission =>
      cases taken
      exact .of_sound (sound.submit loaded).1 ((resources_submit ..).trans loaded)
  | generatorFails generator error iterationDone =>
      cases taken
      exact .of_sound (sound.generatorFails _ _) loaded
  | iterationDone observer =>
      simp only [ExLlamaV3Runtime.step] at taken
      split at taken
      · cases taken
      split at taken
      · cases taken
        have erased : ({ runtime with observers := runtime.observers.eraseIdx observer } :
            ExLlamaV3Runtime).Sound resources :=
          ⟨sound.owns, sound.told, sound.guarded, sound.sysmem⟩
        unfold onGeneratorIterationDone
        split
        · exact .of_sound erased loaded
        · exact .of_sound (erased.project loaded) ((Frame.project ..).resources.trans loaded)
      · cases taken
  | project session loop =>
      simp only [ExLlamaV3Runtime.step] at taken
      split at taken
      · cases taken
      · rename_i owned present
        cases taken
        have frame := Frame.project runtime owned true loop
        have projected : (runtime.projectBackendFailure owned true loop).Sound resources :=
          sound.project loaded
        have member : owned ∈ (runtime.projectBackendFailure owned true loop).sessions :=
          frame.sessions ▸ List.mem_of_getElem? present
        exact .of_sound ⟨projected.owns, projected.told.report member, projected.guarded,
          projected.sysmem⟩ (frame.resources.trans loaded)
  | recover task cleaned made =>
      exact .of_sound (sound.recover taken) ((resources_recover taken).trans loaded)
  | close unloadFails =>
      cases taken
      exact sound.close loaded
  | resumeClose closer cleaned unloadFails => exact sound.resumeClose loaded taken

theorem Kept.initially (resources : Resources) : (loaded resources).Kept := by
  have started : (loaded resources).Sound resources := by
    refine ⟨?_, ?_, ?_, fun _ => ⟨rfl, Nat.zero_le _⟩⟩
    · exact
        { paired := rfl
          quarantinePaired := fun _ absent => by cases absent
          current := fun _ absent => by cases absent
          single := .inl rfl
          ready := fun _ => rfl
          idle := fun _ _ => rfl
          accounted := fun _ below => absurd below (Nat.not_lt_zero _)
          ordered := fun before _ after split => by
            cases before <;> cases split }
    · exact
        { counted := rfl
          sessions := fun _ member => by cases member
          failures := fun _ member => by cases member
          recovering := fun _ reads => by cases reads
          reported := fun _ member => by cases member
          lost := fun _ member => by cases member }
    · exact
        { live := fun _ _ present => by cases present
          closing := fun filled => absurd rfl filled
          waits := fun _ member => by cases member }
  exact .of_sound started rfl

theorem Kept.of_run {actions : List Action} (run : (machine resources).Runs actions runtime) :
    runtime.Kept := by
  refine run.preserves (Kept.initially resources) ?_
  intro before action next kept taken
  cases present : before.resources with
  | none => exact .unloaded (unloaded_step present taken)
  | some resources => exact (kept resources present).step present taken

/-- A session of an episode whose recovery has failed is told that a restart is required. -/
theorem Sound.project_lost {task : RecoveryTask} {owned : Owned} (sound : runtime.Sound resources)
    (recovers : task ∈ runtime.tasks) (lost : task.place.Lost)
    (same : owned.episode = task.failed.episode) {session : Nat} {loop : Bool}
    (present : runtime.sessions[session]? = some owned) :
    runtime.step (.project session loop) =
      some { runtime with
        reports := runtime.reports ++ [(owned, some .restartRequired)] } := by
  have told : runtime.cause owned.episode = some .restartRequired :=
    same ▸ sound.told.lost task recovers lost
  have still : runtime.projectBackendFailure owned true loop = runtime :=
    if_pos (by rw [told]; rfl)
  simp only [ExLlamaV3Runtime.step, present, still, told]

/-- In every state that a loaded runtime reaches, whatever the order of its steps: one
owner at most has a generator, and none is in quarantine while the runtime is ready;
generators are made only after all earlier ones are cleaned up; jobs are handed out on the
current generator of a ready runtime that is not closing; failed sessions are told of
their own recovery, and of every lost one; and a system-memory K/V cache is not replaced. -/
theorem generator_recovery {actions : List Action} {held : Resources}
    (run : (machine resources).Runs actions runtime) (loaded : runtime.resources = some held) :
    (runtime.generator = none ∨ runtime.quarantinedGenerator = none) ∧
    (runtime.generatorState = .ready → runtime.quarantinedGenerator = none) ∧
    Ordered runtime.log ∧
    (∀ submission owned, (runtime.submit submission).1 = .ok owned →
      runtime.generatorState = .ready ∧ runtime.closing = false ∧
        (runtime.submit submission).2.generator = some owned.generator ∧
        (runtime.submit submission).2.generatorIsKnownDead owned.generator = false) ∧
    (∀ owned, (owned, some .runtimeRecovering) ∈ runtime.reports →
      owned ∈ runtime.tasks.map RecoveryTask.failed) ∧
    (∀ task ∈ runtime.tasks, task.place.Lost → ∀ (session : Nat) owned loop,
      runtime.sessions[session]? = some owned → owned.episode = task.failed.episode →
      runtime.step (.project session loop) =
        some { runtime with
          reports := runtime.reports ++ [(owned, some .restartRequired)] }) ∧
    (0 < held.sysmemKvCacheMb → runtime.tasks = [] ∧ runtime.generators.length ≤ 1) := by
  have sound := Kept.of_run run held loaded
  refine ⟨sound.owns.single, sound.owns.ready, sound.owns.ordered, ?_, sound.told.reported, ?_,
    sound.sysmem⟩
  · intro submission owned handed
    rcases (sound.submit loaded).2 with ⟨refused, _⟩ | ⟨ready, unclosed, found, same, _, owns,
      alive⟩
    · exact absurd handed (refused owned)
    · cases handed.symm.trans same
      exact ⟨ready, unclosed, owns, alive⟩
  · intro task recovers lost session owned loop present same
    exact sound.project_lost recovers lost same present

def recoveredRun : List Action :=
  let made : BackendGenerator := ⟨false, false, true⟩
  let submission : Submission := ⟨4, 8, some made, true, true⟩
  [.submit submission, .generatorFails 0 true true, .iterationDone 0,
    .recover 0 true none, .project 0 true, .recover 0 true (some made), .submit submission]

def exampleResources : Resources := ⟨0, 0, some 64⟩

theorem generator_recovery_recovered :
    ∃ runtime, (machine exampleResources).Runs recoveredRun runtime ∧
      runtime.sessions = [⟨0, 0⟩, ⟨1, 1⟩] ∧
      runtime.reports = [(⟨0, 0⟩, some .runtimeRecovering)] ∧
      (runtime.generator = none ∨ runtime.quarantinedGenerator = none) := by
  refine ⟨_, rfl, rfl, rfl, ?_⟩
  have run : (machine exampleResources).Runs recoveredRun _ := rfl
  exact (generator_recovery run rfl).1

end ExQServe.Runtime.ExLlamaV3Runtime
