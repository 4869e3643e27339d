import ExQServe.Server.ModelManager

/-! # Who owns a runtime

The owner of a bundle is the teardown that closes it, or else the manager. Every other
bundle that was published has a runtime whose close returned, and a lease is only held on
the owned bundle while nothing of it was closed. -/

namespace ExQServe.Server

variable {ε π : Type}

namespace World

def owner (world : World ε π) : Option ActiveModelBundle :=
  match world.transition with
  | some (.closing _ bundle _ _) => some bundle
  | _ => world.manager.bundle

structure Books (activeSubmissions : Int) (quiesced : Bool) (leases : List Lease)
    (published : List ActiveModelBundle) : Prop where
  counted : activeSubmissions = leases.length
  quiesced : quiesced = true ↔ leases = []
  numbered : ∀ bundle ∈ published, bundle.serial < published.length
  distinct : ∀ first ∈ published, ∀ second ∈ published,
    first.serial = second.serial → first = second

structure Owns (published : List ActiveModelBundle) (parts : Nat → Parts) (leases : List Lease)
    (owner : Option ActiveModelBundle) : Prop where
  member : ∀ bundle, owner = some bundle → bundle ∈ published
  others : ∀ bundle ∈ published,
    (parts bundle.serial).runtime = .returned ∨ owner = some bundle
  leased : ∀ lease ∈ leases,
    owner = some lease.bundle ∧ parts lease.bundle.serial = .untouched

end World

def ModelManager.Stable (manager : ModelManager π) : Prop :=
  (manager.state = .ready ∧ manager.bundle.isSome) ∨
    (manager.state = .unloaded ∧ manager.bundle = none) ∨
    manager.state = .error ∨ manager.state = .closed

/-- What a teardown has set before it closes the bundle. -/
def Teardown.Entered (call : Teardown π) (manager : ModelManager π)
    (bundle : ActiveModelBundle) : Prop :=
  match call with
  | .switch _ _ => manager.state = .switching ∧ manager.bundle = some bundle
  | .unload => manager.state = .unloading ∧ manager.bundle = some bundle
  | .close => manager.state = .closed ∧ manager.bundle = none

theorem Teardown.Entered.congr {call : Teardown π} {manager other : ModelManager π}
    {bundle : ActiveModelBundle} (entered : call.Entered manager bundle)
    (sameBundle : other.bundle = manager.bundle) (sameState : other.state = manager.state) :
      call.Entered other bundle := by
  cases call <;> exact ⟨sameState.trans entered.1, sameBundle.trans entered.2⟩

/-- The submissions are over once the event has woken the teardown. -/
def Closing.Drained (leases : List Lease) : Closing → Prop
  | .submissions true => leases = []
  | .runtime => leases = []
  | _ => True

namespace World

def Place (world : World ε π) : Option (Transition ε π) → Prop
  | none => world.manager.Stable ∧
      (world.manager.state = .ready → ∀ bundle, world.manager.bundle = some bundle →
        world.parts bundle.serial = .untouched)
  | some (.building _ _ _) => world.manager.state ≠ .ready ∧ world.manager.bundle = none
  | some (.closing call bundle _ place) =>
      call.Entered world.manager bundle ∧ place.Drained world.leases

structure Sound (world : World ε π) : Prop where
  books : Books world.manager.activeSubmissions world.manager.submissionsQuiesced world.leases
    world.published
  owns : Owns world.published world.parts world.leases world.owner
  place : world.Place world.transition

variable {world : World ε π} {bundle : ActiveModelBundle} {call : Teardown π}

/-! ## Ends of a transition -/

/-- A transition that ends may leave any stable manager that still references what was
not closed. -/
theorem Sound.finish {manager : ModelManager π}
    {result : Except (ManagerFailure ε) (Option ModelManagerSnapshot)}
    (books : Books manager.activeSubmissions manager.submissionsQuiesced world.leases
      world.published)
    (owns : Owns world.published world.parts world.leases manager.bundle)
    (stable : manager.Stable)
    (ready : manager.state = .ready → ∀ bundle, manager.bundle = some bundle →
      world.parts bundle.serial = .untouched) :
    (world.finish manager result).Sound :=
  ⟨books, owns, stable, ready⟩

section Teardown

variable (books : Books world.manager.activeSubmissions world.manager.submissionsQuiesced
  world.leases world.published)
include books

theorem Sound.ownershipUnresolved {cause : ManagerFailure ε}
    (owns : Owns world.published world.parts world.leases (some bundle))
    (entered : call.Entered world.manager bundle) :
    (world.ownershipUnresolved bundle cause call).Sound := by
  cases call with
  | switch modelId path =>
      exact .finish books (entered.2 ▸ owns) (.inr (.inr (.inl rfl))) fun ready => by cases ready
  | unload =>
      exact .finish books (entered.2 ▸ owns) (.inr (.inr (.inl rfl))) fun ready => by cases ready
  | close =>
      refine .finish books owns (.inr (.inr (.inr entered.1))) fun ready => ?_
      cases entered.1.symm.trans ready

/-- The runtime was closed, and the transition goes on to its end or to the builder. -/
theorem Sound.bundleClosed (owns : Owns world.published world.parts world.leases none)
    (entered : call.Entered world.manager bundle) : (world.bundleClosed call).Sound := by
  cases call with
  | switch modelId path =>
      refine ⟨books, owns, fun ready => ?_, rfl⟩
      cases entered.1.symm.trans ready
  | unload => exact .finish books owns (.inr (.inl ⟨rfl, rfl⟩)) fun ready => by cases ready
  | close =>
      refine .finish books (entered.2 ▸ owns) (.inr (.inr (.inr entered.1))) fun ready => ?_
      cases entered.1.symm.trans ready

theorem Sound.controllerFailed {failure : ManagerFailure ε}
    (owns : Owns world.published world.parts world.leases none)
    (entered : call.Entered world.manager bundle) :
    (world.controllerFailed failure call).Sound := by
  cases call with
  | switch modelId path =>
      exact .finish books owns (.inr (.inr (.inl rfl))) fun ready => by cases ready
  | unload => exact .finish books owns (.inr (.inr (.inl rfl))) fun ready => by cases ready
  | close =>
      refine .finish books (entered.2 ▸ owns) (.inr (.inr (.inr entered.1))) fun ready => ?_
      cases entered.1.symm.trans ready

/-! ## Closing the parts -/

/-- With no lease held, the owned bundle may be closed bit by bit. -/
theorem Owns.setParts (parts : Parts) (idle : world.leases = [])
    (owns : Owns world.published world.parts world.leases (some bundle)) :
    Owns world.published (world.setParts bundle parts).parts world.leases (some bundle) where
  member := owns.member
  others other member := by
    rcases owns.others other member with returned | owned
    · by_cases same : other.serial = bundle.serial
      · exact .inr (congrArg some (books.distinct _ (owns.member _ rfl) _ member same.symm))
      · refine .inl ?_
        show (Function.update world.parts bundle.serial parts other.serial).runtime = .returned
        rw [Function.update_of_ne same]
        exact returned
    · exact .inr owned
  leased lease member := by
    rw [idle] at member
    cases member

omit books in
/-- The owned bundle is given up once its runtime has closed. -/
theorem Owns.release {published : List ActiveModelBundle} {parts : Nat → Parts}
    {leases : List Lease} (idle : leases = []) (owns : Owns published parts leases (some bundle))
    (returned : (parts bundle.serial).runtime = .returned) :
    Owns published parts leases none where
  member _ absent := by cases absent
  others other member := by
    rcases owns.others other member with closed | owned
    · exact .inl closed
    · cases owned
      exact .inl returned
  leased lease member := by
    rw [idle] at member
    cases member

theorem Sound.closeParts {controllerError : Option (ManagerFailure ε)}
    {preprocessing : Except ε Unit} (idle : world.leases = [])
    (owns : Owns world.published world.parts world.leases (some bundle))
    (entered : call.Entered world.manager bundle) :
    (world.closeParts call bundle controllerError preprocessing).Sound := by
  have closed (parts : Parts) := Owns.setParts books parts idle owns
  unfold World.closeParts
  simp only
  split
  · apply Sound.ownershipUnresolved
    · exact books
    · exact closed _
    · exact entered
  · exact ⟨books, closed _, entered, idle⟩

theorem Sound.runtimeCloses {controllerError : Option (ManagerFailure ε)} (idle : world.leases = [])
    (owns : Owns world.published world.parts world.leases (some bundle))
    (entered : call.Entered world.manager bundle)
    (holds : world.transition = some (.closing call bundle controllerError .runtime))
    {outcome : TaskOutcome ε Unit} {next : World ε π}
    (taken : world.step (.runtimeCloses outcome) = some next) : next.Sound := by
  have closed (parts : Parts) := Owns.setParts books parts idle owns
  simp only [World.step, holds] at taken
  split at taken
  · cases taken
    apply Sound.ownershipUnresolved
    · exact books
    · exact closed _
    · exact entered
  · have released (parts : Parts) (returned : parts.runtime = .returned) :
        Owns world.published (world.setParts bundle parts).parts world.leases none := by
      apply Owns.release
      · exact idle
      · exact closed _
      show (Function.update world.parts bundle.serial parts bundle.serial).runtime = .returned
      rw [Function.update_self]
      exact returned
    split at taken
    · cases taken
      apply Sound.controllerFailed
      · exact books
      · exact released _ rfl
      · exact entered
    · cases taken
      apply Sound.bundleClosed
      · exact books
      · exact released _ rfl
      · exact entered

end Teardown

/-! ## Steps -/

/-- The books after a lease was taken. -/
theorem Books.acquire {lease : Lease} {active : Int} {quiesced : Bool} {leases : List Lease}
    {published : List ActiveModelBundle} (books : Books active quiesced leases published) :
    Books (active + 1) (if active + 1 = 1 then false else quiesced) (leases ++ [lease])
      published where
  counted := by
    have longer : (leases ++ [lease]).length = leases.length + 1 := by simp
    rw [books.counted, longer]
    rfl
  quiesced := by
    refine iff_of_false ?_ (by simp)
    split
    · exact Bool.false_ne_true
    · rename_i others
      intro quiesced
      have empty := books.quiesced.mp quiesced
      have counted := books.counted
      rw [empty] at counted
      simp only [List.length_nil] at counted
      omega
  numbered := books.numbered
  distinct := books.distinct

/-- The books after a lease was given back. -/
theorem Books.release {position : Nat} (held : position < world.leases.length)
    (books : Books world.manager.activeSubmissions world.manager.submissionsQuiesced
      world.leases world.published) :
    ∃ manager : ModelManager π,
      world.manager.releaseSubmissionBundle =
        ((.ok () : Except (ManagerFailure ε) Unit), manager) ∧
      manager.bundle = world.manager.bundle ∧ manager.state = world.manager.state ∧
      (manager.activeSubmissions = 0 → world.leases.eraseIdx position = []) ∧
      Books manager.activeSubmissions manager.submissionsQuiesced
        (world.leases.eraseIdx position) world.published := by
  have shorter := List.length_eraseIdx_of_lt held
  have counted := books.counted
  have kept : ¬ world.manager.activeSubmissions - 1 < 0 := by omega
  have left : world.manager.activeSubmissions - 1 = (world.leases.eraseIdx position).length := by
    omega
  refine ⟨{ world.manager with
      activeSubmissions := world.manager.activeSubmissions - 1
      submissionsQuiesced := if world.manager.activeSubmissions - 1 = 0 then true
        else world.manager.submissionsQuiesced },
    by simp only [ModelManager.releaseSubmissionBundle, if_neg kept], rfl, rfl, ?_, ?_⟩
  · intro last
    have last : world.manager.activeSubmissions - 1 = 0 := last
    exact List.length_eq_zero_iff.mp (by omega)
  · refine ⟨left, ?_, books.numbered, books.distinct⟩
    show (if world.manager.activeSubmissions - 1 = 0 then true
      else world.manager.submissionsQuiesced) = true ↔ _
    have occupied : world.leases ≠ [] := List.ne_nil_of_length_pos (by omega)
    split
    · exact iff_of_true rfl (List.length_eq_zero_iff.mp (by omega))
    · refine iff_of_false (mt books.quiesced.mp occupied) fun empty => ?_
      rw [empty] at left
      simp only [List.length_nil] at left
      contradiction

theorem Sound.submission {method : SubmissionMethod} {next : World ε π} (sound : world.Sound)
    (taken : world.step (.submission method) = some next) : next.Sound := by
  simp only [World.step] at taken
  unfold ModelManager.acquireSubmissionBundle at taken
  split at taken
  · rename_i bundle manager acquired
    split at acquired
    · rename_i bundle' ready references
      cases acquired
      cases taken
      have place := sound.place
      have owns := sound.owns
      cases running : world.transition with
      | some transition =>
          rw [running] at place
          cases transition with
          | building call modelId path => exact absurd ready place.1
          | closing call other _ where' =>
              have entered := place.1
              cases call <;> cases entered.1.symm.trans ready
      | none =>
          rw [running] at place
          have owned : world.owner = world.manager.bundle := by rw [World.owner, running]
          rw [owned] at owns
          refine ⟨sound.books.acquire, ?_, ?_⟩
          · refine ⟨owns.member, owns.others, ?_⟩
            intro lease member
            rcases List.mem_append.mp member with old | new
            · exact owns.leased lease old
            · cases List.mem_singleton.mp new
              exact ⟨references, place.2 ready _ references⟩
          · exact place
    · cases acquired
  · cases taken
    exact ⟨sound.books, sound.owns, sound.place⟩

theorem Owns.fewer {published : List ActiveModelBundle} {parts : Nat → Parts}
    {leases left : List Lease} {owner : Option ActiveModelBundle}
    (owns : Owns published parts leases owner) (fewer : ∀ lease ∈ left, lease ∈ leases) :
    Owns published parts left owner :=
  ⟨owns.member, owns.others, fun lease member => owns.leased lease (fewer lease member)⟩

/-- A teardown that waits may be woken once the last submission is over. -/
theorem Place.release {manager : ModelManager π} {left : List Lease}
    {transition : Option (Transition ε π)} (place : world.Place transition)
    (sameBundle : manager.bundle = world.manager.bundle)
    (sameState : manager.state = world.manager.state)
    (fewer : ∀ lease ∈ left, lease ∈ world.leases)
    (emptied : manager.activeSubmissions = 0 → left = []) :
    ({ world with manager, leases := left } : World ε π).Place
      (if manager.activeSubmissions = 0 then wake transition else transition) := by
  have empty (idle : world.leases = []) : left = [] := by
    rw [List.eq_nil_iff_forall_not_mem]
    intro lease member
    have present := fewer lease member
    rw [idle] at present
    cases present
  cases transition with
  | none =>
      rw [show wake (none : Option (Transition ε π)) = none from rfl, ite_self]
      unfold World.Place ModelManager.Stable at place ⊢
      rw [← sameBundle, ← sameState] at place
      exact place
  | some transition =>
      cases transition with
      | building call modelId path =>
          rw [show wake (some (.building call modelId path : Transition ε π)) = some _ from rfl,
            ite_self]
          exact ⟨sameState.trans_ne place.1, sameBundle.trans place.2⟩
      | closing call bundle failure stage =>
          have entered := Teardown.Entered.congr place.1 sameBundle sameState
          have drained := place.2
          cases stage with
          | controller reason =>
              rw [show wake (some (.closing call bundle failure (.controller reason) :
                Transition ε π)) = some _ from rfl, ite_self]
              exact ⟨entered, trivial⟩
          | runtime =>
              rw [show wake (some (.closing call bundle failure .runtime : Transition ε π)) =
                some _ from rfl, ite_self]
              exact ⟨entered, empty drained⟩
          | submissions woken =>
              by_cases last : manager.activeSubmissions = 0
              · rw [if_pos last]
                exact ⟨entered, emptied last⟩
              · rw [if_neg last]
                cases woken with
                | false => exact ⟨entered, trivial⟩
                | true => exact ⟨entered, empty drained⟩

theorem owner_release {manager : ModelManager π} {left : List Lease}
    (sameBundle : manager.bundle = world.manager.bundle) :
    ({ world with
        manager
        leases := left
        transition := if manager.activeSubmissions = 0 then wake world.transition
          else world.transition } : World ε π).owner = world.owner := by
  have woken : ({ world with manager, transition := wake world.transition } : World ε π).owner =
      world.owner := by
    simp only [World.owner, wake]
    split <;> rename_i closing
    · split at closing
      · cases closing
        rename_i before
        rw [before]
      · rw [closing]
    · split at closing
      · exact absurd rfl (closing _ _ _ _)
      · rename_i other
        split
        · rename_i before
          exact absurd before (closing _ _ _ _)
        · exact sameBundle
  split
  · exact woken
  · simp only [World.owner]
    split <;> first | rfl | exact sameBundle

theorem Sound.submissionEnds {position : Nat} {next : World ε π} (sound : world.Sound)
    (taken : world.step (.submissionEnds position) = some next) : next.Sound := by
  simp only [World.step] at taken
  split at taken
  · rename_i lease found
    have held : position < world.leases.length := (List.getElem?_eq_some_iff.mp found).1
    rcases Books.release (ε := ε) held sound.books with
      ⟨manager, released, sameBundle, sameState, last, books⟩
    rw [released] at taken
    cases taken
    have fewer (lease : Lease) (member : lease ∈ world.leases.eraseIdx position) :
        lease ∈ world.leases := List.mem_of_mem_eraseIdx member
    refine ⟨books, ?_, sound.place.release sameBundle sameState fewer last⟩
    rw [owner_release sameBundle]
    exact sound.owns.fewer fewer
  · cases taken

theorem Sound.beginClosing {manager : ModelManager π} (sound : world.Sound)
    (free : world.transition = none) (references : world.manager.bundle = some bundle)
    (active : manager.activeSubmissions = world.manager.activeSubmissions)
    (quiesced : manager.submissionsQuiesced = world.manager.submissionsQuiesced)
    (entered : call.Entered manager bundle) :
    (world.beginClosing manager call bundle).Sound := by
  have owned : world.owner = some bundle := by simp only [World.owner, free, references]
  have books := sound.books
  have owns := sound.owns
  rw [owned] at owns
  rw [← active, ← quiesced] at books
  exact ⟨books, owns, entered, trivial⟩

/-- A refused transition, and one with nothing to do, leaves the manager as it was. -/
theorem Sound.unchanged {result : Except (ManagerFailure ε) (Option ModelManagerSnapshot)}
    (sound : world.Sound) (free : world.transition = none) :
    (world.finish world.manager result).Sound := by
  have owned : world.owner = world.manager.bundle := by simp only [World.owner, free]
  have place := sound.place
  have owns := sound.owns
  rw [free] at place
  rw [owned] at owns
  exact .finish sound.books owns place.1 place.2

theorem Sound.load {modelId : PyStr} {path : π} (sound : world.Sound)
    (free : world.transition = none) : (world.enter (.load modelId path)).Sound := by
  have owned : world.owner = world.manager.bundle := by simp only [World.owner, free]
  have place := sound.place
  have owns := sound.owns
  rw [free] at place
  rw [owned] at owns
  simp only [World.enter]
  split
  · rename_i manager begun
    unfold ModelManager.beginLoad at begun
    split at begun
    · cases begun
    · rename_i unblocked
      split at begun
      · rename_i unloaded
        cases begun
        have absent : world.manager.bundle = none := by
          cases unloaded with
          | inl unloaded =>
              rcases place.1 with ready | bare | failed | closed
              · cases unloaded.symm.trans ready.1
              · exact bare.2
              · cases unloaded.symm.trans failed
              · cases unloaded.symm.trans closed
          | inr failed => simpa [failed] using unblocked
        rw [absent] at owns
        exact ⟨sound.books, owns, fun ready => (by cases ready), rfl⟩
      · cases begun
  · exact sound.unchanged free

theorem Sound.enter {request : TransitionCall π} (sound : world.Sound)
    (free : world.transition = none) : (world.enter request).Sound := by
  match request with
  | .load modelId path => exact sound.load free
  | .teardown (.switch modelId path) =>
      simp only [World.enter]
      split
      · rename_i bundle ready references
        split
        · exact sound.unchanged free
        · exact sound.beginClosing free references rfl rfl ⟨rfl, references⟩
      · exact sound.unchanged free
  | .teardown .unload =>
      simp only [World.enter]
      split
      · exact sound.unchanged free
      · rename_i bundle ready references
        exact sound.beginClosing free references rfl rfl ⟨rfl, references⟩
      · exact sound.unchanged free
  | .teardown .close =>
      simp only [World.enter]
      split
      · exact sound.unchanged free
      · rename_i bundle references _
        exact sound.beginClosing free references rfl rfl ⟨rfl, rfl⟩
      · rename_i absent _
        have owned : world.owner = none := by simp only [World.owner, free, absent]
        have owns := sound.owns
        rw [owned] at owns
        exact .finish sound.books owns (.inr (.inr (.inr rfl))) fun ready => by cases ready

/-- A new bundle gets a number that no published bundle has. -/
theorem Sound.published {built : BuiltBundle}
    {result : Except (ManagerFailure ε) (Option ModelManagerSnapshot)}
    (books : Books world.manager.activeSubmissions world.manager.submissionsQuiesced
      world.leases world.published)
    (owns : Owns world.published world.parts world.leases none) :
    (({ world with
        published := world.published ++ [built.number world.published.length]
        parts := Function.update world.parts world.published.length .untouched } :
      World ε π).finish (world.manager.publish (built.number world.published.length))
        result).Sound := by
  have older (bundle : ActiveModelBundle) (member : bundle ∈ world.published) :
      bundle.serial ≠ world.published.length := Nat.ne_of_lt (books.numbered bundle member)
  apply Sound.finish
  · refine ⟨books.counted, books.quiesced, ?_, ?_⟩
    · intro bundle member
      rw [List.length_append]
      rcases List.mem_append.mp member with old | new
      · exact Nat.lt_succ_of_lt (books.numbered bundle old)
      · cases List.mem_singleton.mp new
        exact Nat.lt_succ_self _
    · intro first firstMember second secondMember same
      rcases List.mem_append.mp firstMember with old | new <;>
        rcases List.mem_append.mp secondMember with old' | new'
      · exact books.distinct first old second old' same
      · cases List.mem_singleton.mp new'
        exact absurd same (older first old)
      · cases List.mem_singleton.mp new
        exact absurd same.symm (older second old')
      · exact (List.mem_singleton.mp new).trans (List.mem_singleton.mp new').symm
  · refine ⟨?_, ?_, ?_⟩
    · intro bundle owned
      cases owned
      exact List.mem_append_right _ (List.mem_singleton.mpr rfl)
    · intro bundle member
      rcases List.mem_append.mp member with old | new
      · rcases owns.others bundle old with returned | owned
        · refine .inl ?_
          show (Function.update world.parts _ _ bundle.serial).runtime = _
          rw [Function.update_of_ne (older bundle old)]
          exact returned
        · cases owned
      · cases List.mem_singleton.mp new
        exact .inr rfl
    · intro lease member
      cases (owns.leased lease member).1
  · exact .inl ⟨rfl, rfl⟩
  · intro _ bundle references
    cases references
    exact Function.update_self _ _ _

theorem Sound.builderEnds {outcome : TaskOutcome ε BuiltBundle} {next : World ε π}
    (sound : world.Sound) (taken : world.step (.builderEnds outcome) = some next) :
    next.Sound := by
  have place := sound.place
  have owns := sound.owns
  have given (request : TransitionCall π) (modelId : PyStr) (path : π)
      (building : world.transition = some (.building request modelId path)) :
      Owns world.published world.parts world.leases none := by
    rw [building] at place
    have owned : world.owner = none := by simp only [World.owner, building, place.2]
    exact owned ▸ owns
  simp only [World.step] at taken
  split at taken
  · rename_i request modelId path built building
    cases taken
    exact .published sound.books (given _ _ _ building)
  · rename_i request modelId path error building
    cases taken
    exact .finish sound.books (given _ _ _ building) (.inr (.inr (.inl rfl)))
      fun ready => by cases ready
  · rename_i request modelId path building
    cases taken
    exact .finish sound.books (given _ _ _ building) (.inr (.inr (.inl rfl)))
      fun ready => by cases ready
  · cases taken

/-! ## Runs -/

/-- The owner is told by the transition while a bundle is being closed. -/
theorem Sound.closing {controllerError : Option (ManagerFailure ε)} {stage : Closing}
    (sound : world.Sound)
    (running : world.transition = some (.closing call bundle controllerError stage)) :
    Owns world.published world.parts world.leases (some bundle) ∧
      call.Entered world.manager bundle ∧ stage.Drained world.leases := by
  have owned : world.owner = some bundle := by simp only [World.owner, running]
  have owns := sound.owns
  have place := sound.place
  rw [owned] at owns
  rw [running] at place
  exact ⟨owns, place⟩

theorem Sound.step {action : WorldAction ε} {next : World ε π} (sound : world.Sound)
    (taken : world.step action = some next) : next.Sound := by
  cases action with
  | request request =>
      cases taken
      cases request with
      | unload => exact ⟨sound.books, sound.owns, sound.place⟩
      | close => exact ⟨sound.books, sound.owns, sound.place⟩
      | load modelId =>
          simp only [World.request, World.request.withCandidate]
          split <;> exact ⟨sound.books, sound.owns, sound.place⟩
      | switch modelId =>
          simp only [World.request, World.request.withCandidate]
          split <;> exact ⟨sound.books, sound.owns, sound.place⟩
  | cancelWaiting position =>
      simp only [World.step] at taken
      split at taken
      · cases taken
        exact ⟨sound.books, sound.owns, sound.place⟩
      · cases taken
  | enter position =>
      simp only [World.step] at taken
      split at taken
      · rename_i request free _
        cases taken
        apply Sound.enter
        · exact ⟨sound.books, sound.owns, sound.place⟩
        · exact free
      · cases taken
  | controllerCloses outcome preprocessing =>
      simp only [World.step] at taken
      split at taken
      · rename_i call bundle _ _ running
        rcases sound.closing running with ⟨owns, entered, _⟩
        split at taken
        · rename_i quiesced
          cases taken
          exact .closeParts sound.books (sound.books.quiesced.mp quiesced) owns entered
        · cases taken
          exact ⟨sound.books, owns, entered, trivial⟩
      · cases taken
  | submissionsQuiesced preprocessing =>
      simp only [World.step] at taken
      split at taken
      · rename_i call bundle _ running
        rcases sound.closing running with ⟨owns, entered, idle⟩
        cases taken
        exact .closeParts sound.books idle owns entered
      · cases taken
  | cancelQuiescence =>
      simp only [World.step] at taken
      split at taken
      · rename_i call bundle _ _ running
        rcases sound.closing running with ⟨owns, entered, _⟩
        cases taken
        exact .ownershipUnresolved sound.books owns entered
      · cases taken
  | runtimeCloses outcome =>
      have taken' := taken
      simp only [World.step] at taken'
      split at taken'
      · rename_i call bundle _ running
        rcases sound.closing running with ⟨owns, entered, idle⟩
        exact .runtimeCloses sound.books idle owns entered running taken
      · cases taken'
  | builderEnds outcome => exact sound.builderEnds taken
  | submission method => exact sound.submission taken
  | submissionEnds position => exact sound.submissionEnds taken

theorem Sound.initially (candidates : List (PyStr × π)) (built : BuiltBundle) :
    (World.initial candidates built : World ε π).Sound where
  books :=
    { counted := rfl
      quiesced := iff_of_true rfl rfl
      numbered := by
        intro bundle member
        cases List.mem_singleton.mp member
        exact Nat.one_pos
      distinct := fun first firstMember second secondMember _ =>
        (List.mem_singleton.mp firstMember).trans (List.mem_singleton.mp secondMember).symm }
  owns :=
    { member := by
        intro bundle owned
        cases owned
        exact List.mem_singleton.mpr rfl
      others := by
        intro bundle member
        cases List.mem_singleton.mp member
        exact .inr rfl
      leased := fun _ member => by cases member }
  place := ⟨.inl ⟨rfl, rfl⟩, fun _ _ _ => rfl⟩

theorem Sound.of_run {candidates : List (PyStr × π)} {built : BuiltBundle}
    {actions : List (WorldAction ε)}
    (run : (modelManager candidates built).Runs actions world) : world.Sound := by
  refine run.preserves (initially candidates built) ?_
  intro before action next sound taken
  exact sound.step taken

/-! ## What holds in every run -/

def Referenced (world : World ε π) (bundle : ActiveModelBundle) : Prop :=
  world.manager.bundle = some bundle ∨
    ∃ call controllerError stage,
      world.transition = some (.closing call bundle controllerError stage)

theorem referenced_of_owner (owned : world.owner = some bundle) : world.Referenced bundle := by
  unfold World.owner at owned
  split at owned
  · rename_i call other controllerError stage running
    cases owned
    exact .inr ⟨call, controllerError, stage, running⟩
  · exact .inl owned

theorem Sound.building (sound : world.Sound) {request : TransitionCall π} {modelId : PyStr}
    {path : π} (running : world.transition = some (.building request modelId path)) :
    ∀ bundle ∈ world.published, (world.parts bundle.serial).runtime = .returned := by
  have place := sound.place
  rw [running] at place
  intro bundle member
  refine (sound.owns.others bundle member).resolve_right ?_
  simp only [World.owner, running, place.2]
  exact fun owned => by cases owned

theorem Sound.acquires (sound : world.Sound) {method : SubmissionMethod} {next : World ε π}
    (taken : world.step (.submission method) = some next) (leased : next.leases ≠ world.leases) :
    world.manager.state = .ready ∧ world.transition = none ∧
      ∃ bundle, world.manager.bundle = some bundle ∧
        next.leases = world.leases ++ [⟨method, bundle⟩] := by
  simp only [World.step] at taken
  split at taken
  · rename_i bundle manager acquired
    cases taken
    unfold ModelManager.acquireSubmissionBundle at acquired
    split at acquired
    · rename_i _ _ held ready references
      cases acquired
      refine ⟨ready, ?_, bundle, references, rfl⟩
      have place := sound.place
      cases running : world.transition with
      | none => rfl
      | some transition =>
          rw [running] at place
          cases transition with
          | building request modelId path => exact absurd ready place.1
          | closing call other _ _ =>
              have entered := place.1
              cases call <;> cases entered.1.symm.trans ready
    · cases acquired
  · cases taken
    exact absurd rfl leased

/-- While a bundle is not closed, no other one may be loaded. -/
theorem Sound.blocks (sound : world.Sound) (free : world.transition = none)
    (member : bundle ∈ world.published)
    (failed : (world.parts bundle.serial).runtime = .failed) :
    ∃ message, world.manager.beginLoad = .error (.runtimeError message : ManagerFailure ε) := by
  have unclosed : (world.parts bundle.serial).runtime ≠ .returned := by
    rw [failed]
    exact fun equal => by cases equal
  have owned : world.owner = some bundle :=
    (sound.owns.others bundle member).resolve_left unclosed
  have references : world.manager.bundle = some bundle := by
    simpa only [World.owner, free] using owned
  have place := sound.place
  rw [free] at place
  unfold ModelManager.beginLoad
  split
  · exact ⟨_, rfl⟩
  · rename_i unblocked
    rw [if_neg]
    · exact ⟨_, rfl⟩
    · intro either
      cases either with
      | inl unloaded =>
          rcases place.1 with ready | bare | failed | closed
          · cases unloaded.symm.trans ready.1
          · cases bare.2.symm.trans references
          · cases unloaded.symm.trans failed
          · cases unloaded.symm.trans closed
      | inr failed => exact unblocked ⟨failed, by rw [references]; rfl⟩

/-- In every run the builder works only after every published bundle has closed, at most
one published bundle is not closed, and a lease is held only on an untouched bundle,
taken while the manager was ready. The count and the event tell the leases, a bundle
whose runtime close failed stays referenced and blocks a load, and a transition that
ends leaves a stable manager. -/
theorem single_owner {candidates : List (PyStr × π)} {built : BuiltBundle}
    {actions : List (WorldAction ε)} (run : (modelManager candidates built).Runs actions world) :
    (∀ request modelId path, world.transition = some (.building request modelId path) →
      ∀ bundle ∈ world.published, (world.parts bundle.serial).runtime = .returned) ∧
    (∀ first ∈ world.published, ∀ second ∈ world.published,
      (world.parts first.serial).runtime ≠ .returned →
      (world.parts second.serial).runtime ≠ .returned → first = second) ∧
    (∀ lease ∈ world.leases, world.parts lease.bundle.serial = .untouched) ∧
    (∀ method next, world.step (.submission method) = some next → next.leases ≠ world.leases →
      world.manager.state = .ready ∧ world.transition = none ∧
        ∃ bundle, world.manager.bundle = some bundle ∧
          next.leases = world.leases ++ [⟨method, bundle⟩]) ∧
    world.manager.activeSubmissions = world.leases.length ∧
    (world.manager.submissionsQuiesced = true ↔ world.manager.activeSubmissions = 0) ∧
    (∀ bundle ∈ world.published, (world.parts bundle.serial).runtime = .failed →
      world.Referenced bundle ∧ (world.transition = none → ∃ message,
        world.manager.beginLoad = .error (.runtimeError message : ManagerFailure ε))) ∧
    (world.transition = none → world.manager.Stable) := by
  have sound := Sound.of_run run
  refine ⟨fun _ _ _ running => sound.building running, ?_, ?_, ?_, sound.books.counted, ?_, ?_, ?_⟩
  · intro first firstMember second secondMember firstOpen secondOpen
    have one := (sound.owns.others first firstMember).resolve_left firstOpen
    have two := (sound.owns.others second secondMember).resolve_left secondOpen
    exact Option.some.inj (one.symm.trans two)
  · exact fun lease member => (sound.owns.leased lease member).2
  · exact fun method next taken leased => sound.acquires taken leased
  · rw [sound.books.quiesced, sound.books.counted, ← List.length_eq_zero_iff]
    omega
  · intro bundle member failed
    refine ⟨?_, fun free => sound.blocks free member failed⟩
    refine referenced_of_owner ((sound.owns.others bundle member).resolve_left ?_)
    rw [failed]
    exact fun equal => by cases equal
  · intro free
    have place := sound.place
    rw [free] at place
    exact place.1

def failedSwitch : List (WorldAction Unit) :=
  [.submission .submit, .request (.switch (py "b")), .enter 0,
    .controllerCloses (.returned ()) (.ok ()), .submissionEnds 0, .submissionsQuiesced (.ok ()),
    .runtimeCloses (.returned ()), .builderEnds (.raised ())]

def twoModels : Machine (World Unit Unit) (WorldAction Unit) :=
  modelManager [(py "a", ()), (py "b", ())] ⟨py "a", py "a", true⟩

theorem single_owner_failedSwitch : ∃ world : World Unit Unit,
    twoModels.Runs failedSwitch world ∧
      world.manager.state = .error ∧ world.manager.activeSubmissions = world.leases.length := by
  refine ⟨_, rfl, rfl, ?_⟩
  have run : twoModels.Runs failedSwitch _ := rfl
  exact (single_owner run).2.2.2.2.1

end World
end ExQServe.Server
