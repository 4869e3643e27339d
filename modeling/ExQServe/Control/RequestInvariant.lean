import ExQServe.Control.Session

/-! # Admission accounting

What the sections of the controller keep, whatever order they run in: the count of the
requests in flight, the sessions that the registered leases own, and the history. -/

namespace ExQServe.Control

open ExQServe.Model ExQServe.Runtime RequestController

variable {τ : Type}

structure AdmissionInvariant (config : RequestControlConfig τ) (controller : RequestController τ) :
    Prop where
  counted : controller.inFlight = controller.leasesByRequestId.size
  bounded : controller.inFlight ≤ config.maxInFlight
  drained : controller.drained = true ↔ controller.inFlight = 0
  held : ∀ requestId lease, controller.leasesByRequestId.get? requestId = some lease →
    (controller.lease lease).requestId = requestId ∧ (controller.lease lease).state ≠ .released ∧
      lease < controller.leases
  unmade : ∀ lease, controller.leases ≤ lease → (controller.lease lease).requestId = []
  attached : ∀ lease session, (controller.lease lease).session = some session →
    controller.registered lease = true ∧ session < controller.sessionCount ∧
      (controller.session session).requestId = (controller.lease lease).requestId
  sessions : ∀ session, session ∈ controller.sessions ↔
    ∃ lease, (controller.lease lease).session = some session
  byRequest : ∀ requestId session,
    controller.sessionsByRequestId.get? requestId = some session ↔
      ∃ lease, (controller.lease lease).session = some session ∧
        (controller.lease lease).requestId = requestId
  releasedOnce : ∀ lease, controller.history.count (.released lease) ≤ 1
  releasedGone : ∀ lease, Admission.released lease ∈ controller.history →
    (controller.lease lease).state = .released ∧ lease < controller.leases
  closedLast : Admission.closed ∈ controller.history → controller.closed = true
  closedEnds : controller.history.Pairwise fun earlier later =>
    earlier = .closed → ¬later.Admits

namespace AdmissionInvariant

variable {config : RequestControlConfig τ} {controller : RequestController τ}

theorem initial : AdmissionInvariant config (RequestController.initial : RequestController τ) := by
  constructor <;> simp [RequestController.initial, newLease, Dict.size, Dict.empty, Dict.get?]

theorem registered_iff {lease : Nat} : controller.registered lease = true ↔
    controller.leasesByRequestId.get? (controller.lease lease).requestId = some lease := by
  simp [registered]

/-- A session has one owner. -/
theorem owner_unique (holds : AdmissionInvariant config controller) {first second session : Nat}
    (owned : (controller.lease first).session = some session)
    (ownedToo : (controller.lease second).session = some session) : first = second := by
  rcases holds.attached _ _ owned with ⟨isRegistered, -, same⟩
  rcases holds.attached _ _ ownedToo with ⟨isRegisteredToo, -, sameToo⟩
  rw [registered_iff, ← same] at isRegistered
  rw [registered_iff, ← sameToo, isRegistered] at isRegisteredToo
  exact Option.some.inj isRegisteredToo

/-- The leases may change in what admission does not read. -/
theorem changeLeases (holds : AdmissionInvariant config controller) (lease : Nat → RequestLease τ)
    (same : ∀ index, (lease index).requestId = (controller.lease index).requestId ∧
      (lease index).session = (controller.lease index).session ∧
      (lease index).state = (controller.lease index).state) :
    AdmissionInvariant config { controller with lease := lease } := by
  have sameId := fun index => (same index).1
  have sameSession := fun index => (same index).2.1
  have sameState := fun index => (same index).2.2
  rcases holds with ⟨counted, bounded, drained, held, unmade, attached, sessions, byRequest, once,
    gone, last, ends⟩
  constructor
  case held => simpa only [sameId, sameState] using held
  case unmade => simpa only [sameId] using unmade
  case attached => simpa only [registered, sameId, sameSession] using attached
  case sessions => simpa only [sameSession] using sessions
  case byRequest => simpa only [sameId, sameSession] using byRequest
  case releasedGone => simpa only [sameState] using gone
  all_goals assumption

theorem setLease (holds : AdmissionInvariant config controller) {lease : Nat}
    {object : RequestLease τ} (sameId : object.requestId = (controller.lease lease).requestId)
    (sameSession : object.session = (controller.lease lease).session)
    (sameState : object.state = (controller.lease lease).state) :
    AdmissionInvariant config (controller.setLease lease object) := by
  apply holds.changeLeases _
  intro index
  by_cases here : index = lease
  · subst here
    simp [sameId, sameSession, sameState]
  · simp [here]

theorem setSession (holds : AdmissionInvariant config controller) {session : Nat}
    {object : ControlledSession τ}
    (sameId : object.requestId = (controller.session session).requestId) :
    AdmissionInvariant config (controller.setSession session object) := by
  rcases holds with ⟨counted, bounded, drained, held, unmade, attached, sessions, byRequest, once,
    gone, last, ends⟩
  constructor
  case attached =>
    intro lease other owned
    rcases attached lease other owned with ⟨isRegistered, known, same⟩
    refine ⟨isRegistered, known, ?_⟩
    by_cases here : other = session
    · subst here
      simpa [RequestController.setSession, sameId] using same
    · simpa [RequestController.setSession, here] using same
  all_goals assumption

/-! ## Sessions leave -/

theorem dropSession_lease (requestId : PyStr) (session : Nat) :
    (controller.dropSession requestId session).lease = controller.lease := rfl

theorem mem_dropSession {requestId : PyStr} {session other : Nat} :
    other ∈ (controller.dropSession requestId session).sessions ↔
      other ∈ controller.sessions ∧ other ≠ session := by
  simp [dropSession]

theorem get?_dropSession (holds : AdmissionInvariant config controller) {lease session : Nat}
    (owned : (controller.lease lease).session = some session) (requestId : PyStr) (other : Nat) :
    (controller.dropSession (controller.lease lease).requestId session).sessionsByRequestId.get?
        requestId = some other ↔
      controller.sessionsByRequestId.get? requestId = some other ∧ other ≠ session := by
  have here : controller.sessionsByRequestId.get? (controller.lease lease).requestId =
      some session := (holds.byRequest _ _).mpr ⟨lease, owned, rfl⟩
  simp only [dropSession]
  rw [if_pos here, Dict.get?_erase]
  by_cases same : requestId = (controller.lease lease).requestId
  · subst same
    rw [if_pos rfl, here]
    simp [eq_comm]
  · rw [if_neg same]
    constructor
    · intro found
      refine ⟨found, ?_⟩
      intro equal
      subst equal
      rcases (holds.byRequest _ _).mp found with ⟨owner, ownedToo, atId⟩
      rw [holds.owner_unique ownedToo owned] at atId
      exact same atId.symm
    · exact And.left

/-- The lease lets go of its session. -/
theorem detach (holds : AdmissionInvariant config controller) {lease session : Nat}
    (owned : (controller.lease lease).session = some session) :
    AdmissionInvariant config
      ((controller.dropSession (controller.lease lease).requestId session).setLease lease
        { controller.lease lease with session := none }) := by
  have stillOwned : ∀ index other,
      (Function.update controller.lease lease { controller.lease lease with session := none }
        index).session = some other ↔
      (controller.lease index).session = some other ∧ other ≠ session := by
    intro index other
    by_cases here : index = lease
    · subst here
      simp [owned, eq_comm]
    · simp only [Function.update_of_ne here]
      constructor
      · intro ownedToo
        refine ⟨ownedToo, ?_⟩
        intro equal
        subst equal
        exact here (holds.owner_unique ownedToo owned)
      · exact And.left
  have sameId : ∀ index,
      (Function.update controller.lease lease { controller.lease lease with session := none }
        index).requestId = (controller.lease index).requestId := by
    intro index
    by_cases here : index = lease
    · subst here
      simp
    · simp [here]
  have sameState : ∀ index,
      (Function.update controller.lease lease { controller.lease lease with session := none }
        index).state = (controller.lease index).state := by
    intro index
    by_cases here : index = lease
    · subst here
      simp
    · simp [here]
  constructor
  case counted => exact holds.counted
  case bounded => exact holds.bounded
  case drained => exact holds.drained
  case held =>
    intro requestId index found
    simp only [RequestController.setLease, dropSession_lease, sameId, sameState]
    exact holds.held requestId index found
  case unmade =>
    intro index beyond
    simp only [RequestController.setLease, dropSession_lease, sameId]
    exact holds.unmade index beyond
  case attached =>
    intro index other ownedToo
    rcases holds.attached index other ((stillOwned index other).mp ownedToo).1 with
      ⟨isRegistered, known, same⟩
    simp only [registered, RequestController.setLease, dropSession_lease, sameId]
    exact ⟨isRegistered, known, same⟩
  case sessions =>
    intro other
    simp only [RequestController.setLease, dropSession_lease, stillOwned, mem_dropSession,
      holds.sessions]
    exact exists_and_right.symm
  case byRequest =>
    intro requestId other
    simp only [RequestController.setLease, dropSession_lease, stillOwned, sameId]
    rw [holds.get?_dropSession owned, holds.byRequest]
    constructor
    · rintro ⟨⟨owner, ownedToo, atId⟩, different⟩
      exact ⟨owner, ⟨ownedToo, different⟩, atId⟩
    · rintro ⟨owner, ⟨ownedToo, different⟩, atId⟩
      exact ⟨⟨owner, ownedToo, atId⟩, different⟩
  case releasedOnce => exact holds.releasedOnce
  case releasedGone =>
    intro index logged
    simp only [RequestController.setLease, dropSession_lease, sameState]
    exact holds.releasedGone index logged
  case closedLast => exact holds.closedLast
  case closedEnds => exact holds.closedEnds

/-! ## Leases leave -/

theorem giveBack_history (lease : Nat) :
    (controller.giveBack lease).history = controller.history ++ [.released lease] := rfl

/-- A registered lease without a session is given back. -/
theorem giveBack (holds : AdmissionInvariant config controller) {lease : Nat}
    (isRegistered : controller.registered lease = true)
    (idle : (controller.lease lease).session = none) :
    AdmissionInvariant config
      { controller.giveBack lease with drained := decide (controller.inFlight - 1 = 0) } := by
  have here := registered_iff.mp isRegistered
  rcases holds.held _ _ here with ⟨-, active, known⟩
  have size := Dict.size_erase here
  have sameIds : ∀ index, ((controller.giveBack lease).lease index).requestId =
      (controller.lease index).requestId := by
    intro index
    by_cases at_ : index = lease
    · subst at_
      simp [RequestController.giveBack, RequestController.setLease]
    · simp [RequestController.giveBack, RequestController.setLease, at_]
  have sameSessions : ∀ index, ((controller.giveBack lease).lease index).session =
      (controller.lease index).session := by
    intro index
    by_cases at_ : index = lease
    · subst at_
      simp [RequestController.giveBack, RequestController.setLease, idle]
    · simp [RequestController.giveBack, RequestController.setLease, at_]
  constructor
  case counted =>
    have counted := holds.counted
    simp only [RequestController.giveBack]
    omega
  case bounded =>
    have bounded := holds.bounded
    simp only [RequestController.giveBack]
    omega
  case drained =>
    simp only [RequestController.giveBack, decide_eq_true_eq]
  case held =>
    intro requestId index found
    simp only [RequestController.giveBack, Dict.get?_erase] at found
    by_cases same : requestId = (controller.lease lease).requestId
    · rw [if_pos same] at found
      cases found
    · rw [if_neg same] at found
      rcases holds.held requestId index found with ⟨atId, stillActive, knownToo⟩
      have other : index ≠ lease := by
        intro equal
        subst equal
        exact same atId.symm
      simpa [RequestController.giveBack, RequestController.setLease, other] using
        ⟨atId, stillActive, knownToo⟩
  case unmade =>
    intro index beyond
    rw [sameIds]
    exact holds.unmade index beyond
  case attached =>
    intro index session owned
    simp only [sameSessions] at owned
    rcases holds.attached index session owned with ⟨isRegisteredToo, knownSession, same⟩
    have other : (controller.lease index).requestId ≠ (controller.lease lease).requestId := by
      intro equal
      rw [registered_iff, equal, here] at isRegisteredToo
      cases isRegisteredToo
      rw [idle] at owned
      cases owned
    simp only [registered, sameIds]
    simp only [RequestController.giveBack, Dict.get?_erase]
    rw [if_neg other]
    exact ⟨isRegisteredToo, knownSession, same⟩
  case sessions =>
    intro session
    simp only [sameSessions]
    exact holds.sessions session
  case byRequest =>
    intro requestId session
    simp only [sameSessions, sameIds]
    exact holds.byRequest requestId session
  case releasedOnce =>
    intro index
    have once := holds.releasedOnce index
    simp only [giveBack_history, List.count_append, List.count_singleton]
    by_cases same : index = lease
    · subst same
      have fresh : Admission.released index ∉ controller.history := by
        intro logged
        exact active (holds.releasedGone index logged).1
      simp [List.count_eq_zero.mpr fresh]
    · have different : Admission.released lease ≠ Admission.released index := by
        intro equal
        cases equal
        exact same rfl
      simpa [different] using once
  case releasedGone =>
    intro index logged
    simp only [giveBack_history, List.mem_append, List.mem_singleton,
      Admission.released.injEq] at logged
    simp only [RequestController.giveBack, RequestController.setLease]
    by_cases same : index = lease
    · subst same
      simp [known]
    · simpa [same] using holds.releasedGone index (logged.resolve_right same)
  case closedLast =>
    intro logged
    simp only [giveBack_history, List.mem_append, List.mem_singleton] at logged
    rcases logged with before | now
    · exact holds.closedLast before
    · cases now
  case closedEnds =>
    apply List.pairwise_append.mpr
    refine ⟨holds.closedEnds, List.pairwise_singleton _ _, ?_⟩
    intro earlier _ later isLast _
    cases List.mem_singleton.mp isLast
    exact id

/-- A lease that lets go of its session first is given back the same way. -/
theorem giveBack_detached (lease session : Nat) :
    ((controller.dropSession (controller.lease lease).requestId session).setLease lease
      { controller.lease lease with session := none }).giveBack lease =
    (controller.dropSession (controller.lease lease).requestId session).giveBack lease := by
  simp [RequestController.giveBack, RequestController.setLease, dropSession_lease]

/-- A registered lease is given back with its session. -/
theorem leave (holds : AdmissionInvariant config controller) {lease : Nat}
    (isRegistered : controller.registered lease = true) :
    AdmissionInvariant config { (controller.forgetSession lease).giveBack lease with
      drained := decide (controller.inFlight - 1 = 0) } := by
  rw [forgetSession]
  cases owned : (controller.lease lease).session with
  | none => exact holds.giveBack isRegistered owned
  | some session =>
      rw [← giveBack_detached]
      apply (holds.detach owned).giveBack
      · simp only [registered, RequestController.setLease, dropSession_lease, Function.update_self]
        exact isRegistered
      · simp [RequestController.setLease]

theorem forgetSession_inFlight (lease : Nat) :
    (controller.forgetSession lease).inFlight = controller.inFlight := by
  rw [forgetSession]
  cases (controller.lease lease).session <;> rfl

theorem forgetSession_drained (lease : Nat) :
    (controller.forgetSession lease).drained = controller.drained := by
  rw [forgetSession]
  cases (controller.lease lease).session <;> rfl

theorem releaseLeaseLocked (holds : AdmissionInvariant config controller) (lease : Nat) :
    AdmissionInvariant config (controller.releaseLeaseLocked lease).2 := by
  rw [RequestController.releaseLeaseLocked]
  by_cases isRegistered : controller.registered lease = true
  · rw [isRegistered, if_neg (by decide)]
    by_cases released : (controller.lease lease).state = .released
    · rw [if_pos released]
      exact holds
    · rw [if_neg released]
      have size := Dict.size_erase (registered_iff.mp isRegistered)
      have counted := holds.counted
      have left := holds.leave isRegistered
      have inFlight : ((controller.forgetSession lease).giveBack lease).inFlight =
          controller.inFlight - 1 := by
        rw [RequestController.giveBack, forgetSession_inFlight]
      have notNegative : ¬((controller.forgetSession lease).giveBack lease).inFlight < 0 := by
        omega
      dsimp only
      rw [if_neg notNegative]
      by_cases empty : controller.inFlight - 1 = 0
      · rw [if_pos (inFlight.trans empty)]
        rw [decide_eq_true empty] at left
        exact left
      · rw [if_neg (inFlight ▸ empty)]
        have busy : ((controller.forgetSession lease).giveBack lease).drained = false := by
          have drained := holds.drained
          rw [RequestController.giveBack]
          simp only [RequestController.setLease, forgetSession_drained]
          cases flag : controller.drained with
          | false => rfl
          | true =>
              have none := drained.mp flag
              omega
        rw [decide_eq_false empty, ← busy] at left
        exact left
  · rw [Bool.eq_false_iff.mpr isRegistered, if_pos (by decide)]
    exact holds

theorem releaseAttemptLocked (holds : AdmissionInvariant config controller) (session : Nat) :
    AdmissionInvariant config (controller.releaseAttemptLocked session).2 := by
  rw [RequestController.releaseAttemptLocked]
  dsimp only
  cases found : controller.leasesByRequestId.get? (controller.session session).requestId with
  | none => exact holds
  | some lease =>
      dsimp only
      by_cases owned : (controller.lease lease).session = some session
      · have detached := holds.detach owned
        rw [← (holds.attached _ _ owned).2.2] at detached
        rw [if_neg (not_not.mpr owned)]
        by_cases final : ((controller.session session).finalRelease || controller.closed) = true
        · rw [if_pos final]
          exact detached.releaseLeaseLocked lease
        · rw [if_neg final]
          exact detached
      · rw [if_pos owned]
        exact holds

/-! ## Leases and sessions come -/

/-- A number that no lease has yet. -/
theorem new_lease (holds : AdmissionInvariant config controller) :
    (controller.lease controller.leases).session = none ∧
      Admission.released controller.leases ∉ controller.history := by
  constructor
  · cases owned : (controller.lease controller.leases).session with
    | none => rfl
    | some session =>
        have isRegistered := registered_iff.mp (holds.attached _ _ owned).1
        exact absurd (holds.held _ _ isRegistered).2.2 (Nat.lt_irrefl _)
  · intro logged
    exact Nat.lt_irrefl _ (holds.releasedGone _ logged).2

/-- The history goes on with an entry that gives nothing back, before any close. -/
theorem history_admits (holds : AdmissionInvariant config controller)
    (opened : controller.closed = false) (entry : Admission) (admits : entry.Admits) :
    (∀ lease, (controller.history ++ [entry]).count (.released lease) ≤ 1) ∧
    (∀ lease, Admission.released lease ∈ controller.history ++ [entry] →
      Admission.released lease ∈ controller.history) ∧
    Admission.closed ∉ controller.history ++ [entry] ∧
    (controller.history ++ [entry]).Pairwise fun earlier later =>
      earlier = .closed → ¬later.Admits := by
  have never : Admission.closed ∉ controller.history := by
    intro logged
    rw [holds.closedLast logged] at opened
    cases opened
  have notReleased : ∀ lease, entry ≠ .released lease := by
    intro lease equal
    subst equal
    exact admits
  refine ⟨?_, ?_, ?_, ?_⟩
  · intro lease
    rw [List.count_append, List.count_singleton, if_neg (by simpa using notReleased lease)]
    exact holds.releasedOnce lease
  · intro lease logged
    rcases List.mem_append.mp logged with before | now
    · exact before
    · exact absurd (List.mem_singleton.mp now).symm (notReleased lease)
  · intro logged
    rcases List.mem_append.mp logged with before | now
    · exact never before
    · cases List.mem_singleton.mp now
      exact admits
  · apply List.pairwise_append.mpr
    refine ⟨holds.closedEnds, List.pairwise_singleton _ _, ?_⟩
    intro earlier inside later _ isClosed
    subst isClosed
    exact absurd inside never

theorem acquireLocked [Add τ] (holds : AdmissionInvariant config controller) (requestId : PyStr)
    (now : τ) :
    AdmissionInvariant config (controller.acquireLocked config requestId now).2 := by
  rw [RequestController.acquireLocked]
  by_cases closed : controller.closed = true
  · rw [if_pos closed]
    exact holds
  rw [if_neg closed]
  by_cases taken : controller.leasesByRequestId.get? requestId ≠ none
  · rw [if_pos taken]
    exact holds
  rw [if_neg taken]
  by_cases full : controller.inFlight ≥ config.maxInFlight
  · rw [if_pos full]
    exact holds
  rw [if_neg full]
  have free : controller.leasesByRequestId.get? requestId = none := not_not.mp taken
  have size := Dict.size_set free controller.leases
  have counted := holds.counted
  rcases holds.new_lease with ⟨idle, fresh⟩
  rcases holds.history_admits (Bool.eq_false_iff.mpr closed)
    (.acquired controller.leases) trivial with ⟨once, before, never, ends⟩
  have elsewhere : ∀ index session,
      (Function.update controller.lease controller.leases
        (newLease requestId (config.timeoutSeconds.map (now + ·))) index).session = some session →
      index ≠ controller.leases := by
    intro index session owned equal
    subst equal
    simp [newLease] at owned
  have sameOwner : ∀ index session,
      (Function.update controller.lease controller.leases
        (newLease requestId (config.timeoutSeconds.map (now + ·))) index).session = some session ↔
      (controller.lease index).session = some session := by
    intro index session
    by_cases here : index = controller.leases
    · subst here
      simp [newLease, idle]
    · simp [here]
  constructor
  case counted =>
    dsimp only
    omega
  case bounded =>
    dsimp only
    omega
  case drained =>
    dsimp only
    constructor
    · intro impossible
      cases impossible
    · omega
  case held =>
    intro other index found
    simp only [Dict.get?_set] at found
    simp only [RequestController.setLease]
    by_cases same : other = requestId
    · rw [if_pos same] at found
      cases found
      simp [newLease, same]
    · rw [if_neg same] at found
      rcases holds.held other index found with ⟨atId, active, known⟩
      rw [Function.update_of_ne (Nat.ne_of_lt known)]
      exact ⟨atId, active, Nat.lt_succ_of_lt known⟩
  case unmade =>
    intro index beyond
    simp only [RequestController.setLease]
    rw [Function.update_of_ne (Nat.ne_of_gt beyond)]
    exact holds.unmade index (Nat.le_of_succ_le beyond)
  case attached =>
    intro index session owned
    have other := elsewhere index session owned
    rcases holds.attached index session ((sameOwner index session).mp owned) with
      ⟨isRegistered, known, same⟩
    have away : (controller.lease index).requestId ≠ requestId := by
      intro equal
      rw [registered_iff, equal, free] at isRegistered
      cases isRegistered
    simp only [registered, RequestController.setLease, Function.update_of_ne other, Dict.get?_set]
    rw [if_neg away]
    exact ⟨isRegistered, known, same⟩
  case sessions =>
    intro session
    simp only [RequestController.setLease, sameOwner]
    exact holds.sessions session
  case byRequest =>
    intro other session
    have stays := holds.byRequest other session
    simp only [RequestController.setLease]
    rw [stays]
    constructor
    · rintro ⟨owner, owned, atId⟩
      have moved := (sameOwner owner session).mpr owned
      refine ⟨owner, moved, ?_⟩
      rw [Function.update_of_ne (elsewhere owner session moved)]
      exact atId
    · rintro ⟨owner, owned, atId⟩
      refine ⟨owner, (sameOwner owner session).mp owned, ?_⟩
      rw [Function.update_of_ne (elsewhere owner session owned)] at atId
      exact atId
  case releasedOnce => exact once
  case releasedGone =>
    intro index logged
    rcases holds.releasedGone index (before index logged) with ⟨gone, known⟩
    simp only [RequestController.setLease]
    rw [Function.update_of_ne (Nat.ne_of_lt known)]
    exact ⟨gone, Nat.lt_succ_of_lt known⟩
  case closedLast => exact fun logged => absurd logged never
  case closedEnds => exact ends

/-- An attempt of a lease that has none begins. -/
theorem attach (holds : AdmissionInvariant config controller) {lease : Nat}
    (isRegistered : controller.registered lease = true)
    (idle : (controller.lease lease).session = none) (opened : controller.closed = false)
    {requestId : PyStr} (sameId : requestId = (controller.lease lease).requestId)
    (injectionAllowed final : Bool) (deadline : Option τ) :
    AdmissionInvariant config
      { (controller.setLease lease
          { controller.lease lease with
            deadline := deadline, state := .active
            session := some controller.sessionCount }).setSession controller.sessionCount
          (newSession requestId injectionAllowed final deadline) with
        sessionCount := controller.sessionCount + 1
        sessions := controller.sessions ++ [controller.sessionCount]
        sessionsByRequestId := controller.sessionsByRequestId.set requestId controller.sessionCount
        history := controller.history ++ [.submitted lease controller.sessionCount] } := by
  subst sameId
  have here := registered_iff.mp isRegistered
  rcases holds.held _ _ here with ⟨-, notReleased, known⟩
  rcases holds.history_admits opened (.submitted lease controller.sessionCount) trivial
    with ⟨once, before, never, ends⟩
  have fresh : ∀ index session, (controller.lease index).session = some session →
      session ≠ controller.sessionCount := by
    intro index session owned equal
    have known := (holds.attached index session owned).2.1
    omega
  have sameIds : ∀ index, (Function.update controller.lease lease
      { controller.lease lease with
        deadline := deadline, state := .active, session := some controller.sessionCount }
      index).requestId = (controller.lease index).requestId := by
    intro index
    by_cases at_ : index = lease
    · subst at_
      simp
    · simp [at_]
  have owner : ∀ index session, (Function.update controller.lease lease
      { controller.lease lease with
        deadline := deadline, state := .active, session := some controller.sessionCount }
      index).session = some session ↔
      (controller.lease index).session = some session ∨
        index = lease ∧ session = controller.sessionCount := by
    intro index session
    by_cases at_ : index = lease
    · subst at_
      simp [idle, eq_comm]
    · simp [at_]
  constructor
  case counted => exact holds.counted
  case bounded => exact holds.bounded
  case drained => exact holds.drained
  case held =>
    intro requestId index found
    rcases holds.held requestId index found with ⟨atId, active, knownToo⟩
    simp only [RequestController.setSession, RequestController.setLease, sameIds]
    refine ⟨atId, ?_, knownToo⟩
    by_cases at_ : index = lease
    · subst at_
      simp
    · simpa [at_] using active
  case unmade =>
    intro index beyond
    simp only [RequestController.setSession, RequestController.setLease, sameIds]
    exact holds.unmade index beyond
  case attached =>
    intro index session owned
    simp only [RequestController.setSession, RequestController.setLease, owner] at owned
    simp only [registered, RequestController.setSession, RequestController.setLease, sameIds]
    rcases owned with before | ⟨rfl, rfl⟩
    · rcases holds.attached index session before with ⟨isRegisteredToo, knownSession, same⟩
      rw [Function.update_of_ne (fresh index session before)]
      exact ⟨isRegisteredToo, Nat.lt_succ_of_lt knownSession, same⟩
    · rw [Function.update_self]
      exact ⟨isRegistered, Nat.lt_succ_self _, rfl⟩
  case sessions =>
    intro session
    simp only [RequestController.setSession, RequestController.setLease, owner, List.mem_append,
      List.mem_singleton, holds.sessions]
    constructor
    · rintro (⟨index, owned⟩ | rfl)
      · exact ⟨index, .inl owned⟩
      · exact ⟨lease, .inr ⟨rfl, rfl⟩⟩
    · rintro ⟨index, owned | ⟨-, rfl⟩⟩
      · exact .inl ⟨index, owned⟩
      · exact .inr rfl
  case byRequest =>
    intro requestId session
    simp only [RequestController.setSession, RequestController.setLease, owner, sameIds,
      Dict.get?_set]
    by_cases same : requestId = (controller.lease lease).requestId
    · subst same
      rw [if_pos rfl]
      constructor
      · intro equal
        cases equal
        exact ⟨lease, .inr ⟨rfl, rfl⟩, rfl⟩
      · rintro ⟨index, owned | ⟨-, rfl⟩, atId⟩
        · have other := registered_iff.mp (holds.attached index session owned).1
          rw [atId, here] at other
          cases other
          rw [idle] at owned
          cases owned
        · rfl
    · rw [if_neg same, holds.byRequest]
      constructor
      · rintro ⟨index, owned, atId⟩
        exact ⟨index, .inl owned, atId⟩
      · rintro ⟨index, owned | ⟨rfl, -⟩, atId⟩
        · exact ⟨index, owned, atId⟩
        · exact absurd atId.symm same
  case releasedOnce => exact once
  case releasedGone =>
    intro index logged
    rcases holds.releasedGone index (before index logged) with ⟨gone, knownToo⟩
    have other : index ≠ lease := by
      intro equal
      subst equal
      exact notReleased gone
    simp only [RequestController.setSession, RequestController.setLease]
    rw [Function.update_of_ne other]
    exact ⟨gone, knownToo⟩
  case closedLast => exact fun logged => absurd logged never
  case closedEnds => exact ends

section Time

variable [Add τ] [LE τ] [DecidableLE τ]

theorem submitReservedLocked (holds : AdmissionInvariant config controller) {lease : Nat}
    {request : RuntimeGenerationRequest}
    (sameId : request.requestId = (controller.lease lease).requestId) (final : Bool) (now : τ)
    (submission : Submission) : AdmissionInvariant config
      (controller.submitReservedLocked config lease request final now submission).2 := by
  rw [RequestController.submitReservedLocked]
  dsimp only
  by_cases closed : controller.closed = true
  · rw [if_pos closed]
    exact holds
  rw [if_neg closed]
  by_cases isRegistered : controller.registered lease = true
  · rw [isRegistered, if_neg (by decide)]
    by_cases released : (controller.lease lease).state = .released
    · rw [if_pos released]
      exact holds
    rw [if_neg released]
    by_cases busy : (controller.lease lease).session ≠ none
    · rw [if_pos busy]
      exact holds
    rw [if_neg busy]
    split
    · exact holds.setLease rfl rfl rfl
    · cases submission with
      | unavailable error => exact holds.setLease rfl rfl rfl
      | raised => exact holds.setLease rfl rfl rfl
      | broken => exact holds.setLease rfl rfl rfl
      | session =>
          exact holds.attach isRegistered (not_not.mp busy) (Bool.eq_false_iff.mpr closed) sameId
            _ final _
  · rw [Bool.eq_false_iff.mpr isRegistered, if_pos (by decide)]
    exact holds

end Time

theorem injectTextLocked (holds : AdmissionInvariant config controller) (requestId : PyStr)
    (accepted : Bool) :
    AdmissionInvariant config (controller.injectTextLocked requestId accepted).2 := by
  rw [RequestController.injectTextLocked]
  cases controller.sessionsByRequestId.get? requestId with
  | none => exact holds
  | some session =>
      dsimp only
      split
      · exact holds
      · split
        · exact holds
        · cases controller.leasesByRequestId.get? requestId with
          | none => exact holds
          | some lease => exact holds.setLease rfl rfl rfl

theorem closeLocked (holds : AdmissionInvariant config controller)
    (reason : RequestTerminalReason) :
    AdmissionInvariant config (controller.closeLocked reason).2 := by
  rw [RequestController.closeLocked]
  split
  · exact holds
  · have marked := holds.changeLeases (fun lease =>
        if lease ∈ controller.leasesByRequestId.entries.map Prod.snd then
          closing reason (controller.lease lease)
        else controller.lease lease) (by
      intro index
      split <;> simp [closing])
    rcases marked with ⟨counted, bounded, drained, held, unmade, attached, sessions, byRequest,
      once, gone, last, ends⟩
    constructor
    case releasedOnce =>
      intro lease
      simpa [List.count_append] using once lease
    case releasedGone =>
      intro lease logged
      exact gone lease (by simpa using logged)
    case closedLast => exact fun _ => rfl
    case closedEnds =>
      apply List.pairwise_append.mpr
      refine ⟨ends, List.pairwise_singleton _ _, ?_⟩
      intro earlier _ later isLast _
      cases List.mem_singleton.mp isLast
      exact id
    all_goals assumption

end AdmissionInvariant

end ExQServe.Control
