import ExQServe.Agent.Json
import ExQServe.Foundation.Logged
import ExQServe.Model.ToolConstraints

/-! # Remote images

Fetching an image over HTTP in `runtime/exllamav3.py`. The resolver, the servers and the clock
are a world that answers as it likes; `urllib.parse`, `ipaddress` and `http.client` are
parameters of which nothing is assumed. The log holds what the fetch does to the network. -/

namespace ExQServe.Runtime.RemoteImages

open ExQServe.Model

/-! ## Libraries -/

inductive FetchError
  | valueError (message : PyStr)
  | typeError (message : PyStr)
  | timeoutError (message : PyStr)
  | osError (message : PyStr)
  | httpException
  | other
deriving DecidableEq

/-- `except OSError`; a timeout is one. -/
def FetchError.IsOSError : FetchError → Bool
  | .timeoutError _ | .osError _ => true
  | _ => false

/-- `except (OSError, http.client.HTTPException)`. -/
def FetchError.IsConnectionError : FetchError → Bool
  | .httpException => true
  | failure => failure.IsOSError

/-- `urllib.parse.SplitResult`; the inner `none` of the port stands for `ValueError`. -/
structure SplitResult where
  scheme : PyStr
  username : Option PyStr
  password : Option PyStr
  hostname : Option PyStr
  port : Option (Option Nat)
  path : PyStr
  query : PyStr
deriving DecidableEq

structure IpAddress where
  text : PyStr
  isGlobal : Bool
deriving DecidableEq

structure ResolvedRemoteImageUrl where
  source : PyStr
  scheme : PyStr
  hostname : PyStr
  port : Nat
  addresses : List PyStr
  requestTarget : PyStr
deriving DecidableEq

structure PinnedConnection where
  secure : Bool
  host : PyStr
  port : Nat
  pinnedAddress : PyStr
deriving DecidableEq

structure HttpResponse where
  status : Int
  location : Option PyStr
  contentLength : Option PyStr
deriving DecidableEq

/-- What a request and its response come to; `http.client` may call `connect` on the way. -/
structure Exchange where
  connects : Nat
  outcome : Except FetchError HttpResponse

/-- The element of an answer of `getaddrinfo` that holds the address may be no string. -/
structure Libraries (σ : Type) where
  urlsplit : PyStr → Except FetchError SplitResult
  urljoin : PyStr → PyStr → Except FetchError PyStr
  requestTarget : PyStr → PyStr → PyStr
  ipAddress : PyStr → Option IpAddress
  getaddrinfo : PyStr → Nat → σ → Except FetchError (List (Option PyStr)) × σ
  monotonic : σ → Int × σ
  construct : PinnedConnection → σ → Except FetchError Unit × σ
  exchange : PinnedConnection → PyStr → σ → Exchange × σ
  read1 : Nat → σ → Except FetchError (List UInt8) × σ

/-! ## The network -/

structure Lookup where
  source : PyStr
  port : Nat
  answers : List (Option PyStr)
deriving DecidableEq

inductive NetEvent
  | lookedUp (lookup : Lookup)
  | connected (address : PyStr) (port : Nat)
  | redirected (location : Option PyStr)
deriving DecidableEq

abbrev Fetch (σ α : Type) : Type := Logged σ NetEvent FetchError α

variable {σ : Type} (libraries : Libraries σ)

def lift {α : Type} (result : Except FetchError α) : Fetch σ α := Logged.ask fun world =>
  (result, world)

def valueError {α : Type} (message : String) : Fetch σ α := throw (.valueError (py message))

/-! ## Resolution -/

def lower (text : PyStr) : PyStr :=
  text.map fun char =>
    if 'A'.toNat ≤ char.val ∧ char.val ≤ 'Z'.toNat then chr (Char.ofNat (char.val + 32))
    else char

def isHttp (scheme : PyStr) : Bool := scheme = py "http" || scheme = py "https"

def lookUp (source hostname : PyStr) (port : Nat) : Fetch σ (List (Option PyStr)) := do
  let answers ← tryCatch (Logged.ask (libraries.getaddrinfo hostname port)) fun failure =>
    if failure.IsOSError then valueError "remote image hostname could not be resolved"
    else throw failure
  Logged.record (.lookedUp ⟨source, port, answers⟩)
  pure answers

def answeredAddress (answer : Option PyStr) : Except FetchError IpAddress :=
  match answer with
  | none => .error (.typeError (py "remote image hostname resolved to an invalid address"))
  | some host =>
      match libraries.ipAddress (host.takeWhile fun char => char ≠ chr '%') with
      | none => .error (.valueError (py "remote image hostname resolved to an invalid address"))
      | some address => .ok address

def globalAddresses : List (Option PyStr) → List PyStr → Except FetchError (List PyStr)
  | [], resolved => .ok resolved
  | answer :: answers, resolved => do
      let address ← answeredAddress libraries answer
      if !address.isGlobal then
        .error (.valueError
          (py "remote image hostname must resolve only to globally routable addresses"))
      else if resolved.contains address.text then globalAddresses answers resolved
      else globalAddresses answers (resolved ++ [address.text])

def resolveRemoteImageUrl (source : PyStr) : Fetch σ ResolvedRemoteImageUrl := do
  let parsed ← lift (libraries.urlsplit source)
  let scheme := lower parsed.scheme
  if !isHttp scheme then valueError "remote image URL must use HTTP(S)"
  else if parsed.username.isSome || parsed.password.isSome then
    valueError "remote image URL must not contain credentials"
  else
    match parsed.hostname with
    | none => valueError "remote image URL must contain a hostname"
    | some hostname =>
        match parsed.port with
        | none => valueError "remote image URL contains an invalid port"
        | some given => do
            let standard := if scheme = py "https" then 443 else 80
            let port := if given.getD 0 = 0 then standard else given.getD 0
            let answers ← lookUp libraries source hostname port
            let addresses ← lift (globalAddresses libraries answers [])
            if addresses.isEmpty then
              valueError "remote image hostname must resolve only to globally routable addresses"
            else
              let path := if parsed.path.isEmpty then py "/" else parsed.path
              pure ⟨source, scheme, hostname, port, addresses,
                libraries.requestTarget path parsed.query⟩

/-! ## Responses -/

/-- In nanoseconds, as the clock. -/
def remoteImageTotalTimeout : Int := 15000000000

def remoteImageReadChunkBytes : Nat := 64 * 1024

def monotonic : Fetch σ Int := Logged.ask fun world =>
  (.ok (libraries.monotonic world).1, (libraries.monotonic world).2)

def remainingRemoteImageTimeout (deadline : Int) : Fetch σ Int := do
  let now ← monotonic libraries
  if deadline - now ≤ 0 then
    throw (.timeoutError (py "remote image fetch exceeded total timeout"))
  else pure (deadline - now)

def PinnedConnection.connect (connection : PinnedConnection) : Fetch σ Unit :=
  Logged.record (.connected connection.pinnedAddress connection.port)

/-- `connection.request` and `connection.getresponse`. -/
def PinnedConnection.getresponse (connection : PinnedConnection) (target : PyStr) :
    Fetch σ HttpResponse := do
  let exchange ← Logged.ask fun world =>
    (.ok (libraries.exchange connection target world).1,
      (libraries.exchange connection target world).2)
  Logged.repeated exchange.connects connection.connect
  lift exchange.outcome

def pinned (resolved : ResolvedRemoteImageUrl) (address : PyStr) : PinnedConnection where
  secure := resolved.scheme = py "https"
  host := resolved.hostname
  port := resolved.port
  pinnedAddress := address

def openRemoteImageResponse (resolved : ResolvedRemoteImageUrl) (deadline : Int) :
    List PyStr → Fetch σ HttpResponse
  | [] => throw (.osError (py "remote image connection failed for all validated addresses"))
  | address :: addresses => do
      let _ ← remainingRemoteImageTimeout libraries deadline
      let connection := pinned resolved address
      let _ ← Logged.ask (libraries.construct connection)
      tryCatch
        (do
          let response ← connection.getresponse libraries resolved.requestTarget
          let _ ← remainingRemoteImageTimeout libraries deadline
          pure response)
        fun failure =>
          if failure.IsConnectionError then openRemoteImageResponse resolved deadline addresses
          else throw failure

/-- The loop with `total` bytes read so far; an empty chunk ends it. -/
def readRemoteImageResponse (maxBytes : Nat) (deadline : Int) (total : Nat) :
    Fetch σ (List UInt8) :=
  if _ : total ≤ maxBytes then do
    let _ ← remainingRemoteImageTimeout libraries deadline
    let chunk ← Logged.ask
      (libraries.read1 (min remoteImageReadChunkBytes (maxBytes + 1 - total)))
    let _ ← remainingRemoteImageTimeout libraries deadline
    if _ : chunk = [] then pure []
    else do
      let rest ← readRemoteImageResponse maxBytes deadline (total + chunk.length)
      pure (chunk ++ rest)
  else pure []
termination_by maxBytes + 1 - total
decreasing_by
  have := List.length_pos_iff.mpr ‹_›
  omega

/-! ## Hops -/

def redirectStatuses : List Int := [301, 302, 303, 307, 308]

def maxRedirects : Nat := 5

def acceptResponse (maxBytes : Nat) (deadline : Int) (response : HttpResponse) :
    Fetch σ (List UInt8) := do
  if !(decide (200 ≤ response.status) && decide (response.status < 300)) then
    throw (.valueError (py "remote image request failed with HTTP status " ++
      Json.dumpsInt response.status))
  else if (response.contentLength.bind pyInt).any fun declared => (maxBytes : Int) < declared then
    valueError "remote image exceeds max_image_bytes"
  else do
    let data ← readRemoteImageResponse libraries maxBytes deadline 0
    if maxBytes < data.length then valueError "remote image exceeds max_image_bytes"
    else pure data

/-- The loop after `redirects` followed redirects. -/
def fetchHop (maxBytes : Nat) (deadline : Int) (redirects : Nat) (source : PyStr) :
    Fetch σ (List UInt8) := do
  let _ ← remainingRemoteImageTimeout libraries deadline
  let resolved ← resolveRemoteImageUrl libraries source
  let response ← openRemoteImageResponse libraries resolved deadline resolved.addresses
  if redirectStatuses.contains response.status then do
    Logged.record (.redirected response.location)
    match response.location with
    | none => valueError "remote image redirect is missing Location"
    | some location =>
        if maxRedirects ≤ redirects then
          valueError "remote image exceeded redirect limit"
        else do
          let next ← lift (libraries.urljoin source location)
          fetchHop maxBytes deadline (redirects + 1) next
  else acceptResponse libraries maxBytes deadline response
termination_by maxRedirects - redirects

def remoteImageBytes (source : PyStr) (maxBytes : Nat) : Fetch σ (List UInt8) := do
  let now ← monotonic libraries
  fetchHop libraries maxBytes (now + remoteImageTotalTimeout) 0 source

/-! ## Guarded connections -/

/-- The lookup is of a URL without credentials, found global addresses only, and the
connection goes to one of them. -/
def Lookup.Permits (lookup : Lookup) (address : PyStr) (port : Nat) : Prop :=
  (∃ parsed, libraries.urlsplit lookup.source = .ok parsed ∧
      isHttp (lower parsed.scheme) = true ∧ parsed.username = none ∧ parsed.password = none) ∧
    (∀ answer ∈ lookup.answers, ∃ found, answeredAddress libraries answer = .ok found ∧
      found.isGlobal = true) ∧
    (∃ answer ∈ lookup.answers, ∃ found, answeredAddress libraries answer = .ok found ∧
      found.text = address) ∧
    lookup.port = port

def NetEvent.IsConnection : NetEvent → Prop
  | .connected _ _ => True
  | _ => False

def NetEvent.isRedirect : NetEvent → Bool
  | .redirected _ => true
  | _ => false

/-- Between a connection and the lookup that permits it there are only connections. -/
def Guarded (log : List NetEvent) : Prop :=
  ∀ before address port after, log = before ++ .connected address port :: after →
    ∃ earlier lookup between, before = earlier ++ .lookedUp lookup :: between ∧
      (∀ event ∈ between, event.IsConnection) ∧ lookup.Permits libraries address port

variable {libraries}

theorem Guarded.append {first second : List NetEvent} (left : Guarded libraries first)
    (right : Guarded libraries second) : Guarded libraries (first ++ second) := by
  intro before address port after split
  rcases List.append_eq_append_iff.mp split with ⟨early, reached, rest⟩ | ⟨late, reached, rest⟩
  · rcases right early address port after rest with ⟨earlier, lookup, between, parts, guards⟩
    exact ⟨first ++ earlier, lookup, between, by rw [reached, parts, List.append_assoc], guards⟩
  · cases late with
    | nil =>
        rw [List.append_nil] at reached
        rcases right [] address port after rest.symm with ⟨earlier, lookup, between, parts, _⟩
        exact absurd parts.symm (by simp)
    | cons event late =>
        cases (List.cons.inj rest).1
        exact left before address port late reached

theorem guarded_quiet {log : List NetEvent} (quiet : ∀ event ∈ log, ¬ event.IsConnection) :
    Guarded libraries log := by
  intro before address port after split
  refine absurd trivial (quiet (.connected address port) ?_)
  rw [split]
  exact List.mem_append_right _ List.mem_cons_self

/-- One hop: the lookup and connections it permits. -/
theorem guarded_hop {lookup : Lookup} {connections : List NetEvent}
    (permitted : ∀ event ∈ connections, ∃ address port, event = .connected address port ∧
      lookup.Permits libraries address port) :
    Guarded libraries (.lookedUp lookup :: connections) := by
  intro before address port after split
  cases before with
  | nil => cases split
  | cons event before =>
      rcases List.cons.inj split with ⟨rfl, rest⟩
      refine ⟨[], lookup, before, rfl, ?_, ?_⟩
      · intro event member
        rcases permitted event (rest ▸ List.mem_append_left _ member) with ⟨_, _, same, _⟩
        rw [same]
        trivial
      · rcases permitted (.connected address port)
          (rest ▸ List.mem_append_right _ List.mem_cons_self) with ⟨_, _, same, permits⟩
        cases same
        exact permits

/-! ## What each part records -/

def Silent {α : Type} (known : α → Prop) (program : Fetch σ α) : Prop :=
  program.Satisfies fun log result => log = [] ∧ ∀ value, result = .ok value → known value

theorem silent_lift {α : Type} (result : Except FetchError α) :
    Silent (fun value => result = .ok value) (lift result : Fetch σ α) :=
  ⟨fun _ => ⟨rfl, fun _ => id⟩⟩

theorem silent_throw {α : Type} {known : α → Prop} (failure : FetchError) :
    Silent known (throw failure : Fetch σ α) :=
  Logged.satisfies_throw ⟨rfl, by simp⟩

theorem silent_pure {α : Type} {known : α → Prop} {value : α} (holds : known value) :
    Silent known (pure value : Fetch σ α) :=
  Logged.satisfies_pure ⟨rfl, fun _ same => Except.ok.inj same ▸ holds⟩

theorem Silent.bind {α β : Type} {known : α → Prop} {last : β → Prop} {first : Fetch σ α}
    {next : α → Fetch σ β} (begins : Silent known first)
    (continues : ∀ value, known value → Silent last (next value)) : Silent last (first >>= next) :=
  Logged.satisfies_silent_bind begins (fun _ => ⟨rfl, by simp⟩) continues

theorem silent_remaining (deadline : Int) :
    Silent (fun _ => True) (remainingRemoteImageTimeout libraries deadline : Fetch σ Int) := by
  apply Logged.satisfies_ask_bind (fun _ => ⟨rfl, by simp⟩)
  intro now
  split
  · exact silent_throw _
  · exact silent_pure trivial

theorem silent_read (maxBytes : Nat) (deadline : Int) (total : Nat) :
    Silent (fun _ => True) (readRemoteImageResponse libraries maxBytes deadline total) := by
  fun_induction readRemoteImageResponse libraries maxBytes deadline total with
  | case1 total inside induction =>
      apply (silent_remaining deadline).bind
      intro _ _
      apply Logged.satisfies_ask_bind (fun _ => ⟨rfl, by simp⟩)
      intro chunk
      apply (silent_remaining deadline).bind
      intro _ _
      split
      · exact silent_pure trivial
      · rename_i filled
        apply (induction chunk filled).bind
        intro rest _
        exact silent_pure trivial
  | case2 => exact silent_pure trivial

theorem silent_acceptResponse (maxBytes : Nat) (deadline : Int) (response : HttpResponse) :
    Silent (fun data => data.length ≤ maxBytes)
      (acceptResponse libraries maxBytes deadline response) := by
  rw [acceptResponse]
  split
  · exact silent_throw _
  · split
    · exact silent_throw _
    · apply (silent_read maxBytes deadline 0).bind
      intro data _
      split
      · exact silent_throw _
      · rename_i fits
        exact silent_pure (Nat.le_of_not_lt fits)

theorem globalAddresses_sound {answers : List (Option PyStr)} {resolved addresses : List PyStr}
    (found : globalAddresses libraries answers resolved = .ok addresses) :
    (∀ answer ∈ answers, ∃ address, answeredAddress libraries answer = .ok address ∧
        address.isGlobal = true) ∧
      ∀ text ∈ addresses, text ∈ resolved ∨
        ∃ answer ∈ answers, ∃ address, answeredAddress libraries answer = .ok address ∧
          address.text = text := by
  induction answers generalizing resolved with
  | nil =>
      cases found
      exact ⟨by simp, fun _ => .inl⟩
  | cons answer answers induction =>
      rw [globalAddresses] at found
      cases read : answeredAddress libraries answer with
      | error failure =>
          rw [read] at found
          cases found
      | ok address =>
          rw [read] at found
          change (if (!address.isGlobal) = true then _ else _) = _ at found
          cases routable : address.isGlobal with
          | false =>
              rw [routable] at found
              cases found
          | true =>
              rw [routable, if_neg (by simp)] at found
              split at found
              · rcases induction found with ⟨each, known⟩
                refine ⟨List.forall_mem_cons.mpr ⟨⟨address, read, routable⟩, each⟩, ?_⟩
                intro text member
                rcases known text member with old | ⟨other, present, same⟩
                · exact .inl old
                · exact .inr ⟨other, List.mem_cons_of_mem _ present, same⟩
              · rcases induction found with ⟨each, known⟩
                refine ⟨List.forall_mem_cons.mpr ⟨⟨address, read, routable⟩, each⟩, ?_⟩
                intro text member
                rcases known text member with old | ⟨other, present, same⟩
                · rcases List.mem_append.mp old with old | new
                  · exact .inl old
                  · cases List.mem_singleton.mp new
                    exact .inr ⟨answer, List.mem_cons_self, address, read, rfl⟩
                · exact .inr ⟨other, List.mem_cons_of_mem _ present, same⟩

theorem satisfies_lookUp (source hostname : PyStr) (port : Nat) :
    (lookUp libraries source hostname port).Satisfies fun log result =>
      (log = [] ∨ ∃ answers, log = [.lookedUp ⟨source, port, answers⟩]) ∧
        ∀ answers, result = .ok answers → log = [.lookedUp ⟨source, port, answers⟩] := by
  have asked : Silent (fun _ => True) (tryCatch
      (Logged.ask (libraries.getaddrinfo hostname port) : Fetch σ (List (Option PyStr)))
      fun failure =>
        if failure.IsOSError then valueError "remote image hostname could not be resolved"
        else throw failure) := by
    have silent : (Logged.ask (libraries.getaddrinfo hostname port) :
        Fetch σ (List (Option PyStr))).Satisfies fun log _ => log = [] :=
      Logged.satisfies_ask fun _ => rfl
    apply Logged.satisfies_tryCatch silent
    · intro log answers silent
      exact ⟨silent, fun _ _ => trivial⟩
    · intro log failure silent
      rw [silent]
      split
      · exact silent_throw _
      · exact silent_throw _
  apply Logged.satisfies_silent_bind asked (fun _ => ⟨.inl rfl, by simp⟩)
  intro answers _
  have recorded : (Logged.record (.lookedUp ⟨source, port, answers⟩) : Fetch σ Unit).Satisfies
      fun log _ => log = [.lookedUp ⟨source, port, answers⟩] := Logged.satisfies_record rfl
  apply Logged.satisfies_bind recorded
  · intro log failure recorded
    exact ⟨.inr ⟨answers, recorded⟩, by simp⟩
  · intro log _ recorded
    rw [recorded]
    apply Logged.satisfies_pure
    refine ⟨.inr ⟨answers, rfl⟩, ?_⟩
    intro returned same
    cases same
    rfl

/-- Nothing is recorded before the lookup, and what is resolved is permitted by it. -/
theorem satisfies_resolve (source : PyStr) :
    (resolveRemoteImageUrl libraries source).Satisfies fun log result =>
      (log = [] ∨ ∃ lookup, log = [.lookedUp lookup]) ∧
        ∀ resolved, result = .ok resolved → ∃ lookup, log = [.lookedUp lookup] ∧
          ∀ address ∈ resolved.addresses, lookup.Permits libraries address resolved.port := by
  have failed {failure : FetchError} :
      (throw failure : Fetch σ ResolvedRemoteImageUrl).Satisfies fun log result =>
        (log = [] ∨ ∃ lookup, log = [.lookedUp lookup]) ∧
          ∀ resolved, result = .ok resolved → ∃ lookup, log = [.lookedUp lookup] ∧
            ∀ address ∈ resolved.addresses, lookup.Permits libraries address resolved.port :=
    Logged.satisfies_throw ⟨.inl rfl, by simp⟩
  apply Logged.satisfies_silent_bind (silent_lift _) (fun _ => ⟨.inl rfl, by simp⟩)
  intro parsed splits
  dsimp only
  by_cases scheme : isHttp (lower parsed.scheme) = true
  swap
  · rw [if_pos (by simpa using scheme)]
    exact failed
  rw [if_neg (by simp [scheme])]
  by_cases credentials : (parsed.username.isSome || parsed.password.isSome) = true
  · rw [if_pos credentials]
    exact failed
  rw [if_neg credentials]
  have anonymous : parsed.username = none ∧ parsed.password = none := by
    simpa using credentials
  cases parsed.hostname with
  | none => exact failed
  | some hostname =>
      cases parsed.port with
      | none => exact failed
      | some given =>
          dsimp only
          generalize (if given.getD 0 = 0 then
            (if lower parsed.scheme = py "https" then 443 else 80) else given.getD 0) = port
          apply Logged.satisfies_bind (satisfies_lookUp source hostname port)
          · intro log failure known
            exact ⟨known.1.imp id fun found => ⟨_, found.choose_spec⟩, by simp⟩
          · intro log answers known
            rw [known.2 answers rfl]
            have silent := silent_lift (σ := σ) (globalAddresses libraries answers [])
            apply Logged.satisfies_silent_bind silent (fun _ => ⟨.inr ⟨_, rfl⟩, by simp⟩)
            intro addresses found
            rcases globalAddresses_sound found with ⟨each, known⟩
            split
            · exact Logged.satisfies_throw ⟨.inr ⟨_, rfl⟩, by simp⟩
            · apply Logged.satisfies_pure
              refine ⟨.inr ⟨_, rfl⟩, ?_⟩
              intro resolved same
              cases same
              refine ⟨_, rfl, ?_⟩
              intro address member
              refine ⟨⟨parsed, splits, scheme, anonymous⟩, each, ?_, rfl⟩
              rcases known address member with impossible | found
              · cases impossible
              · exact found

theorem satisfies_getresponse (connection : PinnedConnection) (target : PyStr) :
    (connection.getresponse libraries target).Satisfies fun log _ =>
      ∀ event ∈ log, event = .connected connection.pinnedAddress connection.port := by
  apply Logged.satisfies_ask_bind (by simp)
  intro exchange
  have once : (connection.connect : Fetch σ Unit).Satisfies fun log _ =>
      ∀ event ∈ log, event = .connected connection.pinnedAddress connection.port :=
    Logged.satisfies_record (by simp)
  apply Logged.satisfies_bind (Logged.satisfies_repeated once exchange.connects)
  · intro log failure connects
    exact connects
  · intro log _ connects
    apply (silent_lift exchange.outcome).weaken
    intro more _ silent
    rw [silent.1, List.append_nil]
    exact connects

/-- Only the addresses it was given are connected to. -/
theorem satisfies_open (resolved : ResolvedRemoteImageUrl) (deadline : Int)
    (addresses : List PyStr) :
    (openRemoteImageResponse libraries resolved deadline addresses).Satisfies fun log _ =>
      ∀ event ∈ log, ∃ address ∈ addresses, event = .connected address resolved.port := by
  induction addresses with
  | nil => exact Logged.satisfies_throw (by simp)
  | cons address addresses induction =>
      rw [openRemoteImageResponse]
      apply Logged.satisfies_silent_bind (silent_remaining deadline) (by simp)
      intro _ _
      dsimp only
      apply Logged.satisfies_ask_bind (by simp)
      intro _
      have here : (do
          let response ← (pinned resolved address).getresponse libraries resolved.requestTarget
          let _ ← remainingRemoteImageTimeout libraries deadline
          pure response : Fetch σ HttpResponse).Satisfies fun log _ =>
            ∀ event ∈ log, event = .connected address resolved.port := by
        apply Logged.satisfies_bind (satisfies_getresponse _ _)
        · intro log failure connects
          exact connects
        · intro log response connects
          have timely : Silent (fun _ => True) (do
              let _ ← remainingRemoteImageTimeout libraries deadline
              pure response : Fetch σ HttpResponse) :=
            (silent_remaining deadline).bind fun _ _ => silent_pure trivial
          apply timely.weaken
          intro more _ silent
          rw [silent.1, List.append_nil]
          exact connects
      apply Logged.satisfies_tryCatch here
      · intro log response connects event member
        exact ⟨address, List.mem_cons_self, connects event member⟩
      · intro log failure connects
        have started : ∀ event ∈ log, ∃ tried ∈ address :: addresses,
            event = .connected tried resolved.port :=
          fun event member => ⟨address, List.mem_cons_self, connects event member⟩
        split
        · apply induction.weaken
          intro more _ later event member
          rcases List.mem_append.mp member with member | member
          · exact started event member
          · rcases later event member with ⟨tried, present, same⟩
            exact ⟨tried, List.mem_cons_of_mem _ present, same⟩
        · apply Logged.satisfies_throw
          rw [List.append_nil]
          exact started

/-! ## The whole fetch -/

/-- What a fetch with `left` redirects still to answer may do. -/
structure FetchRules (libraries : Libraries σ) (maxBytes left : Nat) (log : List NetEvent)
    (result : Except FetchError (List UInt8)) : Prop where
  guarded : Guarded libraries log
  redirects : log.countP NetEvent.isRedirect ≤ left
  bounded : ∀ data, result = .ok data → data.length ≤ maxBytes

theorem FetchRules.failed {maxBytes left : Nat} {log : List NetEvent} {failure : FetchError}
    (guarded : Guarded libraries log) (redirects : log.countP NetEvent.isRedirect ≤ left) :
    FetchRules libraries maxBytes left log (.error failure) :=
  ⟨guarded, redirects, by simp⟩

/-- One hop, if the hops behind it keep the rules. -/
theorem fetchHop_step {maxBytes : Nat} {deadline : Int} {redirects : Nat} (source : PyStr)
    (within : redirects ≤ maxRedirects)
    (later : redirects < maxRedirects → ∀ next,
      (fetchHop libraries maxBytes deadline (redirects + 1) next).Satisfies
        (FetchRules libraries maxBytes (maxRedirects - redirects))) :
    (fetchHop libraries maxBytes deadline redirects source).Satisfies
      (FetchRules libraries maxBytes (maxRedirects + 1 - redirects)) := by
  have quiet : Guarded libraries [] := guarded_quiet (by simp)
  rw [fetchHop]
  apply Logged.satisfies_silent_bind (silent_remaining deadline)
    (fun _ => .failed quiet (Nat.zero_le _))
  intro _ _
  apply Logged.satisfies_bind (satisfies_resolve source)
  · intro log failure known
    rcases known.1 with rfl | ⟨lookup, rfl⟩
    · exact .failed quiet (Nat.zero_le _)
    · exact .failed (guarded_hop (by simp)) (Nat.zero_le _)
  intro looked resolved known
  rcases known.2 resolved rfl with ⟨lookup, rfl, permits⟩
  -- Whatever the hop leads to comes behind its lookup and its connections.
  have behind {connections more : List NetEvent} {result : Except FetchError (List UInt8)}
      (connects : ∀ event ∈ connections, ∃ address ∈ resolved.addresses,
        event = .connected address resolved.port)
      (rules : FetchRules libraries maxBytes (maxRedirects + 1 - redirects) more result) :
      FetchRules libraries maxBytes (maxRedirects + 1 - redirects)
        ([.lookedUp lookup] ++ (connections ++ more)) result := by
    have none : connections.countP NetEvent.isRedirect = 0 := by
      rw [List.countP_eq_zero]
      intro event member
      rcases connects event member with ⟨address, _, rfl⟩
      exact Bool.false_ne_true
    refine ⟨?_, ?_, rules.bounded⟩
    · rw [← List.append_assoc]
      apply Guarded.append (guarded_hop _) rules.guarded
      intro event member
      rcases connects event member with ⟨address, present, rfl⟩
      exact ⟨address, resolved.port, rfl, permits address present⟩
    · rw [List.countP_append, List.countP_append, none, Nat.zero_add]
      exact (Nat.zero_add _).trans_le rules.redirects
  apply Logged.satisfies_bind (satisfies_open resolved deadline resolved.addresses)
  · intro connections failure connects
    have ended := behind connects (@FetchRules.failed _ _ _ _ _ failure quiet (Nat.zero_le _))
    rwa [List.append_nil] at ended
  intro connections response connects
  split
  · have redirected : (Logged.record (.redirected response.location) : Fetch σ Unit).Satisfies
        fun log result => log = [.redirected response.location] ∧ result = .ok () :=
      Logged.satisfies_record ⟨rfl, rfl⟩
    have answered {location : Option PyStr} {more : List NetEvent}
        {result : Except FetchError (List UInt8)}
        (rules : FetchRules libraries maxBytes (maxRedirects - redirects) more result) :
        FetchRules libraries maxBytes (maxRedirects + 1 - redirects)
          ([.lookedUp lookup] ++ (connections ++ ([.redirected location] ++ more))) result := by
      apply behind connects
      refine ⟨Guarded.append (guarded_quiet (by simp [NetEvent.IsConnection])) rules.guarded, ?_,
        rules.bounded⟩
      rw [List.countP_append, Nat.succ_sub within, Nat.add_comm]
      exact Nat.succ_le_succ rules.redirects
    have refused {location : Option PyStr} {failure : FetchError} :
        (throw failure : Fetch σ (List UInt8)).Satisfies fun more result =>
          FetchRules libraries maxBytes (maxRedirects + 1 - redirects)
            ([.lookedUp lookup] ++ (connections ++ ([.redirected location] ++ more))) result :=
      Logged.satisfies_throw (answered (.failed quiet (Nat.zero_le _)))
    apply Logged.satisfies_bind redirected
    · intro log failure impossible
      cases impossible.2
    intro log _ recorded
    rw [recorded.1]
    cases response.location with
    | none => exact refused
    | some location =>
        dsimp only
        split
        · exact refused
        · rename_i follows
          apply Logged.satisfies_silent_bind (silent_lift _)
          · intro failure
            exact answered (.failed quiet (Nat.zero_le _))
          · intro next _
            apply (later (Nat.lt_of_not_le follows) next).weaken
            intro more result rules
            exact answered rules
  · apply (silent_acceptResponse maxBytes deadline response).weaken
    intro more result silent
    rw [silent.1]
    exact behind connects ⟨quiet, Nat.zero_le _, silent.2⟩

theorem fetchHop_rules (maxBytes : Nat) (deadline : Int) (redirects : Nat) (source : PyStr)
    (within : redirects ≤ maxRedirects) :
    (fetchHop libraries maxBytes deadline redirects source).Satisfies
      (FetchRules libraries maxBytes (maxRedirects + 1 - redirects)) := by
  induction left : maxRedirects - redirects generalizing redirects source with
  | zero =>
      apply fetchHop_step source within
      intro follows
      omega
  | succ left induction =>
      apply fetchHop_step source within
      intro follows next
      have rules := induction (redirects + 1) next follows (by omega)
      rwa [Nat.add_sub_add_right] at rules

/-- Whatever the resolver, the servers and the clock answer, every connection goes to an
address of the lookup made for its hop, all of whose addresses are globally routable, for an
HTTP URL without credentials; at most six requests are answered with a redirect; and no more
than `maxBytes` bytes are returned. -/
theorem remote_fetch_guarded (libraries : Libraries σ) (source : PyStr) (maxBytes : Nat)
    (world : σ) :
    Guarded libraries (remoteImageBytes libraries source maxBytes world).log ∧
      (remoteImageBytes libraries source maxBytes world).log.countP NetEvent.isRedirect ≤ 6 ∧
      ∀ data, (remoteImageBytes libraries source maxBytes world).result = .ok data →
        data.length ≤ maxBytes := by
  have rules : (remoteImageBytes libraries source maxBytes).Satisfies
      (FetchRules libraries maxBytes (maxRedirects + 1)) := by
    apply Logged.satisfies_ask_bind (fun _ => .failed (guarded_quiet (by simp)) (Nat.zero_le _))
    intro now
    exact fetchHop_rules maxBytes (now + remoteImageTotalTimeout) 0 source (Nat.zero_le _)
  have here := rules.everywhere world
  exact ⟨here.guarded, here.redirects, here.bounded⟩

end ExQServe.Runtime.RemoteImages
