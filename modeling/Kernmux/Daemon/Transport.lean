import Kernmux.Daemon.Router

/-!
# Kernmux.Daemon.Transport

**No side effect without the role it needs.** The transport resolves a route,
authorizes the peer for the class of the route and only then lets the host API
handle the request. Nothing goes past the policy if the two routers of the host
API agree: a request is dispatched to a handler of the class that was authorized
(`dispatch_agrees`). What a handler of a class may need is then what the policy
has checked (`of_authorize_eq_ok`).
-/

namespace Kernmux.Daemon

open Api.V1 Library Lifecycle HostApi

/-! ### Handling a request -/

/-- A request as it arrives: the values of the headers that are looked at, and the body if it
could be read. -/
structure HttpRequest where
  method : Method
  path : String
  query : Option String
  requestIdHeader : Option (List UInt8)
  upgradeHeader : Option (List UInt8)
  connectionHeader : Option (List UInt8)
  body : Option (List UInt8)

/-- What the transport does with a request. -/
inductive Handled
  /-- The host API is not asked. -/
  | refused (status : ℕ) (error : ApiError)
  /-- The host API handles the request. -/
  | dispatched (result : Dispatched)
  /-- The host API prepares an upgrade. -/
  | prepared (result : Except ApiError InstanceId)

namespace Transport

/-- A header value is text when all of its bytes are visible. -/
def isText (value : List UInt8) : Bool :=
  value.all fun byte => (32 ≤ byte && byte ≤ 126) || byte == 9

def isRequestIdByte (byte : UInt8) : Bool :=
  isAsciiAlphanumeric byte || byte == 46 || byte == 95 || byte == 45

/-- Request ids are short and harmless. -/
def requestId (header : Option (List UInt8)) : Except ApiError (Option String) :=
  match header with
  | none => .ok none
  | some value =>
      if isText value ∧ value ≠ [] ∧ value.length ≤ 128 ∧ value.all isRequestIdByte then
        .ok (some (String.ofList (value.map fun byte => Char.ofNat byte.toNat)))
      else .error (error .invalidRequest "request ID is invalid" false)

/-- Text without the blanks around it. -/
def trim (value : List UInt8) : List UInt8 :=
  let blank (byte : UInt8) : Bool := byte == 32 || byte == 9
  ((value.dropWhile blank).reverse.dropWhile blank).reverse

/-- The request asks for an upgrade to some protocol. -/
def upgradeRequested (request : HttpRequest) : Bool :=
  (request.upgradeHeader.any fun value => isText value && !value.isEmpty && value.length ≤ 64) &&
    request.connectionHeader.any fun value =>
      isText value && (value.splitOn 44).any fun token =>
        (trim token).map lowerAscii == utf8Bytes "upgrade"

/-- Route, request id, authorization, and only then the host API. -/
def handleRequest {ε : Type} (api : Dispatcher) (refreshed : Except ε HostSnapshot)
    (limiter : ServiceLimiter) (policy : AuthorizationPolicy) (peer : PeerIdentity)
    (maxRequestBytes : ℕ) (request : HttpRequest) : Handled :=
  match routeFor request.method request.path with
  | none => .refused 404 (error .notFound "API route was not found" false)
  | some route =>
      match requestId request.requestIdHeader with
      | .error error => .refused 400 error
      | .ok requestId =>
          match policy.authorize peer.actor route.requestClass with
          | .error error => .refused 403 error
          | .ok _ =>
              if route.requestClass = .console then
                if upgradeRequested request then
                  .prepared (prepareUpgrade refreshed limiter
                    ⟨request.method, request.path, request.query, requestId, []⟩)
                else
                  .refused 426 (error .invalidRequest
                    "console route requires an HTTP protocol upgrade" false)
              else
                match request.body with
                | some body =>
                    if body.length ≤ maxRequestBytes then
                      .dispatched (api.dispatch
                        ⟨request.method, request.path, request.query, requestId, body⟩ peer)
                    else .refused 413 (error .invalidRequest "request body exceeds its limit" false)
                | none =>
                    .refused 413 (error .invalidRequest "request body exceeds its limit" false)

end Transport

/-! ### The two routers -/

namespace HostApi

def Mutation.requestClass : Mutation → RequestClass
  | .imageImport _ | .osImageImport _ => .administration
  | .lifecycle _ _ _ _ | .resourcePool _ | .managedLoad _ => .mutation

/-- The class that a handler needs: nothing may be imported without administration, and nothing
else may be changed without mutation. -/
def HandlerCall.requestClass : HandlerCall → RequestClass
  | .submit mutation _ _ => mutation.requestClass
  | .cancel _ => .mutation
  | _ => .readOnly

/-- A request ends up where its route says. -/
inductive Agrees : Option RouteSecurity → Dispatched → Prop
  | unrouted : Agrees none .unrouted
  | console (route : RouteSecurity) (h : route.requestClass = .console) :
      Agrees (some route) .unrouted
  | rejected (route : RouteSecurity) (error : ApiError) (h : route.requestClass ≠ .console) :
      Agrees (some route) (.rejected error)
  | handler (route : RouteSecurity) (call : HandlerCall)
      (h : call.requestClass = route.requestClass) : Agrees (some route) (.handler call)

section Agreement

variable {route : RouteSecurity} (request : LocalRequest) (peer : PeerIdentity)

theorem submit_agrees {mutation : Except ApiError Mutation} (hroute : route.requestClass ≠ .console)
    (h : ∀ value, mutation = .ok value → value.requestClass = route.requestClass) :
    Agrees (some route) (Dispatcher.submit request peer mutation) := by
  cases mutation with
  | error error => exact .rejected route error hroute
  | ok value => exact .handler route _ (h value rfl)

theorem submit_decoded_agrees {α : Type} {parse : List UInt8 → Option α} {body : List UInt8}
    {build : α → Mutation} (hroute : route.requestClass ≠ .console)
    (h : ∀ value, (build value).requestClass = route.requestClass) :
    Agrees (some route) (Dispatcher.submit request peer
      (decode parse body >>= fun value => pure (build value))) := by
  refine submit_agrees request peer hroute fun value hvalue => ?_
  cases hdecoded : decode parse body with
  | error error => exact absurd (hdecoded ▸ hvalue) nofun
  | ok mutation =>
      rw [hdecoded] at hvalue
      exact Except.ok.inj hvalue ▸ h mutation

variable (api : Dispatcher)

theorem dispatchInstanceLoad_requestClass {body : List UInt8} {instanceId : InstanceId}
    {mutation : Mutation} (h : api.dispatchInstanceLoad body instanceId = .ok mutation) :
    mutation.requestClass = .mutation := by
  obtain ⟨decoded, -, h⟩ := bind_eq_ok.mp h
  obtain ⟨kernel, -, h⟩ := bind_eq_ok.mp h
  obtain ⟨initrd, -, h⟩ := bind_eq_ok.mp h
  obtain ⟨_, -, h⟩ := bind_eq_ok.mp h
  exact Except.ok.inj h ▸ rfl

theorem dispatchInstanceLoadImage_requestClass {body : List UInt8} {instanceId : InstanceId}
    {mutation : Mutation} (h : api.dispatchInstanceLoadImage body instanceId = .ok mutation) :
    mutation.requestClass = .mutation := by
  obtain ⟨decoded, -, h⟩ := bind_eq_ok.mp h
  obtain ⟨_, -, h⟩ := bind_eq_ok.mp h
  obtain ⟨kernelId, -, h⟩ := bind_eq_ok.mp h
  obtain ⟨initrdId, -, h⟩ := bind_eq_ok.mp h
  exact Except.ok.inj h ▸ rfl

/-- The routers agree on the instances. -/
theorem dispatchInstance_agrees (instanceId : InstanceId) (action : Option InstanceAction) :
    Agrees (instanceRoute request.method action)
      (api.dispatchInstance request peer instanceId action) := by
  have hmutation : mutationRoute.requestClass ≠ .console := nofun
  unfold Dispatcher.dispatchInstance
  cases request.method with
  | get =>
      cases action with
      | none => exact .handler _ _ rfl
      | some action => exact .unrouted
  | put | other name => exact .unrouted
  | patch | delete =>
      cases action with
      | none => exact submit_decoded_agrees request peer hmutation fun _ => rfl
      | some action => exact .unrouted
  | post =>
      cases action with
      | none => exact .unrouted
      | some action =>
          cases action with
          | console => exact .console _ rfl
          | load =>
              exact submit_agrees request peer hmutation
                fun _ h => dispatchInstanceLoad_requestClass api h
          | loadImage =>
              exact submit_agrees request peer hmutation
                fun _ h => dispatchInstanceLoadImage_requestClass api h
          | start | stop | unload => exact submit_decoded_agrees request peer hmutation fun _ => rfl

/-- The fallback part of the authorization router. -/
theorem dispatchResource_agrees :
    Agrees (resourceRoute request.method request.path) (api.dispatchResource request peer) := by
  unfold resourceRoute
  unfold Dispatcher.dispatchResource
  cases operationIdFromPath request.path with
  | some id =>
      cases request.method with
      | get | delete => exact .handler _ _ rfl
      | put | post | patch | other name => exact .unrouted
  | none =>
      cases imageResource request.path with
      | some image =>
          cases request.method with
          | get => exact .handler _ _ rfl
          | put | post | patch | delete | other name => exact .unrouted
      | none =>
          cases osImageResource request.path with
          | some id =>
              cases request.method with
              | get => exact .handler _ _ rfl
              | put | post | patch | delete | other name => exact .unrouted
          | none =>
              cases instanceResource request.path with
              | none => exact .unrouted
              | some found => exact dispatchInstance_agrees request peer api found.1 found.2

/-- The two routers agree on every method and path. -/
theorem dispatch_agrees :
    Agrees (routeFor request.method request.path) (api.dispatch request peer) := by
  obtain ⟨method, path, query, requestId, body⟩ := request
  unfold routeFor
  simp only
  split
  case h_10 | h_11 | h_12 | h_13 =>
    exact submit_decoded_agrees _ peer (by decide) fun _ => rfl
  case h_14 =>
    have hdispatch : api.dispatch ⟨method, path, query, requestId, body⟩ peer =
        api.dispatchResource ⟨method, path, query, requestId, body⟩ peer := by
      unfold Dispatcher.dispatch
      simp only
    rw [hdispatch]
    exact dispatchResource_agrees ⟨method, path, query, requestId, body⟩ peer api
  -- the fixed paths that are read
  all_goals exact .handler _ _ rfl

example : routeFor .delete "/1.0/operations/op-7" = some ⟨.mutation, .cancelOperation⟩ := by decide

example : routeFor .post "/1.0/instances/5/console" = some ⟨.console, .attachConsole⟩ := by decide

end Agreement

end HostApi

/-! ### Roles -/

/-- What the policy has checked when it lets a request pass. -/
theorem AuthorizationPolicy.of_authorize_eq_ok {policy : AuthorizationPolicy} {actor : Actor}
    {requestClass : RequestClass} {granted : Role}
    (h : policy.authorize actor requestClass = .ok granted) :
    (requestClass ≠ .readOnly → ∃ role, policy.role actor = some role ∧ .operator ≤ role) ∧
      (requestClass = .administration → policy.role actor = some .administrator) := by
  have hallowed : ∀ {allowed : Bool}, (if allowed then .ok ((policy.role actor).getD .reader)
      else .error forbidden : Except ApiError Role) = .ok granted → allowed = true := by
    intro allowed hok
    split at hok
    · assumption
    · cases hok
  cases requestClass with
  | readOnly => exact ⟨fun hne => absurd rfl hne, nofun⟩
  | mutation | console =>
      obtain ⟨role, hrole, hrank⟩ := (Option.any_eq_true _ _).mp (hallowed h)
      exact ⟨fun _ => ⟨role, hrole, of_decide_eq_true hrank⟩, nofun⟩
  | administration =>
      have hrole := of_decide_eq_true (hallowed h)
      exact ⟨fun _ => ⟨_, hrole, by decide⟩, fun _ => hrole⟩

namespace Transport

/-- A request changes something: a mutation is submitted, an operation cancelled or a console
attached. -/
inductive Changes : Handled → Prop
  | submit (mutation : Mutation) (peer : PeerIdentity) (auditId : Option String) :
      Changes (.dispatched (.handler (.submit mutation peer auditId)))
  | cancel (id : OperationId) : Changes (.dispatched (.handler (.cancel id)))
  | attach (instanceId : InstanceId) : Changes (.prepared (.ok instanceId))

/-- A request imports an image or an OS image. -/
inductive Imports : Handled → Prop
  | image (mutation : ImportImageMutation) (peer : PeerIdentity) (auditId : Option String) :
      Imports (.dispatched (.handler (.submit (.imageImport mutation) peer auditId)))
  | osImage (mutation : ImportOsImageMutation) (peer : PeerIdentity) (auditId : Option String) :
      Imports (.dispatched (.handler (.submit (.osImageImport mutation) peer auditId)))

/-- What a request may do follows from the role of the peer and from the route. -/
structure Authorized (api : Dispatcher) (policy : AuthorizationPolicy) (peer : PeerIdentity)
    (request : HttpRequest) (handled : Handled) : Prop where
  operator : Changes handled → ∃ role, policy.role peer.actor = some role ∧ .operator ≤ role
  administrator : Imports handled → policy.role peer.actor = some .administrator
  readOnly : ∀ {route : RouteSecurity}, routeFor request.method request.path = some route →
    route.requestClass = .readOnly → ¬ Changes handled
  /-- Without a route, whatever the rest of the request, dispatching it finds nothing. -/
  unrouted : routeFor request.method request.path = none → ∀ query requestId body,
    api.dispatch ⟨request.method, request.path, query, requestId, body⟩ peer = .unrouted
  /-- With a route, dispatching it does not end in the fallback. -/
  routed : ∀ {route : RouteSecurity}, routeFor request.method request.path = some route →
    route.requestClass ≠ .console → ∀ query requestId body,
    api.dispatch ⟨request.method, request.path, query, requestId, body⟩ peer ≠ .unrouted

section Authorization

variable {ε : Type} (api : Dispatcher) (refreshed : Except ε HostSnapshot)
  (limiter : ServiceLimiter) (policy : AuthorizationPolicy) (peer : PeerIdentity)
  (maxRequestBytes : ℕ) (request : HttpRequest)

/-- The host API is asked only for a request with a route whose class was authorized. -/
theorem handleRequest_cases {handled : Handled}
    (h : handleRequest api refreshed limiter policy peer maxRequestBytes request = handled) :
    (∃ status error, handled = .refused status error) ∨
      ∃ route role, routeFor request.method request.path = some route ∧
        policy.authorize peer.actor route.requestClass = .ok role ∧
        (route.requestClass = .console ∧ (∃ result, handled = .prepared result) ∨
          ∃ requestId body, handled = .dispatched
            (api.dispatch ⟨request.method, request.path, request.query, requestId, body⟩ peer)) := by
  unfold handleRequest at h
  split at h
  · exact .inl ⟨_, _, h.symm⟩
  · next route hroute =>
      split at h
      · exact .inl ⟨_, _, h.symm⟩
      · next requestId hid =>
          split at h
          · exact .inl ⟨_, _, h.symm⟩
          · next role hrole =>
              split at h
              · next hconsole =>
                  split at h
                  · exact .inr ⟨route, role, hroute, hrole, .inl ⟨hconsole, _, h.symm⟩⟩
                  · exact .inl ⟨_, _, h.symm⟩
              · split at h
                · next body hbody =>
                    split at h
                    · exact .inr ⟨route, role, hroute, hrole, .inr ⟨requestId, body, h.symm⟩⟩
                    · exact .inl ⟨_, _, h.symm⟩
                · exact .inl ⟨_, _, h.symm⟩

/-- A change is made only under a class that is not read-only, and an import only under
administration. -/
theorem requestClass_of_changes {handled : Handled}
    (h : handleRequest api refreshed limiter policy peer maxRequestBytes request = handled)
    (hchanges : Changes handled) :
    ∃ route role, routeFor request.method request.path = some route ∧
      policy.authorize peer.actor route.requestClass = .ok role ∧
      route.requestClass ≠ .readOnly ∧
      (Imports handled → route.requestClass = .administration) := by
  obtain ⟨status, error, rfl⟩ | ⟨route, role, hroute, hrole, hasked⟩ :=
    handleRequest_cases api refreshed limiter policy peer maxRequestBytes request h
  · cases hchanges
  · refine ⟨route, role, hroute, hrole, ?_⟩
    obtain ⟨hconsole, result, rfl⟩ | ⟨requestId, body, rfl⟩ := hasked
    · refine ⟨fun hread => ?_, fun himports => nomatch himports⟩
      exact absurd (hconsole.symm.trans hread) nofun
    · have hagrees := dispatch_agrees
        ⟨request.method, request.path, request.query, requestId, body⟩ peer api
      rw [hroute] at hagrees
      generalize api.dispatch _ peer = result at hagrees hchanges ⊢
      cases hchanges with
      | submit mutation peer auditId =>
          cases hagrees with
          | handler _ _ hclass =>
              rw [← hclass]
              cases mutation with
              | imageImport | osImageImport => exact ⟨nofun, fun _ => rfl⟩
              | lifecycle | resourcePool | managedLoad =>
                  exact ⟨nofun, fun himports => nomatch himports⟩
      | cancel id =>
          cases hagrees with
          | handler _ _ hclass =>
              rw [← hclass]
              exact ⟨nofun, fun himports => nomatch himports⟩

theorem Imports.changes {handled : Handled} (h : Imports handled) : Changes handled := by
  cases h with
  | image mutation peer auditId | osImage mutation peer auditId => exact .submit _ peer auditId

/-- No side effect without the role it needs, for every policy, peer and request. -/
theorem handleRequest_authorized : Authorized api policy peer request
    (handleRequest api refreshed limiter policy peer maxRequestBytes request) where
  operator hchanges := by
    obtain ⟨route, role, -, hrole, hclass, -⟩ :=
      requestClass_of_changes api refreshed limiter policy peer maxRequestBytes request rfl hchanges
    exact (AuthorizationPolicy.of_authorize_eq_ok hrole).1 hclass
  administrator himports := by
    obtain ⟨route, role, -, hrole, -, hclass⟩ := requestClass_of_changes api refreshed limiter
      policy peer maxRequestBytes request rfl himports.changes
    exact (AuthorizationPolicy.of_authorize_eq_ok hrole).2 (hclass himports)
  readOnly hroute hread hchanges := by
    obtain ⟨route, role, hfound, -, hclass, -⟩ :=
      requestClass_of_changes api refreshed limiter policy peer maxRequestBytes request rfl hchanges
    obtain rfl := Option.some.inj (hroute.symm.trans hfound)
    exact hclass hread
  unrouted hroute query requestId body := by
    have hagrees := dispatch_agrees ⟨request.method, request.path, query, requestId, body⟩ peer api
    rw [hroute] at hagrees
    generalize api.dispatch _ peer = result at hagrees ⊢
    cases hagrees
    rfl
  routed hroute hconsole query requestId body := by
    have hagrees := dispatch_agrees ⟨request.method, request.path, query, requestId, body⟩ peer api
    rw [hroute] at hagrees
    generalize api.dispatch _ peer = result at hagrees ⊢
    cases hagrees with
    | console _ h => exact absurd h hconsole
    | rejected | handler => exact nofun

end Authorization

end Transport

end Kernmux.Daemon
