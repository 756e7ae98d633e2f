import IdpyOidc.Client.Construct

/-!
# Authenticating and serializing a request

`get_request_parameters` builds the request with `construct_request`, runs the client
authentication strategy through `get_headers` (which also hands a bearer or DPoP token to
the extra-header hooks), finds the endpoint, and for a POST picks the content type from the
request body type, serializes the request and writes the content type into the headers.

Two mappings on this path are shared with the caller, so they are passed by reference. The
`http_args` a caller hands over goes to the strategy, which fills it in and usually returns it.
The headers are the mapping bound to `headers` in what the strategy returned, or a fresh `{}`;
`get_request_parameters` writes the content type into them and returns them. When the strategy
returned the caller's `http_args`, that write is seen through its `headers` binding.

The strategy is looked up in the service's own registry first and in the client context's
after it; a name in neither raises `Unsupported`. A call whose unpacked keyword arguments
repeat a name the call passes raises CPython's `TypeError` before the callee runs. The
`service=self` argument strategies and hooks receive is not modelled: each is an arbitrary
store program of the data it is given.
-/

namespace IdpyOidc.Client

/-- The strategy `init_authentication_method` runs: the service's own registration of the
name, else the client context's. Both lookups hash the name first. -/
def Service.resolveAuthn (svc : Service) (ctx : Context) (authnMethod : PyVal) :
    Except PyErr AuthnMethod := do
  authnMethod.checkHashable
  match lookupAuthn svc.clientAuthnMethods authnMethod with
  | some f => pure f
  | none =>
    match lookupAuthn ctx.clientAuthnMethods authnMethod with
    | some f => pure f
    | none =>
      let m := authnMethod.pyStr
      .error (.unsupported s!"Unknown client authentication method: {m}")

/-- `init_authentication_method(request, authn_method, http_args, **kwargs)`: a missing
`http_args` is a fresh `{}`. With a method, the chosen strategy's `construct` on it, which
returns the request as it left it and the mapping it returned; without one the request and
`http_args` come back as they are. -/
def Service.initAuthenticationMethod (svc : Service) (ctx : Context) (request : Message)
    (authnMethod : PyVal) (httpArgs : Option Ref) (kwargs : PyDict) : PyM (Message × Ref) := do
  let httpArgs ← match httpArgs with
    | some r => pure r
    | none => PyM.alloc []
  if authnMethod.truthy then
    let f ← PyM.lift (svc.resolveAuthn ctx authnMethod)
    f request httpArgs kwargs
  else pure (request, httpArgs)

/-- `get_authn_header(request, authn_method, **kwargs)`: the headers are a fresh `{}`, or,
with a method, the mapping bound to `headers` in what the strategy returned; a missing key
leaves the `{}`, since only `KeyError` is caught. The request comes back as the strategy left
it. -/
def Service.getAuthnHeader (svc : Service) (ctx : Context) (request : Message)
    (authnMethod : PyVal) (httpArgs : Option Ref) (kwargs : PyDict) :
    PyM (Message × HeadersLoc) := do
  let headers ← PyM.alloc []
  if authnMethod.truthy then
    let (req, hArg) ← svc.initAuthenticationMethod ctx request authnMethod httpArgs kwargs
    let d ← PyM.read hArg
    pure (req, if d.contains "headers" then .entry hArg else .own headers)
  else pure (request, .own headers)

/-- A value that should be a mapping, for the method `meth` called on it. -/
def PyVal.asDict (v : PyVal) (meth : String) : Except PyErr PyDict :=
  match v with
  | .dict d => .ok d
  | v => let t := v.typeName; .error (.attributeError s!"'{t}' object has no attribute '{meth}'")

/-- The headers object itself. A `headers` binding that is gone reads as `None`. -/
def HeadersLoc.get : HeadersLoc → PyM PyVal
  | .own r => do return .dict (← PyM.read r)
  | .entry r => do return ((← PyM.read r).get "headers").getD .none
  | .value v => pure v

/-- `headers.update({key: v})`: a mapping of the store is written in place, and so is the
`headers` binding the headers are read through. -/
def HeadersLoc.update (key : String) (v : PyVal) : HeadersLoc → PyM HeadersLoc
  | .own r => do
    let d ← PyM.read r
    PyM.write r (d.set key v)
    pure (.own r)
  | .entry r => do
    let d ← PyM.read r
    let h ← PyM.lift (((d.get "headers").getD .none).asDict "update")
    PyM.write r (d.set "headers" (.dict (h.set key v)))
    pure (.entry r)
  | .value w => do
    let h ← PyM.lift (w.asDict "update")
    pure (.value (.dict (h.set key v)))

/-- `_authz.split(" ")[1]` for a truthy `Authorization` value that starts with `Bearer` or
`DPoP`: the token the extra-header hooks receive. -/
def bearerToken (authz : PyVal) : Except PyErr (Option PyVal) :=
  if authz.truthy then
    match authz with
    | .str s =>
      if s.startsWith "Bearer" || s.startsWith "DPoP" then
        match (s.splitOn " ").get? 1 with
        | some t => .ok (some (.str t))
        | none => .error (.raised "IndexError" "list index out of range")
      else .ok none
    | v => let t := v.typeName; .error (.attributeError s!"'{t}' object has no attribute 'startswith'")
  else .ok none

/-- `get_headers(request, http_method, authn_method, **kwargs)`: the authentication headers,
then each extra-header hook in order, with the token of a bearer or DPoP `Authorization`
header among the keyword arguments. The call of `get_authn_header` passes `authn_method` and
`authn_endpoint` by name, ahead of the keyword arguments. -/
def Service.getHeaders (svc : Service) (ctx : Context) (request : Message)
    (httpMethod authnMethod : PyVal) (httpArgs : Option Ref) (kwargs : PyDict) :
    PyM (Message × HeadersLoc) := do
  let authnMethod := if authnMethod.truthy then authnMethod else svc.settings.defaultAuthnMethod
  PyM.lift (keywordClash "Service.get_authn_header" ["authn_method", "authn_endpoint"]
    ["request"] kwargs)
  let (req, headers) ← svc.getAuthnHeader ctx request authnMethod httpArgs
    (("authn_endpoint", .str svc.cls.endpointName) :: kwargs)
  let d ← PyM.lift ((← headers.get).asDict "get")
  let token ← PyM.lift (bearerToken ((d.get "Authorization").getD .none))
  let kwargs := match token with
    | some t => kwargs.set "token" t
    | none => kwargs
  let headers ← svc.constructExtraHeaders.foldlM
    (fun h meth => meth ctx h req authnMethod svc.cls.endpointName httpMethod kwargs) headers
  pure (req, headers)

/-- `get_endpoint()`: the class's endpoint, else the provider's for `endpoint_name`. -/
def Service.getEndpoint (svc : Service) (ctx : Context) : Except PyErr PyVal :=
  if svc.cls.endpoint ≠ "" then .ok (.str svc.cls.endpoint)
  else ctx.providerInfo.item svc.cls.endpointName

/-- `kwargs["endpoint"]`, else `get_endpoint()`. -/
def Service.endpointUrl (svc : Service) (ctx : Context) (kwargs : PyDict) : Except PyErr PyVal :=
  match kwargs.get "endpoint" with
  | some e => .ok e
  | none => svc.getEndpoint ctx

/-- `URL_ENCODED`. -/
def urlEncoded : String := "application/x-www-form-urlencoded"

/-- `JOSE_ENCODED`. -/
def joseEncoded : String := "application/jose"

/-- `JSON_ENCODED`. -/
def jsonEncoded : String := "application/json"

/-- The content type `get_request_parameters` gives a body of this request body type. -/
def contentTypeFor (requestBodyType : PyVal) : String :=
  if requestBodyType.eqStr "urlencoded" then urlEncoded
  else if requestBodyType.eqStr "jws" || requestBodyType.eqStr "jwe" ||
      requestBodyType.eqStr "jose" then joseEncoded
  else jsonEncoded

/-- The dictionary `get_request_parameters` returns; `body` and `headers` are present only
when set, and the headers are handed back by reference. -/
structure RequestInfo where
  method : PyVal
  request : Message
  url : PyVal
  body : Option PyVal := none
  headers : Option HeadersLoc := none

/-- `get_request_parameters` once the request is built: headers, endpoint and URL, and for a
POST the body and the content type, written into the headers. The headers are returned when
truthy. The call of `get_headers` passes `http_method` and `authn_method` by name, ahead of
the keyword arguments. -/
def Service.requestInfo (rt : Runtime) (svc : Service) (ctx : Context) (request : Message)
    (method requestBodyType authnMethod : PyVal) (httpArgs : Option Ref) (kwargs : PyDict) :
    PyM RequestInfo := do
  let args := if ctx.issuer.truthy then kwargs.set "iss" ctx.issuer else kwargs
  PyM.lift (keywordClash "Service.get_headers" ["http_method", "authn_method"] ["request"] args)
  let (request, headers) ← svc.getHeaders ctx request method authnMethod httpArgs args
  let endpointUrl ← PyM.lift (svc.endpointUrl ctx kwargs)
  let url ← PyM.lift (rt.httpUrl endpointUrl request method)
  let (body, headers) ← if method.eqStr "POST" then do
      let contentType := contentTypeFor requestBodyType
      let body ← PyM.lift (rt.httpBody request contentType)
      let headers ← headers.update "Content-Type" (.str contentType)
      pure (some body, headers)
    else pure (none, headers)
  let shown ← headers.get
  pure { method := method, request := request, url := url, body := body,
         headers := if shown.truthy then some headers else none }

/-- `get_request_parameters(request_args, method, request_body_type, authn_method, **kwargs)`,
with the mapping of an `http_args` keyword by reference and the other keyword arguments in
`kwargs`. -/
def Service.getRequestParameters (rt : Runtime) (svc : Service) (ctx : Context)
    (requestArgs : Option Ref) (method requestBodyType authnMethod : PyVal)
    (httpArgs : Option Ref) (kwargs : PyDict) : PyM RequestInfo := do
  let method := if method.truthy then method else svc.settings.httpMethod
  let authnMethod := if authnMethod.truthy then authnMethod else svc.settings.defaultAuthnMethod
  let requestBodyType :=
    if requestBodyType.truthy then requestBodyType else svc.settings.requestBodyType
  let request ← svc.constructRequest rt ctx requestArgs kwargs
  svc.requestInfo rt ctx request method requestBodyType authnMethod httpArgs kwargs

/-! ## The registered strategies -/

/-- A strategy that leaves the request and `http_args` as they are. -/
def passThroughAuthn : AuthnMethod := fun m h _ => pure (m, h)

/-- A runtime whose `single_authn_setup` gives `passThroughAuthn` for every name. -/
def basicRuntime : Runtime := { singleAuthnSetup := fun _ => .ok passThroughAuthn }

/-- A token request class whose default authentication method is `client_secret_basic`. -/
def tokenClass : ServiceClass where
  settings :=
    { msgType := .cls (.message "AccessTokenRequest" ["grant_type", "code"])
      responseCls := .cls (.message "AccessTokenResponse" ["access_token"])
      httpMethod := .str "POST"
      defaultAuthnMethod := .str "client_secret_basic" }
  endpointName := "token_endpoint"
  serviceName := "accesstoken"

/-- The service `__init__` builds from `tokenClass` without a configuration. -/
def tokenService : Service where
  cls := tokenClass
  settings := tokenClass.settings
  conf := 0
  defaultRequestArgs := .dict []
  clientAuthnMethods := [(.str "client_secret_basic", passThroughAuthn)]

/-- A key some binding equals is hashable: a list or a dict equals no key. -/
theorem PyVal.checkHashable_of_keyEq {a b : PyVal} (h : a.keyEq b = true) :
    b.checkHashable = .ok () := by
  cases b <;> first | rfl | cases a <;> simp [PyVal.keyEq, PyVal.asKeyInt] at h

/-- A strategy found in a registry was registered there, under a hashable key. -/
theorem lookupAuthn_eq_some {reg : AuthnRegistry} {key : PyVal} {f : AuthnMethod}
    (h : lookupAuthn reg key = some f) : f ∈ reg.map Prod.snd ∧ key.checkHashable = .ok () := by
  obtain ⟨e, he, rfl⟩ := Option.map_eq_some'.mp h
  have hkey : e.1.keyEq key = true := @List.find?_some _ (fun e => e.1.keyEq key) e reg he
  exact ⟨List.mem_map_of_mem _ (List.mem_of_find?_eq_some he), PyVal.checkHashable_of_keyEq hkey⟩

/-- The strategy `init_authentication_method` runs is registered with the service or with the
context. -/
theorem resolveAuthn_mem {svc : Service} {ctx : Context} {v : PyVal} {f : AuthnMethod}
    (h : svc.resolveAuthn ctx v = .ok f) :
    f ∈ (svc.clientAuthnMethods ++ ctx.clientAuthnMethods).map Prod.snd := by
  unfold Service.resolveAuthn at h
  obtain ⟨u, -, h'⟩ := except_bind_eq_ok h
  rw [List.map_append]
  split at h'
  · next hs => cases h'; exact List.mem_append_left _ (lookupAuthn_eq_some hs).1
  · split at h'
    · next hc => cases h'; exact List.mem_append_right _ (lookupAuthn_eq_some hc).1
    · cases h'

/-- A service `__init__` returns resolves a truthy default authentication method to the
strategy of its own registry, whatever the client context registers: a default never raises
`Unsupported`. -/
theorem init_default_authn_resolves {rt : Runtime} {svc : Service} {ctx : Context}
    {cls : ServiceClass} {conf : Option Ref} {s s' : Store}
    (h : (Service.init rt cls conf).run s = .ok svc s')
    (hm : svc.settings.defaultAuthnMethod.truthy) :
    ∃ f, lookupAuthn svc.clientAuthnMethods svc.settings.defaultAuthnMethod = some f ∧
      svc.resolveAuthn ctx svc.settings.defaultAuthnMethod = .ok f := by
  obtain ⟨-, -, -, -, -, -, hreg⟩ := run_init h
  obtain ⟨f, hf⟩ := Option.isSome_iff_exists.mp (hreg hm)
  refine ⟨f, hf, ?_⟩
  simp only [Service.resolveAuthn, (lookupAuthn_eq_some hf).2, hf]
  rfl

/-- The token service registers `client_secret_basic` itself and resolves it with an empty
context. -/
theorem init_default_authn_resolves_basic :
    (Service.init basicRuntime tokenClass none).run (Store.ofList []) =
        .ok tokenService ((Store.ofList []).alloc []).2 ∧
      tokenService.settings.defaultAuthnMethod.truthy ∧
      ∃ f, lookupAuthn tokenService.clientAuthnMethods tokenService.settings.defaultAuthnMethod =
          some f ∧
        tokenService.resolveAuthn {} tokenService.settings.defaultAuthnMethod = .ok f :=
  have h : (Service.init basicRuntime tokenClass none).run (Store.ofList []) =
      .ok tokenService ((Store.ofList []).alloc []).2 := rfl
  have hm : tokenService.settings.defaultAuthnMethod.truthy := rfl
  ⟨h, hm, init_default_authn_resolves h hm⟩

end IdpyOidc.Client
