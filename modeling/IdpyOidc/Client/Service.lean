import IdpyOidc.Client.Store

/-!
# The service object and its construction

`Service` in `idpyoidc/client/service.py` holds the attributes a subclass declares, the six
that `__init__` may take from the configuration, the configuration itself (shared with the
caller, so a reference), the default request arguments and the client authentication
registry. The hook chains are empty after `__init__`; bootstrap code appends to them.

What the service calls but does not define (message classes, cryptojwt, `json`, the client
authentication setup) is a `Runtime`: every theorem quantifies over it, so it holds whatever
those functions do. The client context the service reaches through `upstream_get` is a
`Context`.
-/

namespace IdpyOidc.Client

/-- The `_dict` of a message instance together with the raw token evidence `parse_response`
attaches as `_jws` or `_jwe`. -/
structure Message where
  cls : PyClass
  fields : PyDict
  jws : Option PyVal := none
  jwe : Option PyVal := none

/-- `len(msg) > 0`, Python's truth value of a message. -/
def Message.truthy (m : Message) : Bool := !m.fields.isEmpty

/-- What `parse_response` hands back: a message instance, or a value it passed through. -/
inductive Resp where
  | msg (m : Message)
  | raw (v : PyVal)

/-- Python's truth value of a response. -/
def Resp.truthy : Resp → Bool
  | .msg m => m.truthy
  | .raw v => v.truthy

/-- The key jar: the issuers it holds keys for, and `get_issuer_keys`. -/
structure KeyJar where
  owners : List PyVal
  issuerKeys : PyVal → List PyVal

/-- The keyword arguments of `Message.verify` that `gather_verify_arguments` builds. -/
structure VerifyArgs where
  iss : PyVal
  keyjar : KeyJar
  verify : Bool
  clientId : PyVal
  allowHttp : Bool

/-- The arguments `_do_jwt` gives cryptojwt's `JWT`, and the `iss` it sets on it. -/
structure JwtArgs where
  keyJar : KeyJar
  allowedSignAlgs : PyVal
  allowedEncAlgs : PyVal
  allowedEncEncs : PyVal
  iss : PyVal

/-- A client authentication strategy: `construct(request, service=self, http_args=http_args,
**kwargs)` on the `http_args` mapping, by reference. It may read and write any mapping and
change the request, and returns the request as it left it and the mapping it returned, by
reference (the `http_args` it was handed, or one it made). A strategy that returns anything
else is the strategy raising what subscripting that value raises in `get_authn_header`. -/
abbrev AuthnMethod := Message → Ref → PyDict → PyM (Message × Ref)

/-- A registry of client authentication strategies, keyed as a dict is, by hashable values,
in insertion order. -/
abbrev AuthnRegistry := List (PyVal × AuthnMethod)

/-- `key in registry` and `registry[key]`: the strategy of the first binding whose key equals
`key`. -/
def lookupAuthn (reg : AuthnRegistry) (key : PyVal) : Option AuthnMethod :=
  (reg.find? fun e => e.1.keyEq key).map Prod.snd

/-- The client context, as `upstream_get("context")` and `upstream_get("attribute", ...)`
return it; the defaults describe a context nothing has been registered in. -/
structure Context where
  /-- `collect_usage()`. -/
  usage : PyDict := []
  /-- `map_preferred_to_registered()`. -/
  preferredToRegistered : PyDict := []
  issuer : PyVal := .none
  /-- `get_client_id()`. -/
  clientId : PyVal := .none
  providerInfo : PyDict := []
  clientAuthnMethods : AuthnRegistry := []
  /-- `get_sign_alg(service_name)`. -/
  signAlg : String → PyVal := fun _ => .none
  /-- `get_enc_alg_enc(service_name)`. -/
  encAlgEnc : String → PyDict := fun _ => []
  /-- `upstream_get("attribute", "keyjar")`. -/
  keyjar : KeyJar := ⟨[], fun _ => []⟩
  /-- `upstream_get("attribute", "client_id")`. -/
  attrClientId : PyVal := .none
  /-- `get_preference("callback_uris")`: the mapping of registered callback URIs the context
  keeps and hands out itself, when it has one. -/
  callbackUris : Option Ref := none

/-- The exception a collaborator nobody supplied raises. -/
def unsupplied : PyErr := .raised "NotImplementedError" "collaborator not supplied"

/-- The functions outside `service.py` that the service calls. Each one raises unless
supplied. -/
structure Runtime where
  /-- `cls(**args)` for a message class, rejecting values its schema does not accept. -/
  build : PyClass → PyDict → Except PyErr PyDict := fun _ _ => .error unsupplied
  /-- `cls().deserialize(info, sformat, iss=issuer, **kwargs)`. -/
  deserialize : PyClass → PyVal → String → PyVal → PyDict → Except PyErr PyDict :=
    fun _ _ _ _ _ => .error unsupplied
  /-- `cls().from_jwe(info, keys=keys)`. -/
  fromJwe : PyClass → PyVal → List PyVal → Except PyErr PyDict := fun _ _ _ => .error unsupplied
  /-- `msg.verify(**vargs)`: it raises, or returns with the message's fields as it left them
  (a `verify` may store the claims it checked in the message). -/
  verify : Message → VerifyArgs → Except PyErr PyDict := fun _ _ => .error unsupplied
  /-- cryptojwt's `jws_factory(token)`, by its truth value. -/
  jwsFactory : PyVal → Except PyErr Bool := fun _ => .error unsupplied
  /-- cryptojwt's `jwe_factory(token)`, by its truth value. -/
  jweFactory : PyVal → Except PyErr Bool := fun _ => .error unsupplied
  /-- `JWT(**args).unpack(token)`: check the signature or decrypt, and decode. -/
  jwtUnpack : JwtArgs → PyVal → Except PyErr PyVal := fun _ _ => .error unsupplied
  /-- `json.loads`. -/
  jsonLoads : PyVal → Except PyErr PyVal := fun _ => .error unsupplied
  /-- `get_http_url(url, request, method=method)`. -/
  httpUrl : PyVal → Message → PyVal → Except PyErr PyVal := fun _ _ _ => .error unsupplied
  /-- `get_http_body(request, content_type)`. -/
  httpBody : Message → String → Except PyErr PyVal := fun _ _ => .error unsupplied
  /-- The checks `urlsplit` makes of a network location that is not plain ASCII or holds
  brackets (`_check_bracketed_netloc`, `_checknetloc`). -/
  hostCheck : String → Except PyErr Unit := fun _ => .error unsupplied
  /-- `client_auth_setup(method_to_item(spec))`. -/
  clientAuthSetup : PyVal → Except PyErr AuthnRegistry := fun _ => .error unsupplied
  /-- `single_authn_setup(name, None)`. -/
  singleAuthnSetup : PyVal → Except PyErr AuthnMethod := fun _ => .error unsupplied

/-- The attributes `__init__` may set from the configuration, with their class defaults. -/
structure Settings where
  msgType : PyVal
  responseCls : PyVal
  httpMethod : PyVal := .str "GET"
  requestBodyType : PyVal := .str "urlencoded"
  responseBodyType : PyVal := .str "json"
  defaultAuthnMethod : PyVal := .str ""

/-- The configuration keys `__init__` copies onto the service, in its order. -/
def confParams : List String :=
  ["msg_type", "response_cls", "error_msg", "http_method", "request_body_type",
    "response_body_type", "default_authn_method"]

/-- `setattr(self, param, value)` for one of `confParams`. `error_msg` is read by nothing
this development models, so it is not kept. -/
def Settings.assign (a : Settings) (param : String) (v : PyVal) : Settings :=
  if param = "msg_type" then { a with msgType := v }
  else if param = "response_cls" then { a with responseCls := v }
  else if param = "http_method" then { a with httpMethod := v }
  else if param = "request_body_type" then { a with requestBodyType := v }
  else if param = "response_body_type" then { a with responseBodyType := v }
  else if param = "default_authn_method" then { a with defaultAuthnMethod := v }
  else a

/-- The loop over `confParams` in `__init__`. -/
def Settings.fromConf (a : Settings) (conf : PyDict) : Settings :=
  confParams.foldl (fun a p => match conf.get p with
    | some v => a.assign p v
    | none => a) a

/-- A value of `_supports`: a plain value, or a callable, which `supports()` calls with no
argument; it is represented by what the call returns or raises. -/
inductive SupportValue where
  | value (v : PyVal)
  | callable (result : Except PyErr PyVal)

/-- What `supports()` puts under a key: the value, or what the callable returns. -/
def SupportValue.resolve : SupportValue → Except PyErr PyVal
  | .value v => .ok v
  | .callable result => result

/-- What a subclass of `Service` declares at class level. -/
structure ServiceClass where
  settings : Settings
  endpointName : String := ""
  endpoint : String := ""
  serviceName : String := ""
  /-- `_callback_path`: the path, or the paths, of each callback target. -/
  callbackPath : PyDict := []
  /-- `_supports`: the metadata the service can support. -/
  supports : Dict SupportValue := []
  /-- `_include`: the values `extends` adds to the client's preferences. -/
  includeClaims : PyDict := []
  /-- `post_parse_response(response, state=state)`; the base class returns the response. -/
  postParseResponse : Message → PyVal → Except PyErr Resp := fun m _ => .ok (.msg m)

/-- A pre-construct hook: given the request arguments, the `post_args` accumulator and the
method arguments, it returns the request arguments to go on with, the contribution it
returns (which `do_pre_construct` drops) and the accumulator as it leaves it. -/
abbrev PreConstructHook := Ref → PyDict → PyDict → PyM (Ref × PyVal × PyDict)

/-- A post-construct hook: `meth(request, service=self, **args)`. -/
abbrev PostConstructHook := Message → PyDict → PyM Message

/-- The headers object `get_headers` works on, which `get_request_parameters` updates and
returns: a mapping of the store; the mapping bound to `headers` in a mapping of the store (the
`http_args` a strategy returned, read through its binding); or a value no mapping of the store
holds. -/
inductive HeadersLoc where
  | own (r : Ref)
  | entry (r : Ref)
  | value (v : PyVal)

/-- An extra-header hook: `meth(context, headers=_headers, request=request,
authn_method=..., service_endpoint=..., http_method=..., **kwargs)`, given the headers by
reference and returning the headers to go on with. -/
abbrev ExtraHeaderHook :=
  Context → HeadersLoc → Message → PyVal → String → PyVal → PyDict → PyM HeadersLoc

/-- A service instance. -/
structure Service where
  cls : ServiceClass
  settings : Settings
  conf : Ref
  defaultRequestArgs : PyVal
  clientAuthnMethods : AuthnRegistry
  preConstruct : List PreConstructHook := []
  postConstruct : List PostConstructHook := []
  constructExtraHeaders : List ExtraHeaderHook := []

/-- The last step of `__init__` when a configuration is given: a default authentication
method that is not registered yet gets `single_authn_setup(name, None)`, under the name
itself. The `not in` test hashes the name first. -/
def registerDefaultAuthn (rt : Runtime) (method : PyVal) (methods : AuthnRegistry) :
    Except PyErr AuthnRegistry :=
  if method.truthy then do
    method.checkHashable
    if (lookupAuthn methods method).isSome then pure methods
    else pure (methods ++ [(method, ← rt.singleAuthnSetup method)])
  else pure methods

/-- The client authentication registry `__init__` builds from a configuration. -/
def initAuthnMethods (rt : Runtime) (settings : Settings) (conf : PyDict) :
    Except PyErr AuthnRegistry := do
  let authn := (conf.get "client_authn_methods").getD .none
  let methods ← if authn.truthy then rt.clientAuthSetup authn else pure []
  registerDefaultAuthn rt settings.defaultAuthnMethod methods

/-- The registry without a configuration: only the class's default method, if any. The
assignment calls `single_authn_setup` before it hashes the name. -/
def initEmptyAuthnMethods (rt : Runtime) (method : PyVal) : Except PyErr AuthnRegistry :=
  if method.truthy then do
    let f ← rt.singleAuthnSetup method
    method.checkHashable
    pure [(method, f)]
  else pure []

/-- `conf.get("request_args", {})`. -/
def requestArgsEntry (conf : PyDict) : PyVal := (conf.get "request_args").getD (.dict [])

/-- `self.default_request_args`: a truthy entry, `{}` otherwise. -/
def keptDefaults (v : PyVal) : PyVal := if v.truthy then v else .dict []

/-- `del conf["request_args"]` when the entry is truthy. -/
def moveRequestArgs (r : Ref) (conf : PyDict) : PyM Unit :=
  if (requestArgsEntry conf).truthy then PyM.write r (conf.erase "request_args") else pure ()

/-- The `else` branch of `__init__`: a fresh `self.conf` and the class's default
authentication method. -/
def Service.initEmpty (rt : Runtime) (cls : ServiceClass) : PyM Service := do
  let r ← PyM.alloc []
  let methods ← PyM.lift (initEmptyAuthnMethods rt cls.settings.defaultAuthnMethod)
  return {
    cls := cls, settings := cls.settings, conf := r
    defaultRequestArgs := .dict [], clientAuthnMethods := methods }

/-- `Service.__init__(upstream_get, conf)`. A truthy configuration becomes `self.conf` (the
caller's own mapping); a truthy `request_args` entry is moved out of it into
`default_request_args`. Without a configuration `self.conf` is a fresh `{}`. -/
def Service.init (rt : Runtime) (cls : ServiceClass) : Option Ref → PyM Service
  | some r => do
    let c ← PyM.read r
    if c.isEmpty then Service.initEmpty rt cls else do
    let settings := cls.settings.fromConf c
    moveRequestArgs r c
    let methods ← PyM.lift (initAuthnMethods rt settings c)
    return {
      cls := cls, settings := settings, conf := r
      defaultRequestArgs := keptDefaults (requestArgsEntry c), clientAuthnMethods := methods }
  | none => Service.initEmpty rt cls

/-! ## What `__init__` does to the configuration -/

/-- The `request_args` entry `__init__` reads: `{}` when there is no configuration. -/
def confEntry (s : Store) : Option Ref → PyVal
  | none => .dict []
  | some r => requestArgsEntry (s.read r)

/-- A truthy default authentication method is a key the service's own registry holds. -/
def Service.DefaultAuthnRegistered (svc : Service) : Prop :=
  svc.settings.defaultAuthnMethod.truthy →
    (lookupAuthn svc.clientAuthnMethods svc.settings.defaultAuthnMethod).isSome

/-- A hashable key appended to a registry is found in it. -/
theorem lookupAuthn_append_self (reg : AuthnRegistry) {key : PyVal} (f : AuthnMethod)
    (h : key.checkHashable = .ok ()) : (lookupAuthn (reg ++ [(key, f)]) key).isSome := by
  rw [lookupAuthn, Option.isSome_map', List.find?_isSome]
  exact ⟨(key, f), List.mem_append_right _ (List.mem_singleton_self _), PyVal.keyEq_self h⟩

/-- A default that `register_default_authn` returned from is found in the registry it returns. -/
theorem registerDefaultAuthn_registers {rt : Runtime} {method : PyVal}
    {methods methods' : AuthnRegistry}
    (h : registerDefaultAuthn rt method methods = .ok methods')
    (hm : method.truthy) : (lookupAuthn methods' method).isSome := by
  unfold registerDefaultAuthn at h
  rw [if_pos hm] at h
  obtain ⟨u, hk, h'⟩ := except_bind_eq_ok h
  split at h'
  · next hc => cases h'; exact hc
  · obtain ⟨f, -, hf⟩ := except_bind_eq_ok h'
    cases hf
    exact lookupAuthn_append_self methods f hk

/-- Without a configuration, a truthy default is registered. -/
theorem initEmptyAuthnMethods_registers {rt : Runtime} {method : PyVal}
    {methods : AuthnRegistry} (h : initEmptyAuthnMethods rt method = .ok methods)
    (hm : method.truthy) : (lookupAuthn methods method).isSome := by
  unfold initEmptyAuthnMethods at h
  rw [if_pos hm] at h
  obtain ⟨f, -, h'⟩ := except_bind_eq_ok h
  obtain ⟨u, hk, hf⟩ := except_bind_eq_ok h'
  cases hf
  exact lookupAuthn_append_self [] f hk

/-- With a configuration, a truthy default is registered. -/
theorem initAuthnMethods_registers {rt : Runtime} {settings : Settings} {conf : PyDict}
    {methods : AuthnRegistry} (h : initAuthnMethods rt settings conf = .ok methods)
    (hm : settings.defaultAuthnMethod.truthy) :
    (lookupAuthn methods settings.defaultAuthnMethod).isSome := by
  unfold initAuthnMethods at h
  dsimp only at h
  split at h
  · obtain ⟨base, -, h'⟩ := except_bind_eq_ok h
    exact registerDefaultAuthn_registers h' hm
  · exact registerDefaultAuthn_registers h hm

/-- Moving the request arguments deletes a truthy entry and writes nothing else. -/
theorem run_moveRequestArgs (r : Ref) (c : PyDict) (s : Store) :
    (moveRequestArgs r c).run s =
      .ok () (if (requestArgsEntry c).truthy then s.write r (c.erase "request_args") else s) := by
  unfold moveRequestArgs; split <;> rfl

/-- What `__init__` builds without a configuration. -/
theorem run_initEmpty {rt : Runtime} {cls : ServiceClass} {s s' : Store} {svc : Service}
    (h : (Service.initEmpty rt cls).run s = .ok svc s') :
    svc.cls = cls ∧ svc.conf = s.next ∧ s' = (s.alloc []).2 ∧ svc.defaultRequestArgs = .dict [] ∧
      svc.preConstruct = [] ∧ svc.postConstruct = [] ∧ svc.constructExtraHeaders = [] ∧
      svc.DefaultAuthnRegistered := by
  obtain ⟨r, s₁, h₁, h₁'⟩ := PyM.run_bind_eq_ok _ h
  cases h₁
  obtain ⟨m, s₂, h₂, h₂'⟩ := PyM.run_bind_eq_ok _ h₁'
  obtain ⟨hm, rfl⟩ := PyM.run_lift_eq_ok _ h₂
  cases h₂'
  exact ⟨rfl, rfl, rfl, rfl, rfl, rfl, rfl, initEmptyAuthnMethods_registers hm⟩

/-- What a returned `__init__` did: the hook chains are empty, the default request arguments
are the truthy `request_args` entry or `{}`, a truthy entry was deleted from the caller's
configuration, the service's `self.conf` keeps only a falsy entry, and a truthy default
authentication method is registered. -/
theorem run_init {rt : Runtime} {cls : ServiceClass} {conf : Option Ref} {s s' : Store}
    {svc : Service} (h : (Service.init rt cls conf).run s = .ok svc s') :
    svc.cls = cls ∧ svc.preConstruct = [] ∧ svc.postConstruct = [] ∧
      svc.defaultRequestArgs = keptDefaults (confEntry s conf) ∧
      requestArgsEntry (s'.read svc.conf) =
        (if (confEntry s conf).truthy then .dict [] else confEntry s conf) ∧
      (∀ r, conf = some r → s'.read r = if (confEntry s conf).truthy
        then (s.read r).erase "request_args" else s.read r) ∧ svc.DefaultAuthnRegistered := by
  cases conf with
  | none =>
    obtain ⟨hc, hconf, rfl, hd, hpre, hpost, -, hreg⟩ := run_initEmpty h
    refine ⟨hc, hpre, hpost, hd, ?_, fun r hr => (by cases hr), hreg⟩
    simp [hconf, confEntry, requestArgsEntry, keptDefaults]
  | some r =>
    obtain ⟨c, s₁, h₁, h₁'⟩ := PyM.run_bind_eq_ok _ h
    cases h₁
    by_cases hc : (s.read r).isEmpty
    · have hnil : s.read r = [] := List.isEmpty_iff.mp hc
      simp only [hc, if_true] at h₁'
      obtain ⟨hcl, hconf, rfl, hd, hpre, hpost, -, hreg⟩ := run_initEmpty h₁'
      refine ⟨hcl, hpre, hpost, by simp [hd, confEntry, keptDefaults, requestArgsEntry, hnil],
        by simp [hconf, confEntry, requestArgsEntry, hnil], fun r' hr' => ?_, hreg⟩
      cases hr'
      by_cases hr : r = s.next
      · subst hr; simp [confEntry, requestArgsEntry, hnil]
      · simp [confEntry, requestArgsEntry, hnil, hr]
    · simp only [hc, if_false, Bool.false_eq_true] at h₁'
      obtain ⟨u, s₂, h₂, h₂'⟩ := PyM.run_bind_eq_ok _ h₁'
      rw [run_moveRequestArgs] at h₂
      cases h₂
      obtain ⟨m, s₃, h₃, h₃'⟩ := PyM.run_bind_eq_ok _ h₂'
      obtain ⟨hm, rfl⟩ := PyM.run_lift_eq_ok _ h₃
      cases h₃'
      refine ⟨rfl, rfl, rfl, rfl, ?_, fun r' hr' => ?_, initAuthnMethods_registers hm⟩
      · by_cases ht : (requestArgsEntry (s.read r)).truthy
        · simp only [ht, if_true, confEntry, Store.read_write]
          simp [requestArgsEntry]
        · simp [ht, confEntry]
      · cases hr'
        by_cases ht : (requestArgsEntry (s.read r)).truthy <;> simp [ht, confEntry]

end IdpyOidc.Client
