import IdpyOidc.Client.Frame
import IdpyOidc.Client.Request
import IdpyOidc.Client.CallbackUris
import IdpyOidc.Client.Response

/-!
# A client session

Once `__init__` has returned, a client calls the service in whatever order it needs: it builds
requests (`construct`, `construct_request`, `get_request_parameters`), registers callback URIs
(`construct_uris`) and parses responses (`parse_response`), and it may catch what a call raises
and go on. A session is such a sequence of calls. Its state is the store of shared mappings, and
a call that raised leaves the side effects it made before raising.

Each operation gets its footprint from the rules of the frame module. Building a request adds
at most the `state` key of the request arguments it was passed. Authenticating it changes the
`http_args` mapping the caller handed over, through the strategy and through the content type
written into the headers bound in it, and no other mapping the call did not create.
`construct_uris` adds only the targets it registers in the context's own mapping, and
`parse_response` touches no mapping. A session's footprint is the union of its calls'
footprints, by induction over the calls.

The hooks a client appends and the strategies it registers are arbitrary programs, so what
they may do is an assumption, `Service.StaysWithin`, stated as footprints of their own. A
strategy may change the `http_args` it is handed and hands back that mapping or one it created;
an extra-header hook may change the mappings its headers are read through and hands back
headers read through those or through mappings it created.
-/

namespace IdpyOidc.Client

open PyM

/-! ## Building a request -/

section Construct

variable {P C : Ref → String → Prop} {rt : Runtime} {svc : Service} {ctx : Context}

/-- The `state` line files a key the request arguments lack. -/
theorem keepsBy_injectState (ps : List String) {r : Ref} (kwargs : PyDict) (hP : P r "state") :
    KeepsBy P C (injectState ps r kwargs) := by
  intro s
  rw [run_injectState, after_ok]
  unfold stateStore
  split
  · next h => exact Store.extendsBy_write_set _ hP ((Dict.contains_eq_false _ _).mp h.2.2)
  · exact Store.ExtendsBy.refl P C s

/-- One pre-construct hook, within the footprints it keeps to. -/
theorem keepsBy_preConstructStep {meth : PreConstructHook} {args : PyDict}
    (h : ∀ ra acc, KeepsBy P C (meth ra acc args)) (acc : Ref × PyDict) :
    KeepsBy P C (preConstructStep args acc meth) :=
  keepsBy_bind (h _ _) fun ⟨_, _, _⟩ => keepsBy_pure _

/-- `do_pre_construct` does what its hooks do. -/
theorem keepsBy_doPreConstruct
    (hpre : ∀ hook ∈ svc.preConstruct, ∀ ra acc args, KeepsBy P C (hook ra acc args))
    (r : Ref) (kwargs : PyDict) : KeepsBy P C (svc.doPreConstruct r kwargs) :=
  keepsBy_bind (keepsBy_read _) fun _ => keepsBy_bind (keepsBy_lift _) fun _ =>
    keepsBy_foldlM (fun hook hm => keepsBy_preConstructStep (hpre hook hm · · _)) _

/-- Without pre-construct hooks the request arguments come back as they went in. -/
theorem returns_doPreConstruct_nil (hpre : svc.preConstruct = []) (r : Ref) (kwargs : PyDict) :
    Returns (svc.doPreConstruct r kwargs) fun _ a => a.1 = r := by
  intro s a s' h
  rw [run_doPreConstruct_nil hpre] at h
  split at h <;> cases h
  rfl

/-- `do_post_construct` does what its hooks do. -/
theorem keepsBy_doPostConstruct
    (hpost : ∀ hook ∈ svc.postConstruct, ∀ m args, KeepsBy P C (hook m args))
    (m : Message) (kwargs : PyDict) : KeepsBy P C (svc.doPostConstruct m kwargs) :=
  keepsBy_bind (keepsBy_read _) fun _ => keepsBy_bind (keepsBy_lift _) fun _ =>
    keepsBy_foldlM (fun hook hm req => hpost hook hm req _) _

/-- `construct` up to `msg_type`, on the caller's request arguments: the pre-construct hooks,
then the `state` line on the mapping they handed back. -/
theorem keepsBy_constructArgs_some {R : Ref} {kwargs : PyDict}
    (hdo : KeepsBy P C (svc.doPreConstruct R kwargs))
    (hst : Returns (svc.doPreConstruct R kwargs) fun _ a => P a.1 "state") :
    KeepsBy P C (svc.constructArgs ctx (some R) kwargs) := by
  unfold Service.constructArgs
  dsimp only
  rw [pure_bind]
  refine keepsBy_bind_of_returns hdo hst fun _ ⟨r, _⟩ hr => ?_
  refine keepsBy_bind (keepsBy_lift _) fun ps => keepsBy_bind (keepsBy_injectState ps kwargs
    (.inl hr)) fun _ => ?_
  exact keepsBy_bind (keepsBy_read _) fun _ => keepsBy_bind (keepsBy_read _) fun _ =>
    keepsBy_bind (keepsBy_lift _) fun _ => keepsBy_pure _

/-- Without request arguments, `construct` works on a fresh `{}`. -/
theorem constructArgs_none (kwargs : PyDict) :
    svc.constructArgs ctx none kwargs =
      PyM.alloc [] >>= fun R => svc.constructArgs ctx (some R) kwargs := rfl

/-- `construct`: the arguments, the message class, and the post-construct hooks. -/
theorem keepsBy_construct {requestArgs : Option Ref} {kwargs : PyDict}
    (hargs : KeepsBy P C (svc.constructArgs ctx requestArgs kwargs))
    (hpost : ∀ hook ∈ svc.postConstruct, ∀ m args, KeepsBy P C (hook m args)) :
    KeepsBy P C (svc.construct rt ctx requestArgs kwargs) := by
  unfold Service.construct
  refine keepsBy_bind hargs fun ⟨args, postArgs⟩ => keepsBy_bind (keepsBy_lift _) fun req => ?_
  dsimp only
  split <;> refine keepsBy_bind ?_ fun post => keepsBy_doPostConstruct hpost req post
  exacts [keepsBy_lift _, keepsBy_pure _]

/-- Without request arguments, `construct` works on a fresh `{}`. -/
theorem construct_none (kwargs : PyDict) :
    svc.construct rt ctx none kwargs =
      PyM.alloc [] >>= fun R => svc.construct rt ctx (some R) kwargs := by
  unfold Service.construct
  rw [constructArgs_none, bind_assoc]

/-- `construct_request` is `construct`: both stand a fresh `{}` in for missing arguments. -/
theorem constructRequest_eq_construct (requestArgs : Option Ref) (kwargs : PyDict) :
    svc.constructRequest rt ctx requestArgs kwargs = svc.construct rt ctx requestArgs kwargs := by
  cases requestArgs with
  | none => exact (construct_none kwargs).symm
  | some R => rfl

/-- A service without hooks files at most the `state` of the request arguments it is
passed: a fresh `{}` is its own. -/
theorem keepsBy_construct_touches (hpre : svc.preConstruct = []) (hpost : svc.postConstruct = [])
    (ra : Option Ref) (kwargs : PyDict) :
    KeepsBy (fun r k => ra = some r ∧ k = "state") (fun _ _ => False)
      (svc.construct rt ctx ra kwargs) := by
  have hsome : ∀ {P : Ref → String → Prop} R, P R "state" →
      KeepsBy P (fun _ _ => False) (svc.construct rt ctx (some R) kwargs) := fun {P} R hP =>
    keepsBy_construct (keepsBy_constructArgs_some (keepsBy_doPreConstruct (by simp [hpre]) R kwargs)
      ((returns_doPreConstruct_nil hpre R kwargs).mono fun _ a ha => ha ▸ hP)) (by simp [hpost])
  cases ra with
  | none => exact construct_none kwargs ▸ keepsBy_alloc_bind fun R =>
      (hsome R (.inr rfl)).mono (fun _ _ h => h) fun _ _ h => .inl h
  | some R => exact hsome R ⟨rfl, rfl⟩

/-- With hooks that add bindings anywhere but change only `C`, so does building a request. -/
theorem keepsBy_construct_of_hooks
    (hpre : ∀ hook ∈ svc.preConstruct, ∀ ra acc args,
      KeepsBy (fun _ _ => True) C (hook ra acc args))
    (hpost : ∀ hook ∈ svc.postConstruct, ∀ m args, KeepsBy (fun _ _ => True) C (hook m args))
    (ra : Option Ref) (kwargs : PyDict) :
    KeepsBy (fun _ _ => True) C (svc.construct rt ctx ra kwargs) := by
  have hsome : ∀ R, KeepsBy (fun _ _ => True) C (svc.construct rt ctx (some R) kwargs) :=
    fun R => keepsBy_construct (keepsBy_constructArgs_some (keepsBy_doPreConstruct hpre R kwargs)
      fun _ _ _ _ => trivial) hpost
  cases ra with
  | none => exact construct_none kwargs ▸
      keepsBy_alloc_bind fun R => (hsome R).mono (fun _ _ h => .inl h) fun _ _ h => .inl h
  | some R => exact hsome R

end Construct

/-! ## Authenticating a request -/

/-- The mappings a headers object is read through. -/
def HeadersLoc.refs : HeadersLoc → Ref → Prop
  | .own r, r' => r' = r
  | .entry r, r' => r' = r
  | .value _, _ => False

/-- A strategy that adds bindings only within `P`, changes only the `http_args` mapping it is
handed and mappings within `C`, and hands back that mapping or one it created. -/
def AuthnMethod.StaysWithin (P C : Ref → String → Prop) (f : AuthnMethod) : Prop :=
  ∀ m A kw, KeepsBy P (fun r k => C r k ∨ r = A) (f m A kw) ∧
    Returns (f m A kw) fun s a => a.2 = A ∨ s.next ≤ a.2

/-- An extra-header hook that adds bindings only within `P`, changes only the mappings its
headers are read through and mappings within `C`, and hands back headers read through those
mappings or through ones it created. -/
def ExtraHeaderHook.StaysWithin (P C : Ref → String → Prop) (hook : ExtraHeaderHook) : Prop :=
  ∀ ctx h m am ep hm kw, KeepsBy P (fun r k => C r k ∨ h.refs r) (hook ctx h m am ep hm kw) ∧
    Returns (hook ctx h m am ep hm kw) fun s h' => ∀ r, h'.refs r → h.refs r ∨ s.next ≤ r

/-- The hooks a client appended to a service, and the strategies registered with the service
and its context, stay within the footprints `P` and `C`. -/
structure Service.StaysWithin (svc : Service) (ctx : Context) (P C : Ref → String → Prop) :
    Prop where
  pre : ∀ hook ∈ svc.preConstruct, ∀ ra acc args, KeepsBy P C (hook ra acc args)
  post : ∀ hook ∈ svc.postConstruct, ∀ m args, KeepsBy P C (hook m args)
  extra : ∀ hook ∈ svc.constructExtraHeaders, hook.StaysWithin P C
  authn : ∀ f ∈ (svc.clientAuthnMethods ++ ctx.clientAuthnMethods).map Prod.snd,
    f.StaysWithin P C

section Authn

variable {P C : Ref → String → Prop} {svc : Service} {ctx : Context}

/-- Reading the headers only reads. -/
theorem readsOnly_headersGet (h : HeadersLoc) : ReadsOnly h.get :=
  fun _ => by cases h <;> rfl

/-- `headers.update(...)` writes only the mapping the headers are read through. -/
theorem keepsBy_headersUpdate (key : String) (v : PyVal) (h : HeadersLoc) :
    KeepsBy P (fun r _ => h.refs r) (h.update key v) := by
  cases h with
  | own r =>
    exact keepsBy_bind (keepsBy_read _) fun _ => keepsBy_bind (keepsBy_write (fun _ => rfl) _)
      fun _ => keepsBy_pure _
  | entry r =>
    exact keepsBy_bind (keepsBy_read _) fun _ => keepsBy_bind (keepsBy_lift _) fun _ =>
      keepsBy_bind (keepsBy_write (fun _ => rfl) _) fun _ => keepsBy_pure _
  | value w => exact keepsBy_bind (keepsBy_lift _) fun _ => keepsBy_pure _

/-- `init_authentication_method` changes at most the `http_args` the caller handed over, and
returns that mapping or one created during the call. -/
theorem initAuthenticationMethod_within
    (hauthn : ∀ f ∈ (svc.clientAuthnMethods ++ ctx.clientAuthnMethods).map Prod.snd,
      f.StaysWithin P C)
    (request : Message) (authnMethod : PyVal) (httpArgs : Option Ref) (kwargs : PyDict) :
    KeepsBy P (fun r k => C r k ∨ httpArgs = some r)
        (svc.initAuthenticationMethod ctx request authnMethod httpArgs kwargs) ∧
      Returns (svc.initAuthenticationMethod ctx request authnMethod httpArgs kwargs)
        fun s a => httpArgs = some a.2 ∨ s.next ≤ a.2 := by
  -- the strategy, run on the mapping `A`
  have hrun : ∀ A : Ref,
      KeepsBy P (fun r k => C r k ∨ r = A) (if authnMethod.truthy then
        PyM.lift (svc.resolveAuthn ctx authnMethod) >>= fun f => f request A kwargs
        else pure (request, A)) ∧
      Returns (if authnMethod.truthy then
        PyM.lift (svc.resolveAuthn ctx authnMethod) >>= fun f => f request A kwargs
        else pure (request, A)) fun s a => a.2 = A ∨ s.next ≤ a.2 := fun A => by
    split
    · refine keepsBy_returns_bind ⟨keepsBy_lift _, returns_lift _⟩ fun s f hf => ?_
      obtain ⟨hk, hr⟩ := hauthn f (resolveAuthn_mem hf) request A kwargs
      exact ⟨hk.mono (fun _ _ => .inl) fun _ _ => .inl,
        hr.mono fun _ a ha hle => ha.imp_right hle.trans⟩
    · exact ⟨keepsBy_pure _, (returns_pure _).mono fun _ a ha => .inl (ha ▸ rfl)⟩
  unfold Service.initAuthenticationMethod
  cases httpArgs with
  | some A =>
    refine keepsBy_returns_bind ⟨keepsBy_pure A, returns_pure A⟩ fun s r hr => ?_
    subst hr
    exact ⟨(hrun r).1.mono (fun _ _ => .inl) fun _ _ h => .inl (h.imp_right
      fun e => congrArg some e.symm), (hrun r).2.mono fun _ a ha hle =>
        ha.imp (fun e => congrArg some e.symm) hle.trans⟩
  | none =>
    refine keepsBy_returns_bind ⟨keepsBy_alloc _, returns_alloc _⟩ fun s r hr => ?_
    exact ⟨(hrun r).1.mono (fun _ _ => .inl) fun _ _ h => h.imp .inl fun e => (e.trans hr).ge,
      (hrun r).2.mono fun _ a ha hle => .inr (ha.elim (fun e => (e.trans hr).ge) hle.trans)⟩

/-- `get_authn_header` changes at most the caller's `http_args`, and hands back headers read
through it or through a mapping created during the call. -/
theorem getAuthnHeader_within
    (hauthn : ∀ f ∈ (svc.clientAuthnMethods ++ ctx.clientAuthnMethods).map Prod.snd,
      f.StaysWithin P C)
    (request : Message) (authnMethod : PyVal) (httpArgs : Option Ref) (kwargs : PyDict) :
    KeepsBy P (fun r k => C r k ∨ httpArgs = some r)
        (svc.getAuthnHeader ctx request authnMethod httpArgs kwargs) ∧
      Returns (svc.getAuthnHeader ctx request authnMethod httpArgs kwargs)
        fun s a => ∀ r, a.2.refs r → httpArgs = some r ∨ s.next ≤ r := by
  unfold Service.getAuthnHeader
  refine keepsBy_returns_bind ⟨keepsBy_alloc _, returns_alloc _⟩ fun s h hh => ?_
  split
  · obtain ⟨hk, hr⟩ := initAuthenticationMethod_within hauthn request authnMethod httpArgs kwargs
    refine keepsBy_returns_bind ⟨hk.mono (fun _ _ => .inl) fun _ _ => .inl, hr⟩
      fun s₁ ⟨req, hArg⟩ ha => ⟨keepsBy_bind (keepsBy_read _) fun _ => keepsBy_pure _,
        returns_bind_of_readsOnly (readsOnly_read _) fun d => (returns_pure _).mono ?_⟩
    rintro _ b rfl - hle r hr'
    dsimp only at hr'
    split at hr' <;> simp only [HeadersLoc.refs] at hr' <;> subst hr'
    · exact ha.imp_right hle.trans
    · exact .inr hh.ge
  · refine ⟨keepsBy_pure _, (returns_pure _).mono ?_⟩
    rintro _ b rfl - r hr'
    simp only [HeadersLoc.refs] at hr'
    subst hr'
    exact .inr hh.ge

/-- The extra-header hooks, in turn, change at most the mappings the headers are read through
and hand back headers read through those or through mappings they created. -/
theorem foldExtraHeaders_within {hooks : List ExtraHeaderHook}
    (hextra : ∀ hook ∈ hooks, hook.StaysWithin P C) (ctx : Context) (req : Message)
    (am : PyVal) (ep : String) (hm : PyVal) (kw : PyDict) (init : HeadersLoc) :
    KeepsBy P (fun r k => C r k ∨ init.refs r)
        (hooks.foldlM (fun h meth => meth ctx h req am ep hm kw) init) ∧
      Returns (hooks.foldlM (fun h meth => meth ctx h req am ep hm kw) init)
        fun s h' => ∀ r, h'.refs r → init.refs r ∨ s.next ≤ r :=
  keepsBy_foldlM_refs (fun hook hmem b => hextra hook hmem ctx b req am ep hm kw) init

/-- `get_headers` changes at most the caller's `http_args`, and hands back headers read
through it or through a mapping created during the call. -/
theorem getHeaders_within
    (hauthn : ∀ f ∈ (svc.clientAuthnMethods ++ ctx.clientAuthnMethods).map Prod.snd,
      f.StaysWithin P C)
    (hextra : ∀ hook ∈ svc.constructExtraHeaders, hook.StaysWithin P C)
    (request : Message) (httpMethod authnMethod : PyVal) (httpArgs : Option Ref)
    (kwargs : PyDict) :
    KeepsBy P (fun r k => C r k ∨ httpArgs = some r)
        (svc.getHeaders ctx request httpMethod authnMethod httpArgs kwargs) ∧
      Returns (svc.getHeaders ctx request httpMethod authnMethod httpArgs kwargs)
        fun s a => ∀ r, a.2.refs r → httpArgs = some r ∨ s.next ≤ r := by
  unfold Service.getHeaders
  refine keepsBy_returns_bind ⟨keepsBy_lift _, returns_lift _⟩ fun s _ _ => ?_
  obtain ⟨hk, hr⟩ := getAuthnHeader_within hauthn request
    (if authnMethod.truthy then authnMethod else svc.settings.defaultAuthnMethod) httpArgs
    (("authn_endpoint", .str svc.cls.endpointName) :: kwargs)
  refine keepsBy_returns_bind ⟨hk.mono (fun _ _ => .inl) fun _ _ => .inl, hr⟩
    fun s₁ ⟨req, loc⟩ hloc => ⟨?_, ?_⟩
  · refine keepsBy_bind (keepsBy_of_readsOnly (readsOnly_headersGet loc)) fun _ =>
      keepsBy_bind (keepsBy_lift _) fun _ => keepsBy_bind (keepsBy_lift _) fun _ =>
        keepsBy_bind ((foldExtraHeaders_within hextra ctx req _ _ _ _ loc).1.mono
          (fun _ _ h => .inl (.inl h)) fun r _ h => ?_) fun _ => keepsBy_pure _
    rcases h with h | h
    · exact .inl (.inl (.inl h))
    · exact (hloc r h).elim (fun h' => .inl (.inl (.inr h'))) .inr
  · refine returns_bind_of_readsOnly (readsOnly_headersGet loc) fun _ =>
      returns_bind_of_readsOnly (readsOnly_lift _) fun _ =>
        returns_bind_of_readsOnly (readsOnly_lift _) fun _ =>
          returns_bind (foldExtraHeaders_within hextra ctx req _ _ _ _ loc).1
            (foldExtraHeaders_within hextra ctx req _ _ _ _ loc).2 fun _ h hh =>
              (returns_pure _).mono ?_
    rintro _ b rfl - hle₃ hle₁ r hr'
    rcases hh r hr' with h₁ | h₁
    · exact (hloc r h₁).imp_right hle₁.trans
    · exact .inr (hle₁.trans (hle₃.trans h₁))

/-- Once the request is built, `get_request_parameters` changes at most the caller's
`http_args`: the strategy works on it, and the content type of a POST is written into headers
read through it or through a mapping the call created. -/
theorem requestInfo_within
    (hauthn : ∀ f ∈ (svc.clientAuthnMethods ++ ctx.clientAuthnMethods).map Prod.snd,
      f.StaysWithin P C)
    (hextra : ∀ hook ∈ svc.constructExtraHeaders, hook.StaysWithin P C) (rt : Runtime)
    (request : Message) (method requestBodyType authnMethod : PyVal) (httpArgs : Option Ref)
    (kwargs : PyDict) :
    KeepsBy P (fun r k => C r k ∨ httpArgs = some r)
      (svc.requestInfo rt ctx request method requestBodyType authnMethod httpArgs kwargs) := by
  unfold Service.requestInfo
  refine keepsBy_bind (keepsBy_lift _) fun _ => ?_
  obtain ⟨hk, hr⟩ := getHeaders_within hauthn hextra request method authnMethod httpArgs
    (if ctx.issuer.truthy then kwargs.set "iss" ctx.issuer else kwargs)
  refine keepsBy_bind_of_returns hk hr fun s ⟨req, loc⟩ hloc => ?_
  refine keepsBy_bind (keepsBy_lift _) fun _ => keepsBy_bind (keepsBy_lift _) fun _ => ?_
  -- the answer is read off the headers once the body is settled
  have hinfo : ∀ {x : PyM (Option PyVal × HeadersLoc)},
      KeepsBy (fun r k => P r k ∨ s.next ≤ r) (fun r k => (C r k ∨ httpArgs = some r) ∨ s.next ≤ r) x →
      ∀ url, KeepsBy (fun r k => P r k ∨ s.next ≤ r)
        (fun r k => (C r k ∨ httpArgs = some r) ∨ s.next ≤ r) (x >>= fun y => y.2.get >>= fun shown =>
          pure (RequestInfo.mk method req url y.1 (if shown.truthy then some y.2 else none))) :=
    fun hx _ =>
    keepsBy_bind hx fun _ => keepsBy_bind (keepsBy_of_readsOnly (readsOnly_headersGet _)) fun _ =>
      keepsBy_pure _
  dsimp only
  split
  · exact keepsBy_bind (keepsBy_lift _) fun _ => keepsBy_bind ((keepsBy_headersUpdate _ _ loc).mono
      (fun _ _ => .inl) fun r _ h => (hloc r h).imp .inr id) fun _ => hinfo (keepsBy_pure _) _
  · exact hinfo (keepsBy_pure _) _

end Authn

/-! ## Registering callback URIs -/

section Callbacks

variable {C : Ref → String → Prop} {cls : ServiceClass} {baseUrl hex : String}

/-- One pass of the loop files the target it visits, in the mapping it works on, or nothing. -/
theorem keepsBy_registerCallbackUri (r : Ref) (uri : String) :
    KeepsBy (fun r' k => r' = r ∧ k = uri) C (registerCallbackUri cls baseUrl hex r uri) := by
  intro s
  rw [run_registerCallbackUri]
  split
  · exact Store.ExtendsBy.refl _ _ s
  · next hc =>
    split
    · exact Store.extendsBy_write_set _ ⟨rfl, rfl⟩
        ((Dict.contains_eq_false _ _).mp (Bool.eq_false_iff.mpr hc))
    · exact Store.ExtendsBy.refl _ _ s

/-- `construct_uris` files only the targets of the call, and only in the context's own mapping:
a fresh mapping is the call's own. -/
theorem keepsBy_constructUris (svc : Service) (ctx : Context) (targets : List String) :
    KeepsBy (fun r k => ctx.callbackUris = some r ∧ k ∈ svc.cls.callbackTargets targets) C
      (svc.constructUris ctx baseUrl hex targets) := by
  unfold Service.constructUris
  dsimp only
  split
  · exact keepsBy_alloc _
  · have hloop : ∀ r, KeepsBy (fun r' k => r' = r ∧ k ∈ svc.cls.callbackTargets targets) C
        ((svc.cls.callbackTargets targets).forM (registerCallbackUri svc.cls baseUrl hex r)) :=
      fun r => keepsBy_forM fun uri hu =>
        (keepsBy_registerCallbackUri r uri).mono (fun _ _ ⟨hr, hk⟩ => ⟨hr, hk ▸ hu⟩) fun _ _ => id
    unfold preferredCallbackUris
    cases hc : ctx.callbackUris with
    | some R =>
      dsimp only
      rw [pure_bind]
      exact keepsBy_bind ((hloop R).mono (fun _ _ ⟨hr, hk⟩ => ⟨hr ▸ rfl, hk⟩) fun _ _ => id)
        fun _ => keepsBy_pure _
    | none =>
      exact keepsBy_alloc_bind fun r => keepsBy_bind ((hloop r).mono (fun _ _ ⟨hr, _⟩ => .inr hr)
        fun _ _ => .inl) fun _ => keepsBy_pure _

end Callbacks

/-! ## Sessions -/

/-- A call a client makes on the service once `__init__` has returned. -/
inductive Call where
  /-- `construct(request_args, **kwargs)`. -/
  | construct (requestArgs : Option Ref) (kwargs : PyDict)
  /-- `construct_request(request_args, **kwargs)`. -/
  | constructRequest (requestArgs : Option Ref) (kwargs : PyDict)
  /-- `get_request_parameters(request_args, method, request_body_type, authn_method,
  http_args=..., **kwargs)`. -/
  | getRequestParameters (requestArgs : Option Ref) (method requestBodyType authnMethod : PyVal)
      (httpArgs : Option Ref) (kwargs : PyDict)
  /-- `construct_uris(base_url, hex, context, targets)`. -/
  | constructUris (baseUrl hex : String) (targets : List String)
  /-- `parse_response(info, sformat, state, **kwargs)`. -/
  | parseResponse (info : PyVal) (sformat : String) (state : PyVal) (kwargs : PyDict)

namespace Call

/-- The call, with its result dropped. -/
def run (rt : Runtime) (svc : Service) (ctx : Context) : Call → PyM Unit
  | construct ra kwargs => do
    let _ ← svc.construct rt ctx ra kwargs
    pure ()
  | constructRequest ra kwargs => do
    let _ ← svc.constructRequest rt ctx ra kwargs
    pure ()
  | getRequestParameters ra method requestBodyType authnMethod httpArgs kwargs => do
    let _ ← svc.getRequestParameters rt ctx ra method requestBodyType authnMethod httpArgs kwargs
    pure ()
  | constructUris baseUrl hex targets => do
    let _ ← svc.constructUris ctx baseUrl hex targets
    pure ()
  | parseResponse info sformat state kwargs => do
    let _ ← PyM.lift (svc.parseResponse rt ctx info sformat state kwargs)
    pure ()

/-- The request arguments a call passes, if any. -/
def requestArgs : Call → Option Ref
  | construct ra _ | constructRequest ra _ | getRequestParameters ra _ _ _ _ _ => ra
  | constructUris .. | parseResponse .. => none

/-- The `http_args` mapping a call hands over, if any. -/
def httpArgs : Call → Option Ref
  | getRequestParameters _ _ _ _ h _ => h
  | _ => none

/-- Where a call may add a key to a mapping it did not create: the `state` of the request
arguments it passes, or a callback target it registers in the context's own mapping. -/
def touches (svc : Service) (ctx : Context) : Call → Ref → String → Prop
  | constructUris _ _ targets, r, k =>
    ctx.callbackUris = some r ∧ k ∈ svc.cls.callbackTargets targets
  | c, r, k => c.requestArgs = some r ∧ k = "state"

end Call

/-- The store after the client made `calls` in turn, going on past any that raised. -/
def Service.session (rt : Runtime) (svc : Service) (ctx : Context) : List Call → Store → Store
  | [], s => s
  | c :: calls, s => svc.session rt ctx calls (after ((c.run rt svc ctx).run s))

section Session

variable {rt : Runtime} {svc : Service} {ctx : Context}

/-- A session stays within footprints every one of its calls stays within. -/
theorem extendsBy_session {P C : Ref → String → Prop} {calls : List Call}
    (h : ∀ c ∈ calls, KeepsBy P C (c.run rt svc ctx)) (s : Store) :
    Store.ExtendsBy P C s (svc.session rt ctx calls s) := by
  induction calls generalizing s with
  | nil => exact .refl P C s
  | cons c calls ih =>
    exact (h c (List.mem_cons_self c calls) s).trans
      (ih (fun c' hc' => h c' (List.mem_cons_of_mem c hc')) _)

/-- `get_request_parameters` builds the request, then changes at most the `http_args` the
caller handed over. -/
theorem keepsBy_getRequestParameters {P C : Ref → String → Prop} {ra : Option Ref}
    {method requestBodyType authnMethod : PyVal} {httpArgs : Option Ref} {kwargs : PyDict}
    (hc : KeepsBy P C (svc.construct rt ctx ra kwargs))
    (hextra : ∀ hook ∈ svc.constructExtraHeaders, hook.StaysWithin P C)
    (hauthn : ∀ f ∈ (svc.clientAuthnMethods ++ ctx.clientAuthnMethods).map Prod.snd,
      f.StaysWithin P C) :
    KeepsBy P (fun r k => C r k ∨ httpArgs = some r)
      (svc.getRequestParameters rt ctx ra method requestBodyType authnMethod httpArgs kwargs) :=
  keepsBy_bind ((constructRequest_eq_construct ra kwargs ▸ hc).mono (fun _ _ => id)
    fun _ _ => .inl) fun _ => requestInfo_within hauthn hextra _ _ _ _ _ _ _

/-- Each call of a service without hooks, whose strategies change only the `http_args` they
are handed, stays within what it touches and the `http_args` it passes. -/
theorem Call.keepsBy_touches (hpre : svc.preConstruct = []) (hpost : svc.postConstruct = [])
    (hextra : svc.constructExtraHeaders = [])
    (hauthn : ∀ f ∈ (svc.clientAuthnMethods ++ ctx.clientAuthnMethods).map Prod.snd,
      f.StaysWithin (fun _ _ => False) (fun _ _ => False)) (c : Call) :
    KeepsBy (c.touches svc ctx) (fun r _ => c.httpArgs = some r) (c.run rt svc ctx) := by
  have hconstruct : ∀ ra kwargs, KeepsBy (fun r k => ra = some r ∧ k = "state")
      (fun _ _ => False) (svc.construct rt ctx ra kwargs) :=
    keepsBy_construct_touches hpre hpost
  cases c <;> refine keepsBy_bind ?_ fun _ => keepsBy_pure ()
  case construct ra kwargs => exact (hconstruct ra kwargs).mono (fun _ _ => id) fun _ _ => False.elim
  case constructRequest ra kwargs =>
    exact (constructRequest_eq_construct ra kwargs ▸ hconstruct ra kwargs).mono
      (fun _ _ => id) fun _ _ => False.elim
  case getRequestParameters ra _ _ _ _ kwargs =>
    have hauthn' : ∀ f ∈ (svc.clientAuthnMethods ++ ctx.clientAuthnMethods).map Prod.snd,
        f.StaysWithin (fun r k => ra = some r ∧ k = "state") (fun _ _ => False) :=
      fun f hf m A kw => ⟨(hauthn f hf m A kw).1.mono (fun _ _ => False.elim) fun _ _ => id,
        (hauthn f hf m A kw).2⟩
    exact (keepsBy_getRequestParameters (hconstruct ra kwargs) (by simp [hextra]) hauthn').mono
      (fun _ _ => id) fun _ _ h => h.resolve_left id
  case constructUris => exact keepsBy_constructUris svc ctx _
  case parseResponse => exact keepsBy_lift _

/-- Each call of a service whose hooks and strategies never drop or reassign a binding, beyond
the mappings they are allowed to change, never does either outside the `http_args` it passes. -/
theorem Call.keepsBy_of_hooks (h : svc.StaysWithin ctx (fun _ _ => True) (fun _ _ => False))
    (c : Call) :
    KeepsBy (fun _ _ => True) (fun r _ => c.httpArgs = some r) (c.run rt svc ctx) := by
  have hconstruct : ∀ ra kwargs,
      KeepsBy (fun _ _ => True) (fun _ _ => False) (svc.construct rt ctx ra kwargs) :=
    keepsBy_construct_of_hooks h.pre h.post
  cases c <;> refine keepsBy_bind ?_ fun _ => keepsBy_pure ()
  case construct ra kwargs => exact (hconstruct ra kwargs).mono (fun _ _ => id) fun _ _ => False.elim
  case constructRequest ra kwargs =>
    exact (constructRequest_eq_construct ra kwargs ▸ hconstruct ra kwargs).mono
      (fun _ _ => id) fun _ _ => False.elim
  case getRequestParameters ra _ _ _ _ kwargs =>
    exact (keepsBy_getRequestParameters (hconstruct ra kwargs) h.extra h.authn).mono
      (fun _ _ => id) fun _ _ h' => h'.resolve_left id
  case constructUris => exact (keepsBy_constructUris svc ctx _).mono (fun _ _ _ => trivial) fun _ _ => id
  case parseResponse => exact keepsBy_lift _

/-- A call touches only the request arguments it passes and the context's callback mapping. -/
theorem Call.touches_ref {c : Call} {r : Ref} {k : String} (h : c.touches svc ctx r k) :
    c.requestArgs = some r ∨ ctx.callbackUris = some r := by
  cases c with
  | constructUris => exact .inr h.1
  | _ => exact .inl h.1

/-- `__init__` leaves no extra-header hook, and writes to mappings that exist or allocates one. -/
theorem run_init_extra_next {cls : ServiceClass} {conf : Option Ref} {s s' : Store}
    (h : (Service.init rt cls conf).run s = .ok svc s') :
    svc.constructExtraHeaders = [] ∧ s.next ≤ s'.next := by
  have hempty : ∀ {s'}, (Service.initEmpty rt cls).run s = .ok svc s' →
      svc.constructExtraHeaders = [] ∧ s.next ≤ s'.next := fun h => by
    obtain ⟨-, -, rfl, -, -, -, hextra, -⟩ := run_initEmpty h
    exact ⟨hextra, Nat.le_succ _⟩
  cases conf with
  | none => exact hempty h
  | some r =>
    obtain ⟨c, s₁, h₁, h₁'⟩ := PyM.run_bind_eq_ok _ h
    cases h₁
    split at h₁'
    · exact hempty h₁'
    · obtain ⟨u, s₂, h₂, h₂'⟩ := PyM.run_bind_eq_ok _ h₁'
      rw [run_moveRequestArgs] at h₂
      cases h₂
      obtain ⟨m, s₃, h₃, h₃'⟩ := PyM.run_bind_eq_ok _ h₂'
      obtain ⟨-, rfl⟩ := PyM.run_lift_eq_ok _ h₃
      cases h₃'
      refine ⟨rfl, ?_⟩
      split <;> exact le_rfl

end Session

/-! ## What a session does to the mappings it was handed -/

/-- A strategy in the manner of `client_secret_basic`: it binds `headers` in the `http_args` it
is handed to a mapping holding the `Authorization` header, and returns `http_args`. -/
def basicAuthHeader : AuthnMethod := fun m A _ => do
  let d ← PyM.read A
  PyM.write A (d.set "headers" (.dict [("Authorization", .str "Basic Y2xpZW50OnNlY3JldA==")]))
  pure (m, A)

/-- It changes only the `http_args` it is handed, and hands that mapping back. -/
theorem basicAuthHeader_staysWithin (P C : Ref → String → Prop) :
    basicAuthHeader.StaysWithin P C := fun _ _ _ =>
  ⟨keepsBy_bind (keepsBy_read _) fun _ => keepsBy_bind (keepsBy_write (fun _ => .inr rfl) _)
    fun _ => keepsBy_pure _, returns_bind_right fun _ => returns_bind_right fun _ =>
      (returns_pure _).mono fun _ a ha _ _ => .inl (by rw [ha])⟩

/-- A context that registers `client_secret_basic`. -/
def basicContext : Context := { clientAuthnMethods := [(.str "client_secret_basic", basicAuthHeader)] }

/-- Its strategies, with those of a service that registers none, change only the `http_args`
they are handed. -/
theorem basicContext_staysWithin {svc : Service} (hsvc : svc.clientAuthnMethods = [])
    (ctx : Context) (hctx : ctx.clientAuthnMethods = basicContext.clientAuthnMethods)
    (P C : Ref → String → Prop) :
    ∀ f ∈ (svc.clientAuthnMethods ++ ctx.clientAuthnMethods).map Prod.snd, f.StaysWithin P C := by
  intro f hf
  simp only [hsvc, hctx, basicContext, List.nil_append, List.map_cons, List.map_nil,
    List.mem_singleton] at hf
  exact hf ▸ basicAuthHeader_staysWithin P C

/-- The calls of a client of `callbackService`: a request built on mapping `1` and one posted
with the `http_args` at `2`, the callback targets registered, and a response parsed. -/
def callbackCalls : List Call :=
  [.construct (some 1) [("state", .str "xyz")],
    .getRequestParameters (some 1) (.str "POST") .none (.str "client_secret_basic") (some 2)
      [("endpoint", .str "https://op.example/token")],
    .constructUris "https://rp.example" "abc" [],
    .parseResponse (.str "\x7b\x7d") "json" .none []]

/-- The registered callback URIs at `0`, request arguments at `1` and `http_args` at `2`. -/
def callbackStore : Store :=
  Store.ofList [[("redirect_uris", .str "https://rp.example/cb")], [], [("headers", .dict [])]]

/-- A pre-construct hook that files a `nonce` in the request arguments unless they hold one. -/
def nonceHook : PreConstructHook := fun ra acc _ => do
  let current ← PyM.read ra
  if current.contains "nonce" = false then
    PyM.write ra (current.set "nonce" (.str "n-0S6_WzA2Mj"))
  pure (ra, .none, acc)

/-- The `nonce` hook only adds a binding. -/
theorem keepsBy_nonceHook (ra : Ref) (acc args : PyDict) :
    KeepsBy (fun _ _ => True) (fun _ _ => False) (nonceHook ra acc args) := by
  intro s
  unfold nonceHook
  rw [run_bind_ok s (run_read s ra)]
  dsimp only
  split
  · next h =>
    rw [run_bind_ok _ (run_write _ _ _)]
    exact Store.extendsBy_write_set _ trivial ((Dict.contains_eq_false _ _).mp h)
  · exact .refl _ _ s

/-- The service of `scopeStore`'s configuration with the `nonce` hook appended. -/
def nonceService : Service := { scopeService with preConstruct := [nonceHook] }

/-- Request arguments at `1` that already carry the caller's `nonce`, and `http_args` at `2`. -/
def nonceStore : Store := Store.ofList [[], [("nonce", .str "caller-nonce")], []]

/-- A request built on mapping `1`, then one posted on it with the `http_args` at `2`. -/
def nonceCalls : List Call :=
  [.construct (some 1) [("state", .str "xyz")],
    .getRequestParameters (some 1) (.str "POST") .none (.str "client_secret_basic") (some 2)
      [("endpoint", .str "https://op.example/authorize")]]

/-- The `nonce` hook and `client_secret_basic` keep to what `session_keeps_bindings` asks. -/
theorem nonceService_staysWithin :
    nonceService.StaysWithin basicContext (fun _ _ => True) (fun _ _ => False) where
  pre hook hm ra acc args := by
    rw [List.mem_singleton.mp hm]
    exact keepsBy_nonceHook ra acc args
  post _ hm := nomatch hm
  extra _ hm := nomatch hm
  authn := basicContext_staysWithin rfl basicContext rfl _ _

/-- The calls of a client of `scopeService`: a request built on mapping `1`, one posted on it
with the `http_args` at `2`, and a response parsed. -/
def scopeCalls : List Call :=
  [.construct (some 1) [("state", .str "xyz")],
    .getRequestParameters (some 1) (.str "POST") .none (.str "client_secret_basic") (some 2)
      [("endpoint", .str "https://op.example/authorize")],
    .parseResponse (.str "\x7b\x7d") "json" .none []]

end IdpyOidc.Client
