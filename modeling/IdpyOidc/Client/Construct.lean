import IdpyOidc.Client.RequestArgs

/-!
# Building the request message

`construct` runs the pre-construct hooks, writes the caller's `state` keyword into the request
arguments when the request class declares it and no value is there yet, resolves the
remaining arguments with `gather_request_args`, instantiates `msg_type`, and runs the
post-construct hooks.

The request arguments are the caller's mapping, by reference: with an empty hook chain,
`do_pre_construct` hands the same object back and the `state` write lands in it.
-/

namespace IdpyOidc.Client

/-- One pass of the loop of `do_pre_construct`. The hook's returned contribution is dropped
(the `post_args.update(_post_args)` line is commented out in the source); only what the hook
does to the shared accumulator survives. -/
def preConstructStep (args : PyDict) (acc : Ref × PyDict) (meth : PreConstructHook) :
    PyM (Ref × PyDict) := do
  let (ra, _, postArgs) ← meth acc.1 acc.2 args
  pure (ra, postArgs)

/-- `do_pre_construct(request_args, **kwargs)`. -/
def Service.doPreConstruct (svc : Service) (requestArgs : Ref) (kwargs : PyDict) :
    PyM (Ref × PyDict) := do
  let conf ← PyM.read svc.conf
  let args ← PyM.lift (methodArgs conf "pre_construct" kwargs)
  svc.preConstruct.foldlM (preConstructStep args) (requestArgs, [])

/-- `do_post_construct(request, **kwargs)`. -/
def Service.doPostConstruct (svc : Service) (request : Message) (kwargs : PyDict) :
    PyM Message := do
  let conf ← PyM.read svc.conf
  let args ← PyM.lift (methodArgs conf "post_construct" kwargs)
  svc.postConstruct.foldlM (fun req meth => meth req args) request

/-- The `state` lines of `construct`: the keyword is written into the request arguments when
the class declares `state` and the arguments have none. -/
def injectState (ps : List String) (r : Ref) (kwargs : PyDict) : PyM Unit := do
  if "state" ∈ ps ∧ kwargs.contains "state" = true then
    let current ← PyM.read r
    if current.contains "state" = false then
      PyM.write r (current.set "state" ((kwargs.get "state").getD .none))

/-- `construct` up to the call of `msg_type`: the arguments the message is built from, and
the `post_args` of the pre-construct hooks. -/
def Service.constructArgs (svc : Service) (ctx : Context) (requestArgs : Option Ref)
    (kwargs : PyDict) : PyM (PyDict × PyDict) := do
  let r ← match requestArgs with
    | some r => pure r
    | none => PyM.alloc []
  let (r, postArgs) ← svc.doPreConstruct r kwargs
  let ps ← PyM.lift svc.settings.msgType.cParam
  injectState ps r kwargs
  let current ← PyM.read r
  let conf ← PyM.read svc.conf
  let args ← PyM.lift (svc.gatherRequestArgs ctx conf current)
  pure (args, postArgs)

/-- `self.msg_type(**args)`. -/
def Service.instantiate (rt : Runtime) (svc : Service) (args : PyDict) : Except PyErr Message :=
  match svc.settings.msgType with
  | .cls (.message name ps) => do
    let fields ← rt.build (.message name ps) args
    pure { cls := .message name ps, fields := fields }
  | v => let t := v.typeName; .error (.typeError s!"'{t}' object is not callable")

/-- `construct(request_args, **kwargs)`. -/
def Service.construct (rt : Runtime) (svc : Service) (ctx : Context) (requestArgs : Option Ref)
    (kwargs : PyDict) : PyM Message := do
  let (args, postArgs) ← svc.constructArgs ctx requestArgs kwargs
  let request ← PyM.lift (svc.instantiate rt args)
  let behaviour := (kwargs.get "behaviour_args").getD .none
  let postArgs ← if behaviour.truthy then PyM.lift (postArgs.pyUpdate behaviour) else pure postArgs
  svc.doPostConstruct request postArgs

/-- `construct_request(request_args, **kwargs)`. -/
def Service.constructRequest (rt : Runtime) (svc : Service) (ctx : Context)
    (requestArgs : Option Ref) (kwargs : PyDict) : PyM Message := do
  let r ← match requestArgs with
    | some r => pure r
    | none => PyM.alloc []
  svc.construct rt ctx (some r) kwargs

/-! ## Runs of the pipeline -/

/-- The store after the `state` lines. -/
def stateStore (ps : List String) (r : Ref) (kwargs : PyDict) (s : Store) : Store :=
  if "state" ∈ ps ∧ kwargs.contains "state" = true ∧ (s.read r).contains "state" = false
  then s.write r ((s.read r).set "state" ((kwargs.get "state").getD .none)) else s

/-- The `state` lines, as the store sees them. -/
theorem run_injectState (ps : List String) (r : Ref) (kwargs : PyDict) (s : Store) :
    (injectState ps r kwargs).run s = .ok () (stateStore ps r kwargs s) := by
  unfold injectState stateStore
  by_cases h : "state" ∈ ps ∧ kwargs.contains "state" = true
  · by_cases hc : (s.read r).contains "state" = false <;> simp [h, hc, PyM.run_bind]
  · simp only [h, if_false]
    rw [if_neg (by tauto)]; rfl

/-- Without hooks, `do_pre_construct` hands the request arguments back once `method_args` returns. -/
theorem run_doPreConstruct_nil {svc : Service} (hpre : svc.preConstruct = []) (r : Ref)
    (kwargs : PyDict) (s : Store) :
    (svc.doPreConstruct r kwargs).run s =
      match methodArgs (s.read svc.conf) "pre_construct" kwargs with
      | .ok _ => .ok (r, []) s
      | .error e => .error e s := by
  unfold Service.doPreConstruct
  rw [hpre, PyM.run_bind_ok s (PyM.run_read s svc.conf)]
  cases methodArgs (s.read svc.conf) "pre_construct" kwargs <;> rfl

/-- The loop of `do_pre_construct` over hooks that each leave the accumulator as they found it
ends with the accumulator it started from, whatever the hooks return as their contribution. -/
theorem run_foldlM_preConstruct_keep {hooks : List PreConstructHook} {args : PyDict}
    (hkeep : ∀ hook ∈ hooks, ∀ ra acc s₀ ra' c acc' s₁,
      (hook ra acc args).run s₀ = .ok (ra', c, acc') s₁ → acc' = acc)
    {ra : Ref} {acc : PyDict} {s s' : Store} {res : Ref × PyDict}
    (h : (hooks.foldlM (preConstructStep args) (ra, acc)).run s = .ok res s') : res.2 = acc := by
  induction hooks generalizing ra acc s with
  | nil => cases h; rfl
  | cons hook hooks ih =>
    rw [List.foldlM_cons] at h
    obtain ⟨b, s₁, h₁, h₂⟩ := PyM.run_bind_eq_ok _ h
    obtain ⟨⟨ra', c, acc'⟩, s₃, h₃, h₄⟩ := PyM.run_bind_eq_ok _ h₁
    cases h₄
    have hacc : acc' = acc := hkeep hook (List.mem_cons_self _ _) _ _ _ _ _ _ _ h₃
    subst hacc
    exact ih (fun hk hm => hkeep hk (List.mem_cons_of_mem _ hm)) h₂

/-- What a returned `constructArgs` did, with an empty pre-construct chain: the class declares
`ps`, the only write is the `state` line, and `gather_request_args` ran on the arguments as
that line left them. -/
theorem run_constructArgs {svc : Service} {ctx : Context} {R : Ref} {K A post : PyDict}
    {s s' : Store} (hpre : svc.preConstruct = [])
    (h : (svc.constructArgs ctx (some R) K).run s = .ok (A, post) s') :
    ∃ ps, svc.settings.msgType.cParam = .ok ps ∧ post = [] ∧ s' = stateStore ps R K s ∧
      svc.gatherRequestArgs ctx (s'.read svc.conf) (s'.read R) = .ok A := by
  obtain ⟨r, s₁, h₁, h₁'⟩ := PyM.run_bind_eq_ok _ h
  cases h₁
  obtain ⟨⟨r', post'⟩, s₂, h₂, h₂'⟩ := PyM.run_bind_eq_ok _ h₁'
  rw [run_doPreConstruct_nil hpre] at h₂
  split at h₂ <;> cases h₂
  dsimp only at h₂'
  obtain ⟨ps, s₃, h₃, h₃'⟩ := PyM.run_bind_eq_ok _ h₂'
  obtain ⟨hps, rfl⟩ := PyM.run_lift_eq_ok _ h₃
  obtain ⟨u, s₄, h₄, h₄'⟩ := PyM.run_bind_eq_ok _ h₃'
  rw [run_injectState] at h₄
  cases h₄
  obtain ⟨cur, s₅, h₅, h₅'⟩ := PyM.run_bind_eq_ok _ h₄'
  cases h₅
  obtain ⟨conf, s₆, h₆, h₆'⟩ := PyM.run_bind_eq_ok _ h₅'
  cases h₆
  obtain ⟨args, s₇, h₇, h₇'⟩ := PyM.run_bind_eq_ok _ h₆'
  obtain ⟨hargs, rfl⟩ := PyM.run_lift_eq_ok _ h₇
  cases h₇'
  exact ⟨ps, hps, rfl, rfl, hargs⟩

/-- The `state` line writes only the `state` key of the request arguments. -/
theorem stateStore_read_get (ps : List String) (R x : Ref) (K : PyDict) (s : Store) (k : String) :
    ((stateStore ps R K s).read x).get k =
      if x = R ∧ k = "state" ∧ "state" ∈ ps ∧ K.contains "state" = true ∧
        (s.read R).contains "state" = false
      then some ((K.get "state").getD .none) else (s.read x).get k := by
  unfold stateStore
  by_cases hc : "state" ∈ ps ∧ K.contains "state" = true ∧ (s.read R).contains "state" = false
  · by_cases hx : x = R
    · subst hx; by_cases hk : k = "state" <;> simp [hc, hk, eq_comm]
    · simp [hc, hx]
  · simp only [hc, if_false]; rw [if_neg (by tauto)]

/-- The `state` lines leave the `request_args` entry of every mapping as it was. -/
theorem requestArgsEntry_stateStore (ps : List String) (R x : Ref) (K : PyDict) (s : Store) :
    requestArgsEntry ((stateStore ps R K s).read x) = requestArgsEntry (s.read x) := by
  simp only [requestArgsEntry, stateStore_read_get]; simp

/-- The default request arguments of a mapping entry are that mapping. -/
@[simp] theorem keptDefaults_dict (D : PyDict) : keptDefaults (.dict D) = .dict D := by
  cases D <;> rfl

/-- The arguments `A` handed to `msg_type`, read against the caller's request arguments `R`,
keyword arguments `K`, declared parameters `ps`, usage mapping `U` and defaults `D`. -/
structure ArgumentPrecedence (R K : PyDict) (ps : List String) (U D A : PyDict) : Prop where
  /-- An explicit argument is kept, even when falsy. -/
  explicit : ∀ k v, R.get k = some v → A.get k = some v
  /-- The `state` keyword fills a declared `state` the arguments lack. -/
  state : "state" ∈ ps → K.contains "state" = true → R.contains "state" = false →
    A.get "state" = K.get "state"
  /-- Another declared parameter takes a truthy negotiated value, else the default if any. -/
  declared : ∀ p ∈ ps, R.get p = none → ¬(p = "state" ∧ K.contains "state" = true) →
    A.get p = if ((U.get p).getD .none).truthy then U.get p else D.get p
  /-- An undeclared key takes the default if any, and is absent otherwise. -/
  undeclared : ∀ k, k ∉ ps → R.get k = none → A.get k = D.get k

/-- Precedence of request arguments in `construct`, for a service as `__init__` returns it from
a configuration whose `request_args` entry is a mapping `D` (or absent, and then `D = {}`). -/
theorem construct_argument_precedence (rt : Runtime) (cls : ServiceClass) (conf : Option Ref)
    (D : PyDict) (s₀ s₁ s₂ : Store) (svc : Service) (ctx : Context) (R : Ref)
    (K A post : PyDict) (ps : List String)
    (hD : confEntry s₀ conf = .dict D)
    (hinit : (Service.init rt cls conf).run s₀ = .ok svc s₁)
    (hps : svc.settings.msgType.cParam = .ok ps)
    (hrun : (svc.constructArgs ctx (some R) K).run s₁ = .ok (A, post) s₂) :
    ArgumentPrecedence (s₁.read R) K ps ctx.use D A := by
  obtain ⟨-, hpre, -, hdef, hentry, -, -⟩ := run_init hinit
  rw [hD, keptDefaults_dict] at hdef
  have hclean : requestArgsEntry (s₁.read svc.conf) = .dict [] := by
    rw [hentry, hD]; cases D <;> rfl
  obtain ⟨ps', hps', -, rfl, hgather⟩ := run_constructArgs hpre hrun
  cases hps.symm.trans hps'
  have hmerge : mergeConfRequestArgs ((stateStore ps R K s₁).read svc.conf)
      ((stateStore ps R K s₁).read R) = .ok ((stateStore ps R K s₁).read R) := by
    rw [mergeConfRequestArgs_eq, requestArgsEntry_stateStore, hclean]; rfl
  obtain ⟨A', hA', hget⟩ := gatherRequestArgs_get svc ctx _ _ _ D ps hmerge hps hdef
  cases hgather.symm.trans hA'
  have hB : ∀ k, ((stateStore ps R K s₁).read R).get k =
      if k = "state" ∧ "state" ∈ ps ∧ K.contains "state" = true ∧
        (s₁.read R).contains "state" = false
      then some ((K.get "state").getD .none) else (s₁.read R).get k := by
    simp [stateStore_read_get]
  have hA : ∀ k, ((stateStore ps R K s₁).read R).get k = none →
      A.get k = if k ∈ ps ∧ ((ctx.use.get k).getD .none).truthy then ctx.use.get k else D.get k :=
    fun k hk => by rw [hget, if_neg (by simp [Dict.contains, hk])]
  constructor
  · intro k v hk
    have hBk : ((stateStore ps R K s₁).read R).get k = some v := by
      rw [hB, if_neg]
      · exact hk
      · rintro ⟨rfl, -, -, hR⟩
        simp [Dict.contains, hk] at hR
    rw [hget, if_pos (by simp [Dict.contains, hBk]), hBk]
  · intro hs hK hR
    obtain ⟨v, hv⟩ := Option.isSome_iff_exists.mp hK
    have hBk : ((stateStore ps R K s₁).read R).get "state" = some v := by
      rw [hB, if_pos ⟨rfl, hs, hK, hR⟩, hv]; rfl
    rw [hget, if_pos (by simp [Dict.contains, hBk]), hBk, hv]
  · intro p hp hR hns
    have hBp : ((stateStore ps R K s₁).read R).get p = none := by
      rw [hB, if_neg]
      · exact hR
      · rintro ⟨h₁, -, h₃, -⟩; exact hns ⟨h₁, h₃⟩
    simp [hA p hBp, hp]
  · intro k hk hR
    have hBk : ((stateStore ps R K s₁).read R).get k = none := by
      rw [hB, if_neg]
      · exact hR
      · rintro ⟨rfl, h₂, -⟩; exact hk h₂
    simp [hA k hBk, hk]

/-- A request class declaring `scope`, `state` and `response_type`. -/
def authorizationClass : ServiceClass where
  serviceName := "authorization"
  settings := {
    msgType := .cls (.message "AuthorizationRequest" ["scope", "state", "response_type"])
    responseCls := .cls (.message "AuthorizationResponse" []) }

/-- The configuration `{"request_args": {"scope": "openid"}}` at reference `0`, and an empty
request-arguments mapping at `1`. -/
def scopeStore : Store := Store.ofList [[("request_args", .dict [("scope", .str "openid")])], []]

/-- The service `__init__` builds from `scopeStore`'s configuration. -/
def scopeService : Service where
  cls := authorizationClass
  settings := authorizationClass.settings
  conf := 0
  defaultRequestArgs := .dict [("scope", .str "openid")]
  clientAuthnMethods := []

/-- The precedence at the configured `scope`, the registered `response_type` and the caller's
`state`. -/
theorem construct_argument_precedence_scope :
    confEntry scopeStore (some 0) = .dict [("scope", .str "openid")] ∧
    (Service.init {} authorizationClass (some 0)).run scopeStore =
      .ok scopeService (scopeStore.write 0 []) ∧
    scopeService.settings.msgType.cParam = .ok ["scope", "state", "response_type"] ∧
    (scopeService.constructArgs { preferredToRegistered := [("response_type", .str "code")] }
        (some 1) [("state", .str "xyz")]).run (scopeStore.write 0 []) =
      .ok ([("state", .str "xyz"), ("scope", .str "openid"), ("response_type", .str "code")], [])
        ((scopeStore.write 0 []).write 1 [("state", .str "xyz")]) ∧
    ArgumentPrecedence ((scopeStore.write 0 []).read 1) [("state", .str "xyz")]
      ["scope", "state", "response_type"]
      ({ preferredToRegistered := [("response_type", .str "code")] } : Context).use
      [("scope", .str "openid")]
      [("state", .str "xyz"), ("scope", .str "openid"), ("response_type", .str "code")] :=
  have hD : confEntry scopeStore (some 0) = .dict [("scope", .str "openid")] := rfl
  have hinit : (Service.init {} authorizationClass (some 0)).run scopeStore =
      .ok scopeService (scopeStore.write 0 []) := rfl
  have hps : scopeService.settings.msgType.cParam = .ok ["scope", "state", "response_type"] := rfl
  have hrun : (scopeService.constructArgs
        { preferredToRegistered := [("response_type", .str "code")] }
        (some 1) [("state", .str "xyz")]).run (scopeStore.write 0 []) =
      .ok ([("state", .str "xyz"), ("scope", .str "openid"), ("response_type", .str "code")], [])
        ((scopeStore.write 0 []).write 1 [("state", .str "xyz")]) := rfl
  ⟨hD, hinit, hps, hrun,
    construct_argument_precedence _ _ _ _ _ _ _ _ _ _ _ _ _ _ hD hinit hps hrun⟩

/-- A pre-construct hook that returns `{"x": 1}` as its contribution and leaves the
accumulator alone. -/
def contributingHook : PreConstructHook := fun ra acc _ => pure (ra, .dict [("x", .int 1)], acc)

/-- The contributions pre-construct hooks return never reach `post_args`: with hooks that
leave the accumulator alone, `do_pre_construct` returns `{}`, whatever they return. -/
theorem doPreConstruct_drops_contributions {svc : Service} {r r' : Ref} {kwargs post : PyDict}
    {s s' : Store} (hkeep : ∀ hook ∈ svc.preConstruct, ∀ ra acc args s₀ ra' c acc' s₁,
      (hook ra acc args).run s₀ = .ok (ra', c, acc') s₁ → acc' = acc)
    (h : (svc.doPreConstruct r kwargs).run s = .ok (r', post) s') : post = [] := by
  obtain ⟨conf, s₁, -, h₁⟩ := PyM.run_bind_eq_ok _ h
  obtain ⟨args, s₂, -, h₂⟩ := PyM.run_bind_eq_ok _ h₁
  exact run_foldlM_preConstruct_keep (fun hook hm ra acc => hkeep hook hm ra acc args) h₂

/-- A hook that contributes `x` and leaves the accumulator alone: the `post_args` returned are
empty. -/
theorem doPreConstruct_drops_contributions_x :
    (∀ hook ∈ ({ scopeService with preConstruct := [contributingHook] } : Service).preConstruct,
      ∀ ra acc args s₀ ra' c acc' s₁,
        (hook ra acc args).run s₀ = .ok (ra', c, acc') s₁ → acc' = acc) ∧
      (({ scopeService with preConstruct := [contributingHook] } : Service).doPreConstruct 1 []).run
        scopeStore = .ok (1, []) scopeStore ∧ ([] : PyDict) = [] :=
  have hkeep :
      ∀ hook ∈ ({ scopeService with preConstruct := [contributingHook] } : Service).preConstruct,
      ∀ ra acc args s₀ ra' c acc' s₁,
        (hook ra acc args).run s₀ = .ok (ra', c, acc') s₁ → acc' = acc := by
    intro hook hm ra acc args s₀ ra' c acc' s₁ h
    rw [List.mem_singleton.mp hm] at h
    cases h
    rfl
  have h : (({ scopeService with preConstruct := [contributingHook] } : Service).doPreConstruct 1
      []).run scopeStore = .ok (1, []) scopeStore := rfl
  ⟨hkeep, h, doPreConstruct_drops_contributions hkeep h⟩

end IdpyOidc.Client
