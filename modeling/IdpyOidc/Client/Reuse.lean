import IdpyOidc.Client.Construct

/-!
# Reusing a configuration or a request-arguments mapping

Both mappings are the caller's own objects. `__init__` deletes a truthy `request_args` entry
from the configuration it is given, so a second service built from the same configuration
object (as `init_services` does when several clients share one services configuration) gets
no defaults. `construct` writes the `state` keyword into the request arguments it is given,
so a second call with the same mapping keeps the first state.

A falsy entry stays in `self.conf`; `None` there makes every `gather_request_args` raise.
-/

namespace IdpyOidc.Client

/-- One entry of the `service_definitions` that `init_services` reads: the service class
(already imported) and the reference of its `kwargs` mapping, if the entry has one. -/
structure ServiceDefinition where
  cls : ServiceClass
  kwargs : Option Ref

/-- One pass of the loop of `init_services`: the class is instantiated with
`conf=service_configuration["kwargs"]` and the service filed under its own `service_name`. -/
def registerService (rt : Runtime) (acc : Dict Service) (d : String × ServiceDefinition) :
    PyM (Dict Service) := do
  let srv ← Service.init rt d.2.cls d.2.kwargs
  pure (acc.set srv.cls.serviceName srv)

/-- `init_services(service_definitions, upstream_get)`. -/
def initServices (rt : Runtime) (defs : List (String × ServiceDefinition)) :
    PyM (Dict Service) :=
  defs.foldlM (registerService rt) []

/-! ## A shared configuration -/

/-- A services configuration holding default request arguments and one more setting. -/
def sharedConfStore : Store :=
  Store.ofList [[("request_args", .dict [("scope", .str "openid")]),
    ("response_body_type", .str "json")]]

/-- The service definitions two clients are built from: one entry, whose `kwargs` is the
configuration at reference `0`. -/
def sharedDefinitions : List (String × ServiceDefinition) :=
  [("authorization", ⟨authorizationClass, some 0⟩)]

/-- Two services built in turn from one configuration object: the first takes a truthy
`request_args` entry as its defaults and deletes it from the caller's mapping, so the second
finds no entry and has `{}`. -/
theorem init_twice_defaults {rt : Runtime} {cls₁ cls₂ : ServiceClass} {r : Ref}
    {s₀ s₁ s₂ : Store} {svc₁ svc₂ : Service}
    (h₁ : (Service.init rt cls₁ (some r)).run s₀ = .ok svc₁ s₁)
    (h₂ : (Service.init rt cls₂ (some r)).run s₁ = .ok svc₂ s₂)
    (hv : (requestArgsEntry (s₀.read r)).truthy) :
    svc₁.defaultRequestArgs = requestArgsEntry (s₀.read r) ∧
      svc₂.defaultRequestArgs = .dict [] ∧ s₁.read r = (s₀.read r).erase "request_args" := by
  obtain ⟨-, -, -, hd₁, -, hr₁, -⟩ := run_init h₁
  obtain ⟨-, -, -, hd₂, -, -, -⟩ := run_init h₂
  have hread : s₁.read r = (s₀.read r).erase "request_args" := by
    simpa [confEntry, hv] using hr₁ r rfl
  refine ⟨by simp [hd₁, confEntry, keptDefaults, hv], ?_, hread⟩
  simp [hd₂, confEntry, hread, requestArgsEntry, keptDefaults]

/-- Two services built from one configuration: the first takes its request arguments, the second
gets an empty mapping. -/
theorem init_twice_defaults_shared :
    (Service.init {} authorizationClass (some 0)).run sharedConfStore =
        .ok scopeService (sharedConfStore.write 0 [("response_body_type", .str "json")]) ∧
      (Service.init {} authorizationClass (some 0)).run
          (sharedConfStore.write 0 [("response_body_type", .str "json")]) =
        .ok { scopeService with defaultRequestArgs := .dict [] }
          (sharedConfStore.write 0 [("response_body_type", .str "json")]) ∧
      (requestArgsEntry (sharedConfStore.read 0)).truthy = true ∧
      scopeService.defaultRequestArgs = requestArgsEntry (sharedConfStore.read 0) ∧
      ({ scopeService with defaultRequestArgs := .dict [] } : Service).defaultRequestArgs =
        .dict [] ∧
      (sharedConfStore.write 0 [("response_body_type", .str "json")]).read 0 =
        (sharedConfStore.read 0).erase "request_args" :=
  have h₁ : (Service.init {} authorizationClass (some 0)).run sharedConfStore =
      .ok scopeService (sharedConfStore.write 0 [("response_body_type", .str "json")]) := rfl
  have h₂ : (Service.init {} authorizationClass (some 0)).run
      (sharedConfStore.write 0 [("response_body_type", .str "json")]) =
      .ok { scopeService with defaultRequestArgs := .dict [] }
        (sharedConfStore.write 0 [("response_body_type", .str "json")]) := rfl
  have hv : (requestArgsEntry (sharedConfStore.read 0)).truthy = true := rfl
  ⟨h₁, h₂, hv, init_twice_defaults h₁ h₂ hv⟩

/-- A `None` entry is not merged: `ar_args.update(None)` raises. -/
theorem gatherRequestArgs_none_entry (svc : Service) (ctx : Context) (conf kwargs : PyDict)
    (h : conf.get "request_args" = some .none) :
    svc.gatherRequestArgs ctx conf kwargs =
      .error (.typeError "'NoneType' object is not iterable") := by
  simp only [Service.gatherRequestArgs, mergeConfRequestArgs, h, bind, Except.bind]
  rfl

/-- A `None` entry survives `__init__` in `self.conf`, so `gather_request_args` raises on every
call of the service. -/
theorem init_none_entry_gather_raises {rt : Runtime} {cls : ServiceClass} {r : Ref}
    {s₀ s₁ : Store} {svc : Service} (hinit : (Service.init rt cls (some r)).run s₀ = .ok svc s₁)
    (hnone : (s₀.read r).get "request_args" = some .none) (ctx : Context) (kwargs : PyDict) :
    svc.gatherRequestArgs ctx (s₁.read svc.conf) kwargs =
      .error (.typeError "'NoneType' object is not iterable") := by
  obtain ⟨-, -, -, -, hentry, -, -⟩ := run_init hinit
  have he : requestArgsEntry (s₁.read svc.conf) = .none := by
    simpa [confEntry, requestArgsEntry, hnone] using hentry
  apply gatherRequestArgs_none_entry
  unfold requestArgsEntry at he
  cases hg : (s₁.read svc.conf).get "request_args" with
  | none => simp [hg] at he
  | some v => simpa [hg] using he

/-- A configuration whose `request_args` entry is `None`, as an empty YAML key gives. -/
def noneConfStore : Store := Store.ofList [[("request_args", .none)]]

/-- The service `__init__` builds from `noneConfStore`'s configuration. -/
def noneEntryService : Service where
  cls := authorizationClass
  settings := authorizationClass.settings
  conf := 0
  defaultRequestArgs := .dict []
  clientAuthnMethods := []

/-- A `None` entry stays in the configuration, and gathering the request arguments raises. -/
theorem init_none_entry_gather_raises_none :
    (Service.init {} authorizationClass (some 0)).run noneConfStore =
        .ok noneEntryService noneConfStore ∧
      (noneConfStore.read 0).get "request_args" = some .none ∧
      noneEntryService.gatherRequestArgs {} (noneConfStore.read noneEntryService.conf) [] =
        .error (.typeError "'NoneType' object is not iterable") :=
  have hinit : (Service.init {} authorizationClass (some 0)).run noneConfStore =
      .ok noneEntryService noneConfStore := rfl
  have hnone : (noneConfStore.read 0).get "request_args" = some .none := rfl
  ⟨hinit, hnone, init_none_entry_gather_raises hinit hnone {} []⟩

/-- The loop of `init_services` files each service under its class's `service_name`: every
entry it adds is a service of one of the definitions' classes under that class's name, and a
name is filed exactly when the accumulator had it or some definition's class declares it. -/
theorem run_foldlM_registerService {rt : Runtime} {defs : List (String × ServiceDefinition)}
    {acc reg : Dict Service} {s s' : Store}
    (h : (defs.foldlM (registerService rt) acc).run s = .ok reg s') :
    (∀ n srv, reg.get n = some srv →
      acc.get n = some srv ∨ (srv.cls.serviceName = n ∧ ∃ d ∈ defs, srv.cls = d.2.cls)) ∧
      ∀ n, reg.contains n ↔ acc.contains n ∨ ∃ d ∈ defs, d.2.cls.serviceName = n := by
  induction defs generalizing acc s with
  | nil => cases h; exact ⟨fun _ _ h => .inl h, by simp⟩
  | cons d defs ih =>
    rw [List.foldlM_cons] at h
    obtain ⟨acc₁, s₁, h₁, h₂⟩ := PyM.run_bind_eq_ok _ h
    obtain ⟨srv, s₃, h₃, h₄⟩ := PyM.run_bind_eq_ok _ h₁
    cases h₄
    have hcls : srv.cls = d.2.cls := (run_init h₃).1
    obtain ⟨hget, hkeys⟩ := ih h₂
    refine ⟨fun n srv' hn => ?_, fun n => ?_⟩
    · rcases hget n srv' hn with h' | ⟨hname, d', hd', hc⟩
      · rw [Dict.get_set] at h'
        split at h'
        · next he => cases h'; exact .inr ⟨he, d, List.mem_cons_self _ _, hcls⟩
        · exact .inl h'
      · exact .inr ⟨hname, d', List.mem_cons_of_mem _ hd', hc⟩
    · rw [hkeys, Dict.contains_set, hcls]
      simp only [Bool.or_eq_true, decide_eq_true_eq, List.mem_cons, exists_eq_or_imp]
      exact or_assoc.trans or_left_comm

/-- `init_services` indexes the services by their classes' own `service_name`, not by the keys
of the definitions: each entry is a service of a definition's class filed under that class's
name, and every name a definition's class declares is filed. -/
theorem initServices_indexed_by_service_name {rt : Runtime}
    {defs : List (String × ServiceDefinition)} {s s' : Store} {reg : Dict Service}
    (h : (initServices rt defs).run s = .ok reg s') :
    (∀ n srv, reg.get n = some srv → srv.cls.serviceName = n ∧ ∃ d ∈ defs, srv.cls = d.2.cls) ∧
      ∀ n, reg.contains n ↔ ∃ d ∈ defs, d.2.cls.serviceName = n := by
  obtain ⟨hget, hkeys⟩ := run_foldlM_registerService h
  refine ⟨fun n srv hn => ?_, fun n => (hkeys n).trans (or_iff_right Bool.false_ne_true)⟩
  rcases hget n srv hn with h' | h'
  · cases h'
  · exact h'

/-- Definitions keyed `"authz"`, whose class declares the name `"authorization"`. -/
def renamedDefinitions : List (String × ServiceDefinition) :=
  [("authz", ⟨authorizationClass, some 0⟩)]

/-- A definition filed under another key is indexed by its class's service name. -/
theorem initServices_indexed_by_service_name_authz :
    (initServices {} renamedDefinitions).run sharedConfStore =
        .ok [("authorization", scopeService)]
          (sharedConfStore.write 0 [("response_body_type", .str "json")]) ∧
      (∀ n srv, Dict.get [("authorization", scopeService)] n = some srv →
        srv.cls.serviceName = n ∧ ∃ d ∈ renamedDefinitions, srv.cls = d.2.cls) ∧
      ∀ n, Dict.contains [("authorization", scopeService)] n ↔
        ∃ d ∈ renamedDefinitions, d.2.cls.serviceName = n :=
  have h : (initServices {} renamedDefinitions).run sharedConfStore =
      .ok [("authorization", scopeService)]
        (sharedConfStore.write 0 [("response_body_type", .str "json")]) := rfl
  ⟨h, initServices_indexed_by_service_name h⟩

/-- The first client's service gets the configured `scope`; building the second client from
the same definitions gives a service without it. -/
theorem init_services_shared_conf_loses_defaults :
    (initServices {} sharedDefinitions).run sharedConfStore =
      .ok [("authorization", scopeService)]
        (sharedConfStore.write 0 [("response_body_type", .str "json")]) ∧
    (initServices {} sharedDefinitions).run
        (sharedConfStore.write 0 [("response_body_type", .str "json")]) =
      .ok [("authorization", { scopeService with defaultRequestArgs := .dict [] })]
        (sharedConfStore.write 0 [("response_body_type", .str "json")]) :=
  ⟨rfl, rfl⟩

/-! ## A reused request-arguments mapping -/

/-- `__init__` leaves no truthy `request_args` entry in `self.conf`, whatever configuration it
is given: so the first merge in `gather_request_args` never adds to the caller's mapping. -/
theorem init_leaves_falsy_request_args {rt : Runtime} {cls : ServiceClass} {conf : Option Ref}
    {s s' : Store} {svc : Service} (h : (Service.init rt cls conf).run s = .ok svc s') :
    (requestArgsEntry (s'.read svc.conf)).truthy = false := by
  obtain ⟨-, -, -, -, hentry, -, -⟩ := run_init h
  rw [hentry]; split
  · rfl
  · next hv => simpa using hv

/-- The configuration after `__init__` holds no truthy `request_args` entry. -/
theorem init_leaves_falsy_request_args_shared :
    (Service.init {} authorizationClass (some 0)).run sharedConfStore =
        .ok scopeService (sharedConfStore.write 0 [("response_body_type", .str "json")]) ∧
      (requestArgsEntry ((sharedConfStore.write 0 [("response_body_type", .str "json")]).read
        scopeService.conf)).truthy = false :=
  have h : (Service.init {} authorizationClass (some 0)).run sharedConfStore =
      .ok scopeService (sharedConfStore.write 0 [("response_body_type", .str "json")]) := rfl
  ⟨h, init_leaves_falsy_request_args h⟩

/-- `construct` writes the `state` keyword into the caller's request arguments when the class
declares `state` and the mapping has none; a second call with the same mapping then finds
that state and keeps it, whatever its own `state` keyword. -/
theorem construct_twice_keeps_first_state {svc : Service} {ctx : Context} {R : Ref}
    {K₁ K₂ A₁ A₂ post₁ post₂ : PyDict} {s s₁ s₂ : Store} {ps : List String} {v₁ : PyVal}
    (hpre : svc.preConstruct = []) (hclean : (requestArgsEntry (s.read svc.conf)).truthy = false)
    (hps : svc.settings.msgType.cParam = .ok ps) (hstate : "state" ∈ ps)
    (hK₁ : K₁.get "state" = some v₁) (hR : (s.read R).contains "state" = false)
    (h₁ : (svc.constructArgs ctx (some R) K₁).run s = .ok (A₁, post₁) s₁)
    (h₂ : (svc.constructArgs ctx (some R) K₂).run s₁ = .ok (A₂, post₂) s₂) :
    s₁.read R = (s.read R).set "state" v₁ ∧ A₂.get "state" = some v₁ := by
  obtain ⟨ps₁, hps₁, -, rfl, -⟩ := run_constructArgs hpre h₁
  cases hps.symm.trans hps₁
  have hK : K₁.contains "state" = true := by simp [Dict.contains, hK₁]
  have hread : (stateStore ps R K₁ s).read R = (s.read R).set "state" v₁ := by
    simp [stateStore, hstate, hK, hR, hK₁]
  refine ⟨hread, ?_⟩
  obtain ⟨ps₂, hps₂, -, rfl, hgather⟩ := run_constructArgs hpre h₂
  cases hps.symm.trans hps₂
  obtain ⟨B, -, D, hB, -, hD⟩ := gatherRequestArgs_ok_inv hgather
  have hB' : B = (stateStore ps R K₂ (stateStore ps R K₁ s)).read R := by
    rw [mergeConfRequestArgs_eq, requestArgsEntry_stateStore, requestArgsEntry_stateStore] at hB
    exact PyDict.pyUpdate_of_not_truthy hclean hB
  subst hB'
  have hstate₂ : ((stateStore ps R K₂ (stateStore ps R K₁ s)).read R).get "state" = some v₁ := by
    rw [stateStore_read_get, if_neg (by simp [hread, Dict.contains])]
    simp [hread]
  obtain ⟨A, hA, hget⟩ := gatherRequestArgs_get svc ctx _ _ _ D ps hB hps hD
  cases hgather.symm.trans hA
  rw [hget, if_pos (by simp [Dict.contains, hstate₂]), hstate₂]

/-- The store after a first `construct` with `state="A"`: the caller's mapping at `1` now
holds that state. -/
def firstStateStore : Store := (scopeStore.write 0 []).write 1 [("state", .str "A")]

/-- Two builds on one mapping of request arguments: the second resolves the first `state`. -/
theorem construct_twice_keeps_first_state_scope :
    (scopeService.constructArgs {} (some 1) [("state", .str "A")]).run (scopeStore.write 0 []) =
        .ok ([("state", .str "A"), ("scope", .str "openid")], []) firstStateStore ∧
      (scopeService.constructArgs {} (some 1) [("state", .str "B")]).run firstStateStore =
        .ok ([("state", .str "A"), ("scope", .str "openid")], []) firstStateStore ∧
      firstStateStore.read 1 = ((scopeStore.write 0 []).read 1).set "state" (.str "A") ∧
      Dict.get ([("state", .str "A"), ("scope", .str "openid")] : PyDict) "state" =
        some (.str "A") :=
  have h₁ : (scopeService.constructArgs {} (some 1) [("state", .str "A")]).run
      (scopeStore.write 0 []) =
      .ok ([("state", .str "A"), ("scope", .str "openid")], []) firstStateStore := rfl
  have h₂ : (scopeService.constructArgs {} (some 1) [("state", .str "B")]).run firstStateStore =
      .ok ([("state", .str "A"), ("scope", .str "openid")], []) firstStateStore := rfl
  ⟨h₁, h₂, construct_twice_keeps_first_state (by rfl) (by rfl) (by rfl) (by decide) (by rfl)
    (by rfl) h₁ h₂⟩

/-- A runtime whose message classes keep the arguments they are built from. -/
def keepArgsRuntime : Runtime := { build := fun _ args => .ok args }

/-- Two requests built from one request-arguments mapping, with `state="A"` and then
`state="B"`: the second request carries state `"A"`. -/
theorem construct_reused_request_args_keeps_first_state :
    (scopeService.construct keepArgsRuntime {} (some 1) [("state", .str "A")]).run
        (scopeStore.write 0 []) =
      .ok { cls := .message "AuthorizationRequest" ["scope", "state", "response_type"]
            fields := [("state", .str "A"), ("scope", .str "openid")] } firstStateStore ∧
    (scopeService.construct keepArgsRuntime {} (some 1) [("state", .str "B")]).run
        firstStateStore =
      .ok { cls := .message "AuthorizationRequest" ["scope", "state", "response_type"]
            fields := [("state", .str "A"), ("scope", .str "openid")] } firstStateStore :=
  ⟨rfl, rfl⟩

end IdpyOidc.Client
