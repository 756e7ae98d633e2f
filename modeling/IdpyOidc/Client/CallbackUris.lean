import IdpyOidc.Client.Service

/-!
# Callback URIs

`construct_uris` files, for each callback target, a URI `f"{base_url}/{path}/{hex}"` built from
the path the class declares for it (a list of URIs when it declares several) in the client
context's `callback_uris` preference. The targets default to every target the class declares a
path for. The preference is the context's own mapping, so it is extended in place, and a target
it already holds keeps what it holds; a context without the preference gets a fresh mapping.

The loop is one step, `registerCallbackUri`; what a whole loop does to the mapping follows from
that step by induction over the targets. A target that is neither registered nor declared has
path `None`, which the loop tries to iterate, so the call raises exactly when such a target is
met. With no target at all the result is a fresh `{}`, whatever is registered.
-/

namespace IdpyOidc.Client

/-- The values `for v in x` visits: a list's items, a mapping's keys, a string's characters. -/
def PyVal.iter : PyVal → Except PyErr (List PyVal)
  | .list xs => .ok xs
  | .dict d => .ok (d.map fun e => .str e.1)
  | .str s => .ok (s.data.map fun c => .str (String.singleton c))
  | v => let t := v.typeName; .error (.typeError s!"'{t}' object is not iterable")

/-- `get_callback_path(callback)`: `self._callback_path.get(callback)`. -/
def ServiceClass.getCallbackPath (cls : ServiceClass) (callback : String) : PyVal :=
  (cls.callbackPath.get callback).getD .none

/-- `callback_uris()`: the targets the class declares a path for. -/
def ServiceClass.callbackUris (cls : ServiceClass) : List String := cls.callbackPath.map Prod.fst

/-- `get_uri(base_url, path, hex)`; `hex` is the text the f-string prints for it. -/
def getUri (baseUrl : String) (path : PyVal) (hex : String) : String :=
  baseUrl ++ "/" ++ path.pyStr ++ "/" ++ hex

/-- What `construct_uris` files under a new target whose declared path is `path`: one URI for
a string, the list of URIs of its items for anything else. -/
def callbackUriValue (baseUrl hex : String) (path : PyVal) : Except PyErr PyVal :=
  if path.isStr then .ok (.str (getUri baseUrl path hex))
  else path.iter.map fun vars => .list (vars.map fun v => .str (getUri baseUrl v hex))

/-- The URIs of a path raise only when the path is no string and cannot be iterated. -/
theorem callbackUriValue_error {baseUrl hex : String} {path : PyVal} {e : PyErr}
    (h : callbackUriValue baseUrl hex path = .error e) :
    e = .typeError ("'" ++ path.typeName ++ "' object is not iterable") := by
  unfold callbackUriValue at h
  split at h
  · cases h
  · cases path <;> simp only [PyVal.iter, Except.map] at h <;> cases h <;> rfl

/-- `if not targets: targets = self._callback_path.keys()`; `None` and `[]` are both `[]`. -/
def ServiceClass.callbackTargets (cls : ServiceClass) (targets : List String) : List String :=
  if targets.isEmpty then cls.callbackUris else targets

/-- `context.get_preference("callback_uris", {})`: the context's own mapping, or a fresh one. -/
def preferredCallbackUris (ctx : Context) : PyM Ref :=
  match ctx.callbackUris with
  | some r => pure r
  | none => PyM.alloc []

/-- One pass of the loop of `construct_uris` over the mapping `r`: a target it holds is passed
over, any other gets the URIs of its declared path. -/
def registerCallbackUri (cls : ServiceClass) (baseUrl hex : String) (r : Ref) (uri : String) :
    PyM Unit := do
  let uris ← PyM.read r
  if uris.contains uri then pure () else do
  let v ← PyM.lift (callbackUriValue baseUrl hex (cls.getCallbackPath uri))
  PyM.write r (uris.set uri v)

/-- `construct_uris(base_url, hex, context, targets)`. The result is a mapping of the store:
the context's own when it has the preference. `response_types` is not read. -/
def Service.constructUris (svc : Service) (ctx : Context) (baseUrl hex : String)
    (targets : List String) : PyM Ref :=
  let targets := svc.cls.callbackTargets targets
  if targets.isEmpty then PyM.alloc [] else do
  let r ← preferredCallbackUris ctx
  targets.forM (registerCallbackUri svc.cls baseUrl hex r)
  pure r

/-- The callback URIs registered before a call: the context's mapping, or the fresh `{}`. -/
def registeredCallbackUris (ctx : Context) (s : Store) : PyDict :=
  match ctx.callbackUris with
  | some r => s.read r
  | none => []

/-! ## One pass, and a whole loop -/

section Runs

variable {cls : ServiceClass} {baseUrl hex : String} {r : Ref} {s s' : Store}

/-- The step, as the store sees it. -/
theorem run_registerCallbackUri (uri : String) :
    (registerCallbackUri cls baseUrl hex r uri).run s =
      if (s.read r).contains uri then .ok () s else
      match callbackUriValue baseUrl hex (cls.getCallbackPath uri) with
      | .ok v => .ok () (s.write r ((s.read r).set uri v))
      | .error e => .error e s := by
  unfold registerCallbackUri
  rw [PyM.run_bind_ok _ (PyM.run_read _ r)]
  split
  · rfl
  · cases callbackUriValue baseUrl hex (cls.getCallbackPath uri) <;> rfl

/-- A returned step passed over a registered target, or filed a new one. -/
theorem registerCallbackUri_cases {uri : String}
    (h : (registerCallbackUri cls baseUrl hex r uri).run s = .ok () s') :
    ((s.read r).contains uri = true ∧ s' = s) ∨
      ∃ v, (s.read r).contains uri = false ∧
        callbackUriValue baseUrl hex (cls.getCallbackPath uri) = .ok v ∧
        s' = s.write r ((s.read r).set uri v) := by
  rw [run_registerCallbackUri] at h
  split at h
  · next hc => cases h; exact .inl ⟨hc, rfl⟩
  · next hc =>
    split at h
    · next v hv => cases h; exact .inr ⟨v, by simpa using hc, hv, rfl⟩
    · cases h

/-- Every target of the loop is passed over or filed, and nothing but `r` is written. -/
theorem run_forM_registerCallbackUri {xs : List String}
    (h : (xs.forM (registerCallbackUri cls baseUrl hex r)).run s = .ok () s') :
    (∀ r', r' ≠ r → s'.read r' = s.read r') ∧
      (∀ k ∈ xs, (s.read r).contains k = false →
        (callbackUriValue baseUrl hex (cls.getCallbackPath k)).isOk) ∧
      ∀ k, (s'.read r).get k = if (s.read r).contains k then (s.read r).get k
        else if k ∈ xs then (callbackUriValue baseUrl hex (cls.getCallbackPath k)).toOption
        else none := by
  induction xs generalizing s with
  | nil =>
    cases h
    refine ⟨fun _ _ => rfl, by simp, fun k => ?_⟩
    split
    · rfl
    · next hk => simpa using (Dict.contains_eq_false _ k).mp (by simpa using hk)
  | cons uri xs ih =>
    rw [List.forM_cons'] at h
    obtain ⟨u, s₁, h₁, h₂⟩ := PyM.run_bind_eq_ok _ h
    obtain ⟨hframe, hok, hget⟩ := ih h₂
    rcases registerCallbackUri_cases h₁ with ⟨hc, rfl⟩ | ⟨v, hc, hv, rfl⟩
    · refine ⟨hframe, fun k hk hk' => ?_, fun k => ?_⟩
      · by_cases hku : uri = k
        · subst hku; rw [hc] at hk'; cases hk'
        · exact hok k (List.mem_of_ne_of_mem (Ne.symm hku) hk) hk'
      · rw [hget k]
        by_cases hku : k = uri
        · subst hku; simp [hc]
        · simp [hku]
    · refine ⟨fun r' hr' => by simpa [hr'] using hframe r' hr', fun k hk hk' => ?_, fun k => ?_⟩
      · by_cases hku : uri = k
        · subst hku; rw [hv]; rfl
        · exact hok k (List.mem_of_ne_of_mem (Ne.symm hku) hk) (by simp [hku, hk'])
      · rw [hget k]
        by_cases hku : uri = k
        · subst hku; simp [hc, hv, Except.toOption]
        · simp [hku, Ne.symm hku]

/-- A loop whose every new target has a usable path returns. -/
theorem run_forM_registerCallbackUri_ok {xs : List String}
    (hok : ∀ k ∈ xs, (s.read r).contains k = false →
      (callbackUriValue baseUrl hex (cls.getCallbackPath k)).isOk) :
    ∃ s', (xs.forM (registerCallbackUri cls baseUrl hex r)).run s = .ok () s' := by
  induction xs generalizing s with
  | nil => exact ⟨s, rfl⟩
  | cons uri xs ih =>
    rw [List.forM_cons']
    by_cases hc : (s.read r).contains uri
    · have h₁ : (registerCallbackUri cls baseUrl hex r uri).run s = .ok () s := by
        rw [run_registerCallbackUri, if_pos hc]
      rw [PyM.run_bind_ok _ h₁]
      exact ih fun k hk => hok k (List.mem_cons_of_mem _ hk)
    · obtain ⟨v, hv⟩ :=
        except_exists_ok_of_isOk (hok uri (List.mem_cons_self _ _) (by simpa using hc))
      have h₁ : (registerCallbackUri cls baseUrl hex r uri).run s =
          .ok () (s.write r ((s.read r).set uri v)) := by
        rw [run_registerCallbackUri, if_neg hc, hv]
      rw [PyM.run_bind_ok _ h₁]
      exact ih fun k hk hk' => hok k (List.mem_cons_of_mem _ hk) (by simp_all)

/-- A step raises only for a new target, with the error of its path's URIs. -/
theorem registerCallbackUri_error {uri : String} {e : PyErr}
    (h : (registerCallbackUri cls baseUrl hex r uri).run s = .error e s') :
    (s.read r).contains uri = false ∧ callbackUriValue baseUrl hex (cls.getCallbackPath uri) = .error e := by
  rw [run_registerCallbackUri] at h
  split at h
  · cases h
  · next hc =>
    split at h
    · cases h
    · next e' he => cases h; exact ⟨by simpa using hc, he⟩

/-- A loop that raised met a target, new to the mapping it started from, whose path's URIs
raise that error. -/
theorem run_forM_registerCallbackUri_error {xs : List String} {e : PyErr}
    (h : (xs.forM (registerCallbackUri cls baseUrl hex r)).run s = .error e s') :
    ∃ k ∈ xs, (s.read r).contains k = false ∧
      callbackUriValue baseUrl hex (cls.getCallbackPath k) = .error e := by
  induction xs generalizing s with
  | nil => cases h
  | cons uri xs ih =>
    rw [List.forM_cons'] at h
    rcases PyM.run_bind_eq_error _ h with h₁ | ⟨u, s₁, h₁, h₂⟩
    · exact ⟨uri, List.mem_cons_self _ _, registerCallbackUri_error h₁⟩
    · obtain ⟨k, hk, hk', he⟩ := ih h₂
      refine ⟨k, List.mem_cons_of_mem _ hk, ?_, he⟩
      rcases registerCallbackUri_cases h₁ with ⟨-, rfl⟩ | ⟨v, -, -, rfl⟩
      · exact hk'
      · by_cases hku : uri = k
        · subst hku; simp at hk'
        · simpa [hku] using hk'

/-- A loop over targets the mapping already holds changes nothing. -/
theorem run_forM_registerCallbackUri_of_contains {xs : List String}
    (hc : ∀ k ∈ xs, (s.read r).contains k) :
    (xs.forM (registerCallbackUri cls baseUrl hex r)).run s = .ok () s := by
  induction xs with
  | nil => rfl
  | cons uri xs ih =>
    have h₁ : (registerCallbackUri cls baseUrl hex r uri).run s = .ok () s := by
      rw [run_registerCallbackUri, if_pos (hc uri (List.mem_cons_self _ _))]
    rw [List.forM_cons', PyM.run_bind_ok _ h₁]
    exact ih fun k hk => hc k (List.mem_cons_of_mem _ hk)

end Runs

/-! ## A call of `construct_uris` -/

section Call

variable {svc : Service} {ctx : Context} {baseUrl hex : String} {targets : List String}
  {r : Ref} {s s' : Store}

/-- The preference read: its mapping is the registered one, and only a fresh one is made. -/
theorem run_preferredCallbackUris (ctx : Context) (s : Store) :
    ∃ s₁, (preferredCallbackUris ctx).run s = .ok (ctx.callbackUris.getD s.next) s₁ ∧
      s₁.read (ctx.callbackUris.getD s.next) = registeredCallbackUris ctx s ∧
      ∀ r', r' ≠ ctx.callbackUris.getD s.next → s₁.read r' = s.read r' := by
  unfold preferredCallbackUris registeredCallbackUris
  cases ctx.callbackUris with
  | some r => exact ⟨s, rfl, rfl, fun _ _ => rfl⟩
  | none => exact ⟨_, rfl, by simp, fun r' (hr' : r' ≠ s.next) => by simp [hr']⟩

/-- Without targets the call returns a fresh `{}`. -/
theorem run_constructUris_nil (ht : svc.cls.callbackTargets targets = []) :
    (svc.constructUris ctx baseUrl hex targets).run s = .ok s.next (s.alloc []).2 := by
  unfold Service.constructUris
  rw [if_pos (by simp [ht])]
  rfl

/-- A call with targets returns the mapping of the preference once the loop over it returns. -/
theorem run_constructUris_of_loop {s₁ : Store} (ht : svc.cls.callbackTargets targets ≠ [])
    (hpref : (preferredCallbackUris ctx).run s = .ok r s₁)
    (hloop : ((svc.cls.callbackTargets targets).forM
      (registerCallbackUri svc.cls baseUrl hex r)).run s₁ = .ok () s') :
    (svc.constructUris ctx baseUrl hex targets).run s = .ok r s' := by
  unfold Service.constructUris
  rw [if_neg (by simpa [List.isEmpty_iff] using ht), PyM.run_bind_ok _ hpref,
    PyM.run_bind_ok _ hloop]
  rfl

/-- A call with targets reads the preference, then runs the loop over its mapping. -/
theorem run_constructUris (ht : svc.cls.callbackTargets targets ≠ [])
    (h : (svc.constructUris ctx baseUrl hex targets).run s = .ok r s') :
    r = ctx.callbackUris.getD s.next ∧ ∃ s₁, s₁.read r = registeredCallbackUris ctx s ∧
      (∀ r', r' ≠ r → s₁.read r' = s.read r') ∧
      ((svc.cls.callbackTargets targets).forM (registerCallbackUri svc.cls baseUrl hex r)).run s₁ =
        .ok () s' := by
  obtain ⟨s₁, hpref, hread, hframe⟩ := run_preferredCallbackUris ctx s
  unfold Service.constructUris at h
  rw [if_neg (by simpa [List.isEmpty_iff] using ht), PyM.run_bind_ok _ hpref] at h
  obtain ⟨u, s₂, h₂, h₃⟩ := PyM.run_bind_eq_ok _ h
  cases h₃
  exact ⟨rfl, s₁, hread, hframe, h₂⟩

/-- A call that raised raised in the loop over the preference's mapping. -/
theorem run_constructUris_error {e : PyErr} (ht : svc.cls.callbackTargets targets ≠ [])
    (h : (svc.constructUris ctx baseUrl hex targets).run s = .error e s') :
    ∃ s₁, s₁.read (ctx.callbackUris.getD s.next) = registeredCallbackUris ctx s ∧
      ((svc.cls.callbackTargets targets).forM (registerCallbackUri svc.cls baseUrl hex
        (ctx.callbackUris.getD s.next))).run s₁ = .error e s' := by
  obtain ⟨s₁, hpref, hread, -⟩ := run_preferredCallbackUris ctx s
  unfold Service.constructUris at h
  rw [if_neg (by simpa [List.isEmpty_iff] using ht), PyM.run_bind_ok _ hpref] at h
  rcases PyM.run_bind_eq_error _ h with h₂ | ⟨u, s₂, -, h₃⟩
  · exact ⟨s₁, hread, h₂⟩
  · cases h₃

/-! ## The callback-URI contract

The calls below are made for a client whose context has registered one redirect URI, with a
class that declares a redirect path and two request-URI paths. -/

/-- A class declaring one redirect path and two request-URI paths. -/
def callbackClass : ServiceClass where
  settings :=
    { msgType := .cls (.message "Message" [])
      responseCls := .cls (.message "Message" []) }
  callbackPath := [("redirect_uris", .str "authz_cb"),
    ("request_uris", .list [.str "req", .str "req2"])]

/-- A service of `callbackClass`. -/
def callbackService : Service where
  cls := callbackClass
  settings := callbackClass.settings
  conf := 0
  defaultRequestArgs := .dict []
  clientAuthnMethods := []

/-- A context whose `callback_uris` preference is the mapping at reference `0`. -/
def registeredContext : Context := { callbackUris := some 0 }

/-- The preference holds a redirect URI. -/
def registeredStore : Store := Store.ofList [[("redirect_uris", .str "https://rp.example/cb")]]

/-- The store after `construct_uris("https://rp.example", "abc", context)`: the redirect URI is
kept, the request URIs are added. -/
def filedStore : Store :=
  registeredStore.write 0 [("redirect_uris", .str "https://rp.example/cb"),
    ("request_uris", .list [.str "https://rp.example/req/abc", .str "https://rp.example/req2/abc"])]

/-- `construct_uris` returns exactly when every target it has to file, one not registered yet,
has a declared path it can iterate: a target with no path is `None` to the loop. Otherwise it
raises the `TypeError` of such a target's path, `'NoneType' object is not iterable` for a target
the class declares no path for. -/
theorem constructUris_returns_iff (svc : Service) (ctx : Context) (baseUrl hex : String)
    (targets : List String) (s : Store) :
    ((∃ r s', (svc.constructUris ctx baseUrl hex targets).run s = .ok r s') ↔
      ∀ k ∈ svc.cls.callbackTargets targets, (registeredCallbackUris ctx s).contains k = false →
        (callbackUriValue baseUrl hex (svc.cls.getCallbackPath k)).isOk) ∧
    ∀ e s', (svc.constructUris ctx baseUrl hex targets).run s = .error e s' →
      ∃ k ∈ svc.cls.callbackTargets targets, (registeredCallbackUris ctx s).contains k = false ∧
        e = .typeError ("'" ++ (svc.cls.getCallbackPath k).typeName ++ "' object is not iterable") := by
  by_cases ht : svc.cls.callbackTargets targets = []
  · refine ⟨⟨fun _ => by simp [ht], fun _ => ⟨s.next, (s.alloc []).2, run_constructUris_nil ht⟩⟩,
      fun e s' h => ?_⟩
    rw [run_constructUris_nil ht] at h
    cases h
  · refine ⟨⟨fun ⟨r, s', h⟩ => ?_, fun hok => ?_⟩, fun e s' h => ?_⟩
    · obtain ⟨rfl, s₁, hread, -, hloop⟩ := run_constructUris ht h
      exact hread ▸ (run_forM_registerCallbackUri hloop).2.1
    · obtain ⟨s₁, hpref, hread, -⟩ := run_preferredCallbackUris ctx s
      obtain ⟨s', hloop⟩ := run_forM_registerCallbackUri_ok (hread ▸ hok)
      exact ⟨_, s', run_constructUris_of_loop ht hpref hloop⟩
    · obtain ⟨s₁, hread, hloop⟩ := run_constructUris_error ht h
      obtain ⟨k, hk, hk', he⟩ := run_forM_registerCallbackUri_error hloop
      exact ⟨k, hk, hread ▸ hk', callbackUriValue_error he⟩

/-- The callback-URI contract. With at least one target the result is the context's own
mapping (a fresh one without the preference): a registered target keeps its URIs, every other
target gets the URIs of its declared path, no other key appears, and no other mapping of the
store changes. -/
theorem constructUris_merges_registered
    (h : (svc.constructUris ctx baseUrl hex targets).run s = .ok r s')
    (ht : svc.cls.callbackTargets targets ≠ []) :
    r = ctx.callbackUris.getD s.next ∧ (∀ r', r' ≠ r → s'.read r' = s.read r') ∧
      ∀ k, (s'.read r).get k =
        if (registeredCallbackUris ctx s).contains k then (registeredCallbackUris ctx s).get k
        else if k ∈ svc.cls.callbackTargets targets then
          (callbackUriValue baseUrl hex (svc.cls.getCallbackPath k)).toOption
        else none := by
  obtain ⟨rfl, s₁, hread, hframe, hloop⟩ := run_constructUris ht h
  obtain ⟨hframe', -, hget⟩ := run_forM_registerCallbackUri hloop
  refine ⟨rfl, fun r' hr' => (hframe' r' hr').trans (hframe r' hr'), ?_⟩
  rw [← hread]
  exact hget

/-- The contract on a preference that already holds the redirect URI. -/
theorem constructUris_merges_registered_rp :
    (callbackService.constructUris registeredContext "https://rp.example" "abc" []).run
        registeredStore = .ok 0 filedStore ∧
      callbackClass.callbackTargets [] ≠ [] ∧
      0 = registeredContext.callbackUris.getD registeredStore.next ∧
      (∀ r', r' ≠ 0 → filedStore.read r' = registeredStore.read r') ∧
      ∀ k, (filedStore.read 0).get k =
        if (registeredCallbackUris registeredContext registeredStore).contains k then
          (registeredCallbackUris registeredContext registeredStore).get k
        else if k ∈ callbackClass.callbackTargets [] then
          (callbackUriValue "https://rp.example" "abc" (callbackClass.getCallbackPath k)).toOption
        else none :=
  have h : (callbackService.constructUris registeredContext "https://rp.example" "abc" []).run
      registeredStore = .ok 0 filedStore := rfl
  have ht : callbackClass.callbackTargets [] ≠ [] := by decide
  ⟨h, ht, constructUris_merges_registered h ht⟩

/-- The preference is updated in place: a second call with the same arguments finds every
target registered, returns the same mapping and changes nothing. -/
theorem constructUris_twice_unchanged {R : Ref} (hR : ctx.callbackUris = some R)
    (ht : svc.cls.callbackTargets targets ≠ [])
    (h : (svc.constructUris ctx baseUrl hex targets).run s = .ok r s') :
    (svc.constructUris ctx baseUrl hex targets).run s' = .ok R s' := by
  obtain ⟨hr, s₁, -, -, hloop⟩ := run_constructUris ht h
  rw [hR, Option.getD_some] at hr
  subst hr
  obtain ⟨-, hok, hget⟩ := run_forM_registerCallbackUri hloop
  have hfiled : ∀ k ∈ svc.cls.callbackTargets targets, (s'.read r).contains k := by
    intro k hk
    unfold Dict.contains
    rw [hget k]
    by_cases hc : (s₁.read r).contains k
    · rw [if_pos hc]
      exact hc
    · obtain ⟨v, hv⟩ := except_exists_ok_of_isOk (hok k hk (by simpa using hc))
      rw [if_neg hc, if_pos hk, hv]
      rfl
  have hpref : (preferredCallbackUris ctx).run s' = .ok r s' := by
    rw [preferredCallbackUris, hR]
    rfl
  exact run_constructUris_of_loop ht hpref (run_forM_registerCallbackUri_of_contains hfiled)

/-- A second call on the filed store returns the same mapping and changes nothing. -/
theorem constructUris_twice_unchanged_rp :
    registeredContext.callbackUris = some 0 ∧ callbackClass.callbackTargets [] ≠ [] ∧
      (callbackService.constructUris registeredContext "https://rp.example" "abc" []).run
        registeredStore = .ok 0 filedStore ∧
      (callbackService.constructUris registeredContext "https://rp.example" "abc" []).run
        filedStore = .ok 0 filedStore :=
  have hR : registeredContext.callbackUris = some 0 := rfl
  have ht : callbackClass.callbackTargets [] ≠ [] := by decide
  have h : (callbackService.constructUris registeredContext "https://rp.example" "abc" []).run
      registeredStore = .ok 0 filedStore := rfl
  ⟨hR, ht, h, constructUris_twice_unchanged hR ht h⟩

end Call

end IdpyOidc.Client
