import IdpyOidc.Client.Service

/-!
# Resolving request arguments

`gather_request_args` starts from the explicit arguments, merges a `request_args` entry still
in `self.conf`, then walks the parameters the request class declares: a missing one takes the
negotiated value from `collect_usage()` (or `map_preferred_to_registered()` when that is
empty) if truthy, else the configured default if truthy. A last pass copies every configured
default whose key is still absent, falsy values included.

The main result, `gatherRequestArgs_get`, reads the resolved value of every key off the three
sources: explicit argument, truthy negotiated value of a declared parameter, configured default.
-/

namespace IdpyOidc.Client

/-- `self.msg_type.c_param`: the parameters a message class declares. -/
def PyVal.cParam : PyVal → Except PyErr (List String)
  | .cls (.message _ ps) => .ok ps
  | v => let t := v.typeName; .error (.attributeError s!"'{t}' object has no attribute 'c_param'")

/-- The usage mapping `gather_request_args` consults. -/
def Context.use (ctx : Context) : PyDict :=
  if ctx.usage.isEmpty then ctx.preferredToRegistered else ctx.usage

/-- `ar_args.update(self.conf["request_args"])` when the entry is there. -/
def mergeConfRequestArgs (conf kwargs : PyDict) : Except PyErr PyDict :=
  match conf.get "request_args" with
  | some v => kwargs.pyUpdate v
  | none => .ok kwargs

/-- The merge reads the entry as `conf.get("request_args", {})` would: an absent entry merges
like an empty mapping. -/
theorem mergeConfRequestArgs_eq (conf kwargs : PyDict) :
    mergeConfRequestArgs conf kwargs = kwargs.pyUpdate (requestArgsEntry conf) := by
  unfold mergeConfRequestArgs requestArgsEntry
  cases conf.get "request_args" <;> rfl

/-- One pass of the loop over `msg_type.c_param`. -/
def gatherStep (use : PyDict) (defaults : PyVal) (acc : PyDict) (prop : String) :
    Except PyErr PyDict :=
  if acc.contains prop then .ok acc else do
    let val := (use.get prop).getD .none
    let val ← if val.truthy then pure val else (·.getD .none) <$> defaults.dictGet prop
    return if val.truthy then acc.set prop val else acc

/-- The last loop: every default whose key is still absent is copied. -/
def fillDefaults (acc defaults : PyDict) : PyDict :=
  defaults.foldl (fun acc kv => if acc.contains kv.1 then acc else acc.set kv.1 kv.2) acc

/-- `gather_request_args(**kwargs)`, given the current contents of `self.conf`. -/
def Service.gatherRequestArgs (svc : Service) (ctx : Context) (conf kwargs : PyDict) :
    Except PyErr PyDict := do
  let arArgs ← mergeConfRequestArgs conf kwargs
  let ps ← svc.settings.msgType.cParam
  let arArgs ← ps.foldlM (gatherStep ctx.use svc.defaultRequestArgs) arArgs
  let defaults ← svc.defaultRequestArgs.dictItems
  return fillDefaults arArgs defaults

/-- `method_args(context, **kwargs)`: a copy of `self.conf[context]` updated with `kwargs`,
or `kwargs` itself when the configuration has no such entry. A `context` keyword is a second
value for the parameter the call fills by position. -/
def methodArgs (conf : PyDict) (context : String) (kwargs : PyDict) : Except PyErr PyDict := do
  keywordClash "Service.method_args" [] ["context"] kwargs
  match conf.get context with
  | none => .ok kwargs
  | some (.dict d) => .ok (Dict.update d kwargs)
  | some (.list _) => .error (.attributeError "'list' object has no attribute 'update'")
  | some v => let t := v.typeName; .error (.attributeError s!"'{t}' object has no attribute 'copy'")

/-- A returned `gather_request_args` merged the entry, read the declared parameters, and
found a mapping of defaults. -/
theorem gatherRequestArgs_ok_inv {svc : Service} {ctx : Context} {conf kwargs A : PyDict}
    (h : svc.gatherRequestArgs ctx conf kwargs = .ok A) :
    ∃ B ps D, mergeConfRequestArgs conf kwargs = .ok B ∧ svc.settings.msgType.cParam = .ok ps ∧
      svc.defaultRequestArgs = .dict D := by
  unfold Service.gatherRequestArgs at h
  cases hB : mergeConfRequestArgs conf kwargs with
  | error e => simp [hB, bind, Except.bind] at h
  | ok B =>
    cases hps : svc.settings.msgType.cParam with
    | error e => simp [hB, hps, bind, Except.bind] at h
    | ok ps =>
      cases hf : ps.foldlM (gatherStep ctx.use svc.defaultRequestArgs) B with
      | error e => simp [hB, hps, hf, bind, Except.bind] at h
      | ok acc =>
        simp only [hB, hps, hf, bind, Except.bind] at h
        cases hD : svc.defaultRequestArgs with
        | dict D => exact ⟨B, ps, D, rfl, rfl, rfl⟩
        | _ => simp [hD, PyVal.dictItems] at h

/-! ## The resolution loop -/

/-- The value the declared-parameter loop settles on for `prop`: the negotiated value when
truthy, the configured default otherwise. -/
def chosenValue (use defaults : PyDict) (prop : String) : PyVal :=
  let val := (use.get prop).getD .none
  if val.truthy then val else (defaults.get prop).getD .none

/-- One step of the declared-parameter loop when the defaults are a mapping. -/
def fillParam (use D acc : PyDict) (prop : String) : PyDict :=
  if acc.contains prop = false ∧ (chosenValue use D prop).truthy
  then acc.set prop (chosenValue use D prop) else acc

/-- With a mapping as defaults, a step never raises. -/
theorem gatherStep_dict (use D acc : PyDict) (prop : String) :
    gatherStep use (.dict D) acc prop = .ok (fillParam use D acc prop) := by
  unfold gatherStep fillParam chosenValue
  cases hc : acc.contains prop
  · cases hu : ((use.get prop).getD .none).truthy <;>
      simp [hu, PyVal.dictGet, bind, Except.bind, pure, Except.pure, Functor.map, Except.map]
  · simp

/-- Filling one parameter leaves the binding of every other key. -/
theorem fillParam_get_ne {use D acc : PyDict} {p k : String} (h : p ≠ k) :
    (fillParam use D acc p).get k = acc.get k := by
  unfold fillParam; split <;> simp [h]

/-- Filling one parameter leaves the presence of every other key. -/
theorem fillParam_contains_ne {use D acc : PyDict} {p k : String} (h : p ≠ k) :
    (fillParam use D acc p).contains k = acc.contains k := by
  unfold fillParam; split <;> simp [h]

/-- The loop over the declared parameters fills exactly the absent declared keys whose
chosen value is truthy. -/
theorem foldlM_gatherStep (use D : PyDict) (ps : List String) (acc : PyDict) :
    ∃ out, ps.foldlM (gatherStep use (.dict D)) acc = .ok out ∧
      ∀ k, out.get k = if k ∈ ps ∧ acc.contains k = false ∧ (chosenValue use D k).truthy
        then some (chosenValue use D k) else acc.get k := by
  induction ps generalizing acc with
  | nil => exact ⟨acc, rfl, fun k => by simp⟩
  | cons p ps ih =>
    obtain ⟨out, hrun, hget⟩ := ih (fillParam use D acc p)
    refine ⟨out, by simp only [List.foldlM_cons, gatherStep_dict]; exact hrun, fun k => ?_⟩
    rw [hget k]
    by_cases hkp : p = k
    · subst hkp
      unfold fillParam
      cases hn : acc.contains p <;> cases ht : (chosenValue use D p).truthy <;> simp [hn, ht]
    · simp [fillParam_get_ne hkp, fillParam_contains_ne hkp, Ne.symm hkp]

/-- The final loop adds each absent default. -/
theorem fillDefaults_get (acc D : PyDict) (k : String) :
    (fillDefaults acc D).get k = if acc.contains k then acc.get k else D.get k := by
  induction D generalizing acc with
  | nil => by_cases h : acc.contains k <;> simp_all [fillDefaults, Dict.contains_eq_false]
  | cons kv D ih =>
    obtain ⟨k', v⟩ := kv
    change (fillDefaults (if acc.contains k' then acc else acc.set k' v) D).get k = _
    rw [ih, Dict.get_cons]
    by_cases hk : k' = k
    · subst hk; by_cases h : acc.contains k' <;> simp [h]
    · by_cases h : acc.contains k' <;> simp [h, hk]

/-- The precedence law of `gather_request_args`: an argument already present after the merge
wins; a declared parameter then takes a truthy negotiated value; every other key takes the
configured default, if there is one. -/
theorem gatherRequestArgs_get (svc : Service) (ctx : Context) (conf kwargs B D : PyDict)
    (ps : List String) (hB : mergeConfRequestArgs conf kwargs = .ok B)
    (hps : svc.settings.msgType.cParam = .ok ps) (hD : svc.defaultRequestArgs = .dict D) :
    ∃ A, svc.gatherRequestArgs ctx conf kwargs = .ok A ∧
      ∀ k, A.get k = if B.contains k then B.get k
        else if k ∈ ps ∧ ((ctx.use.get k).getD .none).truthy then ctx.use.get k
        else D.get k := by
  obtain ⟨out, hrun, hget⟩ := foldlM_gatherStep ctx.use D ps B
  refine ⟨fillDefaults out D, ?_, fun k => ?_⟩
  · simp only [Service.gatherRequestArgs, hB, hps, hD, hrun, PyVal.dictItems, bind, Except.bind,
      pure, Except.pure]
  · have hout : out.contains k = (out.get k).isSome := rfl
    rw [fillDefaults_get, hout, hget k]
    unfold chosenValue
    cases hb : B.get k with
    | some v => simp [Dict.contains, hb]
    | none =>
      have hbc : B.contains k = false := (Dict.contains_eq_false B k).mpr hb
      by_cases hk : k ∈ ps
      · cases hU : ctx.use.get k with
        | some u =>
          cases hDk : D.get k with
          | some d => cases hu : u.truthy <;> cases hd : d.truthy <;> simp [hbc, hk, hu, hd, hDk]
          | none => cases hu : u.truthy <;> simp [hbc, hk, hu, hDk]
        | none =>
          cases hDk : D.get k with
          | some d => cases hd : d.truthy <;> simp [hbc, hk, hd, hDk]
          | none => simp [hbc, hk, hDk]
      · simp [hbc, hk]

end IdpyOidc.Client
