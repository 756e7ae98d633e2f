import IdpyOidc.Client.CallbackUris

/-!
# Supported and included metadata

A service class declares in `_supports` the metadata it can support, each with its value or a
callable that computes it, and in `_include` values it adds to the client's preferences.
`supports()` resolves the first into a fresh mapping and `supported(claim)` tests a key of it.
`extends(info)` merges the second into the caller's mapping in place: a claim the mapping holds
is extended, as a list, by the items of the included value, and any other claim is filed with
a copy of it.

`extends` is the one method of the service that reassigns bindings of a mapping it was handed,
and it is not idempotent: a second call extends each included list again.
-/

namespace IdpyOidc.Client

/-! ## `supports()` and `supported(claim)` -/

/-- One pass of the loop of `supports()`. -/
def supportsStep (res : PyDict) (kv : String × SupportValue) : Except PyErr PyDict := do
  let v ← kv.2.resolve
  pure (res.set kv.1 v)

/-- `supports()`. -/
def Service.supports (svc : Service) : Except PyErr PyDict :=
  svc.cls.supports.foldlM supportsStep []

/-- `supported(claim)`: `claim in self._supports`. -/
def Service.supported (svc : Service) (claim : String) : Bool :=
  svc.cls.supports.contains claim

/-- The loop of `supports()` over distinct keys files each key with its resolved value. -/
theorem foldlM_supportsStep {xs : Dict SupportValue} (hnd : Dict.NodupKeys xs) {acc res : PyDict}
    (h : xs.foldlM supportsStep acc = .ok res) (k : String) :
    res.get k = match xs.get k with
      | none => acc.get k
      | some v => v.resolve.toOption := by
  induction xs generalizing acc with
  | nil => cases h; rfl
  | cons kv xs ih =>
    obtain ⟨j, w⟩ := kv
    have ⟨hfresh, hnd'⟩ := List.nodup_cons.mp hnd
    rw [List.foldlM_cons] at h
    obtain ⟨acc', h₁, h₂⟩ := except_bind_eq_ok h
    obtain ⟨v, hv, hacc⟩ := except_bind_eq_ok h₁
    cases hacc
    rw [ih hnd' h₂, Dict.get_cons]
    by_cases hjk : j = k
    · subst hjk
      rw [(Dict.get_eq_none_iff xs j).mpr hfresh]
      simp [hv, Except.toOption]
    · simp [hjk]

/-- A returned loop of `supports()` called every callable it met, and each returned. -/
theorem resolve_isOk_of_foldlM_supportsStep {xs : Dict SupportValue} {acc res : PyDict}
    (h : xs.foldlM supportsStep acc = .ok res) : ∀ kv ∈ xs, kv.2.resolve.isOk := by
  induction xs generalizing acc with
  | nil => intro kv hkv; cases hkv
  | cons kv xs ih =>
    rw [List.foldlM_cons] at h
    obtain ⟨acc', h₁, h₂⟩ := except_bind_eq_ok h
    obtain ⟨v, hv, -⟩ := except_bind_eq_ok h₁
    intro kv' hkv'
    rcases List.mem_cons.mp hkv' with rfl | hm
    · rw [hv]; rfl
    · exact ih h₂ kv' hm

/-- `supports()` files every key of `_supports`, each callable replaced by what it returned, and
nothing else; so `supported(claim)` holds exactly of the keys of what `supports()` returns. -/
theorem supports_resolves (svc : Service) (hnd : Dict.NodupKeys svc.cls.supports) (res : PyDict)
    (h : svc.supports = .ok res) (k : String) :
    res.get k = (svc.cls.supports.get k).bind (·.resolve.toOption) ∧
      svc.supported k = res.contains k := by
  have hres : res.get k = (svc.cls.supports.get k).bind (·.resolve.toOption) := by
    rw [foldlM_supportsStep hnd h k]; cases svc.cls.supports.get k <;> rfl
  refine ⟨hres, ?_⟩
  unfold Service.supported Dict.contains
  rw [hres]
  cases hk : svc.cls.supports.get k with
  | none => rfl
  | some v =>
    obtain ⟨a, ha⟩ := except_exists_ok_of_isOk
      (resolve_isOk_of_foldlM_supportsStep h _ (Dict.mem_of_get_eq_some hk))
    simp [ha, Except.toOption]

/-- A registration class that supports two claims, one computed by a callable, and includes a
grant type. -/
def metadataClass : ServiceClass where
  settings :=
    { msgType := .cls (.message "RegistrationRequest" [])
      responseCls := .cls (.message "RegistrationResponse" []) }
  supports := [("response_types_supported", .value (.list [.str "code"])),
    ("request_object_signing_alg_values_supported",
      .callable (.ok (.list [.str "RS256", .str "ES256"])))]
  includeClaims := [("grant_types", .list [.str "authorization_code"])]

/-- The service of `metadataClass`, with its configuration at `1`. -/
def metadataService : Service where
  cls := metadataClass
  settings := metadataClass.settings
  conf := 1
  defaultRequestArgs := .dict []
  clientAuthnMethods := []

/-- What `metadataService.supports` returns. -/
def metadataSupports : PyDict :=
  [("response_types_supported", .list [.str "code"]),
    ("request_object_signing_alg_values_supported", .list [.str "RS256", .str "ES256"])]

/-- The metadata service files each supported key with its resolved value. -/
theorem supports_resolves_metadata :
    Dict.NodupKeys metadataService.cls.supports ∧
    metadataService.supports = .ok metadataSupports ∧
    (metadataSupports.get "request_object_signing_alg_values_supported" =
      (metadataService.cls.supports.get "request_object_signing_alg_values_supported").bind
        (·.resolve.toOption) ∧
    metadataService.supported "request_object_signing_alg_values_supported" =
      metadataSupports.contains "request_object_signing_alg_values_supported") :=
  have hnd : Dict.NodupKeys metadataService.cls.supports := by decide
  have h : metadataService.supports = .ok metadataSupports := rfl
  ⟨hnd, h, supports_resolves metadataService hnd _ h _⟩

/-! ## `extends(info)` -/

/-- `cur.extend(val)`: only a list has `extend`, and it takes the items of any iterable. -/
def PyVal.extend (cur val : PyVal) : Except PyErr PyVal :=
  match cur with
  | .list xs => val.iter.map fun ys => .list (xs ++ ys)
  | cur =>
    let t := cur.typeName
    .error (.attributeError s!"'{t}' object has no attribute 'extend'")

/-- What `extends` files under an included claim, from what the mapping holds there: the held
list extended by the included items, or a copy of the included value. -/
def extendedClaim (old : Option PyVal) (val : PyVal) : Except PyErr PyVal :=
  match old with
  | some cur => cur.extend val
  | none => .ok val

/-- One pass of the loop of `extends` over the caller's mapping `info`. -/
def includeClaim (info : Ref) (claim : String × PyVal) : PyM Unit := do
  let d ← PyM.read info
  match d.get claim.1 with
  | some cur =>
    let v ← PyM.lift (cur.extend claim.2)
    PyM.write info (d.set claim.1 v)
  | none => PyM.write info (d.set claim.1 claim.2)

/-- `extends(info)`: the caller's mapping, extended in place, is returned. -/
def Service.extends (svc : Service) (info : Ref) : PyM Ref := do
  svc.cls.includeClaims.forM (includeClaim info)
  pure info

/-- An included claim merges exactly when the mapping holds nothing there, or a list and the
included value is iterable. -/
theorem extendedClaim_isOk_iff (old : Option PyVal) (val : PyVal) :
    (extendedClaim old val).isOk ↔
      ∀ cur, old = some cur → ∃ xs ys, cur = .list xs ∧ val.iter = .ok ys := by
  cases old with
  | none => exact ⟨fun _ _ h => (nomatch h), fun _ => rfl⟩
  | some cur =>
    simp only [extendedClaim, Option.some.injEq, forall_eq']
    cases cur with
    | list xs =>
      cases hv : val.iter <;> simp [PyVal.extend, hv, Except.map, Except.isOk, Except.toBool]
    | _ => simp [PyVal.extend, Except.isOk, Except.toBool]

section Extends

variable {info : Ref}

/-- One pass, as the store sees it. -/
theorem run_includeClaim (claim : String × PyVal) (s : Store) :
    (includeClaim info claim).run s =
      match extendedClaim ((s.read info).get claim.1) claim.2 with
      | .ok v => .ok () (s.write info ((s.read info).set claim.1 v))
      | .error e => .error e s := by
  unfold includeClaim extendedClaim
  rw [PyM.run_bind_ok _ (PyM.run_read _ info)]
  split
  · next cur _ => cases cur.extend claim.2 <;> rfl
  · rfl

/-- The loop of `extends` over claims with distinct keys merges each into what the mapping held
before the call, and writes nothing but the mapping. -/
theorem run_forM_includeClaim {xs : PyDict} (hnd : Dict.NodupKeys xs) {s s' : Store}
    (h : (xs.forM (includeClaim info)).run s = .ok () s') :
    (∀ r, r ≠ info → s'.read r = s.read r) ∧
      ∀ k, (s'.read info).get k = match xs.get k with
        | none => (s.read info).get k
        | some val => (extendedClaim ((s.read info).get k) val).toOption := by
  induction xs generalizing s with
  | nil => cases h; exact ⟨fun _ _ => rfl, fun _ => rfl⟩
  | cons kv xs ih =>
    obtain ⟨j, val⟩ := kv
    have ⟨hfresh, hnd'⟩ := List.nodup_cons.mp hnd
    rw [List.forM_cons'] at h
    obtain ⟨u, s₁, h₁, h₂⟩ := PyM.run_bind_eq_ok _ h
    rw [run_includeClaim] at h₁
    split at h₁
    · next v hv =>
      cases h₁
      obtain ⟨hframe, hget⟩ := ih hnd' h₂
      refine ⟨fun r hr => by rw [hframe r hr]; simp [hr], fun k => ?_⟩
      rw [hget k, Dict.get_cons]
      by_cases hjk : j = k
      · subst hjk
        rw [(Dict.get_eq_none_iff xs j).mpr hfresh]
        simp [hv, Except.toOption]
      · simp [hjk]
    · cases h₁

/-- The loop of `extends` over claims with distinct keys returns exactly when each claim merges
into what the mapping held before the call. -/
theorem run_forM_includeClaim_ok_iff {xs : PyDict} (hnd : Dict.NodupKeys xs) (s : Store) :
    (∃ s', (xs.forM (includeClaim info)).run s = .ok () s') ↔
      ∀ kv ∈ xs, (extendedClaim ((s.read info).get kv.1) kv.2).isOk := by
  induction xs generalizing s with
  | nil => exact ⟨fun _ _ h => (nomatch h), fun _ => ⟨s, rfl⟩⟩
  | cons kv xs ih =>
    obtain ⟨j, val⟩ := kv
    have ⟨hfresh, hnd'⟩ := List.nodup_cons.mp hnd
    -- the pass over `j` leaves every later claim's binding as it was
    have hlater : ∀ v, ∀ kv ∈ xs,
        ((s.write info ((s.read info).set j v)).read info).get kv.1 = (s.read info).get kv.1 :=
      fun v kv hkv => by
      have hne : j ≠ kv.1 := by
        rintro rfl
        have hmem := List.mem_map_of_mem Prod.fst hkv
        exact hfresh hmem
      simp [hne]
    rw [List.forall_mem_cons, List.forM_cons']
    cases hv : extendedClaim ((s.read info).get j) val with
    | error e =>
      refine ⟨fun ⟨s', h⟩ => ?_, fun h => (Bool.false_ne_true h.1).elim⟩
      rw [PyM.run_bind, run_includeClaim, hv] at h
      cases h
    | ok v =>
      have h₁ : (includeClaim info (j, val)).run s =
          .ok () (s.write info ((s.read info).set j v)) := by
        rw [run_includeClaim, hv]
      rw [PyM.run_bind_ok _ h₁, ih hnd']
      exact ⟨fun h => ⟨rfl, fun kv hkv => hlater v kv hkv ▸ h kv hkv⟩,
        fun h kv hkv => (hlater v kv hkv).symm ▸ h.2 kv hkv⟩

/-- A returned `extends` returns `info` after running the whole loop. -/
theorem run_extends_eq_ok {svc : Service} {s s' : Store} {r : Ref}
    (h : (svc.extends info).run s = .ok r s') :
    r = info ∧ (svc.cls.includeClaims.forM (includeClaim info)).run s = .ok () s' := by
  obtain ⟨u, s₁, h₁, h₂⟩ := PyM.run_bind_eq_ok _ h
  cases h₂
  exact ⟨rfl, h₁⟩

end Extends

/-- Client preferences at `0` that already name the implicit grant. -/
def preferenceStore : Store := Store.ofList [[("grant_types", .list [.str "implicit"])]]

/-- The preferences after `metadataService.extends 0`. -/
def extendedStore : Store :=
  preferenceStore.write 0 [("grant_types", .list [.str "implicit", .str "authorization_code"])]

/-- `extends` raises exactly when the mapping holds a claim of `_include` with a value other than
a list, or holds it while the included value is not iterable. -/
theorem extends_returns_iff (svc : Service) (info : Ref) (s : Store)
    (hnd : Dict.NodupKeys svc.cls.includeClaims) :
    (∃ s', (svc.extends info).run s = .ok info s') ↔
      ∀ kv ∈ svc.cls.includeClaims, ∀ cur, (s.read info).get kv.1 = some cur →
        ∃ xs ys, cur = .list xs ∧ kv.2.iter = .ok ys := by
  refine Iff.trans ?_ ((run_forM_includeClaim_ok_iff hnd s).trans
    (forall₂_congr fun kv _ => extendedClaim_isOk_iff _ _))
  refine ⟨fun ⟨s', h⟩ => ⟨s', (run_extends_eq_ok h).2⟩, fun ⟨s', h⟩ => ⟨s', ?_⟩⟩
  unfold Service.extends
  rw [PyM.run_bind_ok _ h]
  rfl

/-- The return condition at a mapping of preferences. -/
theorem extends_returns_iff_metadata :
    Dict.NodupKeys metadataService.cls.includeClaims ∧
    ((∃ s', (metadataService.extends 0).run preferenceStore = .ok 0 s') ↔
      ∀ kv ∈ metadataService.cls.includeClaims, ∀ cur,
        (preferenceStore.read 0).get kv.1 = some cur →
        ∃ xs ys, cur = .list xs ∧ kv.2.iter = .ok ys) :=
  have hnd : Dict.NodupKeys metadataService.cls.includeClaims := by decide
  ⟨hnd, extends_returns_iff metadataService 0 preferenceStore hnd⟩

/-- `extends` is not idempotent. After a call, each claim of `_include` holds a list (when a
second call returns), and the second call appends the included items to it again. -/
theorem extends_twice (svc : Service) (info : Ref) (s s₁ s₂ : Store)
    (hnd : Dict.NodupKeys svc.cls.includeClaims)
    (h₁ : (svc.extends info).run s = .ok info s₁)
    (h₂ : (svc.extends info).run s₁ = .ok info s₂)
    (k : String) (val : PyVal) (ys : List PyVal) (hk : svc.cls.includeClaims.get k = some val)
    (hys : val.iter = .ok ys) :
    ∃ xs, (s₁.read info).get k = some (.list xs) ∧
      (s₂.read info).get k = some (.list (xs ++ ys)) := by
  have hmem := Dict.mem_of_get_eq_some hk
  have hloop₁ := (run_extends_eq_ok h₁).2
  have hloop₂ := (run_extends_eq_ok h₂).2
  -- the first call filed the claim
  obtain ⟨v₁, hv₁⟩ := except_exists_ok_of_isOk
    ((run_forM_includeClaim_ok_iff hnd s).mp ⟨s₁, hloop₁⟩ _ hmem)
  have hget₁ : (s₁.read info).get k = some v₁ := by
    rw [(run_forM_includeClaim hnd hloop₁).2 k, hk]
    simp only at hv₁
    simp [hv₁, Except.toOption]
  -- the second call could extend it, so it is a list
  obtain ⟨xs, ys', rfl, -⟩ := (extendedClaim_isOk_iff _ _).mp
    ((run_forM_includeClaim_ok_iff hnd s₁).mp ⟨s₂, hloop₂⟩ _ hmem) _ hget₁
  refine ⟨xs, hget₁, ?_⟩
  rw [(run_forM_includeClaim hnd hloop₂).2 k, hk, hget₁]
  simp [extendedClaim, PyVal.extend, hys, Except.map, Except.toOption]

/-- The preferences after `metadataService.extends 0` twice. -/
def extendedTwiceStore : Store :=
  extendedStore.write 0
    [("grant_types", .list [.str "implicit", .str "authorization_code", .str "authorization_code"])]

/-- A second `extends` appends the included values again. -/
theorem extends_twice_metadata :
    Dict.NodupKeys metadataService.cls.includeClaims ∧
    (metadataService.extends 0).run preferenceStore = .ok 0 extendedStore ∧
    (metadataService.extends 0).run extendedStore = .ok 0 extendedTwiceStore ∧
    metadataService.cls.includeClaims.get "grant_types" =
      some (.list [.str "authorization_code"]) ∧
    (PyVal.list [.str "authorization_code"]).iter = .ok [.str "authorization_code"] ∧
    ∃ xs, (extendedStore.read 0).get "grant_types" = some (.list xs) ∧
      (extendedTwiceStore.read 0).get "grant_types" =
        some (.list (xs ++ [.str "authorization_code"])) :=
  have hnd : Dict.NodupKeys metadataService.cls.includeClaims := by decide
  have h₁ : (metadataService.extends 0).run preferenceStore = .ok 0 extendedStore := rfl
  have h₂ : (metadataService.extends 0).run extendedStore = .ok 0 extendedTwiceStore := rfl
  ⟨hnd, h₁, h₂, rfl, rfl, extends_twice metadataService 0 preferenceStore extendedStore
    extendedTwiceStore hnd h₁ h₂ "grant_types" _ _ rfl rfl⟩

end IdpyOidc.Client
