import IdpyOidc.Client.Store

/-!
# Footprints of service code

The methods of `Service` that a client calls after `__init__` mostly add bindings to the
mappings they are handed (the `state` of the request arguments, the URIs of new callback
targets) and never delete or reassign one. The exception is the `http_args` mapping a caller
hands `get_request_parameters`: the authentication strategy fills it in, and the content type
of a POST is written into the headers bound in it, reassigning that binding.

`Store.ExtendsBy P C s s'` says this of two stores. Outside the footprint `C`, every mapping
of `s` keeps each binding it had, and each binding it gained is at a key the footprint `P`
allows; inside `C` anything may change. A mapping in which neither allows a key is unchanged.
Mappings created after `s` are not constrained.

`PyM.KeepsBy P C x` says it of every run of `x`, returning or raising: an exception keeps the
side effects made before it. `PyM.Returns x Q` says what `x` returns, given the store it
started from, so that a value naming a mapping can be said to name one the caller passed or
one the run created. The rules below derive both for a program from its parts, so each
operation of the service gets its footprint without its runs being unfolded.
-/

namespace IdpyOidc.Client

namespace Store

/-- `s'` extends `s` within the footprint `P`, and changes freely only within `C`. -/
structure ExtendsBy (P C : Ref → String → Prop) (s s' : Store) : Prop where
  next_le : s.next ≤ s'.next
  keeps : ∀ r < s.next, ∀ k v, ¬C r k → (s.read r).get k = some v → (s'.read r).get k = some v
  adds : ∀ r < s.next, ∀ k, ¬C r k → (s.read r).get k = none → (s'.read r).get k ≠ none → P r k
  frame : ∀ r < s.next, (∀ k, ¬P r k ∧ ¬C r k) → s'.read r = s.read r

namespace ExtendsBy

variable {P Q C D : Ref → String → Prop} {s₁ s₂ s₃ : Store}

/-- A store extends itself within any footprint. -/
theorem refl (P C : Ref → String → Prop) (s : Store) : ExtendsBy P C s s :=
  ⟨le_rfl, fun _ _ _ _ _ h => h, fun _ _ _ _ h h' => absurd h h', fun _ _ _ => rfl⟩

/-- Footprints that agree on the mappings of `s₁` give the same relation from `s₁`. -/
theorem mono_of (h : ExtendsBy P C s₁ s₂) (hPQ : ∀ r < s₁.next, ∀ k, P r k → Q r k)
    (hCD : ∀ r < s₁.next, ∀ k, C r k → D r k) : ExtendsBy Q D s₁ s₂ := by
  refine ⟨h.next_le, fun r hr k v hD hv => h.keeps r hr k v (fun hC => hD (hCD r hr k hC)) hv,
    fun r hr k hD h₁ h₂ => hPQ r hr k (h.adds r hr k (fun hC => hD (hCD r hr k hC)) h₁ h₂),
    fun r hr hQ => h.frame r hr fun k => ?_⟩
  exact ⟨fun hP => (hQ k).1 (hPQ r hr k hP), fun hC => (hQ k).2 (hCD r hr k hC)⟩

/-- A wider footprint. -/
theorem mono (h : ExtendsBy P C s₁ s₂) (hPQ : ∀ r k, P r k → Q r k)
    (hCD : ∀ r k, C r k → D r k) : ExtendsBy Q D s₁ s₂ :=
  h.mono_of (fun r _ => hPQ r) fun r _ => hCD r

/-- A later extension counts within `P` and `C` when, on the mappings of `s₁`, its footprints
lie within them; what it does to mappings created in between is not constrained. -/
theorem trans_of (h₁ : ExtendsBy P C s₁ s₂) (h₂ : ExtendsBy Q D s₂ s₃)
    (hQP : ∀ r < s₁.next, ∀ k, Q r k → P r k) (hDC : ∀ r < s₁.next, ∀ k, D r k → C r k) :
    ExtendsBy P C s₁ s₃ := by
  have hlt : ∀ r < s₁.next, r < s₂.next := fun r hr => lt_of_lt_of_le hr h₁.next_le
  have hD : ∀ r < s₁.next, ∀ k, ¬C r k → ¬D r k := fun r hr k hC hD => hC (hDC r hr k hD)
  refine ⟨h₁.next_le.trans h₂.next_le, fun r hr k v hC hv => h₂.keeps r (hlt r hr) k v
    (hD r hr k hC) (h₁.keeps r hr k v hC hv), fun r hr k hC hnone hsome => ?_,
    fun r hr hP => ?_⟩
  · cases hmid : (s₂.read r).get k with
    | none => exact hQP r hr k (h₂.adds r (hlt r hr) k (hD r hr k hC) hmid hsome)
    | some v => exact h₁.adds r hr k hC hnone (by rw [hmid]; exact Option.some_ne_none v)
  · have hQD : ∀ k, ¬Q r k ∧ ¬D r k := fun k =>
      ⟨fun hQ => (hP k).1 (hQP r hr k hQ), hD r hr k (hP k).2⟩
    rw [h₂.frame r (hlt r hr) hQD, h₁.frame r hr hP]

/-- Two extensions within the same footprints. -/
theorem trans (h₁ : ExtendsBy P C s₁ s₂) (h₂ : ExtendsBy P C s₂ s₃) : ExtendsBy P C s₁ s₃ :=
  h₁.trans_of h₂ (fun _ _ _ h => h) fun _ _ _ h => h

end ExtendsBy

/-- Filing a new key is within any footprint that allows that key. -/
theorem extendsBy_write_set {P C : Ref → String → Prop} {s : Store} {r : Ref} {k : String}
    (v : PyVal) (hP : P r k) (hk : (s.read r).get k = none) :
    ExtendsBy P C s (s.write r ((s.read r).set k v)) := by
  refine ⟨le_rfl, fun r' _ k' v' _ hv => ?_, fun r' _ k' _ hnone hsome => ?_, fun r' _ hr' => ?_⟩
  · by_cases hr : r' = r
    · subst hr
      have hkk : k ≠ k' := fun hkk => by rw [hkk, hv] at hk; cases hk
      simpa [hkk] using hv
    · simpa [hr] using hv
  · by_cases hr : r' = r
    · subst hr
      by_cases hkk : k = k'
      · exact hkk ▸ hP
      · simp [hkk, hnone] at hsome
    · simp [hr, hnone] at hsome
  · have hr : r' ≠ r := fun hr => (hr' k).1 (hr ▸ hP)
    simp [hr]

/-- Any write to a mapping the footprint `C` gives up whole. -/
theorem extendsBy_write_of {P C : Ref → String → Prop} {s : Store} {r : Ref}
    (hC : ∀ k, C r k) (d : PyDict) : ExtendsBy P C s (s.write r d) := by
  refine ⟨le_rfl, fun r' _ k v hC' hv => ?_, fun r' _ k hC' hnone hsome => ?_, fun r' _ h => ?_⟩
  · have hr : r' ≠ r := fun hr => hC' (hr ▸ hC k)
    simpa [hr] using hv
  · have hr : r' ≠ r := fun hr => hC' (hr ▸ hC k)
    simp [hr, hnone] at hsome
  · have hr : r' ≠ r := fun hr => (h "").2 (hr ▸ hC "")
    simp [hr]

/-- A fresh mapping leaves every existing one as it was. -/
theorem extendsBy_alloc (P C : Ref → String → Prop) (s : Store) (d : PyDict) :
    ExtendsBy P C s (s.alloc d).2 := by
  have hread : ∀ r < s.next, (s.alloc d).2.read r = s.read r := fun r hr => by
    simp [Nat.ne_of_lt hr]
  exact ⟨Nat.le_succ _, fun r hr k v _ hv => by rw [hread r hr]; exact hv,
    fun r hr k _ h₁ h₂ => absurd (by rw [hread r hr]; exact h₁) h₂,
    fun r hr _ => hread r hr⟩

end Store

namespace PyM

variable {α β : Type}

/-- The store a run ends in, whether it returned or raised. -/
def after : EStateM.Result PyErr Store α → Store
  | .ok _ s => s
  | .error _ s => s

/-- The store after a run that returned. -/
@[simp] theorem after_ok (a : α) (s : Store) :
    after (.ok a s : EStateM.Result PyErr Store α) = s := rfl

/-- The store after a run that raised. -/
@[simp] theorem after_error (e : PyErr) (s : Store) :
    after (.error e s : EStateM.Result PyErr Store α) = s := rfl

/-- Every run of `x`, returning or raising, changes the store within the footprints `P`
and `C`. -/
def KeepsBy (P C : Ref → String → Prop) (x : PyM α) : Prop :=
  ∀ s, Store.ExtendsBy P C s (after (x.run s))

/-- Every value `x` returns satisfies `Q`, given the store the run started from. -/
def Returns (x : PyM α) (Q : Store → α → Prop) : Prop :=
  ∀ s a s', x.run s = .ok a s' → Q s a

/-- `x` only reads: every run ends in the store it started from. -/
def ReadsOnly (x : PyM α) : Prop :=
  ∀ s, after (x.run s) = s

/-- Returning a value only reads. -/
theorem readsOnly_pure (a : α) : ReadsOnly (pure a : PyM α) := fun _ => rfl

/-- Reading a mapping only reads. -/
theorem readsOnly_read (r : Ref) : ReadsOnly (read r) := fun _ => rfl

/-- Code that touches no mapping only reads. -/
theorem readsOnly_lift (e : Except PyErr α) : ReadsOnly (lift e) := fun _ => by cases e <;> rfl

/-! ## Rules -/

section Rules

variable {P Q C D : Ref → String → Prop}

/-- Wider footprints. -/
theorem KeepsBy.mono {x : PyM α} (h : KeepsBy P C x) (hPQ : ∀ r k, P r k → Q r k)
    (hCD : ∀ r k, C r k → D r k) : KeepsBy Q D x :=
  fun s => (h s).mono hPQ hCD

/-- A weaker postcondition. -/
theorem Returns.mono {x : PyM α} {R S : Store → α → Prop} (h : Returns x R)
    (hRS : ∀ s a, R s a → S s a) : Returns x S :=
  fun s a s' hx => hRS s a (h s a s' hx)

/-- Code that only reads changes no mapping. -/
theorem keepsBy_of_readsOnly {x : PyM α} (h : ReadsOnly x) : KeepsBy P C x :=
  fun s => by rw [h s]; exact Store.ExtendsBy.refl P C s

/-- Returning a value changes nothing. -/
theorem keepsBy_pure (a : α) : KeepsBy P C (pure a : PyM α) :=
  keepsBy_of_readsOnly (readsOnly_pure a)

/-- Reading a mapping changes nothing. -/
theorem keepsBy_read (r : Ref) : KeepsBy P C (read r) :=
  keepsBy_of_readsOnly (readsOnly_read r)

/-- Code that touches no mapping changes nothing. -/
theorem keepsBy_lift (e : Except PyErr α) : KeepsBy P C (lift e) :=
  keepsBy_of_readsOnly (readsOnly_lift e)

/-- Allocating changes no existing mapping. -/
theorem keepsBy_alloc (d : PyDict) : KeepsBy P C (alloc d) :=
  fun s => Store.extendsBy_alloc P C s d

/-- Writing a mapping `C` gives up whole. -/
theorem keepsBy_write {r : Ref} (hC : ∀ k, C r k) (d : PyDict) : KeepsBy P C (write r d) :=
  fun _ => Store.extendsBy_write_of hC d

/-- `pure a` returns `a`. -/
theorem returns_pure (a : α) : Returns (pure a : PyM α) fun _ b => b = a :=
  fun _ _ _ h => by cases h; rfl

/-- An allocation returns the first unused reference. -/
theorem returns_alloc (d : PyDict) : Returns (alloc d) fun s r => r = s.next :=
  fun _ _ _ h => by cases h; rfl

/-- Code that touches no mapping returns what it computes. -/
theorem returns_lift (e : Except PyErr α) : Returns (lift e) fun _ a => e = .ok a :=
  fun _ _ _ h => (run_lift_eq_ok _ h).1

/-- Sequencing, where the rest of the run may rely on what the first part returned, and may
also touch the mappings created since the first part started. -/
theorem keepsBy_bind_of_returns {x : PyM α} {f : α → PyM β} {R : Store → α → Prop}
    (hx : KeepsBy P C x) (hR : Returns x R)
    (hf : ∀ s a, R s a →
      KeepsBy (fun r k => P r k ∨ s.next ≤ r) (fun r k => C r k ∨ s.next ≤ r) (f a)) :
    KeepsBy P C (x >>= f) := by
  intro s
  have h₁ := hx s
  rw [run_bind]
  cases hxs : x.run s with
  | ok a s' =>
    rw [hxs] at h₁
    exact h₁.trans_of (hf s a (hR s a s' hxs) s') (fun r hr k h => h.resolve_right
      (Nat.not_le_of_lt hr)) fun r hr k h => h.resolve_right (Nat.not_le_of_lt hr)
  | error e s' => rw [hxs] at h₁; exact h₁

/-- Sequencing. -/
theorem keepsBy_bind {x : PyM α} {f : α → PyM β} (hx : KeepsBy P C x)
    (hf : ∀ a, KeepsBy P C (f a)) : KeepsBy P C (x >>= f) :=
  keepsBy_bind_of_returns hx (fun _ _ _ _ => trivial : Returns x fun _ _ => True) fun _ a _ =>
    (hf a).mono (fun _ _ => .inl) fun _ _ => .inl

/-- What a sequence returns, from what its rest returns once the first part has run: the
store only grows in between. -/
theorem returns_bind {x : PyM α} {f : α → PyM β} {R : Store → α → Prop} {S : Store → β → Prop}
    (hx : KeepsBy P C x) (hR : Returns x R)
    (hf : ∀ s a, R s a → Returns (f a) fun s' b => s.next ≤ s'.next → S s b) :
    Returns (x >>= f) S := by
  intro s b s'' h
  obtain ⟨a, s', h₁, h₂⟩ := run_bind_eq_ok s h
  have hle : s.next ≤ s'.next := by simpa [h₁] using (hx s).next_le
  exact hf s a (hR s a s' h₁) s' b s'' h₂ hle

/-- After a first part that only reads, the rest starts from the same store. -/
theorem returns_bind_of_readsOnly {x : PyM α} {f : α → PyM β} {S : Store → β → Prop}
    (hx : ReadsOnly x) (hf : ∀ a, Returns (f a) S) : Returns (x >>= f) S := by
  intro s b s'' h
  obtain ⟨a, s', h₁, h₂⟩ := run_bind_eq_ok s h
  have hs : s' = s := by simpa [h₁] using hx s
  exact hf a s b s'' (hs ▸ h₂)

/-- Whatever the first part does, a sequence returns what its rest returns. -/
theorem returns_bind_right {x : PyM α} {f : α → PyM β} {S : Store → β → Prop}
    (hf : ∀ a, Returns (f a) fun _ b => ∀ s, S s b) : Returns (x >>= f) S := by
  intro s b s'' h
  obtain ⟨a, s', -, h₂⟩ := run_bind_eq_ok s h
  exact hf a s' b s'' h₂ s

/-- Sequencing, for a footprint and what is returned at once. -/
theorem keepsBy_returns_bind {x : PyM α} {f : α → PyM β} {R : Store → α → Prop}
    {S : Store → β → Prop} (hx : KeepsBy P C x ∧ Returns x R)
    (hf : ∀ s a, R s a →
      KeepsBy (fun r k => P r k ∨ s.next ≤ r) (fun r k => C r k ∨ s.next ≤ r) (f a) ∧
        Returns (f a) fun s' b => s.next ≤ s'.next → S s b) :
    KeepsBy P C (x >>= f) ∧ Returns (x >>= f) S :=
  ⟨keepsBy_bind_of_returns hx.1 hx.2 fun s a h => (hf s a h).1,
    returns_bind hx.1 hx.2 fun s a h => (hf s a h).2⟩

/-- The mapping a program allocates is its own: what the rest does to it is not constrained. -/
theorem keepsBy_alloc_bind {d : PyDict} {f : Ref → PyM β}
    (hf : ∀ r, KeepsBy (fun r' k => P r' k ∨ r' = r) (fun r' k => C r' k ∨ r' = r) (f r)) :
    KeepsBy P C (alloc d >>= f) :=
  keepsBy_bind_of_returns (keepsBy_alloc d) (returns_alloc d) fun _ r hr =>
    (hf r).mono (fun _ _ h => h.imp_right fun e => (hr.symm.trans e.symm).le)
      fun _ _ h => h.imp_right fun e => (hr.symm.trans e.symm).le

/-- A loop whose every pass stays within the footprints. -/
theorem keepsBy_forM {xs : List α} {f : α → PyM Unit} (h : ∀ a ∈ xs, KeepsBy P C (f a)) :
    KeepsBy P C (xs.forM f) := by
  induction xs with
  | nil => exact keepsBy_pure ()
  | cons a xs ih =>
    rw [List.forM_cons']
    exact keepsBy_bind (h a (List.mem_cons_self a xs)) fun _ =>
      ih fun b hb => h b (List.mem_cons_of_mem a hb)

/-- A fold whose every pass stays within the footprints. -/
theorem keepsBy_foldlM {xs : List α} {f : β → α → PyM β}
    (h : ∀ a ∈ xs, ∀ b, KeepsBy P C (f b a)) (init : β) : KeepsBy P C (xs.foldlM f init) := by
  induction xs generalizing init with
  | nil => exact keepsBy_pure init
  | cons a xs ih =>
    rw [List.foldlM_cons]
    exact keepsBy_bind (h a (List.mem_cons_self a xs) init) fun b =>
      ih (fun a' ha' => h a' (List.mem_cons_of_mem a ha')) b

/-- A fold over a value that names mappings (`refs`): if every pass changes only `C` and the
mappings its value names, and hands on a value naming those or mappings it created, so does
the whole fold. -/
theorem keepsBy_foldlM_refs {xs : List α} {f : β → α → PyM β} {refs : β → Ref → Prop}
    (h : ∀ a ∈ xs, ∀ b, KeepsBy P (fun r k => C r k ∨ refs b r) (f b a) ∧
      Returns (f b a) fun s b' => ∀ r, refs b' r → refs b r ∨ s.next ≤ r) (init : β) :
    KeepsBy P (fun r k => C r k ∨ refs init r) (xs.foldlM f init) ∧
      Returns (xs.foldlM f init) fun s b' => ∀ r, refs b' r → refs init r ∨ s.next ≤ r := by
  induction xs generalizing init with
  | nil =>
    refine ⟨keepsBy_pure init, (returns_pure init).mono fun _ b hb r hr => .inl (hb ▸ hr)⟩
  | cons a xs ih =>
    rw [List.foldlM_cons]
    obtain ⟨hstep, hret⟩ := h a (List.mem_cons_self a xs) init
    have hrest := ih fun a' ha' => h a' (List.mem_cons_of_mem a ha')
    refine ⟨keepsBy_bind_of_returns hstep hret fun s b hb => (hrest b).1.mono
      (fun _ _ => .inl) fun r k h' => ?_, returns_bind hstep hret fun s b hb =>
        (hrest b).2.mono fun s' b' hb' hle r hr => ?_⟩
    · rcases h' with hC | hr
      · exact .inl (.inl hC)
      · exact (hb r hr).elim (fun h'' => .inl (.inr h'')) .inr
    · rcases hb' r hr with hr' | hr'
      · exact hb r hr'
      · exact .inr (hle.trans hr')

end Rules

end PyM

end IdpyOidc.Client
