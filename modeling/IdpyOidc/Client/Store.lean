import IdpyOidc.Client.Value
import Mathlib.Logic.Function.Basic

/-!
# Shared mappings

Two mappings are shared between the service and its caller: the configuration handed to
`Service.__init__`, which the service keeps as `self.conf`, and the request arguments handed
to `construct`. Both are mutated in place by the service, so they live in a store and are
passed by reference. Every other mapping the service builds is fresh and local, and is a value.

A run of service code is an `EStateM` computation over the store. An exception keeps the
store as it was when raised, as Python keeps the side effects made before a `raise`.
-/

namespace IdpyOidc.Client

/-- A reference to a mutable mapping. -/
abbrev Ref := Nat

/-- The mutable mappings, and the next unused reference. -/
structure Store where
  objects : Ref → PyDict
  next : Ref

namespace Store

/-- The current contents of a mapping. -/
def read (s : Store) (r : Ref) : PyDict := s.objects r

/-- Replace the contents of a mapping. -/
def write (s : Store) (r : Ref) (d : PyDict) : Store :=
  { s with objects := Function.update s.objects r d }

/-- A fresh mapping with the given contents. -/
def alloc (s : Store) (d : PyDict) : Ref × Store :=
  (s.next, { objects := Function.update s.objects s.next d, next := s.next + 1 })

/-- A store holding the given mappings at references `0, 1, ...`. -/
def ofList (l : List PyDict) : Store := { objects := fun r => l.getD r [], next := l.length }

/-- Reading after a write. -/
@[simp] theorem read_write (s : Store) (r r' : Ref) (d : PyDict) :
    (s.write r d).read r' = if r' = r then d else s.read r' := by
  simp only [read, write, Function.update_apply]

/-- A write allocates nothing. -/
@[simp] theorem next_write (s : Store) (r : Ref) (d : PyDict) : (s.write r d).next = s.next := rfl

/-- A new mapping gets the next reference. -/
@[simp] theorem alloc_fst (s : Store) (d : PyDict) : (s.alloc d).1 = s.next := rfl

/-- Reading after an allocation. -/
@[simp] theorem read_alloc (s : Store) (d : PyDict) (r : Ref) :
    (s.alloc d).2.read r = if r = s.next then d else s.read r := by
  simp only [read, alloc, Function.update_apply]

/-- An allocation advances the next reference. -/
@[simp] theorem next_alloc (s : Store) (d : PyDict) : (s.alloc d).2.next = s.next + 1 := rfl

end Store

/-- Service code: it may read, write and allocate mappings, and may raise. -/
abbrev PyM := EStateM PyErr Store

namespace PyM

/-- Read a shared mapping. -/
def read (r : Ref) : PyM PyDict := fun s => .ok (s.read r) s

/-- Assign to a shared mapping. -/
def write (r : Ref) (d : PyDict) : PyM Unit := fun s => .ok () (s.write r d)

/-- Create a mapping, such as the `{}` a default argument stands for. -/
def alloc (d : PyDict) : PyM Ref := fun s => .ok (s.alloc d).1 (s.alloc d).2

/-- Run a computation that touches no shared mapping. -/
def lift {α : Type} : Except PyErr α → PyM α
  | .ok a => pure a
  | .error e => throw e

variable {α β : Type} (s : Store)

/-- A pure step returns and leaves the store. -/
@[simp] theorem run_pure (a : α) : (pure a : PyM α).run s = .ok a s := rfl

/-- A raise leaves the store. -/
@[simp] theorem run_throw (e : PyErr) : (throw e : PyM α).run s = .error e s := rfl

/-- Sequencing runs the continuation on the store the first step left, unless that step raised. -/
theorem run_bind (x : PyM α) (f : α → PyM β) :
    (x >>= f).run s = match x.run s with
      | .ok a s' => (f a).run s'
      | .error e s' => .error e s' := by
  show EStateM.bind x f s = match x s with
    | .ok a s' => f a s'
    | .error e s' => .error e s'
  unfold EStateM.bind
  split <;> next h => rw [h]

/-- A read returns the mapping and leaves the store. -/
@[simp] theorem run_read (r : Ref) : (read r).run s = .ok (s.read r) s := rfl

/-- A write returns and changes the one mapping. -/
@[simp] theorem run_write (r : Ref) (d : PyDict) : (write r d).run s = .ok () (s.write r d) := rfl

/-- An allocation returns the next reference. -/
@[simp] theorem run_alloc (d : PyDict) : (alloc d).run s = .ok s.next (s.alloc d).2 := rfl

/-- A lifted value is returned. -/
@[simp] theorem run_lift_ok (a : α) : (lift (.ok a) : PyM α).run s = .ok a s := rfl

/-- A lifted error is raised. -/
@[simp] theorem run_lift_error (e : PyErr) : (lift (.error e) : PyM α).run s = .error e s := rfl

/-- A run that returned passed every step it sequenced. -/
theorem run_bind_eq_ok {x : PyM α} {f : α → PyM β} {b : β} {s'' : Store}
    (h : (x >>= f).run s = .ok b s'') : ∃ a s', x.run s = .ok a s' ∧ (f a).run s' = .ok b s'' := by
  rw [run_bind] at h
  cases hx : x.run s with
  | ok a s' => exact ⟨a, s', rfl, by rw [hx] at h; exact h⟩
  | error e s' => rw [hx] at h; cases h

/-- A run that raised raised in its first step, or in the continuation after that step returned. -/
theorem run_bind_eq_error {x : PyM α} {f : α → PyM β} {e : PyErr} {s'' : Store}
    (h : (x >>= f).run s = .error e s'') :
    x.run s = .error e s'' ∨ ∃ a s', x.run s = .ok a s' ∧ (f a).run s' = .error e s'' := by
  rw [run_bind] at h
  cases hx : x.run s with
  | ok a s' => rw [hx] at h; exact .inr ⟨a, s', rfl, h⟩
  | error e' s' => rw [hx] at h; cases h; exact .inl rfl

/-- A lifted computation that returned did not touch the store. -/
theorem run_lift_eq_ok {e : Except PyErr α} {a : α} {s' : Store} (h : (lift e).run s = .ok a s') :
    e = .ok a ∧ s' = s := by
  cases e with
  | ok a' => cases h; exact ⟨rfl, rfl⟩
  | error e' => cases h

/-- Sequencing past a step whose outcome is known. -/
theorem run_bind_ok {x : PyM α} {a : α} {s' : Store} (h : x.run s = .ok a s') (f : α → PyM β) :
    (x >>= f).run s = (f a).run s' := by
  rw [run_bind, h]

end PyM

end IdpyOidc.Client
