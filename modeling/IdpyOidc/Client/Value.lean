import Mathlib.Data.List.Nodup
import Mathlib.Data.String.Basic

/-!
# Python values and mappings

The service reads and writes plain Python data: configuration entries, request arguments,
decoded payloads. Values are an inductive type, and a mapping is an association list with
string keys read through its first binding, which is how `dict.get` and `in` see a dict.
Assignment keeps a key's position and appends a new one at the end, as `dict.__setitem__`
does, so iteration order matches CPython's.

Classes appear as values too (`msg_type`, `response_cls` may be set from configuration);
a class is named by its schema's declared parameters or is the builtin `list`.
-/

namespace IdpyOidc.Client

/-- A class a service may name: a message schema with its declared parameters, or `list`. -/
inductive PyClass where
  | message (name : String) (cParam : List String)
  | list
  deriving DecidableEq, Repr

/-- Python values as the service stores and reads them. -/
inductive PyVal where
  | none
  | bool (b : Bool)
  | int (n : Int)
  | str (s : String)
  | list (xs : List PyVal)
  | dict (d : List (String × PyVal))
  | cls (c : PyClass)
  deriving Repr, Inhabited

/-- A mapping with string keys, in insertion order. -/
abbrev Dict (α : Type) := List (String × α)

/-- A mapping of Python values. -/
abbrev PyDict := Dict PyVal

/-- The exceptions the service raises or lets through, by class and message. -/
inductive PyErr where
  | keyError (key : String)
  | typeError (msg : String)
  | attributeError (msg : String)
  | valueError (msg : String)
  | responseError (msg : String)
  | unsupported (msg : String)
  /-- Any other exception, raised by a collaborator outside this module. -/
  | raised (cls msg : String)
  deriving DecidableEq, Repr

namespace PyVal

/-- Python truth testing: `None`, `False`, zero and empty containers are false. -/
def truthy : PyVal → Bool
  | .none => false
  | .bool b => b
  | .int n => n != 0
  | .str s => !s.isEmpty
  | .list xs => !xs.isEmpty
  | .dict d => !d.isEmpty
  | .cls _ => true

/-- The name `type(v).__name__` reports, used in error messages. -/
def typeName : PyVal → String
  | .none => "NoneType"
  | .bool _ => "bool"
  | .int _ => "int"
  | .str _ => "str"
  | .list _ => "list"
  | .dict _ => "dict"
  | .cls _ => "type"

end PyVal

/-! ## Printing values

An f-string prints a value with `str`, which for a container is its `repr`: the items in
brackets, each printed with `repr`, so a string item is quoted and escaped.
-/

/-- The apostrophe, which `repr` uses as its quote unless the text holds one and no `"`. -/
def singleQuote : Char := Char.ofNat 39

/-- The double quote `repr` falls back to. -/
def doubleQuote : Char := Char.ofNat 34

/-- The backslash, which `repr` doubles. -/
def backslash : Char := Char.ofNat 92

/-- Two lowercase hexadecimal digits, as in the `\x` escape of `repr`. -/
def hexByte (n : Nat) : String :=
  let ds := Nat.toDigits 16 n
  String.mk (List.replicate (2 - ds.length) '0' ++ ds)

/-- The characters up to U+00FF that `str.isprintable` rejects: the C0 and C1 controls,
DEL, the no-break space and the soft hyphen. -/
def latin1Unprintable (n : Nat) : Bool := n < 0x20 || (0x7f ≤ n && n ≤ 0xa0) || n == 0xad

/-- How `repr` writes one character of a string it quotes with `q`. A character above U+00FF
is written as itself, which is what Python does for the printable ones. -/
def reprChar (q c : Char) : String :=
  if c = q ∨ c = backslash then String.mk [backslash, c]
  else if c = '\n' then "\\n" else if c = '\r' then "\\r" else if c = '\t' then "\\t"
  else if latin1Unprintable c.toNat then "\\x" ++ hexByte c.toNat
  else c.toString

/-- `repr(s)` for a string. -/
def reprStr (s : String) : String :=
  let q := if s.toList.contains singleQuote && !s.toList.contains doubleQuote then doubleQuote
    else singleQuote
  q.toString ++ String.join (s.toList.map (reprChar q)) ++ q.toString

/-- `repr(cls)`. A message class prints under its name; Python puts its module before it. -/
def PyClass.pyRepr : PyClass → String
  | .message name _ => "<class '" ++ name ++ "'>"
  | .list => "<class 'list'>"

mutual

/-- `repr(v)`. -/
def PyVal.pyRepr : PyVal → String
  | .none => "None"
  | .bool true => "True"
  | .bool false => "False"
  | .int n => toString n
  | .str s => reprStr s
  | .list xs => "[" ++ reprItems xs ++ "]"
  | .dict d => "\x7b" ++ reprEntries d ++ "\x7d"
  | .cls c => c.pyRepr

/-- The items of a list, each printed with `repr`, separated by `, `. -/
def reprItems : List PyVal → String
  | [] => ""
  | [x] => x.pyRepr
  | x :: xs => x.pyRepr ++ ", " ++ reprItems xs

/-- The bindings of a dict, `key: value` with both printed with `repr`, separated by `, `. -/
def reprEntries : List (String × PyVal) → String
  | [] => ""
  | [(k, v)] => reprStr k ++ ": " ++ v.pyRepr
  | (k, v) :: d => reprStr k ++ ": " ++ v.pyRepr ++ ", " ++ reprEntries d

end

namespace PyVal

/-- `str(v)`: a string is itself, every other value prints as its `repr`. -/
def pyStr : PyVal → String
  | .str t => t
  | v => v.pyRepr

example : (PyVal.list [.str "a", .str "it's", .none]).pyStr = "['a', \"it's\", None]" := rfl

/-- The integer a number or a boolean equals as a dictionary key (`True == 1`). -/
def asKeyInt : PyVal → Option Int
  | .int n => some n
  | .bool b => some (if b then 1 else 0)
  | _ => Option.none

/-- `a == b` between two keys of a dict: strings by their text, integers and booleans by
value, `None` to itself, classes by identity. -/
def keyEq : PyVal → PyVal → Bool
  | .str a, .str b => a == b
  | .none, .none => true
  | .cls a, .cls b => a == b
  | a, b => match a.asKeyInt, b.asKeyInt with
    | some m, some n => m == n
    | _, _ => false

/-- `hash(v)`, which a dict takes of a key before it looks it up: lists and dicts have none. -/
def checkHashable : PyVal → Except PyErr Unit
  | .list _ => .error (.typeError "unhashable type: 'list'")
  | .dict _ => .error (.typeError "unhashable type: 'dict'")
  | _ => .ok ()

/-- Every hashable value is a key equal to itself. -/
theorem keyEq_self {v : PyVal} (h : v.checkHashable = .ok ()) : v.keyEq v = true := by
  cases v <;> simp_all [keyEq, asKeyInt, checkHashable]

/-- `v == s` for a string `s`. -/
def eqStr (v : PyVal) (s : String) : Bool :=
  match v with
  | .str t => t == s
  | _ => false

/-- `isinstance(v, str)`. -/
def isStr : PyVal → Bool
  | .str _ => true
  | _ => false

/-- The value `None` is falsy. -/
@[simp] theorem truthy_none : PyVal.none.truthy = false := rfl

/-- A string is truthy when it is not empty. -/
@[simp] theorem truthy_str (s : String) : (PyVal.str s).truthy = !s.isEmpty := rfl

/-- A mapping is truthy when it is not empty. -/
@[simp] theorem truthy_dict (d : PyDict) : (PyVal.dict d).truthy = !d.isEmpty := rfl

/-- A list is truthy when it is not empty. -/
@[simp] theorem truthy_list (xs : List PyVal) : (PyVal.list xs).truthy = !xs.isEmpty := rfl

end PyVal

namespace Dict

variable {α : Type}

/-- `d.get(k)`: the value of the first binding of `k`. -/
def get : Dict α → String → Option α
  | [], _ => none
  | (k', v) :: d, k => if k' = k then some v else get d k

/-- `k in d`. -/
def contains (d : Dict α) (k : String) : Bool := (d.get k).isSome

/-- `d[k] = v`: an existing key keeps its position, a new key is appended. -/
def set (d : Dict α) (k : String) (v : α) : Dict α :=
  if d.contains k then d.map fun e => if e.1 = k then (k, v) else e else d ++ [(k, v)]

/-- `del d[k]`, for a key known to be present. -/
def erase (d : Dict α) (k : String) : Dict α := d.filter fun e => e.1 ≠ k

/-- `d.update(e)` for a mapping `e`: each binding of `e` is assigned in order. -/
def update (d e : Dict α) : Dict α := e.foldl (fun acc kv => acc.set kv.1 kv.2) d

/-- The empty dict binds nothing. -/
@[simp] theorem get_nil (k : String) : get ([] : Dict α) k = none := rfl

/-- A lookup reads the first binding of the key. -/
theorem get_cons (k' k : String) (v : α) (d : Dict α) :
    get ((k', v) :: d) k = if k' = k then some v else get d k := rfl

/-- A key is absent exactly when it has no binding. -/
theorem contains_eq_false (d : Dict α) (k : String) :
    d.contains k = false ↔ d.get k = none := by
  simp [contains, Option.isSome_iff_ne_none]

/-- A lookup in two dicts in turn reads the first one first. -/
theorem get_append (d e : Dict α) (k : String) :
    get (d ++ e) k = (get d k).or (get e k) := by
  induction d with
  | nil => rfl
  | cons kv d ih =>
    obtain ⟨k', v⟩ := kv
    by_cases h : k' = k <;> simp [get_cons, h, ih]

/-- Replacing the value of a key in place. -/
theorem get_map_assign (d : Dict α) (k k' : String) (v : α) :
    get (d.map fun e => if e.1 = k then (k, v) else e) k' =
      if k = k' then (get d k').map fun _ => v else get d k' := by
  induction d with
  | nil => split <;> rfl
  | cons kv d ih =>
    obtain ⟨j, w⟩ := kv
    by_cases hj : j = k <;> by_cases hk : k = k' <;> simp_all [get_cons]

/-- The defining law of assignment: the assigned key reads back, every other key is untouched. -/
@[simp] theorem get_set (d : Dict α) (k k' : String) (v : α) :
    (d.set k v).get k' = if k = k' then some v else d.get k' := by
  unfold set
  split
  · next h =>
    rw [get_map_assign]
    split
    · next hk => subst hk; simpa [contains, Option.isSome_iff_exists] using h
    · rfl
  · next h =>
    have hnone : d.get k = none := by simpa [contains] using h
    rw [get_append]
    by_cases hk : k = k' <;> simp_all [get_cons]

/-- After an assignment the assigned key is present, and every other key as before. -/
@[simp] theorem contains_set (d : Dict α) (k k' : String) (v : α) :
    (d.set k v).contains k' = (k = k' || d.contains k') := by
  by_cases hk : k = k' <;> simp [contains, hk]

/-- Deleting a key unbinds it and leaves every other key. -/
@[simp] theorem get_erase (d : Dict α) (k k' : String) :
    (d.erase k).get k' = if k = k' then none else d.get k' := by
  induction d with
  | nil => simp [erase]
  | cons kv d ih =>
    obtain ⟨j, w⟩ := kv
    by_cases hj : j = k <;> by_cases hk : k = k' <;> simp_all [erase, get_cons, List.filter_cons]

/-- Updating with nothing changes nothing. -/
@[simp] theorem update_nil (d : Dict α) : d.update [] = d := rfl

/-- A key has no binding exactly when it is not among the keys. -/
theorem get_eq_none_iff (d : Dict α) (k : String) : d.get k = none ↔ k ∉ d.map Prod.fst := by
  induction d with
  | nil => simp
  | cons kv d ih =>
    obtain ⟨j, w⟩ := kv
    rw [get_cons, List.map_cons, List.mem_cons, not_or]
    by_cases h : j = k
    · subst h
      rw [if_pos rfl]
      exact ⟨fun h => (nomatch h), fun h => absurd rfl h.1⟩
    · simp only [if_neg h, ih, Ne.symm h, not_false_eq_true, true_and]

/-- The binding a lookup finds is an entry of the dict. -/
theorem mem_of_get_eq_some {d : Dict α} {k : String} {v : α} (h : d.get k = some v) :
    (k, v) ∈ d := by
  induction d with
  | nil => cases h
  | cons kv d ih =>
    obtain ⟨j, w⟩ := kv
    rw [get_cons] at h
    split at h
    · next hj => cases h; exact hj ▸ List.mem_cons_self _ _
    · exact List.mem_cons_of_mem _ (ih h)

/-- Every key has one binding, as in a Python dict. -/
def NodupKeys (d : Dict α) : Prop := (d.map Prod.fst).Nodup

/-- Distinct keys can be decided. -/
instance (d : Dict α) : Decidable (NodupKeys d) :=
  inferInstanceAs (Decidable (d.map Prod.fst).Nodup)

end Dict

/-- The `TypeError` CPython raises when the mapping unpacked as `**kwargs` into a call of
`func` holds a name the call also passes: one of the keyword arguments `keywords`, found while
the keywords are merged in the mapping's order, else one of the parameters `positionals` the
call fills by position, found while the arguments are bound. -/
def keywordClash (func : String) (keywords positionals : List String) (kwargs : PyDict) :
    Except PyErr Unit :=
  match kwargs.find? (fun kv => keywords.contains kv.1) with
  | some (k, _) => .error (.typeError s!"{func}() got multiple values for keyword argument '{k}'")
  | none =>
    match kwargs.find? (fun kv => positionals.contains kv.1) with
    | some (k, _) => .error (.typeError s!"{func}() got multiple values for argument '{k}'")
    | none => .ok ()

/-- A returned `x >>= f` ran `x` to a value and `f` on it. -/
theorem except_bind_eq_ok {ε α β : Type} {x : Except ε α} {f : α → Except ε β} {b : β}
    (h : (x >>= f) = .ok b) : ∃ a, x = .ok a ∧ f a = .ok b := by
  cases x with
  | error e => cases h
  | ok a => exact ⟨a, rfl, h⟩

/-- A computation that returned returned some value. -/
theorem except_exists_ok_of_isOk {ε α : Type} {x : Except ε α} (h : x.isOk) : ∃ a, x = .ok a := by
  cases x with
  | error e => cases h
  | ok a => exact ⟨a, rfl⟩

/-- A returned `f <$> x` ran `x` to a value that `f` maps to the result. -/
theorem except_map_eq_ok {ε α β : Type} {x : Except ε α} {f : α → β} {b : β}
    (h : (f <$> x) = .ok b) : ∃ a, x = .ok a ∧ f a = b := by
  cases x with
  | error e => cases h
  | ok a => exact ⟨a, rfl, by cases h; rfl⟩

/-- `d.get(k)` on a value that should be a mapping; other values have no `get`. -/
def PyVal.dictGet (v : PyVal) (k : String) : Except PyErr (Option PyVal) :=
  match v with
  | .dict d => .ok (Dict.get d k)
  | v => let t := v.typeName; .error (.attributeError s!"'{t}' object has no attribute 'get'")

/-- `d[k]`. -/
def PyDict.item (d : PyDict) (k : String) : Except PyErr PyVal :=
  match d.get k with
  | some v => .ok v
  | none => .error (.keyError k)

/-- `v.items()` on a value that should be a mapping. -/
def PyVal.dictItems (v : PyVal) : Except PyErr PyDict :=
  match v with
  | .dict d => .ok d
  | v => let t := v.typeName; .error (.attributeError s!"'{t}' object has no attribute 'items'")

/-- `d.update(other)`. A mapping is merged; an empty sequence changes nothing; a sequence of
`[key, value]` pairs is assigned pair by pair; anything else raises as CPython does. Keys of
the modelled mappings are strings, so a pair with another key is reported as a `TypeError`. -/
def PyDict.pyUpdate (d : PyDict) : PyVal → Except PyErr PyDict
  | .dict e => .ok (Dict.update d e)
  | .list xs => xs.foldlM (fun (acc : PyDict) x => match x with
      | .list [.str k, v] => .ok (acc.set k v)
      | _ => .error (.typeError "cannot convert dictionary update sequence element to a pair"))
      d
  | .str s => if s.isEmpty then .ok d
      else .error (.valueError "dictionary update sequence element #0 has length 1; 2 is required")
  | v => let t := v.typeName; .error (.typeError s!"'{t}' object is not iterable")

/-- Merging a falsy value changes nothing, when it does not raise. -/
theorem PyDict.pyUpdate_of_not_truthy {d B : PyDict} {v : PyVal} (hv : v.truthy = false)
    (h : d.pyUpdate v = .ok B) : B = d := by
  cases v with
  | dict e => cases e with
    | nil => cases h; rfl
    | cons _ _ => cases hv
  | list xs => cases xs with
    | nil => cases h; rfl
    | cons _ _ => cases hv
  | str s =>
    simp only [PyVal.truthy, Bool.not_eq_false'] at hv
    simp only [pyUpdate, hv, if_true] at h; cases h; rfl
  | cls c => cases hv
  | _ => cases h

/-- Updating with a mapping merges it. -/
@[simp] theorem PyDict.pyUpdate_dict (d e : PyDict) : d.pyUpdate (.dict e) = .ok (d.update e) := rfl

end IdpyOidc.Client
