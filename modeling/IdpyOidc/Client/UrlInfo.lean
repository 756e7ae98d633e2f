import IdpyOidc.Client.Service
import Mathlib.Data.String.Basic

/-!
# Picking the response out of a redirect URL

`get_urlinfo` hands an urlencoded response to the decoder. When the payload holds a `?` or a
`#` it is taken for a URL: `urlparse` splits it, and the query is returned when non-empty, the
fragment otherwise.

`urlsplit` is modelled as CPython 3.12 has it: leading C0 controls and spaces are stripped,
tabs and line breaks removed, a scheme and a `//` network location cut off, then the fragment
at the first `#` and the query at the first `?` before it. The scheme and network location
hold neither `?` nor `#`, so the query and fragment depend on those two marks only
(`urlsplit_query_fragment`), and the network location depends only on the text before the
first of them (`splitComponents_netloc_append`). `urlparse` also splits `;params` off the
path; nothing here reads the path, so that step is left out.
-/

namespace IdpyOidc.Client

/-- The components `urlsplit` returns. -/
structure SplitResult where
  scheme : String
  netloc : String
  path : String
  query : String
  fragment : String

/-- `s.split(c, 1)` when `c in s`: the text before the first `c` and the text after it. -/
def splitOnce (c : Char) : List Char → Option (List Char × List Char)
  | [] => none
  | x :: xs => if x = c then some ([], xs) else (splitOnce c xs).map fun p => (x :: p.1, p.2)

/-- `_WHATWG_C0_CONTROL_OR_SPACE`. -/
def isC0ControlOrSpace (c : Char) : Bool := c.toNat ≤ 0x20

/-- `_UNSAFE_URL_BYTES_TO_REMOVE`. -/
def isUnsafeUrlByte (c : Char) : Bool := c = '\t' || c = '\r' || c = '\n'

/-- `scheme_chars`. -/
def isSchemeChar (c : Char) : Bool := c.isAlphanum || c = '+' || c = '-' || c = '.'

/-- The characters that end a network location. -/
def isNetlocDelim (c : Char) : Bool := c = '/' || c = '?' || c = '#'

/-- The URL after `lstrip` and the removal of unsafe bytes. -/
def cleanUrl (url : String) : List Char :=
  (url.data.dropWhile isC0ControlOrSpace).filter fun c => !isUnsafeUrlByte c

/-- Whether the text before the first `:` is taken for a scheme: it starts with an ASCII
letter and is made of scheme characters. -/
def schemeOk : List Char → Bool
  | [] => false
  | c :: cs => c.isAlpha && (c :: cs).all isSchemeChar

/-- The scheme, lower-cased, and the rest of the URL. -/
def splitScheme (cs : List Char) : List Char × List Char :=
  match splitOnce ':' cs with
  | some (pre, post) => if schemeOk pre then (pre.map Char.toLower, post) else ([], cs)
  | none => ([], cs)

/-- The network location after `//`, and the rest. -/
def splitNetloc (cs : List Char) : List Char × List Char :=
  if cs.take 2 = ['/', '/'] then
    ((cs.drop 2).takeWhile fun c => !isNetlocDelim c, (cs.drop 2).dropWhile fun c => !isNetlocDelim c)
  else ([], cs)

/-- The text before the first `#`, and the fragment. -/
def splitFragment (cs : List Char) : List Char × List Char := (splitOnce '#' cs).getD (cs, [])

/-- The text before the first `?`, and the query. -/
def splitQuery (cs : List Char) : List Char × List Char := (splitOnce '?' cs).getD (cs, [])

/-- The five components of a cleaned URL. -/
def splitComponents (cs : List Char) : SplitResult :=
  let (scheme, cs) := splitScheme cs
  let (netloc, cs) := splitNetloc cs
  let (cs, fragment) := splitFragment cs
  let (path, query) := splitQuery cs
  ⟨⟨scheme⟩, ⟨netloc⟩, ⟨path⟩, ⟨query⟩, ⟨fragment⟩⟩

/-- `_check_bracketed_netloc` and `_checknetloc`: an ASCII network location without brackets
passes both; otherwise the IPv6 literal and NFKC checks decide, through `hostCheck`. -/
def checkNetloc (hostCheck : String → Except PyErr Unit) (netloc : String) : Except PyErr Unit :=
  if netloc.data.all (fun c => c.toNat < 128) && !netloc.data.contains '[' then .ok ()
  else hostCheck netloc

/-- `urlsplit(url)`. -/
def urlsplit (hostCheck : String → Except PyErr Unit) (url : String) : Except PyErr SplitResult :=
  let parts := splitComponents (cleanUrl url)
  let n := parts.netloc.data
  if ('[' ∈ n ∧ ']' ∉ n) ∨ (']' ∈ n ∧ '[' ∉ n) then .error (.valueError "Invalid IPv6 URL")
  else (checkNetloc hostCheck parts.netloc).map fun _ => parts

/-- `c in info`, for the one-character strings `get_urlinfo` looks for. -/
def PyVal.containsChar (v : PyVal) (c : Char) : Except PyErr Bool :=
  match v with
  | .str s => .ok (s.data.contains c)
  | .list xs => .ok (xs.any fun x => match x with
      | .str s => s.data = [c]
      | _ => false)
  | .dict d => .ok (Dict.contains d (String.singleton c))
  | v => let t := v.typeName; .error (.typeError s!"argument of type '{t}' is not iterable")

/-- `get_urlinfo` on a string: the query of a URL when non-empty, else its fragment. -/
def urlinfoOfStr (hostCheck : String → Except PyErr Unit) (info : String) : Except PyErr String :=
  if info.data.contains '?' || info.data.contains '#' then
    (urlsplit hostCheck info).map fun parts =>
      if parts.query.isEmpty then parts.fragment else parts.query
  else .ok info

/-- `Service.get_urlinfo(info)`. A value that is not a string and holds `"?"` or `"#"` cannot
be parsed as a URL. -/
def getUrlinfo (hostCheck : String → Except PyErr Unit) : PyVal → Except PyErr PyVal
  | .str s => PyVal.str <$> urlinfoOfStr hostCheck s
  | v => do
    let found ← if ← v.containsChar '?' then pure true else v.containsChar '#'
    if found then
      let t := v.typeName
      .error (.attributeError s!"'{t}' object has no attribute 'decode'")
    else pure v

/-- Text with no C0 control character and no space, as a URI and a form-encoded payload are. -/
def noControlOrSpace (s : String) : Bool := s.data.all fun c => !isC0ControlOrSpace c

/-! ## Splitting at the first mark -/

/-- There is no split exactly when the separator is absent. -/
theorem splitOnce_eq_none_iff {c : Char} {cs : List Char} : splitOnce c cs = none ↔ c ∉ cs := by
  induction cs with
  | nil => simp [splitOnce]
  | cons x xs ih =>
    by_cases hx : x = c
    · simp [splitOnce, hx]
    · simp [splitOnce, hx, ih, Ne.symm hx]

/-- A prefix without the separator is carried into the first part. -/
theorem splitOnce_append {c : Char} {pre : List Char} (h : c ∉ pre) (rest : List Char) :
    splitOnce c (pre ++ rest) = (splitOnce c rest).map fun p => (pre ++ p.1, p.2) := by
  induction pre with
  | nil => show splitOnce c rest = _; cases splitOnce c rest <;> rfl
  | cons x xs ih =>
    simp only [List.mem_cons, not_or] at h
    simp [splitOnce, Ne.symm h.1, ih h.2, Option.map_map, Function.comp_def]

/-- The split is at the first separator. -/
theorem splitOnce_append_cons {c : Char} {pre : List Char} (h : c ∉ pre) (rest : List Char) :
    splitOnce c (pre ++ c :: rest) = some (pre, rest) := by
  simp [splitOnce_append h, splitOnce]

/-- A split is made at the first occurrence of the mark. -/
theorem splitOnce_eq_some {c : Char} {cs a b : List Char} (h : splitOnce c cs = some (a, b)) :
    cs = a ++ c :: b ∧ c ∉ a := by
  induction cs generalizing a b with
  | nil => cases h
  | cons x xs ih =>
    unfold splitOnce at h
    split at h
    · next hx => cases h; exact ⟨by simp [hx], by simp⟩
    · next hx =>
      obtain ⟨⟨a', b'⟩, h', he⟩ := Option.map_eq_some'.mp h
      cases he
      obtain ⟨rfl, ha⟩ := ih h'
      exact ⟨rfl, by simp [Ne.symm hx, ha]⟩

/-- A list holding the mark is cut at its first occurrence. -/
theorem exists_split_of_mem {c : Char} {cs : List Char} (h : c ∈ cs) :
    ∃ a b, cs = a ++ c :: b ∧ c ∉ a ∧ splitOnce c cs = some (a, b) := by
  cases hs : splitOnce c cs with
  | none => exact absurd h (splitOnce_eq_none_iff.mp hs)
  | some p => exact ⟨p.1, p.2, (splitOnce_eq_some hs).1, (splitOnce_eq_some hs).2, rfl⟩

/-- Without a `#` there is no fragment. -/
theorem splitFragment_of_not_mem {cs : List Char} (h : '#' ∉ cs) : splitFragment cs = (cs, []) := by
  simp [splitFragment, splitOnce_eq_none_iff.mpr h]

/-- A prefix without a `#` stays before the fragment. -/
theorem splitFragment_append {pre : List Char} (h : '#' ∉ pre) (rest : List Char) :
    splitFragment (pre ++ rest) = (pre ++ (splitFragment rest).1, (splitFragment rest).2) := by
  unfold splitFragment; rw [splitOnce_append h]; cases splitOnce '#' rest <;> rfl

/-- A prefix without a `?` stays before the query. -/
theorem splitQuery_append {pre : List Char} (h : '?' ∉ pre) (rest : List Char) :
    splitQuery (pre ++ rest) = (pre ++ (splitQuery rest).1, (splitQuery rest).2) := by
  unfold splitQuery; rw [splitOnce_append h]; cases splitOnce '?' rest <;> rfl

/-! ## Scheme and network location hold no `?` or `#` -/

/-- Every character of an accepted scheme is a scheme character. -/
theorem schemeOk_of_mem {pre : List Char} {c : Char} (h : schemeOk pre = true) (hc : c ∈ pre) :
    isSchemeChar c = true := by
  cases pre with
  | nil => cases h
  | cons x xs =>
    simp only [schemeOk, Bool.and_eq_true, List.all_eq_true] at h
    exact h.2 c hc

/-- An accepted scheme holds neither `#` nor `?`. -/
theorem schemeOk_no_marks {pre : List Char} (h : schemeOk pre = true) : '#' ∉ pre ∧ '?' ∉ pre :=
  ⟨fun hm => absurd (schemeOk_of_mem h hm) (by decide),
    fun hm => absurd (schemeOk_of_mem h hm) (by decide)⟩

/-- Splitting off the scheme removes a prefix without `#` or `?`. -/
theorem splitScheme_prefix (cs : List Char) :
    ∃ pre, cs = pre ++ (splitScheme cs).2 ∧ '#' ∉ pre ∧ '?' ∉ pre := by
  unfold splitScheme
  cases h : splitOnce ':' cs with
  | none => exact ⟨[], rfl, by simp, by simp⟩
  | some p =>
    obtain ⟨a, b⟩ := p
    obtain ⟨rfl, -⟩ := splitOnce_eq_some h
    by_cases hs : schemeOk a
    · obtain ⟨h₁, h₂⟩ := schemeOk_no_marks hs
      exact ⟨a ++ [':'], by simp [hs], by simp [h₁], by simp [h₂]⟩
    · exact ⟨[], by simp [hs], by simp, by simp⟩

/-- Splitting off the network location removes a prefix without `#` or `?`. -/
theorem splitNetloc_prefix (cs : List Char) :
    ∃ pre, cs = pre ++ (splitNetloc cs).2 ∧ '#' ∉ pre ∧ '?' ∉ pre := by
  unfold splitNetloc
  split
  · next h =>
    have hdelim : ∀ d, d ≠ '/' → isNetlocDelim d = true →
        d ∉ cs.take 2 ++ (cs.drop 2).takeWhile fun c => !isNetlocDelim c := by
      intro d hs hd hm
      rw [List.mem_append, h] at hm
      rcases hm with hm | hm
      · simp [hs] at hm
      · simpa [hd] using List.mem_takeWhile_imp hm
    exact ⟨_, by simp, hdelim '#' (by decide) rfl, hdelim '?' (by decide) rfl⟩
  · exact ⟨[], rfl, by simp, by simp⟩

/-- Each component is read off one of the successive splits. -/
theorem splitComponents_eq (cs : List Char) :
    splitComponents cs = ⟨⟨(splitScheme cs).1⟩, ⟨(splitNetloc (splitScheme cs).2).1⟩,
      ⟨(splitQuery (splitFragment (splitNetloc (splitScheme cs).2).2).1).1⟩,
      ⟨(splitQuery (splitFragment (splitNetloc (splitScheme cs).2).2).1).2⟩,
      ⟨(splitFragment (splitNetloc (splitScheme cs).2).2).2⟩⟩ := by
  unfold splitComponents
  rfl

/-- The fragment is the text after the first `#`, and the query the text after the first `?`
before it. -/
theorem splitComponents_query_fragment (cs : List Char) :
    (splitComponents cs).fragment = ⟨(splitFragment cs).2⟩ ∧
      (splitComponents cs).query = ⟨(splitQuery (splitFragment cs).1).2⟩ := by
  obtain ⟨pre₁, h₁, hh₁, hq₁⟩ := splitScheme_prefix cs
  obtain ⟨pre₂, h₂, hh₂, hq₂⟩ := splitNetloc_prefix (splitScheme cs).2
  have hcs : cs = (pre₁ ++ pre₂) ++ (splitNetloc (splitScheme cs).2).2 := by
    rw [List.append_assoc, ← h₂, ← h₁]
  have hh : '#' ∉ pre₁ ++ pre₂ := by simp [hh₁, hh₂]
  have hq : '?' ∉ pre₁ ++ pre₂ := by simp [hq₁, hq₂]
  rw [splitComponents_eq]
  constructor
  · conv => rhs; rw [hcs, splitFragment_append hh]
  · conv => rhs; rw [hcs, splitFragment_append hh, splitQuery_append hq]

/-! ## The network location ends at the first `?` or `#` -/

/-- Taking characters never passes one that stops it. -/
theorem takeWhile_append_cons_stop (p : Char → Bool) {d : Char} (hd : p d = false)
    (xs rest : List Char) : (xs ++ d :: rest).takeWhile p = xs.takeWhile p := by
  induction xs with
  | nil => simp [hd]
  | cons x xs ih => by_cases hx : p x <;> simp [List.takeWhile_cons, hx, ih]

/-- Dropping characters never passes one that stops it. -/
theorem dropWhile_append_cons_stop (p : Char → Bool) {d : Char} (hd : p d = false)
    (xs rest : List Char) : (xs ++ d :: rest).dropWhile p = xs.dropWhile p ++ d :: rest := by
  induction xs with
  | nil => simp [hd]
  | cons x xs ih => by_cases hx : p x <;> simp [List.dropWhile_cons, hx, ih]

/-- Text after a `?` or `#` cannot change the scheme. -/
theorem splitScheme_append_mark {d : Char} (hd : d = '?' ∨ d = '#') (cs rest : List Char) :
    splitScheme (cs ++ d :: rest) = ((splitScheme cs).1, (splitScheme cs).2 ++ d :: rest) := by
  have hds : isSchemeChar d = false := by rcases hd with rfl | rfl <;> rfl
  unfold splitScheme
  cases h : splitOnce ':' cs with
  | some p =>
    obtain ⟨a, b⟩ := p
    obtain ⟨rfl, ha⟩ := splitOnce_eq_some h
    rw [List.append_assoc, List.cons_append, splitOnce_append_cons ha]
    by_cases hs : schemeOk a <;> simp [hs]
  | none =>
    have hc : d ≠ ':' := by rcases hd with rfl | rfl <;> decide
    rw [splitOnce_append (splitOnce_eq_none_iff.mp h)]
    simp only [splitOnce, if_neg hc]
    cases splitOnce ':' rest with
    | none => rfl
    | some q =>
      have hno : schemeOk (cs ++ d :: q.1) = false := by
        cases hs : schemeOk (cs ++ d :: q.1)
        · rfl
        · simpa [hds] using schemeOk_of_mem hs (by simp : d ∈ cs ++ d :: q.1)
      simp [hno]

/-- Text after a `?` or `#` cannot change the network location. -/
theorem splitNetloc_append_mark {d : Char} (hd : d = '?' ∨ d = '#') (cs rest : List Char) :
    splitNetloc (cs ++ d :: rest) = ((splitNetloc cs).1, (splitNetloc cs).2 ++ d :: rest) := by
  have hslash : d ≠ '/' := by rcases hd with rfl | rfl <;> decide
  have hstop : (!isNetlocDelim d) = false := by rcases hd with rfl | rfl <;> rfl
  rcases cs with _ | ⟨x, _ | ⟨y, t⟩⟩
  · simp [splitNetloc, hslash]
  · simp [splitNetloc, hslash]
  · by_cases hxy : x = '/' ∧ y = '/'
    · obtain ⟨rfl, rfl⟩ := hxy
      simp [splitNetloc, takeWhile_append_cons_stop (fun c => !isNetlocDelim c) hstop,
        dropWhile_append_cons_stop (fun c => !isNetlocDelim c) hstop]
    · simp only [splitNetloc, List.cons_append, List.take_succ_cons, List.take_zero,
        List.cons.injEq, and_true] at hxy ⊢
      simp [hxy]

/-- What follows a `?` or a `#` does not change the network location. -/
theorem splitComponents_netloc_append_mark {d : Char} (hd : d = '?' ∨ d = '#')
    (cs rest : List Char) : (splitComponents (cs ++ d :: rest)).netloc = (splitComponents cs).netloc := by
  rw [splitComponents_eq, splitComponents_eq, splitScheme_append_mark hd,
    splitNetloc_append_mark hd]

/-! ## Accepted URLs -/

/-- A URL without control characters or spaces comes through the cleaning unchanged. -/
theorem cleanUrl_of_noControlOrSpace {s : String} (h : noControlOrSpace s = true) :
    cleanUrl s = s.data := by
  simp only [noControlOrSpace, List.all_eq_true, Bool.not_eq_true'] at h
  have hd : s.data.dropWhile isC0ControlOrSpace = s.data := by
    cases hs : s.data with
    | nil => rfl
    | cons c cs => simp [List.dropWhile_cons, h c (by simp [hs])]
  rw [cleanUrl, hd, List.filter_eq_self]
  intro c hc
  cases hu : isUnsafeUrlByte c
  · rfl
  · have : (c = '\t' ∨ c = '\r') ∨ c = '\n' := by simpa [isUnsafeUrlByte] using hu
    rcases this with (rfl | rfl) | rfl <;> exact absurd (h _ hc) (by decide)

/-- A concatenation is clean exactly when both parts are. -/
@[simp] theorem noControlOrSpace_append (s t : String) :
    noControlOrSpace (s ++ t) = (noControlOrSpace s && noControlOrSpace t) := by
  simp [noControlOrSpace]

/-- A returned `urlsplit` gave the components of the cleaned URL. -/
theorem urlsplit_eq_ok {hostCheck : String → Except PyErr Unit} {r : String}
    {parts : SplitResult} (h : urlsplit hostCheck r = .ok parts) :
    parts = splitComponents (cleanUrl r) := by
  unfold urlsplit at h
  dsimp only at h
  split at h
  · cases h
  · revert h
    cases checkNetloc hostCheck (splitComponents (cleanUrl r)).netloc
    · exact fun h => nomatch h
    · exact fun h => (Except.ok.inj h).symm

/-- The checks of `urlsplit` read only the network location: a URL with the network location
of an accepted one is accepted too. -/
theorem urlsplit_of_netloc_eq {hostCheck : String → Except PyErr Unit} {r u : String}
    {parts : SplitResult} (h : urlsplit hostCheck r = .ok parts)
    (hn : (splitComponents (cleanUrl u)).netloc = parts.netloc) :
    urlsplit hostCheck u = .ok (splitComponents (cleanUrl u)) := by
  obtain rfl := urlsplit_eq_ok h
  unfold urlsplit at h ⊢
  dsimp only at h ⊢
  rw [hn]
  split at h
  · cases h
  · next hb =>
    rw [if_neg hb]
    revert h
    cases checkNetloc hostCheck (splitComponents (cleanUrl r)).netloc
    · exact fun h => nomatch h
    · exact fun _ => rfl

/-- The query and fragment `urlsplit` returns are read off the cleaned URL at its first `#`
and the first `?` before it, whatever its scheme and network location. -/
theorem urlsplit_query_fragment {hostCheck : String → Except PyErr Unit} {u : String}
    {parts : SplitResult} (h : urlsplit hostCheck u = .ok parts) :
    parts.fragment = ⟨(splitFragment (cleanUrl u)).2⟩ ∧
      parts.query = ⟨(splitQuery (splitFragment (cleanUrl u)).1).2⟩ := by
  rw [urlsplit_eq_ok h]
  exact splitComponents_query_fragment _

/-- A redirect URL with a query and a fragment. -/
theorem urlsplit_query_fragment_rp :
    urlsplit (fun _ => .ok ()) "https://rp.example/cb?x=1#code=abc" =
        .ok ⟨"https", "rp.example", "/cb", "x=1", "code=abc"⟩ ∧
      ("code=abc" : String) = ⟨(splitFragment (cleanUrl "https://rp.example/cb?x=1#code=abc")).2⟩ ∧
      ("x=1" : String) =
        ⟨(splitQuery (splitFragment (cleanUrl "https://rp.example/cb?x=1#code=abc")).1).2⟩ :=
  have h : urlsplit (fun _ => .ok ()) "https://rp.example/cb?x=1#code=abc" =
      .ok ⟨"https", "rp.example", "/cb", "x=1", "code=abc"⟩ := rfl
  ⟨h, urlsplit_query_fragment h⟩

/-- A text without `?` or `#` is the information itself. -/
theorem urlinfoOfStr_plain (hostCheck : String → Except PyErr Unit) {s : String}
    (hq : '?' ∉ s.data) (hf : '#' ∉ s.data) : urlinfoOfStr hostCheck s = .ok s := by
  simp [urlinfoOfStr, hq, hf]

/-- A URL gives its query, or its fragment when the query is empty. -/
theorem urlinfoOfStr_url {hostCheck : String → Except PyErr Unit} {s : String}
    {parts : SplitResult} (hm : '?' ∈ s.data ∨ '#' ∈ s.data) (h : urlsplit hostCheck s = .ok parts) :
    urlinfoOfStr hostCheck s = .ok (if parts.query.isEmpty then parts.fragment else parts.query) := by
  have hc : (s.data.contains '?' || s.data.contains '#') = true := by simpa using hm
  simp only [urlinfoOfStr, hc, if_true, h]
  rfl

/-- A URL with a `?` and no `#`: `get_urlinfo` returns its query, empty or not. -/
theorem urlinfoOfStr_no_fragment {hostCheck : String → Except PyErr Unit} {u : String}
    {cs : List Char} (hsplit : urlsplit hostCheck u = .ok (splitComponents cs))
    (hq : '?' ∈ u.data) (hnf : '#' ∉ cs) :
    urlinfoOfStr hostCheck u = .ok ⟨(splitQuery cs).2⟩ := by
  rw [urlinfoOfStr_url (.inl hq) hsplit]
  obtain ⟨hf, hq'⟩ := splitComponents_query_fragment cs
  rw [hf, hq', splitFragment_of_not_mem hnf]
  split
  · next he => exact congrArg Except.ok ((String.isEmpty_iff _).mp he).symm
  · rfl

/-! ## Responses delivered to a redirect URI -/

/-- The query-mode response URL: the response parameters `p` added to the query of the
redirect URI `r`, after an `&` when it already has one. -/
def appendQuery (r p : String) : String := if '?' ∈ r.data then r ++ "&" ++ p else r ++ "?" ++ p

/-- The parameters of a form-encoded payload: its `&`-separated fields. -/
def formParams (s : String) : List (List Char) := s.data.splitOn '&'

/-- Splitting at a separator splits the two sides apart. -/
theorem splitOn_append_sep (sep : Char) (xs ys : List Char) :
    (xs ++ sep :: ys).splitOn sep = xs.splitOn sep ++ ys.splitOn sep := by
  simp only [List.splitOn]
  induction xs with
  | nil => simp
  | cons x xs ih =>
    rw [List.cons_append, List.splitOnP_cons, List.splitOnP_cons, ih]
    split
    · rfl
    · obtain ⟨h, t, ht⟩ := List.exists_cons_of_ne_nil (List.splitOnP_ne_nil (· == sep) xs)
      rw [ht]
      rfl

/-- An accepted redirect URI without a fragment, with a fragment-mode response appended:
`get_urlinfo` returns the redirect URI's query when it is non-empty, the response otherwise. -/
theorem urlinfoOfStr_fragment_mode {hostCheck : String → Except PyErr Unit} {r p : String}
    {parts : SplitResult} (hr : urlsplit hostCheck r = .ok parts) (hrf : '#' ∉ r.data)
    (hrc : noControlOrSpace r) (hpc : noControlOrSpace p) :
    urlinfoOfStr hostCheck (r ++ "#" ++ p) = .ok (if parts.query.isEmpty then p else parts.query) := by
  have hclean : cleanUrl (r ++ "#" ++ p) = r.data ++ '#' :: p.data := by
    rw [cleanUrl_of_noControlOrSpace (by simp [hrc, hpc]; rfl)]
    simp
  have hparts : parts = splitComponents r.data := by
    rw [urlsplit_eq_ok hr, cleanUrl_of_noControlOrSpace hrc]
  have hsplit : urlsplit hostCheck (r ++ "#" ++ p) =
      .ok (splitComponents (r.data ++ '#' :: p.data)) := by
    rw [← hclean]
    refine urlsplit_of_netloc_eq hr ?_
    rw [hclean, splitComponents_netloc_append_mark (.inr rfl), hparts]
  rw [urlinfoOfStr_url (.inr (by simp)) hsplit]
  obtain ⟨hf, hq⟩ := splitComponents_query_fragment (r.data ++ '#' :: p.data)
  obtain ⟨-, hq₀⟩ := splitComponents_query_fragment r.data
  have hfr : splitFragment (r.data ++ '#' :: p.data) = (r.data, p.data) := by
    simp [splitFragment, splitOnce_append_cons hrf]
  rw [hf, hq, hfr, hparts, hq₀, splitFragment_of_not_mem hrf]

/-- A query-mode response: `get_urlinfo` returns the redirect URI's query followed by the
response, or the response alone when the redirect URI has no query. -/
theorem urlinfoOfStr_query_mode {hostCheck : String → Except PyErr Unit} {r p : String}
    {parts : SplitResult} (hr : urlsplit hostCheck r = .ok parts) (hrf : '#' ∉ r.data)
    (hpf : '#' ∉ p.data) (hrc : noControlOrSpace r) (hpc : noControlOrSpace p) :
    urlinfoOfStr hostCheck (appendQuery r p) =
      .ok (if '?' ∈ r.data then parts.query ++ "&" ++ p else p) := by
  have hparts : parts = splitComponents r.data := by
    rw [urlsplit_eq_ok hr, cleanUrl_of_noControlOrSpace hrc]
  by_cases hrq : '?' ∈ r.data
  · obtain ⟨a, b, hab, ha, -⟩ := exists_split_of_mem hrq
    have hu : (appendQuery r p).data = a ++ '?' :: (b ++ '&' :: p.data) := by
      simp [appendQuery, hrq, hab]
    have hclean : cleanUrl (appendQuery r p) = a ++ '?' :: (b ++ '&' :: p.data) := by
      rw [cleanUrl_of_noControlOrSpace (by simp [appendQuery, hrq, hrc, hpc]; rfl), hu]
    have hsplit : urlsplit hostCheck (appendQuery r p) =
        .ok (splitComponents (a ++ '?' :: (b ++ '&' :: p.data))) := by
      rw [← hclean]
      refine urlsplit_of_netloc_eq hr ?_
      rw [hclean, splitComponents_netloc_append_mark (.inl rfl), hparts, hab,
        splitComponents_netloc_append_mark (.inl rfl)]
    have hnf' : '#' ∉ a ++ '?' :: b := hab ▸ hrf
    have hnf : '#' ∉ a ++ '?' :: (b ++ '&' :: p.data) := by
      simp only [List.mem_append, List.mem_cons, not_or] at hnf' ⊢
      exact ⟨hnf'.1, hnf'.2.1, hnf'.2.2, by decide, hpf⟩
    rw [urlinfoOfStr_no_fragment hsplit (by simp [hu]) hnf, if_pos hrq]
    obtain ⟨-, hq₀⟩ := splitComponents_query_fragment (a ++ '?' :: b)
    rw [hparts, hab, hq₀, splitFragment_of_not_mem hnf']
    simp [splitQuery, splitOnce_append_cons ha, String.ext_iff]
  · have hu : (appendQuery r p).data = r.data ++ '?' :: p.data := by simp [appendQuery, hrq]
    have hclean : cleanUrl (appendQuery r p) = r.data ++ '?' :: p.data := by
      rw [cleanUrl_of_noControlOrSpace (by simp [appendQuery, hrq, hrc, hpc]; rfl), hu]
    have hsplit : urlsplit hostCheck (appendQuery r p) =
        .ok (splitComponents (r.data ++ '?' :: p.data)) := by
      rw [← hclean]
      refine urlsplit_of_netloc_eq hr ?_
      rw [hclean, splitComponents_netloc_append_mark (.inl rfl), hparts]
    have hnf : '#' ∉ r.data ++ '?' :: p.data := by simp [hrf, hpf]
    rw [urlinfoOfStr_no_fragment hsplit (by simp [hu]) hnf, if_neg hrq]
    simp only [splitQuery, splitOnce_append_cons hrq, Option.getD_some]

/-- `get_urlinfo` on what an authorization server sends to a redirect URI `r` that `urlsplit`
accepts and that has no fragment. A bare form-encoded payload `p` comes back unchanged. A
fragment-mode URL gives `p` only when `r` has no non-empty query, and `r`'s query otherwise. A
query-mode URL gives a query holding every parameter of `p`. -/
theorem getUrlinfo_redirect_response (hostCheck : String → Except PyErr Unit) {r p : String}
    {parts : SplitResult} (hr : urlsplit hostCheck r = .ok parts) (hrf : '#' ∉ r.data)
    (hpq : '?' ∉ p.data) (hpf : '#' ∉ p.data) (hrc : noControlOrSpace r)
    (hpc : noControlOrSpace p) :
    getUrlinfo hostCheck (.str p) = .ok (.str p) ∧
      getUrlinfo hostCheck (.str (r ++ "#" ++ p)) =
        .ok (.str (if parts.query.isEmpty then p else parts.query)) ∧
      ∃ q, getUrlinfo hostCheck (.str (appendQuery r p)) = .ok (.str q) ∧
        ∀ x ∈ formParams p, x ∈ formParams q := by
  refine ⟨?_, ?_, if '?' ∈ r.data then parts.query ++ "&" ++ p else p, ?_, fun x hx => ?_⟩
  · simp only [getUrlinfo, urlinfoOfStr_plain hostCheck hpq hpf]; rfl
  · simp only [getUrlinfo, urlinfoOfStr_fragment_mode hr hrf hrc hpc]; rfl
  · simp only [getUrlinfo, urlinfoOfStr_query_mode hr hrf hpf hrc hpc]; rfl
  · split
    · have hq : (parts.query ++ "&" ++ p).data = parts.query.data ++ '&' :: p.data := by simp
      rw [formParams, hq, splitOn_append_sep]
      exact List.mem_append_right _ hx
    · exact hx

/-- The hypotheses of `getUrlinfo_redirect_response` hold of a redirect URI with a query. -/
theorem getUrlinfo_redirect_response_rp :
    urlsplit (fun _ => .ok ()) "https://rp.example/cb?x=1" =
        .ok ⟨"https", "rp.example", "/cb", "x=1", ""⟩ ∧
      getUrlinfo (fun _ => .ok ()) (.str "code=abc&state=s") = .ok (.str "code=abc&state=s") ∧
      getUrlinfo (fun _ => .ok ()) (.str ("https://rp.example/cb?x=1" ++ "#" ++ "code=abc&state=s")) =
        .ok (.str (if ("x=1" : String).isEmpty then "code=abc&state=s" else "x=1")) ∧
      ∃ q, getUrlinfo (fun _ => .ok ()) (.str (appendQuery "https://rp.example/cb?x=1"
          "code=abc&state=s")) = .ok (.str q) ∧
        ∀ x ∈ formParams "code=abc&state=s", x ∈ formParams q :=
  have hr : urlsplit (fun _ => .ok ()) "https://rp.example/cb?x=1" =
      .ok ⟨"https", "rp.example", "/cb", "x=1", ""⟩ := rfl
  ⟨hr, getUrlinfo_redirect_response (fun _ => .ok ()) hr (by decide) (by decide) (by decide)
    rfl rfl⟩

/-- A fragment-mode response delivered to a redirect URI with its own query: `get_urlinfo`
returns that query, and the response parameters are dropped. The host checks are not reached
for this ASCII network location; here they would raise. -/
theorem getUrlinfo_fragment_response_keeps_redirect_query :
    getUrlinfo (fun _ => .error unsupplied)
        (.str ("https://rp.example/cb?x=1" ++ "#" ++ "code=abc")) = .ok (.str "x=1") :=
  rfl

end IdpyOidc.Client
