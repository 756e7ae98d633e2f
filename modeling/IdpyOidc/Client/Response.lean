import IdpyOidc.Client.UrlInfo

/-!
# Parsing a response

`parse_response` takes the declared format (`response_body_type` when none is given) and
decodes the payload by it: `jose` probes for a signed and then an encrypted token inside
nested `try` blocks and parses what is left as JSON, `jwe` decrypts straight into
`response_cls`, `urlencoded` picks the query or fragment out of a URL, `jwt` and `jws` unpack
the token, `json` parses. Token and JSON formats are handed on as `dict`. `_do_response` then
deserializes into `response_cls`, except that a list is handed back as it is. A message that
is not an error message is verified; the raw token kept by the dispatch is attached as `_jws`
or `_jwe`, and `post_parse_response` runs. A falsy result is refused.

The dispatch is `decodeFormat`, the rest of the pipeline `responseOf` and `checkResponse`;
each gets an inversion lemma, and the properties of `parseResponse` are read off those.
-/

namespace IdpyOidc.Client

/-- The declared format: the argument when non-empty, `self.response_body_type` otherwise. -/
def Service.declaredFormat (svc : Service) (sformat : String) : String :=
  if sformat = "" then svc.settings.responseBodyType.pyStr else sformat

/-- A non-empty `sformat` is the format dispatched on. -/
theorem Service.declaredFormat_of_ne (svc : Service) {sformat : String} (h : sformat ≠ "") :
    svc.declaredFormat sformat = sformat := if_neg h

/-- `self.response_cls()` and the lookup of the method `meth` on the instance: a message class
has it; a `list` instance has neither `deserialize` nor `from_jwe`. -/
def PyVal.instanceFor (v : PyVal) (meth : String) : Except PyErr PyClass :=
  match v with
  | .cls (.message n ps) => .ok (.message n ps)
  | .cls .list => .error (.attributeError s!"'list' object has no attribute '{meth}'")
  | v => let t := v.typeName; .error (.typeError s!"'{t}' object is not callable")

/-- `self.response_cls == list`. -/
def PyVal.isListClass : PyVal → Bool
  | .cls .list => true
  | _ => false

/-- `info == []`. -/
def PyVal.isEmptyList : PyVal → Bool
  | .list [] => true
  | _ => false

/-- The error `parse_response` raises for a falsy payload or result. -/
def missingOrFaulty : PyErr := .responseError "Missing or faulty response"

/-! ## Tokens -/

/-- `_do_jwt(info)`: cryptojwt's `JWT` over the key jar, with the signing and encryption
algorithms the context allows for this service and the client id as `iss`, unpacks the
token. -/
def Service.doJwt (rt : Runtime) (svc : Service) (ctx : Context) (info : PyVal) :
    Except PyErr PyVal := do
  let encAlgs := ctx.encAlgEnc svc.cls.serviceName
  let alg ← encAlgs.item "alg"
  let enc ← encAlgs.item "enc"
  rt.jwtUnpack
    { keyJar := ctx.keyjar, allowedSignAlgs := ctx.signAlg svc.cls.serviceName,
      allowedEncAlgs := alg, allowedEncEncs := enc, iss := ctx.clientId } info

/-- `if probe(info): info = self._do_jwt(info)`: the unpacked token when the probe accepts
the payload, the payload when it declines. -/
def Service.probeJwt (rt : Runtime) (svc : Service) (ctx : Context)
    (probe : PyVal → Except PyErr Bool) (info : PyVal) : Except PyErr PyVal := do
  if ← probe info then svc.doJwt rt ctx info else pure info

/-- The `try` ladder of the `jose` branch. The JWE probe runs only when the JWS probe, or the
unpacking after it, raises; when the JWE step raises too, the payload is kept. -/
def Service.joseUnwrap (rt : Runtime) (svc : Service) (ctx : Context) (info : PyVal) : PyVal :=
  match svc.probeJwt rt ctx rt.jwsFactory info with
  | .ok v => v
  | .error _ =>
    match svc.probeJwt rt ctx rt.jweFactory info with
    | .ok v => v
    | .error _ => info

/-- `if info and isinstance(info, str): info = json.loads(info)`. -/
def loadsIfStr (rt : Runtime) (info : PyVal) : Except PyErr PyVal :=
  if info.truthy && info.isStr then rt.jsonLoads info else pure info

/-! ## The format dispatch -/

/-- Where the format dispatch of `parse_response` leaves things: the payload and the format
it is handed on under, the message the `jwe` branch built, and the raw token kept as `_jws`
or `_jwe`. -/
structure Decoded where
  info : PyVal
  sformat : String
  resp : Option Message := none
  jws : PyVal := .none
  jwe : PyVal := .none

/-- The `if`/`elif` chain of `parse_response` on the declared format. -/
def Service.decodeFormat (rt : Runtime) (svc : Service) (ctx : Context) (info : PyVal)
    (sformat : String) : Except PyErr Decoded :=
  if sformat = "jose" then do
    let v ← loadsIfStr rt (svc.joseUnwrap rt ctx info)
    pure { info := v, sformat := "dict", jws := info }
  else if sformat = "jwe" then do
    let c ← svc.settings.responseCls.instanceFor "from_jwe"
    let fields ← rt.fromJwe c info (ctx.keyjar.issuerKeys ctx.attrClientId)
    pure
      { info := info, sformat := sformat, resp := some { cls := c, fields := fields },
        jwe := info }
  else if sformat = "urlencoded" then do
    let v ← getUrlinfo rt.hostCheck info
    pure { info := v, sformat := sformat }
  else if sformat = "jwt" ∨ sformat = "jws" then do
    let v ← svc.doJwt rt ctx info
    pure { info := v, sformat := "dict", jws := info }
  else if sformat = "json" then do
    let v ← rt.jsonLoads info
    pure { info := v, sformat := "dict" }
  else pure { info := info, sformat := sformat }

/-! ## Deserializing and verifying -/

/-- `self.response_cls().deserialize(info, sformat, iss=_context.issuer, **kwargs)`. -/
def Service.deserialize (rt : Runtime) (svc : Service) (ctx : Context) (info : PyVal)
    (sformat : String) (kwargs : PyDict) : Except PyErr Message := do
  let c ← svc.settings.responseCls.instanceFor "deserialize"
  let fields ← rt.deserialize c info sformat ctx.issuer kwargs
  pure { cls := c, fields := fields }

/-- `_do_response(info, sformat, **kwargs)`: a list comes back as it is; anything else is
deserialized into `response_cls`, and a failure under `json` is retried as `jwt`. -/
def Service.doResponse (rt : Runtime) (svc : Service) (ctx : Context) (info : PyVal)
    (sformat : String) (kwargs : PyDict) : Except PyErr Resp :=
  match info with
  | .list xs => .ok (.raw (.list xs))
  | _ =>
    match svc.deserialize rt ctx info sformat kwargs with
    | .ok m => .ok (.msg m)
    | .error _ =>
      if sformat = "json" then .msg <$> svc.deserialize rt ctx info "jwt" kwargs
      else .error (.valueError s!"Incorrect message type: {sformat}")

/-- `v.startswith(prefix)` on a value that should be a string. -/
def PyVal.startsWith (v : PyVal) (pre : String) : Except PyErr Bool :=
  match v with
  | .str s => .ok (s.startsWith pre)
  | v => let t := v.typeName; .error (.attributeError s!"'{t}' object has no attribute 'startswith'")

/-- `gather_verify_arguments()`: `allow_http` is set only for `provider_info` with an
`http://` issuer. -/
def Service.gatherVerifyArguments (svc : Service) (ctx : Context) : Except PyErr VerifyArgs := do
  let allowHttp ← if svc.cls.serviceName = "provider_info" then ctx.issuer.startsWith "http://"
    else pure false
  pure
    { iss := ctx.issuer, keyjar := ctx.keyjar, verify := true, clientId := ctx.clientId,
      allowHttp := allowHttp }

/-- `is_error_message(resp)`: the message has an `error` field. -/
def Message.isError (m : Message) : Bool := m.fields.contains "error"

/-- `if _jws: resp._jws = _jws elif _jwe: resp._jwe = _jwe`. -/
def Message.attachEvidence (m : Message) (jws jwe : PyVal) : Message :=
  if jws.truthy then { m with jws := some jws }
  else if jwe.truthy then { m with jwe := some jwe } else m

/-- Attaching evidence keeps the class. -/
@[simp] theorem Message.attachEvidence_cls (m : Message) (jws jwe : PyVal) :
    (m.attachEvidence jws jwe).cls = m.cls := by
  unfold Message.attachEvidence; split_ifs <;> rfl

/-- Attaching evidence keeps the fields. -/
@[simp] theorem Message.attachEvidence_fields (m : Message) (jws jwe : PyVal) :
    (m.attachEvidence jws jwe).fields = m.fields := by
  unfold Message.attachEvidence; split_ifs <;> rfl

/-- The response `parse_response` goes on with after the dispatch: the message the `jwe`
branch built, the payload itself under `text`, and `_do_response` otherwise. A falsy payload
is refused first. -/
def Service.responseOf (rt : Runtime) (svc : Service) (ctx : Context) (d : Decoded)
    (kwargs : PyDict) : Except PyErr Resp :=
  match d.resp with
  | some m => .ok (.msg m)
  | none =>
    if !d.info.truthy then .error missingOrFaulty
    else if d.sformat = "text" then .ok (.raw d.info)
    else svc.doResponse rt ctx d.info d.sformat kwargs

/-- The verification step: nothing under `text`, nothing for an error message or for a value
that is no message; otherwise `verify` with `gather_verify_arguments()`, the evidence, and
`post_parse_response`. -/
def Service.checkResponse (rt : Runtime) (svc : Service) (ctx : Context) (d : Decoded)
    (resp : Resp) (state : PyVal) : Except PyErr Resp :=
  if d.sformat = "text" then .ok resp else
  match resp with
  | .raw v => .ok (.raw v)
  | .msg m =>
    if m.isError then .ok (.msg m) else do
      let vargs ← svc.gatherVerifyArguments ctx
      let fields ← rt.verify m vargs
      svc.cls.postParseResponse ({ m with fields := fields }.attachEvidence d.jws d.jwe) state

/-- `parse_response(info, sformat, state, **kwargs)`. -/
def Service.parseResponse (rt : Runtime) (svc : Service) (ctx : Context) (info : PyVal)
    (sformat : String) (state : PyVal) (kwargs : PyDict) : Except PyErr Resp := do
  let d ← svc.decodeFormat rt ctx info (svc.declaredFormat sformat)
  if d.resp.isNone && svc.settings.responseCls.isListClass && d.info.isEmptyList then
    pure (.raw d.info)
  else do
    let resp ← svc.responseOf rt ctx d kwargs
    let resp ← svc.checkResponse rt ctx d resp state
    if resp.truthy then pure resp else throw missingOrFaulty

/-! ## What each stage did when it returned -/

section Stages

variable {rt : Runtime} {svc : Service} {ctx : Context}

/-- What a returned dispatch did: the format handed on, the raw token kept as evidence, and
the one message built before `_do_response` (by the `jwe` branch, in `response_cls`). -/
theorem decodeFormat_ok {info : PyVal} {sformat : String} {d : Decoded}
    (h : svc.decodeFormat rt ctx info sformat = .ok d) :
    d.sformat = (if sformat = "jose" ∨ sformat = "jwt" ∨ sformat = "jws" ∨ sformat = "json"
      then "dict" else sformat) ∧
    d.jws = (if sformat = "jose" ∨ sformat = "jwt" ∨ sformat = "jws" then info else .none) ∧
    d.jwe = (if sformat = "jwe" then info else .none) ∧
    ∀ m, d.resp = some m → sformat = "jwe" ∧
      svc.settings.responseCls.instanceFor "from_jwe" = .ok m.cls ∧ m.jws = none ∧ m.jwe = none := by
  unfold Service.decodeFormat at h
  by_cases hjose : sformat = "jose"
  · subst hjose
    obtain ⟨v, -, hv⟩ := except_bind_eq_ok h
    cases hv
    simp
  by_cases hjwe : sformat = "jwe"
  · subst hjwe
    obtain ⟨c, hc, h'⟩ := except_bind_eq_ok h
    obtain ⟨f, -, hf⟩ := except_bind_eq_ok h'
    cases hf
    simp [hc]
  by_cases hurl : sformat = "urlencoded"
  · subst hurl
    obtain ⟨v, -, hv⟩ := except_bind_eq_ok h
    cases hv
    simp
  by_cases hjwt : sformat = "jwt" ∨ sformat = "jws"
  · simp only [hjose, hjwe, hurl, hjwt, if_false, if_true] at h
    obtain ⟨v, -, hv⟩ := except_bind_eq_ok h
    cases hv
    rcases hjwt with rfl | rfl <;> simp
  by_cases hjson : sformat = "json"
  · subst hjson
    obtain ⟨v, -, hv⟩ := except_bind_eq_ok h
    cases hv
    simp
  simp only [hjose, hjwe, hurl, hjwt, hjson, if_false] at h
  cases h
  simp only [not_or] at hjwt
  simp [hjose, hjwe, hjwt, hjson]

/-- A returned `_do_response` handed back a list, or a message of `response_cls`
deserialized under the format, or under `jwt` after `json` failed. -/
theorem doResponse_ok {info : PyVal} {sformat : String} {kwargs : PyDict} {resp : Resp}
    (h : svc.doResponse rt ctx info sformat kwargs = .ok resp) :
    (∃ xs, info = .list xs ∧ resp = .raw (.list xs)) ∨
      ∃ m, resp = .msg m ∧ m.jws = none ∧ m.jwe = none ∧
        svc.settings.responseCls.instanceFor "deserialize" = .ok m.cls ∧
        (rt.deserialize m.cls info sformat ctx.issuer kwargs = .ok m.fields ∨
          sformat = "json" ∧ rt.deserialize m.cls info "jwt" ctx.issuer kwargs = .ok m.fields) := by
  have hdes : ∀ {f m}, svc.deserialize rt ctx info f kwargs = .ok m → m.jws = none ∧
      m.jwe = none ∧ svc.settings.responseCls.instanceFor "deserialize" = .ok m.cls ∧
        rt.deserialize m.cls info f ctx.issuer kwargs = .ok m.fields := by
    intro f m hm
    obtain ⟨c, hc, h'⟩ := except_bind_eq_ok hm
    obtain ⟨fs, hfs, hm'⟩ := except_bind_eq_ok h'
    cases hm'
    exact ⟨rfl, rfl, hc, hfs⟩
  unfold Service.doResponse at h
  split at h
  · cases h; exact .inl ⟨_, rfl, rfl⟩
  · split at h
    · next m hm =>
      cases h
      obtain ⟨h₁, h₂, h₃, h₄⟩ := hdes hm
      exact .inr ⟨m, rfl, h₁, h₂, h₃, .inl h₄⟩
    · split at h
      · next hj =>
        obtain ⟨m, hm, rfl⟩ := except_map_eq_ok h
        obtain ⟨h₁, h₂, h₃, h₄⟩ := hdes hm
        exact .inr ⟨m, rfl, h₁, h₂, h₃, .inr ⟨hj, h₄⟩⟩
      · cases h

/-- A returned `responseOf`: the `jwe` message, a truthy payload under `text`, or what
`_do_response` made of a truthy payload. -/
theorem responseOf_ok {d : Decoded} {kwargs : PyDict} {resp : Resp}
    (h : svc.responseOf rt ctx d kwargs = .ok resp) :
    (∃ m, d.resp = some m ∧ resp = .msg m) ∨
      d.resp = none ∧ d.info.truthy = true ∧
        (d.sformat = "text" ∧ resp = .raw d.info ∨
          d.sformat ≠ "text" ∧ svc.doResponse rt ctx d.info d.sformat kwargs = .ok resp) := by
  unfold Service.responseOf at h
  split at h
  · next m hm => cases h; exact .inl ⟨m, hm, rfl⟩
  · next hm =>
    split at h
    · cases h
    · next ht =>
      have ht' : d.info.truthy = true := by simpa using ht
      split at h
      · next hs => cases h; exact .inr ⟨hm, ht', .inl ⟨hs, rfl⟩⟩
      · next hs => exact .inr ⟨hm, ht', .inr ⟨hs, h⟩⟩

/-- A returned verification step: nothing was done under `text`, to a value that is no
message, or to an error message; otherwise `verify` accepted the message with
`gather_verify_arguments()` and `post_parse_response` ran on it with the evidence
attached. -/
theorem checkResponse_ok {d : Decoded} {resp r : Resp} {state : PyVal}
    (h : svc.checkResponse rt ctx d resp state = .ok r) :
    d.sformat = "text" ∧ r = resp ∨
      d.sformat ≠ "text" ∧
        ((∃ v, resp = .raw v ∧ r = .raw v) ∨
          (∃ m, resp = .msg m ∧ m.isError = true ∧ r = .msg m) ∨
          ∃ m vargs fields, resp = .msg m ∧ m.isError = false ∧
            svc.gatherVerifyArguments ctx = .ok vargs ∧ rt.verify m vargs = .ok fields ∧
            svc.cls.postParseResponse ({ m with fields := fields }.attachEvidence d.jws d.jwe)
              state = .ok r) := by
  unfold Service.checkResponse at h
  split at h
  · next hs => cases h; exact .inl ⟨hs, rfl⟩
  · next hs =>
    refine .inr ⟨hs, ?_⟩
    cases resp with
    | raw v => cases h; exact .inl ⟨v, rfl, rfl⟩
    | msg m =>
      simp only at h
      split at h
      · next he => cases h; exact .inr (.inl ⟨m, rfl, he, rfl⟩)
      · next he =>
        obtain ⟨vargs, hv, h'⟩ := except_bind_eq_ok h
        obtain ⟨fields, hf, h''⟩ := except_bind_eq_ok h'
        exact .inr (.inr ⟨m, vargs, fields, rfl, by simpa using he, hv, hf, h''⟩)

/-- A returned `parse_response`: the dispatch returned, and either the empty list came back
for a `list` response class, or a truthy response came out of the verification step. -/
theorem parseResponse_ok {info : PyVal} {sformat : String} {state : PyVal} {kwargs : PyDict}
    {r : Resp} (h : svc.parseResponse rt ctx info sformat state kwargs = .ok r) :
    ∃ d, svc.decodeFormat rt ctx info (svc.declaredFormat sformat) = .ok d ∧
      (d.resp = none ∧ svc.settings.responseCls.isListClass = true ∧ d.info.isEmptyList = true ∧
          r = .raw d.info ∨
        ∃ resp, svc.responseOf rt ctx d kwargs = .ok resp ∧
          svc.checkResponse rt ctx d resp state = .ok r ∧ r.truthy = true) := by
  obtain ⟨d, hd, h'⟩ := except_bind_eq_ok h
  refine ⟨d, hd, ?_⟩
  split at h'
  · next hl =>
    cases h'
    simp only [Bool.and_eq_true, Option.isNone_iff_eq_none] at hl
    exact .inl ⟨hl.1.1, hl.1.2, hl.2, rfl⟩
  · obtain ⟨resp, hresp, h₂⟩ := except_bind_eq_ok h'
    obtain ⟨r', hr', h₃⟩ := except_bind_eq_ok h₂
    split at h₃
    · next ht => cases h₃; exact .inr ⟨resp, hresp, hr', ht⟩
    · cases h₃

end Stages

end IdpyOidc.Client
