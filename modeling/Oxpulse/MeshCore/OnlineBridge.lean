import Oxpulse.Foundation.JsValue
import Oxpulse.MeshCore.Dedupe
import Oxpulse.MeshCore.OutboxDrainer

/-!
# The bridge

`bridgeSend` (`online-bridge.ts`) posts a bundle and makes a result of the response. It
calls `onResult` with it, whatever happens, and swallows what that throws. A label of
the server becomes a reason by a lookup in an object literal, which has the properties
of `Object.prototype` too; and a body that is `null` throws when it is asked for its
label. `bridge_contract_iff` says that nothing else goes wrong.
-/

namespace Oxpulse.MeshCore

open Oxpulse.Crypto

/-! ## Requests, responses and results -/

structure BridgeRequest : Type where
  url : String
  method : String
  contentType : String
  authorization : String
  body : Bytes

inductive ResponseBody : Type where
  | notJson
  | json (value : Json)

structure Response : Type where
  status : ℕ
  body : ResponseBody

/-- `resp.ok` -/
def Response.ok (resp : Response) : Bool := 200 ≤ resp.status && resp.status ≤ 299

/-- The declared reasons. -/
inductive BridgeReason : Type where
  | badJwt | badSignature | badBundle | badFreshness | channelMismatch | rateLimited | disabled
  | fanoutError | networkError | unknown
deriving DecidableEq, Repr

/-- What a lookup in the literal gives: a declared reason, or the property of this name
that the literal inherits. -/
inductive ReasonValue : Type where
  | declared (reason : BridgeReason)
  | inherited (name : JsString)
deriving DecidableEq, Repr

inductive BridgeResult : Type where
  | ok (seq : Option Json)
  | error (status : ℕ) (reason : ReasonValue)

structure BridgeSendArgs : Type where
  bundle : Bytes
  jwt : String
  /-- What it returns, or throws, for each result. -/
  onResult : Option (BridgeResult → Except JsError Unit)

/-! ## `mapReason` -/

/-- The properties of the literal. -/
def reasonMap : List (JsString × BridgeReason) :=
  [(units "bad_jwt", .badJwt), (units "bad_signature", .badSignature),
    (units "bad_bundle", .badBundle), (units "bad_freshness", .badFreshness),
    (units "channel_mismatch", .channelMismatch), (units "rate_limited", .rateLimited),
    (units "disabled", .disabled), (units "fanout_error", .fanoutError)]

/-- The properties of `Object.prototype`. -/
def inheritedNames : List JsString :=
  [units "constructor", units "__defineGetter__", units "__defineSetter__",
    units "hasOwnProperty", units "__lookupGetter__", units "__lookupSetter__",
    units "isPrototypeOf", units "propertyIsEnumerable", units "toString", units "valueOf",
    units "__proto__", units "toLocaleString"]

/-- `map[key] ?? 'unknown'` -/
def lookupReason (key : JsString) : ReasonValue :=
  match reasonMap.lookup key with
  | some reason => .declared reason
  | none => if inheritedNames.contains key then .inherited key else .declared .unknown

/-- Throws when the value has no text. -/
def mapReason (status : ℕ) (serverResult : Json) : Except JsError ReasonValue :=
  if status = 429 then .ok (.declared .rateLimited)
  else if status = 401 then .ok (.declared .badJwt)
  else serverResult.toText.elim (.error .library) fun key => .ok (lookupReason key)

/-! ## `bridgeSend` -/

/-- A computation that may throw, and the results that `onResult` was called with. -/
abbrev Bridge : Type → Type := ExceptT JsError (StateM (List BridgeResult))

def emit (onResult : Option (BridgeResult → Except JsError Unit)) (result : BridgeResult) :
    Bridge BridgeResult := do
  try
    match onResult with
    | some callback =>
        modify fun calls => calls ++ [result]
        liftExcept (callback result)
    | none => pure ()
  catch _ => pure ()
  return result

/-- `serverBody.result`, and the like. -/
def Response.property (resp : Response) (name : String) : Except JsError (Option Json) :=
  -- a body that is no JSON is treated as empty
  let serverBody : Json :=
    match resp.body with
    | .notJson => .object []
    | .json value => value
  match serverBody.get? (units name) with
  | some value => .ok value
  | none => .error .library

/-- `result === 'ok' || !result` -/
def acceptsLabel : Option Json → Bool
  | none => true
  | some (.string text) => text = units "ok" || text = []
  | some value => !value.truthy

/-- `result ?? ''` -/
def labelOr : Option Json → Json
  | none => .string []
  | some .null => .string []
  | some value => value

def bridgeRequest (args : BridgeSendArgs) : BridgeRequest where
  url := "/api/sdk/mesh/relay"
  method := "POST"
  contentType := "application/octet-stream"
  authorization := "Bearer " ++ args.jwt
  body := args.bundle

/-- What follows the `fetch`. -/
def handle (resp : Response) (args : BridgeSendArgs) : Bridge BridgeResult := do
  let accepted ←
    if resp.ok then do
      let result ← liftExcept (resp.property "result")
      pure (acceptsLabel result)
    else pure false
  if accepted then
    let seq ← liftExcept (resp.property "seq")
    emit args.onResult (.ok seq)
  else
    let result ← liftExcept (resp.property "result")
    let reason ← liftExcept (mapReason resp.status (labelOr result))
    emit args.onResult (.error resp.status reason)

def bridgeSend (fetch : BridgeRequest → Except JsError Response) (args : BridgeSendArgs) :
    Bridge BridgeResult := do
  try
    let resp ← liftExcept (fetch (bridgeRequest args))
    handle resp args
  catch _ => emit args.onResult (.error 0 (.declared .networkError))

/-! ## What it settles with -/

/-- How often `onResult` is called, and with what. -/
def callsOf (onResult : Option (BridgeResult → Except JsError Unit)) (result : BridgeResult) :
    List BridgeResult :=
  if onResult.isSome then [result] else []

/-- What comes of a response. -/
def answer (resp : Response) : Except JsError BridgeResult := do
  let result ← resp.property "result"
  if resp.ok && acceptsLabel result then
    let seq ← resp.property "seq"
    return .ok seq
  else
    let reason ← mapReason resp.status (labelOr result)
    return .error resp.status reason

/-- What comes of the request. -/
def settled (outcome : Except JsError Response) : BridgeResult :=
  (outcome.bind answer).toOption.getD (.error 0 (.declared .networkError))

theorem settled_ok (resp : Response) : settled (.ok resp) =
    (answer resp).toOption.getD (.error 0 (.declared .networkError)) := rfl

theorem emit_run (onResult : Option (BridgeResult → Except JsError Unit)) (result : BridgeResult)
    (calls : List BridgeResult) :
    (emit onResult result).run.run calls = (.ok result, calls ++ callsOf onResult result) := by
  cases onResult with
  | none =>
      show (Except.ok result, calls) = _
      rw [callsOf, Option.isSome_none, if_neg Bool.false_ne_true, List.append_nil]
  | some callback =>
      unfold emit
      dsimp only
      cases callback result with
      | ok _ => rfl
      | error e => rfl

@[simp] theorem liftExcept_ok_bind {α β : Type} (a : α) (f : α → Bridge β) :
    (liftExcept (.ok a : Except JsError α) : Bridge α) >>= f = f a := rfl

@[simp] theorem liftExcept_error_bind {α β : Type} (e : JsError) (f : α → Bridge β) :
    (liftExcept (.error e : Except JsError α) : Bridge α) >>= f = throw e := rfl

theorem handle_eq (resp : Response) (args : BridgeSendArgs) :
    handle resp args = liftExcept (answer resp) >>= emit args.onResult := by
  unfold handle answer
  cases resp.property "result" with
  | error e => cases resp.ok <;> rfl
  | ok result =>
      have hreason : (do
          let reason ← liftExcept (mapReason resp.status (labelOr result))
          emit args.onResult (.error resp.status reason) : Bridge BridgeResult) =
            liftExcept (do
              let reason ← mapReason resp.status (labelOr result)
              return .error resp.status reason) >>= emit args.onResult := by
        cases mapReason resp.status (labelOr result) <;> rfl
      cases resp.ok with
      | false => exact hreason
      | true =>
          show (if acceptsLabel result = true then do
              let seq ← liftExcept (resp.property "seq")
              emit args.onResult (.ok seq)
            else do
              let reason ← liftExcept (mapReason resp.status (labelOr result))
              emit args.onResult (.error resp.status reason) : Bridge BridgeResult) =
            liftExcept (if acceptsLabel result = true then do
              let seq ← resp.property "seq"
              return .ok seq
            else do
              let reason ← mapReason resp.status (labelOr result)
              return .error resp.status reason) >>= emit args.onResult
          cases acceptsLabel result with
          | false => exact hreason
          | true => cases resp.property "seq" <;> rfl

theorem tryCatch_run_ok {α : Type} {m : Bridge α} {calls calls' : List BridgeResult} {a : α}
    (h : m.run.run calls = (.ok a, calls')) (handler : JsError → Bridge α) :
    (tryCatch m handler).run.run calls = (.ok a, calls') := by
  simp only [tryCatch, tryCatchThe, MonadExceptOf.tryCatch, ExceptT.tryCatch, ExceptT.run_mk,
    StateT.run_bind]
  have hrun : StateT.run m calls = (.ok a, calls') := h
  rw [hrun]
  rfl

theorem tryCatch_throw {α : Type} (e : JsError) (handler : JsError → Bridge α) :
    tryCatch (throw e) handler = handler e := rfl

/-- **The result is emitted once**, whatever `onResult` does. -/
theorem bridgeSend_run (fetch : BridgeRequest → Except JsError Response) (args : BridgeSendArgs)
    (calls : List BridgeResult) :
    (bridgeSend fetch args).run.run calls =
      (.ok (settled (fetch (bridgeRequest args))),
        calls ++ callsOf args.onResult (settled (fetch (bridgeRequest args)))) := by
  unfold bridgeSend
  cases fetch (bridgeRequest args) with
  | error e =>
      rw [liftExcept_error_bind, tryCatch_throw]
      exact emit_run ..
  | ok resp =>
      rw [liftExcept_ok_bind, handle_eq]
      cases hanswer : answer resp with
      | error e =>
          have hsettled : settled (.ok resp) = .error 0 (.declared .networkError) := by
            rw [settled_ok, hanswer]
            rfl
          rw [liftExcept_error_bind, tryCatch_throw, hsettled]
          exact emit_run ..
      | ok result =>
          have hsettled : settled (.ok resp) = result := by
            rw [settled_ok, hanswer]
            rfl
          rw [liftExcept_ok_bind, hsettled]
          exact tryCatch_run_ok (emit_run ..) _

/-! ## The contract -/

/-- The field of the body, when it is an object. -/
def Response.field? (resp : Response) (name : String) : Option Json :=
  match resp.body with
  | .notJson => none
  | .json value => value.field? (units name)

/-- The label of the server: what is not truthy is none. -/
def Response.label (resp : Response) : Option Json := (resp.field? "result").filter Json.truthy

/-- The status is successful, and the body has no label or the label `ok`. -/
def Response.Accepted (resp : Response) : Prop :=
  resp.ok = true ∧ (resp.label = none ∨ resp.label = some (.string (units "ok")))

/-- The result is `ok` exactly for what the server accepted, and otherwise it has a
declared reason. -/
structure BridgeContract (outcome : Except JsError Response) (result : BridgeResult) : Prop where
  accepted : (∃ seq, result = .ok seq) ↔ ∃ resp, outcome = .ok resp ∧ resp.Accepted
  reason : ∀ status reason, result = .error status reason → ∃ declared, reason = .declared declared

/-- The call resolves, calls `onResult` once with its result, and keeps the contract. -/
def BridgeKeepsContract (fetch : BridgeRequest → Except JsError Response) (args : BridgeSendArgs) :
    Prop :=
  ∃ result, (bridgeSend fetch args).run.run [] = (.ok result, callsOf args.onResult result) ∧
    BridgeContract (fetch (bridgeRequest args)) result

/-- A successful response is not `null`, and one that is not accepted has no label with
the text of an inherited property, unless its status gives the reason. -/
structure Harmless (resp : Response) : Prop where
  body : resp.ok = true → resp.body ≠ .json .null
  label : resp.status ≠ 429 → resp.status ≠ 401 → ¬ resp.Accepted →
    ∀ label key, resp.field? "result" = some label → label.toText = some key → key ∉ inheritedNames

variable {resp : Response} {name : String} {key : JsString}

theorem property_null (h : resp.body = .json .null) : resp.property name = .error .library := by
  unfold Response.property
  rw [h]
  rfl

theorem property_eq (h : resp.body ≠ .json .null) :
    resp.property name = .ok (resp.field? name) := by
  obtain ⟨status, body⟩ := resp
  cases body with
  | notJson => rfl
  | json value =>
      have hvalue : value ≠ .null := fun heq => h (congrArg ResponseBody.json heq)
      unfold Response.property Response.field?
      dsimp only
      rw [Json.get?_of_ne_null hvalue]

theorem acceptsLabel_iff (value : Option Json) : acceptsLabel value = true ↔
    value.filter Json.truthy = none ∨ value.filter Json.truthy = some (.string (units "ok")) := by
  cases value with
  | none => exact ⟨fun _ => Or.inl rfl, fun _ => rfl⟩
  | some value =>
      rw [Option.filter_some]
      cases value with
      | null => simp [acceptsLabel, Json.truthy]
      | bool b => cases b <;> simp [acceptsLabel, Json.truthy]
      | number text => simp [acceptsLabel, Json.truthy]
      | string text => by_cases hempty : text = [] <;> simp [acceptsLabel, Json.truthy, hempty]
      | array elements => simp [acceptsLabel, Json.truthy]
      | object fields => simp [acceptsLabel, Json.truthy]

theorem accepted_iff : resp.Accepted ↔ (resp.ok && acceptsLabel (resp.field? "result")) = true := by
  unfold Response.Accepted Response.label
  rw [Bool.and_eq_true, acceptsLabel_iff]

theorem lookupReason_declared_iff :
    (∃ declared, lookupReason key = .declared declared) ↔ key ∉ inheritedNames := by
  have hapart : ∀ name ∈ inheritedNames, reasonMap.lookup name = none := by decide
  unfold lookupReason
  constructor
  · rintro ⟨declared, h⟩ hmem
    rw [hapart key hmem] at h
    dsimp only at h
    rw [if_pos (List.contains_iff_mem.mpr hmem)] at h
    cases h
  · intro h
    cases reasonMap.lookup key with
    | some reason => exact ⟨reason, rfl⟩
    | none => exact ⟨.unknown, if_neg fun hmem => h (List.contains_iff_mem.mp hmem)⟩

theorem lookup_text_declared_iff (value : Json) :
    (∀ reason, value.toText.elim (.error .library : Except JsError ReasonValue)
        (fun key => .ok (lookupReason key)) = .ok reason →
      ∃ declared, reason = .declared declared) ↔
    ∀ key, value.toText = some key → key ∉ inheritedNames := by
  cases value.toText with
  | none =>
      constructor
      · intro _ key hkey
        cases hkey
      · intro _ reason hreason
        cases hreason
  | some text =>
      constructor
      · intro h key hkey
        cases hkey
        exact lookupReason_declared_iff.mp (h (lookupReason text) rfl)
      · intro h reason hreason
        cases hreason
        exact lookupReason_declared_iff.mpr (h text rfl)

theorem labelOr_of_ne_null {value : Json} (h : value ≠ .null) : labelOr (some value) = value := by
  cases value with
  | null => exact absurd rfl h
  | bool b => rfl
  | number text => rfl
  | string text => rfl
  | array elements => rfl
  | object fields => rfl

/-- When `mapReason` gives a declared reason, or throws. -/
theorem mapReason_declared_iff (status : ℕ) (label : Option Json) :
    (∀ reason, mapReason status (labelOr label) = .ok reason →
      ∃ declared, reason = .declared declared) ↔
    (status ≠ 429 → status ≠ 401 → ∀ value key, label = some value → value.toText = some key →
      key ∉ inheritedNames) := by
  unfold mapReason
  by_cases h429 : status = 429
  · rw [if_pos h429]
    refine ⟨fun _ hne => absurd h429 hne, fun _ reason hreason => ?_⟩
    cases hreason
    exact ⟨.rateLimited, rfl⟩
  by_cases h401 : status = 401
  · rw [if_neg h429, if_pos h401]
    refine ⟨fun _ _ hne => absurd h401 hne, fun _ reason hreason => ?_⟩
    cases hreason
    exact ⟨.badJwt, rfl⟩
  rw [if_neg h429, if_neg h401, lookup_text_declared_iff]
  -- The text of a missing label is empty, and neither this nor that of `null` is a name.
  have hempty : ([] : JsString) ∉ inheritedNames := by decide
  have hnull : units "null" ∉ inheritedNames := by decide
  constructor
  · rintro h _ _ value key rfl hkey
    rcases eq_or_ne value .null with rfl | hne
    · cases hkey
      exact hnull
    · rw [labelOr_of_ne_null hne] at h
      exact h key hkey
  · intro h key hkey
    rcases label with _ | value
    · cases hkey
      exact hempty
    rcases eq_or_ne value .null with rfl | hne
    · cases hkey
      exact hempty
    · rw [labelOr_of_ne_null hne] at hkey
      exact h h429 h401 value key rfl hkey

theorem answer_null (h : resp.body = .json .null) : answer resp = .error .library := by
  unfold answer
  rw [property_null h]
  rfl

theorem answer_accepted (hnull : resp.body ≠ .json .null) (h : resp.Accepted) :
    answer resp = .ok (.ok (resp.field? "seq")) := by
  unfold answer
  rw [property_eq hnull, property_eq hnull]
  show (if _ then _ else _ : Except JsError BridgeResult) = _
  rw [if_pos (accepted_iff.mp h)]
  rfl

theorem answer_refused (hnull : resp.body ≠ .json .null) (h : ¬ resp.Accepted) :
    answer resp =
      (mapReason resp.status (labelOr (resp.field? "result"))).map (.error resp.status) := by
  unfold answer
  rw [property_eq hnull]
  show (if _ then _ else _ : Except JsError BridgeResult) = _
  rw [if_neg fun haccepted => h (accepted_iff.mpr haccepted)]
  cases mapReason resp.status (labelOr (resp.field? "result")) <;> rfl

/-- A result of a response that is not `ok` keeps the contract if the response was not
accepted and the reason is declared. -/
theorem contract_error {status : ℕ} {reason : ReasonValue} :
    BridgeContract (.ok resp) (.error status reason) ↔
      ¬ resp.Accepted ∧ ∃ declared, reason = .declared declared := by
  constructor
  · intro h
    refine ⟨fun haccepted => ?_, h.reason status reason rfl⟩
    obtain ⟨seq, hseq⟩ := h.accepted.mpr ⟨resp, rfl, haccepted⟩
    cases hseq
  · rintro ⟨hrefused, hdeclared⟩
    refine ⟨⟨?_, ?_⟩, ?_⟩
    · rintro ⟨seq, hseq⟩
      cases hseq
    · rintro ⟨resp', hresp, haccepted⟩
      cases hresp
      exact absurd haccepted hrefused
    · intro status' reason' heq
      cases heq
      exact hdeclared

theorem contract_iff (resp : Response) :
    BridgeContract (.ok resp) (settled (.ok resp)) ↔ Harmless resp := by
  rw [settled_ok]
  by_cases hnull : resp.body = .json .null
  · have hfield : resp.field? "result" = none := by
      unfold Response.field?
      rw [hnull]
      rfl
    rw [answer_null hnull]
    refine contract_error.trans ⟨fun h => ⟨fun hok _ => ?_, fun _ _ _ label key hlabel => ?_⟩,
      fun h => ⟨fun haccepted => h.body haccepted.1 hnull, .networkError, rfl⟩⟩
    · refine h.1 ⟨hok, Or.inl ?_⟩
      unfold Response.label
      rw [hfield]
      rfl
    · rw [hfield] at hlabel
      cases hlabel
  by_cases haccepted : resp.Accepted
  · rw [answer_accepted hnull haccepted]
    refine ⟨fun _ => ⟨fun _ => hnull, fun _ _ hrefused => absurd haccepted hrefused⟩, fun _ => ?_⟩
    refine ⟨⟨fun _ => ⟨resp, rfl, haccepted⟩, fun _ => ⟨_, rfl⟩⟩, fun status reason heq => ?_⟩
    cases heq
  · have hharmless : Harmless resp ↔ (resp.status ≠ 429 → resp.status ≠ 401 → ∀ value key,
        resp.field? "result" = some value → value.toText = some key → key ∉ inheritedNames) := by
      constructor
      · intro h h429 h401
        exact h.label h429 h401 haccepted
      · intro h
        exact ⟨fun _ => hnull, fun h429 h401 _ => h h429 h401⟩
    rw [hharmless, ← mapReason_declared_iff, answer_refused hnull haccepted]
    cases mapReason resp.status (labelOr (resp.field? "result")) with
    | ok reason =>
        refine contract_error.trans ⟨fun h reason' heq => ?_, fun h => ⟨haccepted, h reason rfl⟩⟩
        cases heq
        exact h.2
    | error e =>
        refine contract_error.trans ⟨fun _ reason heq => ?_, fun _ => ⟨haccepted, .networkError, rfl⟩⟩
        cases heq

/-- **The bridge keeps its contract** if and only if the response is harmless: a
successful one is not `null`, and no label that decides about the reason has the text
of an inherited property. A `fetch` that rejects is always harmless. -/
theorem bridge_contract_iff (fetch : BridgeRequest → Except JsError Response)
    (args : BridgeSendArgs) :
    BridgeKeepsContract fetch args ↔
      ∀ resp, fetch (bridgeRequest args) = .ok resp → Harmless resp := by
  have hruns : BridgeKeepsContract fetch args ↔
      BridgeContract (fetch (bridgeRequest args)) (settled (fetch (bridgeRequest args))) := by
    unfold BridgeKeepsContract
    rw [bridgeSend_run, List.nil_append]
    constructor
    · rintro ⟨result, hrun, hcontract⟩
      cases hrun
      exact hcontract
    · exact fun h => ⟨_, rfl, h⟩
  rw [hruns]
  cases fetch (bridgeRequest args) with
  | error e =>
      refine ⟨fun _ resp heq => ?_, fun _ => ⟨⟨?_, ?_⟩, fun status reason heq => ?_⟩⟩
      · cases heq
      · rintro ⟨seq, heq⟩
        cases heq
      · rintro ⟨resp, heq, -⟩
        cases heq
      · cases heq
        exact ⟨.networkError, rfl⟩
  | ok resp =>
      rw [contract_iff]
      constructor
      · intro h resp' heq
        cases heq
        exact h
      · exact fun h => h resp rfl

/-- A server that names an inherited property. -/
def namesConstructor : Response :=
  ⟨403, .json (.object [(units "result", .string (units "constructor"))])⟩

/-- The reason is then a function. -/
theorem label_escapes_reasons :
    ¬ ∀ (fetch : BridgeRequest → Except JsError Response) (args : BridgeSendArgs),
      BridgeKeepsContract fetch args := by
  intro h
  obtain ⟨result, hrun, hcontract⟩ := h (fun _ => .ok namesConstructor) ⟨[], "", none⟩
  rw [bridgeSend_run] at hrun
  have hresult : result = .error 403 (.inherited (units "constructor")) := by
    cases hrun
    rfl
  obtain ⟨declared, heq⟩ := hcontract.reason 403 _ hresult
  cases heq

/-- A bundle that was relayed looks like one that met a network error, when the body is
`null`. -/
example : settled (.ok ⟨200, .json .null⟩) = .error 0 (.declared .networkError) := rfl

/-! ## The callers -/

/-- What a caller of `bridgeSend` sees of it. -/
def seenAs : Except JsError BridgeResult → BridgeSend
  | .ok (.ok _) => .ok
  | .ok (.error _ _) => .notOk
  | .error _ => .thrown

/-- Neither the drainer nor the router ever gets an exception of the bridge. -/
theorem bridge_never_throws (fetch : BridgeRequest → Except JsError Response)
    (args : BridgeSendArgs) (calls : List BridgeResult) :
    seenAs ((bridgeSend fetch args).run.run calls).1 ≠ .thrown := by
  rw [bridgeSend_run]
  cases settled (fetch (bridgeRequest args)) with
  | ok seq => exact nofun
  | error status reason => exact nofun

end Oxpulse.MeshCore
