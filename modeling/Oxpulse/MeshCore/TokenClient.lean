import Mathlib.Algebra.Order.Field.Rat
import Oxpulse.Foundation.BoundedMap
import Oxpulse.Foundation.Interleaving
import Oxpulse.Foundation.Separator
import Oxpulse.Identity.Base64url
import Oxpulse.MeshCore.OnlineBridge

/-!
# The token client

`getToken` (`token-client.ts`) fetches a token for a channel and a day and keeps it
under a key that begins with the caller's identity. A token that has more than five
minutes left is answered from the cache, which then counts as used.

A number is its value here: what a double rounds is left out.
-/

namespace Oxpulse.MeshCore.TokenClient

open Oxpulse.Coroutine Oxpulse.Crypto Oxpulse.Identity

/-- What the token is in the response: `undefined`, or any value. -/
abbrev Token : Type := Option Json

structure TokenEntry : Type where
  token : Token
  expiresAt : ℚ

def TOKEN_CACHE_MAX_SIZE : ℕ := 32

def REFRESH_BUFFER_MS : ℚ := 5 * 60 * 1000

/-- The parts with a NUL character between them. -/
def cacheKey (geohash dayUtc identityKey : JsString) : JsString :=
  identityKey ++ 0 :: (geohash ++ 0 :: dayUtc)

/-! ## `parseExpMs` -/

/-- `JSON.parse`, and what a number is worth that it has read. -/
structure JsonLibrary : Type where
  parse : JsString → Option Json
  value : JsString → ℚ

/-- `jwt.split('.')[1]` -/
def secondPart (jwt : JsString) : Option JsString :=
  match jwt.dropWhile (· ≠ 46) with
  | [] => none
  | _ :: rest => some (rest.takeWhile (· ≠ 46))

/-- The payload in the standard alphabet, as characters. -/
def padded (payload : JsString) : List Char :=
  payload.map fun u => Char.ofNat (if u = 45 then 43 else if u = 95 then 47 else u.toNat)

/-- Zero for whatever has no `exp` claim that is a number. -/
def parseExpMs (J : JsonLibrary) : Token → ℚ
  | some (.string jwt) =>
      match secondPart jwt with
      | none => 0
      | some [] => 0
      | some payload =>
          let json := (atob (padded payload)).map fun bytes => bytes.map fun b => b.toUInt16
          match (json.bind J.parse).bind (Json.field? (units "exp")) with
          | some (.number exp) => J.value exp * 1000
          | _ => 0
  | _ => 0

/-! ## The module -/

structure TokenRequest : Type where
  url : String
  method : String
  contentType : String
  geohash : JsString
  day_utc : JsString

def tokenRequest (geohash dayUtc : JsString) : TokenRequest where
  url := "/api/sdk/mesh-channel-token"
  method := "POST"
  contentType := "application/json"
  geohash := geohash
  day_utc := dayUtc

structure TokenState : Type where
  cache : InsMap JsString TokenEntry
  /-- The requests that were made. -/
  requests : List TokenRequest

def TokenState.new : TokenState := ⟨.empty, []⟩

/-- How `fetch` settles. The body is read in a later segment. -/
abbrev FetchReply : Type := Except JsError Response

abbrev TokenCo (α : Type) : Type := Co FetchReply TokenState JsError α

def evictIfFull (cache : InsMap JsString TokenEntry) : InsMap JsString TokenEntry :=
  cache.evictOldest TOKEN_CACHE_MAX_SIZE

/-- `data.token` -/
def tokenOf : ResponseBody → Except JsError Token
  | .notJson => .error .library
  | .json data =>
      match data.get? (units "token") with
      | some token => .ok token
      | none => .error .library

def refused (status : ℕ) : JsError :=
  .error ("mesh-channel-token: HTTP " ++ toString status)

section

variable (J : JsonLibrary)

/-- `cache.set` after `evictIfFull`. -/
def keep (key : JsString) (token : Token) (s : TokenState) : TokenState :=
  { s with cache := (evictIfFull s.cache).set key ⟨token, parseExpMs J token⟩ }

/-- What follows `resp.json()`. -/
def readToken (key : JsString) (body : ResponseBody) : TokenCo Token := do
  let token ← Co.ofExcept (tokenOf body)
  modify (keep J key token)
  return token

/-- What follows the `fetch`. -/
def readResponse (key : JsString) (reply : FetchReply) : TokenCo Token := do
  let resp ← Co.ofExcept reply
  if resp.ok = false then throw (refused resp.status)
  else
    let _ ← Co.suspend -- resp.json()
    readToken J key resp.body

def fetchToken (geohash dayUtc key : JsString) : TokenCo Token := do
  modify fun s => { s with requests := s.requests ++ [tokenRequest geohash dayUtc] }
  let reply ← Co.suspend
  readResponse J key reply

/-- At the time `now`. -/
def getToken (geohash dayUtc identityKey : JsString) (now : ℤ) : TokenCo Token := do
  let key := cacheKey geohash dayUtc identityKey
  let s ← get
  match s.cache.get? key with
  | some cached =>
      if now < cached.expiresAt - REFRESH_BUFFER_MS then
        set { s with cache := (s.cache.delete key).set key cached }
        return cached.token
      else fetchToken J geohash dayUtc key
  | none => fetchToken J geohash dayUtc key

def clearTokens : TokenCo Unit := modify fun s => { s with cache := .empty }

def clearTokensForIdentity (identityKey : JsString) : TokenCo Unit :=
  modify fun s => { s with
    cache := s.cache.filter fun key _ => !((identityKey ++ [0]).isPrefixOf key) }

inductive TokenCall : Type where
  | getToken (geohash dayUtc identityKey : JsString) (now : ℤ)
  | clearTokens
  | clearTokensForIdentity (identityKey : JsString)

/-- The two that clear return nothing. -/
def tokenCall : TokenCall → TokenCo Token
  | .getToken geohash dayUtc identityKey now => getToken J geohash dayUtc identityKey now
  | .clearTokens => do
      clearTokens
      return none
  | .clearTokensForIdentity identityKey => do
      clearTokensForIdentity identityKey
      return none

abbrev TokenPool : Type := Pool TokenCall FetchReply TokenState JsError Token

def tokenRun (ms : List (Move TokenCall FetchReply)) : TokenPool :=
  (Pool.fresh .new).exec (tokenCall J) ms

end

/-! ## What a step does -/

section Steps

variable {J : JsonLibrary} {got : ℕ → Response → Prop} {p : TokenPool} {key : JsString}

theorem readToken_ok {body : ResponseBody} {token : Token} (h : tokenOf body = .ok token)
    (s : TokenState) : readToken J key body s = .ret (keep J key token s) token := by
  unfold readToken
  rw [h]
  rfl

theorem readToken_error {body : ResponseBody} {e : JsError} (h : tokenOf body = .error e)
    (s : TokenState) : readToken J key body s = .throw s e := by
  unfold readToken
  rw [h]
  rfl

theorem readResponse_ok {resp : Response} (h : resp.ok = true) (s : TokenState) :
    readResponse J key (.ok resp) s = .await s fun _ s => readToken J key resp.body s := by
  simp [readResponse, h, Co.ofExcept, Outcome.bind]

theorem readResponse_error {reply : FetchReply} (h : ∀ resp, reply = .ok resp → resp.ok = false)
    (s : TokenState) : ∃ e, readResponse J key reply s = .throw s e := by
  cases reply with
  | error e => exact ⟨e, rfl⟩
  | ok resp =>
      refine ⟨refused resp.status, ?_⟩
      simp [readResponse, h resp rfl, Co.ofExcept, Outcome.bind]

theorem fetchToken_eq (geohash dayUtc key : JsString) (s : TokenState) :
    fetchToken J geohash dayUtc key s =
      .await { s with requests := s.requests ++ [tokenRequest geohash dayUtc] }
        fun reply s => readResponse J key reply s := rfl

/-- Where a `getToken` stands that has not settled: at the `fetch`, or at the body of
a response that it got. -/
inductive Waits (J : JsonLibrary) (got : Response → Prop) (key : JsString) :
    (FetchReply → TokenState → Outcome FetchReply TokenState JsError Token) → Prop where
  | fetch : Waits J got key fun reply s => readResponse J key reply s
  | body (resp : Response) : resp.ok = true → got resp →
      Waits J got key fun _ s => readToken J key resp.body s

/-- The calls that wait are calls of `getToken`; call `i` got the responses `got i`. -/
def AllWait (J : JsonLibrary) (got : ℕ → Response → Prop) (p : TokenPool) : Prop :=
  ∀ (i : ℕ) (call : TokenCall)
    (k : FetchReply → TokenState → Outcome FetchReply TokenState JsError Token),
    p.calls[i]? = some ⟨call, .pending k⟩ → ∃ geohash dayUtc identityKey now,
      call = .getToken geohash dayUtc identityKey now ∧
        Waits J (got i) (cacheKey geohash dayUtc identityKey) k

/-- **What a step does.** -/
inductive TokenStep (J : JsonLibrary) (got : ℕ → Response → Prop) (p : TokenPool) :
    Move TokenCall FetchReply → TokenPool → Prop where
  /-- A token of the cache. -/
  | serves (geohash dayUtc identityKey : JsString) (now : ℤ) (cached : TokenEntry) :
      p.shared.cache.get? (cacheKey geohash dayUtc identityKey) = some cached →
      now < cached.expiresAt - REFRESH_BUFFER_MS →
      TokenStep J got p (.start (.getToken geohash dayUtc identityKey now))
        ⟨{ p.shared with cache :=
            p.shared.cache.renew (cacheKey geohash dayUtc identityKey) cached },
          p.calls ++ [⟨.getToken geohash dayUtc identityKey now, .settled (.ok cached.token)⟩]⟩
  | asks (geohash dayUtc identityKey : JsString) (now : ℤ) :
      TokenStep J got p (.start (.getToken geohash dayUtc identityKey now))
        ⟨{ p.shared with
            requests := p.shared.requests ++ [tokenRequest geohash dayUtc] },
          p.calls ++ [⟨.getToken geohash dayUtc identityKey now,
            .pending fun reply s => readResponse J (cacheKey geohash dayUtc identityKey) reply s⟩]⟩
  | clears : TokenStep J got p (.start .clearTokens)
      ⟨{ p.shared with cache := .empty }, p.calls ++ [⟨.clearTokens, .settled (.ok none)⟩]⟩
  | clearsIdentity (identityKey : JsString) :
      TokenStep J got p (.start (.clearTokensForIdentity identityKey))
        ⟨{ p.shared with cache := p.shared.cache.filter fun key _ =>
            !((identityKey ++ [0]).isPrefixOf key) },
          p.calls ++ [⟨.clearTokensForIdentity identityKey, .settled (.ok none)⟩]⟩
  /-- Nothing waits there. -/
  | idle (i : ℕ) (reply : FetchReply) : TokenStep J got p (.resume i reply) p
  | fails (i : ℕ) (reply : FetchReply) (call : TokenCall) (e : JsError)
      (k : FetchReply → TokenState → Outcome FetchReply TokenState JsError Token) :
      p.calls[i]? = some ⟨call, .pending k⟩ →
      TokenStep J got p (.resume i reply) ⟨p.shared, p.calls.set i ⟨call, .settled (.error e)⟩⟩
  | answers (i : ℕ) (resp : Response) (geohash dayUtc identityKey : JsString) (now : ℤ) :
      p.calls[i]? = some ⟨.getToken geohash dayUtc identityKey now,
        .pending fun reply s => readResponse J (cacheKey geohash dayUtc identityKey) reply s⟩ →
      resp.ok = true →
      TokenStep J got p (.resume i (.ok resp))
        ⟨p.shared, p.calls.set i ⟨.getToken geohash dayUtc identityKey now,
          .pending fun _ s => readToken J (cacheKey geohash dayUtc identityKey) resp.body s⟩⟩
  /-- A token of the server. -/
  | lands (i : ℕ) (reply : FetchReply) (resp : Response) (geohash dayUtc identityKey : JsString)
      (now : ℤ) (token : Token) :
      p.calls[i]? = some ⟨.getToken geohash dayUtc identityKey now,
        .pending fun _ s => readToken J (cacheKey geohash dayUtc identityKey) resp.body s⟩ →
      resp.ok = true → got i resp → tokenOf resp.body = .ok token →
      TokenStep J got p (.resume i reply)
        ⟨keep J (cacheKey geohash dayUtc identityKey) token p.shared,
          p.calls.set i ⟨.getToken geohash dayUtc identityKey now, .settled (.ok token)⟩⟩

/-- An entry with more than five minutes left is served. -/
theorem getToken_serves {geohash dayUtc identityKey : JsString} {now : ℤ} {cached : TokenEntry}
    (hcached : p.shared.cache.get? (cacheKey geohash dayUtc identityKey) = some cached)
    (hleft : now < cached.expiresAt - REFRESH_BUFFER_MS) :
    p.start (tokenCall J) (.getToken geohash dayUtc identityKey now) =
      ⟨{ p.shared with cache :=
          p.shared.cache.renew (cacheKey geohash dayUtc identityKey) cached },
        p.calls ++ [⟨.getToken geohash dayUtc identityKey now, .settled (.ok cached.token)⟩]⟩ := by
  have hserves : tokenCall J (.getToken geohash dayUtc identityKey now) p.shared =
      .ret { p.shared with cache :=
        p.shared.cache.renew (cacheKey geohash dayUtc identityKey) cached } cached.token := by
    simp only [tokenCall, getToken, Co.bind_apply, Co.get_apply, Outcome.bind, hcached, hleft,
      if_true]
    rfl
  unfold Pool.start
  rw [hserves]
  rfl

/-- Otherwise there is a request. -/
theorem getToken_asks {geohash dayUtc identityKey : JsString} {now : ℤ}
    (h : ∀ cached, p.shared.cache.get? (cacheKey geohash dayUtc identityKey) = some cached →
      ¬ now < cached.expiresAt - REFRESH_BUFFER_MS) :
    tokenCall J (.getToken geohash dayUtc identityKey now) p.shared =
      fetchToken J geohash dayUtc (cacheKey geohash dayUtc identityKey) p.shared := by
  cases hcached : p.shared.cache.get? (cacheKey geohash dayUtc identityKey) with
  | none => simp [tokenCall, getToken, Outcome.bind, hcached]
  | some cached => simp [tokenCall, getToken, Outcome.bind, hcached, h cached hcached]

theorem getToken_step (geohash dayUtc identityKey : JsString) (now : ℤ) :
    TokenStep J got p (.start (.getToken geohash dayUtc identityKey now))
      (p.start (tokenCall J) (.getToken geohash dayUtc identityKey now)) := by
  by_cases h : ∃ cached, p.shared.cache.get? (cacheKey geohash dayUtc identityKey) = some cached ∧
      now < cached.expiresAt - REFRESH_BUFFER_MS
  · obtain ⟨cached, hcached, hleft⟩ := h
    rw [getToken_serves hcached hleft]
    exact .serves geohash dayUtc identityKey now cached hcached hleft
  · unfold Pool.start
    rw [getToken_asks fun cached hcached hleft => h ⟨cached, hcached, hleft⟩, fetchToken_eq]
    exact .asks geohash dayUtc identityKey now

theorem resume_step (hp : AllWait J got p) (i : ℕ) (reply : FetchReply) :
    TokenStep J got p (.resume i reply) (p.resume i reply) := by
  rcases Pool.resume_cases p i reply with h | ⟨call, k, hi, h⟩
  · rw [h]
    exact .idle i reply
  obtain ⟨geohash, dayUtc, identityKey, now, rfl, hwaits⟩ := hp i call k hi
  rw [h]
  cases hwaits with
  | fetch =>
      dsimp only
      by_cases hok : ∃ resp, reply = .ok resp ∧ resp.ok = true
      · obtain ⟨resp, rfl, hok⟩ := hok
        rw [readResponse_ok hok]
        exact .answers i resp geohash dayUtc identityKey now hi hok
      · have hbad : ∀ resp, reply = .ok resp → resp.ok = false := fun resp hresp => by
          rw [Bool.eq_false_iff]
          exact fun hok' => hok ⟨resp, hresp, hok'⟩
        obtain ⟨e, he⟩ : ∃ e, readResponse J (cacheKey geohash dayUtc identityKey) reply p.shared =
            .throw p.shared e := readResponse_error hbad p.shared
        rw [he]
        exact .fails i reply _ e _ hi
  | body resp hresp hgot =>
      dsimp only
      cases htoken : tokenOf resp.body with
      | ok token =>
          rw [readToken_ok htoken]
          exact .lands i reply resp geohash dayUtc identityKey now token hi hresp hgot htoken
      | error e =>
          rw [readToken_error htoken]
          exact .fails i reply _ e _ hi

/-- **Every step is one of these.** -/
theorem token_step (hp : AllWait J got p) (mv : Move TokenCall FetchReply) :
    TokenStep J got p mv (p.step (tokenCall J) mv) := by
  cases mv with
  | resume i reply => exact resume_step hp i reply
  | start call =>
      cases call with
      | getToken geohash dayUtc identityKey now =>
          exact getToken_step geohash dayUtc identityKey now
      | clearTokens => exact .clears
      | clearTokensForIdentity identityKey => exact .clearsIdentity identityKey

end Steps

end Oxpulse.MeshCore.TokenClient
