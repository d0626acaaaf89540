import Oxpulse.MeshCore.TokenClient

/-!
# The tokens over a run

Calls of `getToken` overlap each other and the calls that clear the cache. Whatever
the order, a token is given only to a call for the same channel, day and identity as
the one that fetched it, and from the cache only if no call cleared it in between
(`tokens_isolated`). A token that was used stays until more than thirty others are
(`recent_token_stays`): an entry that is fetched again keeps its place, but an older
one makes room for it.
-/

namespace Oxpulse.MeshCore.TokenClient

open Oxpulse.Coroutine Oxpulse.Crypto Pool

/-- No part of the key but the last one contains the character between them. -/
def TokenCall.NulFree : TokenCall → Prop
  | .getToken geohash _ identityKey _ => 0 ∉ geohash ∧ 0 ∉ identityKey
  | .clearTokens => True
  | .clearTokensForIdentity identityKey => 0 ∉ identityKey

instance : DecidablePred TokenCall.NulFree
  | .getToken geohash _ identityKey _ =>
      inferInstanceAs (Decidable (0 ∉ geohash ∧ 0 ∉ identityKey))
  | .clearTokens => .isTrue trivial
  | .clearTokensForIdentity identityKey => inferInstanceAs (Decidable (0 ∉ identityKey))

/-- The step clears the tokens of this identity. -/
def Clears (identityKey : JsString) : Move TokenCall FetchReply → Prop
  | .start .clearTokens => True
  | .start (.clearTokensForIdentity identityKey') => identityKey' = identityKey
  | _ => False

theorem cacheKey_inj {geohash dayUtc identityKey geohash' dayUtc' identityKey' : JsString}
    (hgeohash : 0 ∉ geohash) (hidentity : 0 ∉ identityKey) (hgeohash' : 0 ∉ geohash')
    (hidentity' : 0 ∉ identityKey')
    (h : cacheKey geohash dayUtc identityKey = cacheKey geohash' dayUtc' identityKey') :
    geohash = geohash' ∧ dayUtc = dayUtc' ∧ identityKey = identityKey' := by
  obtain ⟨hkey, hrest⟩ := Separator.first_inj hidentity hidentity' h
  obtain ⟨hfirst, hlast⟩ := Separator.first_inj hgeohash hgeohash' hrest
  exact ⟨hfirst, hlast, hkey⟩

/-- The keys of an identity begin with it and a NUL character. -/
theorem isPrefixOf_cacheKey {identityKey identityKey' : JsString} (geohash dayUtc : JsString)
    (hnul : 0 ∉ identityKey) (hnul' : 0 ∉ identityKey') :
    ((identityKey' ++ [0]).isPrefixOf (cacheKey geohash dayUtc identityKey) = true) ↔
      identityKey' = identityKey := by
  rw [List.isPrefixOf_iff_prefix]
  constructor
  · rintro ⟨rest, hrest⟩
    rw [List.append_assoc] at hrest
    exact (Separator.first_inj hnul' hnul hrest).1
  · rintro rfl
    exact ⟨geohash ++ 0 :: dayUtc, by rw [List.append_assoc]; rfl⟩

section Runs

variable (J : JsonLibrary)

/-- After `pre`, call `i` goes on and resolves with a token that is in a response to
its own request. -/
def Lands (pre : List (Move TokenCall FetchReply)) (i : ℕ) (reply : FetchReply)
    (geohash dayUtc identityKey : JsString) (token : Token) : Prop :=
  ∃ resp now k, Move.resume i (.ok resp) ∈ pre ∧ resp.ok = true ∧
    tokenOf resp.body = .ok token ∧
    (tokenRun J pre).calls[i]? = some ⟨.getToken geohash dayUtc identityKey now, .pending k⟩ ∧
    (tokenRun J (pre ++ [.resume i reply])).calls[i]? =
      some ⟨.getToken geohash dayUtc identityKey now, .settled (.ok token)⟩

/-- A call for these fetched the token, and it was not cleared since. -/
def Held (ms : List (Move TokenCall FetchReply)) (geohash dayUtc identityKey : JsString)
    (token : Token) : Prop :=
  ∃ pre i reply post, ms = pre ++ .resume i reply :: post ∧
    Lands J pre i reply geohash dayUtc identityKey token ∧ ∀ mv ∈ post, ¬ Clears identityKey mv

/-- Where the token comes from that call `i` resolved with. -/
inductive Origin (ms : List (Move TokenCall FetchReply)) (i : ℕ)
    (geohash dayUtc identityKey : JsString) (now : ℤ) (token : Token) : Prop where
  /-- From the server, for this call. -/
  | server (pre : List (Move TokenCall FetchReply)) (reply : FetchReply)
      (post : List (Move TokenCall FetchReply)) : ms = pre ++ .resume i reply :: post →
      Lands J pre i reply geohash dayUtc identityKey token →
      Origin ms i geohash dayUtc identityKey now token
  /-- From the cache, with more than five minutes left. -/
  | cache (pre post : List (Move TokenCall FetchReply)) :
      ms = pre ++ .start (.getToken geohash dayUtc identityKey now) :: post →
      (tokenRun J pre).calls.length = i → Held J pre geohash dayUtc identityKey token →
      now < parseExpMs J token - REFRESH_BUFFER_MS →
      Origin ms i geohash dayUtc identityKey now token

/-- What is true of a run so far. -/
structure TokensSound (ms : List (Move TokenCall FetchReply)) : Prop where
  waits : AllWait J (fun i resp => Move.resume i (.ok resp) ∈ ms) (tokenRun J ms)
  size : (tokenRun J ms).shared.cache.size ≤ TOKEN_CACHE_MAX_SIZE
  entries : ∀ key e, (tokenRun J ms).shared.cache.get? key = some e →
    ∃ geohash dayUtc identityKey, key = cacheKey geohash dayUtc identityKey ∧
      0 ∉ geohash ∧ 0 ∉ identityKey ∧ e.expiresAt = parseExpMs J e.token ∧
      Held J ms geohash dayUtc identityKey e.token
  settled : ∀ i geohash dayUtc identityKey now token, (tokenRun J ms).calls[i]? =
    some ⟨.getToken geohash dayUtc identityKey now, .settled (.ok token)⟩ →
      Origin J ms i geohash dayUtc identityKey now token

variable {J} {ms : List (Move TokenCall FetchReply)} {mv : Move TokenCall FetchReply}
  {geohash dayUtc identityKey : JsString} {now : ℤ} {token : Token} {i : ℕ}

theorem tokenRun_concat (ms : List (Move TokenCall FetchReply)) (mv : Move TokenCall FetchReply) :
    tokenRun J (ms ++ [mv]) = (tokenRun J ms).step (tokenCall J) mv := exec_concat ms mv

theorem Held.concat (h : Held J ms geohash dayUtc identityKey token) (hmv : ¬ Clears identityKey mv) :
    Held J (ms ++ [mv]) geohash dayUtc identityKey token := by
  obtain ⟨pre, i, reply, post, rfl, hlands, hpost⟩ := h
  refine ⟨pre, i, reply, post ++ [mv], by rw [List.append_assoc, List.cons_append], hlands,
    fun mv' hmv' => ?_⟩
  rcases List.mem_append.mp hmv' with hmv' | hmv'
  · exact hpost mv' hmv'
  · rwa [List.mem_singleton.mp hmv']

theorem Origin.concat (h : Origin J ms i geohash dayUtc identityKey now token)
    (mv : Move TokenCall FetchReply) :
    Origin J (ms ++ [mv]) i geohash dayUtc identityKey now token := by
  cases h with
  | server pre reply post heq hlands =>
      refine .server pre reply (post ++ [mv]) ?_ hlands
      rw [heq, List.append_assoc, List.cons_append]
  | cache pre post heq hlength hheld hleft =>
      refine .cache pre (post ++ [mv]) ?_ hlength hheld hleft
      rw [heq, List.append_assoc, List.cons_append]

theorem tokensSound_nil : TokensSound J [] where
  waits := by rintro i call k hi; cases hi
  size := Nat.zero_le _
  entries := by rintro key e he; cases he
  settled := by rintro i _ _ _ _ _ hi; cases hi

theorem AllWait.mono {got got' : ℕ → Response → Prop} {p : TokenPool} (h : AllWait J got p)
    (hgot : ∀ i resp, got i resp → got' i resp) : AllWait J got' p := by
  intro i call k hi
  obtain ⟨geohash, dayUtc, identityKey, now, rfl, hwaits⟩ := h i call k hi
  refine ⟨geohash, dayUtc, identityKey, now, rfl, ?_⟩
  cases hwaits with
  | fetch => exact .fetch
  | body resp hok hresp => exact .body resp hok (hgot i resp hresp)

/-- A call that has settled does not wait, and the others still do. -/
theorem AllWait.set {got : ℕ → Response → Prop} {p : TokenPool} (h : AllWait J got p)
    {s : TokenState} {call : TokenCall} {x : Except JsError Token} :
    AllWait J got ⟨s, p.calls.set i ⟨call, .settled x⟩⟩ := by
  intro j call' k hj
  rcases set_cases hj with ⟨-, hold⟩ | ⟨-, hnew⟩
  · exact h j call' k hold
  · cases hnew

theorem AllWait.append {got : ℕ → Response → Prop} {p : TokenPool} (h : AllWait J got p)
    {s : TokenState} {call : TokenCall} {x : Except JsError Token} :
    AllWait J got ⟨s, p.calls ++ [⟨call, .settled x⟩]⟩ := by
  intro j call' k hj
  rcases concat_cases hj with ⟨-, hold⟩ | ⟨-, hnew⟩
  · exact h j call' k hold
  · cases hnew

/-- The calls that wait after a step. -/
theorem TokenStep.waits {got got' : ℕ → Response → Prop} {p p' : TokenPool}
    (h : TokenStep J got p mv p') (hp : AllWait J got p)
    (hgot : ∀ i resp, got i resp → got' i resp)
    (hresumed : ∀ i resp, mv = .resume i (.ok resp) → got' i resp) : AllWait J got' p' := by
  cases h with
  | serves _ _ _ _ _ _ _ => exact (hp.mono hgot).append
  | clears => exact (hp.mono hgot).append
  | clearsIdentity _ => exact (hp.mono hgot).append
  | idle _ _ => exact hp.mono hgot
  | fails _ _ _ _ _ _ => exact (hp.mono hgot).set
  | lands _ _ _ _ _ _ _ _ _ _ _ _ => exact (hp.mono hgot).set
  | asks geohash dayUtc identityKey now =>
      intro j call k hj
      rcases concat_cases hj with ⟨-, hold⟩ | ⟨-, hnew⟩
      · exact hp.mono hgot j call k hold
      · cases hnew
        exact ⟨geohash, dayUtc, identityKey, now, rfl, .fetch⟩
  | answers i resp geohash dayUtc identityKey now _ hok =>
      intro j call k hj
      rcases set_cases hj with ⟨-, hold⟩ | ⟨rfl, hnew⟩
      · exact hp.mono hgot j call k hold
      · cases hnew
        exact ⟨geohash, dayUtc, identityKey, now, rfl, .body resp hok (hresumed i resp rfl)⟩

/-- There is always room. -/
theorem TokenStep.size {got : ℕ → Response → Prop} {p p' : TokenPool}
    (h : TokenStep J got p mv p') (hp : p.shared.cache.size ≤ TOKEN_CACHE_MAX_SIZE) :
    p'.shared.cache.size ≤ TOKEN_CACHE_MAX_SIZE := by
  cases h with
  | serves geohash dayUtc identityKey now cached hcached _ =>
      have hmem : cacheKey geohash dayUtc identityKey ∈ p.shared.cache.keys :=
        InsMap.get?_isSome.mp (by rw [hcached]; rfl)
      exact (InsMap.size_renew hmem).trans_le hp
  | asks _ _ _ _ => exact hp
  | clears => exact Nat.zero_le _
  | clearsIdentity _ => exact (InsMap.size_filter_le ..).trans hp
  | idle _ _ => exact hp
  | fails _ _ _ _ _ _ => exact hp
  | answers _ _ _ _ _ _ _ _ => exact hp
  | lands _ _ _ _ _ _ _ _ _ _ _ _ => exact InsMap.size_store (by decide) hp

/-- What is in the cache after a step was there before it, uncleared, or has landed. -/
theorem TokenStep.entry {got : ℕ → Response → Prop} {p p' : TokenPool} {key : JsString}
    {e : TokenEntry} (h : TokenStep J got p mv p') (he : p'.shared.cache.get? key = some e) :
    (p.shared.cache.get? key = some e ∧ mv ≠ .start .clearTokens ∧
      ∀ identityKey, mv = .start (.clearTokensForIdentity identityKey) →
        (identityKey ++ [0]).isPrefixOf key = false) ∨
    ∃ i reply resp geohash dayUtc identityKey now k token, mv = .resume i reply ∧
      key = cacheKey geohash dayUtc identityKey ∧ e = ⟨token, parseExpMs J token⟩ ∧
      p.calls[i]? = some ⟨.getToken geohash dayUtc identityKey now, .pending k⟩ ∧
      resp.ok = true ∧ got i resp ∧ tokenOf resp.body = .ok token ∧
      p'.calls[i]? = some ⟨.getToken geohash dayUtc identityKey now, .settled (.ok token)⟩ := by
  cases h with
  | serves geohash dayUtc identityKey now cached hcached _ =>
      refine Or.inl ⟨?_, by rintro ⟨⟩, by rintro _ ⟨⟩⟩
      dsimp only at he
      rw [InsMap.get?_renew] at he
      split at he
      next heq =>
        cases he
        rw [← heq]
        exact hcached
      · exact he
  | asks _ _ _ _ => exact Or.inl ⟨he, by rintro ⟨⟩, by rintro _ ⟨⟩⟩
  | clears => cases he
  | clearsIdentity identityKey =>
      obtain ⟨hold, htest⟩ := InsMap.get?_filter_eq_some.mp he
      refine Or.inl ⟨hold, by rintro ⟨⟩, ?_⟩
      rintro _ ⟨⟩
      simpa using htest
  | idle _ _ => exact Or.inl ⟨he, by rintro ⟨⟩, by rintro _ ⟨⟩⟩
  | fails _ _ _ _ _ _ => exact Or.inl ⟨he, by rintro ⟨⟩, by rintro _ ⟨⟩⟩
  | answers _ _ _ _ _ _ _ _ => exact Or.inl ⟨he, by rintro ⟨⟩, by rintro _ ⟨⟩⟩
  | lands i reply resp geohash dayUtc identityKey now token hi hok hgot htoken =>
      have hset : ((evictIfFull p.shared.cache).set (cacheKey geohash dayUtc identityKey)
          ⟨token, parseExpMs J token⟩).get? key = some e := he
      rw [InsMap.get?_set] at hset
      split at hset
      next heq =>
        cases hset
        refine Or.inr ⟨i, reply, resp, geohash, dayUtc, identityKey, now, _, token, rfl, heq.symm,
          rfl, hi, hok, hgot, htoken, ?_⟩
        exact List.getElem?_set_self (List.getElem?_eq_some_iff.mp hi).1
      · exact Or.inl ⟨InsMap.get?_of_evictOldest hset, by rintro ⟨⟩, by rintro _ ⟨⟩⟩

/-- A call that has resolved after a step had done so before it, was served from the
cache, or has landed. -/
theorem TokenStep.resolved {got : ℕ → Response → Prop} {p p' : TokenPool}
    (h : TokenStep J got p mv p')
    (hi : p'.calls[i]? = some ⟨.getToken geohash dayUtc identityKey now, .settled (.ok token)⟩) :
    p.calls[i]? = some ⟨.getToken geohash dayUtc identityKey now, .settled (.ok token)⟩ ∨
    (mv = .start (.getToken geohash dayUtc identityKey now) ∧ i = p.calls.length ∧
      ∃ cached, p.shared.cache.get? (cacheKey geohash dayUtc identityKey) = some cached ∧
        cached.token = token ∧ now < cached.expiresAt - REFRESH_BUFFER_MS) ∨
    ∃ reply resp k, mv = .resume i reply ∧ p.calls[i]? =
        some ⟨.getToken geohash dayUtc identityKey now, .pending k⟩ ∧
      resp.ok = true ∧ got i resp ∧ tokenOf resp.body = .ok token := by
  cases h with
  | serves _ _ _ _ cached hcached hleft =>
      rcases concat_cases hi with ⟨-, hold⟩ | ⟨hlast, hnew⟩
      · exact Or.inl hold
      · cases hnew
        exact Or.inr (Or.inl ⟨rfl, hlast, cached, hcached, rfl, hleft⟩)
  | asks _ _ _ _ =>
      rcases concat_cases hi with ⟨-, hold⟩ | ⟨-, hnew⟩
      · exact Or.inl hold
      · cases hnew
  | clears =>
      rcases concat_cases hi with ⟨-, hold⟩ | ⟨-, hnew⟩
      · exact Or.inl hold
      · cases hnew
  | clearsIdentity _ =>
      rcases concat_cases hi with ⟨-, hold⟩ | ⟨-, hnew⟩
      · exact Or.inl hold
      · cases hnew
  | idle _ _ => exact Or.inl hi
  | fails _ _ _ _ _ _ =>
      rcases set_cases hi with ⟨-, hold⟩ | ⟨-, hnew⟩
      · exact Or.inl hold
      · cases hnew
  | answers _ _ _ _ _ _ _ _ =>
      rcases set_cases hi with ⟨-, hold⟩ | ⟨-, hnew⟩
      · exact Or.inl hold
      · cases hnew
  | lands j reply resp _ _ _ _ _ hj hok hgot htoken =>
      rcases set_cases hi with ⟨-, hold⟩ | ⟨rfl, hnew⟩
      · exact Or.inl hold
      · cases hnew
        exact Or.inr (Or.inr ⟨reply, resp, _, rfl, hj, hok, hgot, htoken⟩)

/-- The calls of a run are those that it started. -/
theorem arg_nulFree (hnul : ∀ call ∈ starts ms, call.NulFree)
    {c : Call TokenCall FetchReply TokenState JsError Token}
    (hi : (tokenRun J ms).calls[i]? = some c) : c.arg.NulFree := by
  have hargs : (tokenRun J ms).calls.map Call.arg = starts ms := by
    unfold tokenRun
    rw [exec_args]
    rfl
  apply hnul
  rw [← hargs]
  exact List.mem_map_of_mem (List.mem_of_getElem? hi)

theorem clears_cases (h : Clears identityKey mv) : mv = .start .clearTokens ∨
    mv = .start (.clearTokensForIdentity identityKey) := by
  cases mv with
  | resume i reply => cases h
  | start call =>
      cases call with
      | getToken _ _ _ _ => cases h
      | clearTokens => exact Or.inl rfl
      | clearTokensForIdentity identityKey' =>
          obtain rfl : identityKey' = identityKey := h
          exact Or.inr rfl

theorem TokensSound.concat (h : TokensSound J ms) (hnul : ∀ call ∈ starts (ms ++ [mv]), call.NulFree) :
    TokensSound J (ms ++ [mv]) := by
  have hstep := token_step h.waits mv
  rw [← tokenRun_concat] at hstep
  refine ⟨?_, hstep.size h.size, ?_, ?_⟩
  · refine hstep.waits h.waits (fun i resp hmem => List.mem_append_left _ hmem) ?_
    rintro i resp rfl
    exact List.mem_append_right _ (List.mem_singleton.mpr rfl)
  · intro key e he
    rcases hstep.entry he with ⟨hold, hall, hidentity⟩ |
      ⟨i, reply, resp, geohash, dayUtc, identityKey, now, k, token, rfl, rfl, rfl, hi, hok, hgot,
        htoken, hi'⟩
    · obtain ⟨geohash, dayUtc, identityKey, rfl, hgeohash, hkey, hexpires, hheld⟩ :=
        h.entries key e hold
      refine ⟨geohash, dayUtc, identityKey, rfl, hgeohash, hkey, hexpires, hheld.concat ?_⟩
      intro hclears
      rcases clears_cases hclears with rfl | rfl
      · exact hall rfl
      · have hpre := hidentity identityKey rfl
        rw [(isPrefixOf_cacheKey geohash dayUtc hkey hkey).mpr rfl] at hpre
        cases hpre
    · obtain ⟨hgeohash, hkey⟩ := arg_nulFree hnul hi'
      exact ⟨geohash, dayUtc, identityKey, rfl, hgeohash, hkey, rfl, ms, i, reply, [], rfl,
        ⟨resp, now, k, hgot, hok, htoken, hi, hi'⟩, nofun⟩
  · intro i geohash dayUtc identityKey now token hi
    rcases hstep.resolved hi with hold | ⟨rfl, rfl, cached, hcached, rfl, hleft⟩ |
      ⟨reply, resp, k, rfl, hpending, hok, hgot, htoken⟩
    · exact (h.settled i _ _ _ _ _ hold).concat mv
    · obtain ⟨geohash', dayUtc', identityKey', hsame, hgeohash', hkey', hexpires, hheld⟩ :=
        h.entries _ _ hcached
      obtain ⟨hgeohash, hkey⟩ := arg_nulFree hnul hi
      obtain ⟨rfl, rfl, rfl⟩ := cacheKey_inj hgeohash hkey hgeohash' hkey' hsame
      rw [hexpires] at hleft
      exact .cache ms [] rfl rfl hheld hleft
    · exact .server ms reply [] rfl ⟨resp, now, k, hgot, hok, htoken, hpending, hi⟩

theorem tokensSound (hnul : ∀ call ∈ starts ms, call.NulFree) : TokensSound J ms := by
  induction ms using List.reverseRecOn with
  | nil => exact tokensSound_nil
  | append_singleton ms mv ih =>
      refine (ih fun call hcall => hnul call ?_).concat hnul
      rw [starts_append]
      exact List.mem_append_left _ hcall

/-- **Tokens stay with their identity.** Whatever calls overlap: the cache holds at most
as many tokens as it may, and a call of `getToken` resolves with a token that the server
sent for its own request, or that it sent to a call for the same channel, day and
identity, since when the tokens of the identity were not cleared, and then more than five
minutes were left. -/
theorem tokens_isolated (J : JsonLibrary) (ms : List (Move TokenCall FetchReply))
    (hnul : ∀ call ∈ starts ms, call.NulFree) :
    (tokenRun J ms).shared.cache.size ≤ TOKEN_CACHE_MAX_SIZE ∧
      ∀ i geohash dayUtc identityKey now token, (tokenRun J ms).calls[i]? =
        some ⟨.getToken geohash dayUtc identityKey now, .settled (.ok token)⟩ →
          Origin J ms i geohash dayUtc identityKey now token :=
  ⟨(tokensSound hnul).size, (tokensSound hnul).settled⟩

/-- Every token is a thousand seconds old when it expires. -/
def sampleJson : JsonLibrary where
  parse _ := some (.object [(units "exp", .number (units "1000"))])
  value _ := 1000

def sampleToken : Json := .string (units "e30.e30.")

def sampleResponse : Response := ⟨200, .json (.object [(units "token", sampleToken)])⟩

/-- The first call fetches a token. -/
def fetchesToken : List (Move TokenCall FetchReply) :=
  [.start (.getToken (units "u33d") (units "2026-01-01") (units "alice") 0),
    .resume 0 (.ok sampleResponse), .resume 0 (.ok sampleResponse)]

theorem sampleToken_left :
    ((0 : ℤ) : ℚ) < parseExpMs sampleJson (some sampleToken) - REFRESH_BUFFER_MS := by
  decide +kernel

theorem fetchesToken_keeps : (tokenRun sampleJson fetchesToken).shared.cache.get?
    (cacheKey (units "u33d") (units "2026-01-01") (units "alice")) =
      some ⟨some sampleToken, parseExpMs sampleJson (some sampleToken)⟩ := rfl

/-- The second one gets it from the cache. -/
theorem tokens_isolated_cached :
    Origin sampleJson
      (fetchesToken ++ [.start (.getToken (units "u33d") (units "2026-01-01") (units "alice") 0)])
      1 (units "u33d") (units "2026-01-01") (units "alice") 0 (some sampleToken) :=
  (tokens_isolated sampleJson _ (by decide)).2 1 _ _ _ _ _ (by
    rw [tokenRun_concat]
    exact congrArg (fun p => p.calls[1]?) (getToken_serves
      fetchesToken_keeps sampleToken_left))

/-! ## What stays in the cache -/

/-- The step resolves a call of `getToken` with this key. -/
def Resolves (p p' : TokenPool) (key : JsString) : Prop :=
  ∃ (i : ℕ) (geohash dayUtc identityKey : JsString) (now : ℤ) (token : Token),
    key = cacheKey geohash dayUtc identityKey ∧
    p'.calls[i]? = some ⟨.getToken geohash dayUtc identityKey now, .settled (.ok token)⟩ ∧
    p.calls[i]? ≠ some ⟨.getToken geohash dayUtc identityKey now, .settled (.ok token)⟩

/-- A key that is served, or that was not there, is now the last one. -/
theorem TokenStep.used {got : ℕ → Response → Prop} {p p' : TokenPool} {key : JsString}
    (h : TokenStep J got p mv p') (hkey : Resolves p p' key)
    (hnew : (∃ call, mv = .start call) ∨ p.shared.cache.get? key = none) :
    p'.shared.cache.Recent key ∅ := by
  obtain ⟨i, geohash, dayUtc, identityKey, now, token, rfl, hi, hbefore⟩ := hkey
  cases h with
  | serves _ _ _ _ cached _ _ =>
      rcases concat_cases hi with ⟨-, hold⟩ | ⟨-, hcall⟩
      · exact absurd hold hbefore
      · cases hcall
        exact InsMap.recent_renew ..
  | asks _ _ _ _ =>
      rcases concat_cases hi with ⟨-, hold⟩ | ⟨-, hcall⟩
      · exact absurd hold hbefore
      · cases hcall
  | clears =>
      rcases concat_cases hi with ⟨-, hold⟩ | ⟨-, hcall⟩
      · exact absurd hold hbefore
      · cases hcall
  | clearsIdentity _ =>
      rcases concat_cases hi with ⟨-, hold⟩ | ⟨-, hcall⟩
      · exact absurd hold hbefore
      · cases hcall
  | idle _ _ => exact absurd hi hbefore
  | fails _ _ _ _ _ _ =>
      rcases set_cases hi with ⟨-, hold⟩ | ⟨-, hcall⟩
      · exact absurd hold hbefore
      · cases hcall
  | answers _ _ _ _ _ _ _ _ =>
      rcases set_cases hi with ⟨-, hold⟩ | ⟨-, hcall⟩
      · exact absurd hold hbefore
      · cases hcall
  | lands _ _ _ _ _ _ _ _ _ _ _ _ =>
      rcases set_cases hi with ⟨-, hold⟩ | ⟨-, hcall⟩
      · exact absurd hold hbefore
      · cases hcall
        rcases hnew with ⟨call, hcall⟩ | hnone
        · cases hcall
        · exact InsMap.recent_store_new hnone

/-- A step that uses another key, or none. -/
theorem TokenStep.recent {got : ℕ → Response → Prop} {p p' : TokenPool} {used : Finset JsString}
    (h : TokenStep J got p mv p')
    (hp : p.shared.cache.Recent (cacheKey geohash dayUtc identityKey) used)
    (hnul : 0 ∉ identityKey) (hmv : ∀ call, mv = .start call → call.NulFree)
    (hcard : used.card + 1 < TOKEN_CACHE_MAX_SIZE) (hclears : ¬ Clears identityKey mv)
    (hused : ∀ key, Resolves p p' key →
      key = cacheKey geohash dayUtc identityKey ∨ key ∈ used) :
    p'.shared.cache.Recent (cacheKey geohash dayUtc identityKey) used := by
  cases h with
  | serves geohash' dayUtc' identityKey' now cached hcached _ =>
      have hresolves : cacheKey geohash' dayUtc' identityKey' =
          cacheKey geohash dayUtc identityKey ∨ cacheKey geohash' dayUtc' identityKey' ∈ used := by
        refine hused _ ⟨p.calls.length, geohash', dayUtc', identityKey', now, cached.token, rfl,
          List.getElem?_concat_length, ?_⟩
        rw [List.getElem?_eq_none (Nat.le_refl _)]
        nofun
      dsimp only
      by_cases hsame : cacheKey geohash' dayUtc' identityKey' = cacheKey geohash dayUtc identityKey
      · rw [hsame]
        exact (InsMap.recent_renew ..).mono (Finset.empty_subset used)
      · exact hp.renew hsame (hresolves.resolve_left hsame)
  | asks _ _ _ _ => exact hp
  | clears => exact absurd trivial hclears
  | clearsIdentity identityKey' =>
      refine hp.filter fun _ => ?_
      have hother : identityKey' ≠ identityKey := hclears
      have hpre := mt (isPrefixOf_cacheKey geohash dayUtc hnul (hmv _ rfl)).mp hother
      rw [Bool.not_eq_true] at hpre
      rw [hpre]
      rfl
  | idle _ _ => exact hp
  | fails _ _ _ _ _ _ => exact hp
  | answers _ _ _ _ _ _ _ _ => exact hp
  | lands i _ _ geohash' dayUtc' identityKey' now token hi _ _ _ =>
      refine hp.store hcard (hused _ ⟨i, geohash', dayUtc', identityKey', now, token, rfl, ?_, ?_⟩)
      · exact List.getElem?_set_self (List.getElem?_eq_some_iff.mp hi).1
      · rw [hi]
        nofun

/-- A run of such steps. -/
theorem recent_run {pre post : List (Move TokenCall FetchReply)} {used : Finset JsString}
    (hnul : ∀ call ∈ starts (pre ++ post), call.NulFree) (hkey : 0 ∉ identityKey)
    (hcard : used.card + 1 < TOKEN_CACHE_MAX_SIZE)
    (h : (tokenRun J pre).shared.cache.Recent (cacheKey geohash dayUtc identityKey) used)
    (hclears : ∀ mv ∈ post, ¬ Clears identityKey mv)
    (hused : ∀ mid mv rest key, post = mid ++ mv :: rest →
      Resolves (tokenRun J (pre ++ mid)) (tokenRun J (pre ++ mid ++ [mv])) key →
      key = cacheKey geohash dayUtc identityKey ∨ key ∈ used) :
    (tokenRun J (pre ++ post)).shared.cache.Recent (cacheKey geohash dayUtc identityKey) used := by
  induction post using List.reverseRecOn with
  | nil => rwa [List.append_nil]
  | append_singleton post mv ih =>
      rw [← List.append_assoc] at hnul ⊢
      have hbefore : ∀ call ∈ starts (pre ++ post), call.NulFree := fun call hcall =>
        hnul call (by rw [starts_append]; exact List.mem_append_left _ hcall)
      have hpost := ih hbefore (fun mv' hmv' => hclears mv' (List.mem_append_left _ hmv'))
        fun mid mv' rest key heq => hused mid mv' (rest ++ [mv]) key (by
          rw [heq, List.append_assoc, List.cons_append])
      have hstep := token_step (tokensSound (J := J) hbefore).waits mv
      rw [← tokenRun_concat] at hstep
      refine hstep.recent hpost hkey ?_ hcard (hclears mv (List.mem_append_right _
        (List.mem_singleton.mpr rfl))) fun key => hused post mv [] key rfl
      rintro call rfl
      exact hnul call (by rw [starts_append]; exact List.mem_append_right _ (List.mem_singleton.mpr rfl))

/-- **A token that was used stays.** After a call of `getToken` was served from the cache,
or resolved when the cache had no entry for it, a later call for the same is served from
the cache without a request, unless the identity was cleared or calls resolved for more
than thirty other keys in between, or less than five minutes are left. -/
theorem recent_token_stays (J : JsonLibrary) (pre post : List (Move TokenCall FetchReply))
    (mv : Move TokenCall FetchReply) (geohash dayUtc identityKey : JsString)
    (used : Finset JsString) (hnul : ∀ call ∈ starts (pre ++ mv :: post), call.NulFree)
    (hresolves : Resolves (tokenRun J pre) (tokenRun J (pre ++ [mv]))
      (cacheKey geohash dayUtc identityKey))
    (hnew : (∃ call, mv = .start call) ∨
      (tokenRun J pre).shared.cache.get? (cacheKey geohash dayUtc identityKey) = none)
    (hkey : 0 ∉ identityKey) (hcard : used.card ≤ 30)
    (hclears : ∀ mv' ∈ post, ¬ Clears identityKey mv')
    (hused : ∀ mid mv' rest key, post = mid ++ mv' :: rest →
      Resolves (tokenRun J (pre ++ mv :: mid)) (tokenRun J (pre ++ mv :: mid ++ [mv'])) key →
      key = cacheKey geohash dayUtc identityKey ∨ key ∈ used) :
    ∃ e, (tokenRun J (pre ++ mv :: post)).shared.cache.get?
        (cacheKey geohash dayUtc identityKey) = some e ∧
      ∀ now : ℤ, now < e.expiresAt - REFRESH_BUFFER_MS →
        (tokenRun J (pre ++ mv :: post ++ [.start (.getToken geohash dayUtc identityKey now)])).calls =
            (tokenRun J (pre ++ mv :: post)).calls ++
              [⟨.getToken geohash dayUtc identityKey now, .settled (.ok e.token)⟩] ∧
          (tokenRun J (pre ++ mv :: post ++
            [.start (.getToken geohash dayUtc identityKey now)])).shared.requests =
              (tokenRun J (pre ++ mv :: post)).shared.requests := by
  have hassoc : pre ++ mv :: post = (pre ++ [mv]) ++ post := by
    rw [List.append_assoc, List.singleton_append]
  have hfirst : ∀ call ∈ starts pre, call.NulFree := fun call hcall =>
    hnul call (by rw [starts_append]; exact List.mem_append_left _ hcall)
  have hstep := token_step (tokensSound (J := J) hfirst).waits mv
  rw [← tokenRun_concat] at hstep
  have hrecent : (tokenRun J (pre ++ mv :: post)).shared.cache.Recent
      (cacheKey geohash dayUtc identityKey) used := by
    rw [hassoc] at hnul ⊢
    refine recent_run hnul hkey (Nat.lt_of_le_of_lt (Nat.succ_le_succ hcard) (by decide))
      ((hstep.used hresolves hnew).mono (Finset.empty_subset used)) hclears ?_
    intro mid mv' rest key heq h
    refine hused mid mv' rest key heq ?_
    rwa [List.append_assoc, List.singleton_append] at h
  obtain ⟨e, he⟩ := Option.isSome_iff_exists.mp (InsMap.get?_isSome.mpr hrecent.mem)
  refine ⟨e, he, fun now hleft => ?_⟩
  have hserves := getToken_serves (J := J) (p := tokenRun J (pre ++ mv :: post)) he hleft
  rw [tokenRun_concat]
  exact ⟨congrArg Pool.calls hserves, congrArg (fun p => p.shared.requests) hserves⟩

theorem recent_token_stays_first :
    ∃ e, (tokenRun sampleJson fetchesToken).shared.cache.get?
        (cacheKey (units "u33d") (units "2026-01-01") (units "alice")) = some e ∧
      ∀ now : ℤ, now < e.expiresAt - REFRESH_BUFFER_MS →
        (tokenRun sampleJson (fetchesToken ++
            [.start (.getToken (units "u33d") (units "2026-01-01") (units "alice") now)])).calls =
          (tokenRun sampleJson fetchesToken).calls ++
            [⟨.getToken (units "u33d") (units "2026-01-01") (units "alice") now,
              .settled (.ok e.token)⟩] ∧
          (tokenRun sampleJson (fetchesToken ++
            [.start (.getToken (units "u33d") (units "2026-01-01") (units "alice") now)])
            ).shared.requests = (tokenRun sampleJson fetchesToken).shared.requests :=
  recent_token_stays sampleJson (fetchesToken.take 2) [] (.resume 0 (.ok sampleResponse))
    (units "u33d") (units "2026-01-01") (units "alice") ∅ (by decide)
    ⟨0, _, _, _, 0, some sampleToken, rfl, by rfl, nofun⟩ (.inr rfl) (by decide) (by decide)
    nofun fun mid mv' rest key h => by simp at h

end Runs

end Oxpulse.MeshCore.TokenClient
