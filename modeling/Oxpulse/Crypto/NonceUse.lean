import Oxpulse.Crypto.RatchetSchedule
import Oxpulse.Foundation.Interleaving

/-!
# No frame key and no nonce is used twice

Here WebCrypto may fail: a reply says whether the operation it answers did. What a call of
`encrypt` hands to WebCrypto it takes from the session in its first segment, and in the
same segment it moves the session on. So the n-th call uses the n-th key of the chain and
the n-th counter, whatever the calls before it came to and however they overlap; and the
direction byte keeps the two sessions of a handshake apart.
-/

namespace Oxpulse.Crypto

open Oxpulse.Coroutine

/-- What an operation of WebCrypto settles with. -/
abbrev WebCryptoReply : Type := Except JsError Unit

abbrev RatchetCo : Type → Type := Co WebCryptoReply RatchetSession JsError

/-- What a call hands to WebCrypto besides the frame. -/
structure FrameUse : Type where
  counter : ℕ
  rawKey : Bytes
  nonce : Bytes
deriving DecidableEq

namespace RatchetSession

/-- What the next call of `encrypt` uses. -/
def nextUse (P : Primitives) (s : RatchetSession) : FrameUse where
  counter := s.sendCounter
  rawKey := deriveFrameKey P s.sendChain
  nonce := makeNonce s.localDir s.sendCounter

/-- The session when that is taken. -/
def advanceSend (P : Primitives) (s : RatchetSession) : RatchetSession :=
  { s with sendCounter := s.sendCounter + 1, sendChain := ratchetChain P s.sendChain }

/-- The two operations of WebCrypto, and the output. -/
def sealFrame (P : Primitives) (use : FrameUse) (plaintext ad : Bytes) : RatchetCo Bytes := do
  Co.ofExcept (← Co.suspend) -- importKey
  Co.ofExcept (← Co.suspend) -- subtle.encrypt
  return setBigUint64 use.counter ++ P.aesGcmSeal use.rawKey use.nonce ad plaintext

/-- `encrypt`, over a WebCrypto that may fail. -/
def encryptFallible (P : Primitives) (plaintext ad : Bytes) : RatchetCo Bytes := do
  let s ← get
  set (s.advanceSend P)
  sealFrame P (s.nextUse P) plaintext ad

/-- Where nothing fails it is `encrypt`. -/
theorem encryptFallible_run (P : Primitives) (plaintext ad : Bytes) (s : RatchetSession) :
    (encryptFallible P plaintext ad).run (.ok ()) s = (encrypt P plaintext ad).run () s :=
  rfl

end RatchetSession

/-- The calls of a session. -/
inductive RatchetCall : Type where
  | encrypt (plaintext ad : Bytes)
  | decrypt (wire ad : Bytes)
deriving DecidableEq

def RatchetCall.isEncrypt : RatchetCall → Bool
  | .encrypt _ _ => true
  | .decrypt _ _ => false

section

variable (P : Primitives)

def ratchetCall : RatchetCall → RatchetCo Bytes
  | .encrypt plaintext ad => RatchetSession.encryptFallible P plaintext ad
  | .decrypt wire ad => RatchetSession.decrypt P wire ad

/-- A call of `encrypt` has its use, and the session is moved on, before anything else
runs. -/
theorem ratchetCall_encrypt (plaintext ad : Bytes) (s : RatchetSession) :
    ratchetCall P (.encrypt plaintext ad) s =
      RatchetSession.sealFrame P (s.nextUse P) plaintext ad (s.advanceSend P) :=
  rfl

abbrev RatchetPool : Type := Pool RatchetCall WebCryptoReply RatchetSession JsError Bytes

abbrev RatchetMoves : Type := List (Move RatchetCall WebCryptoReply)

/-- The session after a schedule of its calls. -/
def ratchetRun (s : RatchetSession) (ms : RatchetMoves) : RatchetPool :=
  (Pool.fresh s).exec (ratchetCall P) ms

/-- What frame `n` of a session is to use. -/
def frameUse (opts : RatchetSessionOptions) (n : ℕ) : FrameUse where
  counter := n
  rawKey := deriveFrameKey P ((ratchetChain P)^[n] opts.sendChainKey)
  nonce := makeNonce opts.direction n

end

/-- How many of the calls encrypt. -/
def encrypts (calls : List RatchetCall) : ℕ := calls.countP RatchetCall.isEncrypt

/-! ## Nonces -/

theorem makeNonce_injective {d d' : Direction} {n n' : ℕ} (hn : n < 2 ^ 64) (hn' : n' < 2 ^ 64)
    (h : makeNonce d n = makeNonce d' n') : d = d' ∧ n = n' := by
  unfold makeNonce at h
  obtain ⟨hbyte, htail⟩ := List.cons.inj h
  constructor
  · cases d with
    | initiator =>
        cases d' with
        | initiator => rfl
        | responder => exact absurd hbyte (by decide)
    | responder =>
        cases d' with
        | initiator => exact absurd hbyte (by decide)
        | responder => rfl
  · have hcounter := List.append_cancel_left htail
    calc n = getBigUint64 (setBigUint64 n ++ []) := (getBigUint64_setBigUint64 hn []).symm
      _ = getBigUint64 (setBigUint64 n' ++ []) := by rw [hcounter]
      _ = n' := getBigUint64_setBigUint64 hn' []

/-! ## The segments of a call -/

/-- The sending side is left alone. -/
def SameSend (s s' : RatchetSession) : Prop :=
  s'.sendChain = s.sendChain ∧ s'.sendCounter = s.sendCounter ∧ s'.localDir = s.localDir

theorem SameSend.refl (s : RatchetSession) : SameSend s s := ⟨rfl, rfl, rfl⟩

/-- What a call settles with: an output of `encrypt` is that of its number. -/
def Outputs (P : Primitives) (opts : RatchetSessionOptions) (n : ℕ) :
    RatchetCall → Except JsError Bytes → Prop
  | .encrypt plaintext ad, .ok out => out = sentWire P opts.sendChainKey opts.direction n plaintext ad
  | _, _ => True

/-- Whatever the others do meanwhile. -/
abbrev Carries (P : Primitives) (opts : RatchetSessionOptions) (n : ℕ) (a : RatchetCall)
    (o : Outcome WebCryptoReply RatchetSession JsError Bytes) (s : RatchetSession) : Prop :=
  o.Sat (fun _ => True) (fun _ _ => True) SameSend (fun _ x => Outputs P opts n a x) s

section

variable {P : Primitives} {opts : RatchetSessionOptions} {n : ℕ} {s : RatchetSession}

theorem sealFrame_carries (plaintext ad : Bytes) :
    Carries P opts n (.encrypt plaintext ad)
      (RatchetSession.sealFrame P (frameUse P opts n) plaintext ad s) s := by
  refine ⟨trivial, .refl s, fun r s' _ _ => ?_⟩
  cases r with
  | error e => exact ⟨.refl s', trivial⟩
  | ok _ =>
      refine ⟨trivial, .refl s', fun r s'' _ _ => ?_⟩
      cases r with
      | error e => exact ⟨.refl s'', trivial⟩
      | ok _ => exact ⟨.refl s'', rfl⟩

theorem finishDecrypt_carries (wire ad key nonce : Bytes) (s : RatchetSession) :
    Carries P opts n (.decrypt wire ad) (RatchetSession.finishDecrypt P wire ad key nonce s) s := by
  cases hopen : P.aesGcmOpen key nonce ad (wire.drop 8) with
  | none =>
      rw [RatchetSession.finishDecrypt_none hopen]
      exact ⟨.refl s, trivial⟩
  | some pt =>
      rw [RatchetSession.finishDecrypt_some hopen]
      exact ⟨⟨rfl, rfl, rfl⟩, trivial⟩

theorem decrypt_carries (wire ad : Bytes) :
    Carries P opts n (.decrypt wire ad) (RatchetSession.decrypt P wire ad s) s := by
  rcases RatchetSession.decrypt_cases P wire ad s with
    ⟨-, h⟩ | ⟨-, -, h⟩ | ⟨-, -, -, h⟩ | ⟨key, -, -, -, h⟩
  · rw [h]
    exact ⟨.refl s, trivial⟩
  · rw [h]
    exact ⟨.refl s, trivial⟩
  · rw [h]
    exact ⟨⟨rfl, rfl, rfl⟩, trivial⟩
  · rw [h]
    refine ⟨trivial, ⟨rfl, rfl, rfl⟩, fun _ s' _ _ => ?_⟩
    exact ⟨trivial, .refl s', fun _ s'' _ _ => finishDecrypt_carries wire ad key _ s''⟩

/-- At its start a call of `encrypt` takes the use of its number. -/
theorem SendInv.nextUse (h : SendInv P opts.sendChainKey opts.direction n s) :
    s.nextUse P = frameUse P opts n := by
  unfold RatchetSession.nextUse frameUse
  rw [h.counter, h.chain, h.direction]
  rfl

theorem SendInv.advance (h : SendInv P opts.sendChainKey opts.direction n s) :
    SendInv P opts.sendChainKey opts.direction (n + 1) (s.advanceSend P) := by
  refine ⟨?_, ?_, h.direction⟩
  · show ratchetChain P s.sendChain = _
    rw [chainAt_succ, h.chain]
  · show s.sendCounter + 1 = _
    rw [h.counter]

theorem SendInv.same {s' : RatchetSession}
    (h : SendInv P opts.sendChainKey opts.direction n s) (hsame : SameSend s s') :
    SendInv P opts.sendChainKey opts.direction n s' :=
  ⟨hsame.1.trans h.chain, hsame.2.1.trans h.counter, hsame.2.2.trans h.direction⟩

/-! ## Any schedule -/

/-- What holds between the segments: the session is where the number of `encrypt` calls
takes it, and each call carries on with the number it was started with. -/
structure Sending (P : Primitives) (opts : RatchetSessionOptions) (p : RatchetPool) : Prop where
  send : SendInv P opts.sendChainKey opts.direction (encrypts (p.calls.map Call.arg)) p.shared
  pending : ∀ (i : ℕ) a k, p.calls[i]? = some ⟨a, .pending k⟩ → ∀ r s,
    Carries P opts (encrypts ((p.calls.map Call.arg).take i)) a (k r s) s
  settled : ∀ (i : ℕ) a x, p.calls[i]? = some ⟨a, .settled x⟩ →
    Outputs P opts (encrypts ((p.calls.map Call.arg).take i)) a x

/-- What the status of a call that carries on says of it. -/
theorem Carries.status {a : RatchetCall} {o : Outcome WebCryptoReply RatchetSession JsError Bytes}
    (h : Carries P opts n a o s) :
    (∀ k, o.status = .pending k → ∀ r s, Carries P opts n a (k r s) s) ∧
      ∀ x, o.status = .settled x → Outputs P opts n a x := by
  cases o with
  | ret s' b => exact ⟨by rintro k ⟨⟩, by rintro x ⟨⟩; exact h.2⟩
  | throw s' e => exact ⟨by rintro k ⟨⟩, by rintro x ⟨⟩; exact h.2⟩
  | await s' k => exact ⟨by rintro k' ⟨⟩ r s; exact h.2.2 r s trivial trivial, by rintro x ⟨⟩⟩

theorem take_args {p : RatchetPool} {i : ℕ} {c : Call RatchetCall WebCryptoReply RatchetSession
    JsError Bytes} (hi : p.calls[i]? = some c) (l : List RatchetCall) :
    ((p.calls.map Call.arg) ++ l).take i = (p.calls.map Call.arg).take i := by
  apply List.take_append_of_le_length
  rw [List.length_map]
  exact (List.getElem?_eq_some_iff.mp hi).1.le

theorem Sending.start {p : RatchetPool} (hp : Sending P opts p) (a : RatchetCall) :
    Sending P opts (p.start (ratchetCall P) a) := by
  -- The new call carries on with the number of `encrypt` calls before it.
  have hnew : ∃ s₀, Carries P opts (encrypts (p.calls.map Call.arg)) a
      (ratchetCall P a p.shared) s₀ ∧
      SendInv P opts.sendChainKey opts.direction (encrypts (p.calls.map Call.arg ++ [a])) s₀ := by
    cases a with
    | encrypt plaintext ad =>
        refine ⟨p.shared.advanceSend P, ?_, ?_⟩
        · rw [ratchetCall_encrypt, hp.send.nextUse]
          exact sealFrame_carries plaintext ad
        · have hcount : encrypts (p.calls.map Call.arg ++ [.encrypt plaintext ad]) =
              encrypts (p.calls.map Call.arg) + 1 := by
            unfold encrypts
            rw [List.countP_append]
            rfl
          rw [hcount]
          exact hp.send.advance
    | decrypt wire ad =>
        refine ⟨p.shared, decrypt_carries wire ad, ?_⟩
        have hcount : encrypts (p.calls.map Call.arg ++ [.decrypt wire ad]) =
            encrypts (p.calls.map Call.arg) := by
          unfold encrypts
          rw [List.countP_append]
          rfl
        rw [hcount]
        exact hp.send
  obtain ⟨s₀, hcarries, hsend⟩ := hnew
  have hargs : (p.start (ratchetCall P) a).calls.map Call.arg = p.calls.map Call.arg ++ [a] :=
    List.map_append
  have htake : (p.calls.map Call.arg ++ [a]).take p.calls.length = p.calls.map Call.arg := by
    rw [List.take_append_of_le_length (by rw [List.length_map]), List.take_of_length_le]
    rw [List.length_map]
  constructor
  · rw [hargs]
    exact hsend.same hcarries.guarantee
  · intro i b k hi
    rw [hargs]
    rcases Pool.concat_cases hi with ⟨-, hold⟩ | ⟨rfl, hcall⟩
    · rw [take_args hold]
      exact hp.pending i b k hold
    · rw [htake]
      injection hcall with hb hstatus
      subst hb
      exact hcarries.status.1 k hstatus.symm
  · intro i b x hi
    rw [hargs]
    rcases Pool.concat_cases hi with ⟨-, hold⟩ | ⟨rfl, hcall⟩
    · rw [take_args hold]
      exact hp.settled i b x hold
    · rw [htake]
      injection hcall with hb hstatus
      subst hb
      exact hcarries.status.2 x hstatus.symm

theorem Sending.resume {p : RatchetPool} (hp : Sending P opts p) (i : ℕ) (r : WebCryptoReply) :
    Sending P opts (p.resume i r) := by
  have hargs := Pool.resume_args p i r
  rcases Pool.resume_cases p i r with h | ⟨a, k, hi, h⟩
  · rw [h]
    exact hp
  · have hcarries := hp.pending i a k hi r p.shared
    rw [h] at hargs ⊢
    constructor
    · rw [hargs]
      exact hp.send.same hcarries.guarantee
    · intro j b k' hj
      rw [hargs]
      rcases Pool.set_cases hj with ⟨-, hold⟩ | ⟨rfl, hcall⟩
      · exact hp.pending j b k' hold
      · injection hcall with hb hstatus
        subst hb
        exact hcarries.status.1 k' hstatus.symm
    · intro j b x hj
      rw [hargs]
      rcases Pool.set_cases hj with ⟨-, hold⟩ | ⟨rfl, hcall⟩
      · exact hp.settled j b x hold
      · injection hcall with hb hstatus
        subst hb
        exact hcarries.status.2 x hstatus.symm

theorem ratchetRun_sending {s₀ : RatchetSession} (hnew : RatchetSession.new P opts = .ok s₀)
    (ms : RatchetMoves) : Sending P opts (ratchetRun P s₀ ms) := by
  induction ms using List.reverseRecOn with
  | nil =>
      constructor
      · rw [RatchetSession.new_ok hnew]
        exact ⟨rfl, rfl, rfl⟩
      · rintro i a k ⟨⟩
      · rintro i a x ⟨⟩
  | append_singleton ms m ih =>
      unfold ratchetRun at ih ⊢
      rw [Pool.exec_concat]
      cases m with
      | start a => exact ih.start a
      | resume i r => exact ih.resume i r

end

/-! ## The uses of a handshake's sessions -/

/-- Two starts of `encrypt` in one schedule with equally many before them are one. -/
theorem encrypt_start_unique {ms pre pre' post post' : RatchetMoves}
    {plaintext ad plaintext' ad' : Bytes}
    (h : ms = pre ++ .start (.encrypt plaintext ad) :: post)
    (h' : ms = pre' ++ .start (.encrypt plaintext' ad') :: post')
    (hcount : encrypts (starts pre) = encrypts (starts pre')) : pre = pre' := by
  have hlater : ∀ {pre pre' post post' : RatchetMoves} {pt ad pt' ad' : Bytes},
      pre ++ .start (.encrypt pt ad) :: post = pre' ++ .start (.encrypt pt' ad') :: post' →
      pre.length < pre'.length → encrypts (starts pre) < encrypts (starts pre') := by
    intro pre pre' post post' pt ad pt' ad' heq hlt
    obtain ⟨mid, hmid⟩ := List.prefix_of_prefix_length_le ⟨_, heq⟩ (List.prefix_append _ _) hlt.le
    subst hmid
    rw [List.append_assoc, List.append_cancel_left_eq] at heq
    cases mid with
    | nil =>
        rw [List.append_nil] at hlt
        exact absurd hlt (lt_irrefl _)
    | cons m mid =>
        cases heq
        rw [starts_append]
        unfold encrypts
        rw [List.countP_append]
        show _ < _ + (List.countP _ (RatchetCall.encrypt pt ad :: starts mid))
        rw [List.countP_cons_of_pos rfl]
        omega
  have heq := h.symm.trans h'
  rcases Nat.lt_trichotomy pre.length pre'.length with hlt | hlen | hlt
  · exact absurd hcount (ne_of_lt (hlater heq hlt))
  · exact (List.append_inj heq hlen).1
  · exact absurd hcount.symm (ne_of_lt (hlater heq.symm hlt))

/-- **No key and no nonce is used twice.** The two sessions of a handshake run any schedule
of calls, with any failures of WebCrypto, of less than `2 ^ 64` calls of `encrypt` each.
The call that is started after `n` others uses counter `n`, the key of the chain after
`n` steps and the nonce of both; an output is the counter and what that key seals under
that nonce; and no other call of the two sessions uses the same direction and counter, or
the same nonce. -/
theorem encrypt_uses {P : Primitives} {opts : Direction → RatchetSessionOptions}
    {sessions : Direction → RatchetSession} (hdirection : ∀ d, (opts d).direction = d)
    (hnew : ∀ d, RatchetSession.new P (opts d) = .ok (sessions d))
    {ms : Direction → RatchetMoves} (hcount : ∀ d, encrypts (starts (ms d)) < 2 ^ 64)
    {d : Direction} {pre post : RatchetMoves} {plaintext ad : Bytes}
    (hcall : ms d = pre ++ .start (.encrypt plaintext ad) :: post) :
    (ratchetRun P (sessions d) pre).shared.nextUse P =
        ⟨encrypts (starts pre),
          deriveFrameKey P ((ratchetChain P)^[encrypts (starts pre)] (opts d).sendChainKey),
          makeNonce d (encrypts (starts pre))⟩ ∧
      (∀ out, (ratchetRun P (sessions d) (ms d)).calls[(starts pre).length]? =
          some ⟨.encrypt plaintext ad, .settled (.ok out)⟩ →
        getBigUint64 (out.take 8) = encrypts (starts pre) ∧
        out.drop 8 = P.aesGcmSeal
          (deriveFrameKey P ((ratchetChain P)^[encrypts (starts pre)] (opts d).sendChainKey))
          (makeNonce d (encrypts (starts pre))) ad plaintext) ∧
      ∀ d' pre' post' plaintext' ad',
        ms d' = pre' ++ .start (.encrypt plaintext' ad') :: post' →
        ((d', encrypts (starts pre')) = (d, encrypts (starts pre)) ∨
          ((ratchetRun P (sessions d') pre').shared.nextUse P).nonce =
            ((ratchetRun P (sessions d) pre).shared.nextUse P).nonce) →
        d' = d ∧ pre' = pre := by
  have hargs : ∀ d ms, (ratchetRun P (sessions d) ms).calls.map Call.arg = starts ms :=
    fun d ms => Pool.exec_args ms _
  have huse : ∀ d pre, (ratchetRun P (sessions d) pre).shared.nextUse P =
      frameUse P (opts d) (encrypts (starts pre)) := by
    intro d pre
    have hsend := (ratchetRun_sending (hnew d) pre).send
    rw [hargs] at hsend
    exact hsend.nextUse
  have hlt : ∀ {d pre post pt ad}, ms d = pre ++ .start (.encrypt pt ad) :: post →
      encrypts (starts pre) < 2 ^ 64 := by
    intro d pre post pt ad h
    have hlt := hcount d
    rw [h, starts_append] at hlt
    unfold encrypts at hlt ⊢
    rw [List.countP_append] at hlt
    exact lt_of_le_of_lt (Nat.le_add_right _ _) hlt
  refine ⟨?_, ?_, ?_⟩
  · rw [huse, frameUse, hdirection]
  · intro out hout
    have hsettled := (ratchetRun_sending (hnew d) (ms d)).settled _ _ _ hout
    have htake : (starts (ms d)).take (starts pre).length = starts pre := by
      rw [hcall, starts_append, List.take_append_of_le_length (le_refl _), List.take_length]
    rw [hargs, htake] at hsettled
    have hsealed : out = sentWire P (opts d).sendChainKey (opts d).direction
        (encrypts (starts pre)) plaintext ad := hsettled
    rw [hdirection] at hsealed
    subst hsealed
    constructor
    · rw [sentWire, List.take_append_of_le_length (by simp), List.take_of_length_le (by simp),
        ← List.append_nil (setBigUint64 _)]
      exact getBigUint64_setBigUint64 (hlt hcall) []
    · exact List.drop_left' (setBigUint64_length _)
  · intro d' pre' post' plaintext' ad' hcall' hsame
    have heq : d' = d ∧ encrypts (starts pre') = encrypts (starts pre) := by
      rcases hsame with hpair | hnonce
      · exact ⟨congrArg Prod.fst hpair, congrArg Prod.snd hpair⟩
      · rw [huse, huse] at hnonce
        unfold frameUse at hnonce
        rw [hdirection, hdirection] at hnonce
        exact makeNonce_injective (hlt hcall') (hlt hcall) hnonce
    obtain ⟨rfl, hn⟩ := heq
    exact ⟨rfl, encrypt_start_unique hcall' hcall hn⟩

/-- The keys of a sample handshake, crossed. -/
def sampleOptions : Direction → RatchetSessionOptions
  | .initiator => ⟨List.replicate 32 1, List.replicate 32 2, .initiator⟩
  | .responder => ⟨List.replicate 32 2, List.replicate 32 1, .responder⟩

/-- The session of these options. -/
def sampleSession (d : Direction) : RatchetSession where
  sendChain := (sampleOptions d).sendChainKey
  sendCounter := 0
  localDir := (sampleOptions d).direction
  remoteDir := (sampleOptions d).direction.opposite
  recvCache := .new .sample (sampleOptions d).recvChainKey 0
  replay := .new

/-- Two calls that overlap; the key of the first cannot be imported. -/
def sampleSends (d : Direction) : RatchetMoves :=
  match d with
  | .initiator =>
      [.start (.encrypt [1] []), .start (.encrypt [2] []), .resume 0 (.error .library),
        .resume 1 (.ok ()), .resume 1 (.ok ())]
  | .responder => [.start (.encrypt [3] [])]

/-- The second call has counter 1, and its output is sealed with the second key. -/
theorem encrypt_uses_sample :
    (ratchetRun .sample (sampleSession .initiator) [.start (.encrypt [1] [])]).shared.nextUse
        .sample =
      ⟨1, deriveFrameKey .sample (ratchetChain .sample (List.replicate 32 1)),
        makeNonce .initiator 1⟩ ∧
    ∀ out, (ratchetRun .sample (sampleSession .initiator) (sampleSends .initiator)).calls[1]? =
        some ⟨.encrypt [2] [], .settled (.ok out)⟩ →
      getBigUint64 (out.take 8) = 1 ∧
      out.drop 8 = Primitives.sample.aesGcmSeal
        (deriveFrameKey .sample (ratchetChain .sample (List.replicate 32 1)))
        (makeNonce .initiator 1) [] [2] := by
  have hdirection : ∀ d, (sampleOptions d).direction = d := by
    rintro (_ | _)
    · rfl
    · rfl
  have hnew : ∀ d, RatchetSession.new .sample (sampleOptions d) = .ok (sampleSession d) := by
    rintro (_ | _)
    · rfl
    · rfl
  have hcount : ∀ d, encrypts (starts (sampleSends d)) < 2 ^ 64 := by
    rintro (_ | _)
    · decide
    · decide
  have hcall : sampleSends .initiator = [.start (.encrypt [1] [])] ++
      .start (.encrypt [2] []) :: [.resume 0 (.error .library), .resume 1 (.ok ()),
        .resume 1 (.ok ())] := rfl
  obtain ⟨huse, hout, -⟩ := encrypt_uses hdirection hnew hcount hcall
  exact ⟨huse, hout⟩

end Oxpulse.Crypto
