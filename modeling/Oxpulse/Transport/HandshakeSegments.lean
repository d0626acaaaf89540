import Oxpulse.Foundation.Interleaving
import Oxpulse.Crypto.NoiseSteps
import Oxpulse.Transport.Handshake

/-!
# What a handshake call does between its suspensions

A call of `advanceHandshake` first works on the handshake object and then only
finishes: it writes chunks, or counts a failure, and at its end derives the
session from the object as it finds it. `Works` describes the first phase for
a call that nobody disturbs, `Finishes` the second one for a call that may be
disturbed in any way.
-/

namespace Oxpulse.Crypto.NoiseXxHandshake

open Oxpulse.Coroutine

/-! ## The turn of an object -/

def AtTurn (role : Role) (idx : Fin 4) (hs : NoiseXxHandshake) : Prop :=
  hs.role = role ∧ hs.msgIdx = idx

section Turns

variable {P : Primitives} {role : Role} {idx : Fin 4} {α β : Type}

/-- The call leaves the object at its turn. -/
def Stays (role : Role) (idx : Fin 4) (m : Co Unit NoiseXxHandshake JsError α) : Prop :=
  ∀ hs, AtTurn role idx hs →
    (m hs).Sat (AtTurn role idx) (fun _ _ => True) (fun _ _ => True)
      (fun hs' _ => AtTurn role idx hs') hs

/-- The turn passes on when the call returns. -/
def Moved (role : Role) (idx : Fin 4) (hs : NoiseXxHandshake) : Except JsError α → Prop
  | .ok _ => hs.role = role ∧ hs.msgIdx.val = idx.val + 1
  | .error _ => AtTurn role idx hs

/-- The call suspends and throws at its turn, and passes it on when it returns. -/
def Moves (role : Role) (idx : Fin 4) (m : Co Unit NoiseXxHandshake JsError α) : Prop :=
  ∀ hs, AtTurn role idx hs →
    (m hs).Sat (AtTurn role idx) (fun _ _ => True) (fun _ _ => True) (Moved role idx) hs

theorem Stays.bind {m : Co Unit NoiseXxHandshake JsError α}
    {f : α → Co Unit NoiseXxHandshake JsError β} (hm : Stays role idx m)
    (hf : ∀ a, Stays role idx (f a)) : Stays role idx (m >>= f) :=
  fun hs h => (hm hs h).bind (fun _ _ _ => trivial) (fun _ _ _ _ _ => trivial)
    (fun hs' a h' => hf a hs' h') (fun _ _ h' => h')

theorem Moves.bind {m : Co Unit NoiseXxHandshake JsError α}
    {f : α → Co Unit NoiseXxHandshake JsError β} (hm : Stays role idx m)
    (hf : ∀ a, Moves role idx (f a)) : Moves role idx (m >>= f) :=
  fun hs h => (hm hs h).bind (fun _ _ _ => trivial) (fun _ _ _ _ _ => trivial)
    (fun hs' a h' => hf a hs' h') (fun _ _ h' => h')

theorem Stays.get {f : NoiseXxHandshake → Co Unit NoiseXxHandshake JsError β}
    (hf : ∀ hs, AtTurn role idx hs → Stays role idx (f hs)) : Stays role idx (get >>= f) :=
  fun hs h => hf hs h hs h

theorem Moves.get {f : NoiseXxHandshake → Co Unit NoiseXxHandshake JsError β}
    (hf : ∀ hs, AtTurn role idx hs → Moves role idx (f hs)) : Moves role idx (get >>= f) :=
  fun hs h => hf hs h hs h

theorem stays_modify {f : NoiseXxHandshake → NoiseXxHandshake}
    (hf : ∀ hs, AtTurn role idx hs → AtTurn role idx (f hs)) :
    Stays role idx (modify f : Co Unit _ JsError PUnit) :=
  fun hs h => ⟨trivial, hf hs h⟩

theorem stays_ofExcept (x : Except JsError α) :
    Stays role idx (Co.ofExcept x : Co Unit _ JsError α) := by
  intro hs h
  cases x with
  | ok a => exact ⟨trivial, h⟩
  | error e => exact ⟨trivial, h⟩

theorem stays_orThrow (e : JsError) (x : Option α) :
    Stays role idx (Co.orThrow e x : Co Unit _ JsError α) := by
  intro hs h
  cases x with
  | some a => exact ⟨trivial, h⟩
  | none => exact ⟨trivial, h⟩

theorem Stays.await {m : Co Unit NoiseXxHandshake JsError α} (hm : Stays role idx m) :
    Stays role idx (Co.await m) :=
  fun hs h => Outcome.Sat.later (Q := fun hs' _ => AtTurn role idx hs') (fun _ => trivial)
    (fun _ _ h' => h') (fun _ _ _ _ h' _ => h') (hm hs h)

/-- A call on `this.state` leaves the turn alone. -/
theorem stays_onState (m : Co Unit NoiseState JsError α) : Stays role idx (onState m) := by
  intro hs h
  show Outcome.Sat _ (fun _ _ => True) (fun _ _ => True) _ hs
    ((m hs.state).zoom state setState hs)
  refine Outcome.Sat.zoom (I := fun _ => True) (R := fun _ _ => True) (G := fun _ _ => True)
    (Q := fun _ _ => True) ?_ ?_ ?_ ?_ h (Outcome.sat_true (m hs.state) hs.state)
  · exact fun t s ht _ _ => ht
  · exact fun _ _ _ _ _ _ _ => ⟨trivial, trivial⟩
  · exact fun _ _ _ _ => trivial
  · exact fun t s _ ht _ _ => ht

/-! ## The messages -/

theorem writeMsg1_moves (draws : NoiseDraws) (payload : Bytes) :
    Moves role 0 (writeMsg1 P draws payload) := by
  refine Moves.bind (stays_modify fun hs h => h) fun _ => ?_
  refine Moves.bind (stays_ofExcept _) fun keypair => ?_
  refine Moves.bind (stays_modify fun hs h => h) fun _ => ?_
  refine Moves.bind (stays_onState _).await fun ct => Moves.get fun hs h => ?_
  exact fun hs' h' => ⟨trivial, h.1, rfl⟩

theorem readMsg1_moves (draws : NoiseDraws) (message : Bytes) :
    Moves role 0 (readMsg1 P draws message) := by
  unfold readMsg1
  split
  · exact fun hs h => ⟨trivial, h⟩
  · refine Moves.bind (stays_modify fun hs h => h) fun _ => ?_
    refine Moves.bind (stays_onState _).await fun payload => ?_
    refine Moves.bind (stays_ofExcept _) fun p => ?_
    exact fun hs h => ⟨trivial, h.1, rfl⟩

theorem stays_staticPayload : Stays role idx (staticPayload : Co Unit _ JsError Bytes) := by
  refine Stays.get fun hs h => ?_
  refine Stays.bind (stays_ofExcept _).await fun sPub => ?_
  refine Stays.bind (stays_ofExcept _).await fun sX25519Pub => ?_
  exact fun hs' h' => ⟨trivial, h'⟩

theorem stays_staticDh (rePublic : Bytes) :
    Stays role idx (staticDh P rePublic : Co Unit _ JsError Unit) := by
  refine Stays.get fun hs h => ?_
  exact Stays.bind (stays_ofExcept _).await fun dh => stays_modify fun hs' h' => h'

theorem writeMsg2_moves (draws : NoiseDraws) (payload : Bytes) :
    Moves role 1 (writeMsg2 P draws payload) := by
  refine Moves.get fun hs h => ?_
  refine Moves.bind (stays_orThrow _ _) fun rePublic => ?_
  refine Moves.bind (stays_orThrow _ _) fun keypair => ?_
  refine Moves.bind (stays_orThrow _ _) fun ss => ?_
  refine Moves.bind (stays_modify fun hs h => h) fun _ => ?_
  refine Moves.bind (stays_ofExcept _) fun ee => ?_
  refine Moves.bind (stays_modify fun hs h => h) fun _ => ?_
  refine Moves.bind stays_staticPayload fun sPayload => ?_
  refine Moves.bind (stays_onState _).await fun sCt => ?_
  refine Moves.bind (stays_staticDh _) fun _ => Moves.get fun hs' h' => ?_
  refine Moves.bind (stays_onState _).await fun ct => Moves.get fun hs'' h'' => ?_
  exact fun _ _ => ⟨trivial, h''.1, rfl⟩

theorem stays_readStatic (eSecret sCt : Bytes) :
    Stays role idx (readStatic P eSecret sCt : Co Unit _ JsError Unit) := by
  refine Stays.bind (stays_onState _).await fun sPayload => ?_
  refine Stays.bind (stays_modify fun hs h => h) fun _ => Stays.get fun hs h => ?_
  exact Stays.bind (stays_ofExcept _) fun dh => stays_modify fun hs' h' => h'

theorem readMsg2_moves (message : Bytes) : Moves role 1 (readMsg2 P message) := by
  refine Moves.get fun hs h => ?_
  refine Moves.bind (stays_orThrow _ _) fun eSecret => ?_
  refine Moves.bind (stays_orThrow _ _) fun keypair => ?_
  refine Moves.bind (stays_modify fun hs h => h) fun _ => ?_
  refine Moves.bind (stays_ofExcept _) fun ee => ?_
  refine Moves.bind (stays_modify fun hs h => h) fun _ => ?_
  refine Moves.bind (stays_readStatic _ _) fun _ => ?_
  refine Moves.bind (stays_onState _).await fun payload => Moves.get fun hs' h' => ?_
  refine Moves.bind (stays_ofExcept _) fun ss => ?_
  exact fun hs'' h'' => ⟨trivial, h''.1, rfl⟩

theorem writeMsg3_moves (payload : Bytes) : Moves role 2 (writeMsg3 P payload) := by
  refine Moves.get fun hs h => ?_
  refine Moves.bind (stays_orThrow _ _) fun eSecret => ?_
  refine Moves.bind (stays_orThrow _ _) fun rePublic => ?_
  refine Moves.bind stays_staticPayload fun sPayload => ?_
  refine Moves.bind (stays_onState _).await fun sCt => ?_
  refine Moves.bind (stays_staticDh _) fun _ => ?_
  refine Moves.bind (stays_onState _).await fun ct => ?_
  exact fun hs' h' => ⟨trivial, h'.1, rfl⟩

theorem readMsg3_moves (message : Bytes) : Moves role 2 (readMsg3 P message) := by
  refine Moves.get fun hs h => ?_
  refine Moves.bind (stays_orThrow _ _) fun eSecret => ?_
  refine Moves.bind (stays_readStatic _ _) fun _ => ?_
  refine Moves.bind (stays_onState _).await fun payload => ?_
  exact fun hs' h' => ⟨trivial, h'.1, rfl⟩

/-! ## The entry points -/

/-- A message is refused at once, or it is the message of the object's turn. -/
def IsMessage (m : Co Unit NoiseXxHandshake JsError Bytes) : Prop :=
  ∀ hs, (∃ e, m hs = .throw hs e) ∨
    (hs.msgIdx ≠ 3 ∧
      (m hs).Sat (AtTurn hs.role hs.msgIdx) (fun _ _ => True) (fun _ _ => True)
        (Moved hs.role hs.msgIdx) hs)

/-- What an object does at its turn. -/
def IsTurn (hs : NoiseXxHandshake) (m : Co Unit NoiseXxHandshake JsError Bytes) : Prop :=
  (∃ e, m = throw e) ∨ (hs.msgIdx ≠ 3 ∧ Moves hs.role hs.msgIdx m)

theorem Moves.isTurn {m : Co Unit NoiseXxHandshake JsError Bytes} (hm : Moves role idx m)
    {hs : NoiseXxHandshake} (hrole : hs.role = role) (hidx : hs.msgIdx = idx) (hne : idx ≠ 3) :
    IsTurn hs m := by
  rw [IsTurn, hrole, hidx]
  exact Or.inr ⟨hne, hm⟩

theorem IsTurn.apply {hs : NoiseXxHandshake} {m : Co Unit NoiseXxHandshake JsError Bytes}
    (h : IsTurn hs m) : (∃ e, m hs = .throw hs e) ∨
      (hs.msgIdx ≠ 3 ∧
        (m hs).Sat (AtTurn hs.role hs.msgIdx) (fun _ _ => True) (fun _ _ => True)
          (Moved hs.role hs.msgIdx) hs) := by
  rcases h with ⟨e, rfl⟩ | ⟨hne, hm⟩
  · exact Or.inl ⟨e, rfl⟩
  · exact Or.inr ⟨hne, hm hs ⟨rfl, rfl⟩⟩

theorem writeTurn_isTurn (draws : NoiseDraws) (payload : Bytes) (hs : NoiseXxHandshake) :
    IsTurn hs (writeTurn P draws payload hs) := by
  unfold writeTurn
  split
  · next hrole hidx => exact (writeMsg1_moves draws payload).isTurn hrole hidx (by decide)
  · next hrole hidx => exact (writeMsg2_moves draws payload).isTurn hrole hidx (by decide)
  · next hrole hidx => exact (writeMsg3_moves payload).isTurn hrole hidx (by decide)
  · exact Or.inl ⟨_, rfl⟩

theorem readTurn_isTurn (draws : NoiseDraws) (message : Bytes) (hs : NoiseXxHandshake) :
    IsTurn hs (readTurn P draws message hs) := by
  unfold readTurn
  split
  · next hrole hidx => exact (readMsg1_moves draws message).isTurn hrole hidx (by decide)
  · next hrole hidx => exact (readMsg2_moves message).isTurn hrole hidx (by decide)
  · next hrole hidx => exact (readMsg3_moves message).isTurn hrole hidx (by decide)
  · exact Or.inl ⟨_, rfl⟩

theorem writeMessage_isMessage (draws : NoiseDraws) (payload : Bytes) :
    IsMessage (writeMessage P draws payload) := by
  intro hs
  unfold writeMessage
  simp only [Co.bind_apply, Co.get_apply, Outcome.bind, Co.ite_apply]
  split
  · exact Or.inl ⟨_, rfl⟩
  · exact (writeTurn_isTurn draws payload hs).apply

theorem readMessage_isMessage (draws : NoiseDraws) (message : Bytes) :
    IsMessage (readMessage P draws message) := by
  intro hs
  unfold readMessage
  simp only [Co.bind_apply, Co.get_apply, Outcome.bind, Co.ite_apply]
  split
  · exact Or.inl ⟨_, rfl⟩
  · exact (readTurn_isTurn draws message hs).apply

/-- Alone, a message that throws stays at the turn. -/
theorem IsMessage.run_error {m : Co Unit NoiseXxHandshake JsError Bytes} (hm : IsMessage m)
    {hs : NoiseXxHandshake} {e : JsError} (he : (m.run () hs).2 = .error e) :
    (m.run () hs).1.msgIdx = hs.msgIdx := by
  unfold Co.run at he ⊢
  rcases hm hs with ⟨e', hthrow⟩ | ⟨-, hsat⟩
  · rw [hthrow]
    rfl
  · have hmoved := hsat.run (fun _ => trivial) ()
    rw [he] at hmoved
    exact hmoved.2

/-- Alone, a message passes the turn on at most once. -/
theorem IsMessage.run_le {m : Co Unit NoiseXxHandshake JsError Bytes} (hm : IsMessage m)
    (hs : NoiseXxHandshake) : (m.run () hs).1.msgIdx.val ≤ hs.msgIdx.val + 1 := by
  cases hres : (m.run () hs).2 with
  | error e => exact (le_of_eq (congrArg Fin.val (hm.run_error hres))).trans (Nat.le_succ _)
  | ok a =>
      unfold Co.run at hres ⊢
      rcases hm hs with ⟨e, hthrow⟩ | ⟨-, hsat⟩
      · rw [hthrow] at hres
        cases hres
      · have hmoved := hsat.run (fun _ => trivial) ()
        rw [hres] at hmoved
        exact le_of_eq hmoved.2

/-- Alone, a message keeps the role and never turns back; a complete object
stays as it is. -/
theorem IsMessage.run {m : Co Unit NoiseXxHandshake JsError Bytes} (hm : IsMessage m)
    (hs : NoiseXxHandshake) :
    (m.run () hs).1.role = hs.role ∧ hs.msgIdx.val ≤ (m.run () hs).1.msgIdx.val ∧
      (hs.msgIdx = 3 → (m.run () hs).1 = hs) := by
  rcases hm hs with ⟨e, hthrow⟩ | ⟨hne, hsat⟩
  · have hrun : m.run () hs = (hs, .error e) := by
      unfold Co.run
      rw [hthrow]
      rfl
    rw [hrun]
    exact ⟨rfl, le_refl _, fun _ => rfl⟩
  · have hmoved := hsat.run (fun _ => trivial) ()
    refine ⟨?_, ?_, fun hidx => absurd hidx hne⟩
    · unfold Co.run
      cases hres : ((m hs).run ()).2 with
      | ok a => rw [hres] at hmoved; exact hmoved.1
      | error e => rw [hres] at hmoved; exact hmoved.1
    · unfold Co.run
      cases hres : ((m hs).run ()).2 with
      | ok a => rw [hres] at hmoved; exact hmoved.2 ▸ Nat.le_succ _
      | error e => rw [hres] at hmoved; exact le_of_eq (congrArg Fin.val hmoved.2.symm)

end Turns

end Oxpulse.Crypto.NoiseXxHandshake

namespace Oxpulse.Transport

open Oxpulse.Coroutine Oxpulse.Crypto HandshakeView

/-! ## What a call leaves -/

namespace HandshakeView

def hs (v : HandshakeView) : NoiseXxHandshake := v.cs.handshake

/-- The session and the SAS. -/
def keys (v : HandshakeView) : Option RatchetSession × Option String := (v.cs.session, v.cs.sas)

/-- What a call reads and none of them writes. -/
def site (v : HandshakeView) : Role × Option ℕ := (v.cs.role, v.mtu)

end HandshakeView

/-- What `completeHandshake` makes of the session and the SAS. -/
def deriveKeys (P : Primitives) (role : Role) (hs : NoiseXxHandshake)
    (keys : Option RatchetSession × Option String) : Option RatchetSession × Option String :=
  if hs.isComplete then
    match hs.split P with
    | .error _ => keys
    | .ok split =>
        match RatchetSession.new P ⟨split.sendKey, split.recvKey, role⟩ with
        | .error _ => keys
        | .ok session =>
            match hs.sas with
            | .error _ => (some session, keys.2)
            | .ok sas => (some session, some sas)
  else keys

/-- Deriving twice is deriving once. -/
theorem deriveKeys_idem (P : Primitives) (role : Role) (hs : NoiseXxHandshake)
    (keys : Option RatchetSession × Option String) :
    deriveKeys P role hs (deriveKeys P role hs keys) = deriveKeys P role hs keys := by
  unfold deriveKeys
  cases hs.isComplete with
  | false => rfl
  | true =>
      cases hs.split P with
      | error e => rfl
      | ok split =>
          simp only [if_true]
          cases RatchetSession.new P ⟨split.sendKey, split.recvKey, role⟩ with
          | error e => rfl
          | ok session => cases hs.sas <;> rfl

theorem deriveKeys_of_incomplete {P : Primitives} {role : Role} {hs : NoiseXxHandshake}
    (h : hs.isComplete = false) (keys : Option RatchetSession × Option String) :
    deriveKeys P role hs keys = keys := by
  unfold deriveKeys
  rw [h]
  rfl

/-- The keys a call leaves that ends at this object, deriving or not. -/
def leaveKeys (P : Primitives) (derives : Bool) (role : Role) (hs : NoiseXxHandshake)
    (keys : Option RatchetSession × Option String) : Option RatchetSession × Option String :=
  if derives then deriveKeys P role hs keys else keys

abbrev AdvanceOutcome : Type := Outcome Unit HandshakeView JsError Unit

/-- What the last segment of a call does, when the object is as it left it. -/
structure Leaves (P : Primitives) (derives : Bool) (v₀ v : HandshakeView) : Prop where
  site : v.site = v₀.site
  hs : v.hs = v₀.hs
  keys : v.keys = leaveKeys P derives v₀.cs.role v₀.hs v₀.keys

/-- The call is done with the handshake object: whatever happens, it leaves the
object alone, and derives the keys at most at its very end. -/
def Finishes (P : Primitives) (derives : Bool) : HandshakeView → AdvanceOutcome → Prop
  | v₀, .ret v _ => Leaves P derives v₀ v
  | v₀, .throw v _ => Leaves P derives v₀ v
  | v₀, .await v k =>
      Leaves P false v₀ v ∧ ∀ r v', Finishes P derives v' (k r v')

/-- A handshake object on the way from `hs₀` to `hs'`. -/
structure Between (hs₀ hs hs' : NoiseXxHandshake) : Prop where
  role₀ : hs.role = hs₀.role
  role' : hs'.role = hs.role
  idx₀ : hs₀.msgIdx.val ≤ hs.msgIdx.val
  idx' : hs.msgIdx.val ≤ hs'.msgIdx.val
  done : hs.msgIdx = 3 → hs = hs'

/-- A call that nobody disturbs takes the handshake object from `hs₀` to
`target`, and then derives the keys or does not. -/
def Works (P : Primitives) (hs₀ target : NoiseXxHandshake) (derives : Bool) :
    HandshakeView → AdvanceOutcome → Prop
  | v₀, .ret v _ =>
      v.site = v₀.site ∧ v.hs = target ∧ v.keys = leaveKeys P derives v₀.cs.role target v₀.keys
  | v₀, .throw v _ =>
      v.site = v₀.site ∧ v.hs = target ∧ v.keys = leaveKeys P derives v₀.cs.role target v₀.keys
  | v₀, .await v k =>
      v.site = v₀.site ∧ v.keys = v₀.keys ∧ Between hs₀ v.hs target ∧
        ∀ r v', v'.site = v.site → v'.hs = v.hs → Works P hs₀ target derives v' (k r v')

section Rules

variable {P : Primitives} {hs₀ target : NoiseXxHandshake} {derives : Bool}

/-- A call that only finishes works, at the object it finds. -/
theorem Finishes.works {hs₀ target : NoiseXxHandshake} (hb : Between hs₀ target target) :
    ∀ {o : AdvanceOutcome} {v₀ : HandshakeView}, v₀.hs = target → Finishes P derives v₀ o →
      Works P hs₀ target derives v₀ o
  | .ret _ _, _, ht, h => ⟨h.site, h.hs.trans ht, by rw [h.keys, ht]⟩
  | .throw _ _, _, ht, h => ⟨h.site, h.hs.trans ht, by rw [h.keys, ht]⟩
  | .await v _, _, ht, ⟨h, hk⟩ =>
      ⟨h.site, h.keys, by rw [h.hs, ht]; exact hb, fun r v' _ hhs =>
        (hk r v').works hb (by rw [hhs, h.hs, ht])⟩

/-- A call that works and only finishes is at its target. -/
theorem Works.target_of_finishes {b : Bool} :
    ∀ {o : AdvanceOutcome} {v₀ : HandshakeView}, Works P hs₀ target derives v₀ o →
      Finishes P b v₀ o → v₀.hs = target
  | .ret _ _, _, hw, hf => hf.hs.symm.trans hw.2.1
  | .throw _ _, _, hw, hf => hf.hs.symm.trans hw.2.1
  | .await v _, _, ⟨_, _, _, hk⟩, ⟨h, hf⟩ =>
      h.hs.symm.trans ((hk () v rfl rfl).target_of_finishes (hf () v))

/-- Played alone, a call ends at its target. -/
theorem Works.run : ∀ {o : AdvanceOutcome} {v₀ : HandshakeView},
    Works P hs₀ target derives v₀ o →
      (o.run ()).1.site = v₀.site ∧ (o.run ()).1.hs = target ∧
        (o.run ()).1.keys = leaveKeys P derives v₀.cs.role target v₀.keys
  | .ret _ _, _, h => h
  | .throw _ _, _, h => h
  | .await v k, v₀, ⟨hsite, hkeys, _, hk⟩ => by
      obtain ⟨hsite', hhs, hkeys'⟩ := (hk () v rfl rfl).run
      have hrole : v.cs.role = v₀.cs.role := congrArg Prod.fst hsite
      exact ⟨hsite'.trans hsite, hhs, by rw [← hrole, ← hkeys]; exact hkeys'⟩

/-- **A message on the handshake object.** When the message stays at its turn
until it ends, and what follows works, so does the whole call. -/
theorem works_message {role : Role} {idx : Fin 4} {Q : NoiseXxHandshake → Except JsError Bytes → Prop}
    {s : Role × Option ℕ} {K : Except JsError Bytes → HandshakeView → AdvanceOutcome}
    (hturn : ∀ g, NoiseXxHandshake.AtTurn role idx g → Between hs₀ g target) :
    ∀ {o : Outcome Unit NoiseXxHandshake JsError Bytes} {g₀ : NoiseXxHandshake}
      {v₀ : HandshakeView},
      o.Sat (NoiseXxHandshake.AtTurn role idx) (fun _ _ => True) (fun _ _ => True) Q g₀ →
      Between hs₀ (o.run ()).1 target →
      (∀ v, v.site = s → v.hs = (o.run ()).1 →
        Works P hs₀ target derives v (K (o.run ()).2 v)) →
      v₀.site = s →
      Works P hs₀ target derives v₀
        (((o.zoom (fun v => v.cs.handshake) setHandshake v₀).later.attempt).bind K)
  | .ret g a, _, v₀, _, hend, hK, hs =>
      ⟨rfl, rfl, hend, fun _ v' hsite hhs => hK v' (hsite.trans hs) hhs⟩
  | .throw g e, _, v₀, _, hend, hK, hs =>
      ⟨rfl, rfl, hend, fun _ v' hsite hhs => hK v' (hsite.trans hs) hhs⟩
  | .await g k, _, v₀, ⟨hI, _, hk⟩, hend, hK, hs => by
      refine ⟨rfl, rfl, hturn g hI, fun r v' hsite hhs => ?_⟩
      have hget : v'.cs.handshake = g := hhs
      show Works P hs₀ target derives v'
        ((((k r v'.cs.handshake).zoom _ _ v').later.attempt).bind K)
      rw [hget]
      exact works_message hturn (hk r g hI trivial) hend hK (hsite.trans hs)

end Rules

/-! ## Finishing -/

section Finishing

variable {P : Primitives} {deviceId : DeviceId} {f : HandshakeFrame}

theorem reject_leaves (v : HandshakeView) : Leaves P false v v.reject := by
  unfold reject transitionVerdict
  cases hverdict : v.cs.verdict with
  | pending => exact ⟨rfl, rfl, rfl⟩
  | accepted => exact ⟨rfl, rfl, rfl⟩
  | rejected => exact ⟨rfl, rfl, rfl⟩

theorem readFailed_leaves (e : JsError) (v : HandshakeView) :
    Leaves P false v (readFailed e v) := by
  have hcount : ∀ v : HandshakeView, Leaves P false v
      (let failures := v.cs.handshakeFailures + 1
       let v := { v with cs := { v.cs with handshakeFailures := failures } }
       if failures < 3 then v else v.reject) := by
    intro v
    dsimp only
    split
    · exact ⟨rfl, rfl, rfl⟩
    · have hrej := reject_leaves (P := P)
        { v with cs := { v.cs with handshakeFailures := v.cs.handshakeFailures + 1 } }
      exact ⟨hrej.site, hrej.hs, hrej.keys⟩
  cases e with
  | error message => exact hcount v
  | noiseStateError message => exact ⟨rfl, rfl, rfl⟩
  | library => exact hcount v

theorem checkPeerKey_same (v : HandshakeView) :
    v.checkPeerKey.site = v.site ∧ v.checkPeerKey.hs = v.hs ∧ v.checkPeerKey.keys = v.keys := by
  unfold checkPeerKey
  cases v.cs.handshake.peerStaticPublicKey with
  | none => exact ⟨rfl, rfl, rfl⟩
  | some peerPub => exact ⟨rfl, rfl, rfl⟩

/-- **The end of a call** derives the keys. -/
theorem completeHandshake_finishes (v : HandshakeView) :
    Finishes P true v (completeHandshake P v) := by
  unfold completeHandshake
  simp only [Co.bind_apply, Co.get_apply, Outcome.bind]
  have hderive : leaveKeys P true v.cs.role v.hs v.keys =
      deriveKeys P v.cs.role v.cs.handshake v.keys := rfl
  unfold deriveKeys at hderive
  cases hc : v.cs.handshake.isComplete with
  | false =>
      rw [hc] at hderive
      exact ⟨rfl, rfl, hderive.symm⟩
  | true =>
      simp only [hc, if_true] at hderive ⊢
      cases hsplit : v.cs.handshake.split P with
      | error e =>
          have hrej := reject_leaves (P := P) v
          rw [hsplit] at hderive
          exact ⟨hrej.site, hrej.hs, hrej.keys.trans hderive.symm⟩
      | ok split =>
          simp only [hsplit] at hderive
          dsimp only
          cases hnew : RatchetSession.new P ⟨split.sendKey, split.recvKey, v.cs.role⟩ with
          | error e =>
              rw [hnew] at hderive
              exact ⟨rfl, rfl, hderive.symm⟩
          | ok session =>
              simp only [hnew] at hderive
              cases hsas : v.cs.handshake.sas with
              | error e =>
                  rw [hsas] at hderive
                  exact ⟨rfl, rfl, hderive.symm⟩
              | ok sas =>
                  rw [hsas] at hderive
                  obtain ⟨hsite, hhs, hkeys⟩ := checkPeerKey_same
                    { setSession session v with
                      cs := { (setSession session v).cs with sas := some sas
                                                             handshakeFailures := 0 } }
                  exact ⟨hsite, hhs, hkeys.trans hderive.symm⟩

/-- Every chunk from number `i` on is written. -/
def chunksWritten (f : HandshakeFrame) : List Bytes → ℕ → Bool
  | [], _ => true
  | _ :: chunks, i => (f.writeRx i).isOk && chunksWritten f chunks (i + 1)

/-- What `answer` does once its `try` block is over. -/
def afterAnswer (P : Primitives) : Except JsError Unit → HandshakeView → AdvanceOutcome
  | .error _, v => .ret v.reject ()
  | .ok _, v => completeHandshake P v

/-- **Writing the chunks** leaves the object alone. -/
theorem writeChunks_finishes (chunks : List Bytes) :
    ∀ (i : ℕ) (v : HandshakeView),
      Finishes P (chunksWritten f chunks i) v
        ((writeChunks deviceId f.writeRx chunks i v).attempt.bind (afterAnswer P)) := by
  induction chunks with
  | nil => exact fun i v => completeHandshake_finishes v
  | cons chunk chunks ih =>
      intro i v
      unfold chunksWritten writeChunks
      simp only [Co.bind_apply, writeRx, Co.modify_apply, Outcome.bind, Co.await]
      cases hw : f.writeRx i with
      | ok u =>
          refine ⟨⟨rfl, rfl, rfl⟩, fun _ v' => ?_⟩
          have hrest := ih (i + 1) v'
          exact hrest
      | error e =>
          refine ⟨⟨rfl, rfl, rfl⟩, fun _ v' => ?_⟩
          exact reject_leaves v'

end Finishing

/-! ## Working -/

section Working

variable (P : Primitives) (deviceId : DeviceId) (f : HandshakeFrame)

/-- Where writing the answer takes the object, and whether all of it is sent. -/
def answerResult (mtu : ℕ) (next : FrameType) (hs : NoiseXxHandshake) : NoiseXxHandshake × Bool :=
  match (NoiseXxHandshake.writeMessage P f.writeDraws [] : Co Unit _ _ _).run () hs with
  | (hs', .error _) => (hs', false)
  | (hs', .ok msg) =>
      match chunkFrame msg mtu next with
      | .error _ => (hs', false)
      | .ok chunks => (hs', chunksWritten f chunks 0)

/-- The same once the message is read, by how the read ended. -/
def afterReadResult (role : Role) (mtu : Option ℕ) :
    NoiseXxHandshake × Except JsError Bytes → NoiseXxHandshake × Bool
  | (hs, .error _) => (hs, false)
  | (hs, .ok _) =>
      if f.frameType = FrameType.HandshakeMsg1 ∧ role = .responder then
        answerResult P f (mtu.getD GATT_MTU_DEFAULT) FrameType.HandshakeMsg2 hs
      else if f.frameType = FrameType.HandshakeMsg2 ∧ role = .initiator then
        answerResult P f (mtu.getD GATT_MTU_DEFAULT) FrameType.HandshakeMsg3 hs
      else (hs, true)

/-- Where an undisturbed call takes the object, and whether it then derives the
keys. -/
def advanceResult (role : Role) (mtu : Option ℕ) (hs : NoiseXxHandshake) :
    NoiseXxHandshake × Bool :=
  afterReadResult P f role mtu
    ((NoiseXxHandshake.readMessage P f.readDraws f.payload : Co Unit _ _ _).run () hs)

variable {P deviceId f} {hs₀ : NoiseXxHandshake}

/-- **A call that reads or writes a message works** when what follows does. -/
theorem works_call {m : Co Unit NoiseXxHandshake JsError Bytes}
    (hm : NoiseXxHandshake.IsMessage m) {target : NoiseXxHandshake} {derives : Bool}
    {v₀ : HandshakeView} {K : Except JsError Bytes → HandshakeView → AdvanceOutcome}
    (hrole : v₀.hs.role = hs₀.role) (hidx : hs₀.msgIdx.val ≤ v₀.hs.msgIdx.val)
    (hend : Between hs₀ (m.run () v₀.hs).1 target)
    (hK : ∀ v, v.site = v₀.site → v.hs = (m.run () v₀.hs).1 →
      Works P hs₀ target derives v (K (m.run () v₀.hs).2 v)) :
    Works P hs₀ target derives v₀ (((onHandshake m v₀).later.attempt).bind K) := by
  obtain ⟨hrun₁, hrun₂, -⟩ := hm.run v₀.hs
  show Works P hs₀ target derives v₀
    ((((m v₀.cs.handshake).zoom _ setHandshake v₀).later.attempt).bind K)
  rcases hm v₀.hs with ⟨e, hthrow⟩ | ⟨hne, hsat⟩
  · have hrun : m.run () v₀.hs = (v₀.hs, .error e) := by
      unfold Co.run
      rw [hthrow]
      rfl
    rw [hrun] at hend hK
    rw [show m v₀.cs.handshake = .throw v₀.hs e from hthrow]
    exact ⟨rfl, rfl, hend, fun _ v' hsite hhs => hK v' hsite hhs⟩
  · refine works_message (fun g hg => ?_) hsat hend hK rfl
    refine ⟨hg.1.trans hrole, ?_, ?_, ?_, fun hdone => ?_⟩
    · rw [hend.role', hrun₁, hg.1]
    · rw [hg.2]
      exact hidx
    · rw [hg.2]
      exact hrun₂.trans hend.idx'
    · exact absurd (hg.2.symm.trans hdone) hne

/-- What `answer` does once the message is written. -/
def afterWrite (P : Primitives) (deviceId : DeviceId) (f : HandshakeFrame) (mtu : ℕ)
    (next : FrameType) : Except JsError Bytes → HandshakeView → AdvanceOutcome
  | .error _, v => .ret v.reject ()
  | .ok msg, v =>
      ((Co.ofExcept (chunkFrame msg mtu next) >>= fun chunks =>
        writeChunks deviceId f.writeRx chunks 0 : Co Unit HandshakeView JsError Unit) v).attempt.bind
          (afterAnswer P)

theorem answer_apply (mtu : ℕ) (next : FrameType) (v : HandshakeView) :
    answer P deviceId f mtu next v =
      ((onHandshake (NoiseXxHandshake.writeMessage P f.writeDraws []) v).later.attempt).bind
        (afterWrite P deviceId f mtu next) := by
  have hanswer : answer P deviceId f mtu next v =
      (((onHandshake (NoiseXxHandshake.writeMessage P f.writeDraws []) v).later.bind fun msg =>
        (Co.ofExcept (chunkFrame msg mtu next) >>= fun chunks =>
          writeChunks deviceId f.writeRx chunks 0 : Co Unit HandshakeView JsError Unit)).attempt).bind
        (afterAnswer P) := by
    show Outcome.bind _ _ = _
    congr 1
    funext x v
    cases x <;> rfl
  refine hanswer.trans ?_
  refine (congrArg (fun o : Outcome Unit HandshakeView JsError (Except JsError Unit) =>
    o.bind (afterAnswer P)) (Outcome.attempt_bind _ _)).trans ?_
  refine (Outcome.bind_assoc _ _ _).trans (congrArg _ ?_)
  funext x v
  cases x <;> rfl

/-- Once the answer is written, only the chunks are left. -/
theorem afterWrite_finishes (mtu : ℕ) (next : FrameType) (hs : NoiseXxHandshake)
    (v : HandshakeView) :
    Finishes P (answerResult P f mtu next hs).2 v
      (afterWrite P deviceId f mtu next
        ((NoiseXxHandshake.writeMessage P f.writeDraws [] : Co Unit _ _ _).run () hs).2 v) := by
  unfold answerResult
  split
  · next hs' e hrun =>
      rw [hrun]
      exact reject_leaves v
  · next hs' msg hrun =>
      rw [hrun]
      unfold afterWrite
      dsimp only
      cases chunkFrame msg mtu next with
      | error e => exact reject_leaves v
      | ok chunks => exact writeChunks_finishes chunks 0 v

theorem answerResult_fst (mtu : ℕ) (next : FrameType) (hs : NoiseXxHandshake) :
    (answerResult P f mtu next hs).1 =
      ((NoiseXxHandshake.writeMessage P f.writeDraws [] : Co Unit _ _ _).run () hs).1 := by
  unfold answerResult
  split
  · next hs' e hrun => rw [hrun]
  · next hs' msg hrun =>
      rw [hrun]
      cases chunkFrame msg mtu next <;> rfl

theorem answer_works (mtu : ℕ) (next : FrameType) {v₀ : HandshakeView}
    (hrole : v₀.hs.role = hs₀.role) (hidx : hs₀.msgIdx.val ≤ v₀.hs.msgIdx.val) :
    Works P hs₀ (answerResult P f mtu next v₀.hs).1 (answerResult P f mtu next v₀.hs).2 v₀
      (answer P deviceId f mtu next v₀) := by
  have hm : NoiseXxHandshake.IsMessage (NoiseXxHandshake.writeMessage P f.writeDraws []) :=
    NoiseXxHandshake.writeMessage_isMessage _ _
  obtain ⟨hrun₁, hrun₂, -⟩ := hm.run v₀.hs
  have hbetween : Between hs₀ (answerResult P f mtu next v₀.hs).1
      (answerResult P f mtu next v₀.hs).1 := by
    rw [answerResult_fst]
    exact ⟨hrun₁.trans hrole, rfl, hidx.trans hrun₂, le_refl _, fun _ => rfl⟩
  rw [answer_apply]
  refine works_call hm hrole hidx (by rw [← answerResult_fst]; exact hbetween) fun v _ hv => ?_
  rw [← answerResult_fst] at hv
  exact (afterWrite_finishes mtu next v₀.hs v).works hbetween hv

theorem answerResult_run (mtu : ℕ) (next : FrameType) (hs : NoiseXxHandshake) :
    (answerResult P f mtu next hs).1.role = hs.role ∧
      hs.msgIdx.val ≤ (answerResult P f mtu next hs).1.msgIdx.val ∧
      (hs.msgIdx = 3 → (answerResult P f mtu next hs).1 = hs) := by
  rw [answerResult_fst]
  exact (NoiseXxHandshake.writeMessage_isMessage f.writeDraws []).run hs

theorem afterReadResult_run (role : Role) (mtu : Option ℕ)
    (res : NoiseXxHandshake × Except JsError Bytes) :
    (afterReadResult P f role mtu res).1.role = res.1.role ∧
      res.1.msgIdx.val ≤ (afterReadResult P f role mtu res).1.msgIdx.val ∧
      (res.1.msgIdx = 3 → (afterReadResult P f role mtu res).1 = res.1) := by
  obtain ⟨hs, res⟩ := res
  cases res with
  | error e => exact ⟨rfl, le_refl _, fun _ => rfl⟩
  | ok payload =>
      unfold afterReadResult
      dsimp only
      split
      · exact answerResult_run _ _ hs
      split
      · exact answerResult_run _ _ hs
      · exact ⟨rfl, le_refl _, fun _ => rfl⟩

/-- The answer passes the turn on at most once. -/
theorem afterReadResult_le (role : Role) (mtu : Option ℕ)
    (res : NoiseXxHandshake × Except JsError Bytes) :
    (afterReadResult P f role mtu res).1.msgIdx.val ≤ res.1.msgIdx.val + 1 := by
  have hanswer : ∀ (mtu : ℕ) (next : FrameType) (hs : NoiseXxHandshake),
      (answerResult P f mtu next hs).1.msgIdx.val ≤ hs.msgIdx.val + 1 := by
    intro mtu next hs
    rw [answerResult_fst]
    exact (NoiseXxHandshake.writeMessage_isMessage f.writeDraws []).run_le hs
  obtain ⟨hs, res⟩ := res
  cases res with
  | error e => exact Nat.le_succ _
  | ok payload =>
      unfold afterReadResult
      dsimp only
      split
      · exact hanswer _ _ hs
      split
      · exact hanswer _ _ hs
      · exact Nat.le_succ _

theorem advanceResult_role (f : HandshakeFrame) (role : Role) (mtu : Option ℕ)
    (hs : NoiseXxHandshake) : (advanceResult P f role mtu hs).1.role = hs.role :=
  (afterReadResult_run role mtu _).1.trans
    ((NoiseXxHandshake.readMessage_isMessage f.readDraws f.payload).run hs).1

/-- What `advanceHandshake` does once the message is read. -/
def readTail (P : Primitives) (deviceId : DeviceId) (f : HandshakeFrame) :
    Except JsError Bytes → HandshakeView → AdvanceOutcome
  | .error e, v => .ret (readFailed e v) ()
  | .ok _, v => afterRead P deviceId f v

theorem advanceHandshake_apply (v : HandshakeView) :
    advanceHandshake P deviceId f v =
      ((onHandshake (NoiseXxHandshake.readMessage P f.readDraws f.payload) v).later.attempt).bind
        (readTail P deviceId f) := by
  show ((onHandshake (NoiseXxHandshake.readMessage P f.readDraws f.payload) v).later.attempt).bind
    _ = _
  congr 1
  funext x v
  cases x <;> rfl

/-- **A call works** on the handshake object that it finds. -/
theorem advanceHandshake_works (v₀ : HandshakeView) :
    Works P v₀.hs (advanceResult P f v₀.cs.role v₀.mtu v₀.hs).1
      (advanceResult P f v₀.cs.role v₀.mtu v₀.hs).2 v₀ (advanceHandshake P deviceId f v₀) := by
  have hm : NoiseXxHandshake.IsMessage
      (NoiseXxHandshake.readMessage P f.readDraws f.payload) :=
    NoiseXxHandshake.readMessage_isMessage _ _
  obtain ⟨hread₁, hread₂, -⟩ := hm.run v₀.hs
  rw [advanceHandshake_apply]
  unfold advanceResult
  generalize hres : (NoiseXxHandshake.readMessage P f.readDraws f.payload :
    Co Unit _ _ _).run () v₀.hs = res at hread₁ hread₂ ⊢
  obtain ⟨htail₁, htail₂, htail₃⟩ := afterReadResult_run (P := P) (f := f) v₀.cs.role v₀.mtu res
  have hend : Between v₀.hs res.1 (afterReadResult P f v₀.cs.role v₀.mtu res).1 :=
    ⟨hread₁, htail₁, hread₂, htail₂, fun hdone => (htail₃ hdone).symm⟩
  refine works_call hm rfl (le_refl _) (by rw [hres]; exact hend) fun v hsite hv => ?_
  rw [hres] at hv ⊢
  have hrole : v₀.cs.role = v.cs.role := (congrArg Prod.fst hsite).symm
  have hmtu : v₀.mtu = v.mtu := (congrArg Prod.snd hsite).symm
  rw [hrole, hmtu]
  obtain ⟨hs', res⟩ := res
  have hread : Between v₀.hs hs' hs' :=
    ⟨hread₁, rfl, hread₂, le_refl _, fun _ => rfl⟩
  have hrole' : v.hs.role = v₀.hs.role := by
    rw [hv]
    exact hread₁
  have hidx' : v₀.hs.msgIdx.val ≤ v.hs.msgIdx.val := by
    rw [hv]
    exact hread₂
  cases res with
  | error e =>
      have hfin : Finishes P false v (.ret (readFailed e v) ()) := readFailed_leaves e v
      exact hfin.works hread hv
  | ok payload =>
      unfold readTail afterReadResult afterRead
      simp only [Co.bind_apply, Co.get_apply, Outcome.bind, Co.ite_apply]
      obtain rfl : v.hs = hs' := hv
      split
      · exact answer_works _ _ hrole' hidx'
      split
      · exact answer_works _ _ hrole' hidx'
      · exact (completeHandshake_finishes v).works hread rfl

end Working

/-! ## Frames that are refused on sight -/

theorem readMessage_refused {P : Primitives} {hs : NoiseXxHandshake} (draws : NoiseDraws)
    {payload : Bytes} (h : RefusedOnSight hs payload) :
    ∃ e, (NoiseXxHandshake.readMessage P draws payload : Co Unit _ _ _) hs = .throw hs e := by
  unfold NoiseXxHandshake.readMessage
  simp only [Co.bind_apply, Co.get_apply, Outcome.bind, Co.ite_apply]
  by_cases hbig : payload.length > MAX_HANDSHAKE_MSG_BYTES + 256
  · exact ⟨_, if_pos hbig⟩
  rw [if_neg hbig]
  have hturn := h.resolve_left hbig
  unfold NoiseXxHandshake.readTurn
  generalize hrole : hs.role = role at hturn
  generalize hs.msgIdx = idx at hturn
  cases role with
  | initiator =>
      rcases idx with ⟨_ | _ | _ | _ | i, hidx⟩
      · exact ⟨_, rfl⟩
      · exact absurd hturn id
      · exact ⟨_, rfl⟩
      · exact ⟨_, rfl⟩
      · omega
  | responder =>
      rcases idx with ⟨_ | _ | _ | _ | i, hidx⟩
      · have hshort : payload.length < 32 + MLKEM_PUBLIC_KEY_BYTES := hturn
        refine ⟨.error "msg-1: too short", ?_⟩
        unfold NoiseXxHandshake.readMsg1
        exact congrFun (if_pos hshort) hs
      · exact ⟨_, rfl⟩
      · exact absurd hturn id
      · exact ⟨_, rfl⟩
      · omega

end Oxpulse.Transport
