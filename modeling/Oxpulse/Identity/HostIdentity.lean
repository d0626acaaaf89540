import Oxpulse.Foundation.JsNumber
import Oxpulse.Foundation.JsText
import Oxpulse.Identity.Device

/-!
# Host actions

The payloads of `host-identity.ts` and their signature. A payload is put together
from the name of the action, its fields and the time, with a colon between any two
of them. Nothing is escaped: a colon inside a room id reads like the one behind it,
and there is exactly one way for two actions to have one payload (`Clash`). What is
signed is the UTF-8 of the payload, in which surrogates without a partner are all
alike.
-/

namespace Oxpulse.Identity

open Oxpulse.Crypto Oxpulse.JsNumber Oxpulse.JsText Oxpulse.Separator

/-! ## The builders -/

def buildKickPayload (roomId targetPubkeyB64 : CodeUnits) (ts : JsInteger) : CodeUnits :=
  ascii "kick:".toList ++ roomId ++ ascii [':'] ++ targetPubkeyB64 ++ ascii [':'] ++
    ascii (numberToString ts)

def buildLockPayload (roomId : CodeUnits) (ts : JsInteger) : CodeUnits :=
  ascii "lock:".toList ++ roomId ++ ascii [':'] ++ ascii (numberToString ts)

def buildUnlockPayload (roomId : CodeUnits) (ts : JsInteger) : CodeUnits :=
  ascii "unlock:".toList ++ roomId ++ ascii [':'] ++ ascii (numberToString ts)

def buildPinMintPayload (roomId : CodeUnits) (ts : JsInteger) : CodeUnits :=
  ascii "pin-mint:".toList ++ roomId ++ ascii [':'] ++ ascii (numberToString ts)

def buildShortlinkMintPayload (roomId : CodeUnits) (ts : JsInteger)
    (redirectRoomId : Option CodeUnits) : CodeUnits :=
  match redirectRoomId with
  | some redirectRoomId =>
      ascii "shortlink-mint:".toList ++ roomId ++ ascii [':'] ++ redirectRoomId ++ ascii [':'] ++
        ascii (numberToString ts)
  | none => ascii "shortlink-mint:".toList ++ roomId ++ ascii [':'] ++ ascii (numberToString ts)

/-! ## Signing -/

/-- What `host-identity.ts` takes from `@noble/curves` and WebCrypto, and how a
signature is checked: the signature, the message and the public key. -/
structure HostCrypto : Type where
  nobleSign : Bytes → Key32 → Bytes
  noblePublicKey : Key32 → Bytes
  subtleSign : Bytes → CryptoKey → Except IdentityError Bytes
  subtlePublicKey : CryptoKey → Bytes
  verify : Bytes → Bytes → Bytes → Bool

/-- What is signed is accepted, and a signature is accepted for one message. -/
structure HostCryptoLaws (H : HostCrypto) : Prop where
  noble : ∀ msg seed, H.verify (H.nobleSign msg seed) msg (H.noblePublicKey seed) = true
  subtle : ∀ msg key sig, H.subtleSign msg key = .ok sig →
    H.verify sig msg (H.subtlePublicKey key) = true
  single : ∀ sig msg msg' pub, H.verify sig msg pub = true → H.verify sig msg' pub = true →
    msg = msg'

structure HostKeypair : Type where
  publicKeyB64 : List Char
  privateKey : Option CryptoKey
  privateKeySeed : Option Key32

def signHostAction (H : HostCrypto) (key : HostKeypair) (payload : CodeUnits) :
    Except IdentityError (List Char) :=
  let msg := encode payload
  match key.privateKeySeed with
  | some seed => .ok (toBase64url (H.nobleSign msg seed))
  | none =>
      match key.privateKey with
      | some privateKey => (H.subtleSign msg privateKey).map toBase64url
      | none =>
          .error (.error ("[host-identity] signHostAction: HostKeypair has neither privateKey " ++
            "nor privateKeySeed"))

/-- The public key of the private key that signs. -/
def HostKeypair.signer (H : HostCrypto) (key : HostKeypair) : Option Bytes :=
  match key.privateKeySeed with
  | some seed => some (H.noblePublicKey seed)
  | none => key.privateKey.map H.subtlePublicKey

/-! ## Actions -/

inductive HostActionName : Type where
  | kick
  | lock
  | unlock
  | pinMint
  | shortlinkMint
deriving DecidableEq

/-- What a payload begins with. -/
def HostActionName.text : HostActionName → List Char
  | kick => "kick".toList
  | lock => "lock".toList
  | unlock => "unlock".toList
  | pinMint => "pin-mint".toList
  | shortlinkMint => "shortlink-mint".toList

/-- A call of a builder. -/
inductive HostAction (T : Type) : Type where
  | kick (roomId targetPubkeyB64 : T) (ts : JsInteger)
  | lock (roomId : T) (ts : JsInteger)
  | unlock (roomId : T) (ts : JsInteger)
  | pinMint (roomId : T) (ts : JsInteger)
  | shortlinkMint (roomId : T) (ts : JsInteger) (redirectRoomId : Option T)

namespace HostAction

def payload : HostAction CodeUnits → CodeUnits
  | kick roomId targetPubkeyB64 ts => buildKickPayload roomId targetPubkeyB64 ts
  | lock roomId ts => buildLockPayload roomId ts
  | unlock roomId ts => buildUnlockPayload roomId ts
  | pinMint roomId ts => buildPinMintPayload roomId ts
  | shortlinkMint roomId ts redirectRoomId => buildShortlinkMintPayload roomId ts redirectRoomId

/-- The bytes that `signHostAction` signs. -/
def signedBytes (c : HostAction CodeUnits) : Bytes := encode c.payload

def map {T U : Type} (f : T → U) : HostAction T → HostAction U
  | kick roomId targetPubkeyB64 ts => .kick (f roomId) (f targetPubkeyB64) ts
  | lock roomId ts => .lock (f roomId) ts
  | unlock roomId ts => .unlock (f roomId) ts
  | pinMint roomId ts => .pinMint (f roomId) ts
  | shortlinkMint roomId ts redirectRoomId => .shortlinkMint (f roomId) ts (redirectRoomId.map f)

def name {T : Type} : HostAction T → HostActionName
  | kick .. => .kick
  | lock .. => .lock
  | unlock .. => .unlock
  | pinMint .. => .pinMint
  | shortlinkMint .. => .shortlinkMint

def ts {T : Type} : HostAction T → JsInteger
  | kick _ _ ts | lock _ ts | unlock _ ts | pinMint _ ts | shortlinkMint _ ts _ => ts

def roomId {T : Type} : HostAction T → T
  | kick roomId _ _ | lock roomId _ | unlock roomId _ | pinMint roomId _
  | shortlinkMint roomId _ _ => roomId

/-- What stands between the name and the time. -/
def middle {α : Type} (colon : α) : HostAction (List α) → List α
  | kick roomId targetPubkeyB64 _ => roomId ++ colon :: targetPubkeyB64
  | lock roomId _ | unlock roomId _ | pinMint roomId _ | shortlinkMint roomId _ none => roomId
  | shortlinkMint roomId _ (some redirectRoomId) => roomId ++ colon :: redirectRoomId

/-- The two actions are told apart by their fields and not by their text: the
colon behind the room id of one is within the room id of the other. -/
def Clash {α : Type} (colon : α) : HostAction (List α) → HostAction (List α) → Prop
  | kick roomId target ts, kick roomId' target' ts' =>
      ts = ts' ∧ (Shifts colon (roomId, target) (roomId', target') ∨
        Shifts colon (roomId', target') (roomId, target))
  | shortlinkMint roomId ts none, shortlinkMint roomId' ts' (some redirect') =>
      ts = ts' ∧ roomId = roomId' ++ colon :: redirect'
  | shortlinkMint roomId ts (some redirect), shortlinkMint roomId' ts' none =>
      ts = ts' ∧ roomId' = roomId ++ colon :: redirect
  | shortlinkMint roomId ts (some redirect), shortlinkMint roomId' ts' (some redirect') =>
      ts = ts' ∧ (Shifts colon (roomId, redirect) (roomId', redirect') ∨
        Shifts colon (roomId', redirect') (roomId, redirect))
  | _, _ => False

/-! ## The text of a payload -/

/-- The text over an alphabet in which the ASCII characters are written. -/
def layout {α : Type} (lit : Char → α) (c : HostAction (List α)) : List α :=
  c.name.text.map lit ++ lit ':' ::
    (c.middle (lit ':') ++ lit ':' :: (numberToString c.ts).map lit)

theorem text_ascii (n : HostActionName) : ∀ x ∈ n.text, x.toNat < 128 := by
  intro x hx
  have hall : n.text.all (fun x => decide (x.toNat < 128)) = true := by
    cases n <;> rfl
  exact of_decide_eq_true (List.all_eq_true.mp hall x hx)

theorem colon_not_mem_text (n : HostActionName) : ':' ∉ n.text := by
  cases n <;> decide

theorem text_injective : ∀ m n : HostActionName, m.text = n.text → m = n := by
  intro m n
  cases m <;> cases n <;> decide

theorem colon_not_mem_ts (n : JsInteger) : ':' ∉ numberToString n :=
  not_mem_numberToString n (by decide) (by decide)

@[simp]
theorem name_map {T U : Type} (f : T → U) (c : HostAction T) : (c.map f).name = c.name := by
  cases c <;> rfl

@[simp]
theorem ts_map {T U : Type} (f : T → U) (c : HostAction T) : (c.map f).ts = c.ts := by
  cases c <;> rfl

/-- The unit of an ASCII character. -/
def unit (x : Char) : UInt16 := UInt16.ofNat x.toNat

theorem ascii_append (s t : List Char) : ascii (s ++ t) = ascii s ++ ascii t := List.map_append

theorem payload_eq_layout (c : HostAction CodeUnits) : c.payload = layout unit c := by
  have hone : ∀ (n : HostActionName) (roomId rest : CodeUnits),
      ascii (n.text ++ [':']) ++ roomId ++ ascii [':'] ++ rest =
        n.text.map unit ++ unit ':' :: (roomId ++ unit ':' :: rest) := by
    intro n roomId rest
    rw [ascii_append]
    simp only [List.append_assoc]
    rfl
  have htwo : ∀ (n : HostActionName) (roomId field rest : CodeUnits),
      ascii (n.text ++ [':']) ++ roomId ++ ascii [':'] ++ field ++ ascii [':'] ++ rest =
        n.text.map unit ++ unit ':' :: ((roomId ++ unit ':' :: field) ++ unit ':' :: rest) := by
    intro n roomId field rest
    rw [ascii_append]
    simp only [List.append_assoc]
    rfl
  cases c with
  | kick roomId target ts => exact htwo .kick roomId target _
  | lock roomId ts => exact hone .lock roomId _
  | unlock roomId ts => exact hone .unlock roomId _
  | pinMint roomId ts => exact hone .pinMint roomId _
  | shortlinkMint roomId ts redirect =>
      cases redirect with
      | none => exact hone .shortlinkMint roomId _
      | some redirect => exact htwo .shortlinkMint roomId redirect _

/-- Colons cut the characters as they cut the units. -/
theorem scalars_middle (c : HostAction CodeUnits) :
    scalars (c.middle (unit ':')) = (c.map scalars).middle ':' := by
  have hcut : ∀ a b : CodeUnits,
      scalars (a ++ unit ':' :: b) = scalars a ++ ':' :: scalars b :=
    scalars_append_cons (isPlain_ascii (by decide))
  cases c with
  | kick roomId target ts => exact hcut roomId target
  | lock | unlock | pinMint => rfl
  | shortlinkMint roomId ts redirect =>
      cases redirect with
      | none => rfl
      | some redirect => exact hcut roomId redirect

theorem scalars_payload (c : HostAction CodeUnits) :
    scalars c.payload = layout id (c.map scalars) := by
  have hcut : ∀ a b : CodeUnits,
      scalars (a ++ unit ':' :: b) = scalars a ++ ':' :: scalars b :=
    scalars_append_cons (isPlain_ascii (by decide))
  have hascii : ∀ s : List Char, (∀ x ∈ s, x.toNat < 128) → scalars (ascii s) = s := by
    intro s hs
    simpa [scalars] using scalars_ascii_append hs []
  rw [payload_eq_layout]
  show scalars (ascii c.name.text ++ unit ':' ::
    (c.middle (unit ':') ++ unit ':' :: ascii (numberToString c.ts))) = _
  rw [hcut, hcut, hascii _ (text_ascii c.name), hascii _ fun _ => isAscii_of_mem c.ts, scalars_middle]
  simp [layout]

/-- No two ASCII characters are written alike. -/
def Literal {α : Type} (lit : Char → α) : Prop :=
  ∀ x y : Char, x.toNat < 128 → y.toNat < 128 → lit x = lit y → x = y

section Literal

variable {α : Type} {lit : Char → α} (hlit : Literal lit)

theorem literal_unit : Literal unit := by
  intro x y hx hy h
  have hnat := congrArg UInt16.toNat h
  simp only [unit, UInt16.toNat_ofNat'] at hnat
  rw [Nat.mod_eq_of_lt (by omega), Nat.mod_eq_of_lt (by omega)] at hnat
  exact Char.toNat_inj.mp hnat

theorem literal_id : Literal (id : Char → Char) := fun _ _ _ _ h => h

include hlit

theorem map_literal_inj : ∀ {s t : List Char}, (∀ x ∈ s, x.toNat < 128) →
    (∀ x ∈ t, x.toNat < 128) → s.map lit = t.map lit → s = t := by
  intro s
  induction s with
  | nil =>
      intro t _ _ h
      exact (List.map_eq_nil_iff.mp h.symm).symm
  | cons x s ih =>
      intro t hs ht h
      cases t with
      | nil => cases h
      | cons y t =>
          obtain ⟨hx, hs⟩ := List.forall_mem_cons.mp hs
          obtain ⟨hy, ht⟩ := List.forall_mem_cons.mp ht
          obtain ⟨hhead, htail⟩ := List.cons.inj h
          rw [hlit x y hx hy hhead, ih hs ht htail]

theorem colon_not_mem_map {s : List Char} (hs : ∀ x ∈ s, x.toNat < 128) (hcolon : ':' ∉ s) :
    lit ':' ∉ s.map lit := by
  intro hmem
  obtain ⟨x, hx, heq⟩ := List.mem_map.mp hmem
  rw [hlit x ':' (hs x hx) (by decide) heq] at hx
  exact hcolon hx

/-- What a text tells: the name, what is in the middle, and the time. -/
theorem layout_eq_iff (c c' : HostAction (List α)) : layout lit c = layout lit c' ↔
    c.name = c'.name ∧ c.middle (lit ':') = c'.middle (lit ':') ∧ c.ts = c'.ts := by
  constructor
  · intro h
    obtain ⟨hname, hrest⟩ := first_inj
      (colon_not_mem_map hlit (text_ascii c.name) (colon_not_mem_text c.name))
      (colon_not_mem_map hlit (text_ascii c'.name) (colon_not_mem_text c'.name)) h
    obtain ⟨hmiddle, hts⟩ := last_inj
      (colon_not_mem_map hlit (fun _ => isAscii_of_mem c.ts) (colon_not_mem_ts c.ts))
      (colon_not_mem_map hlit (fun _ => isAscii_of_mem c'.ts) (colon_not_mem_ts c'.ts)) hrest
    exact ⟨text_injective _ _ (map_literal_inj hlit (text_ascii c.name) (text_ascii c'.name) hname),
      hmiddle,
      numberToString_injective (map_literal_inj hlit (fun _ => isAscii_of_mem c.ts)
        (fun _ => isAscii_of_mem c'.ts) hts)⟩
  · rintro ⟨hname, hmiddle, hts⟩
    unfold layout
    rw [hname, hmiddle, hts]

/-- **Two actions have one text exactly if they clash.** -/
theorem layout_eq_iff_clash (c c' : HostAction (List α)) :
    layout lit c = layout lit c' ↔ c = c' ∨ Clash (lit ':') c c' := by
  rw [layout_eq_iff hlit]
  cases c with
  | kick roomId target ts =>
      cases c' with
      | kick roomId' target' ts' =>
          simp only [name, middle, HostAction.ts, Clash, joined_eq_iff, kick.injEq, true_and]
          tauto
      | lock | unlock | pinMint | shortlinkMint => simp [name, Clash]
  | lock roomId ts =>
      cases c' with
      | lock roomId' ts' => simp [name, middle, HostAction.ts, Clash]
      | kick | unlock | pinMint | shortlinkMint => simp [name, Clash]
  | unlock roomId ts =>
      cases c' with
      | unlock roomId' ts' => simp [name, middle, HostAction.ts, Clash]
      | kick | lock | pinMint | shortlinkMint => simp [name, Clash]
  | pinMint roomId ts =>
      cases c' with
      | pinMint roomId' ts' => simp [name, middle, HostAction.ts, Clash]
      | kick | lock | unlock | shortlinkMint => simp [name, Clash]
  | shortlinkMint roomId ts redirect =>
      cases c' with
      | shortlinkMint roomId' ts' redirect' =>
          cases redirect with
          | none =>
              cases redirect' with
              | none => simp [name, middle, HostAction.ts, Clash]
              | some redirect' => simp [name, middle, HostAction.ts, Clash, and_comm]
          | some redirect =>
              cases redirect' with
              | none => simp [name, middle, HostAction.ts, Clash, and_comm, eq_comm]
              | some redirect' =>
                  simp only [name, middle, HostAction.ts, Clash, joined_eq_iff,
                    shortlinkMint.injEq, Option.some.injEq, true_and]
                  tauto
      | kick | lock | unlock | pinMint => simp [name, Clash]

end Literal

/-- Actions that clash are not the same. -/
theorem Clash.ne {α : Type} {colon : α} {c c' : HostAction (List α)} (h : Clash colon c c') :
    c ≠ c' := by
  rintro rfl
  cases c with
  | kick roomId target ts => exact h.2.elim (fun h => h.first_ne rfl) fun h => h.first_ne rfl
  | lock | unlock | pinMint => exact h
  | shortlinkMint roomId ts redirect =>
      cases redirect with
      | none => exact h
      | some redirect => exact h.2.elim (fun h => h.first_ne rfl) fun h => h.first_ne rfl

end HostAction

/-! ## Payloads and signatures -/

open HostAction

theorem payload_eq_iff (c c' : HostAction CodeUnits) :
    c.payload = c'.payload ↔ c = c' ∨ Clash (unit ':') c c' := by
  rw [payload_eq_layout, payload_eq_layout]
  exact layout_eq_iff_clash literal_unit c c'

theorem signedBytes_eq_iff (c c' : HostAction CodeUnits) :
    c.signedBytes = c'.signedBytes ↔
      c.map scalars = c'.map scalars ∨ Clash ':' (c.map scalars) (c'.map scalars) := by
  unfold signedBytes
  rw [encode_eq_iff, scalars_payload, scalars_payload]
  exact layout_eq_iff_clash literal_id _ _

/-- The signature is accepted for the action under this public key. -/
def Authorizes (H : HostCrypto) (pub : Bytes) (sig : List Char) (c : HostAction CodeUnits) :
    Prop :=
  ∃ bytes, fromBase64url sig = some bytes ∧ H.verify bytes c.signedBytes pub = true

/-- A signature made for one action is accepted for those with the same bytes. -/
theorem authorizes_iff {H : HostCrypto} (hlaws : HostCryptoLaws H) {key : HostKeypair}
    {pub : Bytes} {sig : List Char} {c : HostAction CodeUnits} (hpub : key.signer H = some pub)
    (hsig : signHostAction H key c.payload = .ok sig) (c' : HostAction CodeUnits) :
    Authorizes H pub sig c' ↔ c.signedBytes = c'.signedBytes := by
  have hmade : ∃ bytes, sig = toBase64url bytes ∧ H.verify bytes c.signedBytes pub = true := by
    unfold signHostAction at hsig
    unfold HostKeypair.signer at hpub
    cases hseed : key.privateKeySeed with
    | some seed =>
        rw [hseed] at hsig hpub
        cases hsig
        cases hpub
        exact ⟨_, rfl, hlaws.noble _ _⟩
    | none =>
        rw [hseed] at hsig hpub
        cases hkey : key.privateKey with
        | none =>
            rw [hkey] at hpub
            cases hpub
        | some privateKey =>
            rw [hkey] at hsig hpub
            cases hpub
            dsimp only at hsig
            cases hsubtle : H.subtleSign (encode c.payload) privateKey with
            | error e =>
                rw [hsubtle] at hsig
                cases hsig
            | ok bytes =>
                rw [hsubtle] at hsig
                cases hsig
                exact ⟨bytes, rfl, hlaws.subtle _ _ _ hsubtle⟩
  obtain ⟨bytes, rfl, hverify⟩ := hmade
  constructor
  · rintro ⟨bytes', hbytes, hverify'⟩
    rw [fromBase64url_toBase64url] at hbytes
    cases hbytes
    exact hlaws.single _ _ _ _ hverify hverify'
  · intro heq
    exact ⟨bytes, fromBase64url_toBase64url bytes, heq ▸ hverify⟩


/-- Adding a redirect to a request changes what is signed. -/
theorem signedBytes_redirect_ne (roomId : CodeUnits) (ts : JsInteger) (redirect : CodeUnits) :
    (HostAction.shortlinkMint roomId ts none).signedBytes ≠
      (HostAction.shortlinkMint roomId ts (some redirect)).signedBytes := by
  rw [Ne, signedBytes_eq_iff]
  rintro (heq | ⟨-, hroom⟩)
  · simp [HostAction.map] at heq
  · have hlength := congrArg List.length hroom
    rw [List.length_append, List.length_cons] at hlength
    omega

/-- **Which host actions are told apart**, by their payloads and by the signatures
over them. -/
theorem hostActions_told_apart {H : HostCrypto} (hlaws : HostCryptoLaws H) (key : HostKeypair)
    {pub : Bytes} (hpub : key.signer H = some pub) (c c' : HostAction CodeUnits) :
    ((c.payload = c'.payload → c = c') ↔ ¬ Clash (unit ':') c c') ∧
    (∀ sig, signHostAction H key c.payload = .ok sig →
      ((Authorizes H pub sig c' → c = c') ↔
        ¬ Clash ':' (c.map scalars) (c'.map scalars) ∧
          (c.map scalars = c'.map scalars → c = c'))) ∧
    ∀ roomId ts redirect, (HostAction.shortlinkMint roomId ts none).signedBytes ≠
      (HostAction.shortlinkMint roomId ts (some redirect)).signedBytes := by
  refine ⟨?_, fun sig hsig => ?_, signedBytes_redirect_ne⟩
  · rw [payload_eq_iff]
    constructor
    · exact fun h hclash => hclash.ne (h (Or.inr hclash))
    · rintro hclash (heq | h)
      · exact heq
      · exact absurd h hclash
  · rw [authorizes_iff hlaws hpub hsig, signedBytes_eq_iff]
    constructor
    · exact fun h => ⟨fun hclash => hclash.ne (congrArg _ (h (Or.inr hclash))),
        fun heq => h (Or.inl heq)⟩
    · rintro ⟨hclash, hscalars⟩ (heq | h)
      · exact hscalars heq
      · exact absurd h hclash

/-! ## Samples -/

/-- Signatures that hold the key and the message. -/
def HostCrypto.sample : HostCrypto where
  nobleSign := fun msg seed => seed.bytes ++ msg
  noblePublicKey := fun seed => seed.bytes
  subtleSign := fun msg key => .ok (key.raw ++ msg)
  subtlePublicKey := fun key => key.raw
  verify := fun sig msg pub => sig = pub ++ msg

theorem HostCrypto.sample_laws : HostCryptoLaws .sample where
  noble := fun _ _ => decide_eq_true rfl
  subtle := fun _ _ _ h => by
    cases h
    exact decide_eq_true rfl
  single := fun _ _ _ _ h h' =>
    List.append_cancel_left ((of_decide_eq_true h).symm.trans (of_decide_eq_true h'))

def sampleTs : JsInteger := ⟨1700000000, by decide +kernel, by decide +kernel⟩

def sampleHostKey : HostKeypair := ⟨[], none, some ⟨List.replicate 32 7, rfl⟩⟩

/-- A group room minted with its redirect. -/
def sampleRedirect : HostAction CodeUnits :=
  .shortlinkMint (ascii ['r', '1']) sampleTs (some (ascii ['g', '2']))

/-- A room whose id holds a colon. -/
def sampleRoom : HostAction CodeUnits :=
  .shortlinkMint (ascii ['r', '1', ':', 'g', '2']) sampleTs none

theorem hostActions_told_apart_sample :
    ((sampleRedirect.payload = sampleRoom.payload → sampleRedirect = sampleRoom) ↔
      ¬ Clash (unit ':') sampleRedirect sampleRoom) ∧
    ∀ sig, signHostAction .sample sampleHostKey sampleRedirect.payload = .ok sig →
      ((Authorizes .sample (List.replicate 32 7) sig sampleRoom → sampleRedirect = sampleRoom) ↔
        ¬ Clash ':' (sampleRedirect.map scalars) (sampleRoom.map scalars) ∧
          (sampleRedirect.map scalars = sampleRoom.map scalars →
            sampleRedirect = sampleRoom)) :=
  have h := hostActions_told_apart HostCrypto.sample_laws sampleHostKey rfl
    sampleRedirect sampleRoom
  ⟨h.1, h.2.1⟩

/-- The mint of a room with a redirect is the mint of another room without one. -/
theorem redirect_reads_as_room :
    sampleRedirect.payload = sampleRoom.payload ∧ sampleRedirect ≠ sampleRoom :=
  ⟨by decide +kernel, fun h => nomatch h⟩

end Oxpulse.Identity
