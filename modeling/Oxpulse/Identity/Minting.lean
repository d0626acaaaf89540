import Oxpulse.Identity.MintSteps
import Oxpulse.Identity.Restore

/-!
# First-use minting

The Noise keypair, the profile seed and the room-host seed are minted by the first call
that finds no row, and nothing keeps two calls from finding none both: there is no
in-flight slot, and the second write replaces the first. When first calls for one secret
do not overlap, all calls get one secret and so does every later session; the two calls
at the end of the module overlap and get two.
-/

namespace Oxpulse.Identity

open Oxpulse.Coroutine Oxpulse.Crypto Pool

/-- **A storage to load from**: what is stored is wrapped under the KEK of its store,
and a store without a KEK has no row. -/
structure Loadable (P : IdentityPrimitives) (storage : Storage) : Prop where
  keypair : (∃ key, Resolves key storage ∧ ∀ row, storage.x25519Keypair = some row →
      ∃ scalar, KeypairRow P key.raw scalar row) ∨
    (storage.kek = none ∧ NoLegacy storage ∧ storage.x25519Keypair = none)
  roomHost : (∃ key value, storage.roomHostWrappingKey = some value ∧ value.Holds key ∧
      ∀ wrapped, storage.roomHostSeed = some wrapped → ∃ seed, wrapped = P.aesKwWrap key.raw seed) ∨
    (storage.roomHostWrappingKey = none ∧ storage.roomHostSeed = none)

/-- The row of the secret is stored, and the runtime can use it. -/
def Stored (env : Runtime) (secret : Secret) (t : Tab) : Prop :=
  MintReady env secret (mintPart secret t)

/-- **First calls do not overlap**: a call starts when no other one for its secret is
pending, or when the row is stored. -/
def FirstCallsApart (env : Runtime) (p : Pool Secret PlatformReply Tab IdentityError Material) :
    Move Secret PlatformReply → Prop
  | .start secret =>
      (∀ (i : ℕ) k, p.calls[i]? ≠ some ⟨secret, .pending k⟩) ∨ Stored env secret p.shared
  | .resume _ _ => True

/-- **One secret**: every call resolves, all with one material, and a page that is
loaded over the storage loads it. -/
structure SingleValued (P : IdentityPrimitives) (env : Runtime) (secret : Secret)
    (p : Pool Secret PlatformReply Tab IdentityError Material) : Prop where
  /-- a call that is pending resolves when it is resumed to its end -/
  resolves : ∀ (i : ℕ) k r, p.calls[i]? = some ⟨secret, .pending k⟩ →
    ∃ v, ((k r p.shared).run r).2 = .ok v
  single : ∃ v, ∀ (i : ℕ) x, p.calls[i]? = some ⟨secret, .settled x⟩ → x = .ok v ∧
    Co.Triple Alone Anything (fun _ x => x = .ok v) (mint P env secret) (page p.shared.storage)

section

variable {P : IdentityPrimitives} {env : Runtime} {calls : Prop} {storage : Storage}

/-- What is built is built for a page that is loaded anew. -/
theorem mintBuilt_page : ∀ secret (x : MintedSecret secret) (t : Tab),
    MintBuilt P env secret x (mintPart secret t) →
      MintBuilt P env secret x (mintPart secret (page t.storage))
  | .x25519Keypair, _, _, (h : KeypairBuilt P env _ _) =>
      ⟨h.legacy, ⟨h.kek.entry, eq_of_eq_none rfl⟩, h.row, h.isRow, h.usable, eq_of_eq_none rfl⟩
  | .profileSeed, _, _, (h : ProfileBuilt _ _) => ⟨h.row, eq_of_eq_none rfl⟩
  | .roomHostSeed, _, _, (h : RoomHostBuilt P _ _) =>
      ⟨⟨h.kek.entry, eq_of_eq_none rfl⟩, h.row, eq_of_eq_none rfl⟩

theorem page_available (storage : Storage) : (page storage).Available env := by
  rintro - c ⟨⟩

theorem mint_builds (laws : AesKwLaws P) (hhealthy : ∀ db, Healthy env db) :
    ∀ secret, (secret = .x25519Keypair → calls) →
      (mintParts laws env calls).Builds secret (mint P env secret)
  | .x25519Keypair, hcalls =>
      getOrCreateX25519Keypair_builds laws (hcalls rfl) (hhealthy .identity) (hhealthy .kek)
  | .profileSeed, _ => getOrCreateProfileSeed_builds laws (hhealthy .identity)
  | .roomHostSeed, _ => getOrCreateRoomHostSeed_builds laws (hhealthy .roomHost)

/-- A page over a storage to load from is where calls may begin. -/
theorem page_first (laws : AesKwLaws P) (hstorage : Loadable P storage)
    (hmintable : calls → Mintable env ∨ Stored env .x25519Keypair (page storage)) :
    ∀ secret, (mintParts laws env calls).first secret (mintPart secret (page storage)) ∨
      (mintParts laws env calls).Built secret (page storage)
  | .x25519Keypair => by
      by_cases hstored : Stored env .x25519Keypair (page storage)
      · obtain ⟨row, hrow, husable⟩ := hstored
        have hrow' : storage.x25519Keypair = some row := hrow
        rcases hstorage.keypair with ⟨key, hkey, hrows⟩ | ⟨-, -, hnone⟩
        · obtain ⟨scalar, hkeypair⟩ := hrows row hrow'
          exact Or.inr ⟨⟨key, storage.legacyWrappingKey, scalar, row⟩, rfl,
            ⟨hkey, eq_of_eq_none rfl⟩, hrow, hkeypair, husable, eq_of_eq_none rfl⟩
        · rw [hnone] at hrow'
          cases hrow'
      · have hmint := fun hcalls => (hmintable hcalls).resolve_right hstored
        refine Or.inl ⟨storage.legacyWrappingKey, ?_⟩
        rcases hstorage.keypair with ⟨key, hkey, hrows⟩ | ⟨hkek, hlegacy, hrow⟩
        · refine Or.inr ⟨key, hmint, rfl, ⟨hkey, eq_of_eq_none rfl⟩, fun row hrow => ?_, rfl⟩
          exact ⟨fun husable => hstored ⟨row, hrow, husable⟩, hrows row hrow⟩
        · exact Or.inl ⟨hmint, rfl, ⟨hkek, hlegacy, rfl, by rintro b ⟨⟩⟩, hrow, rfl⟩
  | .profileSeed => by
      cases hrow : storage.profileSeed with
      | none => exact Or.inl ⟨hrow, rfl⟩
      | some seed => exact Or.inr ⟨seed, hrow, eq_of_eq_none rfl⟩
  | .roomHostSeed => by
      rcases hstorage.roomHost with ⟨key, value, hkey, hholds, hrows⟩ | ⟨hkek, hrow⟩
      · have hready : (mintPart .roomHostSeed (page storage) : RoomHostPart).kek.Ready key :=
          ⟨Or.inl ⟨value, hkey, hholds⟩, eq_of_eq_none rfl⟩
        cases hrow : storage.roomHostSeed with
        | none => exact Or.inl (Or.inr ⟨key, hready, hrow, rfl⟩)
        | some wrapped =>
            obtain ⟨seed, rfl⟩ := hrows wrapped hrow
            exact Or.inr ⟨⟨key, seed⟩, hready, hrow, eq_of_eq_none rfl⟩
      · exact Or.inl (Or.inl ⟨⟨hkek, by rintro value ⟨⟩, rfl, by rintro b ⟨⟩⟩, hrow, rfl⟩)

/-- A page over what is built loads it. -/
theorem mint_loads (laws : AesKwLaws P) (hhealthy : ∀ db, Healthy env db) {secret : Secret}
    {x : MintedSecret secret} {t : Tab} (hx : MintBuilt P env secret x (mintPart secret t)) :
    Co.Triple Alone Anything (fun _ r => r = .ok (mintedMaterial env secret x))
      (mint P env secret) (page t.storage) := by
  have hpage := mintBuilt_page secret x t hx
  have hbuilds : (mintParts laws env True).Builds secret (mint P env secret) :=
    mint_builds laws hhealthy secret fun _ => trivial
  have hload := hbuilds (page t.storage) (page_available _) (Or.inr ⟨x, hpage⟩)
  have hkept := hload.keeps (fun t => MintBuilt P env secret x (mintPart secret t))
    (fun _ _ h hG => hG.keeps x h) (fun _ _ h hR => hR.keeps x h) hpage
  have halone : ∀ t t', Alone t t' → (mintParts laws env True).Rely secret t t' := by
    rintro t _ rfl
    exact .refl
  refine ((hkept.assume fun _ _ h hR => hR.keeps x h).rely halone).mono (fun _ _ _ => trivial) ?_
  rintro t r ⟨hx', -, y, hy, hr⟩
  obtain rfl := mintBuilt_unique laws secret x y _ hx' hy
  exact hr

end

/-- **First-use minting is single-valued when first calls do not overlap**, on a runtime
that can mint or finds the keypair when that is called for. -/
theorem mint_singleValued {P : IdentityPrimitives} (laws : AesKwLaws P) {env : Runtime}
    (hhealthy : ∀ db, Healthy env db) {storage : Storage} (hstorage : Loadable P storage)
    (ms : List (Move Secret PlatformReply))
    (hmintable : .x25519Keypair ∈ starts ms →
      Mintable env ∨ Stored env .x25519Keypair (page storage))
    (hapart : Permitted (mint P env) (FirstCallsApart env) (fresh (page storage)) ms)
    (secret : Secret) :
    SingleValued P env secret ((fresh (page storage)).exec (mint P env) ms) := by
  have horderly : Permitted (mint P env)
      (StartsAlone (mintParts laws env (.x25519Keypair ∈ starts ms)) id) (fresh (page storage))
      ms := by
    intro pre m post heq
    cases m with
    | resume i r => trivial
    | start secret =>
        rcases hapart pre _ post heq with hnone | hstored
        · refine Or.inl ?_
          rintro i ⟨a, k, hi, rfl⟩
          exact hnone i k hi
        · exact Or.inr hstored
  have hphased := exec_phased (page_available storage) (page_first laws hstorage hmintable) horderly
    fun secret hsecret => mint_builds laws hhealthy secret fun h => h ▸ hsecret
  constructor
  · intro i k r hi
    obtain ⟨-, x, -, hvalue⟩ :=
      (hphased.pending i secret k hi r _ .refl).run (fun _ => Parts.Rely.refl) r
    exact ⟨_, hvalue⟩
  · by_cases hbuilt : (mintParts laws env (.x25519Keypair ∈ starts ms)).Built secret
        ((fresh (page storage)).exec (mint P env) ms).shared
    · obtain ⟨x, hx⟩ := hbuilt
      refine ⟨mintedMaterial env secret x, fun i r hi => ?_⟩
      obtain ⟨-, y, hy, hr⟩ := hphased.settled i secret r hi
      obtain rfl := mintBuilt_unique laws secret x y _ hx hy
      exact ⟨hr, mint_loads laws hhealthy hx⟩
    · refine ⟨.seed [], fun i r hi => ?_⟩
      obtain ⟨-, y, hy, -⟩ := hphased.settled i secret r hi
      exact absurd ⟨y, hy⟩ hbuilt

/-- What the platform brings at every step, with these random bytes. -/
def sampleReply (b : UInt8) : PlatformReply := ⟨0, sampleKey b, none, none⟩

theorem empty_loadable : Loadable samplePrimitives Storage.empty := by
  constructor
  · exact Or.inr ⟨rfl, by rintro value ⟨⟩, rfl⟩
  · exact Or.inr ⟨rfl, rfl⟩

/-- A first call for the profile seed, and a second one when the row is stored. -/
def apartCalls : List (Move Secret PlatformReply) :=
  .start .profileSeed :: List.replicate 7 (.resume 0 (sampleReply 1)) ++ [.start .profileSeed]

theorem apartCalls_permitted :
    Permitted (mint samplePrimitives (sampleRuntime true)) (FirstCallsApart (sampleRuntime true))
      (fresh (page Storage.empty)) apartCalls := by
  refine .cons (Or.inl fun i k hi => by cases hi) ?_
  iterate 7 refine .cons trivial ?_
  refine .cons (Or.inr ?_) .nil
  have hstored : ((fresh (page Storage.empty)).exec (mint samplePrimitives (sampleRuntime true))
      (apartCalls.take 8)).shared.storage.profileSeed ≠ none := by decide +kernel
  exact hstored

theorem mint_singleValued_sample :
    SingleValued samplePrimitives (sampleRuntime true) .profileSeed
      ((fresh (page Storage.empty)).exec (mint samplePrimitives (sampleRuntime true)) apartCalls) :=
  mint_singleValued samplePrimitives_laws (fun _ => ⟨rfl, rfl⟩) empty_loadable apartCalls
    (fun h => absurd h (by decide)) apartCalls_permitted .profileSeed

/-- Both calls for the profile seed have loaded before one of them saves. -/
def overlappingCalls : List (Move Secret PlatformReply) :=
  [.start .profileSeed, .start .profileSeed] ++ List.replicate 4 (.resume 0 (sampleReply 1)) ++
    List.replicate 9 (.resume 1 (sampleReply 2)) ++ List.replicate 5 (.resume 0 (sampleReply 1))

/-- Two first calls that overlap resolve with two seeds, on a new device where everything
works. -/
theorem mint_overlapping :
    ¬ ∀ (env : Runtime) (storage : Storage) (ms : List (Move Secret PlatformReply)),
        (∀ db, Healthy env db) → Loadable samplePrimitives storage →
        (.x25519Keypair ∈ starts ms → Mintable env ∨ Stored env .x25519Keypair (page storage)) →
        ∀ secret, SingleValued samplePrimitives env secret
          ((fresh (page storage)).exec (mint samplePrimitives env) ms) := by
  intro h
  have hsingle := h (sampleRuntime true) Storage.empty overlappingCalls (fun _ => ⟨rfl, rfl⟩)
    empty_loadable (fun h => absurd h (by decide)) .profileSeed
  obtain ⟨v, hv⟩ := hsingle.single
  have hfirst : ((fresh (page Storage.empty)).exec (mint samplePrimitives (sampleRuntime true))
      overlappingCalls).calls[0]? = some ⟨.profileSeed, .settled (.ok (.seed (sampleKey 1).bytes))⟩ :=
    exec_resolved rfl (by decide +kernel)
  have hsecond : ((fresh (page Storage.empty)).exec (mint samplePrimitives (sampleRuntime true))
      overlappingCalls).calls[1]? = some ⟨.profileSeed, .settled (.ok (.seed (sampleKey 2).bytes))⟩ :=
    exec_resolved rfl (by decide +kernel)
  have heq := (hv 0 _ hfirst).1.trans (hv 1 _ hsecond).1.symm
  revert heq
  decide

end Oxpulse.Identity
