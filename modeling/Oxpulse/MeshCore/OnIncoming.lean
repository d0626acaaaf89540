import Mathlib.Data.Finset.Card
import Oxpulse.Foundation.FirstSeen
import Oxpulse.MeshCore.Dedupe

/-!
# Incoming frames

`onIncoming` (`router.ts`) subscribes a callback to the frames of the transport.
The callback drops a frame that one of the filters has seen, and marks the others
before it calls the handler. As long as the cache has room for the keys of all
frames it holds those of the frames that were delivered (`Remembers`).

The Bloom filter is asked for the message id alone, the cache for the channel
too: with it a subscription gets the same frames as without it only if no message
id is used on two channels (`bloom_agrees_iff`).

A put into the persistent inbox is started between the marks and the handler, and
nothing waits for it; it is left out here.
-/

namespace Oxpulse.MeshCore

open Oxpulse.Crypto

/-! ## Frames -/

/-- `frame.slice(34, 50)` -/
def msgId (frame : Bytes) : Bytes := (frame.drop 34).take 16

/-- `frame.slice(55, 59)` -/
def channelId (frame : Bytes) : Bytes := (frame.drop 55).take 4

def msgIdHex (frame : Bytes) : JsString := bytesToHex (msgId frame)

def channelIdHex (frame : Bytes) : JsString := bytesToHex (channelId frame)

/-- What a frame is told by. -/
def frameKey (frame : Bytes) : Bytes × Bytes := (channelId frame, msgId frame)

/-- What the cache tells it by. -/
def cacheKey (frame : Bytes) : JsString :=
  DedupeCache.key (channelIdHex frame) (msgIdHex frame)

theorem length_channelIdHex {frame : Bytes} (h : 59 ≤ frame.length) :
    (channelIdHex frame).length = 8 := by
  unfold channelIdHex channelId
  rw [length_bytesToHex, List.length_take, List.length_drop]
  omega

theorem cacheKey_eq_iff {frame frame' : Bytes} (h : 59 ≤ frame.length)
    (h' : 59 ≤ frame'.length) :
    cacheKey frame = cacheKey frame' ↔ frameKey frame = frameKey frame' := by
  constructor
  · intro heq
    have hlength := (length_channelIdHex h).trans (length_channelIdHex h').symm
    obtain ⟨hchannel, hmsg⟩ := DedupeCache.key_inj hlength heq
    exact Prod.ext (bytesToHex_injective hchannel) (bytesToHex_injective hmsg)
  · intro heq
    have hchannel : channelId frame = channelId frame' := congrArg Prod.fst heq
    have hmsg : msgId frame = msgId frame' := congrArg Prod.snd heq
    unfold cacheKey channelIdHex msgIdHex
    rw [hchannel, hmsg]

/-! ## The callback -/

/-- The filters after a frame, and whether the handler is called. -/
def onIncoming (frame : Bytes) (dedupe : DedupeCache) (bloom : Option BloomDedup) :
    DedupeCache × Option BloomDedup × Bool :=
  if bloom.any (BloomDedup.hasSeen (msgIdHex frame)) then (dedupe, bloom, false)
  else if dedupe.hasSeen (channelIdHex frame) (msgIdHex frame) then (dedupe, bloom, false)
  else
    (dedupe.markSeen (channelIdHex frame) (msgIdHex frame),
      bloom.map (BloomDedup.markSeen (msgIdHex frame)), true)

/-- The cache holds the keys of these frames, which are among all that come in:
there is room for all of their keys. -/
structure Remembers (all past : List Bytes) (dedupe : DedupeCache) : Prop where
  keys : dedupe.seen.keys = past.map cacheKey
  subset : ∀ frame ∈ past, frame ∈ all
  long : ∀ frame ∈ all, 59 ≤ frame.length
  room : (all.map frameKey).toFinset.card ≤ dedupe.capacity

namespace Remembers

variable {all past : List Bytes} {dedupe : DedupeCache} {frame : Bytes}

theorem hasSeen_iff (h : Remembers all past dedupe) (hframe : frame ∈ all) :
    dedupe.hasSeen (channelIdHex frame) (msgIdHex frame) = true ↔
      frameKey frame ∈ past.map frameKey := by
  rw [DedupeCache.hasSeen_iff, h.keys]
  show cacheKey frame ∈ _ ↔ _
  rw [List.mem_map, List.mem_map]
  refine exists_congr fun frame' => and_congr_right fun hpast => ?_
  exact cacheKey_eq_iff (h.long frame' (h.subset frame' hpast)) (h.long frame hframe)

theorem nodup (h : Remembers all past dedupe) : (past.map frameKey).Nodup := by
  have hkeys : (past.map cacheKey).Nodup := by
    rw [← h.keys]
    exact dedupe.seen.nodup
  rw [List.Nodup, List.pairwise_map] at hkeys ⊢
  refine hkeys.imp_of_mem fun {a b} ha hb hne heq => hne ?_
  exact (cacheKey_eq_iff (h.long a (h.subset a ha)) (h.long b (h.subset b hb))).mpr heq

/-- The cache is never full when a new frame comes in. -/
theorem length_lt (h : Remembers all past dedupe) (hframe : frame ∈ all)
    (hnew : frameKey frame ∉ past.map frameKey) : past.length < dedupe.capacity := by
  have hnodup : (frameKey frame :: past.map frameKey).Nodup := List.nodup_cons.mpr ⟨hnew, h.nodup⟩
  have hsubset : (frameKey frame :: past.map frameKey).toFinset ⊆ (all.map frameKey).toFinset := by
    intro key hkey
    simp only [List.mem_toFinset, List.mem_cons, List.mem_map] at hkey ⊢
    rcases hkey with rfl | ⟨frame', hpast, rfl⟩
    · exact ⟨frame, hframe, rfl⟩
    · exact ⟨frame', h.subset frame' hpast, rfl⟩
  calc past.length
      < (frameKey frame :: past.map frameKey).length := by simp
    _ = (frameKey frame :: past.map frameKey).toFinset.card :=
        (List.toFinset_card_of_nodup hnodup).symm
    _ ≤ (all.map frameKey).toFinset.card := Finset.card_le_card hsubset
    _ ≤ dedupe.capacity := h.room

theorem markSeen (h : Remembers all past dedupe) (hframe : frame ∈ all)
    (hnew : frameKey frame ∉ past.map frameKey) :
    Remembers all (past ++ [frame])
      (dedupe.markSeen (channelIdHex frame) (msgIdHex frame)) where
  keys := by
    have hunseen : dedupe.hasSeen (channelIdHex frame) (msgIdHex frame) = false := by
      rw [← Bool.not_eq_true, h.hasSeen_iff hframe]
      exact hnew
    have hlt : dedupe.seen.keys.length < dedupe.capacity := by
      rw [h.keys, List.length_map]
      exact h.length_lt hframe hnew
    rw [DedupeCache.keys_markSeen hunseen hlt, h.keys, List.map_append]
    rfl
  subset frame' hmem := by
    rcases List.mem_append.mp hmem with hpast | hlast
    · exact h.subset frame' hpast
    · rwa [List.mem_singleton.mp hlast]
  long := h.long
  room := h.room

end Remembers

/-! ## One subscription -/

/-- What a single subscription has: the filters, and the frames that its handler
was called with. -/
structure Incoming : Type where
  dedupe : DedupeCache
  bloom : Option BloomDedup
  delivered : List Bytes

namespace Incoming

/-- The filters are empty. -/
def new (capacity : ℕ) (bloom : Option BloomDedup) : Incoming where
  dedupe := DedupeCache.new capacity
  bloom := bloom
  delivered := []

def receive (s : Incoming) (frame : Bytes) : Incoming :=
  let (dedupe, bloom, accepted) := onIncoming frame s.dedupe s.bloom
  { dedupe, bloom, delivered := if accepted then s.delivered ++ [frame] else s.delivered }

def receiveAll (s : Incoming) (frames : List Bytes) : Incoming := frames.foldl receive s

variable {all frames : List Bytes} {s : Incoming} {frame : Bytes}

/-- Without a Bloom filter a frame is told by its key. -/
theorem receive_none (h : Remembers all s.delivered s.dedupe) (hbloom : s.bloom = none)
    (hframe : frame ∈ all) :
    Remembers all (s.receive frame).delivered (s.receive frame).dedupe ∧
      (s.receive frame).bloom = none ∧
      (s.receive frame).delivered =
        if frameKey frame ∈ s.delivered.map frameKey then s.delivered
        else s.delivered ++ [frame] := by
  have hseen := h.hasSeen_iff hframe
  unfold receive onIncoming
  rw [hbloom, if_neg (by simp)]
  by_cases hkey : frameKey frame ∈ s.delivered.map frameKey
  · rw [if_pos (hseen.mpr hkey), if_pos hkey]
    exact ⟨h, rfl, rfl⟩
  · rw [if_neg (mt hseen.mp hkey), if_neg hkey]
    exact ⟨h.markSeen hframe hkey, rfl, rfl⟩

theorem receiveAll_none (h : Remembers all s.delivered s.dedupe) (hbloom : s.bloom = none)
    (hframes : ∀ frame ∈ frames, frame ∈ all) :
    (s.receiveAll frames).delivered =
      s.delivered ++ firstsFrom frameKey s.delivered frames := by
  induction frames generalizing s with
  | nil => exact (List.append_nil _).symm
  | cons frame frames ih =>
      obtain ⟨hkeeps, hnone, hdelivered⟩ := receive_none h hbloom
        (hframes frame List.mem_cons_self)
      have hrest := ih hkeeps hnone fun frame' hmem => hframes frame' (List.mem_cons_of_mem _ hmem)
      show ((s.receive frame).receiveAll frames).delivered = _
      rw [hrest, hdelivered, firstsFrom_cons]
      split
      next => rfl
      next => exact List.append_assoc ..

/-- What the handler was called with is marked in the Bloom filter. -/
def Marked (s : Incoming) (bloom : BloomDedup) : Prop :=
  s.bloom = some bloom ∧ ∀ frame ∈ s.delivered, bloom.hasSeen (msgIdHex frame) = true

/-- With a Bloom filter that says nothing wrong a frame is told by its message
id. -/
theorem receive_some {bloom : BloomDedup} (h : Remembers all s.delivered s.dedupe)
    (hbloom : s.Marked bloom) (hframe : frame ∈ all)
    (hexact : bloom.hasSeen (msgIdHex frame) = true → ∃ g ∈ s.delivered, msgId g = msgId frame) :
    Remembers all (s.receive frame).delivered (s.receive frame).dedupe ∧
      (∃ bloom', (s.receive frame).Marked bloom') ∧
      (s.receive frame).delivered =
        if msgId frame ∈ s.delivered.map msgId then s.delivered
        else s.delivered ++ [frame] := by
  have hseen : bloom.hasSeen (msgIdHex frame) = true ↔ msgId frame ∈ s.delivered.map msgId := by
    rw [List.mem_map]
    constructor
    · exact hexact
    · rintro ⟨g, hg, heq⟩
      have hmark := hbloom.2 g hg
      unfold msgIdHex at hmark ⊢
      rwa [heq] at hmark
  by_cases hmsg : msgId frame ∈ s.delivered.map msgId
  · have hreceive : s.receive frame = s := by
      unfold receive onIncoming
      rw [hbloom.1, Option.any_some, if_pos (hseen.mpr hmsg)]
      show (⟨s.dedupe, some bloom, s.delivered⟩ : Incoming) = s
      rw [← hbloom.1]
    rw [hreceive, if_pos hmsg]
    exact ⟨h, ⟨bloom, hbloom⟩, rfl⟩
  · have hkey : frameKey frame ∉ s.delivered.map frameKey := by
      intro hmem
      obtain ⟨g, hg, heq⟩ := List.mem_map.mp hmem
      exact hmsg (List.mem_map.mpr ⟨g, hg, congrArg Prod.snd heq⟩)
    have hreceive : s.receive frame =
        ⟨s.dedupe.markSeen (channelIdHex frame) (msgIdHex frame),
          some (bloom.markSeen (msgIdHex frame)), s.delivered ++ [frame]⟩ := by
      unfold receive onIncoming
      rw [hbloom.1, Option.any_some, if_neg (mt hseen.mp hmsg),
        if_neg (mt (h.hasSeen_iff hframe).mp hkey)]
      rfl
    rw [hreceive, if_neg hmsg]
    refine ⟨h.markSeen hframe hkey, ⟨_, rfl, fun g hg => ?_⟩, rfl⟩
    rcases List.mem_append.mp hg with hg | hg
    · exact BloomDedup.hasSeen_markSeen_of_hasSeen (hbloom.2 g hg)
    · rw [List.mem_singleton.mp hg]
      exact BloomDedup.hasSeen_markSeen bloom _

/-- Whenever a frame comes in, its message id is found in the Bloom filter only
if it was marked, with a frame before. -/
def NoFalsePositive (s : Incoming) (frames : List Bytes) : Prop :=
  ∀ pre frame post, frames = pre ++ frame :: post →
    ∀ bloom, (s.receiveAll pre).bloom = some bloom → bloom.hasSeen (msgIdHex frame) = true →
      ∃ g ∈ (s.receiveAll pre).delivered, msgId g = msgId frame

theorem receiveAll_some {bloom : BloomDedup} (h : Remembers all s.delivered s.dedupe)
    (hbloom : s.Marked bloom) (hframes : ∀ frame ∈ frames, frame ∈ all)
    (hexact : s.NoFalsePositive frames) :
    (s.receiveAll frames).delivered = s.delivered ++ firstsFrom msgId s.delivered frames := by
  induction frames generalizing s bloom with
  | nil => exact (List.append_nil _).symm
  | cons frame frames ih =>
      obtain ⟨hkeeps, ⟨bloom', hbloom'⟩, hdelivered⟩ := receive_some h hbloom
        (hframes frame List.mem_cons_self) (hexact [] frame frames rfl bloom hbloom.1)
      have hexact' : (s.receive frame).NoFalsePositive frames := by
        rintro pre frame' post rfl
        exact hexact (frame :: pre) frame' post rfl
      have hrest := ih hkeeps hbloom'
        (fun frame' hmem => hframes frame' (List.mem_cons_of_mem _ hmem)) hexact'
      show ((s.receive frame).receiveAll frames).delivered = _
      rw [hrest, hdelivered, firstsFrom_cons]
      split
      next => rfl
      next => exact List.append_assoc ..

end Incoming

/-- **The Bloom filter agrees with the cache** on a stream with fewer keys than
the cache holds, if and only if no message id in the stream is used on two
channels. -/
theorem bloom_agrees_iff {capacity m k : ℕ} (hm : 0 < m) {frames : List Bytes}
    (hlong : ∀ frame ∈ frames, 59 ≤ frame.length)
    (hfew : (frames.map frameKey).toFinset.card < capacity)
    (hexact : (Incoming.new capacity (some (.new m k hm))).NoFalsePositive frames) :
    ((Incoming.new capacity (some (.new m k hm))).receiveAll frames).delivered =
        ((Incoming.new capacity none).receiveAll frames).delivered ↔
      ∀ frame ∈ frames, ∀ frame' ∈ frames, msgId frame = msgId frame' →
        channelId frame = channelId frame' := by
  have hempty : Remembers frames [] (DedupeCache.new capacity) :=
    ⟨rfl, fun _ hmem => absurd hmem List.not_mem_nil, hlong, hfew.le⟩
  have hbloom : (Incoming.new capacity (some (.new m k hm))).Marked (.new m k hm) :=
    ⟨rfl, fun _ hmem => absurd hmem List.not_mem_nil⟩
  have hsome := Incoming.receiveAll_some (s := .new capacity (some (.new m k hm))) hempty hbloom
    (fun _ hmem => hmem) hexact
  have hnone := Incoming.receiveAll_none (s := .new capacity none) hempty rfl
    (fun _ hmem => hmem)
  rw [hsome, hnone]
  show firsts msgId frames = firsts frameKey frames ↔ _
  have hrefines : ∀ frame ∈ frames, ∀ frame' ∈ frames, frameKey frame = frameKey frame' →
      msgId frame = msgId frame' := fun _ _ _ _ heq => congrArg Prod.snd heq
  rw [eq_comm, firsts_eq_iff hrefines]
  constructor
  · intro h frame hframe frame' hframe' heq
    exact congrArg Prod.fst (h frame hframe frame' hframe' heq)
  · intro h frame hframe frame' hframe' heq
    exact Prod.ext (h frame hframe frame' hframe' heq) heq

/-- A frame of a channel, with the same message id for all. -/
def frameOn (channel : UInt8) : Bytes := List.replicate 55 7 ++ [channel, 0, 0, 0]

theorem noFalsePositive_sample (channel : UInt8) :
    (Incoming.new 5000 (some (.new 64 2 (by decide)))).NoFalsePositive
      [frameOn 1, frameOn channel] := by
  have hempty : (BloomDedup.new 64 2 (by decide)).hasSeen (msgIdHex (frameOn 1)) = false := by
    decide +kernel
  have hfirst : ((Incoming.new 5000 (some (.new 64 2 (by decide)))).receiveAll
      [frameOn 1]).delivered = [frameOn 1] := by
    decide +kernel
  intro pre frame post heq bloom hbloom hseen
  rcases pre with _ | ⟨first, _ | ⟨second, pre⟩⟩
  · cases heq
    cases hbloom
    rw [hempty] at hseen
    cases hseen
  · cases heq
    rw [hfirst]
    exact ⟨frameOn 1, List.mem_singleton_self _, rfl⟩
  · simp at heq

/-- The frame comes in twice. -/
theorem bloom_agrees_iff_sample :
    ((Incoming.new 5000 (some (.new 64 2 (by decide)))).receiveAll
        [frameOn 1, frameOn 1]).delivered =
      ((Incoming.new 5000 none).receiveAll [frameOn 1, frameOn 1]).delivered := by
  refine (bloom_agrees_iff (by decide) (by decide) (by decide +kernel)
    (noFalsePositive_sample 1)).mpr ?_
  decide

/-- One message id on two channels: the Bloom filter drops the second frame. -/
theorem bloom_drops_other_channel :
    ¬ ∀ frames : List Bytes, (∀ frame ∈ frames, 59 ≤ frame.length) →
      (frames.map frameKey).toFinset.card < 5000 →
      (Incoming.new 5000 (some (.new 64 2 (by decide)))).NoFalsePositive frames →
      ((Incoming.new 5000 (some (.new 64 2 (by decide)))).receiveAll frames).delivered =
        ((Incoming.new 5000 none).receiveAll frames).delivered := by
  intro h
  have heq := h [frameOn 1, frameOn 2] (by decide) (by decide +kernel) (noFalsePositive_sample 2)
  have hlength := congrArg List.length heq
  revert hlength
  decide +kernel

end Oxpulse.MeshCore
