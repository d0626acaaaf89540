import Mathlib.Data.Int.Basic
import Oxpulse.Crypto.Primitives
import Oxpulse.Foundation.InsMap

/-!
# The peer registry

`peer-registry.ts`: peers by the hex form of their id, with the address of the
last sighting. An entry that was not refreshed for longer than the TTL is
dropped at the next tick of the garbage collector.
-/

namespace Oxpulse.Transport

open Oxpulse.Crypto

/-- BLE addresses and hex ids. -/
abbrev DeviceId : Type := String
abbrev PeerIdHex : Type := String

def PEER_ID_BYTES : ℕ := 8

def hexDigit (n : ℕ) : Char := "0123456789abcdef".toList.getD n '0'

def hex (b : Bytes) : String :=
  String.ofList (b.flatMap fun x => [hexDigit (x.toNat / 16), hexDigit (x.toNat % 16)])

/-- The id as bytes, its hex form and the address last seen. -/
structure Peer : Type where
  id : Bytes
  idHex : PeerIdHex
  mac : DeviceId
  lastSeen : ℕ
  rssi : Option ℤ
deriving DecidableEq

structure PeerRegistry : Type where
  byId : InsMap PeerIdHex Peer
  ttlMs : ℕ

namespace PeerRegistry

def new : PeerRegistry := ⟨.empty, 120000⟩

/-- A sighting of a known peer, at this time. -/
def refresh (now : ℕ) (mac : DeviceId) (rssi : Option ℤ) (existing : Peer) : Peer :=
  { existing with
    lastSeen := now
    mac := mac
    rssi := rssi.orElse fun _ => existing.rssi }

def upsert (now : ℕ) (id : Bytes) (mac : DeviceId) (rssi : Option ℤ) (r : PeerRegistry) :
    PeerRegistry :=
  let idHex := hex id
  match r.byId.get? idHex with
  | some existing => { r with byId := r.byId.set idHex (refresh now mac rssi existing) }
  | none => { r with byId := r.byId.set idHex ⟨id, idHex, mac, now, rssi⟩ }

/-- Drop the entries older than the TTL. -/
def gc (now : ℕ) (r : PeerRegistry) : PeerRegistry :=
  { r with byId := r.byId.filter fun _ p => decide (now - p.lastSeen ≤ r.ttlMs) }

def list (r : PeerRegistry) : List Peer := r.byId.values

def clear (r : PeerRegistry) : PeerRegistry := { r with byId := .empty }

end PeerRegistry

end Oxpulse.Transport
