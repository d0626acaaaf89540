import Mathlib.Algebra.Order.Round
import Mathlib.Analysis.SpecialFunctions.Log.Basic
import Oxpulse.MeshCore.Dedupe

/-!
# Bloom filters in a database

A `BloomDedup` works on a copy of the filter: `open` reads the row of the database,
or starts anew when the row has other parameters, and `flush` asks for a put of the
whole copy. A row is the filter that it was written from.

`BloomHost` is the database with all the instances over it. `open` suspends twice: until
the database is there, which sets `db`, and until the row is read, which sets `bits`.
Between the two the instance has a database and the bits of an earlier `open`, or none;
without bits `markSeen` throws, and `flush` puts a row that has none. Reads and puts are
transactions; they take effect in the order in which they were asked for.
-/

namespace Oxpulse.MeshCore

/-! ## One filter -/

/-- The numbers of bits and of probes. -/
structure BloomParams : Type where
  m : ℕ
  k : ℕ
  m_pos : 0 < m
  k_pos : 0 < k
deriving DecidableEq

/-- Without the rounding of floating point. -/
noncomputable def paramsFor (capacity fpRate : ℝ) (hcapacity : 1 ≤ capacity) (hpos : 0 < fpRate)
    (hlt : fpRate < 1) : BloomParams where
  m := ⌈-(capacity * Real.log fpRate) / Real.log (2 : ℕ) ^ 2⌉₊
  k := (max 1 (round (⌈-(capacity * Real.log fpRate) / Real.log (2 : ℕ) ^ 2⌉₊ / capacity *
    Real.log (2 : ℕ)))).toNat
  m_pos := by
    have hlog : Real.log fpRate < 0 := Real.log_neg hpos hlt
    have htwo : 0 < Real.log (2 : ℕ) := Real.log_pos (Nat.one_lt_cast.mpr one_lt_two)
    have hcap : 0 < capacity := lt_of_lt_of_le one_pos hcapacity
    rw [Nat.ceil_pos]
    exact div_pos (neg_pos.mpr (mul_neg_of_pos_of_neg hcap hlog)) (pow_pos htwo 2)
  k_pos := by
    rw [Int.lt_toNat]
    exact lt_of_lt_of_le Int.zero_lt_one (le_max_left _ _)

namespace BloomDedup

/-- The filter has these parameters. -/
def IsFor (p : BloomParams) (bloom : BloomDedup) : Prop := bloom.m = p.m ∧ bloom.k = p.k

instance (p : BloomParams) (bloom : BloomDedup) : Decidable (bloom.IsFor p) :=
  inferInstanceAs (Decidable (_ ∧ _))

/-- `g` has the parameters of `f`, and all its bits. -/
structure Grown (f g : BloomDedup) : Prop where
  m : g.m = f.m
  k : g.k = f.k
  bits : ∀ bit, hasBit f.bits bit = true → hasBit g.bits bit = true

/-- All bits of `f`, if they are of any use to `g`. -/
def Within (f g : BloomDedup) : Prop :=
  f.m = g.m → f.k = g.k → ∀ bit, hasBit f.bits bit = true → hasBit g.bits bit = true

variable {f g h : BloomDedup} {p : BloomParams} {msgId : JsString}

theorem Grown.refl (f : BloomDedup) : f.Grown f := ⟨rfl, rfl, fun _ hbit => hbit⟩

theorem Grown.trans (hfg : f.Grown g) (hgh : g.Grown h) : f.Grown h :=
  ⟨hgh.m.trans hfg.m, hgh.k.trans hfg.k, fun bit hbit => hgh.bits bit (hfg.bits bit hbit)⟩

theorem grown_markSeen (f : BloomDedup) (msgId : JsString) : f.Grown (f.markSeen msgId) :=
  ⟨rfl, rfl, fun _ hbit => hasBit_foldl hbit⟩

theorem Grown.hasSeen (hgrown : f.Grown g) (hseen : f.hasSeen msgId = true) :
    g.hasSeen msgId = true := by
  unfold BloomDedup.hasSeen at *
  rw [List.all_eq_true] at hseen ⊢
  rw [hgrown.m, hgrown.k]
  exact fun bit hbit => hgrown.bits bit (hseen bit hbit)

theorem Grown.isFor (hgrown : f.Grown g) (hf : f.IsFor p) : g.IsFor p :=
  ⟨hgrown.m.trans hf.1, hgrown.k.trans hf.2⟩

/-- Filters with the same parameters are for the same ones. -/
theorem IsFor.alike {q : BloomParams} (hf : f.IsFor q) (hg : g.IsFor q) (h : f.IsFor p) :
    g.IsFor p :=
  ⟨hg.1.trans (hf.1.symm.trans h.1), hg.2.trans (hf.2.symm.trans h.2)⟩

theorem Within.refl (f : BloomDedup) : f.Within f := fun _ _ _ hbit => hbit

theorem Within.trans_grown (hfg : f.Within g) (hgh : g.Grown h) : f.Within h :=
  fun hm hk bit hbit => hgh.bits bit (hfg (hm.trans hgh.m) (hk.trans hgh.k) bit hbit)

theorem Within.grown (hfg : f.Within g) (hf : f.IsFor p) (hg : g.IsFor p) : f.Grown g :=
  ⟨hg.1.trans hf.1.symm, hg.2.trans hf.2.symm,
    hfg (hf.1.trans hg.1.symm) (hf.2.trans hg.2.symm)⟩

end BloomDedup

open BloomDedup

/-! ## Rows -/

/-- A row has the filter that it was put from, or its parameters alone if there were no
bits. -/
inductive BloomRow : Type where
  | bits (f : BloomDedup)
  | noBits (p : BloomParams)

namespace BloomRow

/-- What an instance with these bits puts. -/
def ofFilter (p : BloomParams) : Option BloomDedup → BloomRow
  | some f => .bits f
  | none => .noBits p

def IsFor (p : BloomParams) : BloomRow → Prop
  | .bits f => f.IsFor p
  | .noBits q => q.m = p.m ∧ q.k = p.k

def filter : BloomRow → Option BloomDedup
  | .bits f => some f
  | .noBits _ => none

variable {p q : BloomParams} {row : BloomRow} {f : BloomDedup}

theorem ofFilter_isFor {filter : Option BloomDedup} (h : ∀ f, filter = some f → f.IsFor p) :
    (ofFilter p filter).IsFor p := by
  cases filter with
  | none => exact ⟨rfl, rfl⟩
  | some f => exact h f rfl

/-- Rows with the same parameters are for the same ones. -/
theorem IsFor.alike {r s : BloomRow} (hr : r.IsFor q) (hs : s.IsFor q) (h : r.IsFor p) :
    s.IsFor p := by
  cases r with
  | bits f =>
      cases s with
      | bits g => exact BloomDedup.IsFor.alike hr hs h
      | noBits q' => exact ⟨hs.1.trans (hr.1.symm.trans h.1), hs.2.trans (hr.2.symm.trans h.2)⟩
  | noBits q' =>
      cases s with
      | bits g => exact ⟨hs.1.trans (hr.1.symm.trans h.1), hs.2.trans (hr.2.symm.trans h.2)⟩
      | noBits q' => exact ⟨hs.1.trans (hr.1.symm.trans h.1), hs.2.trans (hr.2.symm.trans h.2)⟩

theorem filter_eq_some (h : row.filter = some f) : row = .bits f := by
  cases row with
  | bits g => exact congrArg _ (Option.some.inj h)
  | noBits q => cases h

end BloomRow

/-- What `open` makes of the row: bits of other parameters are of no use. -/
def load (p : BloomParams) : Option BloomRow → Option (Option BloomDedup)
  | none => some (some (.new p.m p.k p.m_pos))
  | some (.bits f) => some (some (if f.IsFor p then f else .new p.m p.k p.m_pos))
  -- the warning about other parameters reads the length of the bits, and throws
  | some (.noBits q) => if q.m = p.m ∧ q.k = p.k then some none else none

section Load

variable {p : BloomParams} {row : Option BloomRow} {f g : BloomDedup}

theorem load_bits (h : f.IsFor p) : load p (some (.bits f)) = some (some f) := by
  simp [load, h]

/-- What an instance put, it loads again. -/
theorem load_ofFilter {filter : Option BloomDedup} (h : ∀ f, filter = some f → f.IsFor p) :
    load p (some (.ofFilter p filter)) = some filter := by
  cases filter with
  | none => simp [BloomRow.ofFilter, load]
  | some f => exact load_bits (h f rfl)

theorem load_isFor (h : load p row = some (some f)) : f.IsFor p := by
  unfold load at h
  split at h
  next =>
    cases h
    exact ⟨rfl, rfl⟩
  next g =>
    cases h
    split
    next hfor => exact hfor
    next => exact ⟨rfl, rfl⟩
  next q =>
    split at h
    · cases h
    · cases h

/-- The bits of the row are in what is loaded, if they are of any use there. -/
theorem within_load (h : load p (some (.bits f)) = some (some g)) : f.Within g := by
  intro hm hk bit hbit
  obtain ⟨hm', hk'⟩ := load_isFor h
  rw [load_bits ⟨hm.trans hm', hk.trans hk'⟩] at h
  cases h
  exact hbit

/-- A row with bits loads. -/
theorem exists_load (p : BloomParams) (h : ∀ r ∈ row, ∃ f, r = .bits f) :
    ∃ g, load p row = some (some g) := by
  cases row with
  | none => exact ⟨_, rfl⟩
  | some r =>
      obtain ⟨f, rfl⟩ := h r rfl
      exact ⟨_, rfl⟩

end Load

/-! ## The database and its instances -/

structure BloomInstance : Type where
  /-- `db` is set -/
  db : Bool
  /-- how many calls of `open` wait for the database -/
  connecting : ℕ
  /-- `bits`, unless undefined -/
  filter : Option BloomDedup
  /-- a call of `open` has resolved since `db` was set; no step reads it -/
  ready : Bool

/-- A transaction: the read of an `open`, or the put of a `flush`. -/
inductive BloomTx : Type where
  | read (i : ℕ)
  | put (row : BloomRow)

def BloomTx.row : BloomTx → Option BloomRow
  | .read _ => none
  | .put row => some row

structure BloomHost : Type where
  row : Option BloomRow
  /-- the transactions that wait, in order -/
  queue : List BloomTx
  instances : ℕ → BloomInstance

inductive BloomCall : Type where
  /-- `open` is called -/
  | opens (i : ℕ)
  /-- a call of `open` gets its database -/
  | connected (i : ℕ)
  /-- it gets none, and rejects -/
  | refused (i : ℕ)
  | close (i : ℕ)
  | markSeen (i : ℕ) (msgId : JsString)
  | flush (i : ℕ)
  /-- the first transaction that waits takes effect; with its read `open` settles -/
  | commit
  /-- it fails -/
  | abort
deriving DecidableEq

/-- The call ends the wait of a transaction. -/
def BloomCall.settles : BloomCall → Bool
  | .commit => true
  | .abort => true
  | _ => false

namespace BloomHost

/-- An empty database. -/
def new : BloomHost := ⟨none, [], fun _ => ⟨false, 0, none, false⟩⟩

def setInstance (i : ℕ) (bloom : BloomInstance) (host : BloomHost) : BloomHost :=
  { host with instances := Function.update host.instances i bloom }

/-- The transaction is asked for. -/
def enqueue (tx : BloomTx) (host : BloomHost) : BloomHost := { host with queue := host.queue ++ [tx] }

variable (params : ℕ → BloomParams)

/-- The transaction takes effect. -/
def perform (tx : BloomTx) (host : BloomHost) : BloomHost :=
  match tx with
  | .read i =>
      match load (params i) host.row with
      | some filter => host.setInstance i { host.instances i with filter, ready := true }
      | none => host
  | .put row => { host with row := some row }

def step (host : BloomHost) : BloomCall → BloomHost
  | .opens i =>
      let bloom := host.instances i
      if bloom.db then host
      else host.setInstance i { bloom with connecting := bloom.connecting + 1 }
  | .connected i =>
      let bloom := host.instances i
      if bloom.connecting = 0 then host
      else
        (host.setInstance i
          { bloom with db := true, connecting := bloom.connecting - 1, ready := false }).enqueue
            (.read i)
  | .refused i =>
      let bloom := host.instances i
      host.setInstance i { bloom with connecting := bloom.connecting - 1 }
  | .close i => host.setInstance i { host.instances i with db := false }
  | .markSeen i msgId =>
      let bloom := host.instances i
      host.setInstance i { bloom with filter := bloom.filter.map (BloomDedup.markSeen msgId) }
  | .flush i =>
      if (host.instances i).db then
        host.enqueue (.put (.ofFilter (params i) (host.instances i).filter))
      else host
  | .commit =>
      match host.queue with
      | tx :: queue => perform params tx { host with queue }
      | [] => host
  | .abort => { host with queue := host.queue.tail }

def run (calls : List BloomCall) : BloomHost := calls.foldl (step params) new

variable {params} {host : BloomHost} {i j : ℕ} {bloom : BloomInstance} {f : BloomDedup}
  {msgId : JsString}

@[simp] theorem row_setInstance : (host.setInstance i bloom).row = host.row := rfl

@[simp] theorem queue_setInstance : (host.setInstance i bloom).queue = host.queue := rfl

@[simp] theorem setInstance_self : (host.setInstance i bloom).instances i = bloom :=
  Function.update_self ..

theorem setInstance_ne (h : j ≠ i) : (host.setInstance i bloom).instances j = host.instances j :=
  Function.update_of_ne h _ _

@[simp] theorem row_enqueue (tx : BloomTx) : (host.enqueue tx).row = host.row := rfl

@[simp] theorem queue_enqueue (tx : BloomTx) : (host.enqueue tx).queue = host.queue ++ [tx] := rfl

@[simp] theorem instances_enqueue (tx : BloomTx) : (host.enqueue tx).instances = host.instances := rfl

theorem run_append (pre post : List BloomCall) :
    run params (pre ++ post) = post.foldl (step params) (run params pre) :=
  List.foldl_append ..

theorem run_concat (calls : List BloomCall) (call : BloomCall) :
    run params (calls ++ [call]) = step params (run params calls) call :=
  List.foldl_append ..

/-! ## What a step does -/

/-- What a call does to an instance. -/
inductive InstanceStep (params : ℕ → BloomParams) (host : BloomHost) (i : ℕ) :
    BloomCall → BloomInstance → Prop where
  | same (call : BloomCall) : InstanceStep params host i call (host.instances i)
  | opens (h : (host.instances i).db = false) : InstanceStep params host i (.opens i)
      { host.instances i with connecting := (host.instances i).connecting + 1 }
  | connected (h : (host.instances i).connecting ≠ 0) : InstanceStep params host i (.connected i)
      { host.instances i with
        db := true
        connecting := (host.instances i).connecting - 1
        ready := false }
  | refused : InstanceStep params host i (.refused i)
      { host.instances i with connecting := (host.instances i).connecting - 1 }
  | close : InstanceStep params host i (.close i) { host.instances i with db := false }
  | markSeen (msgId : JsString) : InstanceStep params host i (.markSeen i msgId)
      { host.instances i with
        filter := (host.instances i).filter.map (BloomDedup.markSeen msgId) }
  | read (queue : List BloomTx) (filter : Option BloomDedup) (h : host.queue = .read i :: queue)
      (hload : load (params i) host.row = some filter) :
      InstanceStep params host i .commit { host.instances i with filter, ready := true }

theorem step_instance (params : ℕ → BloomParams) (host : BloomHost) (i : ℕ) (call : BloomCall) :
    InstanceStep params host i call ((step params host call).instances i) := by
  have hother : ∀ {host' : BloomHost} {call : BloomCall} {j : ℕ} {bloom : BloomInstance},
      host'.instances = host.instances → i ≠ j →
      InstanceStep params host i call ((host'.setInstance j bloom).instances i) := by
    intro host' call j bloom hsame hne
    rw [setInstance_ne hne, hsame]
    exact .same _
  cases call with
  | opens j =>
      simp only [step]
      split
      next => exact .same _
      next hdb =>
        by_cases hij : i = j
        · subst hij
          rw [setInstance_self]
          exact .opens (Bool.not_eq_true _ ▸ hdb)
        · exact hother rfl hij
  | connected j =>
      simp only [step]
      split
      next => exact .same _
      next hwaits =>
        by_cases hij : i = j
        · subst hij
          rw [instances_enqueue, setInstance_self]
          exact .connected hwaits
        · exact hother rfl hij
  | refused j =>
      by_cases hij : i = j
      · subst hij
        simp only [step, setInstance_self]
        exact .refused
      · exact hother rfl hij
  | close j =>
      by_cases hij : i = j
      · subst hij
        simp only [step, setInstance_self]
        exact .close
      · exact hother rfl hij
  | markSeen j msgId =>
      by_cases hij : i = j
      · subst hij
        simp only [step, setInstance_self]
        exact .markSeen msgId
      · exact hother rfl hij
  | flush j =>
      simp only [step]
      split
      · exact .same _
      · exact .same _
  | commit =>
      simp only [step]
      split
      next tx queue hqueue =>
        cases tx with
        | read j =>
            simp only [perform]
            split
            next filter hload =>
              by_cases hij : i = j
              · subst hij
                rw [setInstance_self]
                exact .read queue filter hqueue hload
              · exact hother rfl hij
            next => exact .same _
        | put row => exact .same _
      next => exact .same _
  | abort => exact .same _

/-- What a call does to the row and to the transactions that wait. -/
inductive StoreStep (params : ℕ → BloomParams) (host : BloomHost) :
    BloomCall → Option BloomRow → List BloomTx → Prop where
  | same (call : BloomCall) (h : call.settles = false ∨ host.queue = []) :
      StoreStep params host call host.row host.queue
  | connected (i : ℕ) (h : (host.instances i).connecting ≠ 0) :
      StoreStep params host (.connected i) host.row (host.queue ++ [.read i])
  | flush (i : ℕ) (h : (host.instances i).db = true) : StoreStep params host (.flush i) host.row
      (host.queue ++ [.put (.ofFilter (params i) (host.instances i).filter)])
  | put (row : BloomRow) (queue : List BloomTx) (h : host.queue = .put row :: queue) :
      StoreStep params host .commit (some row) queue
  | read (i : ℕ) (queue : List BloomTx) (h : host.queue = .read i :: queue) :
      StoreStep params host .commit host.row queue
  | abort : StoreStep params host .abort host.row host.queue.tail

theorem step_store (params : ℕ → BloomParams) (host : BloomHost) (call : BloomCall) :
    StoreStep params host call (step params host call).row (step params host call).queue := by
  cases call with
  | opens i =>
      simp only [step]
      split
      · exact .same _ (Or.inl rfl)
      · exact .same _ (Or.inl rfl)
  | connected i =>
      simp only [step]
      split
      next => exact .same _ (Or.inl rfl)
      next hwaits => exact .connected i hwaits
  | refused i => exact .same _ (Or.inl rfl)
  | close i => exact .same _ (Or.inl rfl)
  | markSeen i msgId => exact .same _ (Or.inl rfl)
  | flush i =>
      simp only [step]
      split
      next hdb => exact .flush i hdb
      next => exact .same _ (Or.inl rfl)
  | commit =>
      simp only [step]
      split
      next tx queue hqueue =>
        cases tx with
        | read i =>
            simp only [perform]
            split
            · exact .read i queue hqueue
            · exact .read i queue hqueue
        | put row => exact .put row queue hqueue
      next hqueue => exact .same _ (Or.inr hqueue)
  | abort => exact .abort

end BloomHost

end Oxpulse.MeshCore
