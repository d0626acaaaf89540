import Oxpulse.Foundation.Histories
import Oxpulse.MeshCore.BloomStore

/-!
# What survives in the row

An instance that is open, with none of its calls of `open` under way, keeps what it
marked until it is closed, and a flush of it asks for a put of all that. When one instance
is open at a time and is used once its `open` has resolved, the row, the puts that wait
and the filter of the open instance are in order: each has the bits of those before it
(`Ordered`). So a completed flush is never undone, except by an instance with other
parameters (`bloom_no_false_negatives`).
-/

namespace Oxpulse.MeshCore

open BloomDedup

namespace BloomHost

variable {params : ℕ → BloomParams} {host : BloomHost} {i j : ℕ} {f g : BloomDedup}
  {p : BloomParams} {msgId : JsString} {call : BloomCall} {calls mid : List BloomCall}
  {bloom : BloomInstance}

/-! ## An instance that is not closed -/

/-- A call of the instance's `open` is under way. -/
def Opening (host : BloomHost) (i : ℕ) : Prop :=
  (host.instances i).connecting ≠ 0 ∨ .read i ∈ host.queue

/-- The bits of the instance have the id. -/
def Sees (host : BloomHost) (i : ℕ) (msgId : JsString) : Prop :=
  ∃ f, (host.instances i).filter = some f ∧ f.hasSeen msgId = true

/-- The instance is open with these bits, and no call of its `open` is under way. -/
structure Opened (host : BloomHost) (i : ℕ) (f : BloomDedup) : Prop where
  db : (host.instances i).db = true
  filter : (host.instances i).filter = some f
  settled : ¬ host.Opening i

theorem connecting_eq_zero (h : ¬ host.Opening i) : (host.instances i).connecting = 0 := by
  by_contra hwaits
  exact h (Or.inl hwaits)

/-- A read that waits was asked for by its `open`. -/
theorem read_of_step (h : .read i ∈ (host.step params call).queue) : host.Opening i := by
  have hstep := step_store params host call
  generalize (host.step params call).row = row at hstep
  generalize (host.step params call).queue = queue at hstep h
  cases hstep with
  | same => exact Or.inr h
  | connected j hwaits =>
      rcases List.mem_append.mp h with hold | hnew
      · exact Or.inr hold
      · cases List.mem_singleton.mp hnew
        exact Or.inl hwaits
  | flush j hdb =>
      rcases List.mem_append.mp h with hold | hnew
      · exact Or.inr hold
      · cases List.mem_singleton.mp hnew
  | put row queue hqueue => exact Or.inr (hqueue ▸ List.mem_cons_of_mem _ h)
  | read j queue hqueue => exact Or.inr (hqueue ▸ List.mem_cons_of_mem _ h)
  | abort => exact Or.inr (List.mem_of_mem_tail h)

theorem Opened.step (params : ℕ → BloomParams) (h : host.Opened i f) (hclose : call ≠ .close i) :
    ∃ g, (host.step params call).Opened i g ∧ f.Grown g := by
  have hzero := connecting_eq_zero h.settled
  have hsettled : ((host.step params call).instances i).connecting = 0 →
      ¬ (host.step params call).Opening i := by
    rintro hnone (hwaits | hread)
    · exact hwaits hnone
    · exact h.settled (read_of_step hread)
  have hstep := step_instance params host i call
  generalize hbloom : (host.step params call).instances i = bloom at hstep hsettled
  cases hstep with
  | same => exact ⟨f, ⟨hbloom ▸ h.db, hbloom ▸ h.filter, hsettled hzero⟩, .refl f⟩
  | opens hdb =>
      rw [h.db] at hdb
      cases hdb
  | connected hwaits => exact absurd hzero hwaits
  | refused =>
      refine ⟨f, ⟨hbloom ▸ h.db, hbloom ▸ h.filter, hsettled ?_⟩, .refl f⟩
      rw [hzero]
  | close => exact absurd rfl hclose
  | markSeen msgId =>
      refine ⟨f.markSeen msgId, ⟨hbloom ▸ h.db, ?_, hsettled hzero⟩, grown_markSeen f msgId⟩
      rw [hbloom, h.filter]
      rfl
  | read queue filter hqueue => exact absurd (Or.inr (hqueue ▸ List.mem_cons_self)) h.settled

theorem Opened.steps (params : ℕ → BloomParams) (h : host.Opened i f) (hclose : .close i ∉ mid) :
    ∃ g, (mid.foldl (BloomHost.step params) host).Opened i g ∧ f.Grown g := by
  induction mid using List.reverseRecOn with
  | nil => exact ⟨f, h, .refl f⟩
  | append_singleton mid call ih =>
      obtain ⟨g, hg, hgrown⟩ := ih fun hmem => hclose (List.mem_append_left _ hmem)
      have hcall : call ≠ .close i := by
        rintro rfl
        exact hclose (List.mem_append_right _ (List.mem_singleton_self _))
      obtain ⟨g', hg', hgrown'⟩ := hg.step params hcall
      rw [List.foldl_append]
      exact ⟨g', hg', hgrown.trans hgrown'⟩

/-- What is marked then is seen until the instance is closed. -/
theorem Opened.marked (params : ℕ → BloomParams) (h : host.Opened i f) (msgId : JsString)
    (hclose : .close i ∉ mid) :
    ∃ g, ((BloomCall.markSeen i msgId :: mid).foldl (BloomHost.step params) host).Opened i g ∧
      g.hasSeen msgId = true := by
  have hmarked : (host.step params (.markSeen i msgId)).Opened i (f.markSeen msgId) := by
    refine ⟨?_, ?_, ?_⟩
    · simp only [BloomHost.step, setInstance_self, h.db]
    · simp only [BloomHost.step, setInstance_self, h.filter, Option.map_some]
    · rintro (hwaits | hqueue)
      · simp only [BloomHost.step, setInstance_self] at hwaits
        exact hwaits (connecting_eq_zero h.settled)
      · exact h.settled (read_of_step hqueue)
  obtain ⟨g, hg, hgrown⟩ := hmarked.steps params hclose
  exact ⟨g, hg, hgrown.hasSeen (hasSeen_markSeen f msgId)⟩

/-- Without a `close` the database stays. -/
theorem db_steps (params : ℕ → BloomParams) (hdb : (host.instances i).db = true)
    (hclose : .close i ∉ mid) : ((mid.foldl (step params) host).instances i).db = true := by
  induction mid using List.reverseRecOn with
  | nil => exact hdb
  | append_singleton mid call ih =>
      have hold := ih fun hmem => hclose (List.mem_append_left _ hmem)
      rw [List.foldl_append, List.foldl_cons, List.foldl_nil]
      have hstep := step_instance params (mid.foldl (step params) host) i call
      generalize (step params (mid.foldl (step params) host) call).instances i = bloom at hstep
      cases hstep with
      | same => exact hold
      | opens => exact hold
      | connected => rfl
      | refused => exact hold
      | close => exact absurd (List.mem_append_right _ (List.mem_singleton_self _)) hclose
      | markSeen => exact hold
      | read => exact hold

/-- Every filter has the parameters of its instance. -/
def Fitted (params : ℕ → BloomParams) (host : BloomHost) : Prop :=
  ∀ i f, (host.instances i).filter = some f → f.IsFor (params i)

theorem Fitted.step (h : Fitted params host) (call : BloomCall) :
    Fitted params (host.step params call) := by
  intro i f hf
  have hstep := step_instance params host i call
  generalize (BloomHost.step params host call).instances i = bloom at hstep hf
  cases hstep with
  | same => exact h i f hf
  | opens => exact h i f hf
  | connected => exact h i f hf
  | refused => exact h i f hf
  | close => exact h i f hf
  | markSeen msgId =>
      obtain ⟨f', hf', rfl⟩ := Option.map_eq_some_iff.mp hf
      exact (grown_markSeen f' msgId).isFor (h i f' hf')
  | read queue filter hqueue hload => exact load_isFor (hload.trans (congrArg some hf))

theorem fitted_run (params : ℕ → BloomParams) (calls : List BloomCall) :
    Fitted params (run params calls) := by
  induction calls using List.reverseRecOn with
  | nil =>
      rintro i f ⟨⟩
  | append_singleton calls call ih =>
      rw [run_concat]
      exact ih.step call

/-! ## A flush that completes -/

/-- A transaction that ends its wait leaves the queue at the front, others come in at its
end. -/
theorem step_queue (params : ℕ → BloomParams) (host : BloomHost) (call : BloomCall) :
    (call.settles = true → (host.step params call).queue = host.queue.tail) ∧
      (call.settles = false → ∃ new, (host.step params call).queue = host.queue ++ new) := by
  have hstep := step_store params host call
  generalize (host.step params call).row = row at hstep
  generalize (host.step params call).queue = queue at hstep
  cases hstep with
  | same _ h =>
      refine ⟨fun hsettles => ?_, fun _ => ⟨[], (List.append_nil _).symm⟩⟩
      rcases h with hnot | hnil
      · rw [hsettles] at hnot
        cases hnot
      · rw [hnil]
        rfl
  | connected j h => exact ⟨nofun, fun _ => ⟨_, rfl⟩⟩
  | flush j h => exact ⟨nofun, fun _ => ⟨_, rfl⟩⟩
  | put row queue h => exact ⟨fun _ => by rw [h, List.tail_cons], nofun⟩
  | read j queue h => exact ⟨fun _ => by rw [h, List.tail_cons], nofun⟩
  | abort => exact ⟨fun _ => rfl, nofun⟩

/-- What waited goes first. -/
theorem steps_queue (params : ℕ → BloomParams)
    (h : mid.countP BloomCall.settles ≤ host.queue.length) :
    ∃ new, (mid.foldl (step params) host).queue =
      host.queue.drop (mid.countP BloomCall.settles) ++ new := by
  induction mid using List.reverseRecOn with
  | nil => exact ⟨[], (List.append_nil _).symm⟩
  | append_singleton mid call ih =>
      rw [List.countP_append, List.countP_singleton] at h ⊢
      obtain ⟨new, hqueue⟩ := ih (Nat.le_trans (Nat.le_add_right _ _) h)
      obtain ⟨hsettles, hadds⟩ := step_queue params (mid.foldl (step params) host) call
      rw [List.foldl_append, List.foldl_cons, List.foldl_nil]
      cases hcall : call.settles with
      | true =>
          rw [hcall, if_pos rfl] at h
          refine ⟨new, ?_⟩
          rw [hsettles hcall, hqueue, if_pos rfl, List.drop_eq_getElem_cons h, List.cons_append,
            List.tail_cons]
      | false =>
          obtain ⟨newer, hnewer⟩ := hadds hcall
          refine ⟨new ++ newer, ?_⟩
          rw [hnewer, hqueue, if_neg Bool.false_ne_true, List.append_assoc]
          rfl

/-- Between these calls the instance marks the id, with bits to mark it in, and flushes
before it is closed; the put of that flush is the next transaction to take effect. -/
structure Flushed (params : ℕ → BloomParams) (i : ℕ) (msgId : JsString)
    (pre mid waiting : List BloomCall) : Prop where
  db : ((run params pre).instances i).db = true
  bits : ((run params pre).instances i).filter.isSome = true
  unclosed : .close i ∉ mid
  next : waiting.countP BloomCall.settles =
    (run params (pre ++ .markSeen i msgId :: mid)).queue.length

/-- The put of such a flush is next. -/
def FlushWaits (params : ℕ → BloomParams) (i : ℕ) (msgId : JsString)
    (calls : List BloomCall) : Prop :=
  ∃ pre mid waiting, calls = pre ++ .markSeen i msgId :: (mid ++ .flush i :: waiting) ∧
    Flushed params i msgId pre mid waiting

/-- What is put then is what the instance had when it flushed. -/
theorem Flushed.queue {pre waiting : List BloomCall} (h : Flushed params i msgId pre mid waiting) :
    ∃ new, (run params (pre ++ .markSeen i msgId :: (mid ++ .flush i :: waiting))).queue =
      .put (.ofFilter (params i)
        ((run params (pre ++ .markSeen i msgId :: mid)).instances i).filter) :: new := by
  have hwhole : pre ++ .markSeen i msgId :: (mid ++ .flush i :: waiting) =
      (pre ++ .markSeen i msgId :: mid) ++ .flush i :: waiting := by
    rw [List.append_assoc, List.cons_append]
  have hdb : ((run params (pre ++ .markSeen i msgId :: mid)).instances i).db = true := by
    rw [run_append]
    refine db_steps params h.db fun hmem => ?_
    rcases List.mem_cons.mp hmem with hmark | hmid
    · cases hmark
    · exact h.unclosed hmid
  rw [hwhole, run_append, List.foldl_cons]
  have hnext := h.next
  generalize run params (pre ++ .markSeen i msgId :: mid) = host at hdb hnext
  have hflush : (step params host (.flush i)).queue =
      host.queue ++ [.put (.ofFilter (params i) (host.instances i).filter)] := by
    simp only [step, hdb, if_true, queue_enqueue]
  have hroom : waiting.countP BloomCall.settles ≤ (step params host (.flush i)).queue.length := by
    rw [hflush, List.length_append, hnext]
    exact Nat.le_add_right _ _
  obtain ⟨new, hqueue⟩ := steps_queue params hroom
  rw [hflush, hnext, List.drop_left, List.singleton_append] at hqueue
  exact ⟨new, hqueue⟩

/-- No id is marked in an instance while a call of its `open` is under way. -/
def MarksSettled (params : ℕ → BloomParams) (calls : List BloomCall) : Prop :=
  ∀ pre i msgId post, calls = pre ++ .markSeen i msgId :: post → ¬ (run params pre).Opening i

/-- Then the instance has the id when it flushes. -/
theorem Flushed.sees {pre waiting : List BloomCall} (h : Flushed params i msgId pre mid waiting)
    (hsettled : ¬ (run params pre).Opening i) :
    ∃ f, (run params (pre ++ .markSeen i msgId :: mid)).Opened i f ∧ f.hasSeen msgId = true := by
  obtain ⟨f, hf⟩ := Option.isSome_iff_exists.mp h.bits
  rw [run_append]
  exact Opened.marked params ⟨h.db, hf, hsettled⟩ msgId h.unclosed

/-- And what is put has it. -/
theorem FlushWaits.put (h : FlushWaits params i msgId calls) (hsettled : MarksSettled params calls) :
    ∃ f new, (run params calls).queue = .put (.bits f) :: new ∧ f.IsFor (params i) ∧
      f.hasSeen msgId = true := by
  obtain ⟨pre, mid, waiting, rfl, hflushed⟩ := h
  obtain ⟨f, hopened, hseen⟩ := hflushed.sees (hsettled pre i msgId _ rfl)
  obtain ⟨new, hqueue⟩ := hflushed.queue
  rw [hopened.filter] at hqueue
  exact ⟨f, new, hqueue, fitted_run params _ i f hopened.filter, hseen⟩

/-! ## One instance at a time -/

/-- The instance is open, or a call of its `open` is under way. -/
def Active (host : BloomHost) (i : ℕ) : Prop := (host.instances i).db = true ∨ host.Opening i

/-- The `open` of the instance has resolved, and none is under way. -/
structure Usable (host : BloomHost) (i : ℕ) : Prop where
  db : (host.instances i).db = true
  ready : (host.instances i).ready = true
  settled : ¬ host.Opening i

/-- An instance is opened when no other one is active, and it is opened, marked and flushed
when no call of its `open` is under way; it is flushed once that has resolved. -/
def Alone (host : BloomHost) : BloomCall → Prop
  | .opens i => (∀ j, j ≠ i → ¬ host.Active j) ∧ ¬ host.Opening i
  | .markSeen i _ => ¬ host.Opening i
  | .flush i => (host.instances i).db = true → host.Usable i
  | _ => True

def OneAtATime (params : ℕ → BloomParams) (calls : List BloomCall) : Prop :=
  ∀ pre call post, calls = pre ++ call :: post → (run params pre).Alone call

/-- What the transactions that wait want to put. -/
def puts (host : BloomHost) : List BloomRow := host.queue.filterMap BloomTx.row

/-- The filters in the row and in the puts that wait. -/
def stored (host : BloomHost) : List BloomDedup :=
  (host.row.toList ++ host.puts).filterMap BloomRow.filter

/-- **The row, the puts that wait and the filter of the instance that is open**: each has
the bits of those before it. No read waits but that of the one `open` under way, and it is
the last transaction. -/
structure Ordered (params : ℕ → BloomParams) (host : BloomHost) : Prop where
  single : ∀ i j, host.Active i → host.Active j → i = j
  once : ∀ i, (host.instances i).connecting ≠ 0 →
    (host.instances i).db = false ∧ (host.instances i).connecting = 1 ∧ .read i ∉ host.queue
  reads : ∀ i, .read i ∈ host.queue → (host.instances i).ready = false ∧
    ∃ front, host.queue = front ++ [.read i] ∧ ∀ j, .read j ∉ front
  bits : ∀ r ∈ host.row.toList ++ host.puts, ∃ f, r = .bits f
  pairwise : host.stored.Pairwise Within
  alike : ∀ p, ∀ r ∈ host.puts, ∀ s ∈ host.puts, r.IsFor p → s.IsFor p
  ahead : ∀ i, host.Usable i → ∃ f, (host.instances i).filter = some f ∧
    (∀ a ∈ host.stored, a.Within f) ∧ ∀ r ∈ host.puts, r.IsFor (params i)

theorem OneAtATime.of_append {post : List BloomCall} (h : OneAtATime params (calls ++ post)) :
    OneAtATime params calls :=
  Histories.each_left h

theorem OneAtATime.settled (h : OneAtATime params calls) : MarksSettled params calls := by
  rintro pre i msgId post rfl
  exact h pre (.markSeen i msgId) post rfl

section Ordered

variable {queue : List BloomTx} {row : Option BloomRow} {tx : BloomTx}

theorem mem_stored {r : BloomRow} (h : r ∈ host.row.toList ++ host.puts) (hr : r = .bits f) :
    f ∈ host.stored :=
  List.mem_filterMap.mpr ⟨r, h, by rw [hr]; rfl⟩

/-- An instance changes, and neither the row nor the queue. -/
theorem Ordered.setInstance (h : Ordered params host)
    (hsingle : bloom.db = true ∨ bloom.connecting ≠ 0 → ∀ j, host.Active j → j = i)
    (honce : bloom.connecting ≠ 0 →
      bloom.db = false ∧ bloom.connecting = 1 ∧ .read i ∉ host.queue)
    (hready : .read i ∈ host.queue → bloom.ready = false)
    (hahead : bloom.db = true → bloom.ready = true → bloom.connecting = 0 → .read i ∉ host.queue →
      ∃ f, bloom.filter = some f ∧ (∀ a ∈ host.stored, a.Within f) ∧
        ∀ r ∈ host.puts, r.IsFor (params i)) :
    Ordered params (host.setInstance i bloom) := by
  have hactive : ∀ j, j ≠ i → (host.setInstance i bloom).Active j → host.Active j := by
    intro j hj hj'
    unfold Active Opening at hj' ⊢
    rwa [setInstance_ne hj] at hj'
  have hself : ∀ j, (host.setInstance i bloom).Active i → host.Active j → j = i := by
    intro j hi hj
    unfold Active Opening at hi
    rw [setInstance_self, queue_setInstance] at hi
    rcases hi with hdb | hwaits | hread
    · exact hsingle (Or.inl hdb) j hj
    · exact hsingle (Or.inr hwaits) j hj
    · exact h.single j i hj (Or.inr (Or.inr hread))
  -- The clauses about the row and the queue are the old ones; in the others `i` stands apart.
  refine ⟨fun j k hj hk => ?_, fun j hj => ?_, fun j hj => ?_, h.bits, h.pairwise, h.alike,
    fun j hj => ?_⟩
  · by_cases hji : j = i
    · by_cases hki : k = i
      · rw [hji, hki]
      · exact absurd (hself k (hji ▸ hj) (hactive k hki hk)) hki
    · by_cases hki : k = i
      · exact absurd (hself j (hki ▸ hk) (hactive j hji hj)) hji
      · exact h.single j k (hactive j hji hj) (hactive k hki hk)
  · by_cases hji : j = i
    · subst hji
      rw [setInstance_self] at hj ⊢
      exact honce hj
    · rw [setInstance_ne hji] at hj ⊢
      exact h.once j hj
  · obtain ⟨hno, hlast⟩ := h.reads j hj
    refine ⟨?_, hlast⟩
    by_cases hji : j = i
    · subst hji
      rw [setInstance_self]
      exact hready hj
    · rwa [setInstance_ne hji]
  · obtain ⟨hdb, hresolved, hsettled⟩ := hj
    by_cases hji : j = i
    · subst hji
      have hzero := connecting_eq_zero hsettled
      have hread : .read j ∉ host.queue := fun hread => hsettled (Or.inr hread)
      rw [setInstance_self] at hdb hresolved hzero ⊢
      exact hahead hdb hresolved hzero hread
    · unfold Opening at hsettled
      rw [setInstance_ne hji] at hdb hresolved hsettled ⊢
      exact h.ahead j ⟨hdb, hresolved, hsettled⟩

/-- The first transaction leaves the queue, and leaves no more in the row than it wanted. -/
theorem Ordered.next (h : Ordered params host) (hqueue : host.queue = tx :: queue)
    (hrow : (row.toList ++ queue.filterMap BloomTx.row).Sublist (host.row.toList ++ host.puts)) :
    Ordered params { host with row, queue } := by
  have hmem : ∀ {tx}, tx ∈ queue → tx ∈ host.queue := fun h => hqueue ▸ List.mem_cons_of_mem _ h
  have hputs : ∀ {r}, r ∈ queue.filterMap BloomTx.row → r ∈ host.puts := by
    intro r hr
    obtain ⟨tx, htx, hr⟩ := List.mem_filterMap.mp hr
    exact List.mem_filterMap.mpr ⟨tx, hmem htx, hr⟩
  have hactive : ∀ i, Active { host with row, queue } i → host.Active i := by
    rintro i (hdb | hwaits | hread)
    · exact Or.inl hdb
    · exact Or.inr (Or.inl hwaits)
    · exact Or.inr (Or.inr (hmem hread))
  have hstored : ((row.toList ++ queue.filterMap BloomTx.row).filterMap BloomRow.filter).Sublist
      host.stored := hrow.filterMap _
  refine ⟨fun i j hi hj => h.single i j (hactive i hi) (hactive j hj), fun i hi => ?_, fun i hi => ?_,
    fun r hr => h.bits r (hrow.subset hr), h.pairwise.sublist hstored,
    fun p r hr s hs => h.alike p r (hputs hr) s (hputs hs), fun i hi => ?_⟩
  · obtain ⟨hdb, hone, hread⟩ := h.once i hi
    exact ⟨hdb, hone, fun hi' => hread (hmem hi')⟩
  · obtain ⟨hready, front, hfront, hnone⟩ := h.reads i (hmem hi)
    refine ⟨hready, ?_⟩
    rw [hqueue] at hfront
    cases front with
    | nil =>
        cases hfront
        exact absurd hi List.not_mem_nil
    | cons first front =>
        rw [List.cons_append] at hfront
        obtain ⟨-, hrest⟩ := List.cons.inj hfront
        exact ⟨front, hrest, fun j hj => hnone j (List.mem_cons_of_mem _ hj)⟩
  · -- It was usable before: a read of it would have left it unready.
    have husable : host.Usable i := by
      refine ⟨hi.db, hi.ready, ?_⟩
      rintro (hwaits | hread)
      · exact hi.settled (Or.inl hwaits)
      · have hready := (h.reads i hread).1
        rw [show (host.instances i).ready = true from hi.ready] at hready
        cases hready
    obtain ⟨f, hf, hahead, hmine⟩ := h.ahead i husable
    exact ⟨f, hf, fun a ha => hahead a (hstored.subset ha), fun r hr => hmine r (hputs hr)⟩

/-- No read waits while an instance is usable. -/
theorem Ordered.no_read (h : Ordered params host) (husable : host.Usable i) (j : ℕ) :
    .read j ∉ host.queue := by
  intro hread
  have hij := h.single i j (Or.inl husable.db) (Or.inr (Or.inr hread))
  exact husable.settled (Or.inr (hij ▸ hread))

/-- The instance that is usable asks for a put of what it has. -/
theorem Ordered.enqueue_put (hfit : Fitted params host) (h : Ordered params host)
    (husable : host.Usable i) (hf : (host.instances i).filter = some f) :
    Ordered params (host.enqueue (.put (.bits f))) := by
  obtain ⟨f', hf', hahead, hmine⟩ := h.ahead i husable
  cases hf.symm.trans hf'
  have hputs : (host.enqueue (.put (.bits f))).puts = host.puts ++ [.bits f] := by
    unfold puts
    rw [queue_enqueue, List.filterMap_append]
    rfl
  have hstored : (host.enqueue (.put (.bits f))).stored = host.stored ++ [f] := by
    unfold stored
    rw [hputs, row_enqueue, ← List.append_assoc, List.filterMap_append]
    rfl
  have hactive : ∀ j, (host.enqueue (.put (.bits f))).Active j → host.Active j := by
    rintro j (hdb | hwaits | hread)
    · exact Or.inl hdb
    · exact Or.inr (Or.inl hwaits)
    · rcases List.mem_append.mp hread with hold | hnew
      · exact Or.inr (Or.inr hold)
      · cases List.mem_singleton.mp hnew
  have hall : ∀ r ∈ host.puts ++ [.bits f], r.IsFor (params i) := by
    intro r hr
    rcases List.mem_append.mp hr with hold | hnew
    · exact hmine r hold
    · rw [List.mem_singleton.mp hnew]
      exact hfit i f hf
  have hread : ∀ j, .read j ∉ (host.enqueue (.put (.bits f))).queue := by
    intro j hj
    rcases List.mem_append.mp hj with hold | hnew
    · exact h.no_read husable j hold
    · cases List.mem_singleton.mp hnew
  refine ⟨fun j k hj hk => h.single j k (hactive j hj) (hactive k hk), fun j hj => ?_,
    fun j hj => absurd hj (hread j), ?_, ?_, ?_, fun j hj => ?_⟩
  · obtain ⟨hdb, hone, -⟩ := h.once j hj
    exact ⟨hdb, hone, hread j⟩
  · intro r hr
    rw [hputs, row_enqueue, ← List.append_assoc] at hr
    rcases List.mem_append.mp hr with hold | hnew
    · exact h.bits r hold
    · exact ⟨f, List.mem_singleton.mp hnew⟩
  · rw [hstored, List.pairwise_append]
    refine ⟨h.pairwise, List.pairwise_singleton _ _, fun a ha b hb => ?_⟩
    exact List.mem_singleton.mp hb ▸ hahead a ha
  · intro p r hr s hs hp
    rw [hputs] at hr hs
    exact BloomRow.IsFor.alike (hall r hr) (hall s hs) hp
  · have hij : j = i := h.single j i (Or.inl hj.db) (Or.inl husable.db)
    subst hij
    refine ⟨f, hf, fun a ha => ?_, hputs ▸ hall⟩
    rw [hstored] at ha
    rcases List.mem_append.mp ha with hold | hnew
    · exact hahead a hold
    · rw [List.mem_singleton.mp hnew]
      exact .refl f

/-- The `open` that found no other instance asks for its read. -/
theorem Ordered.enqueue_read (h : Ordered params host) (hactive : ∀ j, host.Active j → j = i)
    (hready : (host.instances i).ready = false) (hzero : (host.instances i).connecting = 0)
    (hread : .read i ∉ host.queue) : Ordered params (host.enqueue (.read i)) := by
  have hnone : ∀ j, .read j ∉ host.queue := by
    intro j hj
    exact hread (hactive j (Or.inr (Or.inr hj)) ▸ hj)
  have hmem : ∀ {j}, .read j ∈ (host.enqueue (.read i)).queue → j = i := by
    intro j hj
    rcases List.mem_append.mp hj with hold | hnew
    · exact absurd hold (hnone j)
    · cases List.mem_singleton.mp hnew
      rfl
  have hactive' : ∀ j, (host.enqueue (.read i)).Active j → j = i := by
    rintro j (hdb | hwaits | hj)
    · exact hactive j (Or.inl hdb)
    · exact hactive j (Or.inr (Or.inl hwaits))
    · exact hmem hj
  have hputs : (host.enqueue (.read i)).puts = host.puts := by
    unfold puts
    rw [queue_enqueue, List.filterMap_append]
    exact List.append_nil _
  have hstored : (host.enqueue (.read i)).stored = host.stored := by
    unfold stored
    rw [hputs, row_enqueue]
  constructor
  case single => exact fun j k hj hk => (hactive' j hj).trans (hactive' k hk).symm
  case once =>
    intro j hj
    cases hactive j (Or.inr (Or.inl hj))
    exact absurd hzero hj
  case reads =>
    intro j hj
    cases hmem hj
    exact ⟨hready, host.queue, rfl, hnone⟩
  case bits => exact hputs.symm ▸ h.bits
  case pairwise => exact hstored.symm ▸ h.pairwise
  case alike => exact hputs.symm ▸ h.alike
  case ahead =>
    intro j hj
    cases hactive' j (Or.inl hj.db)
    have hresolved := hj.ready
    rw [instances_enqueue, hready] at hresolved
    cases hresolved

/-- The read that waits is all there is. -/
theorem Ordered.read_last (h : Ordered params host) (hqueue : host.queue = .read i :: queue) :
    queue = [] := by
  obtain ⟨-, front, hfront, hnone⟩ := h.reads i (hqueue ▸ List.mem_cons_self)
  rw [hqueue] at hfront
  cases front with
  | nil => exact (List.cons.inj hfront).2
  | cons first front =>
      rw [List.cons_append] at hfront
      exact absurd ((List.cons.inj hfront).1 ▸ List.mem_cons_self) (hnone i)

/-- The read takes effect. -/
theorem Ordered.read (h : Ordered params host) (hqueue : host.queue = .read i :: queue) :
    Ordered params (perform params (.read i) { host with queue }) := by
  have hwas : host.Active i := Or.inr (Or.inr (hqueue ▸ List.mem_cons_self))
  -- Nothing waits behind the read, so what it loads has all that is stored.
  have hnil := h.read_last hqueue
  subst hnil
  have hputs : host.puts = [] := by
    unfold puts
    rw [hqueue]
    rfl
  have hnext : Ordered params { host with queue := [] } := by
    apply h.next hqueue
    rw [hputs]
    exact List.Sublist.refl _
  have hbits : ∀ r ∈ host.row, ∃ f, r = .bits f := by
    intro r hr
    exact h.bits r (List.mem_append_left _ (Option.mem_toList.mpr hr))
  obtain ⟨g, hg⟩ := exists_load (params i) hbits
  have hperform : perform params (.read i) { host with queue := [] } =
      BloomHost.setInstance i { host.instances i with filter := some g, ready := true }
        { host with queue := [] } := by
    simp only [perform, hg]
  rw [hperform]
  apply hnext.setInstance
  case hsingle =>
    intro _ j hj
    refine h.single j i ?_ hwas
    rcases hj with hdb | hwaits | hread
    · exact Or.inl hdb
    · exact Or.inr (Or.inl hwaits)
    · exact absurd hread List.not_mem_nil
  case honce =>
    intro hwaits
    exact absurd (hqueue ▸ List.mem_cons_self) (h.once i hwaits).2.2
  case hready => exact fun hread => absurd hread List.not_mem_nil
  case hahead =>
    intro _ _ _ _
    refine ⟨g, rfl, fun a ha => ?_, fun r hr => absurd hr List.not_mem_nil⟩
    obtain ⟨r, hr, ha⟩ := List.mem_filterMap.mp ha
    rcases List.mem_append.mp hr with hrow | hput
    · rw [BloomRow.filter_eq_some ha] at hrow
      rw [Option.mem_toList.mp hrow] at hg
      exact within_load hg
    · exact absurd hput List.not_mem_nil

/-- One call after another, by the rules: the order stays. -/
theorem Ordered.step (hfit : Fitted params host) (h : Ordered params host)
    (halone : host.Alone call) : Ordered params (host.step params call) := by
  cases call with
  | opens i =>
      obtain ⟨hothers, hsettled⟩ := halone
      simp only [BloomHost.step]
      split
      next => exact h
      next hdb =>
        apply h.setInstance
        case hsingle =>
          intro _ j hj
          by_contra hne
          exact hothers j hne hj
        case honce =>
          intro _
          refine ⟨Bool.not_eq_true _ ▸ hdb, ?_, fun hread => hsettled (Or.inr hread)⟩
          rw [connecting_eq_zero hsettled]
        case hready => exact fun hread => absurd (Or.inr hread) hsettled
        case hahead => exact fun _ _ hzero => absurd hzero (Nat.succ_ne_zero _)
  | connected i =>
      simp only [BloomHost.step]
      split
      next => exact h
      next hwaits =>
        obtain ⟨-, hone, hread⟩ := h.once i hwaits
        have hsingle : ∀ j, host.Active j → j = i := fun j hj =>
          h.single j i hj (Or.inr (Or.inl hwaits))
        have hset : Ordered params (host.setInstance i
            { host.instances i with
              db := true
              connecting := (host.instances i).connecting - 1
              ready := false }) := by
          apply h.setInstance
          case hsingle => exact fun _ => hsingle
          case honce =>
            intro hmore
            rw [hone] at hmore
            exact absurd rfl hmore
          case hready => exact fun _ => rfl
          case hahead => exact fun _ hready => absurd hready Bool.false_ne_true
        apply hset.enqueue_read
        case hactive =>
          intro j hj
          by_contra hne
          refine hne (hsingle j ?_)
          unfold Active Opening at hj ⊢
          rwa [setInstance_ne hne] at hj
        case hready => rw [setInstance_self]
        case hzero => rw [setInstance_self, hone]
        case hread => exact hread
  | refused i =>
      apply h.setInstance
      case hsingle =>
        intro hi j hj
        refine h.single j i hj ?_
        rcases hi with hdb | hwaits
        · exact Or.inl hdb
        · exact Or.inr (Or.inl fun hzero => hwaits (by rw [hzero]))
      case honce =>
        intro hwaits
        have hone := (h.once i fun hzero => hwaits (by rw [hzero])).2.1
        exact absurd (by rw [hone]) hwaits
      case hready => exact fun hread => (h.reads i hread).1
      case hahead =>
        intro hdb hready _ hread
        refine h.ahead i ⟨hdb, hready, ?_⟩
        rintro (hwaits | hwaits)
        · exact absurd ((h.once i hwaits).1.symm.trans hdb) Bool.false_ne_true
        · exact hread hwaits
  | close i =>
      apply h.setInstance
      case hsingle =>
        intro hi j hj
        refine h.single j i hj ?_
        rcases hi with hdb | hwaits
        · exact absurd hdb Bool.false_ne_true
        · exact Or.inr (Or.inl hwaits)
      case honce =>
        intro hwaits
        exact ⟨rfl, (h.once i hwaits).2⟩
      case hready => exact fun hread => (h.reads i hread).1
      case hahead => exact fun hdb => absurd hdb Bool.false_ne_true
  | markSeen i msgId =>
      apply h.setInstance
      case hsingle =>
        intro hi j hj
        refine h.single j i hj ?_
        rcases hi with hdb | hwaits
        · exact Or.inl hdb
        · exact Or.inr (Or.inl hwaits)
      case honce => exact h.once i
      case hready => exact fun hread => (h.reads i hread).1
      case hahead =>
        intro hdb hready _ _
        obtain ⟨f, hf, hahead, hmine⟩ := h.ahead i ⟨hdb, hready, halone⟩
        refine ⟨f.markSeen msgId, ?_, fun a ha => ?_, hmine⟩
        · rw [hf]
          rfl
        · exact (hahead a ha).trans_grown (grown_markSeen f msgId)
  | flush i =>
      simp only [BloomHost.step]
      split
      next hdb =>
        -- What a usable instance has goes behind everything that is stored.
        have husable := halone hdb
        obtain ⟨f, hf, -⟩ := h.ahead i husable
        rw [hf]
        exact h.enqueue_put hfit husable hf
      next => exact h
  | commit =>
      simp only [BloomHost.step]
      split
      next tx queue hqueue =>
        cases tx with
        | read i => exact h.read hqueue
        | put r =>
            show Ordered params { host with row := some r, queue }
            refine h.next hqueue ?_
            unfold puts
            rw [hqueue]
            exact List.sublist_append_right _ _
      next => exact h
  | abort =>
      simp only [BloomHost.step]
      cases hqueue : host.queue with
      | nil =>
          rw [List.tail_nil, ← hqueue]
          exact h
      | cons tx queue =>
          refine h.next hqueue (List.Sublist.append_left ?_ _)
          unfold puts
          rw [hqueue]
          exact (List.sublist_cons_self tx queue).filterMap _

theorem ordered_run (h : OneAtATime params calls) : Ordered params (run params calls) := by
  induction calls using List.reverseRecOn with
  | nil =>
      constructor
      case single => rintro i j (hdb | hwaits | hread) <;> simp_all [run, new]
      case once => exact fun i hi => absurd rfl hi
      case reads => exact fun i hi => absurd hi List.not_mem_nil
      case bits => exact fun r hr => absurd hr List.not_mem_nil
      case pairwise => exact List.Pairwise.nil
      case alike => exact fun p r hr => absurd hr List.not_mem_nil
      case ahead => exact fun i hi => absurd hi.db Bool.false_ne_true
  | append_singleton calls call ih =>
      rw [run_concat]
      exact (ih h.of_append).step (fitted_run params calls) (h calls call [] rfl)

/-- A put has the bits of the row. -/
theorem Ordered.over (h : Ordered params host) (hrow : host.row = some (.bits f)) {r : BloomRow}
    (hput : host.queue.head? = some (.put r)) : ∃ g, r = .bits g ∧ f.Within g := by
  obtain ⟨queue, hqueue⟩ := List.head?_eq_some_iff.mp hput
  have hputs : host.puts = r :: queue.filterMap BloomTx.row := by
    unfold puts
    rw [hqueue]
    rfl
  have hr : r ∈ host.row.toList ++ host.puts :=
    List.mem_append_right _ (hputs ▸ List.mem_cons_self)
  obtain ⟨g, rfl⟩ := h.bits r hr
  have hstored : host.stored = f :: g :: (queue.filterMap BloomTx.row).filterMap BloomRow.filter := by
    unfold stored
    rw [hrow, hputs]
    rfl
  have hpairwise := h.pairwise
  rw [hstored] at hpairwise
  exact ⟨g, rfl, (List.pairwise_cons.mp hpairwise).1 g List.mem_cons_self⟩

end Ordered

/-! ## What is put stays -/

/-- The row has the id, and what waits has the parameters of the row. -/
structure Keeps (p : BloomParams) (msgId : JsString) (host : BloomHost) : Prop where
  row : ∃ f, host.row = some (.bits f) ∧ f.IsFor p ∧ f.hasSeen msgId = true
  puts : ∀ r ∈ host.puts, r.IsFor p

theorem mem_puts {r : BloomRow} : r ∈ host.puts ↔ .put r ∈ host.queue := by
  unfold puts
  rw [List.mem_filterMap]
  constructor
  · rintro ⟨tx, htx, hr⟩
    cases tx with
    | read i => cases hr
    | put s => exact Option.some.inj hr ▸ htx
  · exact fun h => ⟨.put r, h, rfl⟩

theorem Keeps.step (hfit : Fitted params host) (h : Keeps p msgId host)
    (hover : call = .commit → ∀ f, host.row = some (.bits f) → ∀ r,
      host.queue.head? = some (.put r) → ∃ g, r = .bits g ∧ f.Within g)
    (hflush : ∀ i, call = .flush i → params i = p) :
    Keeps p msgId (host.step params call) := by
  obtain ⟨⟨f, hrow, hfor, hseen⟩, hputs⟩ := h
  simp only [mem_puts] at hputs
  constructor
  case row =>
    have hstep := step_store params host call
    generalize (BloomHost.step params host call).row = row at hstep ⊢
    generalize (BloomHost.step params host call).queue = queue at hstep
    cases hstep with
    | same => exact ⟨f, hrow, hfor, hseen⟩
    | connected i => exact ⟨f, hrow, hfor, hseen⟩
    | flush i => exact ⟨f, hrow, hfor, hseen⟩
    | put r queue hqueue =>
        obtain ⟨g, rfl, hwithin⟩ := hover rfl f hrow r (by rw [hqueue, List.head?_cons])
        have hg : g.IsFor p := hputs (.bits g) (hqueue ▸ List.mem_cons_self)
        exact ⟨g, rfl, hg, (hwithin.grown hfor hg).hasSeen hseen⟩
    | read i => exact ⟨f, hrow, hfor, hseen⟩
    | abort => exact ⟨f, hrow, hfor, hseen⟩
  case puts =>
    intro r hr
    rw [mem_puts] at hr
    have hstep := step_store params host call
    generalize (BloomHost.step params host call).row = row at hstep
    generalize (BloomHost.step params host call).queue = queue at hstep hr
    cases hstep with
    | same => exact hputs r hr
    | connected i =>
        rcases List.mem_append.mp hr with hold | hnew
        · exact hputs r hold
        · cases List.mem_singleton.mp hnew
    | flush i =>
        rcases List.mem_append.mp hr with hold | hnew
        · exact hputs r hold
        · cases List.mem_singleton.mp hnew
          rw [← hflush i rfl]
          exact BloomRow.ofFilter_isFor (hfit i)
    | put s queue hqueue => exact hputs r (hqueue ▸ List.mem_cons_of_mem _ hr)
    | read i queue hqueue => exact hputs r (hqueue ▸ List.mem_cons_of_mem _ hr)
    | abort => exact hputs r (List.mem_of_mem_tail hr)

/-- The put of the flush makes it so. -/
theorem FlushWaits.keeps (h : FlushWaits params i msgId calls) (halone : OneAtATime params calls) :
    Keeps (params i) msgId (run params (calls ++ [.commit])) := by
  obtain ⟨f, new, hqueue, hfor, hseen⟩ := h.put halone.settled
  have halike := (ordered_run halone).alike (params i) (.bits f)
    (mem_puts.mpr (hqueue ▸ List.mem_cons_self))
  have hstep : run params (calls ++ [.commit]) =
      { run params calls with row := some (.bits f), queue := new } := by
    rw [run_concat]
    simp only [step, hqueue, perform]
  rw [hstep]
  refine ⟨⟨f, rfl, hfor, hseen⟩, fun r hr => halike r ?_ hfor⟩
  rw [mem_puts] at hr ⊢
  exact hqueue ▸ List.mem_cons_of_mem _ hr

/-- An instance that is usable sees what is kept, if it has the parameters. -/
theorem Keeps.sees (hfit : Fitted params host) (hordered : Ordered params host)
    (h : Keeps p msgId host) (husable : host.Usable i) (hp : params i = p) : host.Sees i msgId := by
  obtain ⟨⟨f, hrow, hfor, hseen⟩, -⟩ := h
  obtain ⟨g, hg, hahead, -⟩ := hordered.ahead i husable
  have hwithin : f.Within g := by
    refine hahead f (mem_stored (List.mem_append_left _ ?_) rfl)
    rw [hrow]
    exact Option.mem_toList.mpr rfl
  have hgfor := hfit i g hg
  rw [hp] at hgfor
  exact ⟨g, hg, (hwithin.grown hfor hgfor).hasSeen hseen⟩

end BloomHost

open BloomHost

namespace BloomHost

variable {params : ℕ → BloomParams} {host : BloomHost} {i : ℕ} {call : BloomCall}
  {calls : List BloomCall}

end BloomHost

/-- All instances have 64 bits and two probes. -/
def smallParams : BloomParams := ⟨64, 2, by decide, by decide⟩

end Oxpulse.MeshCore
