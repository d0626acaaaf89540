import Oxpulse.Transport.Announcements

/-!
# Failures after the decision

A verdict that is not pending stays. The error that the user is shown is written
next to `transitionVerdict` at some places whatever it says: a failure on a
decided object leaves the error exactly if it is a timeout, a frame that is
dropped or counted, or if the error was this one before (`late_failure_iff`).
-/

namespace Oxpulse.Transport

open Oxpulse.Coroutine Oxpulse.Crypto

namespace Branch

/-- The object whose handshake fails. -/
def failureOf : Branch → Option ℕ
  | .timeout entry => some entry.2
  | .handshake ref _ (.readFailed _) => some ref
  | .handshake ref _ .answerFailed => some ref
  | .handshake ref _ .splitFailed => some ref
  | .failHandshake cs => cs
  | _ => none

/-- The handshake of a decided object fails. -/
def LateFailure (ref : ℕ) (m : Mesh) (b : Branch) : Prop :=
  b.failureOf = some ref ∧ (m.object ref).verdict ≠ .pending

/-- The failure is written to `meshState.error`, unless it is a timeout of a
decided object. -/
def Reports (m : Mesh) : Branch → Prop
  | .handshake ref deviceId b => b.Rejects (m.view ref deviceId)
  | .failHandshake _ => True
  | _ => False

/-- The failure is not reported, or it was reported before. -/
def Harmless (m : Mesh) (b : Branch) : Prop := ¬ b.Reports m ∨ m.error = some .handshakeFailed

end Branch

section Branches

variable {n ref : ℕ} {e : Event} {m m' : Mesh} {b : Branch}

/-- What a late failure does to its object and to the error. -/
structure Late (ref : ℕ) (m : Mesh) (b : Branch) : Prop where
  verdict : ((b.act m).object ref).verdict = (m.object ref).verdict
  reported : b.Reports m → (b.act m).error = some .handshakeFailed
  silent : ¬ b.Reports m → (b.act m).error = m.error

theorem handshake_late (deviceId : DeviceId) (b : HandshakeBranch) (hlt : ref < m.objects.length)
    (hb : ∀ session sas, b ≠ .established session sas)
    (hdecided : (m.object ref).verdict ≠ .pending) :
    Late ref m (.handshake ref deviceId b) := by
  have hview : (m.view ref deviceId).cs = m.object ref := rfl
  have hobjects : ((Branch.handshake ref deviceId b).act m).objects =
    m.objects.set ref (b.act (m.view ref deviceId)).cs := rfl
  have herror : ((Branch.handshake ref deviceId b).act m).error =
    (b.act (m.view ref deviceId)).error := rfl
  by_cases hrejects : b.Rejects (m.view ref deviceId)
  · obtain ⟨hverdict, hreported, -⟩ := act_rejects hrejects
    rw [hview, transitionVerdict_decided _ hdecided] at hverdict
    exact ⟨verdict_of_set hlt hobjects hverdict ref, fun _ => herror.trans hreported,
      fun h => absurd hrejects h⟩
  · have hunseen : Unseen (m.view ref deviceId) (b.act (m.view ref deviceId)) := by
      cases b with
      | readFailed err => exact readFailed_unseen hrejects
      | answerFailed => exact absurd trivial hrejects
      | splitFailed => exact absurd trivial hrejects
      | established session sas => exact absurd rfl (hb session sas)
    exact ⟨verdict_of_set hlt hobjects hunseen.face.verdict ref, fun h => absurd h hrejects,
      fun _ => herror.trans hunseen.error⟩

theorem timeout_late {entry : DeviceId × ℕ} (hdecided : (m.object entry.2).verdict ≠ .pending) :
    Late entry.2 m (.timeout entry) := by
  have hact : (Branch.timeout entry).act m = m := if_pos hdecided
  exact ⟨by rw [hact], fun h => h.elim, fun _ => by rw [hact]⟩

theorem failHandshake_late (hlt : ref < m.objects.length)
    (hdecided : (m.object ref).verdict ≠ .pending) : Late ref m (.failHandshake (some ref)) := by
  have hact : (Branch.failHandshake (some ref)).act m = m.failHandshake (some ref) := rfl
  unfold Mesh.failHandshake at hact
  simp only [transitionVerdict_decided _ hdecided, Bool.false_eq_true, if_false] at hact
  exact ⟨verdict_of_set hlt (congrArg Mesh.objects hact) rfl ref,
    fun _ => congrArg Mesh.error hact, fun h => absurd trivial h⟩

theorem Branch.late (hfits : b.Fits n e m) (h : b.LateFailure ref m) : Late ref m b := by
  obtain ⟨hof, hdecided⟩ := h
  cases b with
  | timeout entry =>
      cases hof
      exact timeout_late hdecided
  | failHandshake cs =>
      have hcs : cs = some ref := hof
      subst hcs
      exact failHandshake_late (hfits.2 ref rfl) hdecided
  | handshake ref' deviceId b =>
      cases b with
      | established session sas => cases hof
      | readFailed err | answerFailed | splitFailed =>
          cases hof
          refine handshake_late deviceId _ hfits.2 ?_ hdecided
          rintro session sas ⟨⟩
  | _ => cases hof

/-- The error is left exactly by a harmless failure. -/
theorem Late.error_iff (h : Late ref m b) : (b.act m).error = m.error ↔ b.Harmless m := by
  by_cases hreports : b.Reports m
  · rw [h.reported hreports]
    exact ⟨fun hsame => Or.inr hsame.symm, fun hharmless =>
      hharmless.elim (absurd hreports) Eq.symm⟩
  · exact iff_of_true (h.silent hreports) (Or.inl hreports)

end Branches

/-- **A decision stays**, whatever happens. -/
theorem meshRun_decided {P : Primitives} {m : Mesh} (hm : Pristine m)
    (pre post : List (Move Event Unit)) {ref : ℕ}
    (hdecided : ((meshRun P m pre).shared.object ref).verdict ≠ .pending) :
    ((meshRun P m (pre ++ post)).shared.object ref).verdict =
      ((meshRun P m pre).shared.object ref).verdict := by
  induction post using List.reverseRecOn with
  | nil => rw [List.append_nil]
  | append_singleton post mv ih =>
      rw [← List.append_assoc]
      have hstill : ((meshRun P m (pre ++ post)).shared.object ref).verdict ≠ .pending := by
        rw [ih]
        exact hdecided
      have hlt : ref < (meshRun P m (pre ++ post)).shared.objects.length :=
        Nat.lt_of_not_le fun hge => hstill (blank_beyond hge).verdict
      have hpersists := (meshRun_step (P := P) hm (pre ++ post) mv).1.old ref hlt
      rcases hpersists.verdict with hsame | ⟨hpending, -⟩
      · exact hsame.trans ih
      · exact absurd hpending hstill

/-- **A late failure leaves the verdict**, and it leaves the error exactly if it
is harmless; so a step of harmless late failures leaves the error. -/
theorem late_failure_iff (P : Primitives) (tofu : TofuStore) (now : ℕ) :
    (∀ pre post ref, ((meshRun P (.initial tofu now) pre).shared.object ref).verdict ≠ .pending →
      ((meshRun P (.initial tofu now) (pre ++ post)).shared.object ref).verdict =
        ((meshRun P (.initial tofu now) pre).shared.object ref).verdict) ∧
    ∀ ms mv,
      let p := meshRun P (.initial tofu now) ms
      let p' := meshRun P (.initial tofu now) (ms ++ [mv])
      (∃ l, seen.Trace (StepFits p mv) l p.shared p'.shared) ∧
      ∀ l, seen.Trace (StepFits p mv) l p.shared p'.shared →
        (∀ x ∈ l, ∀ ref, x.2.LateFailure ref x.1 →
          ((x.2.act x.1).object ref).verdict = (x.1.object ref).verdict ∧
            ((x.2.act x.1).error = x.1.error ↔ x.2.Harmless x.1)) ∧
        ((∀ x ∈ l, ∃ ref, x.2.LateFailure ref x.1 ∧ x.2.Harmless x.1) →
          p'.shared.error = p.shared.error) := by
  refine ⟨fun pre post ref => meshRun_decided (pristine_initial tofu now) pre post,
    fun ms mv => ?_⟩
  intro p p'
  have hlate : ∀ m b, StepFits p mv m b → ∀ ref, b.LateFailure ref m → Late ref m b := by
    rintro m b ⟨n, e, -, hfits⟩ ref h
    exact Branch.late hfits h
  refine ⟨meshRun_trace (pristine_initial tofu now) ms mv, fun l hl =>
    ⟨fun x hx ref h => ?_, fun hharmless => ?_⟩⟩
  · have h' := hlate _ _ (hl.split hx).1 ref h
    exact ⟨h'.verdict, h'.error_iff⟩
  · refine hl.related (R := fun a b => b.error = a.error)
      (fun a b c (hab : b.error = a.error) (hbc : c.error = b.error) => hbc.trans hab)
      (fun a b hq => hq.error) fun x hx hfits => ?_
    obtain ⟨ref, h, hx⟩ := hharmless x hx
    exact (hlate _ _ hfits ref h).error_iff.mpr hx

theorem rejected_stays :
    ((meshRun .sample (.initial .empty 0)
        (answers ++ [.start (.rejectPeer "0202020202020202")] ++ [.resume 7 ()])).shared.object
          0).verdict =
      ((meshRun .sample (.initial .empty 0)
        (answers ++ [.start (.rejectPeer "0202020202020202")])).shared.object 0).verdict :=
  (late_failure_iff .sample .empty 0).1 _ _ 0 (by decide +kernel)

/-- The user rejects the peer while the write of msg-3 is under way. The write
fails, and the reason of the rejection is overwritten. -/
theorem late_write_overwrites :
    let p := meshRun .sample (.initial .empty 0)
      (answers ++ [.start (.rejectPeer "0202020202020202")])
    let p' := meshRun .sample (.initial .empty 0)
      (answers ++ [.start (.rejectPeer "0202020202020202")] ++ [.resume 7 ()])
    (p.shared.object 0).verdict = .rejected ∧ p.shared.error = some .unknownPeerKey ∧
      (p'.shared.object 0).verdict = .rejected ∧ p'.shared.error = some .handshakeFailed := by
  decide +kernel

end Oxpulse.Transport
