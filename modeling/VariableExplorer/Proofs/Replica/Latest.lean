import VariableExplorer.Proofs.Rehearsal.Conduct
import VariableExplorer.Proofs.Replica.Record

/-!
The snapshot of a replica is that of the latest refresh that passed all its stages. Nothing else
that happens touches it, however the session answers and whatever goes on meanwhile.
-/

namespace VariableExplorer.Replica.Interplay

open Refresh Function

variable {ι : Type}

/-- The refresh has passed all its stages, and its last answer listed these variables. -/
def Passed (w : Interplay ι) (n : Nat) (infos : List ValueInfo) : Prop :=
  Passes (answersOf n w.log) infos

inductive Latest (w : Interplay ι) : Prop
  | none : (∀ n infos, ¬ w.Passed n infos) → w.replica.snapshot = {} → Latest w
  | passed (n : Nat) (infos : List ValueInfo) : w.Passed n infos →
      (∀ m infos, w.Passed m infos → m ≤ n) → w.replica.snapshot = .ofInfos infos → Latest w

/-- The snapshot stays, and no refresh comes to pass. -/
def Kept (w w' : Interplay ι) : Prop :=
  w'.replica.snapshot = w.replica.snapshot ∧ ∀ n infos, w'.Passed n infos ↔ w.Passed n infos

/-- A refresh, the latest that has begun, comes to pass, and its variables make up the snapshot. -/
structure Renewed (w w' : Interplay ι) (n : Nat) (infos : List ValueInfo) : Prop where
  passed : w'.Passed n infos
  before : ∀ infos, ¬ w.Passed n infos
  others : ∀ m ≠ n, ∀ infos, w'.Passed m infos ↔ w.Passed m infos
  latest : n + 1 = w'.begun
  snapshot : w'.replica.snapshot = .ofInfos infos

variable {w w' : Interplay ι}

theorem Kept.of_answers (hsnapshot : w'.replica.snapshot = w.replica.snapshot)
    (h : ∀ n, answersOf n w'.log = answersOf n w.log) : Kept w w' :=
  ⟨hsnapshot, fun n infos ↦ by rw [Passed, Passed, h]⟩

theorem Passed.not_silent {n : Nat} {infos : List ValueInfo} (h : w.Passed n infos) :
    ¬ w.Silent n := by
  rintro ⟨-, hanswers⟩
  rw [Passed, hanswers] at h
  cases h

/-- A refresh that has passed has begun, so what begins from then on has another number. -/
theorem Recorded.begun_of_passed (hrec : Recorded w) {n : Nat} {infos : List ValueInfo}
    (h : w.Passed n infos) : n < w.begun := by
  by_contra hlt
  exact h.not_silent (hrec.unbegun n (by omega))

theorem LedTo.not_passed {n : Nat} {p : Progress} (h : w.LedTo n p)
    (hp : ∀ snapshot, p ≠ .done (some snapshot)) (infos : List ValueInfo) : ¬ w.Passed n infos :=
  fun hn ↦ hp _ (h.found_iff.mpr ⟨infos, hn, rfl⟩)

theorem Kept.tell (t n : Nat) (s : Snapshot) (rest : List (Activity ι)) (ls : List ι) :
    Kept w (w.tell t n s rest ls) := by
  cases ls <;> exact .of_answers rfl fun _ ↦ rfl

theorem answer_turn (hplace : Place w) (h : Recorded w) {t n : Nat} {s : Stage}
    {rest : List (Activity ι)} (a : Answer) (ht : w.threads t = .asking n s :: rest) :
    Kept w (w.answer t n s rest a) ∨ ∃ infos, Renewed w (w.answer t n s rest a) n infos := by
  obtain ⟨-, hnum, -⟩ := hplace.of_holds ht trivial
  have hled := h.asking t n s (by simp [ht])
  have hbefore := hled.not_passed (by simp)
  have hafter := hled.answer t rest a
  have hothers (m : Nat) (hm : m ≠ n) (infos : List ValueInfo) :
      (w.answer t n s rest a).Passed m infos ↔ w.Passed m infos := by
    rw [Passed, Passed, answersOf_answer _ _ _ _ hm]
  by_cases hfound : ∃ x, s.next a = .done (some x)
  · obtain ⟨x, hx⟩ := hfound
    obtain ⟨infos, hpassed, rfl⟩ := hafter.found_iff.mp hx
    refine .inr ⟨infos, hpassed, hbefore, hothers, (answer_begun ..).symm ▸ hnum, ?_⟩
    simp only [answer, hx, settle_snapshot, Option.getD_some]
  · refine .inl ⟨?_, fun m infos ↦ ?_⟩
    · unfold answer
      split
      · rfl
      · rfl
      next x hx => exact absurd ⟨x, hx⟩ hfound
    · by_cases hm : m = n
      · subst hm
        exact iff_of_false (hafter.not_passed (fun x hx ↦ hfound ⟨x, hx⟩) infos) (hbefore infos)
      · exact hothers m hm infos

theorem step_turn [BEq ι] (hplace : Place w) (h : Recorded w) (hs : Step w w') :
    Kept w w' ∨ ∃ n infos, Renewed w w' n infos := by
  cases hs with
  | request t apart hact =>
    refine .inl ?_
    cases hb : w.replica.busy with
    | true =>
      rw [request_of_busy hb]
      exact .of_answers rfl fun _ ↦ rfl
    | false =>
      rw [request_of_free hb]
      cases apart <;> exact .of_answers rfl fun _ ↦ rfl
  | start | failStart | listen | unlisten => exact .inl (.of_answers rfl fun _ ↦ rfl)
  | @answer t n s rest a ht =>
    exact (answer_turn hplace h a ht).imp_right fun ⟨infos, h⟩ ↦ ⟨n, infos, h⟩
  | announce ht => exact .inl (.tell ..)
  | tell ht => exact .inl (.tell ..)

theorem Latest.step [BEq ι] (h : Latest w) (hplace : Place w) (hrec : Recorded w)
    (hs : Step w w') : Latest w' := by
  rcases step_turn hplace hrec hs with ⟨hsnapshot, hpassed⟩ | ⟨n, infos, hnew⟩
  · cases h with
    | none hnone hempty =>
      exact .none (fun n infos ↦ (hpassed n infos).not.mpr (hnone n infos)) (hsnapshot.trans hempty)
    | passed n infos hn hlast hinfos =>
      exact .passed n infos ((hpassed n infos).mpr hn)
        (fun m infos hm ↦ hlast m infos ((hpassed m infos).mp hm)) (hsnapshot.trans hinfos)
  · refine .passed n infos hnew.passed (fun m infos hm ↦ ?_) hnew.snapshot
    have hbegun := (hrec.step hplace hs).begun_of_passed hm
    have hnewest := hnew.latest
    omega

structure Sound (w : Interplay ι) : Prop where
  place : Place w
  recorded : Recorded w
  latest : Latest w

theorem Sound.step [BEq ι] (h : Sound w) (hs : Step w w') : Sound w' :=
  ⟨h.place.step hs, h.recorded.step h.place hs, h.latest.step h.place h.recorded hs⟩

theorem Sound.init {timeout : Option Seconds} :
    Sound (ι := ι) { replica := { timeout := timeout } } :=
  ⟨.init, .init, .none (fun _ _ hn ↦ by cases hn) rfl⟩

theorem Reachable.sound [BEq ι] (h : Reachable w) : Sound w := by
  obtain ⟨timeout, hrun⟩ := h
  induction hrun with
  | refl => exact .init
  | tail _ hs ih => exact ih.step hs

/-- In any interplay the snapshot is that of the latest refresh that passed; it changes only when
one comes to pass. The replica of any rehearsal is that of such an interplay. -/
theorem snapshot_latest [BEq ι] :
    (∀ w : Interplay ι, Reachable w → Latest w) ∧
    (∀ w w' : Interplay ι, Reachable w → Step w w' →
      Kept w w' ∨ ∃ n infos, Renewed w w' n infos) ∧
    (∀ (script : Script) (timeout : Option Seconds) (as : List Rehearsal.Action),
      ∃ w, Reachable w ∧ w.replica = ((Rehearsal.performAll as).run
        { script := script, replica := { timeout := timeout } }).2.replica) :=
  ⟨fun _ h ↦ h.sound.latest, fun _ _ h hs ↦ step_turn h.sound.place h.sound.recorded hs,
    fun script timeout as ↦ (Rehearsal.replica_reachable script timeout as).imp
      fun _ h ↦ ⟨h.1, h.2.2⟩⟩

end VariableExplorer.Replica.Interplay
