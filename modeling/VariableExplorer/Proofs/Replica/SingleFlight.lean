import VariableExplorer.Proofs.Replica.Latest

/-!
One refresh at a time. While a refresh keeps the place every other one is dropped, so that what two
refreshes ask is never mixed; and whichever way a refresh ends, the place is free again.
-/

namespace VariableExplorer.Replica.Interplay

open Refresh

variable {ι : Type} {w : Interplay ι}

structure SingleFlight (w : Interplay ι) : Prop where
  unique : ∀ t u n m, w.Holds t n → w.Holds u m → t = u ∧ n = m
  refreshing : w.replica.state = .refreshing ↔ ∃ t n, w.Holds t n
  released : ∀ t n b, .ended n b ∈ w.log → ¬ w.Holds t n
  /-- All calls of a refresh come before those of later ones. -/
  ordered : (w.log.filterMap Event.asker?).Pairwise (· ≥ ·)
  /-- A refresh asks in the order of its stages, and evaluates in the first global frame. -/
  calls : ∀ n, ∃ f env x, callsOf n w.log <+: script w.replica.timeout f env x ∧
    (3 ≤ (callsOf n w.log).length → ∃ frames e, globalFrame? frames = some f ∧
      (answersOf n w.log)[1]? = some (.frames ⟨.ok, some (.many frames), e⟩))

theorem state_eq_refreshing {m : Replica ι} : m.state = .refreshing ↔ m.busy = true := by
  cases h : m.busy <;> simp [state, h]

theorem state_eq_idle {m : Replica ι} : m.state = .idle ↔ m.busy = false := by
  cases h : m.busy <;> simp [state, h]

theorem Place.holds_unique (h : Place w) {t u n m : Nat} (hn : w.Holds t n) (hm : w.Holds u m) :
    t = u ∧ n = m := by
  obtain ⟨a, ha, hah, rfl⟩ := hn
  obtain ⟨b, hb, hbh, rfl⟩ := hm
  cases h with
  | free _ hpast => exact absurd hah (hpast t a ha).1
  | taken t' c rest hbusy ht hc hnum hrest hother hend =>
    have hplace : Place w := .taken t' c rest hbusy ht hc hnum hrest hother hend
    obtain ⟨rfl, rfl⟩ := hplace.eq_of_holds ht hc ha hah
    obtain ⟨rfl, rfl⟩ := hplace.eq_of_holds ht hc hb hbh
    exact ⟨rfl, rfl⟩

theorem Place.refreshing_iff (h : Place w) :
    w.replica.state = .refreshing ↔ ∃ t n, w.Holds t n := by
  rw [state_eq_refreshing]
  cases h with
  | free hb hpast =>
    refine iff_of_false (by simp [hb]) ?_
    rintro ⟨t, n, a, ha, hah, -⟩
    exact (hpast t a ha).1 hah
  | taken t a rest hb ht ha =>
    exact iff_of_true hb ⟨t, a.number, a, by simp [ht], ha, rfl⟩

theorem Place.released (h : Place w) {t n : Nat} {b : Bool} (hn : .ended n b ∈ w.log) :
    ¬ w.Holds t n := by
  rintro ⟨a, ha, hah, rfl⟩
  cases h with
  | free _ hpast => exact (hpast t a ha).1 hah
  | taken t' c rest hbusy ht hc hnum hrest hother hend =>
    obtain ⟨rfl, rfl⟩ := Place.eq_of_holds (.taken t' c rest hbusy ht hc hnum hrest hother hend)
      ht hc ha hah
    exact Nat.lt_irrefl _ (hend _ b hn)

theorem Recorded.calls (h : Recorded w) (n : Nat) :
    ∃ f env x, callsOf n w.log <+: script w.replica.timeout f env x ∧
      (3 ≤ (callsOf n w.log).length → ∃ frames e, globalFrame? frames = some f ∧
        (answersOf n w.log)[1]? = some (.frames ⟨.ok, some (.many frames), e⟩)) := by
  rcases h.talks n with ⟨hcalls, -⟩ | ⟨p, hp⟩
  · rw [hcalls]
    exact ⟨default, "", "", List.nil_prefix, by simp⟩
  · exact Talk.calls hp

theorem Sound.singleFlight (h : Sound w) : SingleFlight w where
  unique _ _ _ _ := h.place.holds_unique
  refreshing := h.place.refreshing_iff
  released _ _ _ := h.place.released
  ordered := h.recorded.ordered
  calls := h.recorded.calls

/-- At most one refresh is under way in any interplay; while there is one, asking for another does
nothing, also in a rehearsal; and there is none once nothing else goes on. -/
theorem single_flight [BEq ι] :
    (∀ w : Interplay ι, Reachable w → SingleFlight w ∧ ∀ t apart, w.replica.state = .refreshing →
      w.request t apart = { w with log := .refused :: w.log }) ∧
    (∀ (inner : List Rehearsal.Action → Rehearsal.Acting Unit) (r : Rehearsal),
      (∀ a reply, r.replica.state = .refreshing → Rehearsal.Dropped a reply →
        (Rehearsal.act inner a).run r = (reply, r)) ∧
      (r.replica.state = .idle →
        (Rehearsal.act inner .noThread).run r = (.failed .noThread, r))) ∧
    (∀ (script : Script) (timeout : Option Seconds) (as : List Rehearsal.Action),
      ∃ w, Reachable w ∧ w.Quiet ∧ w.replica.state = .idle ∧
        w.replica = ((Rehearsal.performAll as).run
          { script := script, replica := { timeout := timeout } }).2.replica) := by
  refine ⟨fun w h ↦ ⟨h.sound.singleFlight, fun t apart hb ↦ ?_⟩,
    fun inner r ↦ ⟨fun a reply hb ha ↦ ?_, fun hb ↦ ?_⟩, fun script timeout as ↦ ?_⟩
  · exact request_of_busy (state_eq_refreshing.mp hb) t apart
  · exact Rehearsal.act_of_busy (state_eq_refreshing.mp hb) ha
  · exact Rehearsal.act_noThread (state_eq_idle.mp hb)
  · obtain ⟨w, hw, hquiet, hreplica⟩ := Rehearsal.replica_reachable script timeout as
    refine ⟨w, hw, hquiet, ?_, hreplica⟩
    cases hstate : w.replica.state with
    | idle => rfl
    | refreshing =>
      obtain ⟨t, n, a, ha, -⟩ := hw.sound.place.refreshing_iff.mp hstate
      simp [hquiet t] at ha

end VariableExplorer.Replica.Interplay
