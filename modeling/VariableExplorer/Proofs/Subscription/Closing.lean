import Mathlib.Data.List.Perm.Subperm
import VariableExplorer.Proofs.Replica.Interplay
import VariableExplorer.Proofs.Subscription.Cancelling
import VariableExplorer.Proofs.Subscription.Hall

/-!
Those who have unsubscribed. A notification goes by the list as it was when it began: so it may
still call somebody who has unsubscribed since, but one that begins later will not.
-/

namespace VariableExplorer

open Exchange Function

namespace Exchange

variable {κ : Type} [DecidableEq κ]

theorem erase_subperm_kept {log : List (Event κ)} {i : Nat} {c : κ}
    (hi : (added log)[i]? = some c) :
    List.Subperm (((kept 0 log).map (·.2)).erase c)
      ((kept 0 (log ++ [.cancelled i])).map (·.2)) := by
  by_cases hmem : (i, c) ∈ kept 0 log
  · obtain ⟨as, bs, hsplit⟩ := List.append_of_mem hmem
    have hrest : kept 0 (log ++ [.cancelled i]) = as ++ bs := by
      rw [kept_append_cancelled, hsplit, filter_eq_append (hsplit ▸ pairwise_kept 0 log)]
    have hperm : (kept 0 log).Perm ((i, c) :: (as ++ bs)) := by
      rw [hsplit]
      exact List.perm_middle
    have herase := (hperm.map (·.2)).erase c
    rw [List.map_cons, List.erase_cons_head] at herase
    rw [hrest]
    exact herase.subperm
  · rw [kept_cancelled_of_notMem (by simpa [hi] using hmem)]
    exact List.erase_subperm _ _

/-- Whoever is on the list has a subscription whose own unsubscriber has not been called. -/
theorem subperm_kept (log : List (Event κ)) :
    List.Subperm (Standing.replay {} log).subscribers.callbacks ((kept 0 log).map (·.2)) := by
  induction log using List.reverseRecOn with
  | nil => exact List.Subperm.refl _
  | append_singleton log ev ih =>
    have hmade : (Standing.replay {} log).made = added log := by simpa using made_replay log {}
    rw [replay_snoc]
    cases ev with
    | added c =>
      rw [kept_append_added, List.map_append]
      exact (List.subperm_append_right _).mpr ih
    | cancelled i =>
      cases hi : (added log)[i]? with
      | none =>
        rw [kept_cancelled_of_notMem (by simp [hi])]
        simpa [Standing.step, Standing.cancel, hmade, hi] using ih
      | some c =>
        rw [step_subscribers_cancelled (by rw [hmade, hi])]
        exact (ih.erase c).trans (erase_subperm_kept hi)
    | _ =>
      rw [kept_append_of_ne (by simp) (by simp)]
      exact ih

theorem ne_of_mem_kept_append {log : List (Event κ)} {i : Nat} (hi : i < (added log).length)
    (h : ∀ a ∈ kept 0 log, a.1 ≠ i) (more : List (Event κ)) :
    ∀ a ∈ kept 0 (log ++ more), a.1 ≠ i := by
  induction more using List.reverseRecOn with
  | nil => simpa using h
  | append_singleton more ev ih =>
    rw [← List.append_assoc]
    cases ev with
    | added c =>
      intro a ha
      rw [kept_append_added] at ha
      obtain ha | ha := List.mem_append.mp ha
      · exact ih a ha
      · obtain rfl := List.mem_singleton.mp ha
        simp only [added_append, List.length_append]
        omega
    | cancelled j =>
      intro a ha
      rw [kept_append_cancelled] at ha
      exact ih a (List.mem_of_mem_filter ha)
    | _ =>
      rw [kept_append_of_ne (by simp) (by simp)]
      exact ih

end Exchange

namespace Hall

variable {κ : Type} [DecidableEq κ]

def Subscribed (log : List (Event κ)) (n i : Nat) (c : κ) : Prop :=
  ∃ before cs, before ++ [.began n cs] <+: log ∧ (i, c) ∈ kept 0 before

/-- After its unsubscriber has been called, a callback is called by notifications that had begun
before, and by those that find another subscription of it. -/
theorem Sound.invited_of_called {h h' : Hall κ} (hsound : Sound h) {i : Nat} {c : κ}
    (hi : (added h.log)[i]? = some c) (hrun : Run (h.cancel i) h') {n : Nat}
    (hcalled : .called n c ∈ h'.log) :
    Invited h.log n c ∨ ∃ j ≠ i, Subscribed h'.log n j c := by
  have hsound' : Sound h' := (hsound.step (.cancel h i)).run hrun
  have hprefix : h.log ++ [.cancelled i] <+: h'.log := hrun.log_prefix
  obtain ⟨before, hbefore, hc⟩ := hsound'.called n c hcalled
  obtain hle | hle := List.prefix_or_prefix_of_prefix hbefore hprefix
  · obtain heq | hle := List.prefix_concat_iff.mp hle
    · cases (List.append_inj' heq rfl).2
    · exact .inl ⟨before, hle, hc⟩
  · obtain heq | hle := List.prefix_concat_iff.mp hle
    · cases (List.append_inj' heq rfl).2
    · obtain ⟨more, rfl⟩ := hle
      obtain ⟨⟨j, d⟩, hj, rfl⟩ := List.mem_map.mp ((subperm_kept _).subset hc)
      have hgone : ∀ a ∈ kept 0 (h.log ++ [.cancelled i]), a.1 ≠ i := by
        intro a ha
        rw [kept_append_cancelled] at ha
        simpa using List.of_mem_filter ha
      have hlt : i < (added (h.log ++ [.cancelled i])).length := by
        obtain ⟨hlt, -⟩ := List.getElem?_eq_some_iff.mp hi
        simpa [added_cons_of_ne] using hlt
      exact .inr ⟨j, ne_of_mem_kept_append hlt hgone more _ hj, _, _, hbefore, hj⟩

end Hall

/-- A replica that follows the changes of a session, among other subscribers. -/
structure Following (κ ι : Type) where
  hall : Hall κ := {}
  interplay : Replica.Interplay ι
  /-- Each refresh that a notification led to, with that notification, the latest first. -/
  causes : List (Nat × Nat) := []

namespace Following

variable {κ ι : Type} [DecidableEq κ] [BEq ι]

/-- The replica is called by a notification, and refreshes if it can. -/
def mutated (f : Following κ ι) (h : Hall κ) (n t : Nat) (apart : Bool) : Following κ ι where
  hall := h
  interplay := f.interplay.request t apart
  causes := if f.interplay.replica.busy then f.causes else (f.interplay.begun, n) :: f.causes

/-- One thing happens. The callback of the replica is `me`; it leaves its refreshes to threads of
their own or not. -/
inductive Step (me : κ) (apart : Bool) : Following κ ι → Following κ ι → Prop
  | mutated {f : Following κ ι} {h : Hall κ} {n : Nat} (t : Nat) :
      f.hall.Step (.called n me) h → Replica.CanAct (f.interplay.threads t) →
      Step me apart f (f.mutated h n t apart)
  | other {f : Following κ ι} {ev : Event κ} {h : Hall κ} :
      f.hall.Step ev h → (∀ n, ev ≠ .called n me) → Step me apart f { f with hall := h }
  | replica {f : Following κ ι} {w : Replica.Interplay ι} :
      f.interplay.Step w → Step me apart f { f with interplay := w }

def close (f : Following κ ι) (i : Nat) : Following κ ι := { f with hall := f.hall.cancel i }

abbrev Run (me : κ) (apart : Bool) : Following κ ι → Following κ ι → Prop :=
  Relation.ReflTransGen (Step me apart)

variable {me : κ} {apart : Bool} {f f' : Following κ ι}

theorem Run.hall (h : Run me apart f f') : f.hall.Run f'.hall := by
  induction h with
  | refl => exact .refl
  | tail _ hstep ih =>
    cases hstep with
    | mutated t hstep _ => exact ih.tail ⟨_, hstep⟩
    | other hstep _ => exact ih.tail ⟨_, hstep⟩
    | replica _ => exact ih

theorem Run.called (h : Run me apart f f') :
    ∃ since, f'.causes = since ++ f.causes ∧ ∀ x ∈ since, .called x.2 me ∈ f'.hall.log := by
  induction h with
  | refl => exact ⟨[], rfl, by simp⟩
  | @tail g g' _ hstep ih =>
    obtain ⟨since, hcauses, hcalled⟩ := ih
    cases hstep with
    | @mutated h n t hstep _ =>
      have hlog := hstep.log_eq
      have hold : ∀ x ∈ since, .called x.2 me ∈ h.log := fun x hx ↦ by
        rw [hlog]
        exact List.mem_append_left _ (hcalled x hx)
      cases hbusy : g.interplay.replica.busy with
      | true => exact ⟨since, by simpa [Following.mutated, hbusy] using hcauses, hold⟩
      | false =>
        refine ⟨(g.interplay.begun, n) :: since, by simp [Following.mutated, hbusy, hcauses], ?_⟩
        refine List.forall_mem_cons.mpr ⟨?_, hold⟩
        show _ ∈ h.log
        rw [hlog]
        exact List.mem_append_right _ (by simp)
    | @other ev h hstep _ =>
      refine ⟨since, hcauses, fun x hx ↦ ?_⟩
      show _ ∈ h.log
      rw [hstep.log_eq]
      exact List.mem_append_left _ (hcalled x hx)
    | replica _ => exact ⟨since, hcauses, hcalled⟩

theorem invited_of_cause {i : Nat} (hsound : f.hall.Sound) (hi : (added f.hall.log)[i]? = some me)
    (hrun : Run me apart (f.close i) f') (honly : ∀ j, (added f'.hall.log)[j]? = some me → j = i) :
    ∃ since, f'.causes = since ++ f.causes ∧ ∀ x ∈ since, Hall.Invited f.hall.log x.2 me := by
  obtain ⟨since, hcauses, hcalled⟩ := hrun.called
  refine ⟨since, hcauses, fun x hx ↦ ?_⟩
  obtain h | ⟨j, hj, before, cs, hbefore, hmem⟩ :=
    hsound.invited_of_called hi hrun.hall (hcalled x hx)
  · exact h
  · have hget : (added before)[j]? = some me := (getElem?_added_of_mem_kept hmem).2
    obtain ⟨more, hmore⟩ := hbefore
    obtain ⟨hlt, -⟩ := List.getElem?_eq_some_iff.mp hget
    have hget' : (added f'.hall.log)[j]? = some me := by
      rw [← hmore, added_append, added_append, List.append_assoc, List.getElem?_append_left hlt]
      exact hget
    exact absurd (honly j hget') hj

end Following

/-- Code that uses the list, on whatever thread, goes by the steps of a hall. After an unsubscriber
has returned, its callback is called by a notification only if that had begun before, while the
callback was subscribed, or if another subscription of an equal callback was there when it began.
A replica that has been closed begins a refresh only for a notification that had begun before. -/
theorem Hall.silent_after_cancel (κ ι : Type) [DecidableEq κ] [BEq ι] :
    (∀ (p : Code κ) (e : Exchange κ) (threads : Nat → List (Nat × List κ)),
      Run ⟨e, threads⟩ ⟨(p.run.run e).2, threads⟩) ∧
    (∀ (h h' : Hall κ) (i : Nat) (c : κ), Run {} h → (added h.log)[i]? = some c →
      Run (h.cancel i) h' → ∀ n, .called n c ∈ h'.log →
        Invited h.log n c ∨ ∃ j ≠ i, Subscribed h'.log n j c) ∧
    ∀ (me : κ) (apart : Bool) (timeout : Option Seconds) (f f' : Following κ ι) (i : Nat),
      Following.Run me apart { interplay := { replica := { timeout := timeout } } } f →
      (added f.hall.log)[i]? = some me → Following.Run me apart (f.close i) f' →
      (∀ j, (added f'.hall.log)[j]? = some me → j = i) →
      ∃ since, f'.causes = since ++ f.causes ∧ ∀ x ∈ since, Invited f.hall.log x.2 me := by
  refine ⟨fun p e threads ↦ performs_code p e threads, ?_, ?_⟩
  · intro h h' i c hh hi hrun n hcalled
    exact (Sound.init.run hh).invited_of_called hi hrun hcalled
  · intro me apart timeout f f' i hf hi hrun honly
    exact Following.invited_of_cause (Sound.init.run hf.hall) hi hrun honly

/-- Of two callbacks, one has been called when the other unsubscribes. -/
theorem Hall.invited_of_late_call :
    ∃ h h' : Hall Nat, Run {} h ∧ (added h.log)[1]? = some 2 ∧ Run (h.cancel 1) h' ∧
      .called 0 2 ∉ h.log ∧ .called 0 2 ∈ h'.log ∧
      (Invited h.log 0 2 ∨ ∃ j ≠ 1, Subscribed h'.log 0 j 2) := by
  obtain ⟨h, hrun, ht, hlog⟩ : ∃ h : Hall Nat, Run {} h ∧ h.threads 0 = [(0, [2])] ∧
      h.log = [.added 1, .added 2, .began 0 [1, 2], .called 0 1] := by
    have hadd : Run ({} : Hall Nat) _ := .head ⟨_, .add _ 1⟩ (.single ⟨_, .add _ 2⟩)
    exact ⟨_, (hadd.tail ⟨_, .begin _ 0⟩).tail ⟨_, .call (t := 0) rfl⟩, rfl, rfl⟩
  have hlate : Run (h.cancel 1) _ := .single ⟨_, .call (t := 0) ht⟩
  refine ⟨h, _, hrun, by simp [hlog], hlate, by simp [hlog], by simp [Exchange.happen], ?_⟩
  exact (silent_after_cancel Nat Nat).2.1 h _ 1 2 hrun (by simp [hlog]) hlate 0
    (by simp [Exchange.happen])

/-- The first of two callbacks cancels the second, whose turn comes all the same. -/
theorem Hall.called_after_cancel :
    ¬ ∀ (p : Code Nat) (before after : List (Event Nat)) (i c : Nat),
      (p.run.run {}).2.log = before ++ .cancelled i :: after → (added before)[i]? = some c →
        ∀ n, .called n c ∉ after := by
  intro h
  let told (log : List (Event Nat)) : Code Nat :=
    if log.getLast? = some (.called 0 1) then .cancel 1 .done else .done
  have hcalled := h (.add 1 (.add 2 (.notify told .done)))
    [.added 1, .added 2, .began 0 [1, 2], .called 0 1] [.called 0 2, .ended 0] 1 2 rfl rfl 0
  exact hcalled (by simp)

end VariableExplorer
