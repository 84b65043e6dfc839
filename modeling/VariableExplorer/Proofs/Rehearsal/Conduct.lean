import VariableExplorer.Proofs.Replica.Conduct
import VariableExplorer.Proofs.Suggestion.Prompt
import VariableExplorer.Rehearsal.Run

/-!
Whatever is done in a rehearsal, its replica is that of some interplay.
-/

namespace VariableExplorer.Rehearsal

open Replica

theorem carries : Carries Rehearsal.replica where
  get _ := rfl
  set _ _ := rfl
  modify _ _ := rfl

/-- A computation whose parts can be carried out by a thread of an interplay. -/
abbrev Acting.Conducted {α : Type} (x : Acting α) : Prop := Replica.Conducted Rehearsal.replica x

variable {inner : List Action → Acting Unit}

theorem ask_conducted (hinner : ∀ plan, (inner plan).Conducted) (c : Call) :
    (ask inner c).Conducted := by
  have hanswer : Acting.Conducted (do return (← getThe Rehearsal).script.answer c) :=
    .of_view fun _ ↦ rfl
  have hcall : Acting.Conducted (do
      modifyThe Rehearsal fun r ↦ { r with calls := r.calls ++ [c] }
      inner (← takeHooks c)
      return (← getThe Rehearsal).script.answer c) := by
    refine .bind (.of_view fun _ ↦ rfl) fun _ ↦ .bind (.of_view fun r ↦ ?_) fun plan ↦
      .bind (hinner plan) fun _ ↦ hanswer
    simp only [takeHooks, StateT.run]
    split <;> rfl
  cases c with
  | isRunning => exact hanswer
  | traceback | evaluate | children => exact hcall

theorem tell_conducted (hinner : ∀ plan, (inner plan).Conducted) (s : Snapshot) (l : Nat) :
    (tell inner s l).Conducted := by
  refine .bind (.of_view fun _ ↦ rfl) fun r ↦ ?_
  split
  · exact .pure _
  · exact .bind (.of_view fun _ ↦ rfl) fun _ ↦ hinner _

theorem members_conducted (hinner : ∀ plan, (inner plan).Conducted) (p : Provider) (s : Snapshot)
    (path : Option String) (max : Int) (cancellable : Bool) (w : Wait) :
    (p.members s (ask inner) path max cancellable w).Conducted :=
  p.members_composed Conducted.composed (ask_conducted hinner) s path max cancellable w

theorem suggest_conducted (hinner : ∀ plan, (inner plan).Conducted) (p : Provider) (s : Snapshot)
    (text : String) (w : Wait) : Acting.Conducted (p.suggest s (ask inner) text w) :=
  p.suggest_composed Conducted.composed (.of_view fun _ ↦ rfl) (fun _ ↦ .of_view fun _ ↦ rfl)
    (ask_conducted hinner) s text w

theorem act_conducted (hinner : ∀ plan, (inner plan).Conducted) (a : Action) :
    (act inner a).Conducted := by
  have hrefresh : Acting.Conducted (Replica.refresh (ask inner) (tell inner)) :=
    .refresh carries (ask_conducted hinner) (tell_conducted hinner)
  refine fun r ↦ .bind (.of_view rfl) ?_
  cases a with
  | refresh => exact hrefresh.bind (fun _ ↦ .pure _) r
  | notify =>
    exact Conducted.bind (.forM (fun _ ↦ hrefresh.bind fun _ ↦ .pure _) _) (fun _ ↦ .pure _) r
  | mutated => exact hrefresh.bind (fun _ ↦ .pure _) r
  | background =>
    dsimp only
    split
    · exact .of_view rfl
    · refine Conducted.bind
        (.refreshApart_started carries (ask_conducted hinner) (tell_conducted hinner))
        (fun handover ↦ ?_) r
      cases handover <;> exact .pure _
  | noThread =>
    refine Conducted.bind (.refreshApart_failed carries) (fun handover ↦ ?_) r
    cases handover <;> exact .pure _
  | listen label plan => exact .of_listen (l := r.made.length) rfl
  | unlisten label =>
    dsimp only
    split
    · exact .of_view rfl
    next token _ => exact .of_unlisten (l := token) rfl
  | members path max cancel blocked =>
    refine Conducted.bind (members_conducted hinner _ _ _ _ _ _) (fun found ↦ ?_) r
    cases found <;> cases blocked
    · exact .pure _
    · exact .bind (.of_view fun _ ↦ rfl) fun _ ↦ .pure _
    · exact .pure _
    · exact .bind (.of_view fun _ ↦ rfl) fun _ ↦ .pure _
  | suggest text limit =>
    refine .bind (.of_view rfl) (Conducted.bind (suggest_conducted hinner _ _ _ _) (fun s ↦ ?_) _)
    cases s <;> exact .pure _
  | view label =>
    dsimp only
    split <;> exact .of_view rfl
  | _ => exact .of_view rfl

theorem follow_conducted (depth : Nat) (plan : List Action) : (follow depth plan).Conducted := by
  induction depth generalizing plan with
  | zero => exact .pure _
  | succ depth ih =>
    exact .forM (fun a ↦ .bind (act_conducted ih a) fun _ ↦ .of_view fun _ ↦ rfl) plan

def performAll (as : List Action) : Acting Unit := as.forM fun a ↦ do let _ ← perform a

theorem replica_reachable (script : Script) (timeout : Option Seconds) (as : List Action) :
    ∃ w, Interplay.Reachable w ∧ w.Quiet ∧ w.replica =
      ((performAll as).run { script := script, replica := { timeout := timeout } }).2.replica := by
  have hall : (performAll as).Conducted :=
    .forM (fun a ↦ .bind (act_conducted (follow_conducted _) a) fun _ ↦ .pure _) as
  obtain ⟨w, hrun, hw, ht⟩ := hall { script := script, replica := { timeout := timeout } }
    { replica := { timeout := timeout } } 0 rfl trivial ⟨0, fun _ _ ↦ rfl⟩
  exact ⟨w, ⟨timeout, hrun⟩, fun t ↦ congrFun ht t, hw⟩

/-- Actions that ask for a refresh, with what they reply while another one is under way. -/
inductive Dropped : Action → Reply → Prop
  | refresh : Dropped .refresh (.flag false)
  | notify : Dropped .notify .done
  | mutated : Dropped .mutated .done
  | background : Dropped .background (.flag false)
  | noThread : Dropped .noThread .done

theorem forM_run_eq {σ α : Type} {f : α → StateM σ Unit} {s : σ} (as : List α)
    (h : ∀ a, (f a).run s = ((), s)) : (as.forM f).run s = ((), s) := by
  induction as with
  | nil => rfl
  | cons a as ih =>
    show StateT.run (f a >>= fun _ ↦ as.forM f) s = _
    rw [StateT.run_bind, h]
    exact ih

theorem act_of_busy {r : Rehearsal} (hb : r.replica.busy = true) {a : Action} {reply : Reply}
    (h : Dropped a reply) : (act inner a).run r = (reply, r) := by
  have hget : (getThe Rehearsal : Acting Rehearsal).run r = pure (r, r) := rfl
  have hrefresh : (Replica.refresh (ask inner) (tell inner)).run r = pure (false, r) :=
    refresh_of_busy carries (ask inner) (tell inner) hb
  have happart {α : Type} (start : Acting Bool → Acting (Option α)) :
      (refreshApart (ask inner) (tell inner) start).run r = pure (.dropped, r) :=
    refreshApart_of_busy carries (ask inner) (tell inner) start hb
  have hnotify (us : List Unit) : StateT.run (us.forM fun _ ↦ (do
      let _ ← Replica.refresh (ask inner) (tell inner) : Acting Unit)) r = pure ((), r) :=
    forM_run_eq us fun _ ↦ by
      simp only [StateT.run_bind, hrefresh, pure_bind]
      rfl
  cases h with
  | refresh | mutated => simp only [act, StateT.run_bind, hget, pure_bind, hrefresh]; rfl
  | notify => simp only [act, Subscribers.notify, StateT.run_bind, hget, pure_bind, hnotify]; rfl
  | background =>
    simp only [act, StateT.run_bind, hget, pure_bind]
    split
    · rfl
    · simp only [StateT.run_bind, happart, pure_bind]
      rfl
  | noThread => simp only [act, StateT.run_bind, hget, pure_bind, happart]; rfl

theorem act_noThread {r : Rehearsal} (hb : r.replica.busy = false) :
    (act inner .noThread).run r = (.failed .noThread, r) := by
  obtain ⟨script, subscribers, ⟨timeout, snapshot, busy, listeners⟩⟩ := r
  cases hb
  rfl

end VariableExplorer.Rehearsal
