import VariableExplorer.Handover.Work
import VariableExplorer.Proofs.Handover.Workshop
import VariableExplorer.Proofs.Running

/-!
A bench is a workshop in which one thread after another does all that it has to do. Whatever is done
on a bench, its dispatcher is one that a workshop comes to.
-/

namespace VariableExplorer

open Dispatcher Function Relation

namespace Workshop

variable {ω ρ : Type} {d d' : Dispatcher ω ρ} {current : Option Nat}

/-- A workshop comes to this dispatcher when nobody is between two steps, while the loop runs a job
or none. -/
def Attains (current : Option Nat) (d : Dispatcher ω ρ) : Prop :=
  ∃ s : Workshop ω ρ, s.Reachable ∧ s.dispatcher = d ∧ (∀ a, s.phases a = .idle) ∧
    s.current = current

theorem Attains.init : Attains none ({} : Dispatcher ω ρ) :=
  ⟨{}, .refl, rfl, fun _ ↦ rfl, rfl⟩

theorem update_idle {s : Workshop ω ρ} (h : ∀ a, s.phases a = .idle) (b : Agent) {p : Phase ω}
    (a : Agent) : update (update s.phases b p) b .idle a = .idle := by
  rw [update_idem]
  by_cases ha : a = b
  · rw [ha, update_self]
  · rw [update_of_ne ha, h a]

theorem Attains.submit (h : Attains current d) {work : ω} {n : Nat}
    (hsubmit : d.submit work = .ok (d', n)) : Attains current d' := by
  obtain ⟨s, hs, rfl, hidle, hcurrent⟩ := h
  rw [Dispatcher.submit] at hsubmit
  split at hsubmit
  next hopen =>
    obtain ⟨rfl, -⟩ := Prod.mk.inj (Except.ok.inj hsubmit)
    have hlook : Reachable _ := hs.tail (.look work (acts_other _ 0) (hidle _) hopen)
    have hput : Reachable _ := hlook.tail (.put (acts_other _ 0) (enter_phases_self ..))
    exact ⟨_, hput, rfl, update_idle hidle _, hcurrent⟩
  next => cases hsubmit

theorem Attains.close (h : Attains current d) : Attains current d.close := by
  obtain ⟨s, hs, rfl, hidle, hcurrent⟩ := h
  rw [Dispatcher.close]
  split
  · exact ⟨s, hs, rfl, hidle, hcurrent⟩
  next hopen =>
    have hopen : s.dispatcher.takesWork = true := by simpa [takesWork] using hopen
    have hlook : Reachable _ := hs.tail (.lookToClose (acts_other _ 0) (hidle _) hopen)
    have hrefuse : Reachable _ := hlook.tail (.refuse (acts_other _ 0) (enter_phases_self ..))
    have hmark : Reachable _ := hrefuse.tail (.mark (acts_other _ 0) (by simp))
    refine ⟨_, hmark, rfl, fun a ↦ ?_, hcurrent⟩
    show update (update (update s.phases _ _) _ _) _ _ a = _
    rw [update_idem]
    exact update_idle hidle _ a

theorem Attains.cancel (h : Attains current d) (n : Nat) : Attains current (d.cancel n).1 := by
  obtain ⟨s, hs, rfl, hidle, hcurrent⟩ := h
  exact ⟨_, hs.tail (.cancel n), rfl, hidle, hcurrent⟩

theorem Attains.take (h : Attains none d) : Attains (d.take.2.map (·.1)) d.take.1 := by
  obtain ⟨s, hs, rfl, hidle, hcurrent⟩ := h
  cases hended : s.dispatcher.ended with
  | true =>
    have htake : s.dispatcher.take = (s.dispatcher, none) := by rw [Dispatcher.take, if_pos hended]
    rw [htake]
    exact ⟨s, hs, rfl, hidle, hcurrent⟩
  | false =>
    cases hqueue : s.dispatcher.queue with
    | nil =>
      have htake : s.dispatcher.take = (s.dispatcher, none) := by
        rw [Dispatcher.take, hended, hqueue]
        rfl
      rw [htake]
      exact ⟨s, hs, rfl, hidle, hcurrent⟩
    | cons e rest => exact ⟨_, hs.tail (.take hcurrent hended hqueue), rfl, hidle, rfl⟩

theorem Attains.finish {n : Nat} (h : Attains (some n) d) (r : Except Fault ρ) :
    Attains none (d.finish n r) := by
  obtain ⟨s, hs, rfl, hidle, hcurrent⟩ := h
  exact ⟨_, hs.tail (.finish r hcurrent (hidle _)), rfl, hidle, rfl⟩

end Workshop

namespace WorkBench

open Workshop

variable {α β γ : Type}

/-- What is done while the loop is idle, or runs a job, is done in a workshop. -/
def Keeps (current : Option Nat) (x : Acting α β) : Prop :=
  ∀ b : WorkBench α, Attains current b.dispatcher → Attains current (x.run b).2.dispatcher

namespace Keeps

variable {current : Option Nat} {x : Acting α β}

theorem pure (v : β) : Keeps current (Pure.pure v : Acting α β) := fun _ hb ↦ hb

theorem bind {f : β → Acting α γ} (hx : Keeps current x) (hf : ∀ v, Keeps current (f v)) :
    Keeps current (x >>= f) :=
  fun b hb ↦ hf (x.run b).1 (x.run b).2 (hx b hb)

theorem getThe {f : WorkBench α → Acting α β}
    (hf : ∀ b : WorkBench α, Attains current b.dispatcher →
      Attains current ((f b).run b).2.dispatcher) :
    Keeps current (MonadStateOf.get >>= f : Acting α β) := fun b hb ↦ hf b hb

theorem mapM {ι : Type} {f : ι → Acting α β} (hf : ∀ i, Keeps current (f i)) (is : List ι) :
    Keeps current (is.mapM f) := by
  induction is with
  | nil =>
    rw [List.mapM_nil]
    exact pure _
  | cons i is ih =>
    rw [List.mapM_cons]
    exact (hf i).bind fun v ↦ ih.bind fun vs ↦ pure _

end Keeps

variable {current : Option Nat}

theorem record_keeps (tag : α) (args : List α) : Keeps current (record tag args) := fun _ hb ↦ hb

theorem closing_keeps : Keeps current (modifyThe (WorkBench α) fun b ↦
    { b with dispatcher := b.dispatcher.close } : Acting α PUnit) := fun _ hb ↦ hb.close

theorem run_keeps (w : Work α) : Keeps current (run w) := by
  induction w with
  | gives tag args v => exact (record_keeps tag args).bind fun _ ↦ .pure _
  | raises tag args f => exact (record_keeps tag args).bind fun _ ↦ .pure _
  | switches tag args inner ih => exact (record_keeps tag args).bind fun _ ↦ ih
  | closes tag args v =>
    exact (record_keeps tag args).bind fun _ ↦ closing_keeps.bind fun _ ↦ .pure _

theorem turn_keeps : Keeps none (turn run : Acting α Unit) := by
  intro b hb
  have htake := hb.take
  rcases hfound : b.dispatcher.take with ⟨d, found⟩
  rw [hfound] at htake
  have htaken : (modifyGetThe (Dispatcher (Work α) α) fun d ↦
      let (d, found) := d.take
      (found, d) : Acting α (Option (Nat × Work α))).run b =
        (found, { b with dispatcher := d }) := by
    show ((b.dispatcher.take.2, { b with dispatcher := b.dispatcher.take.1 }) : _ × WorkBench α) = _
    rw [hfound]
  rw [turn, run_bind htaken]
  cases found with
  | none => exact htake
  | some job => exact (run_keeps job.2 _ htake).finish _

theorem turns_keeps (n : Nat) : Keeps none (turns run n : Acting α Unit) := by
  induction n with
  | zero => exact .pure _
  | succ n ih => exact turn_keeps.bind fun _ ↦ ih

theorem drain_keeps : Keeps none (drain run : Acting α Unit) := fun b hb ↦ turns_keeps _ b hb

theorem submitAll_keeps (ws : List (Work α)) : Keeps none (submitAll ws) := by
  induction ws with
  | nil => exact .pure _
  | cons w ws ih =>
    refine .getThe fun b hb ↦ ?_
    cases hsubmit : b.dispatcher.submit w with
    | error f => exact hb
    | ok p =>
      obtain ⟨d, n⟩ := p
      have hput : Attains none d := hb.submit hsubmit
      exact (ih.bind fun _ ↦ .pure _) { b with dispatcher := d } hput

theorem await_keeps (w : Work α) : Keeps none (await w) := by
  refine (submitAll_keeps [w]).bind fun r ↦ ?_
  cases r with
  | error f => exact .pure _
  | ok ns =>
    refine drain_keeps.bind fun _ ↦ .getThe fun b hb ↦ ?_
    dsimp only
    split <;> exact hb

theorem flush_keeps (ws : List (Work α)) : Keeps none (flush ws) := by
  refine (submitAll_keeps ws).bind fun r ↦ ?_
  cases r with
  | error f => exact .pure _
  | ok ns => exact drain_keeps.bind fun _ ↦ .getThe fun b hb ↦ hb

theorem cancelSome_keeps (ws : List (Work α × Bool)) : Keeps none (cancelSome ws) := by
  refine (submitAll_keeps _).bind fun r ↦ ?_
  cases r with
  | error f => exact .pure _
  | ok ns =>
    refine Keeps.bind (Keeps.mapM (fun p ↦ ?_) _) fun said ↦ ?_
    · exact fun b hb ↦ hb.cancel p.1
    · exact drain_keeps.bind fun _ ↦ .getThe fun b hb ↦ hb

theorem close_keeps : Keeps none (close : Acting α Unit) := closing_keeps.bind fun _ ↦ drain_keeps

/-- A bench at which some things were done. -/
inductive Used : WorkBench α → Prop
  | new : Used {}
  | await {b : WorkBench α} (w : Work α) : Used b → Used ((await w).run b).2
  | flush {b : WorkBench α} (ws : List (Work α)) : Used b → Used ((flush ws).run b).2
  | cancelSome {b : WorkBench α} (ws : List (Work α × Bool)) :
      Used b → Used ((cancelSome ws).run b).2
  | close {b : WorkBench α} : Used b → Used (close.run b).2

theorem Used.attains {b : WorkBench α} (h : Used b) : Attains none b.dispatcher := by
  induction h with
  | new => exact .init
  | await w _ ih => exact await_keeps w _ ih
  | flush ws _ ih => exact flush_keeps ws _ ih
  | cancelSome ws _ ih => exact cancelSome_keeps ws _ ih
  | close _ ih => exact close_keeps _ ih

end WorkBench

end VariableExplorer
