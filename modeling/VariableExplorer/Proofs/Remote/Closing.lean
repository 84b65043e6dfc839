import Mathlib.Logic.Relation
import VariableExplorer.Proofs.Remote.Inquiry

/-!
Closing a session. Whatever ordinary failures the pipe and the process meet with, closing comes to
its end and the session is closed; and a closed session stays so: it refuses every call and is left
by each as it was.
-/

namespace VariableExplorer.Remote.Client

open Relation

variable {ω ε α β : Type} {c c' : Client ω ε} {t : Trouble}

/-- Whatever goes wrong is an ordinary failure. -/
structure Mild (c : Client ω ε) : Prop where
  send : ∀ f, c.troubles.send = some f → f.isOrdinary = true
  close : ∀ f, c.troubles.close = some f → f.isOrdinary = true
  process : ∀ f, c.troubles.process = some f → f.isOrdinary = true
  inbox : ∀ f, .raises f ∈ c.inbox → f.isOrdinary = true

/-- Nothing happens to the session itself. -/
structure Spares (c c' : Client ω ε) : Prop where
  closed : c'.closed = c.closed
  sent : c'.sent = c.sent

/-- What the pipe and the process do: it spares the session and fails in ordinary ways only. -/
def Outside (x : Acting ω ε α) : Prop := ∀ c, c.Mild → (x.run c).2.Mild ∧ Spares c (x.run c).2 ∧
  ∀ t, (x.run c).1 = .error t → t.toFault.isOrdinary = true

namespace Outside

variable {x : Acting ω ε α} {f : α → Acting ω ε β}

theorem pure (a : α) : Outside (Pure.pure a : Acting ω ε α) :=
  fun _ hc ↦ ⟨hc, ⟨rfl, rfl⟩, nofun⟩

theorem bind (hx : Outside x) (hf : ∀ a, Outside (f a)) : Outside (x >>= f) := by
  intro c hc
  obtain ⟨hmild, hspares, hordinary⟩ := hx c hc
  rcases hrun : x.run c with ⟨r, d⟩
  rw [hrun] at hmild hspares hordinary
  cases r with
  | error t =>
    rw [run_bind_of_error hrun]
    exact ⟨hmild, hspares, fun t ht ↦ hordinary t (by cases ht; rfl)⟩
  | ok a =>
    rw [run_bind_of_ok hrun]
    obtain ⟨hmild', hspares', hordinary'⟩ := hf a d hmild
    exact ⟨hmild', ⟨hspares'.closed.trans hspares.closed, hspares'.sent.trans hspares.sent⟩,
      hordinary'⟩

theorem whenM {b : Acting ω ε Bool} {y : Acting ω ε Unit} (hb : Outside b) (hy : Outside y) :
    Outside (do if ← b then y) := by
  refine hb.bind fun alive ↦ ?_
  cases alive with
  | true => exact hy
  | false => exact pure ()

end Outside

theorem absorb_run {x : Acting ω ε Unit}
    (h : ∀ t, (x.run c).1 = .error t → t.toFault.isOrdinary = true) :
    (absorb x).run c = (.ok (), (x.run c).2) := by
  rcases hx : x.run c with ⟨r, d⟩
  rw [hx] at h
  cases r with
  | ok => exact run_tryCatch_of_ok hx
  | error t =>
    rw [absorb, run_tryCatch_of_error hx, if_pos (h t rfl)]
    rfl

/-! ### The request to close -/

theorem found_suffix (id : Int) (patient : Bool) (inbox : List (Arrival ω ε)) :
    (found id patient inbox).2 <:+ inbox := by
  cases patient with
  | false => exact List.suffix_refl _
  | true =>
    show (read id inbox).2 <:+ inbox
    induction inbox with
    | nil => exact List.suffix_refl _
    | cons a rest ih =>
      rw [read]
      cases accept id a with
      | some r => exact List.suffix_cons a rest
      | none => exact ih.trans (List.suffix_cons a rest)

theorem Mild.after (h : c.Mild) (command : Command) (wait : Seconds) :
    (c.after command wait).Mild ∧ (c.after command wait).closed = c.closed ∧
      ((c.after command wait).sent = c.sent ∨
        (c.after command wait).sent = c.sent ++ [(c.nextId, command)]) := by
  rw [Client.after]
  split
  · exact ⟨h, rfl, .inl rfl⟩
  split
  · exact ⟨h, rfl, .inl rfl⟩
  split
  · exact ⟨h, rfl, .inl rfl⟩
  split
  · exact ⟨⟨h.send, h.close, h.process, h.inbox⟩, rfl, .inl rfl⟩
  · refine ⟨⟨h.send, h.close, h.process, fun f hf ↦ ?_⟩, rfl, .inr rfl⟩
    exact h.inbox f ((found_suffix _ _ _).subset hf)

theorem Mild.ordinary_of_handed (h : c.Mild) {patient : Bool}
    (ht : c.handed patient = .error t) : t.toFault.isOrdinary = true := by
  obtain ⟨-, stale, a, rest, hinbox, -, ha⟩ | ⟨-, habsence⟩ := handed_eq_iff.mp ht
  · obtain rfl | ⟨f, rfl, rfl⟩ := accept_of_error ha
    · rfl
    · apply h.inbox f
      rw [hinbox]
      exact List.mem_append_right _ List.mem_cons_self
  · cases habsence
    rw [absence]
    cases hprocess : c.troubles.process with
    | some f => exact h.process f hprocess
    | none =>
      dsimp only
      cases c.process.alive <;> rfl

theorem Mild.ordinary_of_reply (h : c.Mild) {wait : Seconds} (ht : c.reply wait = .error t) :
    t.toFault.isOrdinary = true := by
  rw [reply] at ht
  split at ht
  · cases ht
    rfl
  split at ht
  next t' hwait =>
    cases ht
    obtain rfl | rfl | rfl := waitTrouble?_eq_some hwait <;> rfl
  next =>
    split at ht
    · cases ht
      rfl
    split at ht
    next f hsend =>
      cases ht
      exact h.send f hsend
    next =>
      cases hhanded : c.handed (Patient wait) with
      | error t' =>
        rw [hhanded] at ht
        cases ht
        exact h.ordinary_of_handed hhanded
      | ok m =>
        rw [hhanded, judge] at ht
        split at ht <;> cases ht
        rfl

/-! ### Closing -/

/-- Closing a session whose process and pipe do no more than concerns themselves. -/
structure Shutdown.Outside (s : Shutdown ω ε) : Prop where
  isAlive : ∀ i, Client.Outside (s.isAlive i)
  join : ∀ i, Client.Outside (s.join i)
  terminate : Client.Outside s.terminate
  closePipe : Client.Outside s.closePipe

theorem isAlive_outside : Outside (isAlive : Acting ω ε Bool) := by
  intro c hc
  rw [isAlive_run]
  refine ⟨hc, ⟨rfl, rfl⟩, fun t ht ↦ ?_⟩
  cases hprocess : c.troubles.process with
  | none =>
    rw [hprocess] at ht
    cases ht
  | some f =>
    rw [hprocess] at ht
    cases ht
    exact hc.process f hprocess

theorem closePipe_outside : Outside (closePipe : Acting ω ε Unit) := by
  intro c hc
  rw [closePipe, run_bind_of_ok (run_get c)]
  cases hclose : c.troubles.close with
  | none => exact ⟨⟨hc.send, hc.close, hc.process, hc.inbox⟩, ⟨rfl, rfl⟩, nofun⟩
  | some f =>
    refine ⟨hc, ⟨rfl, rfl⟩, fun t ht ↦ ?_⟩
    cases ht
    exact hc.close f hclose

theorem shutdown_outside : (shutdown : Shutdown ω ε).Outside where
  isAlive _ := isAlive_outside
  join _ := fun _ hc ↦ ⟨⟨hc.send, hc.close, hc.process, hc.inbox⟩, ⟨rfl, rfl⟩, nofun⟩
  terminate := fun _ hc ↦ ⟨⟨hc.send, hc.close, hc.process, hc.inbox⟩, ⟨rfl, rfl⟩, nofun⟩
  closePipe := closePipe_outside

theorem Shutdown.Outside.ask {s : Shutdown ω ε} (hs : s.Outside) (hc : c.Mild) : ∃ r d,
    (do
      if ← s.isAlive 0 then
        let _ ← request .close (some closeTime) : Acting ω ε Unit).run c = (r, d) ∧ d.Mild ∧
    (d.sent = c.sent ∨ ∃ id, d.sent = c.sent ++ [(id, .close)]) ∧
    ∀ t, r = .error t → t.toFault.isOrdinary = true := by
  -- Whether the process lives is asked of it, and only a living one is sent the request to close.
  obtain ⟨hmild, hspares, hordinary⟩ := hs.isAlive 0 c hc
  rcases hrun : (s.isAlive 0).run c with ⟨r, d⟩
  rw [hrun] at hmild hspares hordinary
  dsimp only at hmild hspares hordinary
  cases r with
  | error t =>
    exact ⟨_, _, run_bind_of_error hrun, hmild, .inl hspares.sent,
      fun t ht ↦ hordinary t (by cases ht; rfl)⟩
  | ok alive =>
    rw [run_bind_of_ok hrun]
    cases alive with
    | false => exact ⟨_, _, rfl, hmild, .inl hspares.sent, nofun⟩
    | true =>
      obtain ⟨hmild', -, hsent⟩ := hmild.after .close closeTime
      rw [hspares.sent] at hsent
      have hsent : (d.after .close closeTime).sent = c.sent ∨
          ∃ id, (d.after .close closeTime).sent = c.sent ++ [(id, .close)] :=
        hsent.imp_right fun h ↦ ⟨_, h⟩
      have hrequest := request_run_eq .close (some closeTime) d
      cases hreply : d.reply closeTime with
      | error t =>
        refine ⟨.error t, _, run_bind_of_error (hrequest.trans ?_), hmild', hsent, ?_⟩
        · rw [Option.getD_some, hreply]
        · intro t' ht'
          cases ht'
          exact hmild.ordinary_of_reply hreply
      | ok m =>
        refine ⟨.ok (), _, (run_bind_of_ok (a := m) (hrequest.trans ?_)).trans rfl, hmild', hsent,
          nofun⟩
        rw [Option.getD_some, hreply]

theorem closeBy_run_of_closed (s : Shutdown ω ε) (h : c.closed = true) :
    (closeBy s).run c = (.ok (), c) := by
  rw [closeBy, run_bind_of_ok (run_get c), if_pos h]
  rfl

theorem Outside.absorb_run {x : Acting ω ε Unit} (hx : Outside x) (hc : c.Mild) :
    ∃ d, (absorb x).run c = (.ok (), d) ∧ d.Mild ∧ Spares c d := by
  obtain ⟨hmild, hspares, hordinary⟩ := hx c hc
  exact ⟨_, Client.absorb_run hordinary, hmild, hspares⟩

/-- Closing comes to its end, whatever goes wrong on the way. -/
theorem Shutdown.Outside.closeBy_run {s : Shutdown ω ε} (hs : s.Outside) (hc : c.Mild) :
    ∃ d, (closeBy s).run c = (.ok (), d) ∧ d.closed = true ∧
      (d.sent = c.sent ∨ ∃ id, d.sent = c.sent ++ [(id, .close)]) := by
  by_cases hclosed : c.closed = true
  · exact ⟨c, closeBy_run_of_closed s hclosed, hclosed, .inl rfl⟩
  obtain ⟨r, asked, hask, hmild, hsent, hordinary⟩ := hs.ask hc
  have hasked := Client.absorb_run (x := do
    if ← s.isAlive 0 then
      let _ ← request .close (some closeTime)) (c := c) (by rw [hask]; exact hordinary)
  rw [hask] at hasked
  let marked : Client ω ε := { asked with closed := true }
  have hmarked : marked.Mild := ⟨hmild.send, hmild.close, hmild.process, hmild.inbox⟩
  have hmark : (modify fun c ↦ { c with closed := true } : Acting ω ε PUnit).run asked =
      (.ok ⟨⟩, marked) := rfl
  obtain ⟨waited, hwait, hwaited, hspares₁⟩ :=
    ((hs.isAlive 1).whenM (hs.join 0)).absorb_run hmarked
  obtain ⟨ended, hend, hended, hspares₂⟩ :=
    ((hs.isAlive 2).whenM (hs.terminate.bind fun _ ↦ hs.join 1)).absorb_run hwaited
  obtain ⟨d, hpipe, -, hspares₃⟩ := hs.closePipe.absorb_run hended
  have hsame : d.sent = asked.sent :=
    hspares₃.sent.trans (hspares₂.sent.trans hspares₁.sent)
  refine ⟨d, ?_, hspares₃.closed.trans (hspares₂.closed.trans hspares₁.closed), hsame ▸ hsent⟩
  rw [closeBy, run_bind_of_ok (run_get c), if_neg hclosed, run_bind_of_ok hasked,
    run_bind_of_ok hmark, run_bind_of_ok hwait, run_bind_of_ok hend, hpipe]

/-! ### Afterwards -/

def closedReport : String := "RuntimeError: kernel session is closed"

/-- A session that refuses every call and does nothing over it. -/
structure Refuses (c : Client ω ε) : Prop where
  inquiry : ∀ i : Inquiry, i.call.run c =
    (.ok (if i.cancelled then .cancelled else .transportError closedReport), c)
  execute : ∀ code tag, (execute code tag).run c = (.error .closed, c)
  push : ∀ vars, (push vars).run c = (.error .closed, c)
  isRunning : isRunning.run c = (.ok false, c)
  close : ∀ s : Shutdown ω ε, (closeBy s).run c = (.ok (), c)

theorem request_run_of_closed (h : c.closed = true) (command : Command)
    (timeout : Option Seconds) : (request command timeout).run c = (.error .closed, c) := by
  rw [request_run_eq, reply, Client.after, if_pos h, if_pos h]

theorem refuses_of_closed (h : c.closed = true) : c.Refuses where
  inquiry i := by
    rw [i.call_eq]
    cases i.cancelled with
    | true => rfl
    | false =>
      simp only [Bool.false_eq_true, if_false]
      rw [inquire_run, reply, Client.after, if_pos h, if_pos h]
      rfl
  execute code tag := run_bind_of_error (request_run_of_closed h _ _)
  push vars := run_bind_of_error (request_run_of_closed h _ _)
  isRunning := by
    rw [Client.isRunning, run_bind_of_ok (run_get c), if_pos h]
    rfl
  close s := closeBy_run_of_closed s h

inductive Deed
  | inquire (i : Inquiry)
  | execute (code : String) (tag : Option String)
  | push (vars : List (String × Recipe))
  | isRunning
  | close

def Deed.after (c : Client ω ε) : Deed → Client ω ε
  | inquire i => ((i.call : Acting ω ε (Outcome ω)).run c).2
  | execute code tag => ((Client.execute code tag).run c).2
  | push vars => ((Client.push vars).run c).2
  | isRunning => (Client.isRunning.run c).2
  | close => (Client.close.run c).2

/-- What may happen next: a call from its beginning to its end, or something that is no call (the
worker, the pipe, the process, and calls that are under way), of which none opens the session. -/
inductive Next (c : Client ω ε) : Client ω ε → Prop
  | deed (d : Deed) : Next c (d.after c)
  | elsewhere {c' : Client ω ε} : (c.closed = true → c'.closed = true) → Next c c'

theorem Refuses.after_eq (h : c.Refuses) (d : Deed) : d.after c = c := by
  cases d with
  | inquire i => exact congrArg Prod.snd (h.inquiry i)
  | execute code tag => exact congrArg Prod.snd (h.execute code tag)
  | push vars => exact congrArg Prod.snd (h.push vars)
  | isRunning => exact congrArg Prod.snd h.isRunning
  | close => exact congrArg Prod.snd (h.close shutdown)

theorem Next.closed (h : Next c c') (hc : c.closed = true) : c'.closed = true := by
  cases h with
  | deed d => rwa [(refuses_of_closed hc).after_eq d]
  | elsewhere h => exact h hc

theorem closed_of_reachable (h : ReflTransGen Next c c') (hc : c.closed = true) :
    c'.closed = true := by
  induction h with
  | refl => exact hc
  | tail _ hnext ih => exact hnext.closed ih

/-- Whatever the process and the pipe do, as long as they fail in ordinary ways only: closing comes
to its end with the session closed, having asked the worker at most once; and whatever happens from
then on, every call is refused and nothing is done over it. -/
theorem closed_for_good (s : Shutdown ω ε) (hs : s.Outside) (c : Client ω ε) (hc : c.Mild) :
    ∃ c', (closeBy s).run c = (.ok (), c') ∧ c'.closed = true ∧
      (c'.sent = c.sent ∨ ∃ id, c'.sent = c.sent ++ [(id, .close)]) ∧
      ∀ d, ReflTransGen Next c' d → d.Refuses := by
  obtain ⟨c', hrun, hclosed, hsent⟩ := hs.closeBy_run hc
  exact ⟨c', hrun, hclosed, hsent, fun d hd ↦ refuses_of_closed (closed_of_reachable hd hclosed)⟩

/-- A worker that is hung and a pipe that fails in every way. -/
theorem closed_for_good_hung : ∃ c' : Client Unit Unit,
    close.run { process := { stubborn := true }
                troubles := {
                  send := some (.raised "BrokenPipeError" none)
                  close := some (.raised "OSError" none) } } = (.ok (), c') ∧
      c'.closed = true ∧ ∀ d, ReflTransGen Next c' d → d.Refuses := by
  obtain ⟨c', hrun, hclosed, -, hrefuses⟩ := closed_for_good (ω := Unit) (ε := Unit) shutdown
    shutdown_outside { process := { stubborn := true }
                       troubles := {
                        send := some (.raised "BrokenPipeError" none)
                        close := some (.raised "OSError" none) } }
    ⟨by simp; decide, by simp; decide, by simp, by simp⟩
  exact ⟨c', hrun, hclosed, hrefuses⟩

/-- Asking whether the process is alive is interrupted, and the session stays open. -/
theorem close_interrupted : ¬ ∀ c : Client Unit Unit,
    ∃ c', close.run c = (.ok (), c') ∧ c'.closed = true := by
  intro h
  obtain ⟨c', hrun, -⟩ :=
    h { troubles := { process := some (.raised "KeyboardInterrupt" (some "stop")) } }
  cases congrArg Prod.fst hrun

end VariableExplorer.Remote.Client
