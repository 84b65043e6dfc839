import VariableExplorer.Proofs.Remote.Conduct

/-!
What a request comes to. It is settled by what the client meets on the way: whether the session is
open, whether the time to wait can be waited, whether the pipe is free and takes the command, and
what arrives first that is not thrown away.
-/

namespace VariableExplorer.Remote.Client

variable {ω ε : Type}

/-- The first arrival that a call is handed anything of, and what that is. -/
def First (id : Int) (inbox : List (Arrival ω ε)) (r : Except Trouble (Message ω ε)) : Prop :=
  ∃ stale a rest, inbox = stale ++ a :: rest ∧ (∀ b ∈ stale, accept id b = none) ∧
    accept id a = some r

section

variable {id : Int} {inbox : List (Arrival ω ε)} {r : Except Trouble (Message ω ε)}

theorem fst_read_eq_none_iff : (read id inbox).1 = none ↔ ∀ a ∈ inbox, accept id a = none := by
  induction inbox with
  | nil => simp [read]
  | cons a rest ih =>
    rw [read, List.forall_mem_cons]
    cases h : accept id a with
    | none => simpa using ih
    | some r => simp

theorem fst_read_eq_some_iff : (read id inbox).1 = some r ↔ First id inbox r := by
  induction inbox with
  | nil => simp [read, First]
  | cons a rest ih =>
    rw [read]
    cases h : accept id a with
    | some r' =>
      constructor
      · rintro ⟨⟩
        exact ⟨[], a, rest, rfl, by simp, h⟩
      · rintro ⟨stale, b, later, hinbox, hstale, hb⟩
        cases stale with
        | nil =>
          obtain ⟨rfl, rfl⟩ := List.cons.inj hinbox
          exact h.symm.trans hb
        | cons s stale =>
          obtain ⟨rfl, -⟩ := List.cons.inj hinbox
          cases h.symm.trans (hstale _ List.mem_cons_self)
    | none =>
      refine ih.trans ⟨?_, ?_⟩
      · rintro ⟨stale, b, later, rfl, hstale, hb⟩
        exact ⟨a :: stale, b, later, rfl, List.forall_mem_cons.mpr ⟨h, hstale⟩, hb⟩
      · rintro ⟨stale, b, later, hinbox, hstale, hb⟩
        cases stale with
        | nil =>
          obtain ⟨rfl, -⟩ := List.cons.inj hinbox
          cases h.symm.trans hb
        | cons s stale =>
          obtain ⟨-, rfl⟩ := List.cons.inj hinbox
          exact ⟨stale, b, later, rfl, (List.forall_mem_cons.mp hstale).2, hb⟩

end

/-- What a call is handed that has sent its command under the next number. -/
def handed (c : Client ω ε) (patient : Bool) : Except Trouble (Message ω ε) :=
  (found c.nextId patient c.inbox).1.getD (.error c.absence)

def judge : Except Trouble (Message ω ε) → Except Trouble (Message ω ε)
  | .error t => .error t
  | .ok m => if m.ok then .ok m else .error (.refused (m.error.getD "kernel request failed"))

def reply (c : Client ω ε) (wait : Seconds) : Except Trouble (Message ω ε) :=
  if c.closed then .error .closed
  else match waitTrouble? wait with
    | some t => .error t
    | none =>
      if c.troubles.busy then .error .busy
      else match c.troubles.send with
        | some f => .error (.fault f)
        | none => judge (c.handed (Patient wait))

/-- What a request leaves of the client. A number is used up even if the command cannot be sent. -/
def after (c : Client ω ε) (command : Command) (wait : Seconds) : Client ω ε :=
  if c.closed then c
  else match waitTrouble? wait with
    | some _ => c
    | none =>
      if c.troubles.busy then c
      else match c.troubles.send with
        | some _ => { c with nextId := c.nextId + 1 }
        | none => { c with
          nextId := c.nextId + 1
          sent := c.sent ++ [(c.nextId, command)]
          inbox := (found c.nextId (Patient wait) c.inbox).2 }

theorem exchange_run_eq (command : Command) (patient : Bool) (c : Client ω ε) :
    (exchange command patient).run c = match c.troubles.send with
      | some f => (.error (.fault f), { c with nextId := c.nextId + 1 })
      | none => (judge (c.handed patient), { c with
        nextId := c.nextId + 1
        sent := c.sent ++ [(c.nextId, command)]
        inbox := (found c.nextId patient c.inbox).2 }) := by
  have hissue := issue_run command c
  cases hsend : c.troubles.send with
  | some f =>
    rw [hsend] at hissue
    exact run_bind_of_error hissue
  | none =>
    rw [hsend] at hissue
    rw [exchange, run_bind_of_ok hissue]
    have hreceive := receive_run c.nextId patient
      { c with nextId := c.nextId + 1, sent := c.sent ++ [(c.nextId, command)] }
    show _ = (judge ((found c.nextId patient c.inbox).1.getD (.error c.absence)), _)
    cases hhanded : (found c.nextId patient c.inbox).1.getD (.error c.absence) with
    | error t => exact run_bind_of_error (hreceive.trans (congrArg (·, _) hhanded))
    | ok m =>
      rw [run_bind_of_ok (hreceive.trans (congrArg (·, _) hhanded)), judge]
      cases m.ok <;> rfl

theorem request_run_eq (command : Command) (timeout : Option Seconds) (c : Client ω ε) :
    (request command timeout).run c = (c.reply (timeout.getD c.defaultTimeout),
      c.after command (timeout.getD c.defaultTimeout)) := by
  rw [request, run_bind_of_ok (run_get c), reply, after]
  generalize timeout.getD c.defaultTimeout = wait
  by_cases hclosed : c.closed = true
  · rw [if_pos hclosed, if_pos hclosed, if_pos hclosed]
    rfl
  · rw [if_neg hclosed, if_neg hclosed, if_neg hclosed]
    dsimp only
    cases waitTrouble? wait with
    | some t => rfl
    | none =>
      by_cases hbusy : c.troubles.busy = true
      · simp only [if_pos hbusy]
        rfl
      · simp only [if_neg hbusy]
        refine (exchange_run_eq command (Patient wait) c).trans ?_
        cases c.troubles.send <;> rfl

end VariableExplorer.Remote.Client
