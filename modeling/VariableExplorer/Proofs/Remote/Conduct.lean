import VariableExplorer.Proofs.Remote.Turns
import VariableExplorer.Proofs.Running

/-!
A client's request is a call of some traffic: it takes its turn, sends its command, and reads what
has arrived up to its reply.
-/

namespace VariableExplorer.Remote

open Function

namespace Client

variable {ω ε : Type} {c c' : Client ω ε}

/-- What a call reads that has any time to wait, and what it leaves. -/
def found (id : Int) (patient : Bool) (inbox : List (Arrival ω ε)) :
    Option (Except Trouble (Message ω ε)) × List (Arrival ω ε) :=
  if patient then read id inbox else (none, inbox)

theorem run_get (c : Client ω ε) :
    (MonadState.get : Acting ω ε (Client ω ε)).run c = (.ok c, c) := rfl

theorem isAlive_run (c : Client ω ε) : isAlive.run c =
    (match c.troubles.process with
      | some f => .error (.fault f)
      | none => .ok c.process.alive, c) := by
  rw [isAlive, run_bind_of_ok (run_get c)]
  cases c.troubles.process <;> rfl

def absence (c : Client ω ε) : Trouble :=
  match c.troubles.process with
  | some f => .fault f
  | none => if c.process.alive then .noReply else .exited

theorem receive_run (id : Int) (patient : Bool) (c : Client ω ε) : (receive id patient).run c =
    ((found id patient c.inbox).1.getD (.error c.absence),
      { c with inbox := (found id patient c.inbox).2 }) := by
  have hfound : (if patient then read id c.inbox else (none, c.inbox)) =
      found id patient c.inbox := rfl
  rw [receive, run_bind_of_ok (run_get c), hfound]
  rcases found id patient c.inbox with ⟨_ | _ | m, rest⟩
  · have hset : (MonadState.set { c with inbox := rest } : Acting ω ε PUnit).run c =
        (.ok ⟨⟩, { c with inbox := rest }) := rfl
    have halive := isAlive_run { c with inbox := rest }
    refine (run_bind_of_ok hset).trans ?_
    rw [absence]
    cases hprocess : c.troubles.process with
    | some f =>
      simp only [hprocess] at halive
      exact run_bind_of_error halive
    | none =>
      simp only [hprocess] at halive
      refine (run_bind_of_ok halive).trans ?_
      cases c.process.alive <;> rfl
  · rfl
  · rfl

theorem exchange_run (command : Command) (patient : Bool) (c : Client ω ε) :
    (∃ t c', (issue command).run c = (.error t, c') ∧
      (exchange command patient).run c = (.error t, c')) ∨
    ∃ id c' r, (issue command).run c = (.ok id, c') ∧
      (exchange command patient).run c = (r, { c' with inbox := (found id patient c'.inbox).2 }) ∧
      ∀ m, r = .ok m → (found id patient c'.inbox).1 = some (.ok m) ∧ m.ok = true := by
  rcases hissue : (issue command).run c with ⟨t | id, c'⟩
  · exact .inl ⟨t, c', rfl, run_bind_of_error hissue⟩
  have hreceive := receive_run id patient c'
  refine .inr ⟨id, c', ?_⟩
  rw [exchange, run_bind_of_ok hissue]
  rcases hfound : found id patient c'.inbox with ⟨_ | t | m, rest⟩ <;> rw [hfound] at hreceive
  · exact ⟨.error _, rfl, run_bind_of_error hreceive, fun m hm ↦ by cases hm⟩
  · exact ⟨.error _, rfl, run_bind_of_error hreceive, fun m hm ↦ by cases hm⟩
  rw [run_bind_of_ok hreceive]
  cases hok : m.ok with
  | true => exact ⟨.ok m, rfl, rfl, fun m' hm ↦ by cases hm; exact ⟨rfl, hok⟩⟩
  | false => exact ⟨.error _, rfl, rfl, fun m hm ↦ by cases hm⟩

theorem request_run (command : Command) (timeout : Option Seconds) (c : Client ω ε) :
    (∃ t, (request command timeout).run c = (.error t, c)) ∨
    ∃ patient, (request command timeout).run c = (exchange command patient).run c := by
  rw [request, run_bind_of_ok (run_get c)]
  cases hclosed : c.closed with
  | true => exact .inl ⟨.closed, rfl⟩
  | false =>
    simp only [Bool.false_eq_true, if_false]
    split
    next t _ => exact .inl ⟨t, rfl⟩
    next =>
      split
      · exact .inl ⟨.busy, rfl⟩
      · exact .inr ⟨_, rfl⟩

end Client

namespace Traffic

variable {cells : String → Cell} {pid : Int} {w : Traffic} {c : Nat}

theorem read_run (cells : String → Cell) (pid : Int) {id : Int}
    (hc : w.phases c = .reading id) : ∃ w', Run cells pid w w' ∧ w'.issued = w.issued ∧
    w'.client = { w.client with inbox := (Client.read id w.client.inbox).2 } ∧
    match (Client.read id w.client.inbox).1 with
    | none => w'.phases c = .reading id
    | some r => w'.phases c = outcome id r ∧ w'.holder = none := by
  generalize hinbox : w.client.inbox = inbox
  induction inbox generalizing w with
  | nil => exact ⟨w, .refl, rfl, by rw [Client.read, ← hinbox], hc⟩
  | cons a rest ih =>
    cases ha : Client.accept id a with
    | some r =>
      refine ⟨_, .single (.receive hc hinbox ha), rfl, ?_⟩
      simp only [Client.read, ha]
      exact ⟨rfl, update_self .., rfl⟩
    | none =>
      obtain ⟨w', hrun, hissued, hclient, hphase⟩ := ih (w := w.take c a rest) hc rfl
      have hread : Client.read id (a :: rest) = Client.read id rest := by
        simp only [Client.read, ha]
      rw [hread]
      exact ⟨w', .head (.discard hc hinbox ha) hrun, hissued, hclient, hphase⟩

/-- A request to a client whose pipe is free is a call of the traffic: it moves the client on as
some run does, and what it returns is what the call is handed. -/
theorem request_conducted (hc : w.phases c = .idle) (hfree : w.holder = none) (command : Command)
    (timeout : Option Seconds) : ∃ w', Run cells pid w w' ∧ w'.holder = none ∧
      w'.client = ((Client.request command timeout).run w.client).2 ∧
      ∀ m, ((Client.request command timeout).run w.client).1 = .ok m →
        m.ok = true ∧ ∃ id, w'.phases c = .handed id m ∧ (c, id, command) ∈ w'.issued := by
  have hcalled : Step cells pid w (w.put c (.waiting command)) := .call c command hc
  have hwaits : (w.put c (.waiting command)).phases c = .waiting command := update_self ..
  let held : Traffic :=
    { (w.put c (.waiting command)).put c (.holding command) with holder := some c }
  have hheld : Run cells pid w held := .tail (.single hcalled) (.acquire hwaits hfree)
  have hholds : held.phases c = .holding command := update_self ..
  -- It gives up before it has the pipe, when it sends, or when it reads; else it is handed a reply.
  obtain ⟨t, hrequest⟩ | ⟨patient, hrequest⟩ := Client.request_run command timeout w.client
  · rw [hrequest]
    exact ⟨_, .tail (.single hcalled) (.giveUp hwaits), hfree, rfl, fun m hm ↦ by cases hm⟩
  obtain ⟨t, client, hissue, hexchange⟩ | ⟨id, client, r, hissue, hexchange, hr⟩ :=
    Client.exchange_run command patient w.client
  · rw [hrequest, hexchange]
    exact ⟨_, hheld.tail (.sendFails hholds hissue), rfl, rfl, fun m hm ↦ by cases hm⟩
  rw [hrequest, hexchange]
  have hsent : Run cells pid w (held.send c command id client) :=
    hheld.tail (.send hholds hissue)
  have hreads : (held.send c command id client).phases c = .reading id := update_self ..
  cases patient with
  | false =>
    exact ⟨_, hsent.tail (.abandon hreads), rfl, rfl, fun m hm ↦ by cases (hr m hm).1⟩
  | true =>
    have hfound : Client.found id true client.inbox = Client.read id client.inbox := if_pos rfl
    rw [hfound] at hr ⊢
    obtain ⟨w', hrun, hissued, hclient, hphase⟩ := read_run cells pid hreads
    have hown : (c, id, command) ∈ w'.issued := by
      rw [hissued]
      exact List.mem_append_right _ (List.mem_singleton_self _)
    have hclient : w'.client = { client with inbox := (Client.read id client.inbox).2 } := hclient
    have hphase : match (Client.read id client.inbox).1 with
      | none => w'.phases c = .reading id
      | some r => w'.phases c = outcome id r ∧ w'.holder = none := hphase
    split at hphase
    next hnone =>
      refine ⟨_, (hsent.trans hrun).tail (.abandon hphase), rfl, hclient, fun m hm ↦ ?_⟩
      cases hnone.symm.trans (hr m hm).1
    next r' hsome =>
      refine ⟨w', hsent.trans hrun, hphase.2, hclient, fun m hm ↦ ?_⟩
      cases hsome.symm.trans (hr m hm).1
      exact ⟨(hr m hm).2, id, hphase.1, hown⟩

end Traffic

end VariableExplorer.Remote
