import VariableExplorer.Proofs.Remote.Traffic

/-!
What a worker serves. It replies to the requests in their order, with what it would send if all of
them were there from the start.
-/

namespace VariableExplorer.Remote

/-- What arrives of a command: how long its caller waits does not. -/
def Command.plain : Command → Command
  | evaluate r => .evaluate { r with timeout := none }
  | children r => .children { r with timeout := none, cancellable := false }
  | command => command

theorem Request.command?_ofCommand {ι : Type} (id : ι) (command : Command) :
    (ofCommand id command).command? = .ok (some command.plain) := by
  cases command <;> rfl

/-- What a worker says of a command that it has carried out. -/
inductive Command.Gets : Command → Report → Prop
  | close : Gets .close .done
  | execute {code : String} {tag : Option String} (e : HistoryEntry) :
      Gets (.execute code tag) (.entry e)
  | push {vars : List (String × Recipe)} : Gets (.push vars) .done
  | traceback (o : Outcome (List StackFrame)) : Gets .traceback (.frames o)
  | evaluate {r : EvaluationRequest} (o : Outcome ValueInfo) : Gets (.evaluate r) (.value o)
  | children {r : ChildrenRequest} (o : Outcome (List ValueInfo)) :
      Gets (.children r) (.values o)

theorem Command.Gets.ok {command : Command} {report : Report} (h : command.Gets report) :
    report.ok = true := by
  cases h <;> rfl

namespace Worker

variable {ι : Type} {cells : String → Cell} {k : ServedKernel}

theorem serve_cons (i : Incoming ι) (rest : List (Incoming ι)) :
    (serve cells k (i :: rest)).sent = (answer cells k i).1.toList ++
      (answer cells k i).2.elim [] fun k ↦ (serve cells k rest).sent := by
  rw [serve]
  rcases answer cells k i with ⟨reply, _ | k⟩ <;> simp [Service.after]

theorem serve_append (xs ys : List (Incoming ι)) :
    (serve cells k xs).sent <+: (serve cells k (xs ++ ys)).sent := by
  induction xs generalizing k with
  | nil => exact List.nil_prefix
  | cons x xs ih =>
    rw [List.cons_append, serve_cons, serve_cons, List.prefix_append_right_inj]
    cases (answer cells k x).2 with
    | none => exact List.nil_prefix
    | some k => exact ih

theorem lastWords_eq_some {f : Fault} {reply : Reply ι} (h : lastWords f = some reply) :
    reply.id = none ∧ reply.report.ok = false := by
  unfold lastWords at h
  split at h
  · cases h
  · cases h
    exact ⟨rfl, rfl⟩

theorem lastWords_of_stop {f : Fault} (h : f.isOrdinary = false) :
    (lastWords f : Option (Reply ι)) = none := if_pos (by simp [h])

theorem answer_request {r : Request ι} {reply : Option (Reply ι)} {kernel : Option ServedKernel}
    (h : answer cells k (.request r) = (reply, kernel)) :
    (∃ report, reply = some ⟨some r.id, report⟩) ∨ kernel = none ∧
      ∀ reply' ∈ reply, reply'.id = none ∧ reply'.report.ok = false := by
  have hlast (f : Fault) (h : ((lastWords f : Option (Reply ι)), none) = (reply, kernel)) :
      kernel = none ∧ ∀ reply' ∈ reply, reply'.id = none ∧ reply'.report.ok = false := by
    obtain ⟨rfl, rfl⟩ := Prod.mk.inj h
    exact ⟨rfl, fun _ ↦ lastWords_eq_some⟩
  simp only [answer] at h
  split at h
  · exact .inr (hlast _ h)
  · exact .inl ⟨_, (Prod.mk.inj h).1.symm⟩
  · exact .inl ⟨_, (Prod.mk.inj h).1.symm⟩
  · split at h
    · exact .inr (hlast _ h)
    · exact .inl ⟨_, (Prod.mk.inj h).1.symm⟩

theorem carryOut_plain (k : ServedKernel) (command : Command) :
    carryOut cells k command.plain = carryOut cells k command := by
  cases command <;> rfl

theorem carryOut_gets {command : Command} {report : Report}
    (h : (carryOut cells k command).1 = .ok report) : command.Gets report := by
  have hmap {α : Type} {f : α → Report} (hf : ∀ a, command.Gets (f a)) {r : Except Fault α}
      (hr : r.map f = .ok report) : command.Gets report := by
    cases r with
    | error => cases hr
    | ok a =>
      cases hr
      exact hf a
  cases command with
  | close =>
    cases h
    exact .close
  | traceback =>
    cases h
    exact .traceback _
  | execute => exact hmap .execute h
  | push => exact hmap (fun _ ↦ .push) h
  | evaluate => exact hmap .evaluate h
  | children => exact hmap .children h

theorem answer_ofCommand (cells : String → Cell) (k : ServedKernel) {command : Command}
    (h : command ≠ .close) (id : ι) :
    answer cells k (.request (.ofCommand id command)) = match carryOut cells k command with
      | (.error f, _) => (lastWords f, none)
      | (.ok report, k') => (some ⟨some id, report⟩, some k') := by
  rw [← carryOut_plain]
  cases command with
  | close => exact absurd rfl h
  | execute | push | traceback | evaluate | children => rfl

theorem carryOut_of_answer {id : ι} {command : Command} {id' : ι} {report : Report}
    (h : (answer cells k (.request (.ofCommand id command))).1 = some ⟨some id', report⟩) :
    (carryOut cells k command).1 = .ok report := by
  have hlast (f : Fault) : (lastWords f : Option (Reply ι)) ≠ some ⟨some id', report⟩ :=
    fun h ↦ by simpa using (lastWords_eq_some h).1
  simp only [answer, Request.command?_ofCommand] at h
  rw [← carryOut_plain]
  generalize command.plain = plain at h
  split at h
  next hnone => cases hnone
  next hnone => cases hnone
  next hclose =>
    cases hclose
    cases h
    rfl
  next hcommand =>
    cases hcommand
    split at h
    · exact absurd h (hlast _)
    next hreport =>
      cases h
      rw [hreport]

def after (cells : String → Cell) : ServedKernel → List (Incoming ι) → Option ServedKernel
  | k, [] => some k
  | k, i :: rest => (answer cells k i).2.bind fun k ↦ after cells k rest

/-- The reply in a place is what the worker makes of the request in that place, once it has served
the requests before it. -/
theorem serve_getElem? {requests : List (Request ι)} {i : Nat} {reply : Reply ι}
    (h : (serve cells k (requests.map .request)).sent[i]? = some reply) : ∃ r k',
      requests[i]? = some r ∧ after cells k ((requests.take i).map .request) = some k' ∧
      (answer cells k' (.request r)).1 = some reply := by
  induction requests generalizing k i with
  | nil => cases h
  | cons r requests ih =>
    rw [List.map_cons, serve_cons] at h
    rcases hanswer : answer cells k (.request r) with ⟨reply', kernel⟩
    rw [hanswer] at h
    cases reply' with
    | none =>
      obtain ⟨report, hreport⟩ | ⟨rfl, -⟩ := answer_request hanswer
      · cases hreport
      · cases h
    | some reply' =>
      cases i with
      | zero =>
        refine ⟨r, k, rfl, rfl, ?_⟩
        rw [hanswer]
        exact h
      | succ i =>
        cases kernel with
        | none => cases h
        | some k' =>
          obtain ⟨r', k'', hr', hafter, hreply⟩ := ih h
          refine ⟨r', k'', hr', ?_, hreply⟩
          rw [List.take_succ_cons, List.map_cons, after, hanswer]
          exact hafter

end Worker

namespace Traffic

variable {cells : String → Cell} {pid : Int} {k₀ : ServedKernel} {w w' : Traffic}

/-- A reply to a request bears its number; else it is the worker's last. -/
def Fits (r : Request Int) (reply : Reply Int) : Prop :=
  reply.id = some r.id ∨ reply.id = none ∧ reply.report.ok = false

/-- The worker has replied to the requests in order, as if it had found all of them at once; as long
as it goes on it has replied to each that it has read. -/
structure Served (cells : String → Cell) (k₀ : ServedKernel) (w : Traffic) : Prop where
  asked : w.exchanges.map (·.1) <+: w.requests
  replied : w.exchanges.map (·.2) <+: (Worker.serve cells k₀ (w.requests.map .request)).sent
  fits : ∀ e ∈ w.exchanges, Fits e.1 e.2
  unread : ∀ k, w.kernel = some k → w.requests = w.exchanges.map (·.1) ++ w.pending
  going : ∀ k, w.kernel = some k → ∀ more,
    (Worker.serve cells k₀ ((w.exchanges.map (·.1) ++ more).map .request)).sent =
      w.exchanges.map (·.2) ++ (Worker.serve cells k (more.map .request)).sent

namespace Served

theorem congr (h : Served cells k₀ w) (hissued : w'.issued = w.issued)
    (hexchanges : w'.exchanges = w.exchanges) (hpending : w'.pending = w.pending)
    (hkernel : ∀ k, w'.kernel = some k → w.kernel = some k) : Served cells k₀ w' := by
  have hrequests : w'.requests = w.requests := by rw [requests, hissued]; rfl
  refine ⟨?_, ?_, ?_, ?_, ?_⟩
  · rw [hexchanges, hrequests]
    exact h.asked
  · rw [hexchanges, hrequests]
    exact h.replied
  · rw [hexchanges]
    exact h.fits
  · rw [hexchanges, hrequests, hpending]
    exact fun k hk ↦ h.unread k (hkernel k hk)
  · rw [hexchanges]
    exact fun k hk ↦ h.going k (hkernel k hk)

theorem send (h : Served cells k₀ w) (c : Nat) (command : Command) (id : Int)
    (client : Client Content HistoryEntry) :
    Served cells k₀ (w.send c command id client) := by
  have hrequests : (w.send c command id client).requests =
      w.requests ++ [.ofCommand id command] := List.map_append
  refine ⟨?_, ?_, h.fits, fun k hk ↦ ?_, h.going⟩
  · rw [hrequests]
    exact h.asked.trans (List.prefix_append _ _)
  · rw [hrequests, List.map_append]
    exact h.replied.trans (Worker.serve_append _ _)
  · rw [hrequests, h.unread k hk, List.append_assoc]
    rfl

theorem serve (h : Served cells k₀ w) {k : ServedKernel} {r : Request Int}
    {rest : List (Request Int)} {reply : Option (Reply Int)} {kernel : Option ServedKernel}
    (hk : w.kernel = some k) (hpending : w.pending = r :: rest)
    (hanswer : Worker.answer cells k (.request r) = (reply, kernel)) :
    Served cells k₀ (w.serve pid r rest reply kernel) := by
  have hrequests : w.requests = w.exchanges.map (·.1) ++ r :: rest := hpending ▸ h.unread k hk
  have hgoing (more : List (Request Int)) :
      (Worker.serve cells k₀ ((w.exchanges.map (·.1) ++ r :: more).map .request)).sent =
        w.exchanges.map (·.2) ++ (reply.toList ++ kernel.elim [] fun k ↦
          (Worker.serve cells k (more.map .request)).sent) := by
    rw [h.going k hk, List.map_cons, Worker.serve_cons, hanswer]
  have hasked : (w.serve pid r rest reply kernel).exchanges.map (·.1) =
      w.exchanges.map (·.1) ++ reply.toList.map fun _ ↦ r := by
    simp [Traffic.serve, Function.comp_def]
  have hreplied : (w.serve pid r rest reply kernel).exchanges.map (·.2) =
      w.exchanges.map (·.2) ++ reply.toList := by
    simp [Traffic.serve, Function.comp_def]
  -- a worker that goes on has replied
  have hreply {k' : ServedKernel} (hk' : kernel = some k') : ∃ reply', reply = some reply' := by
    obtain ⟨report, hreply⟩ | ⟨hnone, -⟩ := Worker.answer_request hanswer
    · exact ⟨_, hreply⟩
    · rw [hnone] at hk'
      cases hk'
  refine ⟨?_, ?_, ?_, fun k' hk' ↦ ?_, fun k' hk' more ↦ ?_⟩
  · rw [hasked]
    show _ <+: w.requests
    rw [hrequests, List.prefix_append_right_inj]
    cases reply <;> simp
  · rw [hreplied]
    show _ <+: (Worker.serve cells k₀ (w.requests.map .request)).sent
    rw [hrequests, hgoing, List.prefix_append_right_inj]
    exact List.prefix_append _ _
  · refine List.forall_mem_append.mpr ⟨h.fits, ?_⟩
    obtain ⟨report, rfl⟩ | ⟨-, hlast⟩ := Worker.answer_request hanswer
    · simp [Fits]
    · simpa [Fits] using fun reply' h ↦ .inr (hlast reply' h)
  · obtain ⟨reply', rfl⟩ := hreply hk'
    rw [hasked, List.append_assoc]
    exact hrequests
  · obtain ⟨reply', rfl⟩ := hreply hk'
    cases hk'
    rw [hasked, hreplied, List.append_assoc, List.append_assoc]
    exact hgoing more

end Served

theorem served_step (h : Served cells k₀ w) (hs : Step cells pid w w') : Served cells k₀ w' := by
  cases hs with
  | call | giveUp | acquire | sendFails | discard | receive | abandon | change =>
    exact h.congr rfl rfl rfl fun _ hk ↦ hk
  | send => exact h.send _ _ _ _
  | serve hk hpending hanswer => exact h.serve hk hpending hanswer
  | stop => exact h.congr rfl rfl rfl nofun

theorem Reachable.served (h : Reachable cells pid k₀ w) : Served cells k₀ w := by
  induction h with
  | refl =>
    refine ⟨List.nil_prefix, List.nil_prefix, by simp, fun _ _ ↦ rfl, fun k hk more ↦ ?_⟩
    cases hk
    rfl
  | tail _ hs ih => exact served_step ih hs

end Traffic

end VariableExplorer.Remote
