import Mathlib.Data.List.Nodup
import VariableExplorer.Proofs.Remote.Service
import VariableExplorer.Proofs.Remote.Turns

/-!
Whose reply a call is handed. However calls and replies cross each other, a call that returns a
value returns the one that the worker found for its own request.
-/

namespace VariableExplorer.Remote.Traffic

variable {cells : String → Cell} {pid : Int} {k₀ : ServedKernel} {w : Traffic} {c : Nat}

/-- The message has the number of a command that the call has sent, and says what carrying out this
command gives once all the requests in front of it have been served. -/
def Answers (cells : String → Cell) (pid : Int) (k₀ : ServedKernel) (w : Traffic) (c : Nat)
    (id : Int) (m : Message Content HistoryEntry) : Prop :=
  ∃ (i : Nat) (command : Command) (k : ServedKernel) (report : Report),
    w.issued[i]? = some (c, id, command) ∧
    Worker.after cells k₀ ((w.requests.take i).map .request) = some k ∧
    (Worker.carryOut cells k command).1 = .ok report ∧ m = .ofReply pid ⟨some id, report⟩

/-- The call has taken what was in front of the message, all of it meant for others, and nothing of
what came after it. -/
def Drains (w : Traffic) (c : Nat) (id : Int) (m : Message Content HistoryEntry) : Prop :=
  ∃ earlier, ∃ discarded : List (Arrival Content HistoryEntry), ∃ later,
    w.taken = earlier ++ discarded.map (c, ·) ++ (c, .message m) :: later ∧
    (∀ e ∈ earlier, e.1 ≠ c) ∧ (∀ e ∈ later, e.1 ≠ c) ∧
    ∀ a ∈ discarded, Client.accept id a = none

theorem Orderly.eq_of_id_eq (h : Orderly pid w) {e e' : Nat × Int × Command} (he : e ∈ w.issued)
    (he' : e' ∈ w.issued) (hid : e.2.1 = e'.2.1) : e = e' := by
  have hnodup : (w.issued.map (·.2.1)).Nodup := List.pairwise_map.mpr h.distinct
  exact List.inj_on_of_nodup_map hnodup he he' hid

/-- Whatever was taken is the worker's reply to some request. -/
theorem Reachable.origin (h : Reachable cells pid k₀ w) {m : Message Content HistoryEntry}
    (hm : .message m ∈ w.taken.map (·.2)) : ∃ (i : Nat) (e : Nat × Int × Command)
      (k : ServedKernel) (reply : Reply Int), w.issued[i]? = some e ∧
      w.exchanges[i]? = some (.ofCommand e.2.1 e.2.2, reply) ∧
      Worker.after cells k₀ ((w.requests.take i).map .request) = some k ∧
      (Worker.answer cells k (.request (.ofCommand e.2.1 e.2.2))).1 = some reply ∧
      (reply.id = some e.2.1 ∨ reply.id = none ∧ reply.report.ok = false) ∧
      m = .ofReply pid reply := by
  obtain ⟨hasked, hreplied, hfits, -, -⟩ := h.served
  have hmem : Arrival.message m ∈ w.arrivals pid := by
    rw [h.orderly.arrived]
    exact List.mem_append_left _ hm
  obtain ⟨x, hx, hmessage⟩ := List.mem_map.mp hmem
  obtain ⟨i, hi⟩ := List.mem_iff_getElem?.mp hx
  have hget {α : Type} {f : Request Int × Reply Int → α} {l : List α}
      (hl : w.exchanges.map f <+: l) : l[i]? = some (f x) := by
    obtain ⟨t, rfl⟩ := hl
    have hf : (w.exchanges.map f)[i]? = some (f x) := by rw [List.getElem?_map, hi]; rfl
    rw [List.getElem?_append_left (List.getElem?_eq_some_iff.mp hf).1, hf]
  have hrequest := hget hasked
  obtain ⟨r, k, hr, hafter, hanswer⟩ := Worker.serve_getElem? (hget hreplied)
  cases hr.symm.trans hrequest
  rw [requests, List.getElem?_map, Option.map_eq_some_iff] at hrequest
  obtain ⟨e, he, hcommand⟩ := hrequest
  have hid : x.1.id = e.2.1 := by
    rw [← hcommand]
    cases e.2.2 <;> rfl
  refine ⟨i, e, k, x.2, he, hcommand ▸ hi, hafter, hcommand ▸ hanswer, ?_,
    (Arrival.message.inj hmessage).symm⟩
  rw [← hid]
  exact hfits x hx

theorem Reachable.handed_taken (h : Reachable cells pid k₀ w) {id : Int}
    {m : Message Content HistoryEntry} (hc : w.phases c = .handed id m) :
    .message m ∈ w.taken.map (·.2) := by
  have hstands : w.Stands c (.handed id m) := hc ▸ h.orderly.stands c
  obtain ⟨-, earlier, discarded, later, htaken, -⟩ := hstands
  simp [htaken]

/-- What a call is handed that says that all went well is the reply to its own request. -/
theorem Reachable.own_reply (h : Reachable cells pid k₀ w) {id : Int}
    {m : Message Content HistoryEntry} (hc : w.phases c = .handed id m) (hok : m.ok = true) :
    ∃ (i : Nat) (command : Command) (k : ServedKernel) (report : Report),
      w.issued[i]? = some (c, id, command) ∧
      w.exchanges[i]? = some (.ofCommand id command, ⟨some id, report⟩) ∧
      Worker.after cells k₀ ((w.requests.take i).map .request) = some k ∧
      (Worker.carryOut cells k command).1 = .ok report ∧ m = .ofReply pid ⟨some id, report⟩ := by
  have hstands : w.Stands c (.handed id m) := hc ▸ h.orderly.stands c
  obtain ⟨⟨command, hown⟩, -, -, -, -, -, -, -, hm⟩ := hstands
  obtain ⟨i, e, k, reply, he, hreplied, hafter, hanswer, hid, rfl⟩ := h.origin (h.handed_taken hc)
  obtain ⟨replyId, report⟩ := reply
  have hmem := List.mem_of_getElem? he
  obtain rfl | ⟨-, hbroken⟩ := hid
  · have hnumber : e.2.1 = id := by
      have hpositive := (h.orderly.bounded e hmem).1
      simp only [Message.ofReply, Option.getD_some, Option.some.injEq, brokenId] at hm
      omega
    have heq := h.orderly.eq_of_id_eq hmem hown hnumber
    subst heq
    exact ⟨i, command, k, report, he, hreplied, hafter, Worker.carryOut_of_answer hanswer, rfl⟩
  · exact absurd (hok.symm.trans hbroken) (by simp)

theorem Reachable.answers (h : Reachable cells pid k₀ w) {id : Int}
    {m : Message Content HistoryEntry} (hc : w.phases c = .handed id m) (hok : m.ok = true) :
    Answers cells pid k₀ w c id m := by
  obtain ⟨i, command, k, report, hi, -, hafter, hreport, hm⟩ := h.own_reply hc hok
  exact ⟨i, command, k, report, hi, hafter, hreport, hm⟩

theorem Reachable.not_crossed (h : Reachable cells pid k₀ w) {id : Int}
    {m : Message Content HistoryEntry} (hc : w.phases c = .handed id m)
    {e : Nat × Int × Command} (he : e ∈ w.issued) (hne : e.1 ≠ c) : m.id ≠ some e.2.1 := by
  have hstands : w.Stands c (.handed id m) := hc ▸ h.orderly.stands c
  obtain ⟨⟨command, hown⟩, -, -, -, -, -, -, -, hm⟩ := hstands
  intro hid
  have hpositive := (h.orderly.bounded e he).1
  have hnumber : e.2.1 = id := by
    simp only [hid, Option.some.injEq, brokenId] at hm
    omega
  exact hne (congrArg Prod.fst (h.orderly.eq_of_id_eq he hown hnumber))

/-- At any moment, in whatever order things have happened: what was sent is what the calls have
issued, and what arrived is taken in its order. A call that is handed a value is handed the worker's
reply to its own request, and takes just what is in front of it; it is never handed what has the
number of another call's request. A call that gave up before it was its turn has sent nothing. -/
theorem calls_sound (h : Reachable cells pid k₀ w) (c : Nat) :
    w.client.sent = w.issued.map (·.2) ∧
    w.arrivals pid = w.taken.map (·.2) ++ w.client.inbox ∧
    (∀ id m, w.phases c = .handed id m → m.ok = true →
      Answers cells pid k₀ w c id m ∧ Drains w c id m) ∧
    (∀ id m, w.phases c = .handed id m → ∀ e ∈ w.issued, e.1 ≠ c → m.id ≠ some e.2.1) ∧
    (w.phases c = .gaveUp → ∀ e ∈ w.issued, e.1 ≠ c) := by
  refine ⟨h.orderly.sent, h.orderly.arrived, fun id m hc hok ↦ ⟨h.answers hc hok, ?_⟩,
    fun id m hc e he hne ↦ h.not_crossed hc he hne, fun hc ↦ ?_⟩
  · have hstands : w.Stands c (.handed id m) := hc ▸ h.orderly.stands c
    obtain ⟨-, earlier, discarded, later, htaken, hearlier, hlater, hdiscarded, -⟩ := hstands
    exact ⟨earlier, discarded, later, htaken, hearlier, hlater, hdiscarded⟩
  · have hstands : w.Stands c .gaveUp := hc ▸ h.orderly.stands c
    exact hstands.1

/-- A call gives up, its reply comes late, and the next call throws it away and is handed its own. -/
theorem calls_sound_late : ∃ (w : Traffic) (m : Message Content HistoryEntry),
    Reachable (fun _ ↦ {}) 7 {} w ∧ w.phases 0 = .failed ∧ w.taken.length = 2 ∧
    w.phases 1 = .handed 2 m ∧ m.ok = true ∧
    Answers (fun _ ↦ {}) 7 {} w 1 2 m ∧ Drains w 1 2 m := by
  have hleft : Reachable (fun _ ↦ {}) 7 {} _ := .tail (.tail (.tail (.tail .refl
    (.call 0 .traceback rfl)) (.acquire (c := 0) rfl rfl)) (.send (c := 0) rfl rfl))
    (.abandon (c := 0) rfl)
  have hsent : Reachable (fun _ ↦ {}) 7 {} _ := .tail (.tail (.tail hleft
    (.call 1 .traceback rfl)) (.acquire (c := 1) rfl rfl)) (.send (c := 1) rfl rfl)
  have hserved : Reachable (fun _ ↦ {}) 7 {} _ :=
    .tail (.tail hsent (.serve rfl rfl rfl)) (.serve rfl rfl rfl)
  have hhanded : Reachable (fun _ ↦ {}) 7 {} _ :=
    .tail (.tail hserved (.discard (c := 1) rfl rfl rfl)) (.receive (c := 1) rfl rfl rfl)
  obtain ⟨-, -, hvalue, -, -⟩ := calls_sound hhanded 1
  obtain ⟨hanswers, hdrains⟩ := hvalue _ _ rfl rfl
  exact ⟨_, _, hhanded, rfl, rfl, rfl, rfl, hanswers, hdrains⟩

end VariableExplorer.Remote.Traffic
