import VariableExplorer.Proofs.Remote.Traffic

/-!
Calls take turns. Every request has a number of its own, and what arrives is taken in order: a call
throws away what is not its reply, and takes nothing more once it has been handed something.
-/

namespace VariableExplorer.Remote

open Function

namespace Client

variable {ω ε : Type} {c c' : Client ω ε} {command : Command}

theorem issue_run (command : Command) (c : Client ω ε) : (issue command).run c =
    match c.troubles.send with
    | some f => (.error (.fault f), { c with nextId := c.nextId + 1 })
    | none => (.ok c.nextId,
        { c with nextId := c.nextId + 1, sent := c.sent ++ [(c.nextId, command)] }) := by
  obtain ⟨timeout, pid, closed, nextId, subscribers, inbox, process, pipeClosed,
    ⟨send, close, asked, busy⟩, events, sent⟩ := c
  cases send <;> rfl

theorem issue_of_ok {id : Int} (h : (issue command).run c = (.ok id, c')) :
    id = c.nextId ∧
      c' = { c with nextId := c.nextId + 1, sent := c.sent ++ [(c.nextId, command)] } := by
  rw [issue_run] at h
  split at h
  · cases h
  · cases h
    exact ⟨rfl, rfl⟩

theorem issue_of_error {t : Trouble} (h : (issue command).run c = (.error t, c')) :
    c' = { c with nextId := c.nextId + 1 } := by
  rw [issue_run] at h
  split at h <;> cases h
  rfl

theorem accept_of_ok {id : Int} {a : Arrival ω ε} {m : Message ω ε}
    (h : accept id a = some (.ok m)) :
    a = .message m ∧ (m.id = some id ∨ m.id = some brokenId) := by
  cases a with
  | message m' =>
    simp only [accept] at h
    split at h
    next hid =>
      cases h
      exact ⟨rfl, by simpa using hid⟩
    · cases h
  | _ => cases h

theorem accept_of_error {id : Int} {a : Arrival ω ε} {t : Trouble}
    (h : accept id a = some (.error t)) : t = .invalidReply ∨ ∃ f, a = .raises f ∧ t = .fault f := by
  cases a with
  | message m =>
    simp only [accept] at h
    split at h <;> cases h
  | foreign =>
    cases h
    exact .inl rfl
  | raises f =>
    cases h
    exact .inr ⟨f, rfl, rfl⟩

end Client

namespace Traffic

variable {cells : String → Cell} {pid : Int} {k₀ : ServedKernel} {w w' : Traffic} {c c' : Nat}

/-- How a call stands: what it has sent, and what it has taken from the pipe. -/
def Stands (w : Traffic) (c : Nat) : Phase → Prop
  | .idle | .waiting _ | .holding _ | .gaveUp =>
    (∀ e ∈ w.issued, e.1 ≠ c) ∧ ∀ e ∈ w.taken, e.1 ≠ c
  | .reading id => (∃ command, (c, id, command) ∈ w.issued) ∧
      ∃ earlier, ∃ discarded : List (Arrival Content HistoryEntry), w.taken =
        earlier ++ discarded.map (c, ·) ∧ (∀ e ∈ earlier, e.1 ≠ c) ∧
      ∀ a ∈ discarded, Client.accept id a = none
  | .handed id m => (∃ command, (c, id, command) ∈ w.issued) ∧
      ∃ earlier, ∃ discarded : List (Arrival Content HistoryEntry), ∃ later, w.taken =
        earlier ++ discarded.map (c, ·) ++ (c, .message m) :: later ∧
      (∀ e ∈ earlier, e.1 ≠ c) ∧ (∀ e ∈ later, e.1 ≠ c) ∧
      (∀ a ∈ discarded, Client.accept id a = none) ∧
      (m.id = some id ∨ m.id = some brokenId)
  | .failed => True

/-- Calls take turns at a pipe that loses nothing, and each request has a number of its own. -/
structure Orderly (pid : Int) (w : Traffic) : Prop where
  sent : w.client.sent = w.issued.map (·.2)
  positive : 0 < w.client.nextId
  bounded : ∀ e ∈ w.issued, 0 < e.2.1 ∧ e.2.1 < w.client.nextId
  distinct : w.issued.Pairwise fun e e' ↦ e.2.1 ≠ e'.2.1
  arrived : w.arrivals pid = w.taken.map (·.2) ++ w.client.inbox
  turn : ∀ c, (w.phases c).holds → w.holder = some c
  stands : ∀ c, w.Stands c (w.phases c)

namespace Stands

variable {p : Phase}

theorem congr (h : w.Stands c p) (hissued : w'.issued = w.issued)
    (htaken : w'.taken = w.taken) : w'.Stands c p := by
  unfold Stands
  rw [hissued, htaken]
  exact h

theorem issue (h : w.Stands c p) {e : Nat × Int × Command} (he : e.1 ≠ c)
    (hissued : w'.issued = w.issued ++ [e]) (htaken : w'.taken = w.taken) : w'.Stands c p := by
  have hquiet : (∀ e ∈ w.issued, e.1 ≠ c) → ∀ e ∈ w'.issued, e.1 ≠ c := fun hall ↦ by
    rw [hissued]
    exact List.forall_mem_append.mpr ⟨hall, List.forall_mem_singleton.mpr he⟩
  have hmem : ∀ e ∈ w.issued, e ∈ w'.issued := fun e he ↦ by
    rw [hissued]
    exact List.mem_append_left _ he
  cases p with
  | idle | waiting | holding | gaveUp => exact ⟨hquiet h.1, htaken ▸ h.2⟩
  | reading id => exact ⟨h.1.imp fun _ ↦ hmem _, htaken ▸ h.2⟩
  | handed id m => exact ⟨h.1.imp fun _ ↦ hmem _, htaken ▸ h.2⟩
  | failed => exact True.intro

theorem take (h : w.Stands c p) (hp : ¬ p.holds) {e : Nat × Arrival Content HistoryEntry}
    (he : e.1 ≠ c) (hissued : w'.issued = w.issued) (htaken : w'.taken = w.taken ++ [e]) :
    w'.Stands c p := by
  have hquiet {l : List (Nat × Arrival Content HistoryEntry)} (hall : ∀ e ∈ l, e.1 ≠ c) :
      ∀ e' ∈ l ++ [e], e'.1 ≠ c :=
    List.forall_mem_append.mpr ⟨hall, List.forall_mem_singleton.mpr he⟩
  cases p with
  | holding | reading => exact absurd trivial hp
  | idle | waiting | gaveUp => exact ⟨hissued ▸ h.1, htaken ▸ hquiet h.2⟩
  | handed id m =>
    obtain ⟨hown, earlier, discarded, later, htaken', hearlier, hlater, hrest⟩ := h
    refine ⟨hissued ▸ hown, earlier, discarded, later ++ [e], ?_, hearlier, hquiet hlater, hrest⟩
    rw [htaken, htaken', List.append_assoc, List.cons_append]
  | failed => exact True.intro

end Stands

/-- It is enough to know how the call stands that moves, and that the others stand as before. -/
theorem stands_update {p : Phase} (hphases : w'.phases = update w.phases c p)
    (hother : ∀ c' ≠ c, w'.Stands c' (w.phases c')) (hown : w'.Stands c p) (c' : Nat) :
    w'.Stands c' (w'.phases c') := by
  rw [hphases]
  by_cases h : c' = c
  · subst h
    rwa [update_self]
  · rw [update_of_ne h]
    exact hother c' h

theorem of_update_holds {p : Phase} (hp : ¬ p.holds) (h : (update w.phases c p c').holds) :
    (w.phases c').holds := by
  by_cases hne : c' = c
  · subst hne
    rw [update_self] at h
    exact absurd h hp
  · rwa [update_of_ne hne] at h

namespace Orderly

variable (h : Orderly pid w)

include h

theorem not_holds (hc : (w.phases c).holds) (hne : c' ≠ c) : ¬ (w.phases c').holds :=
  fun hc' ↦ hne (Option.some.inj ((h.turn c' hc').symm.trans (h.turn c hc)))

theorem put {p : Phase} (hp : ¬ p.holds) (hstands : w.Stands c p) : Orderly pid (w.put c p) where
  sent := h.sent
  positive := h.positive
  bounded := h.bounded
  distinct := h.distinct
  arrived := h.arrived
  turn c' hc' := h.turn c' (of_update_holds hp hc')
  stands := stands_update rfl (fun c' _ ↦ (h.stands c').congr rfl rfl) (hstands.congr rfl rfl)

theorem acquire {command : Command} (hc : w.phases c = .waiting command)
    (hfree : w.holder = none) :
    Orderly pid { w.put c (.holding command) with holder := some c } where
  sent := h.sent
  positive := h.positive
  bounded := h.bounded
  distinct := h.distinct
  arrived := h.arrived
  turn c' hc' := by
    by_cases hne : c' = c
    · rw [hne]
    · have hholds : (w.phases c').holds := by simpa only [Traffic.put, update_of_ne hne] using hc'
      exact absurd (h.turn c' hholds) (by simp [hfree])
  stands := by
    have hstands : w.Stands c (.waiting command) := hc ▸ h.stands c
    exact stands_update rfl (fun c' _ ↦ (h.stands c').congr rfl rfl) (hstands.congr rfl rfl)

theorem not_holds_update {p : Phase} (hc : (w.phases c).holds) (hp : ¬ p.holds) (c' : Nat) :
    ¬ (update w.phases c p c').holds := by
  intro hc'
  by_cases hne : c' = c
  · rw [hne, update_self] at hc'
    exact hp hc'
  · exact h.not_holds hc hne (of_update_holds hp hc')

theorem release {p : Phase} (hc : (w.phases c).holds) (hp : ¬ p.holds)
    (hstands : w.Stands c p) : Orderly pid (w.release c p) where
  sent := h.sent
  positive := h.positive
  bounded := h.bounded
  distinct := h.distinct
  arrived := h.arrived
  turn c' hc' := absurd hc' (h.not_holds_update hc hp c')
  stands := stands_update rfl (fun c' _ ↦ (h.stands c').congr rfl rfl) (hstands.congr rfl rfl)

theorem change {client : Client Content HistoryEntry} (hnext : w.client.nextId ≤ client.nextId)
    (hinbox : client.inbox = w.client.inbox) (hsent : client.sent = w.client.sent) :
    Orderly pid { w with client := client } where
  sent := hsent.trans h.sent
  positive := Int.lt_of_lt_of_le h.positive hnext
  bounded e he := (h.bounded e he).imp_right fun hlt ↦ Int.lt_of_lt_of_le hlt hnext
  distinct := h.distinct
  arrived := hinbox ▸ h.arrived
  turn := h.turn
  stands c := (h.stands c).congr rfl rfl

theorem send {command : Command} {id : Int} {client : Client Content HistoryEntry}
    (hc : w.phases c = .holding command)
    (hissue : (Client.issue command).run w.client = (.ok id, client)) :
    Orderly pid (w.send c command id client) := by
  obtain ⟨rfl, rfl⟩ := Client.issue_of_ok hissue
  have hholds : (w.phases c).holds := hc ▸ trivial
  have hquiet : w.Stands c (.holding command) := hc ▸ h.stands c
  refine ⟨?_, ?_, ?_, ?_, h.arrived, fun c' hc' ↦ ?_, ?_⟩
  · show w.client.sent ++ _ = (w.issued ++ _).map _
    rw [h.sent, List.map_append]
    rfl
  · exact Int.lt_add_one_of_le (Int.le_of_lt h.positive)
  · refine List.forall_mem_append.mpr ⟨fun e he ↦ ?_, List.forall_mem_singleton.mpr ?_⟩
    · exact (h.bounded e he).imp_right fun hlt ↦ Int.lt_trans hlt (Int.lt_succ _)
    · exact ⟨h.positive, Int.lt_succ _⟩
  · refine List.pairwise_append.mpr ⟨h.distinct, List.pairwise_singleton _ _, fun e he e' he' ↦ ?_⟩
    rw [List.mem_singleton.mp he']
    exact Int.ne_of_lt (h.bounded e he).2
  · by_cases hne : c' = c
    · exact hne ▸ h.turn c hholds
    · exact h.turn c' (by simpa only [Traffic.send, Traffic.put, update_of_ne hne] using hc')
  · refine stands_update rfl (fun c' hne ↦ (h.stands c').issue (Ne.symm hne) rfl rfl) ?_
    exact ⟨⟨command, List.mem_append_right _ List.mem_cons_self⟩, w.taken, [],
      (List.append_nil _).symm, hquiet.2, by simp⟩

theorem arrived_take {a : Arrival Content HistoryEntry}
    {rest : List (Arrival Content HistoryEntry)} (hinbox : w.client.inbox = a :: rest) :
    w.arrivals pid = (w.taken ++ [(c, a)]).map (·.2) ++ rest := by
  rw [h.arrived, hinbox, List.map_append, List.append_assoc]
  rfl

/-- The other calls stand as they did, whatever is taken by the one whose turn it is. -/
theorem stands_take (hc : (w.phases c).holds) (a : Arrival Content HistoryEntry)
    (rest : List (Arrival Content HistoryEntry)) (c' : Nat) (hne : c' ≠ c) :
    (w.take c a rest).Stands c' (w.phases c') :=
  (h.stands c').take (h.not_holds hc hne) (Ne.symm hne) rfl rfl

theorem discard {id : Int} {a : Arrival Content HistoryEntry}
    {rest : List (Arrival Content HistoryEntry)} (hc : w.phases c = .reading id)
    (hinbox : w.client.inbox = a :: rest) (ha : Client.accept id a = none) :
    Orderly pid (w.take c a rest) := by
  have hreading : w.Stands c (.reading id) := hc ▸ h.stands c
  obtain ⟨hown, earlier, discarded, htaken, hearlier, hdiscarded⟩ := hreading
  refine ⟨h.sent, h.positive, h.bounded, h.distinct, h.arrived_take hinbox, h.turn, fun c' ↦ ?_⟩
  by_cases hne : c' = c
  · rw [hne, Traffic.take, hc]
    refine ⟨hown, earlier, discarded ++ [a], ?_, hearlier,
      List.forall_mem_append.mpr ⟨hdiscarded, List.forall_mem_singleton.mpr ha⟩⟩
    rw [htaken, List.map_append, List.append_assoc]
    rfl
  · exact h.stands_take (hc ▸ trivial) a rest c' hne

theorem receive {id : Int} {a : Arrival Content HistoryEntry}
    {rest : List (Arrival Content HistoryEntry)}
    {r : Except Client.Trouble (Message Content HistoryEntry)} (hc : w.phases c = .reading id)
    (hinbox : w.client.inbox = a :: rest) (ha : Client.accept id a = some r) :
    Orderly pid ((w.take c a rest).release c (outcome id r)) := by
  have hreading : w.Stands c (.reading id) := hc ▸ h.stands c
  have hholds : (w.phases c).holds := hc ▸ trivial
  have hp : ¬ (outcome id r).holds := by cases r <;> exact not_false
  refine ⟨h.sent, h.positive, h.bounded, h.distinct, h.arrived_take hinbox,
    fun c' hc' ↦ absurd hc' (h.not_holds_update hholds hp c'),
    stands_update rfl (fun c' hne ↦ (h.stands_take hholds a rest c' hne).congr rfl rfl) ?_⟩
  cases r with
  | error t => exact True.intro
  | ok m =>
    obtain ⟨rfl, hm⟩ := Client.accept_of_ok ha
    obtain ⟨hown, earlier, discarded, htaken, hearlier, hdiscarded⟩ := hreading
    exact ⟨hown, earlier, discarded, [], congrArg (· ++ _) htaken, hearlier, by simp, hdiscarded, hm⟩

theorem serve {r : Request Int} {rest : List (Request Int)} (reply : Option (Reply Int))
    (kernel : Option ServedKernel) : Orderly pid (w.serve pid r rest reply kernel) where
  sent := h.sent
  positive := h.positive
  bounded := h.bounded
  distinct := h.distinct
  arrived := by
    have harrived : (w.serve pid r rest reply kernel).arrivals pid = w.arrivals pid ++
        reply.toList.map fun r ↦ .message (.ofReply pid r) := by
      simp [arrivals, Traffic.serve, Function.comp_def]
    rw [harrived, h.arrived, List.append_assoc]
    rfl
  turn := h.turn
  stands c := (h.stands c).congr rfl rfl

end Orderly

theorem orderly_step (h : Orderly pid w) (hs : Step cells pid w w') : Orderly pid w' := by
  cases hs with
  | call c command hc =>
    have hstands : w.Stands c .idle := hc ▸ h.stands c
    exact h.put not_false hstands
  | @giveUp c command hc =>
    have hstands : w.Stands c (.waiting command) := hc ▸ h.stands c
    exact h.put not_false hstands
  | acquire hc hfree => exact h.acquire hc hfree
  | send hc hissue => exact h.send hc hissue
  | sendFails hc hissue =>
    have hclient := Client.issue_of_error hissue
    refine (h.change ?_ ?_ ?_).release (hc ▸ trivial) not_false trivial <;> rw [hclient]
    exact Int.le_of_lt (Int.lt_succ _)
  | discard hc hinbox ha => exact h.discard hc hinbox ha
  | receive hc hinbox ha => exact h.receive hc hinbox ha
  | abandon hc => exact h.release (hc ▸ trivial) not_false trivial
  | serve => exact h.serve _ _
  | stop => exact ⟨h.sent, h.positive, h.bounded, h.distinct, h.arrived, h.turn, fun c ↦
      (h.stands c).congr rfl rfl⟩
  | change hnext hinbox hsent => exact h.change (Int.le_of_eq hnext.symm) hinbox hsent

theorem Reachable.orderly (h : Reachable cells pid k₀ w) : Orderly pid w := by
  induction h with
  | refl =>
    refine ⟨rfl, Int.one_pos, by simp, .nil, rfl, fun c hc ↦ hc.elim, fun c ↦ ?_⟩
    exact ⟨by simp, by simp⟩
  | tail _ hs ih => exact orderly_step ih hs

end Traffic

end VariableExplorer.Remote
