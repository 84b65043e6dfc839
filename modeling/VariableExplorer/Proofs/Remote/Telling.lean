import VariableExplorer.Proofs.Remote.Conduct
import VariableExplorer.Proofs.Remote.Correlation

/-!
Who is told of a change. A client tells its subscribers once a call that changes something has been
handed its reply. The worker makes the change whether or not the call still waits, and whoever finds
the reply to a call that gave up throws it away and tells nobody.
-/

namespace VariableExplorer.Remote

open Function

/-- Whether carrying it out changes what the worker's kernel knows. -/
def Command.changes : Command → Bool
  | execute _ _ | push _ => true
  | _ => false

namespace Worker

variable {cells : String → Cell} {k : ServedKernel}

theorem answer_of_going {ι : Type} {id : ι} {command : Command} {reply : Option (Reply ι)}
    {k' : ServedKernel}
    (h : answer cells k (.request (.ofCommand id command)) = (reply, some k')) :
    ∃ report, reply = some ⟨some id, report⟩ ∧ report.ok = true := by
  have hid : (Request.ofCommand id command).id = id := by cases command <;> rfl
  obtain ⟨report, rfl⟩ | ⟨hnone, -⟩ := answer_request h
  · rw [hid] at h ⊢
    exact ⟨report, rfl, (carryOut_gets (carryOut_of_answer (congrArg Prod.fst h))).ok⟩
  · cases hnone

end Worker

namespace Traffic

variable {cells : String → Cell} {pid : Int} {k₀ : ServedKernel} {w w' : Traffic} {c : Nat}

/-- What was sent, what was replied to and what a call was handed stays so. -/
structure Grows (w w' : Traffic) : Prop where
  issued : w.issued <+: w'.issued
  exchanges : w.exchanges <+: w'.exchanges
  handed : ∀ c id m, w.phases c = .handed id m → w'.phases c = .handed id m

theorem handed_update {p : Phase} (hc : ∀ id m, w.phases c ≠ .handed id m) {c' : Nat} {id : Int}
    {m : Message Content HistoryEntry} (h : w.phases c' = .handed id m) :
    update w.phases c p c' = .handed id m := by
  have hne : c' ≠ c := by
    rintro rfl
    exact hc id m h
  rwa [update_of_ne hne]

theorem Step.grows (h : Step cells pid w w') : Grows w w' := by
  cases h with
  | call c command hc | giveUp hc | acquire hc hfree | sendFails hc hissue | abandon hc =>
    exact ⟨List.prefix_refl _, List.prefix_refl _, fun c' id m ↦ handed_update (by simp [hc])⟩
  | send hc hissue =>
    exact ⟨List.prefix_append _ _, List.prefix_refl _, fun c' id m ↦ handed_update (by simp [hc])⟩
  | receive hc hinbox ha =>
    exact ⟨List.prefix_refl _, List.prefix_refl _, fun c' id m ↦
      handed_update (w := w.take _ _ _) (by simp [Traffic.take, hc])⟩
  | serve => exact ⟨List.prefix_refl _, List.prefix_append _ _, fun _ _ _ h ↦ h⟩
  | discard | stop | change =>
    exact ⟨List.prefix_refl _, List.prefix_refl _, fun _ _ _ h ↦ h⟩

theorem Reachable.once (h : Reachable cells pid k₀ w) : (w.issued.map (·.1)).Nodup := by
  induction h with
  | refl => exact .nil
  | @tail w w' hrun hs ih =>
    cases hs with
    | @send c command id client hc hissue =>
      have hquiet : w.Stands c (.holding command) := hc ▸ (Reachable.orderly hrun).stands c
      have hfresh : c ∉ w.issued.map (·.1) := by
        intro hmem
        obtain ⟨e, he, rfl⟩ := List.mem_map.mp hmem
        exact hquiet.1 e he rfl
      show ((w.issued ++ [(c, id, command)]).map (·.1)).Nodup
      rw [List.map_append, List.nodup_append]
      refine ⟨ih, by simp, fun a ha b hb ↦ ?_⟩
      rw [List.mem_singleton.mp hb]
      rintro rfl
      exact hfresh ha
    | _ => exact ih

theorem Reachable.index_eq (h : Reachable cells pid k₀ w) {i j : Nat} {e e' : Nat × Int × Command}
    (hi : w.issued[i]? = some e) (hj : w.issued[j]? = some e') (he : e.1 = e'.1) : i = j := by
  obtain ⟨hlt, -⟩ := List.getElem?_eq_some_iff.mp hi
  refine (List.getElem?_inj (by simpa using hlt) h.once).mp ?_
  rw [List.getElem?_map, List.getElem?_map, hi, hj, Option.map_some, Option.map_some, he]

theorem Reachable.carriedOut (h : Reachable cells pid k₀ w) {k : ServedKernel}
    (hk : w.kernel = some k) :
    ∀ e ∈ w.exchanges, ∃ report, e.2 = ⟨some e.1.id, report⟩ ∧ report.ok = true := by
  induction h generalizing k with
  | refl => simp
  | @tail w w' hrun hs ih =>
    cases hs with
    | @serve k' r rest reply kernel hgoing hpending hanswer =>
      cases hk
      have hunread := (Reachable.served hrun).unread k' hgoing
      have hr : r ∈ w.requests := by simp [hunread, hpending]
      obtain ⟨⟨c, id, command⟩, -, rfl⟩ := List.mem_map.mp hr
      obtain ⟨report, rfl, hok⟩ := Worker.answer_of_going hanswer
      have hid : (Request.ofCommand id command).id = id := by cases command <;> rfl
      refine List.forall_mem_append.mpr ⟨ih hgoing, List.forall_mem_singleton.mpr ?_⟩
      exact ⟨report, by rw [hid], hok⟩
    | stop => cases hk
    | _ => exact ih hk

theorem Reachable.handed_ok (h : Reachable cells pid k₀ w) {k : ServedKernel}
    (hk : w.kernel = some k) {id : Int} {m : Message Content HistoryEntry}
    (hc : w.phases c = .handed id m) : m.ok = true := by
  obtain ⟨i, e, -, reply, -, hreplied, -, -, -, rfl⟩ := h.origin (h.handed_taken hc)
  obtain ⟨report, hreport, hok⟩ := h.carriedOut hk _ (List.mem_of_getElem? hreplied)
  simp only at hreport
  subst hreport
  exact hok

end Traffic

/-- Traffic, and who has told the subscribers: the calls that did, each with the number of replies
that the worker had given by then. -/
structure Ledger where
  traffic : Traffic
  told : List (Nat × Nat) := []

namespace Ledger

inductive Step (cells : String → Cell) (pid : Int) : Ledger → Ledger → Prop
  | move {l : Ledger} {w : Traffic} : Traffic.Step cells pid l.traffic w →
      Step cells pid l { l with traffic := w }
  /-- A call that changes something has been handed its reply, and tells the subscribers. -/
  | tell {l : Ledger} {c : Nat} {id : Int} {m : Message Content HistoryEntry} {command : Command} :
      l.traffic.phases c = .handed id m → m.ok = true → (c, id, command) ∈ l.traffic.issued →
      command.changes = true → (∀ e ∈ l.told, e.1 ≠ c) →
      Step cells pid l ⟨{ l.traffic with client := (Client.notify.run l.traffic.client).2 },
        l.told ++ [(c, l.traffic.exchanges.length)]⟩

abbrev Run (cells : String → Cell) (pid : Int) : Ledger → Ledger → Prop :=
  Relation.ReflTransGen (Step cells pid)

def Reachable (cells : String → Cell) (pid : Int) (k : ServedKernel) (l : Ledger) : Prop :=
  Run cells pid ⟨{ kernel := some k }, []⟩ l

end Ledger

theorem Client.notify_run {ω ε : Type} (c : Client ω ε) : notify.run c =
    (.ok (), { c with events := c.events ++ c.subscribers.callbacks.map .notified }) := by
  have hall (labels : List String) (c : Client ω ε) :
      ((labels.forM fun label ↦ record (.notified label) : Acting ω ε Unit).run c) =
        (.ok (), { c with events := c.events ++ labels.map .notified }) := by
    induction labels generalizing c with
    | nil =>
      rw [List.map_nil, List.append_nil]
      rfl
    | cons label labels ih =>
      have hrecord : (record (.notified label) : Acting ω ε Unit).run c =
          (.ok (), { c with events := c.events ++ [.notified label] }) := rfl
      show (record (.notified label) >>= fun _ ↦ labels.forM _).run c = _
      rw [run_bind_of_ok hrecord, ih]
      simp
  exact hall c.subscribers.callbacks c

namespace Ledger

variable {cells : String → Cell} {pid : Int} {k₀ : ServedKernel} {l l' : Ledger} {c : Nat}

/-- The call has sent a command that changes something, as the request in this place, and has been
handed a message. -/
def Changed (l : Ledger) (c i : Nat) : Prop :=
  ∃ id command m, l.traffic.issued[i]? = some (c, id, command) ∧ command.changes = true ∧
    l.traffic.phases c = .handed id m

/-- Whoever told the subscribers had something changed before. -/
structure Kept (cells : String → Cell) (pid : Int) (k₀ : ServedKernel) (l : Ledger) : Prop where
  traffic : Traffic.Reachable cells pid k₀ l.traffic
  told : ∀ e ∈ l.told, ∃ i, l.Changed e.1 i ∧ i < e.2

theorem Changed.grows {i : Nat} (h : l.Changed c i) (hg : Traffic.Grows l.traffic l'.traffic) :
    l'.Changed c i := by
  obtain ⟨id, command, m, hi, hchanges, hc⟩ := h
  obtain ⟨hlt, -⟩ := List.getElem?_eq_some_iff.mp hi
  obtain ⟨more, hmore⟩ := hg.issued
  refine ⟨id, command, m, ?_, hchanges, hg.handed c id m hc⟩
  rw [← hmore, List.getElem?_append_left hlt, hi]

theorem kept_step (h : Kept cells pid k₀ l) (hs : Step cells pid l l') :
    Kept cells pid k₀ l' := by
  cases hs with
  | move hmove =>
    refine ⟨h.traffic.tail hmove, fun e he ↦ ?_⟩
    obtain ⟨i, hchanged, hlt⟩ := h.told e he
    exact ⟨i, hchanged.grows hmove.grows, hlt⟩
  | @tell c id m command hc hok hown hchanges hfresh =>
    have hsame : Traffic.Step cells pid l.traffic
        { l.traffic with client := (Client.notify.run l.traffic.client).2 } := by
      rw [Client.notify_run]
      exact .change rfl rfl rfl
    obtain ⟨i, command', -, report, hi, hreplied, -⟩ := h.traffic.own_reply hc hok
    have heq := h.traffic.orderly.eq_of_id_eq (List.mem_of_getElem? hi) hown rfl
    have hlt := (List.getElem?_eq_some_iff.mp hreplied).1
    cases heq
    refine ⟨h.traffic.tail hsame, List.forall_mem_append.mpr ⟨h.told, ?_⟩⟩
    exact List.forall_mem_singleton.mpr ⟨i, ⟨id, command, m, hi, hchanges, hc⟩, hlt⟩

theorem Reachable.kept (h : Reachable cells pid k₀ l) : Kept cells pid k₀ l := by
  induction h with
  | refl => exact ⟨.refl, by simp⟩
  | tail _ hs ih => exact kept_step ih hs

/-- Nothing is under way: the worker waits for requests, no call is in the middle of anything, and
those that have been handed the reply to a change have told the subscribers. -/
structure Quiet (l : Ledger) : Prop where
  going : ∃ k, l.traffic.kernel = some k
  idle : l.traffic.pending = []
  ended : ∀ c, (∀ command, l.traffic.phases c ≠ .waiting command) ∧ ¬ (l.traffic.phases c).holds
  told : ∀ c id m command, l.traffic.phases c = .handed id m → m.ok = true →
    (c, id, command) ∈ l.traffic.issued → command.changes = true → ∃ n, (c, n) ∈ l.told

/-- Once nothing is under way the worker has read all requests, and it would not go on had it failed
at one of them. -/
theorem Quiet.carriedOut (hq : l.Quiet) (hw : Traffic.Reachable cells pid k₀ l.traffic) {i : Nat}
    {id : Int} {command : Command} (hi : l.traffic.issued[i]? = some (c, id, command)) :
    ∃ report, report.ok = true ∧
      l.traffic.exchanges[i]? = some (.ofCommand id command, ⟨some id, report⟩) := by
  obtain ⟨k, hk⟩ := hq.going
  have hall : l.traffic.requests = l.traffic.exchanges.map (·.1) := by
    rw [hw.served.unread k hk, hq.idle, List.append_nil]
  have hrequest : l.traffic.requests[i]? = some (.ofCommand id command) := by
    rw [Traffic.requests, List.getElem?_map, hi]
    rfl
  rw [hall, List.getElem?_map, Option.map_eq_some_iff] at hrequest
  obtain ⟨⟨r, reply⟩, hreplied, rfl⟩ := hrequest
  obtain ⟨report, hreport, hok⟩ := hw.carriedOut hk _ (List.mem_of_getElem? hreplied)
  have hid : (Request.ofCommand id command).id = id := by cases command <;> rfl
  refine ⟨report, hok, ?_⟩
  simp only at hreport
  rw [hreplied, hreport, hid]

/-- Once nothing is under way a call that has sent its command has been handed a reply to it, or it
has given up. -/
theorem Quiet.handed_or_failed (hq : l.Quiet) (hw : Traffic.Reachable cells pid k₀ l.traffic)
    {i : Nat} {id : Int} {command : Command}
    (hi : l.traffic.issued[i]? = some (c, id, command)) :
    (∃ m, l.traffic.phases c = .handed id m) ∨ l.traffic.phases c = .failed := by
  have hmem := List.mem_of_getElem? hi
  have hstands := hw.orderly.stands c
  obtain ⟨hwaits, hholds⟩ := hq.ended c
  cases hc : l.traffic.phases c with
  | idle | gaveUp =>
    rw [hc] at hstands
    exact absurd rfl (hstands.1 _ hmem)
  | waiting command' => exact absurd hc (hwaits command')
  | holding | reading =>
    rw [hc] at hholds
    exact absurd trivial hholds
  | failed => exact .inr rfl
  | handed id' m =>
    rw [hc] at hstands
    obtain ⟨⟨command', hown⟩, -⟩ := hstands
    obtain ⟨i', hi'⟩ := List.mem_iff_getElem?.mp hown
    have hsame : i' = i := hw.index_eq hi' hi rfl
    rw [hsame, hi] at hi'
    cases hi'
    exact .inl ⟨m, rfl⟩

/-- Once nothing is under way the worker has carried out every change that was sent to it. Its call
has told the subscribers since if it was handed the reply; a call that gave up has told nobody, and
nobody else does it in its place: whoever tells has been handed the reply to a change of its own. -/
theorem told_since (h : Reachable cells pid k₀ l) (hq : l.Quiet) :
    (∀ i c id command, l.traffic.issued[i]? = some (c, id, command) → command.changes = true →
      (∃ report, report.ok = true ∧
        l.traffic.exchanges[i]? = some (.ofCommand id command, ⟨some id, report⟩)) ∧
      ((∃ m, l.traffic.phases c = .handed id m) ∧ (∃ n, (c, n) ∈ l.told ∧ i < n) ∨
        l.traffic.phases c = .failed ∧ ∀ e ∈ l.told, e.1 ≠ c)) ∧
    ∀ e ∈ l.told, ∃ i, l.Changed e.1 i ∧ i < e.2 := by
  have hw := h.kept.traffic
  obtain ⟨k, hk⟩ := hq.going
  refine ⟨fun i c id command hi hchanges ↦ ⟨hq.carriedOut hw hi, ?_⟩, h.kept.told⟩
  have hmem := List.mem_of_getElem? hi
  obtain ⟨m, hc⟩ | hc := hq.handed_or_failed hw hi
  · obtain ⟨n, hn⟩ := hq.told c id m command hc (hw.handed_ok hk hc) hmem hchanges
    obtain ⟨j, ⟨id', command', m', hj, -, -⟩, hlt⟩ := h.kept.told _ hn
    have hplace : j = i := hw.index_eq hj hi rfl
    exact .inl ⟨⟨m, hc⟩, n, hn, hplace ▸ hlt⟩
  · refine .inr ⟨hc, fun e he heq ↦ ?_⟩
    obtain ⟨j, ⟨id', command', m, -, -, hhanded⟩, -⟩ := h.kept.told e he
    rw [heq, hc] at hhanded
    cases hhanded

/-- A call changes something and tells of it, and another gives up before the worker makes its
change: that one stays untold. -/
theorem told_since_silent : ∃ l : Ledger, Reachable (fun _ ↦ {}) 7 {} l ∧ l.Quiet ∧
    (∃ report, report.ok = true ∧
      l.traffic.exchanges[1]? = some (.ofCommand 2 (.push []), ⟨some 2, report⟩)) ∧
    (∃ n, (0, n) ∈ l.told ∧ 0 < n) ∧ ∀ e ∈ l.told, e.1 ≠ 1 ∧ ¬ 1 < e.2 := by
  have hmessage : Reachable (fun _ ↦ {}) 7 {} _ := .tail (.tail (.tail (.tail (.tail .refl
    (.move (.call 0 (.push []) rfl))) (.move (.acquire (c := 0) rfl rfl)))
    (.move (.send (c := 0) rfl rfl))) (.move (.serve rfl rfl rfl)))
    (.move (.receive (c := 0) rfl rfl rfl))
  have htold : Reachable (fun _ ↦ {}) 7 {} _ := .tail hmessage
    (.tell (c := 0) rfl rfl (List.mem_singleton_self _) rfl (by simp))
  have hleft : Reachable (fun _ ↦ {}) 7 {} _ := .tail (.tail (.tail (.tail htold
    (.move (.call 1 (.push []) rfl))) (.move (.acquire (c := 1) rfl rfl)))
    (.move (.send (c := 1) rfl rfl))) (.move (.abandon (c := 1) rfl))
  obtain ⟨l, hl, ⟨m, hhanded⟩, hfailed, hidle, hgoing, hpending, hissued, htold⟩ :
      ∃ l : Ledger, Reachable (fun _ ↦ {}) 7 {} l ∧ (∃ m, l.traffic.phases 0 = .handed 1 m) ∧
        l.traffic.phases 1 = .failed ∧ (∀ n, l.traffic.phases (n + 2) = .idle) ∧
        (∃ k, l.traffic.kernel = some k) ∧ l.traffic.pending = [] ∧
        l.traffic.issued = [(0, 1, .push []), (1, 2, .push [])] ∧ l.told = [(0, 1)] :=
    ⟨_, .tail hleft (.move (.serve rfl rfl rfl)), ⟨_, rfl⟩, rfl, fun _ ↦ rfl, ⟨_, rfl⟩, rfl, rfl,
      rfl⟩
  have hquiet : l.Quiet := by
    refine ⟨hgoing, hpending, fun c ↦ ?_, fun c id m' command hc _ _ _ ↦ ?_⟩
    · match c with
      | 0 => simp [hhanded, Phase.holds]
      | 1 => simp [hfailed, Phase.holds]
      | n + 2 => simp [hidle, Phase.holds]
    · match c with
      | 0 => exact ⟨1, by simp [htold]⟩
      | 1 => simp [hfailed] at hc
      | n + 2 => simp [hidle] at hc
  obtain ⟨hchanges, -⟩ := told_since hl hquiet
  obtain ⟨-, hfirst⟩ := hchanges 0 0 1 (.push []) (by simp [hissued]) rfl
  obtain ⟨hcarried, hsecond⟩ := hchanges 1 1 2 (.push []) (by simp [hissued]) rfl
  refine ⟨l, hl, hquiet, hcarried, ?_, fun e he ↦ ⟨?_, ?_⟩⟩
  · obtain ⟨-, hn⟩ | ⟨hfailed', -⟩ := hfirst
    · exact hn
    · simp [hhanded] at hfailed'
  · obtain ⟨⟨m', hm'⟩, -⟩ | ⟨-, hnobody⟩ := hsecond
    · simp [hfailed] at hm'
    · exact hnobody e he
  · rw [htold, List.mem_singleton] at he
    simp [he]

/-! ### What the calls of a client do -/

section

variable (h : Reachable cells pid k₀ l) (hc : l.traffic.phases c = .idle)
  (hfree : l.traffic.holder = none)

include h hc hfree

/-- A request that is followed by telling the subscribers is a call that tells if it is handed a
reply, and only then. -/
theorem telling_conducted {command : Command} (hchanges : command.changes = true)
    {α : Type} {f : Message Content HistoryEntry → Client.Acting Content HistoryEntry α}
    (hf : ∀ m client, ((f m).run client).2 = client) : ∃ l', Run cells pid l l' ∧
    l'.traffic.holder = none ∧
    l'.traffic.client = ((Client.request command >>= fun m ↦ Client.notify >>= fun _ ↦ f m).run
      l.traffic.client).2 ∧
    l'.told = l.told ++ match ((Client.request command).run l.traffic.client).1 with
      | .ok _ => [(c, l'.traffic.exchanges.length)]
      | .error _ => [] := by
  have hmoves {w w' : Traffic} {told : List (Nat × Nat)} (hrun : Traffic.Run cells pid w w') :
      Run cells pid ⟨w, told⟩ ⟨w', told⟩ := by
    induction hrun with
    | refl => exact .refl
    | tail _ hs ih => exact ih.tail (.move hs)
  obtain ⟨w, hrun, hfree', hclient, hhanded⟩ :=
    @Traffic.request_conducted cells pid l.traffic c hc hfree command none
  have hfresh : ∀ e ∈ l.told, e.1 ≠ c := by
    rintro e he rfl
    obtain ⟨i, ⟨id, command', m, -, -, hphase⟩, -⟩ := h.kept.told e he
    exact Phase.noConfusion (hc.symm.trans hphase)
  rcases hrequest : (Client.request command).run l.traffic.client with ⟨t | m, client⟩
  · rw [hrequest] at hclient
    refine ⟨⟨w, l.told⟩, hmoves hrun, hfree', ?_, by simp⟩
    rw [run_bind_of_error hrequest]
    exact hclient
  · rw [hrequest] at hclient hhanded
    obtain ⟨hok, id, hphase, hown⟩ := hhanded m rfl
    refine ⟨_, (hmoves hrun).tail (.tell hphase hok hown hchanges hfresh), hfree', ?_, rfl⟩
    rw [run_bind_of_ok hrequest, run_bind_of_ok (Client.notify_run client), hf]
    show (Client.notify.run w.client).2 = _
    rw [hclient, Client.notify_run]

theorem push_conducted (vars : List (String × Recipe)) : ∃ l', Run cells pid l l' ∧
    l'.traffic.holder = none ∧
    l'.traffic.client = ((Client.push vars).run l.traffic.client).2 ∧
    l'.told = l.told ++ match ((Client.request (.push vars)).run l.traffic.client).1 with
      | .ok _ => [(c, l'.traffic.exchanges.length)]
      | .error _ => [] := by
  have hpush : Client.push (ω := Content) (ε := HistoryEntry) vars =
      Client.request (.push vars) >>= fun _ ↦ Client.notify >>= fun _ ↦ pure () := by
    simp [Client.push]
  rw [hpush]
  exact telling_conducted h hc hfree rfl fun _ _ ↦ rfl

theorem execute_conducted (code : String) (tag : Option String) : ∃ l', Run cells pid l l' ∧
    l'.traffic.holder = none ∧
    l'.traffic.client = ((Client.execute code tag).run l.traffic.client).2 ∧
    l'.told = l.told ++ match ((Client.request (.execute code tag)).run l.traffic.client).1 with
      | .ok _ => [(c, l'.traffic.exchanges.length)]
      | .error _ => [] := by
  refine telling_conducted h hc hfree rfl fun m client ↦ ?_
  rcases m.entry with _ | _ | _ <;> rfl

end

end Ledger

end VariableExplorer.Remote
