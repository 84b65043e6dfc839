import VariableExplorer.Proofs.Kernel.Itemising
import VariableExplorer.Proofs.Kernel.Variables
import VariableExplorer.Proofs.Remote.Likeness
import VariableExplorer.Proofs.Remote.Request

/-!
Two ways to use a kernel: directly, or through a client whose worker answers in time. As long as the
calls return, both return the same, and the same subscribers are told.
-/

namespace VariableExplorer.Remote

open Function

inductive Returned
  | entry (e : Option HistoryEntry)
  | nothing
  | outcome (o : Outcome Content)
  deriving Repr

def Report.returned (r : Report) : Returned :=
  match r.outcome?, r.entry? with
  | some o, _ => .outcome o
  | none, some e => .entry (some e)
  | none, none => .nothing

namespace Use

def call : Use → Client.Acting Content HistoryEntry Returned
  | execute code tag => .entry <$> Client.execute code tag
  | push vars => (fun _ ↦ .nothing) <$> Client.push vars
  | traceback timeout => .outcome <$> Client.traceback timeout
  | evaluate r => .outcome <$> Client.evaluate r
  | children r => .outcome <$> Client.children r false

def timeout? : Use → Option Seconds
  | execute _ _ | push _ => none
  | traceback timeout => timeout
  | evaluate r => r.timeout
  | children r => r.timeout

/-- It waits long enough for what is there already. -/
def Waits (default : Seconds) (u : Use) : Prop :=
  Client.waitTrouble? (u.timeout?.getD default) = none ∧
    Client.Patient (u.timeout?.getD default) = true

end Use

/-- A client and its worker, which answers each request in time. -/
structure Line where
  client : Client Content HistoryEntry
  worker : Option ServedKernel

namespace Line

/-- The worker serves the request for a command; its reply is there when the client reads. -/
def serve (cells : String → Cell) (pid : Int) (command : Command) (l : Line) : Line :=
  match l.worker with
  | none => l
  | some k =>
    let (reply, worker) := Worker.answer cells k (.request (.ofCommand l.client.nextId command))
    let arrivals := reply.toList.map fun r ↦ Arrival.message (.ofReply pid r)
    ⟨{ l.client with inbox := l.client.inbox ++ arrivals }, worker⟩

def use (cells : String → Cell) (pid : Int) (u : Use) :
    StateM Line (Except Client.Trouble Returned) := fun l ↦
  let l := l.serve cells pid u.command
  let (r, client) := u.call.run l.client
  (r, { l with client := client })

end Line

namespace Client

variable {ω ε : Type} {c : Client ω ε}

/-- Nothing keeps the client from sending requests. -/
structure Ready (c : Client ω ε) : Prop where
  isOpen : c.closed = false
  sends : c.troubles.send = none
  free : c.troubles.busy = false

def replied (c : Client ω ε) (command : Command) : Client ω ε :=
  { c with nextId := c.nextId + 1, sent := c.sent ++ [(c.nextId, command)], inbox := [] }

section

variable {command : Command} {timeout : Option Seconds} {m : Message ω ε} (h : c.Ready)
  (hinbox : c.inbox = [.message m]) (hid : m.id = some c.nextId) (hok : m.ok = true)
  (htrouble : waitTrouble? (timeout.getD c.defaultTimeout) = none)
  (hpatient : Patient (timeout.getD c.defaultTimeout) = true)

include h hinbox hid hok htrouble hpatient

theorem request_replied : (request command timeout).run c = (.ok m, c.replied command) := by
  have hread : found c.nextId true c.inbox = (some (.ok m), []) := by
    simp [hinbox, found, read, accept, hid]
  have hreply : c.reply (timeout.getD c.defaultTimeout) = .ok m := by
    simp only [reply, h.isOpen, h.free, h.sends, htrouble, hpatient, handed, hread,
      Bool.false_eq_true, if_false]
    exact if_pos hok
  have hafter : c.after command (timeout.getD c.defaultTimeout) = c.replied command := by
    simp only [after, replied, h.isOpen, h.free, h.sends, htrouble, hpatient, hread,
      Bool.false_eq_true, if_false]
  rw [request_run_eq, hreply, hafter]

theorem inquire_replied {o : Outcome ω} (ho : m.outcome = some o) :
    (inquire command timeout).run c = (.ok o, c.replied command) := by
  have hrequest : (request command timeout).run c = (.ok m, c.replied command) :=
    request_replied h hinbox hid hok htrouble hpatient
  rw [inquire, attempt, run_bind_of_ok (run_attempt hrequest)]
  simp only [ho]
  rfl

end

end Client

namespace Line

variable {cells : String → Cell} {pid : Int} {client : Client Content HistoryEntry}
  {k k' : ServedKernel}

def after (client : Client Content HistoryEntry) (u : Use) : Client Content HistoryEntry :=
  { client.replied u.command with
    events := client.events ++
      (if u.command.changes then client.subscribers.callbacks else []).map .notified }

theorem after_of_not_changes {u : Use} (h : u.command.changes = false) :
    after client u = client.replied u.command := by
  rw [after, h, if_neg Bool.false_ne_true, List.map_nil, List.append_nil]
  rfl

theorem call_run (h : client.Ready) {u : Use} (hwaits : u.Waits client.defaultTimeout)
    {report : Report} (hgets : u.command.Gets report)
    (hinbox : client.inbox = [.message (.ofReply pid ⟨some client.nextId, report⟩)]) :
    u.call.run client = (.ok report.returned, after client u) := by
  obtain ⟨htrouble, hpatient⟩ := hwaits
  cases u with
  | execute code tag =>
    cases hgets with | execute e => ?_
    have hrequest : (Client.request (.execute code tag)).run client =
        (.ok (.ofReply pid ⟨some client.nextId, .entry e⟩), client.replied (.execute code tag)) :=
      Client.request_replied h hinbox rfl rfl htrouble hpatient
    have hexecute : (Client.execute code tag).run client =
        (.ok (some e), after client (.execute code tag)) := by
      rw [Client.execute, run_bind_of_ok hrequest,
        run_bind_of_ok (Client.notify_run _)]
      rfl
    exact run_map_of_ok hexecute
  | push vars =>
    cases hgets with | push => ?_
    have hrequest : (Client.request (.push vars)).run client =
        (.ok (.ofReply pid ⟨some client.nextId, .done⟩), client.replied (.push vars)) :=
      Client.request_replied h hinbox rfl rfl htrouble hpatient
    have hpush : (Client.push vars).run client = (.ok (), after client (.push vars)) := by
      rw [Client.push, run_bind_of_ok hrequest, Client.notify_run]
      rfl
    exact run_map_of_ok hpush
  | traceback timeout =>
    cases hgets with | traceback o => ?_
    rw [after_of_not_changes rfl]
    exact run_map_of_ok
      (Client.inquire_replied h hinbox rfl rfl htrouble hpatient rfl)
  | evaluate r =>
    cases hgets with | evaluate o => ?_
    rw [after_of_not_changes rfl]
    exact run_map_of_ok
      (Client.inquire_replied h hinbox rfl rfl htrouble hpatient rfl)
  | children r =>
    cases hgets with | children o => ?_
    rw [after_of_not_changes rfl]
    exact run_map_of_ok
      (Client.inquire_replied h hinbox rfl rfl htrouble hpatient rfl)

theorem serve_run {u : Use} {report : Report}
    (hk : Worker.carryOut cells k u.command = (.ok report, k')) :
    serve cells pid u.command ⟨client, some k⟩ = ⟨{ client with
      inbox := client.inbox ++ [.message (.ofReply pid ⟨some client.nextId, report⟩)] },
      some k'⟩ := by
  have hanswer := Worker.answer_ofCommand cells k u.command_ne_close client.nextId
  rw [hk] at hanswer
  simp only [serve, hanswer]
  rfl

theorem use_run (h : client.Ready) (hinbox : client.inbox = []) {u : Use}
    (hwaits : u.Waits client.defaultTimeout) {report : Report}
    (hk : Worker.carryOut cells k u.command = (.ok report, k')) :
    (use cells pid u).run ⟨client, some k⟩ =
      (.ok report.returned, ⟨after client u, some k'⟩) := by
  have hgets := Worker.carryOut_gets (congrArg Prod.fst hk)
  let arrived : Client Content HistoryEntry :=
    { client with inbox := [.message (.ofReply pid ⟨some client.nextId, report⟩)] }
  have hcall : u.call.run arrived = (.ok report.returned, after arrived u) :=
    @call_run pid arrived ⟨h.isOpen, h.sends, h.free⟩ u hwaits report hgets rfl
  have hserve : serve cells pid u.command ⟨client, some k⟩ = ⟨arrived, some k'⟩ := by
    rw [serve_run hk, hinbox]
    rfl
  simp only [use, StateT.run, hserve]
  show ((u.call.run arrived).1, (⟨(u.call.run arrived).2, some k'⟩ : Line)) = _
  rw [hcall]
  rfl

/-- Such a call is one of the traffic that sends its request, has it served and reads the reply
before anything else happens. -/
theorem use_conducted {w : Traffic} {c : Nat} (hc : w.phases c = .idle) (hfree : w.holder = none)
    (hkernel : w.kernel = some k) (hpending : w.pending = []) (h : w.client.Ready)
    (hinbox : w.client.inbox = []) {u : Use} {report : Report}
    (hk : Worker.carryOut cells k u.command = (.ok report, k')) : ∃ w',
    Traffic.Run cells pid w w' ∧ w'.client = after w.client u ∧ w'.kernel = some k' ∧
    w'.pending = [] ∧ w'.holder = none ∧
    w'.phases c =
      .handed w.client.nextId (.ofReply pid ⟨some w.client.nextId, report⟩) := by
  have hissue := Client.issue_run u.command w.client
  simp only [h.sends] at hissue
  have hanswer := Worker.answer_ofCommand cells k u.command_ne_close w.client.nextId
  rw [hk] at hanswer
  -- The states it goes through: called, with the pipe, sent, served and handed its reply.
  let called : Traffic := w.put c (.waiting u.command)
  let held : Traffic := { called.put c (.holding u.command) with holder := some c }
  let sent : Traffic := held.send c u.command w.client.nextId
    { w.client with
      nextId := w.client.nextId + 1, sent := w.client.sent ++ [(w.client.nextId, u.command)] }
  let reply : Reply Int := ⟨some w.client.nextId, report⟩
  let served : Traffic :=
    sent.serve pid (.ofCommand w.client.nextId u.command) [] (some reply) (some k')
  have hcalled : Traffic.Step cells pid w called := .call c u.command hc
  have hheld : Traffic.Step cells pid called held := .acquire (update_self ..) hfree
  have hsent : Traffic.Step cells pid held sent := .send (update_self ..) hissue
  have hserved : Traffic.Step cells pid sent served := by
    refine .serve hkernel ?_ hanswer
    show w.pending ++ [_] = _
    rw [hpending, List.nil_append]
  have harrived : served.client.inbox = [.message (.ofReply pid reply)] := by
    show w.client.inbox ++ _ = _
    rw [hinbox]
    rfl
  have haccept : Client.accept w.client.nextId (.message (.ofReply pid reply)) =
      some (.ok (.ofReply pid reply)) := by
    simp [Client.accept, Message.ofReply, reply]
  let handed : Traffic := (served.take c (.message (.ofReply pid reply)) []).release c
    (.handed w.client.nextId (.ofReply pid reply))
  have hreceived : Traffic.Step cells pid served handed :=
    .receive (update_self ..) harrived haccept
  have htold : Traffic.Step cells pid handed { handed with client := after w.client u } :=
    .change rfl rfl rfl
  exact ⟨_, .tail (.tail (.tail (.tail (.tail (.single hcalled) hheld) hsent) hserved) hreceived)
    htold, rfl, rfl, rfl, rfl, update_self ..⟩

end Line

def Direct.start (known : List String) (vars : List (String × Recipe))
    (subscribers : Subscribers String) : Except Fault Direct :=
  match Kernel.new (κ := String) known [] false with
  | .error f => .error f
  | .ok k =>
    match k.eval (Shell.bindAll k.env vars) with
    | (.error f, _) => .error f
    | (.ok (), k) => .ok { kernel := { k with subscribers := subscribers } }

variable {known : List String} {start : List (String × Recipe)} {subscribers : Subscribers String}
  {told : List String} {cells : String → Cell} {pid : Int} {d d' : Direct}

theorem Direct.start_served (h : Direct.start known start subscribers = .ok d) :
    ∃ k : ServedKernel, Direct.Beside subscribers [] d k ∧
      ∀ {ι : Type} (incoming : List (Incoming ι)),
        Worker.run cells known (.vars start) true incoming =
          (Worker.serve cells k incoming).after (some ⟨none, .ready⟩) := by
  unfold Direct.start at h
  split at h
  · cases h
  next kd hnew =>
    obtain ⟨ks, hnew', halike, hreporting⟩ := Kernel.new_alike hnew
    have hbeside : Direct.Beside kd.subscribers [] { kernel := kd } ks :=
      { halike with reporting := hreporting, subscribers := rfl, told := rfl }
    obtain ⟨r, kd', ks', hd, hk, hbeside'⟩ := hbeside.eval (Shell.bindAll kd.env start)
    rw [hd] at h
    cases r with
    | error f => cases h
    | ok u =>
      cases h
      refine ⟨ks', { hbeside' with subscribers := rfl, told := rfl }, fun incoming ↦ ?_⟩
      simp only [Worker.run, hnew', Seed.bind, halike.env, hk]
      rfl

theorem Direct.start_sound (hstart : ∀ e ∈ start, Eval.Tame e.2)
    (h : Direct.start known start subscribers = .ok d) :
    Shell.Sound d.kernel.env d.kernel.store := by
  unfold Direct.start at h
  split at h
  · cases h
  next k hnew =>
    have hsound := (Kernel.new_sound (by simp) hnew).1
    rcases hbound : k.eval (Shell.bindAll k.env start) with ⟨f | u, k'⟩ <;> rw [hbound] at h <;>
      cases h
    obtain ⟨t, hrun, rfl⟩ := Kernel.eval_eq hbound
    exact (Shell.bindAll_upholds hstart).sound hsound hrun

/-- A direct kernel and a client whose worker is idle, once these have been told. -/
structure Together (subscribers : Subscribers String) (default : Seconds)
    (events : List Client.Event) (d : Direct) (l : Line) : Prop where
  beside : ∃ k, l.worker = some k ∧ Direct.Beside subscribers d.told d k
  ready : l.client.Ready
  inbox : l.client.inbox = []
  default : l.client.defaultTimeout = default
  subscribers : l.client.subscribers = subscribers
  events : l.client.events = events ++ d.told.map .notified

variable {default : Seconds} {events : List Client.Event} {l : Line}

theorem Together.use (h : Together subscribers default events d l) {u : Use}
    (hwaits : u.Waits default) {report : Report}
    (hrun : (Direct.use cells u).run d = (.ok report, d')) : ∃ l',
    (Line.use cells pid u).run l = (.ok report.returned, l') ∧
    Together subscribers default events d' l' ∧
    d'.told = d.told ++ if u.command.changes then subscribers.callbacks else [] := by
  obtain ⟨client, worker⟩ := l
  obtain ⟨k, rfl, hbeside⟩ := h.beside
  obtain ⟨r, d₁, k', hd, hk, hafter⟩ := Direct.use_served hbeside cells u
  rw [hd] at hrun
  cases hrun
  have hbeside' := hafter report rfl
  have hwaits' : u.Waits client.defaultTimeout := h.default ▸ hwaits
  refine ⟨_, Line.use_run h.ready h.inbox hwaits' hk, ⟨⟨k', rfl, ?_⟩,
    ⟨h.ready.isOpen, h.ready.sends, h.ready.free⟩, rfl, h.default, h.subscribers, ?_⟩,
    hbeside'.told⟩
  · rw [hbeside'.told]
    exact hbeside'
  · show client.events ++ (if _ then client.subscribers.callbacks else []).map _ = _
    rw [hbeside'.told, h.events, h.subscribers, List.append_assoc, List.map_append]

theorem Together.uses (h : Together subscribers default events d l) {uses : List Use}
    (hwaits : ∀ u ∈ uses, u.Waits default) {reports : List Report}
    (hrun : (uses.mapM (Direct.use cells)).run d = (reports.map .ok, d')) : ∃ l',
    (uses.mapM (Line.use cells pid)).run l = (reports.map (.ok ·.returned), l') ∧
    Together subscribers default events d' l' ∧ d'.told = d.told ++ uses.flatMap fun u ↦
      if u.command.changes then subscribers.callbacks else [] := by
  induction uses generalizing d l reports with
  | nil =>
    cases reports with
    | nil =>
      cases hrun
      exact ⟨l, rfl, h, (List.append_nil _).symm⟩
    | cons => cases hrun
  | cons u uses ih =>
    rw [run_mapM_cons] at hrun
    rcases hfirst : (Direct.use cells u).run d with ⟨r, d₁⟩
    rcases hrest : (uses.mapM (Direct.use cells)).run d₁ with ⟨rs, d₂⟩
    rw [hfirst, hrest] at hrun
    cases reports with
    | nil => cases hrun
    | cons report reports =>
      cases hrun
      obtain ⟨hu, huses⟩ := List.forall_mem_cons.mp hwaits
      obtain ⟨l₁, hl₁, h₁, htold⟩ := h.use hu hfirst
      obtain ⟨l', hl', h', htold'⟩ := ih h₁ huses hrest
      refine ⟨l', ?_, h', ?_⟩
      · rw [run_mapM_cons, hl₁, hl']
        rfl
      · rw [htold', htold, List.append_assoc]
        rfl

theorem Direct.start_together (hd : Direct.start known start subscribers = .ok d)
    {client : Client Content HistoryEntry} (hready : client.Ready) (hinbox : client.inbox = [])
    (hsubscribers : client.subscribers = subscribers) : ∃ k : ServedKernel, d.told = [] ∧
    (∀ {ι : Type} (incoming : List (Incoming ι)),
      Worker.run cells known (.vars start) true incoming =
        (Worker.serve cells k incoming).after (some ⟨none, .ready⟩)) ∧
    Together subscribers client.defaultTimeout client.events d ⟨client, some k⟩ := by
  obtain ⟨k, hbeside, hrun⟩ := Direct.start_served hd
  have htold : d.told = [] := hbeside.told
  refine ⟨k, htold, hrun, ⟨k, rfl, ?_⟩, hready, hinbox, rfl, hsubscribers, ?_⟩
  · rw [htold]
    exact hbeside
  · rw [htold, List.map_nil, List.append_nil]

/-- A client whose worker starts with some variables, and a kernel that is given the same ones once
it is made: the same calls return the same, as long as those of the kernel return. Each change is
told once to the subscribers of either. -/
theorem sessions_agree (hd : Direct.start known start subscribers = .ok d)
    {client : Client Content HistoryEntry} (hready : client.Ready) (hinbox : client.inbox = [])
    (hsubscribers : client.subscribers = subscribers) : ∃ k : ServedKernel,
    (∀ {ι : Type} (incoming : List (Incoming ι)),
      Worker.run cells known (.vars start) true incoming =
        (Worker.serve cells k incoming).after (some ⟨none, .ready⟩)) ∧
    ∀ (uses : List Use) (reports : List Report) (d' : Direct),
      (∀ u ∈ uses, u.Waits client.defaultTimeout) →
      (uses.mapM (Direct.use cells)).run d = (reports.map .ok, d') →
      ∃ l', (uses.mapM (Line.use cells pid)).run ⟨client, some k⟩ =
          (reports.map (.ok ·.returned), l') ∧
        d'.told = (uses.flatMap fun u ↦
          if u.command.changes then subscribers.callbacks else []) ∧
        l'.client.events = client.events ++ d'.told.map .notified := by
  obtain ⟨k, htold, hrun, h⟩ := Direct.start_together hd hready hinbox hsubscribers
  refine ⟨k, hrun, fun uses reports d' hwaits huses ↦ ?_⟩
  obtain ⟨l', hl', h', htold'⟩ := h.uses hwaits huses
  rw [htold, List.nil_append] at htold'
  exact ⟨l', hl', htold', h'.events⟩

def allVariables : ChildrenRequest :=
  ⟨globalEnvironment, globalEnvironment, [.accessorKind], none, none, none, false⟩

theorem Direct.allVariables_run {d : Direct} (hopen : d.kernel.closed = false)
    (hs : Shell.Sound d.kernel.env d.kernel.store) {vars : List (String × Value)} {r : Ref}
    (hvars : d.kernel.store.Binds d.kernel.env vars) (hglobals : vars.lookup "globals" = none)
    (huniversal : vars.lookup universalKey = some (.ref r))
    (hknown : d.kernel.store.IsDict r ([("globals", Shell.globalsFunction)].map asEntry)) :
    ∃ infos t, (Direct.use cells (.children allVariables)).run d =
        (.ok (.values (.success infos)), { d with kernel.store := t }) ∧
      infos.map (·.name) = vars.map (·.1) := by
  have hmeant : Shell.Meant d.kernel.env d.kernel.store :=
    .universal hvars hglobals huniversal hknown rfl
  obtain ⟨u, hrun, hkeeps, hcivil⟩ := (Shell.MeansGlobals.of_meant hmeant).evaluateChain_run hs
  have hvars' := (Shell.provided_binds_missing hvars).keeps hkeeps
  rw [Shell.missing, if_pos (by simp [huniversal]), List.append_nil] at hvars'
  obtain ⟨infos, t, hlisted, hall⟩ :=
    Inspection.children_run hrun hcivil hvars' (r := allVariables) rfl rfl rfl rfl
  have hchildren : d.kernel.children allVariables =
      (.ok (.success infos), { d.kernel with store := t }) := by
    rw [Kernel.children, Kernel.inspect, if_neg (by simp [hopen]), Kernel.eval, hlisted]
  refine ⟨infos, t, ?_, hall.names hcivil⟩
  rw [Direct.use, run_bind (Direct.run_modifyGet hchildren)]
  rfl

theorem Direct.start_x (cells : String → Cell) (subscribers : Subscribers String) : ∃ d infos t,
    Direct.start ["globals"] [("x", pure (.int 1))] subscribers = .ok d ∧
    d.kernel.closed = false ∧ d.kernel.reporting = true ∧
    (Direct.use cells (.children allVariables)).run d =
      (.ok (.values (.success infos)), { d with kernel.store := t }) ∧
    infos.map (·.name) = ["__builtins__", "_kernel", "x"] := by
  obtain ⟨d, hd, hopen, hreporting, hvars, hknown⟩ : ∃ d : Direct,
      Direct.start ["globals"] [("x", pure (.int 1))] subscribers = .ok d ∧
      d.kernel.closed = false ∧ d.kernel.reporting = true ∧
      d.kernel.store.Binds d.kernel.env
        [("__builtins__", .ref 0), ("_kernel", .ref 5), ("x", .int 1)] ∧
      d.kernel.store.IsDict 0 ([("globals", Shell.globalsFunction)].map asEntry) :=
    ⟨_, rfl, rfl, rfl, ⟨rfl, by decide⟩, rfl⟩
  have hs := Direct.start_sound (List.forall_mem_singleton.mpr (.pure trivial)) hd
  obtain ⟨infos, t, hrun, hnames⟩ := Direct.allVariables_run hopen hs hvars rfl rfl hknown
  exact ⟨d, infos, t, hd, hopen, hreporting, hrun, hnames⟩

/-- All variables are asked for, one is bound again, and a further one is pushed. -/
theorem sessions_agree_mixed : ∃ (k : ServedKernel) (infos : List ValueInfo) (l' : Line),
    (∀ incoming : List (Incoming Int),
      Worker.run (fun _ ↦ { bound := [("x", pure (.int 2))] }) ["globals"]
          (.vars [("x", pure (.int 1))]) true incoming =
        (Worker.serve (fun _ ↦ { bound := [("x", pure (.int 2))] }) k incoming).after
          (some ⟨none, .ready⟩)) ∧
    ([Use.children allVariables, .traceback (some (.whole 5)), .execute "x = 2" (some "cell"),
        .push [("y", pure (.int 3))]].mapM
      (Line.use (fun _ ↦ { bound := [("x", pure (.int 2))] }) 7)).run
      ⟨{ defaultTimeout := .whole 30, subscribers := ⟨["A", "B"]⟩ }, some k⟩ =
      ([.ok (.outcome (.success (.values infos))),
        .ok (.outcome (.success (.frames [⟨0, "<module>", true, globalEnvironment⟩]))),
        .ok (.entry (some ⟨"x = 2", "", "", true, some "cell", none, none⟩)), .ok .nothing], l') ∧
    infos.map (·.name) = ["__builtins__", "_kernel", "x"] ∧
    l'.client.events = ["A", "B", "A", "B"].map .notified := by
  let cells : String → Cell := fun _ ↦ { bound := [("x", pure (.int 2))] }
  obtain ⟨d, infos, t, hd, hopen, hreporting, hlisted, hnames⟩ :=
    Direct.start_x cells ⟨["A", "B"]⟩
  let d₁ : Direct := { d with kernel.store := t }
  have htraced : (Direct.use cells (.traceback (some (.whole 5)))).run d₁ =
      (.ok (.frames (.success [⟨0, "<module>", true, globalEnvironment⟩])), d₁) := by
    show (Except.ok (Report.frames d₁.kernel.traceback), d₁) = _
    rw [Kernel.traceback, if_neg (by simp [d₁, hopen])]
  obtain ⟨d₂, hexecuted⟩ : ∃ d₂, (Direct.use cells (.execute "x = 2" (some "cell"))).run d₁ =
      (.ok (.entry ⟨"x = 2", "", "", true, some "cell", none, none⟩), d₂) := by
    have hreporting₁ : d₁.kernel.reporting = true := hreporting
    generalize d₁ = d at hreporting₁
    obtain ⟨⟨store, env, self, hosts, closed, reporting, subscribers, history⟩, told⟩ := d
    cases hreporting₁
    exact ⟨_, rfl⟩
  obtain ⟨d₃, hpushed⟩ : ∃ d₃, (Direct.use cells (.push [("y", pure (.int 3))])).run d₂ =
      (.ok .done, d₃) := ⟨_, rfl⟩
  let uses : List Use := [.children allVariables, .traceback (some (.whole 5)),
    .execute "x = 2" (some "cell"), .push [("y", pure (.int 3))]]
  let reports : List Report := [.values (.success infos),
    .frames (.success [⟨0, "<module>", true, globalEnvironment⟩]),
    .entry ⟨"x = 2", "", "", true, some "cell", none, none⟩, .done]
  have huses : (uses.mapM (Direct.use cells)).run d = (reports.map .ok, d₃) := by
    rw [run_mapM_cons, hlisted, run_mapM_cons, htraced, run_mapM_cons, hexecuted, run_mapM_cons,
      hpushed]
    rfl
  have hwaits : ∀ u ∈ uses, u.Waits (.whole 30) := by
    simp only [uses, List.forall_mem_cons]
    exact ⟨⟨rfl, rfl⟩, ⟨rfl, rfl⟩, ⟨rfl, rfl⟩, ⟨rfl, rfl⟩, by simp⟩
  let client : Client Content HistoryEntry :=
    { defaultTimeout := .whole 30, subscribers := ⟨["A", "B"]⟩ }
  have hready : client.Ready := ⟨rfl, rfl, rfl⟩
  obtain ⟨k, hrun, hagree⟩ := sessions_agree hd hready rfl rfl
  obtain ⟨l', hl', htold, hevents⟩ := hagree uses reports d₃ hwaits huses
  refine ⟨k, infos, l', fun incoming ↦ hrun incoming, hl', hnames, ?_⟩
  rw [hevents, htold]
  rfl

theorem Direct.new_x (cells : String → Cell) : ∃ (k : Kernel String) (infos : List ValueInfo),
    Kernel.new ["globals"] [("x", pure (.int 1))] false = .ok k ∧
    ((Direct.use cells (.children allVariables)).run { kernel := k }).1 =
      .ok (.values (.success infos)) ∧
    infos.map (·.name) = ["__builtins__", "x", "_kernel"] := by
  obtain ⟨k, hk, hvars, hknown⟩ : ∃ k : Kernel String,
      Kernel.new ["globals"] [("x", pure (.int 1))] false = .ok k ∧
      k.store.Binds k.env [("__builtins__", .ref 0), ("x", .int 1), ("_kernel", .ref 5)] ∧
      k.store.IsDict 0 ([("globals", Shell.globalsFunction)].map asEntry) :=
    ⟨_, rfl, ⟨rfl, by decide⟩, rfl⟩
  obtain ⟨hs, hopen, -⟩ :=
    Kernel.new_sound (List.forall_mem_singleton.mpr (.pure trivial)) hk
  obtain ⟨infos, t, hrun, hnames⟩ :=
    Direct.allVariables_run (d := { kernel := k }) hopen hs hvars rfl rfl hknown
  exact ⟨k, infos, hk, congrArg Prod.fst hrun, hnames⟩

theorem Direct.start_stopping (cells : String → Cell) : ∃ (d : Direct) (f : Fault),
    Direct.start [] [("d", Kernel.stopping)] {} = .ok d ∧ f.isOrdinary = false ∧
    ((Direct.use cells (.evaluate ⟨⟨0, "<module>", true, globalEnvironment⟩, "d", "d", [],
      .summary, none⟩)).run d).1 = .error f := by
  obtain ⟨d, hd, hopen, hvars, hdescribed⟩ : ∃ d : Direct,
      Direct.start [] [("d", Kernel.stopping)] {} = .ok d ∧ d.kernel.closed = false ∧
      d.kernel.store.Binds d.kernel.env
        [("__builtins__", .ref 0), ("_kernel", .ref 5), ("d", .ref 8)] ∧
      (describe ⟨"d", "d", .other, [], .summary⟩ (.ref 8)).run d.kernel.store =
        (.error (.raised "SystemExit" none), d.kernel.store) :=
    ⟨_, rfl, rfl, ⟨rfl, by decide⟩, rfl⟩
  refine ⟨d, .raised "SystemExit" none, hd, by decide, ?_⟩
  have hfound := Shell.evaluateChain_d hvars (by decide) rfl
  let r : EvaluationRequest :=
    ⟨⟨0, "<module>", true, globalEnvironment⟩, "d", "d", [], .summary, none⟩
  have hinner : (Inspection.environment d.kernel.env globalEnvironment >>= fun env ↦
      evaluateChain env "d" >>= fun v ↦
        describe ⟨"d", "d", .other, [], .summary⟩ v).run d.kernel.store =
      (.error (.raised "SystemExit" none), d.kernel.store) := by
    rw [Inspection.environment_global, pure_bind, run_bind_of_ok hfound, hdescribed]
  have hevaluated := Inspection.settled_run_of_stop hinner (by decide)
  have hread : d.kernel.evaluate r = (.error (.raised "SystemExit" none), d.kernel) := by
    rw [Kernel.evaluate, Kernel.inspect, if_neg (by simp [hopen]), Kernel.eval]
    exact congrArg (fun e ↦ (e.1, { d.kernel with store := e.2 })) hevaluated
  rw [Direct.use, run_bind (Direct.run_modifyGet hread)]
  rfl

/-- A kernel whose shell has its variables already lists itself last, where the worker's lists them
behind itself. And where a call stops the program, there is nothing that a worker replies. -/
theorem sessions_disagree :
    (∃ (kd : Kernel String) (ks : ServedKernel) (infos infos' : List ValueInfo),
      Kernel.new ["globals"] [("x", pure (.int 1))] false = .ok kd ∧
      (∀ incoming : List (Incoming Int),
        Worker.run (fun _ ↦ {}) ["globals"] (.vars [("x", pure (.int 1))]) true incoming =
          (Worker.serve (fun _ ↦ {}) ks incoming).after (some ⟨none, .ready⟩)) ∧
      ((Direct.use (fun _ ↦ {}) (.children allVariables)).run { kernel := kd }).1 =
        .ok (.values (.success infos)) ∧
      ((Line.use (fun _ ↦ {}) 7 (.children allVariables)).run
        ⟨{ defaultTimeout := .whole 30 }, some ks⟩).1 =
        .ok (.outcome (.success (.values infos'))) ∧
      infos.map (·.name) = ["__builtins__", "x", "_kernel"] ∧
      infos'.map (·.name) = ["__builtins__", "_kernel", "x"]) ∧
    ∃ (d : Direct) (k : ServedKernel) (r : EvaluationRequest) (f : Fault),
      Direct.start [] [("d", Kernel.stopping)] {} = .ok d ∧
      (∀ incoming : List (Incoming Int),
        Worker.run (fun _ ↦ {}) [] (.vars [("d", Kernel.stopping)]) true incoming =
          (Worker.serve (fun _ ↦ {}) k incoming).after (some ⟨none, .ready⟩)) ∧
      ((Direct.use (fun _ ↦ {}) (.evaluate r)).run d).1 = .error f ∧
      Worker.answer (fun _ ↦ {}) k (.request (.ofCommand (1 : Int) (.evaluate r))) =
        (none, none) := by
  refine ⟨?_, ?_⟩
  · obtain ⟨kd, infos, hkd, hlisted, hnames⟩ := Direct.new_x fun _ ↦ {}
    obtain ⟨d, infos', t, hd, -, -, hlisted', hnames'⟩ := Direct.start_x (fun _ ↦ {}) {}
    let client : Client Content HistoryEntry := { defaultTimeout := .whole 30 }
    have hready : client.Ready := ⟨rfl, rfl, rfl⟩
    obtain ⟨ks, -, hrun, htogether⟩ := Direct.start_together hd hready rfl rfl
    obtain ⟨l', hl', -⟩ := htogether.use ⟨rfl, rfl⟩ hlisted'
    exact ⟨kd, ks, infos, infos', hkd, fun incoming ↦ hrun incoming, hlisted,
      congrArg Prod.fst hl', hnames, hnames'⟩
  · obtain ⟨d, f, hd, hstops, hraised⟩ := Direct.start_stopping fun _ ↦ {}
    obtain ⟨k, hbeside, hrun⟩ := Direct.start_served hd
    let r : EvaluationRequest :=
      ⟨⟨0, "<module>", true, globalEnvironment⟩, "d", "d", [], .summary, none⟩
    obtain ⟨result, d', k', hd', hk', -⟩ := Direct.use_served hbeside (fun _ ↦ {}) (.evaluate r)
    rw [hd'] at hraised
    cases hraised
    have hanswer :=
      Worker.answer_ofCommand (fun _ ↦ {}) k (Use.evaluate r).command_ne_close (1 : Int)
    rw [hk'] at hanswer
    exact ⟨d, k, r, f, hd, fun incoming ↦ hrun incoming, congrArg Prod.fst hd',
      hanswer.trans (congrArg (·, none) (Worker.lastWords_of_stop hstops))⟩

end VariableExplorer.Remote
