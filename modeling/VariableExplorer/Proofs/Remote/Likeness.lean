import VariableExplorer.Proofs.Remote.Telling
import VariableExplorer.Proofs.Value.Tame

/-!
Kernels that are driven directly. As long as no host is attached, such a kernel does what the kernel
of a worker does that has the same shell, and it tells its subscribers of every change.
-/

namespace VariableExplorer

/-- Two open kernels over one shell, without a host. -/
structure Kernel.Alike {κ κ' : Type} (k : Kernel κ) (k' : Kernel κ') : Prop where
  store : k'.store = k.store
  env : k'.env = k.env
  hosts : k.hosts = []
  hosts' : k'.hosts = []
  isOpen : k.closed = false
  isOpen' : k'.closed = false

theorem Kernel.new_alike {κ κ' : Type} {known : List String} {vars : List (String × Recipe)}
    {k : Kernel κ} (h : Kernel.new known vars false = .ok k) : ∃ k' : Kernel κ',
    Kernel.new known vars false = .ok k' ∧ k.Alike k' ∧ k.reporting = true := by
  unfold Kernel.new at h ⊢
  extract_lets at h ⊢
  split at h
  next env self hosts store hrun =>
    cases h
    obtain ⟨env', s₁, -, hrun'⟩ := run_bind_eq_ok hrun
    obtain ⟨self', s₂, -, hrun'⟩ := run_bind_eq_ok hrun'
    have hhosts : hosts = [] := by
      simp only [Bool.false_eq_true, if_false, pure_bind] at hrun'
      obtain ⟨u, s₃, -, hrun'⟩ := run_bind_eq_ok hrun'
      cases hrun'
      rfl
    exact ⟨_, rfl, ⟨rfl, rfl, hhosts, hhosts, rfl, rfl⟩, rfl⟩
  · cases h

theorem Kernel.showing?_of_no_hosts {κ : Type} {k : Kernel κ} (h : k.hosts = []) (v : Value)
    (args : List Value) : k.showing? v args = none := by
  unfold showing?
  split
  · simp [h]
  · rfl

namespace Remote

inductive Use
  | execute (code : String) (tag : Option String)
  | push (vars : List (String × Recipe))
  | traceback (timeout : Option Seconds)
  | evaluate (r : EvaluationRequest)
  | children (r : ChildrenRequest)

namespace Use

def command : Use → Command
  | execute code tag => .execute code tag
  | push vars => .push vars
  | traceback _ => .traceback
  | evaluate r => .evaluate r
  | children r => .children r

theorem command_ne_close (u : Use) : u.command ≠ .close := by
  cases u <;> nofun

end Use

/-- A kernel that is driven directly, and who has been told of its changes. -/
structure Direct where
  kernel : Kernel String
  told : List String := []

namespace Direct

abbrev Acting := StateM Direct

instance : MonadStateOf (Kernel String) Acting where
  get := fun d ↦ (d.kernel, d)
  set := fun k d ↦ ((), { d with kernel := k })
  modifyGet := fun f d ↦ let (a, k) := f d.kernel; (a, { d with kernel := k })

def tell (label : String) : Acting Unit :=
  modifyThe Direct fun d ↦ { d with told := d.told ++ [label] }

def display (_ : Ref) (_ : Showing) : Acting (Except Fault Unit) := return .ok ()

def use (cells : String → Cell) : Use → Acting (Except Fault Report)
  | .execute code tag => do return (← Kernel.execute tell display code tag (cells code)).map .entry
  | .push vars => do return (← Kernel.push tell vars).map fun _ ↦ .done
  | .traceback _ => do return .ok (.frames (← getThe (Kernel String)).traceback)
  | .evaluate r => do return (← modifyGetThe (Kernel String) (·.evaluate r)).map .value
  | .children r => do return (← modifyGetThe (Kernel String) (·.children r)).map .values

/-- Beside a worker's kernel, with these subscribers of which these have been told. -/
structure Beside (subscribers : Subscribers String) (told : List String) (d : Direct)
    (k : ServedKernel) : Prop extends d.kernel.Alike k where
  reporting : d.kernel.reporting = true
  subscribers : d.kernel.subscribers = subscribers
  told : d.told = told

variable {subscribers : Subscribers String} {told : List String} {α β : Type}

/-- A computation at a direct kernel and one at a worker's that give the same result and keep the
two beside each other, with nobody told. -/
def Matches (subscribers : Subscribers String) (told : List String) (x : Acting α)
    (y : StateM ServedKernel α) : Prop :=
  ∀ d k, Beside subscribers told d k → ∃ a d' k', x.run d = (a, d') ∧ y.run k = (a, k') ∧
    Beside subscribers told d' k'

namespace Matches

theorem pure (a : α) : Matches subscribers told (Pure.pure a) (Pure.pure a) :=
  fun d k h ↦ ⟨a, d, k, rfl, rfl, h⟩

theorem bind {x : Acting α} {y : StateM ServedKernel α} {f : α → Acting β}
    {g : α → StateM ServedKernel β} (hx : Matches subscribers told x y)
    (hf : ∀ a, Matches subscribers told (f a) (g a)) :
    Matches subscribers told (x >>= f) (y >>= g) := by
  intro d k h
  obtain ⟨a, d', k', hd, hk, h'⟩ := hx d k h
  obtain ⟨b, d'', k'', hd', hk', h''⟩ := hf a d' k' h'
  refine ⟨b, d'', k'', ?_, ?_, h''⟩
  · show (f (x.run d).1).run (x.run d).2 = _
    rw [hd, hd']
  · show (g (y.run k).1).run (y.run k).2 = _
    rw [hk, hk']

theorem get {f : Kernel String → Acting α} {g : ServedKernel → StateM ServedKernel α}
    (h : ∀ k k', Kernel.Alike k k' → Matches subscribers told (f k) (g k')) :
    Matches subscribers told (getThe (Kernel String) >>= f) (getThe ServedKernel >>= g) :=
  fun d k hbeside ↦ h d.kernel k hbeside.toAlike d k hbeside

theorem evaluating (x : Eval α) : Matches subscribers told
    (Kernel.evaluating (κ := String) x) (Kernel.evaluating (κ := Empty) x) := by
  intro d k h
  refine ⟨_, _, { k with store := (x.run d.kernel.store).2 }, rfl, ?_, ?_⟩
  · show ((x.run k.store).1, { k with store := (x.run k.store).2 }) = _
    rw [h.store]
    rfl
  · exact { h with store := rfl, told := h.told }

theorem runCalls (calls : List (String × List Recipe)) : Matches subscribers told
    (Kernel.runCalls (κ := String) display calls)
    (Kernel.runCalls (κ := Empty) (fun _ _ ↦ return .ok ()) calls) := by
  induction calls with
  | nil => exact pure _
  | cons e rest ih =>
    refine get fun k k' halike ↦ ?_
    rw [halike.env]
    refine bind (evaluating _) fun found ↦ ?_
    cases found with
    | error f => exact pure _
    | ok found =>
      refine get fun k k' halike ↦ ?_
      dsimp only
      rw [Kernel.showing?_of_no_hosts halike.hosts, Kernel.showing?_of_no_hosts halike.hosts',
        halike.env]
      refine bind (evaluating _) fun done ↦ ?_
      cases done with
      | error f => exact pure _
      | ok u => exact ih

theorem perform (cell : Cell) : Matches subscribers told
    (Kernel.perform (κ := String) display cell)
    (Kernel.perform (κ := Empty) (fun _ _ ↦ return .ok ()) cell) := by
  refine get fun k k' halike ↦ ?_
  rw [halike.env]
  refine bind (evaluating _) fun bound ↦ ?_
  extract_lets finish finish'
  have hfinish (ran : Except Fault Unit) :
      Matches subscribers told (finish ran) (finish' ran) := by
    cases ran with
    | error f => exact pure _
    | ok u => exact bind (evaluating _) fun _ ↦ pure _
  cases bound with
  | error f => exact bind (pure _) hfinish
  | ok u => exact bind (runCalls _) hfinish

theorem conclude (code : String) (tag : Option String) (cell : Cell)
    (result : Except Fault Value) : Matches subscribers told
    (Kernel.conclude (κ := String) display code tag cell result)
    (Kernel.conclude (κ := Empty) (fun _ _ ↦ return .ok ()) code tag cell result) := by
  unfold Kernel.conclude
  extract_lets finish finish'
  have hfinish (shown : Except Fault (Option String)) :
      Matches subscribers told (finish shown) (finish' shown) := by
    cases shown with
    | error f => exact pure _
    | ok text =>
      refine get fun k k' halike ↦ ?_
      rw [halike.hosts, halike.hosts']
      extract_lets note note'
      have hnote (displayed : Except Fault Unit) :
          Matches subscribers told (note displayed) (note' displayed) := by
        cases displayed with
        | error f => exact pure _
        | ok u => exact fun d k h ↦ ⟨_, _, _, rfl, rfl, { h with store := h.store, told := h.told }⟩
      dsimp only
      generalize cell.fault?.map Fault.report = error
      cases error <;> exact bind (pure _) hnote
  split
  · exact bind (pure _) hfinish
  · exact bind (pure _) hfinish
  · exact bind (evaluating _) hfinish

end Matches

theorem notify_run (d : Direct) : (Kernel.notify (κ := String) tell).run d =
    ((), { d with told := d.told ++ d.kernel.subscribers.callbacks }) := by
  have hall (labels : List String) (d : Direct) :
      (labels.forM tell).run d = ((), { d with told := d.told ++ labels }) := by
    induction labels generalizing d with
    | nil =>
      rw [List.append_nil]
      rfl
    | cons label labels ih =>
      have htell : (tell label).run d = ((), { d with told := d.told ++ [label] }) := rfl
      show (tell label >>= fun _ ↦ labels.forM tell).run d = _
      rw [run_bind htell, ih]
      simp
  exact hall d.kernel.subscribers.callbacks d

theorem Beside.notified {d : Direct} {k : ServedKernel} (h : Beside subscribers told d k) :
    Beside subscribers (told ++ subscribers.callbacks)
      ((Kernel.notify (κ := String) tell).run d).2 k := by
  rw [notify_run, h.subscribers, h.told]
  exact { h with told := rfl }

theorem notify_served (tell : Empty → StateM ServedKernel Unit) (k : ServedKernel) :
    (Kernel.notify tell).run k = ((), k) := by
  obtain ⟨store, env, self, hosts, closed, reporting, ⟨callbacks⟩, history⟩ := k
  cases callbacks with
  | nil => rfl
  | cons c => cases c

theorem execute_served {d : Direct} {k : ServedKernel} (h : Beside subscribers told d k)
    (code : String) (tag : Option String) (cell : Cell) : ∃ r d' k',
    (Kernel.execute tell display code tag cell).run d = (r, d') ∧
    (Worker.execute code tag cell).run k = (r, k') ∧
    ∀ e, r = .ok e → Beside subscribers (told ++ subscribers.callbacks) d' k' := by
  have hget : (getThe (Kernel String) : Acting _).run d = (d.kernel, d) := rfl
  have hget' : (getThe ServedKernel : StateM ServedKernel _).run k = (k, k) := rfl
  obtain ⟨performed, d', k', hd, hk, h'⟩ := Matches.perform cell d k h
  rw [Worker.execute, Kernel.execute, Kernel.execute, run_bind hget, run_bind hget', run_bind hd,
    run_bind hk]
  cases performed with
  | error f => exact ⟨.error f, d', k', rfl, rfl, nofun⟩
  | ok result =>
    obtain ⟨r, d'', k'', hd', hk', h''⟩ :=
      Matches.conclude code tag cell result _ _ h'.notified
    refine ⟨r, d'', k'', ?_, ?_, fun _ _ ↦ h''⟩
    · rw [notify_run] at hd'
      simp only [h.reporting, if_true]
      rw [run_bind (notify_run d')]
      exact hd'
    · dsimp only
      split
      · rw [run_bind (notify_served _ k')]
        exact hk'
      · exact hk'

theorem Beside.eval {d : Direct} {k : ServedKernel} (h : Beside subscribers told d k)
    (x : Eval α) : ∃ r kd ks, d.kernel.eval x = (r, kd) ∧ k.eval x = (r, ks) ∧
      Beside subscribers told { d with kernel := kd } ks := by
  obtain ⟨r, d', k', hd, hk, h'⟩ := Matches.evaluating x d k h
  cases hd
  exact ⟨_, _, k', rfl, hk, h'⟩

theorem Beside.inspect {d : Direct} {k : ServedKernel} (h : Beside subscribers told d k)
    (x : Ref → Eval (Outcome α)) : ∃ r kd ks, d.kernel.inspect (x d.kernel.env) = (r, kd) ∧
      k.inspect (x k.env) = (r, ks) ∧ Beside subscribers told { d with kernel := kd } ks := by
  obtain ⟨r, kd, ks, hd, hk, h'⟩ := h.eval (x d.kernel.env)
  refine ⟨r, kd, ks, ?_, ?_, h'⟩
  · rwa [Kernel.inspect, if_neg (by simp [h.isOpen])]
  · rwa [Kernel.inspect, if_neg (by simp [h.isOpen']), h.env]

theorem run_modifyGet {f : Kernel String → α × Kernel String} {d : Direct} {a : α}
    {k : Kernel String} (h : f d.kernel = (a, k)) :
    (modifyGetThe (Kernel String) f : Acting α).run d = (a, { d with kernel := k }) := by
  show ((f d.kernel).1, { d with kernel := (f d.kernel).2 }) = _
  rw [h]

/-- The worker's kernel reports what the call gives. If the call returns, its subscribers have been
told just if it changes something. -/
theorem use_served {d : Direct} {k : ServedKernel} (h : Beside subscribers told d k)
    (cells : String → Cell) (u : Use) : ∃ r d' k', (use cells u).run d = (r, d') ∧
    Worker.carryOut cells k u.command = (r, k') ∧
    ∀ report, r = .ok report → Beside subscribers
      (told ++ if u.command.changes then subscribers.callbacks else []) d' k' := by
  -- A call that changes nothing tells nobody.
  have hsame {d' : Direct} {k' : ServedKernel} {command : Command}
      (h' : Beside subscribers told d' k') (hchanges : command.changes = false) : Beside subscribers
      (told ++ if command.changes then subscribers.callbacks else []) d' k' := by
    rwa [hchanges, if_neg Bool.false_ne_true, List.append_nil]
  cases u with
  | execute code tag =>
    obtain ⟨r, d', k', hd, hk, hbeside⟩ := execute_served h code tag (cells code)
    refine ⟨r.map .entry, d', k', ?_, ?_, fun report hr ↦ ?_⟩
    · rw [use, run_bind hd]
      rfl
    · simp only [Use.command, Worker.carryOut, hk]
    · cases r with
      | error f => cases hr
      | ok e => exact hbeside e rfl
  | push vars =>
    obtain ⟨r, kd, k', hd, hk, hbeside⟩ := h.eval (Shell.bindAll d.kernel.env vars)
    have hget : (getThe (Kernel String) : Acting _).run d = (d.kernel, d) := rfl
    have hserved : Worker.carryOut cells k (Use.push vars).command =
        (r.map fun _ ↦ .done, k') := by
      simp only [Use.command, Worker.carryOut, h.env, hk]
    rw [hserved, use, Kernel.push, bind_assoc, run_bind hget, bind_assoc, Kernel.evaluating,
      run_bind (run_modifyGet hd)]
    cases r with
    | error f => exact ⟨.error f, { d with kernel := kd }, k', rfl, rfl, fun _ hr ↦ by cases hr⟩
    | ok u =>
      have hnotified := hbeside.notified
      rw [notify_run] at hnotified
      rw [bind_assoc, run_bind (notify_run _)]
      exact ⟨.ok .done, _, k', rfl, rfl, fun _ _ ↦ hnotified⟩
  | traceback timeout =>
    refine ⟨.ok (.frames d.kernel.traceback), d, k, rfl, ?_, fun _ _ ↦ hsame h rfl⟩
    simp only [Use.command, Worker.carryOut, Kernel.traceback, h.isOpen, h.isOpen']
  | evaluate r =>
    obtain ⟨o, kd, k', hd, hk, hbeside⟩ := h.inspect (Inspection.evaluation · r)
    have hread : d.kernel.evaluate r = (o, kd) := hd
    refine ⟨o.map _, _, k', run_bind (run_modifyGet hread), ?_,
      fun _ _ ↦ hsame hbeside rfl⟩
    simp only [Use.command, Worker.carryOut, Kernel.evaluate, hk]
  | children r =>
    obtain ⟨o, kd, k', hd, hk, hbeside⟩ := h.inspect (Inspection.children · r fun _ ↦ false)
    have hread : d.kernel.children r = (o, kd) := hd
    refine ⟨o.map _, _, k', run_bind (run_modifyGet hread), ?_,
      fun _ _ ↦ hsame hbeside rfl⟩
    simp only [Use.command, Worker.carryOut, Kernel.children, hk]

end Direct

end Remote

end VariableExplorer
