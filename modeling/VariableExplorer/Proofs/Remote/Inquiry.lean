import VariableExplorer.Proofs.Remote.Request
import VariableExplorer.Proofs.Settings.Preferences

/-!
Calls that read. Each gives an outcome or raises, and the ways to raise are few: a time that cannot
be waited, a reply without an outcome, and failures of the pipe or the process that are not among
those which become outcomes. Whatever it ends in, a call gives back the lock it has taken.
-/

namespace VariableExplorer.Remote

namespace Client

variable {ω ε α : Type}

/-! ### The lock -/

structure Locked (ω ε : Type) where
  client : Client ω ε
  held : Bool := false

abbrev Locking (ω ε : Type) := ExceptT Trouble (StateM (Locked ω ε))

namespace Locked

def within (x : Acting ω ε α) : Locking ω ε α := fun l ↦
  let (r, c) := x.run l.client
  (r, { l with client := c })

def acquire (wait : Seconds) : Locking ω ε Bool := do
  match waitTrouble? wait with
  | some t => throw t
  | none =>
    if (← get).client.troubles.busy then return false
    modify fun l ↦ { l with held := true }
    return true

def release : Locking ω ε Unit := modify fun l ↦ { l with held := false }

def request (command : Command) (timeout : Option Seconds) : Locking ω ε (Message ω ε) := do
  let c := (← get).client
  if c.closed then throw .closed
  let wait := timeout.getD c.defaultTimeout
  if ← acquire wait then
    let m ← try within (do receive (← issue command) (Patient wait)) finally release
    if m.ok then return m else throw (.refused (m.error.getD "kernel request failed"))
  else throw .busy

def inquire (command : Command) (timeout : Option Seconds) : Locking ω ε (Outcome ω) := do
  match ← tryCatch (Except.ok <$> request command timeout) fun t ↦ return .error t with
  | .error t =>
    match t.outcome? with
    | some o => return o
    | none => throw t
  | .ok m =>
    match m.outcome with
    | some o => return o
    | none => throw .noOutcome

/-- A call that takes the lock has given it back in the end, and is the same call otherwise. -/
def Returns (x : Locking ω ε α) (y : Acting ω ε α) : Prop :=
  ∀ c, x.run ⟨c, false⟩ = ((y.run c).1, ⟨(y.run c).2, false⟩)

theorem exchange_returns (command : Command) (patient : Bool) (c : Client ω ε) :
    ((do
      let m ← try within (do receive (← issue command) patient) finally release
      if m.ok then return m else throw (.refused (m.error.getD "kernel request failed")) :
        Locking ω ε (Message ω ε)).run ⟨c, true⟩) =
      (((exchange command patient).run c).1, ⟨((exchange command patient).run c).2, false⟩) := by
  let x : Acting ω ε (Message ω ε) := do receive (← issue command) patient
  have hexchange : exchange command patient = x >>= fun m ↦
      if m.ok then return m else throw (.refused (m.error.getD "kernel request failed")) :=
    (bind_assoc _ _ _).symm
  rcases hx : x.run c with ⟨r, c'⟩
  have hwithin : (within x).run ⟨c, true⟩ = (r, ⟨c', true⟩) := by
    show ((x.run c).1, (⟨(x.run c).2, true⟩ : Locked ω ε)) = _
    rw [hx]
  have htried : (tryFinally (within x) release : Locking ω ε (Message ω ε)).run ⟨c, true⟩ =
      (r, ⟨c', false⟩) := run_tryFinally hwithin rfl
  rw [hexchange]
  cases r with
  | error t => rw [run_bind_of_error hx, run_bind_of_error htried]
  | ok m =>
    rw [run_bind_of_ok hx, run_bind_of_ok htried]
    cases m.ok <;> rfl

theorem request_returns (command : Command) (timeout : Option Seconds) :
    Returns (Locked.request command timeout)
      (Client.request command timeout : Acting ω ε (Message ω ε)) := by
  -- Without the lock nothing has changed; with it the exchange releases it in every case.
  intro c
  have hgetLocked : (MonadState.get : Locking ω ε (Locked ω ε)).run ⟨c, false⟩ =
      (.ok ⟨c, false⟩, ⟨c, false⟩) := rfl
  rw [Locked.request, run_bind_of_ok hgetLocked, Client.request, run_bind_of_ok (run_get c)]
  dsimp only
  cases c.closed with
  | true => rfl
  | false =>
    simp only [Bool.false_eq_true, if_false]
    generalize timeout.getD c.defaultTimeout = wait
    have hacquire : (acquire wait : Locking ω ε Bool).run ⟨c, false⟩ = match waitTrouble? wait with
      | some t => (.error t, ⟨c, false⟩)
      | none => if c.troubles.busy then (.ok false, ⟨c, false⟩) else (.ok true, ⟨c, true⟩) := by
      rw [acquire]
      cases waitTrouble? wait with
      | some t => rfl
      | none =>
        rw [run_bind_of_ok hgetLocked]
        cases c.troubles.busy <;> rfl
    cases hwait : waitTrouble? wait with
    | some t =>
      rw [hwait] at hacquire
      exact run_bind_of_error hacquire
    | none =>
      rw [hwait] at hacquire
      cases hbusy : c.troubles.busy with
      | true =>
        rw [hbusy] at hacquire
        exact run_bind_of_ok hacquire
      | false =>
        rw [hbusy] at hacquire
        rw [run_bind_of_ok hacquire, if_pos rfl]
        exact exchange_returns command (Patient wait) c

theorem inquire_returns (command : Command) (timeout : Option Seconds) :
    Returns (Locked.inquire command timeout)
      (Client.inquire command timeout : Acting ω ε (Outcome ω)) := by
  intro c
  rcases hrequest : (Client.request command timeout).run c with ⟨r, c'⟩
  have hlocked : (Locked.request command timeout).run ⟨c, false⟩ = (r, ⟨c', false⟩) := by
    rw [request_returns command timeout c, hrequest]
  rw [Locked.inquire, run_bind_of_ok (run_attempt hlocked), Client.inquire, attempt,
    run_bind_of_ok (run_attempt hrequest)]
  cases r with
  | error t =>
    dsimp only
    cases (t.outcome? : Option (Outcome ω)) <;> rfl
  | ok m =>
    dsimp only
    cases m.outcome <;> rfl

end Locked

/-! ### What a call gives -/

/-- What a reading call makes of what its request comes to. -/
def conclude : Except Trouble (Message ω ε) → Except Trouble (Outcome ω)
  | .error t => match t.outcome? with
    | some o => .ok o
    | none => .error t
  | .ok m => match m.outcome with
    | some o => .ok o
    | none => .error .noOutcome

theorem inquire_run (command : Command) (timeout : Option Seconds) (c : Client ω ε) :
    (inquire command timeout).run c = (conclude (c.reply (timeout.getD c.defaultTimeout)),
      c.after command (timeout.getD c.defaultTimeout)) := by
  rw [inquire, attempt, run_bind_of_ok (run_attempt (request_run_eq command timeout c))]
  cases c.reply (timeout.getD c.defaultTimeout) with
  | error t =>
    dsimp only [conclude]
    cases (t.outcome? : Option (Outcome ω)) <;> rfl
  | ok m =>
    dsimp only [conclude]
    cases m.outcome <;> rfl

def Absorbed (f : Fault) : Prop :=
  f.isA "TimeoutError" ∨ f.isA "RuntimeError" ∨ f.isA "OSError" ∨ f.isA "EOFError"

theorem outcome?_fault_eq_none_iff {f : Fault} :
    ((Trouble.fault f).outcome? : Option (Outcome ω)) = none ↔ ¬ Absorbed f := by
  simp only [Trouble.outcome?, Trouble.toFault, Absorbed]
  split_ifs <;> simp_all [and_assoc]

/-- A call gets as far as sending its command. -/
structure Enters (c : Client ω ε) (wait : Seconds) : Prop where
  isOpen : c.closed = false
  waits : waitTrouble? wait = none
  free : c.troubles.busy = false

/-- A call sends its command. -/
structure Sends (c : Client ω ε) (wait : Seconds) : Prop extends c.Enters wait where
  sends : c.troubles.send = none

/-- The ways in which a reading call raises. -/
inductive Breaks (c : Client ω ε) (wait : Seconds) : Trouble → Prop
  | wait {t : Trouble} : c.closed = false → waitTrouble? wait = some t → Breaks c wait t
  | send {f : Fault} : c.Enters wait → c.troubles.send = some f → ¬ Absorbed f →
      Breaks c wait (.fault f)
  | arrival {f : Fault} : c.Sends wait → Patient wait = true →
      First c.nextId c.inbox (.error (.fault f)) → ¬ Absorbed f → Breaks c wait (.fault f)
  | process {f : Fault} : c.Sends wait →
      (Patient wait = true → ∀ a ∈ c.inbox, accept c.nextId a = none) →
      c.troubles.process = some f → ¬ Absorbed f → Breaks c wait (.fault f)
  | noOutcome {m : Message ω ε} : c.Sends wait → Patient wait = true →
      First c.nextId c.inbox (.ok m) → m.ok = true → m.outcome = none → Breaks c wait .noOutcome

section

variable {c : Client ω ε} {wait : Seconds} {t : Trouble}

theorem waitTrouble?_eq_some (h : waitTrouble? wait = some t) :
    t = .endlessWait ∨ t = .negativeWait ∨ t = .undefinedWait := by
  cases wait <;> simp only [waitTrouble?] at h <;> split_ifs at h <;> simp_all

theorem outcome?_of_waitTrouble? (h : waitTrouble? wait = some t) :
    (t.outcome? : Option (Outcome ω)) = none := by
  obtain rfl | rfl | rfl := waitTrouble?_eq_some h <;> rfl

theorem handed_eq_iff {patient : Bool} {r : Except Trouble (Message ω ε)} :
    c.handed patient = r ↔ patient = true ∧ First c.nextId c.inbox r ∨
      (patient = true → ∀ a ∈ c.inbox, accept c.nextId a = none) ∧ r = .error c.absence := by
  rw [handed, found]
  cases patient with
  | false => simp [eq_comm]
  | true =>
    simp only [if_true, true_and, forall_const, ← fst_read_eq_some_iff, ← fst_read_eq_none_iff]
    cases (read c.nextId c.inbox).1 <;> simp [eq_comm]

theorem conclude_judge_eq_error_iff {r : Except Trouble (Message ω ε)} :
    conclude (judge r) = .error t ↔ r = .error t ∧ (t.outcome? : Option (Outcome ω)) = none ∨
      ∃ m, r = .ok m ∧ m.ok = true ∧ m.outcome = none ∧ t = .noOutcome := by
  cases r with
  | error t' =>
    rw [judge, conclude]
    cases h : (t'.outcome? : Option (Outcome ω)) <;> simp <;> rintro rfl <;> simp [h]
  | ok m =>
    rw [judge]
    cases hok : m.ok with
    | false =>
      have hrefused : conclude (.error (.refused (m.error.getD "kernel request failed")) :
          Except Trouble (Message ω ε)) = .ok (.transportError
            (Trouble.refused (m.error.getD "kernel request failed")).toFault.report) := rfl
      simp [hrefused, hok]
    | true =>
      rw [if_pos rfl, conclude]
      cases houtcome : m.outcome with
      | some o => simp [houtcome]
      | none => simp [hok, houtcome, eq_comm (b := t)]

theorem absence_raises_iff : c.absence = t ∧ (t.outcome? : Option (Outcome ω)) = none ↔
    ∃ f, c.troubles.process = some f ∧ ¬ Absorbed f ∧ t = .fault f := by
  rw [absence]
  cases c.troubles.process with
  | none =>
    have hexited : (Trouble.exited.outcome? : Option (Outcome ω)) ≠ none := Option.some_ne_none _
    have hnoReply : (Trouble.noReply.outcome? : Option (Outcome ω)) ≠ none :=
      Option.some_ne_none _
    cases c.process.alive <;> simp <;> rintro rfl <;> assumption
  | some f =>
    simp only [Option.some.injEq, exists_eq_left', ← outcome?_fault_eq_none_iff (ω := ω)]
    constructor
    · rintro ⟨rfl, h⟩
      exact ⟨h, rfl⟩
    · rintro ⟨h, rfl⟩
      exact ⟨rfl, h⟩

theorem First.raises_iff {id : Int} {inbox : List (Arrival ω ε)} :
    First id inbox (.error t) ∧ (t.outcome? : Option (Outcome ω)) = none ↔
      ∃ f, First id inbox (.error (.fault f)) ∧ ¬ Absorbed f ∧ t = .fault f := by
  constructor
  · rintro ⟨hfirst, hraises⟩
    have ⟨_, _, _, _, _, ha⟩ := hfirst
    obtain rfl | ⟨f, -, rfl⟩ := accept_of_error ha
    · cases hraises
    · exact ⟨f, hfirst, outcome?_fault_eq_none_iff.mp hraises, rfl⟩
  · rintro ⟨f, hfirst, hf, rfl⟩
    exact ⟨hfirst, outcome?_fault_eq_none_iff.mpr hf⟩

/-- A reading call whose command is sent raises over what it finds in the pipe or over the process,
and over nothing else. -/
theorem Sends.breaks_iff (h : c.Sends wait) :
    conclude (judge (c.handed (Patient wait))) = .error t ↔ c.Breaks wait t := by
  rw [conclude_judge_eq_error_iff]
  constructor
  · rintro (⟨hhanded, hraises⟩ | ⟨m, hhanded, hok, hnone, rfl⟩)
    · obtain ⟨hpatient, hfirst⟩ | ⟨hnothing, habsence⟩ := handed_eq_iff.mp hhanded
      · obtain ⟨f, hfirst, hf, rfl⟩ := First.raises_iff.mp ⟨hfirst, hraises⟩
        exact .arrival h hpatient hfirst hf
      · cases habsence
        obtain ⟨f, hprocess, hf, ht⟩ := absence_raises_iff.mp ⟨rfl, hraises⟩
        rw [ht]
        exact .process h hnothing hprocess hf
    · obtain ⟨hpatient, hfirst⟩ | ⟨-, habsence⟩ := handed_eq_iff.mp hhanded
      · exact .noOutcome h hpatient hfirst hok hnone
      · cases habsence
  · intro hbreaks
    cases hbreaks with
    | wait _ hwait => exact nomatch hwait.symm.trans h.waits
    | send _ hsend _ => exact nomatch hsend.symm.trans h.sends
    | arrival _ hpatient hfirst hf =>
      exact .inl ⟨handed_eq_iff.mpr (.inl ⟨hpatient, hfirst⟩), outcome?_fault_eq_none_iff.mpr hf⟩
    | process _ hnothing hprocess hf =>
      obtain ⟨habsence, hraises⟩ := absence_raises_iff.mpr ⟨_, hprocess, hf, rfl⟩
      exact .inl ⟨handed_eq_iff.mpr (.inr ⟨hnothing, congrArg _ habsence.symm⟩), hraises⟩
    | noOutcome _ hpatient hfirst hok hnone =>
      exact .inr ⟨_, handed_eq_iff.mpr (.inl ⟨hpatient, hfirst⟩), hok, hnone, rfl⟩

theorem Enters.breaks_iff_of_send {f : Fault} (h : c.Enters wait)
    (hsend : c.troubles.send = some f) :
    conclude (.error (.fault f) : Except Trouble (Message ω ε)) = .error t ↔ c.Breaks wait t := by
  have hconclude : conclude (.error (.fault f) : Except Trouble (Message ω ε)) = .error t ↔
      ¬ Absorbed f ∧ t = .fault f := by
    rw [← outcome?_fault_eq_none_iff (ω := ω), conclude]
    cases ((Trouble.fault f).outcome? : Option (Outcome ω)) <;> simp [eq_comm]
  rw [hconclude]
  constructor
  · rintro ⟨hf, rfl⟩
    exact .send h hsend hf
  · intro hbreaks
    cases hbreaks with
    | wait _ ht => exact nomatch h.waits.symm.trans ht
    | send _ hsend' hf =>
      cases hsend.symm.trans hsend'
      exact ⟨hf, rfl⟩
    | arrival h' | process h' | noOutcome h' => exact nomatch hsend.symm.trans h'.sends

theorem Breaks.waits_or_enters (h : c.Breaks wait t) :
    c.closed = false ∧ waitTrouble? wait = some t ∨ c.Enters wait := by
  cases h with
  | wait hopen hwait => exact .inl ⟨hopen, hwait⟩
  | send h => exact .inr h
  | arrival h | process h | noOutcome h => exact .inr h.toEnters

/-- A reading call raises in the ways that `Breaks` lists and in no other. -/
theorem conclude_reply_eq_error_iff :
    conclude (c.reply wait) = .error t ↔ c.Breaks wait t := by
  -- The checks are made in this order, and the first that does not pass decides.
  rw [reply]
  cases hclosed : c.closed with
  | true =>
    constructor
    · intro hraises
      cases hraises
    · intro hbreaks
      obtain ⟨hopen, -⟩ | henters := hbreaks.waits_or_enters
      · cases hopen.symm.trans hclosed
      · cases henters.isOpen.symm.trans hclosed
  | false =>
    simp only [Bool.false_eq_true, if_false]
    cases hwait : waitTrouble? wait with
    | some t' =>
      have hconclude : conclude (.error t' : Except Trouble (Message ω ε)) = .error t' := by
        rw [conclude, outcome?_of_waitTrouble? hwait]
      dsimp only
      rw [hconclude, Except.error.injEq]
      constructor
      · rintro rfl
        exact .wait hclosed hwait
      · intro hbreaks
        obtain ⟨-, ht⟩ | henters := hbreaks.waits_or_enters
        · exact Option.some.inj (hwait.symm.trans ht)
        · cases hwait.symm.trans henters.waits
    | none =>
      dsimp only
      cases hbusy : c.troubles.busy with
      | true =>
        constructor
        · intro hraises
          cases hraises
        · intro hbreaks
          obtain ⟨-, ht⟩ | henters := hbreaks.waits_or_enters
          · cases hwait.symm.trans ht
          · cases hbusy.symm.trans henters.free
      | false =>
        have henters : c.Enters wait := ⟨hclosed, hwait, hbusy⟩
        simp only [Bool.false_eq_true, if_false]
        cases hsend : c.troubles.send with
        | none => exact (Sends.mk henters hsend).breaks_iff
        | some f => exact henters.breaks_iff_of_send hsend

end

/-! ### Times to wait -/

theorem lt_iff_compare {x y : Float} :
    x < y ↔ (x.toModel.unpack.compare y.toModel.unpack == some .lt) = true := by
  show decide (x.toModel < y.toModel) = true ↔ _
  rw [decide_eq_true_iff]
  exact Iff.rfl

theorem isNaN_and_not_neg_of_pos {x : Float} (h : 0.0 < x) : x.isNaN = false ∧ ¬ x < 0.0 := by
  have hzero : (0.0 : Float).toModel.unpack = .zero .positive := rfl
  have hnan : x.isNaN = x.toModel.unpack.isNaN := rfl
  rw [lt_iff_compare, hzero] at h
  rw [lt_iff_compare, hzero, hnan]
  cases hx : x.toModel.unpack with
  | notANumber => rw [hx] at h; cases h
  | zero s => rw [hx] at h; cases h
  | infinity s | finite s =>
    rw [hx] at h
    cases s with
    | positive => exact ⟨rfl, nofun⟩
    | negative => cases h

def Endless (x : Float) : Bool :=
  x * 1e9 < -9223372036854775808.0 || 9223372036854775808.0 ≤ x * 1e9

theorem waitTrouble?_of_pos {x : Float} (h : 0.0 < x) :
    waitTrouble? (.real x) = if Endless x then some .endlessWait else none := by
  obtain ⟨hnan, hneg⟩ := isNaN_and_not_neg_of_pos h
  have hnegative : (decide (x < 0.0) && x != -1.0) = false := by
    rw [decide_eq_false hneg, Bool.false_and]
  rw [waitTrouble?, hnan, hnegative]
  rfl

/-- A time to wait that some settings supply in some environment. -/
def Supplied (wait : Seconds) : Prop :=
  ∃ (s : Settings) (vars : Variables) (x : Float), wait = .real x ∧
    (s.refreshTimeout vars = .ok x ∨ s.waitTimeout vars = .ok x)

theorem supplied_iff {x : Float} : Supplied (.real x) ↔ 0.0 < x := by
  constructor
  · rintro ⟨s, vars, y, hxy, hy⟩
    cases hxy
    obtain hy | hy := hy
    · exact (hy ▸ (s.prefers vars).refreshTimeout).usable_of_ok
    · exact (hy ▸ (s.prefers vars).waitTimeout).usable_of_ok
  · intro h
    have hfound : Settings.refreshTimeout ⟨[("refresh_timeout", .float x)]⟩ [] = .ok x :=
      congrArg Except.ok (if_pos h)
    exact ⟨_, [], x, rfl, .inl hfound⟩

/-! ### The calls -/

inductive Inquiry
  | traceback (timeout : Option Seconds)
  | evaluate (r : EvaluationRequest)
  | children (r : ChildrenRequest) (cancelled : Bool)

namespace Inquiry

def command : Inquiry → Command
  | traceback _ => .traceback
  | evaluate r => .evaluate r
  | children r _ => .children r

def timeout : Inquiry → Option Seconds
  | traceback timeout => timeout
  | evaluate r => r.timeout
  | children r _ => r.timeout

def cancelled : Inquiry → Bool
  | traceback _ | evaluate _ => false
  | children _ cancelled => cancelled

def call : Inquiry → Acting ω ε (Outcome ω)
  | traceback timeout => Client.traceback timeout
  | evaluate r => Client.evaluate r
  | children r cancelled => Client.children r cancelled

/-- The call with the lock that it takes and gives back. -/
def locking (i : Inquiry) : Locking ω ε (Outcome ω) :=
  if i.cancelled then return .cancelled else Locked.inquire i.command i.timeout

theorem call_eq (i : Inquiry) : (i.call : Acting ω ε (Outcome ω)) =
    if i.cancelled then pure .cancelled else inquire i.command i.timeout := by
  cases i <;> rfl

theorem locking_returns (i : Inquiry) :
    Locked.Returns i.locking (i.call : Acting ω ε (Outcome ω)) := by
  intro c
  rw [locking, call_eq]
  cases i.cancelled with
  | true => rfl
  | false => exact Locked.inquire_returns i.command i.timeout c

end Inquiry

/-- A reading call gives back the lock however it ends. It gives an outcome unless it comes to one
of the ways to raise, and the times that settings supply add one way to these: a positive time that
is too long to be waited. -/
theorem inquiry_returns (i : Inquiry) (c : Client ω ε) :
    i.locking.run ⟨c, false⟩ = ((i.call.run c).1, ⟨(i.call.run c).2, false⟩) ∧
    (∀ t, (i.call.run c).1 = .error t ↔
      i.cancelled = false ∧ c.Breaks (i.timeout.getD c.defaultTimeout) t) ∧
    ∀ x, Supplied (.real x) →
      waitTrouble? (.real x) = if Endless x then some .endlessWait else none := by
  refine ⟨i.locking_returns c, fun t ↦ ?_, fun x hx ↦ waitTrouble?_of_pos (supplied_iff.mp hx)⟩
  rw [i.call_eq]
  cases i.cancelled with
  | true => exact iff_of_false nofun nofun
  | false =>
    simp only [Bool.false_eq_true, if_false, true_and]
    rw [inquire_run]
    exact conclude_reply_eq_error_iff

/-- The worker has answered in time, and the call is told that it cannot wait so long. -/
theorem inquiry_returns_endless :
    Supplied (.real 1e12) ∧ ((traceback (some (.real 1e12)) : Acting Nat Unit (Outcome Nat)).run
      { inbox := [.message { id := some 1, ok := true, outcome := some (.success 0) }] }).1 =
        .error .endlessWait :=
  ⟨supplied_iff.mpr (by decide),
    ((inquiry_returns (.traceback (some (.real 1e12))) _).2.1 _).mpr ⟨rfl, .wait rfl (by decide)⟩⟩

end Client

end VariableExplorer.Remote
