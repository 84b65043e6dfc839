import VariableExplorer.Proofs.Kernel.Chained
import VariableExplorer.Proofs.Kernel.Session
import VariableExplorer.Proofs.Remote.Likeness

/-!
Which requests a worker serves. It has an outcome of all that is only read. It breaks at values that
cannot be made, at a cell that cannot be run, and at a result that cannot be shown.
-/

namespace VariableExplorer.Remote

/-- The values that a command makes only add to the store. -/
def Command.Tame (cells : String → Cell) : Command → Prop
  | execute code _ => (cells code).Tame
  | push vars => ∀ e ∈ vars, Eval.Tame e.2
  | _ => True

def Seed.Tame : Seed → Prop
  | vars vs => ∀ e ∈ vs, Eval.Tame e.2
  | _ => True

theorem Seed.bind_upholds {env : Ref} {seed : Seed} (h : seed.Tame) :
    Eval.Upholds env (seed.bind env) := by
  cases seed with
  | none => exact .pure _
  | vars vs => exact Shell.bindAll_upholds h
  | undecodable first => exact fun _ hs ↦ hs

namespace Worker

variable {env : Ref} {cells : String → Cell} {k k' : ServedKernel} {α β : Type}

/-- An open kernel over a shell with this environment. -/
structure Working (env : Ref) (k : ServedKernel) : Prop where
  same : k.env = env
  sound : Shell.Sound env k.store
  isOpen : k.closed = false

def FailsOrdinarily (r : Except Fault α) : Prop := ∀ f, r = .error f → f.isOrdinary = true

def perform (cell : Cell) : StateM ServedKernel (Except Fault (Except Fault Value)) :=
  Kernel.perform (κ := Empty) (fun _ _ ↦ return .ok ()) cell

def conclude (code : String) (tag : Option String) (cell : Cell) (result : Except Fault Value) :
    StateM ServedKernel (Except Fault HistoryEntry) :=
  Kernel.conclude (κ := Empty) (fun _ _ ↦ return .ok ()) code tag cell result

/-- A computation at a kernel that goes on working, with a result of some kind. -/
def Keeps (env : Ref) (P : α → Prop) (x : StateM ServedKernel α) : Prop :=
  ∀ k, Working env k → P (x.run k).1 ∧ Working env (x.run k).2

namespace Keeps

variable {P : α → Prop} {Q : β → Prop}

theorem pure {a : α} (h : P a) : Keeps env P (Pure.pure a) := fun _ hk ↦ ⟨h, hk⟩

theorem bind {x : StateM ServedKernel α} {f : α → StateM ServedKernel β} (hx : Keeps env P x)
    (hf : ∀ a, P a → Keeps env Q (f a)) : Keeps env Q (x >>= f) := by
  intro k hk
  obtain ⟨hP, hk'⟩ := hx k hk
  exact hf _ hP _ hk'

theorem get {f : ServedKernel → StateM ServedKernel α}
    (hf : ∀ k, Working env k → Keeps env P (f k)) : Keeps env P (getThe ServedKernel >>= f) :=
  fun k hk ↦ hf k hk k hk

theorem error {f : Fault} (h : f.isOrdinary = true) :
    Keeps env FailsOrdinarily (Pure.pure (.error f : Except Fault α)) :=
  pure fun _ hf ↦ by cases hf; exact h

theorem ok {a : α} : Keeps env FailsOrdinarily (Pure.pure (.ok a : Except Fault α)) :=
  pure fun _ hf ↦ by cases hf

theorem evaluating {x : Eval α} (h : Eval.Endures env x) :
    Keeps env FailsOrdinarily (Kernel.evaluating (κ := Empty) x) :=
  fun k hk ↦ ⟨fun f ↦ h.failure k.store f hk.sound,
    ⟨hk.same, h.upholds k.store hk.sound, hk.isOpen⟩⟩

theorem chained : Kernel.Chained Empty (StateM ServedKernel) fun x ↦
    Keeps env FailsOrdinarily x where
  done _ := ok
  bind hx hfails hf := bind hx fun r hr ↦ by
    cases r with
    | error e => exact (hfails e).symm ▸ error (hr e rfl)
    | ok a => exact hf a
  get hf := get fun k _ ↦ hf k
  evaluate h := evaluating h.endures
  record _ k hk := ⟨nofun, ⟨hk.same, hk.sound, hk.isOpen⟩⟩

theorem perform {cell : Cell} (h : cell.Tame) :
    Keeps env (fun r ↦ FailsOrdinarily r ∧ ∀ result, r = .ok result → FailsOrdinarily result)
      (Worker.perform cell) := by
  refine get fun k hk ↦ bind (evaluating ?_) fun bound hbound ↦ ?_
  · rw [hk.same]
    exact (Shell.bindAll_endures h.bound).bind fun _ ↦ .forM fun _ _ ↦ Shell.unbind_endures _
  extract_lets goOn
  have hgoOn (ran : Except Fault Unit) (hran : FailsOrdinarily ran) : Keeps env
      (fun r ↦ FailsOrdinarily r ∧ ∀ result, r = .ok result → FailsOrdinarily result)
      (goOn ran) := by
    cases ran with
    | error f => exact pure ⟨fun _ hf ↦ by cases hf; exact hran f rfl, fun _ hr ↦ by cases hr⟩
    | ok u =>
      refine bind (evaluating h.result.endures) fun result hresult ↦ pure ⟨?_, ?_⟩
      · exact fun _ hf ↦ by cases hf
      · exact fun _ hr ↦ by cases hr; exact hresult
  cases bound with
  | error f => exact bind (error (hbound f rfl)) hgoOn
  | ok u => exact bind (chained.runCalls (fun _ _ ↦ ok) h.args) hgoOn

theorem conclude (code : String) (tag : Option String) (cell : Cell) {result : Except Fault Value}
    (h : FailsOrdinarily result) :
    Keeps env FailsOrdinarily (Worker.conclude code tag cell result) :=
  chained.conclude (fun _ _ ↦ ok) code tag cell fun f hf ↦ error (h f hf)

end Keeps

/-- The worker breaks over a command with this failure. -/
inductive Breaks (cells : String → Cell) (k : ServedKernel) : Command → Fault → Prop
  /-- Values that are sent to it cannot be made. -/
  | push {vars : List (String × Recipe)} {f : Fault} :
      ((Shell.bindAll k.env vars).run k.store).1 = .error f → Breaks cells k (.push vars) f
  /-- Running the cell fails itself. -/
  | perform {code : String} {tag : Option String} {f : Fault} :
      ((perform (cells code)).run k).1 = .error f → Breaks cells k (.execute code tag) f
  | result {code : String} {tag : Option String} {f : Fault} :
      ((perform (cells code)).run k).1 = .ok (.error f) → Breaks cells k (.execute code tag) f
  /-- The cell was run, and its result cannot be shown. -/
  | shown {code : String} {tag : Option String} {v : Value} {k' : ServedKernel} {f : Fault} :
      (perform (cells code)).run k = (.ok (.ok v), k') → v ≠ .none →
      ((Eval.shown v).run k'.store).1 = .error f → Breaks cells k (.execute code tag) f

theorem execute_run (code : String) (tag : Option String) (cell : Cell) (k : ServedKernel) :
    (execute code tag cell).run k = match (perform cell).run k with
      | (.error f, k') => (.error f, k')
      | (.ok result, k') => (conclude code tag cell result).run k' := by
  have hget : (getThe ServedKernel : StateM ServedKernel _).run k = (k, k) := rfl
  rw [execute, Kernel.execute, run_bind hget]
  rcases hr : (perform cell).run k with ⟨f | result, k'⟩
  · exact run_bind hr
  · refine (run_bind hr).trans ?_
    dsimp only
    split
    · rw [run_bind (Direct.notify_served _ k')]
      rfl
    · rfl

theorem execute_fails {code : String} {tag : Option String} {cell : Cell} {f : Fault}
    (h : ((perform cell).run k).1 = .error f ∨ ((perform cell).run k).1 = .ok (.error f)) :
    ((execute code tag cell).run k).1 = .error f := by
  rw [execute_run]
  rcases hr : (perform cell).run k with ⟨r, k'⟩
  rw [hr] at h
  obtain rfl | rfl := h <;> rfl

theorem conclude_fails_iff {code : String} {tag : Option String} {cell : Cell}
    {result : Except Fault Value} {f : Fault} :
    ((conclude code tag cell result).run k).1 = .error f ↔ result = .error f ∨
      ∃ v, result = .ok v ∧ v ≠ .none ∧ ((Eval.shown v).run k.store).1 = .error f := by
  unfold conclude Kernel.conclude
  extract_lets goOn
  -- Only the display of the value can fail, and nothing behind it.
  have hgoOn (text : Option String) (k : ServedKernel) :
      ((goOn (.ok text)).run k).1 ≠ .error f := by
    have hget : (getThe ServedKernel : StateM ServedKernel _).run k = (k, k) := rfl
    simp only [goOn]
    rw [run_bind hget]
    split <;> nofun
  split
  next g =>
    refine ⟨fun h ↦ .inl (by cases h; rfl), fun h ↦ ?_⟩
    obtain h | ⟨v, hv, -⟩ := h
    · cases h
      rfl
    · cases hv
  next =>
    refine ⟨fun h ↦ absurd h (hgoOn none k), fun h ↦ ?_⟩
    obtain h | ⟨v, hv, hne, -⟩ := h
    · cases h
    · exact absurd (Except.ok.inj hv).symm hne
  next v hne =>
    have hevaluated : (Kernel.evaluating (κ := Empty) (some <$> Eval.shown v) :
        StateM ServedKernel _).run k = k.eval (some <$> Eval.shown v) := rfl
    rcases hr : (Eval.shown v).run k.store with ⟨g | text, t⟩
    · rw [Kernel.eval, run_map_of_error hr] at hevaluated
      rw [run_bind hevaluated]
      refine ⟨fun h ↦ .inr ⟨v, rfl, hne, ?_⟩, fun h ↦ ?_⟩
      · rw [hr]
        cases h
        rfl
      · obtain h | ⟨w, hw, -, h⟩ := h
        · cases h
        · cases hw
          rw [hr] at h
          cases h
          rfl
    · rw [Kernel.eval, run_map_of_ok hr] at hevaluated
      rw [run_bind hevaluated]
      refine ⟨fun h ↦ absurd h (hgoOn (some text) _), fun h ↦ ?_⟩
      obtain h | ⟨w, hw, -, h⟩ := h
      · cases h
      · cases hw
        rw [hr] at h
        cases h

theorem execute_cases (hk : Working env k) {code : String} (htame : (cells code).Tame)
    (tag : Option String) :
    (∃ e k', (execute code tag (cells code)).run k = (.ok e, k') ∧ Working env k') ∨
    ∃ f k', (execute code tag (cells code)).run k = (.error f, k') ∧ f.isOrdinary = true ∧
      Breaks cells k (.execute code tag) f := by
  obtain ⟨⟨hperformed, hresult⟩, hk₁⟩ := Keeps.perform htame k hk
  rw [execute_run]
  rcases hr : (perform (cells code)).run k with ⟨f | result, k₁⟩ <;>
    rw [hr] at hperformed hresult hk₁
  · exact .inr ⟨f, k₁, rfl, hperformed f rfl, .perform (congrArg Prod.fst hr)⟩
  obtain ⟨hconcluded, hk₂⟩ := Keeps.conclude code tag (cells code) (hresult result rfl) k₁ hk₁
  rcases hr' : (conclude code tag (cells code) result).run k₁ with ⟨f | e, k₂⟩ <;>
    rw [hr'] at hconcluded hk₂
  · refine .inr ⟨f, k₂, hr', hconcluded f rfl, ?_⟩
    obtain rfl | ⟨v, rfl, hv, hshown⟩ := conclude_fails_iff.mp (congrArg Prod.fst hr')
    · exact .result (congrArg Prod.fst hr)
    · exact .shown hr hv hshown
  · exact .inl ⟨e, k₂, hr', hk₂⟩

/-- A worker carries out a command and goes on, or it breaks. -/
theorem carryOut_cases (hk : Working env k) {command : Command} (htame : command.Tame cells) :
    (∃ report k', carryOut cells k command = (.ok report, k') ∧ Working env k') ∨
    ∃ f k', carryOut cells k command = (.error f, k') ∧ f.isOrdinary = true ∧
      Breaks cells k command f := by
  have hinspect {α : Type} {x : Eval (Outcome α)} {o : Outcome α} {t : Store}
      (hx : x.run k.store = (.ok o, t)) : k.inspect x = (.ok o, { k with store := t }) := by
    rw [Kernel.inspect, if_neg (by simp [hk.isOpen]), Kernel.eval, hx]
  cases command with
  | close | traceback => exact .inl ⟨_, k, rfl, hk⟩
  | execute code tag =>
    obtain ⟨e, k', hrun, hk'⟩ | ⟨f, k', hrun, hf, hbreaks⟩ := execute_cases hk htame tag
    · exact .inl ⟨.entry e, k', by simp only [carryOut, hrun]; rfl, hk'⟩
    · exact .inr ⟨f, k', by simp only [carryOut, hrun]; rfl, hf, hbreaks⟩
  | push vars =>
    have hbound : Eval.Endures env (Shell.bindAll k.env vars) := by
      rw [hk.same]
      exact Shell.bindAll_endures htame
    rcases hr : (Shell.bindAll k.env vars).run k.store with ⟨f | u, t⟩
    · refine .inr ⟨f, { k with store := t }, ?_, ?_, .push (congrArg Prod.fst hr)⟩
      · simp only [carryOut, Kernel.eval, hr]
        rfl
      · exact hbound.failure _ f hk.sound (congrArg Prod.fst hr)
    · refine .inl ⟨.done, { k with store := t }, ?_, hk.same, ?_, hk.isOpen⟩
      · simp only [carryOut, Kernel.eval, hr]
        rfl
      · exact hbound.upholds.sound hk.sound hr
  | evaluate r =>
    obtain ⟨o, t, hrun, ht⟩ := Inspection.evaluation_answers hk.sound k.env r
    refine .inl ⟨.value o, { k with store := t }, ?_, hk.same, ht, hk.isOpen⟩
    simp only [carryOut, Kernel.evaluate, hinspect hrun]
    rfl
  | children r =>
    obtain ⟨o, t, hrun, ht⟩ := Inspection.children_answers hk.sound k.env r fun _ ↦ false
    refine .inl ⟨.values o, { k with store := t }, ?_, hk.same, ht, hk.isOpen⟩
    simp only [carryOut, Kernel.children, hinspect hrun]
    rfl

theorem Breaks.carryOut {command : Command} {f : Fault} (h : Breaks cells k command f) :
    (Worker.carryOut cells k command).1 = .error f := by
  have hmap {α : Type} {g : α → Report} {r : Except Fault α} (hr : r = .error f) :
      r.map g = .error f := by
    rw [hr]
    rfl
  have hexecuted {code : String} {tag : Option String}
      (h : ((Worker.execute code tag (cells code)).run k).1 = .error f) :
      (Worker.carryOut cells k (.execute code tag)).1 = .error f := hmap h
  cases h with
  | push h => exact hmap h
  | perform h => exact hexecuted (execute_fails (.inl h))
  | result h => exact hexecuted (execute_fails (.inr h))
  | @shown code tag v k' _ hr hv h =>
    refine hexecuted ?_
    rw [execute_run, hr]
    exact conclude_fails_iff.mpr (.inr ⟨v, rfl, hv, h⟩)

variable {ι : Type}

theorem Breaks.answer {command : Command} {f : Fault} (h : Breaks cells k command f) (id : ι) :
    Worker.answer cells k (.request (.ofCommand id command)) = (lastWords f, none) := by
  have hclose : command ≠ .close := by
    rintro rfl
    cases h
  have hanswer := answer_ofCommand cells k hclose id
  rcases hcarried : Worker.carryOut cells k command with ⟨r, k'⟩
  have hr : r = .error f := (congrArg Prod.fst hcarried).symm.trans h.carryOut
  rwa [hcarried, hr] at hanswer

def requested (requests : List (ι × Command)) : List (Incoming ι) :=
  requests.map fun r ↦ .request (.ofCommand r.1 r.2)

def replies (requests : List (ι × Command)) (reports : List Report) : List (Reply ι) :=
  List.zipWith (fun r report ↦ ⟨some r.1, report⟩) requests reports

/-- How a worker comes to its end when there are these requests left. -/
inductive Finishes (cells : String → Cell) (k : ServedKernel) :
    List (ι × Command) → Service ι → Prop
  | pipe : Finishes cells k [] {}
  | close {id : ι} {rest : List (ι × Command)} :
      Finishes cells k ((id, .close) :: rest) ⟨[⟨some id, .done⟩], rest.length⟩
  | breaks {id : ι} {command : Command} {rest : List (ι × Command)} {f : Fault} :
      Breaks cells k command f → f.isOrdinary = true →
      Finishes cells k ((id, command) :: rest) ⟨(lastWords f).toList, rest.length⟩

/-- A worker sends one reply to each request, in their order and with its number, up to the first
request to close or at which it breaks. -/
theorem serve_finishes (hk : Working env k) {requests : List (ι × Command)}
    (htame : ∀ r ∈ requests, r.2.Tame cells) :
    ∃ (served rest : List (ι × Command)) (reports : List Report) (k' : ServedKernel)
      (last : Service ι), requests = served ++ rest ∧
      List.Forall₂ (fun r report ↦ r.2 ≠ .close ∧ r.2.Gets report) served reports ∧
      after cells k (requested served) = some k' ∧ Finishes cells k' rest last ∧
      serve cells k (requested requests) =
        ⟨replies served reports ++ last.sent, last.unread⟩ := by
  induction requests generalizing k with
  | nil => exact ⟨[], [], [], k, {}, rfl, .nil, rfl, .pipe, rfl⟩
  | cons r requests ih =>
    obtain ⟨id, command⟩ := r
    obtain ⟨hcommand, hrequests⟩ := List.forall_mem_cons.mp htame
    -- The worker serves the first request, and the rest are served by what it goes on as.
    have hunread : (requested requests).length = requests.length := List.length_map ..
    by_cases hclose : command = .close
    · subst hclose
      refine ⟨[], _, [], k, _, rfl, .nil, rfl, .close, ?_⟩
      rw [← hunread]
      rfl
    obtain ⟨report, k', hcarried, hk'⟩ | ⟨f, -, -, hf, hbreaks⟩ := carryOut_cases hk hcommand
    · have hanswer := answer_ofCommand cells k hclose id
      rw [hcarried] at hanswer
      obtain ⟨served, rest, reports, k'', last, hsplit, hserved, hafter, hlast, hserve⟩ :=
        ih hk' hrequests
      have hgets := carryOut_gets (congrArg Prod.fst hcarried)
      refine ⟨(id, command) :: served, rest, report :: reports, k'', last, ?_, ?_, ?_, hlast, ?_⟩
      · rw [hsplit]
        rfl
      · exact .cons ⟨hclose, hgets⟩ hserved
      · rw [requested, List.map_cons, after, hanswer]
        exact hafter
      · rw [requested, List.map_cons, serve, hanswer]
        show (serve cells k' (requested requests)).after _ = _
        rw [hserve]
        rfl
    · refine ⟨[], _, [], k, _, rfl, .nil, rfl, .breaks hbreaks hf, ?_⟩
      rw [← hunread, requested, List.map_cons, serve, hbreaks.answer]
      rfl

/-- So does a worker that has started, once it has said that it is ready. -/
theorem run_finishes {known : List String} {k₀ : ServedKernel}
    (hnew : Kernel.new known [] false = .ok k₀) {seed : Seed} (hseed : seed.Tame)
    (hbound : k₀.eval (seed.bind k₀.env) = (.ok (), k)) {requests : List (ι × Command)}
    (htame : ∀ r ∈ requests, r.2.Tame cells) :
    ∃ (served rest : List (ι × Command)) (reports : List Report) (k' : ServedKernel)
      (last : Service ι), requests = served ++ rest ∧
      List.Forall₂ (fun r report ↦ r.2 ≠ .close ∧ r.2.Gets report) served reports ∧
      after cells k (requested served) = some k' ∧ Finishes cells k' rest last ∧
      run cells known seed true (requested requests) =
        ⟨⟨none, .ready⟩ :: replies served reports ++ last.sent, last.unread⟩ := by
  obtain ⟨hsound, hopen, -⟩ := Kernel.new_sound (by simp) hnew
  have hk : Working k₀.env k := by
    obtain ⟨t, hrun, rfl⟩ := Kernel.eval_eq hbound
    exact ⟨rfl, (Seed.bind_upholds hseed).sound hsound hrun, hopen⟩
  have hrun : run cells known seed true (requested requests) =
      (serve cells k (requested requests)).after (some ⟨none, .ready⟩) := by
    simp only [run, hnew, hbound]
    rfl
  obtain ⟨served, rest, reports, k', last, hsplit, hserved, hafter, hlast, hserve⟩ :=
    serve_finishes hk htame
  refine ⟨served, rest, reports, k', last, hsplit, hserved, hafter, hlast, ?_⟩
  rw [hrun, hserve]
  rfl

def unshown : Recipe :=
  Recipe.instance_ ⟨"__main__", "Unshown", none, none, [], none, none, [], [],
    [("__repr__", .error ⟨"ValueError", some "no text"⟩)], none, [], none⟩

theorem unshown_tame : Eval.Tame unshown := by
  have hraise : FaultSpec.Ordinary ⟨"ValueError", some "no text"⟩ := by
    unfold FaultSpec.Ordinary
    decide
  refine Recipe.instance_tame ⟨?_, ?_, ?_, ?_, ?_, ?_, ?_, ?_, ?_⟩ <;>
    simp [NamedTame, BehaviourSpec.Tame, hraise]

/-- A worker whose cell has such a value for its result says that it is broken, and leaves the next
request unread. -/
theorem run_finishes_unshown :
    (∀ r ∈ [((1 : Int), Command.execute "c" none), (2, .traceback)],
      r.2.Tame fun _ ↦ { result := unshown }) ∧
    run (fun _ ↦ { result := unshown }) [] (.vars [("x", pure (.int 1))]) true
        (requested [((1 : Int), .execute "c" none), (2, .traceback)]) =
      ⟨[⟨none, .ready⟩, ⟨none, .broken "ValueError: no text"⟩], 1⟩ := by
  let cells : String → Cell := fun _ ↦ { result := unshown }
  obtain ⟨k₀, k, hnew, hbound, v, k₁, hperformed, hv, hshown⟩ : ∃ k₀ k : ServedKernel,
      Kernel.new [] [] false = .ok k₀ ∧
      k₀.eval ((Seed.vars [("x", pure (.int 1))]).bind k₀.env) = (.ok (), k) ∧
      ∃ v k₁, (perform (cells "c")).run k = (.ok (.ok v), k₁) ∧ v ≠ .none ∧
      ((Eval.shown v).run k₁.store).1 = .error (.raised "ValueError" (some "no text")) :=
    ⟨_, _, rfl, rfl, _, _, rfl, nofun, rfl⟩
  have hseed : (Seed.vars [("x", pure (.int 1))]).Tame :=
    List.forall_mem_singleton.mpr (.pure trivial)
  have hcell : (cells "c").Tame := ⟨by simp [cells], by simp [cells], unshown_tame⟩
  have htame : ∀ r ∈ [((1 : Int), Command.execute "c" none), (2, .traceback)],
      r.2.Tame cells := by
    simp only [List.forall_mem_cons]
    exact ⟨hcell, trivial, by simp⟩
  have hbreaks : Breaks cells k (.execute "c" none) _ := .shown hperformed hv hshown
  refine ⟨htame, ?_⟩
  obtain ⟨served, rest, reports, k', last, hsplit, hserved, hafter, hlast, hrun⟩ :=
    run_finishes hnew hseed hbound htame
  rw [hrun]
  cases served with
  | cons r served =>
    obtain ⟨rfl, -⟩ := List.cons.inj hsplit
    rw [requested, List.map_cons, after, hbreaks.answer] at hafter
    cases hafter
  | nil =>
    cases hserved
    cases hafter
    rw [List.nil_append] at hsplit
    subst hsplit
    cases hlast with
    | breaks hbreaks' hf =>
      cases hbreaks'.carryOut.symm.trans hbreaks.carryOut
      rfl

end Worker

end VariableExplorer.Remote
