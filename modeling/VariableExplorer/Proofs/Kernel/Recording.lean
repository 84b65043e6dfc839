import VariableExplorer.Proofs.Kernel.Attended
import VariableExplorer.Proofs.Remote.Serving

/-!
Which cells are recorded. A cell that was run is recorded once, behind all that is in the history by
then, unless its result cannot be shown or the host raises when it is shown the cell's failure.
-/

namespace VariableExplorer

def HistoryEntry.ofCell (code : String) (tag : Option String) (cell : Cell)
    (text : Option String) : HistoryEntry where
  code := code
  stdout := cell.stdout
  stderr := cell.stderr
  success := cell.succeeds
  tag := tag.filter (· ≠ "")
  result := text
  error := cell.fault?.map Fault.report

namespace Cell

/-- The text of the result of a cell; a cell without a result has none. -/
def written : Except Fault Value → Eval (Option String)
  | .error f => throw f
  | .ok .none => return none
  | .ok v => some <$> Eval.shown v

theorem written_of_ne_none {v : Value} (h : v ≠ .none) :
    written (.ok v) = some <$> Eval.shown v := by
  cases v with
  | none => exact absurd rfl h
  | _ => rfl

end Cell

namespace Attended

variable {κ W : Type} {d d' : Attended κ W}
variable {tell : κ → Acting κ W Unit} {display : Ref → Showing → Acting κ W (Except Fault Unit)}

def alert (display : Ref → Showing → Acting κ W (Except Fault Unit)) (host : Option Ref)
    (error : Option String) : Acting κ W (Except Fault Unit) :=
  match error, host with
  | some message, some h => display h (.error message)
  | _, _ => return .ok ()

theorem conclude_run (code : String) (tag : Option String) (cell : Cell)
    (result : Except Fault Value) (d : Attended κ W) :
    (Kernel.conclude (κ := κ) display code tag cell result).run d =
      match (Cell.written result).run d.kernel.store with
      | (.error f, t) => (.error f, { d with kernel.store := t })
      | (.ok text, t) =>
        let entry := HistoryEntry.ofCell code tag cell text
        match (alert display d.kernel.hosts.head? entry.error).run { d with kernel.store := t } with
        | (.error f, d') => (.error f, d')
        | (.ok (), d') =>
          (.ok entry, { d' with kernel.history := d'.kernel.history ++ [entry] }) := by
  unfold Kernel.conclude
  extract_lets goOn
  -- With the result written, what is left is to show the error, if there is one, and to record.
  have hgoOn (text : Option String) (d : Attended κ W) : (goOn (.ok text)).run d =
      match (alert display d.kernel.hosts.head?
        (HistoryEntry.ofCell code tag cell text).error).run d with
      | (.error f, d') => (.error f, d')
      | (.ok (), d') => (.ok (.ofCell code tag cell text), { d' with
          kernel.history := d'.kernel.history ++ [.ofCell code tag cell text] }) := by
    simp only [goOn, alert, HistoryEntry.ofCell]
    rw [run_kernel_bind]
    cases cell.fault?.map Fault.report with
    | none => rfl
    | some message =>
      cases d.kernel.hosts.head? with
      | none => rfl
      | some h =>
        dsimp only
        rcases hshown : (display h (.error message)).run d with ⟨f | u, d'⟩ <;>
          exact run_bind hshown
  split
  next => rfl
  next => exact hgoOn none d
  next v hv =>
    rw [Cell.written_of_ne_none hv]
    rcases hr : (some <$> Eval.shown v).run d.kernel.store with ⟨f | text, t⟩ <;>
      rw [run_bind (evaluating_run hr)]
    · rfl
    · exact hgoOn text _

/-- Why a cell is not recorded, seen from when it has been run. -/
inductive Unrecorded (display : Ref → Showing → Acting κ W (Except Fault Unit)) (cell : Cell) :
    Except Fault (Except Fault Value) × Attended κ W → Fault → Prop
  | cell {d : Attended κ W} {f : Fault} : Unrecorded display cell (.error f, d) f
  /-- Its result cannot be had, or has no text. -/
  | result {d : Attended κ W} {result : Except Fault Value} {f : Fault} :
      ((Cell.written result).run d.kernel.store).1 = .error f →
      Unrecorded display cell (.ok result, d) f
  /-- The host raises when it is shown what the cell has raised. -/
  | host {d : Attended κ W} {result : Except Fault Value} {text : Option String} {t : Store}
      {f : Fault} : (Cell.written result).run d.kernel.store = (.ok text, t) →
      ((alert display d.kernel.hosts.head? (cell.fault?.map Fault.report)).run
        { d with kernel.store := t }).1 = .error f →
      Unrecorded display cell (.ok result, d) f

theorem conclude_eq_error_iff {code : String} {tag : Option String} {cell : Cell}
    {result : Except Fault Value} {f : Fault} :
    ((Kernel.conclude (κ := κ) display code tag cell result).run d).1 = .error f ↔
      Unrecorded display cell (.ok result, d) f := by
  rw [conclude_run]
  constructor
  · intro h
    rcases hw : (Cell.written result).run d.kernel.store with ⟨g | text, t⟩ <;> rw [hw] at h
    · cases h
      exact .result (congrArg Prod.fst hw)
    dsimp only at h
    rcases ha : (alert display d.kernel.hosts.head?
      (HistoryEntry.ofCell code tag cell text).error).run { d with kernel.store := t } with
      ⟨g | u, d'⟩ <;> rw [ha] at h
    · cases h
      exact .host hw (congrArg Prod.fst ha)
    · cases h
  · intro h
    cases h with
    | result h => rw [Prod.ext (y := (_, _)) h rfl]
    | @host _ _ text t _ hw h =>
      have ha : (alert display d.kernel.hosts.head?
          (HistoryEntry.ofCell code tag cell text).error).run { d with kernel.store := t } =
          (.error f, _) := Prod.ext h rfl
      rw [hw]
      dsimp only
      rw [ha]

/-- How the history stands to the one before. -/
def OfHistory (R : List HistoryEntry → List HistoryEntry → Prop) (d d' : Attended κ W) : Prop :=
  R d.kernel.history d'.kernel.history

section

variable {R : List HistoryEntry → List HistoryEntry → Prop} [IsPreorder (List HistoryEntry) R]

instance : IsPreorder (Attended κ W) (OfHistory R) where
  refl _ := Std.Refl.refl (r := R) _
  trans _ _ _ h h' := IsTrans.trans (r := R) _ _ _ h h'

theorem evaluating_along_history {α : Type} (x : Eval α) :
    Along (OfHistory R) (Kernel.evaluating (κ := κ) (m := Acting κ W) x) :=
  fun d ↦ Std.Refl.refl (r := R) d.kernel.history

theorem runCell_along_history (htell : ∀ c, Along (OfHistory R) (tell c))
    (hdisplay : ∀ h s, Along (OfHistory R) (display h s)) (cell : Cell) :
    Along (OfHistory R) (runCell tell display cell) := by
  have hcalls : Along (OfHistory R) (Kernel.runCalls (κ := κ) display cell.calls) :=
    .runCalls fun e _ ↦ .call (P := fun _ ↦ True) (fun _ ↦ evaluating_along_history _)
      (fun _ ↦ trivial) (fun _ _ _ ↦ trivial) hdisplay fun _ ↦ trivial
  exact .runCellWith htell (.performWith (fun _ ↦ evaluating_along_history _) hcalls
    (evaluating_along_history _))

theorem alert_along_history (hdisplay : ∀ h s, Along (OfHistory R) (display h s))
    (host : Option Ref) (error : Option String) :
    Along (OfHistory R) (alert display host error) := by
  unfold alert
  split
  · exact hdisplay _ _
  · exact .pure _

theorem conclude_records (hdisplay : ∀ h s, Along (OfHistory R) (display h s)) (code : String)
    (tag : Option String) (cell : Cell) (result : Except Fault Value) (d : Attended κ W) :
    match (Kernel.conclude (κ := κ) display code tag cell result).run d with
    | (.error _, d') => R d.kernel.history d'.kernel.history
    | (.ok entry, d') =>
      (∃ text t, (Cell.written result).run d.kernel.store = (.ok text, t) ∧
        entry = .ofCell code tag cell text) ∧
      ∃ earlier, R d.kernel.history earlier ∧ d'.kernel.history = earlier ++ [entry] := by
  rw [conclude_run]
  rcases hw : (Cell.written result).run d.kernel.store with ⟨f | text, t⟩ <;> dsimp only
  · exact Std.Refl.refl (r := R) _
  have halerted := alert_along_history hdisplay d.kernel.hosts.head?
    (HistoryEntry.ofCell code tag cell text).error { d with kernel.store := t }
  rcases ha : (alert display d.kernel.hosts.head?
    (HistoryEntry.ofCell code tag cell text).error).run { d with kernel.store := t } with
    ⟨f | u, d'⟩ <;> rw [ha] at halerted
  · exact halerted
  · exact ⟨⟨text, t, rfl, rfl⟩, d'.kernel.history, halerted, rfl⟩

/-- Whether a cell is recorded, and where. Everything else in the history is there by then, be it
from earlier cells or from cells that hosts and subscribers have run meanwhile. -/
theorem execute_records (htell : ∀ c, Along (OfHistory R) (tell c))
    (hdisplay : ∀ h s, Along (OfHistory R) (display h s)) (code : String) (tag : Option String)
    (cell : Cell) (d : Attended κ W) :
    (∀ f, ((Kernel.execute tell display code tag cell).run d).1 = .error f ↔
      Unrecorded display cell ((runCell tell display cell).run d) f) ∧
    match (Kernel.execute tell display code tag cell).run d with
    | (.error _, d') => R d.kernel.history d'.kernel.history
    | (.ok entry, d') =>
      (∃ result d₁ text t, (runCell tell display cell).run d = (.ok result, d₁) ∧
        (Cell.written result).run d₁.kernel.store = (.ok text, t) ∧
        entry = .ofCell code tag cell text) ∧
      ∃ earlier, R d.kernel.history earlier ∧ d'.kernel.history = earlier ++ [entry] := by
  have hran := runCell_along_history htell hdisplay cell d
  rw [execute_run]
  rcases hr : (runCell tell display cell).run d with ⟨f | result, d₁⟩ <;> rw [hr] at hran <;>
    dsimp only
  · refine ⟨fun g ↦ ⟨fun h ↦ ?_, fun h ↦ ?_⟩, hran⟩
    · cases h
      exact .cell
    · cases h
      rfl
  refine ⟨fun f ↦ conclude_eq_error_iff, ?_⟩
  have hconcluded := conclude_records hdisplay code tag cell result d₁
  rcases hc : (Kernel.conclude (κ := κ) display code tag cell result).run d₁ with
    ⟨f | entry, d₂⟩ <;> rw [hc] at hconcluded
  · exact IsTrans.trans (r := R) _ _ _ hran hconcluded
  · obtain ⟨⟨text, t, hw, hentry⟩, earlier, hearlier, hhistory⟩ := hconcluded
    exact ⟨⟨result, d₁, text, t, rfl, hw, hentry⟩, earlier,
      IsTrans.trans (r := R) _ _ _ hran hearlier, hhistory⟩

end

def shows (_ : Ref) (_ : Showing) : Acting κ W (Except Fault Unit) := return .ok ()

/-- A cell whose result has no text is run and not recorded. -/
theorem execute_records_unshown :
    (∀ c : Unit, Along (OfHistory Eq) (pure c : Acting Unit Unit Unit)) ∧
    (∀ h s, Along (OfHistory Eq) (shows h s : Acting Unit Unit _)) ∧
    ∃ k, Kernel.new [] [] true = .ok k ∧ ∃ d' : Attended Unit Unit,
      (Kernel.execute pure shows "c" none { result := Remote.Worker.unshown }).run ⟨k, ()⟩ =
        (.error (.raised "ValueError" (some "no text")), d') ∧ d'.kernel.history = [] := by
  have htell (c : Unit) : Along (OfHistory Eq) (pure c : Acting Unit Unit Unit) := .pure c
  have hshows (h : Ref) (s : Showing) : Along (OfHistory Eq) (shows h s : Acting Unit Unit _) :=
    .pure _
  obtain ⟨k, hnew, v, d₁, hran, hshown⟩ : ∃ k, Kernel.new [] [] true = .ok k ∧ ∃ v,
      ∃ d₁ : Attended Unit Unit,
      (runCell pure shows { result := Remote.Worker.unshown }).run ⟨k, ()⟩ = (.ok (.ok v), d₁) ∧
      ((Cell.written (.ok v)).run d₁.kernel.store).1 =
        .error (.raised "ValueError" (some "no text")) :=
    ⟨_, rfl, _, _, rfl, rfl⟩
  have hnone : k.history = [] := by
    cases hnew
    rfl
  obtain ⟨hfails, hhistory⟩ := execute_records htell hshows "c" none
    { result := Remote.Worker.unshown } ⟨k, ()⟩
  rw [hran] at hfails
  have herror := (hfails _).mpr (.result hshown)
  refine ⟨htell, hshows, k, hnew, _, Prod.ext herror rfl, ?_⟩
  rcases hr : (Kernel.execute pure shows "c" none { result := Remote.Worker.unshown }).run
    (⟨k, ()⟩ : Attended Unit Unit) with ⟨f | entry, d'⟩ <;> rw [hr] at hhistory herror
  · exact hhistory.symm.trans hnone
  · cases herror

end Attended

end VariableExplorer
