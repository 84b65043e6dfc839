import VariableExplorer.Proofs.Value.Tame
import VariableExplorer.Value.Subscript

/-!
Reading only adds to the store. Whatever is raised on the way, a request to stop the program
included, the objects that are there stay as they are. What every part of a computation keeps, all
of it keeps, so the parts are put together by `grind`.
-/

namespace VariableExplorer.Eval

variable {α β : Type} {x : Eval α}

/-- However the computation ends, every object is there as it was. -/
def Grows (x : Eval α) : Prop := ∀ s : Store, s.Keeps (x.run s : Except Fault α × Store).2

namespace Grows

theorem keeps (h : Grows x) {s t : Store} {r : Except Fault α} (hrun : x.run s = (r, t)) :
    s.Keeps t := by
  have hs := h s
  rwa [hrun] at hs

@[grind ←]
theorem pure (a : α) : Grows (Pure.pure a : Eval α) := Store.Keeps.refl

@[grind ←]
theorem throw (f : Fault) : Grows (MonadExcept.throw f : Eval α) := Store.Keeps.refl

@[grind ←]
theorem ofExcept (r : Except Fault α) : Grows (MonadExcept.ofExcept r : Eval α) := by
  cases r with
  | ok a => exact pure a
  | error f => exact throw f

theorem bind_of_results {f : α → Eval β} (hx : Grows x)
    (hf : ∀ s a t, x.run s = (.ok a, t) → Grows (f a)) : Grows (x >>= f) := by
  intro s
  rcases hrun : x.run s with ⟨result, t⟩
  have hk := hx.keeps hrun
  cases result with
  | error e =>
    rw [run_bind_of_error hrun]
    exact hk
  | ok a =>
    rw [run_bind_of_ok hrun]
    exact hk.trans (hf s a t hrun t)

@[grind ←]
theorem bind {f : α → Eval β} (hx : Grows x) (hf : ∀ a, Grows (f a)) : Grows (x >>= f) :=
  hx.bind_of_results fun _ a _ _ ↦ hf a

@[grind ←]
theorem map {f : α → β} (hx : Grows x) : Grows (f <$> x) := by
  rw [← bind_pure_comp]
  exact hx.bind fun a ↦ .pure (f a)

@[grind ←]
theorem get {f : Store → Eval α} (hf : ∀ s, Grows (f s)) : Grows (MonadState.get >>= f) :=
  fun s ↦ hf s s

@[grind ←]
theorem tryCatch {h : Fault → Eval α} (hx : Grows x) (hh : ∀ f, Grows (h f)) :
    Grows (MonadExcept.tryCatch x h) := by
  intro s
  rcases hrun : x.run s with ⟨result, t⟩
  have hk := hx.keeps hrun
  cases result with
  | error f =>
    rw [run_tryCatch_of_error hrun]
    exact hk.trans (hh f t)
  | ok a =>
    rw [run_tryCatch_of_ok hrun]
    exact hk

@[grind ←]
theorem handle {h : Fault → Eval α} (hx : Grows x) (hh : ∀ f, Grows (h f)) :
    Grows (Eval.handle x h) := by
  unfold Eval.handle
  grind

@[grind ←]
theorem transient (x : Eval α) : Grows (Eval.transient x) := Store.Keeps.refl

@[grind ←]
theorem mapM {f : α → Eval β} (hf : ∀ a, Grows (f a)) (as : List α) : Grows (as.mapM f) := by
  induction as with
  | nil => exact .pure _
  | cons a as ih =>
    rw [List.mapM_cons]
    exact (hf a).bind fun _ ↦ ih.bind fun _ ↦ .pure _

@[grind ←]
theorem allM {f : α → Eval Bool} (hf : ∀ a, Grows (f a)) (as : List α) : Grows (as.allM f) := by
  induction as with
  | nil => exact .pure _
  | cons a as ih =>
    refine (hf a).bind fun b ↦ ?_
    cases b with
    | true => exact ih
    | false => exact .pure _

@[grind ←]
theorem alloc (o : Object) : Grows (Eval.alloc o) := fun s ↦ s.keeps_alloc o

/-! ### Attributes -/

variable (v w : Value) (name : String) (found : Found) (c : ClassRef)

@[grind ←]
theorem newList (items : List Value) : Grows (Eval.newList items) := by
  unfold Eval.newList
  grind

@[grind ←]
theorem newTuple (items : List Value) : Grows (Eval.newTuple items) := by
  unfold Eval.newTuple
  grind

@[grind ←]
theorem newDict (entries : List (Value × Value)) : Grows (Eval.newDict entries) := by
  unfold Eval.newDict
  grind

@[grind ←]
theorem newFunction : Grows (Eval.newFunction name) := by
  unfold Eval.newFunction
  grind

@[grind ←]
theorem newMethod : Grows (Eval.newMethod v w) := by
  unfold Eval.newMethod
  grind

@[grind ←]
theorem newView (entries : List (Value × Value)) : Grows (Eval.newView entries) := by
  unfold Eval.newView
  grind

@[grind ←]
theorem stored (owner : String) : Grows (Eval.stored owner name found) := by
  unfold Eval.stored
  -- Each match is taken apart first, which `grind` would do at a much higher cost.
  split <;> grind

@[grind ←]
theorem classEntries : Grows (Eval.classEntries c) := by
  refine .get fun s ↦ ?_
  split
  · grind
  · split <;> grind

@[grind ←]
theorem ofClass : Grows (Eval.ofClass c name) := by
  refine .get fun s ↦ ?_
  repeat (split; · grind)
  exact .pure _

@[grind ←]
theorem computed : Grows (Eval.computed v name) := by
  refine .get fun s ↦ ?_
  split
  · exact .pure _
  split
  · split <;> grind
  · split <;> grind

@[grind ←]
theorem bound : Grows (Eval.bind v name found) := by
  unfold Eval.bind
  split
  case h_2 =>
    refine .get fun s ↦ ?_
    split <;> grind
  case h_7 =>
    refine .get fun s ↦ ?_
    split <;> grind
  all_goals grind

@[grind ←]
theorem plainAttr : Grows (Eval.plainAttr v name) := by
  refine .get fun s ↦ ?_
  have hown (found : Option Found) : Grows (Eval.plainAttr.ofOwn v name s found) := by
    unfold Eval.plainAttr.ofOwn
    split
    · exact .pure _
    · exact bound v name _
    · split
      · split <;> grind
      · exact .throw _
      · exact .throw _
  dsimp only
  split
  · split
    · exact bound v name _
    · exact hown _
  · exact hown _

@[grind ←]
theorem classAttr : Grows (Eval.classAttr c name) := by
  refine .get fun s ↦ ?_
  have hown (general : Option Found) : Grows (Eval.classAttr.ofOwn c name s general) := by
    unfold Eval.classAttr.ofOwn
    split
    · exact .pure _
    · split <;> exact stored _ _ _
    · split
      · exact bound _ _ _
      · exact .throw _
  have hgeneral : Grows (Eval.classAttr.ofGeneral c name s) := by
    unfold Eval.classAttr.ofGeneral
    split
    · exact .pure _
    · exact ofClass name c
  dsimp only
  split
  · split
    · exact hgeneral
    · exact hown _
  · exact hown _

@[grind ←]
theorem getAttr : Grows (Eval.getAttr v name) := by
  refine .get fun s ↦ ?_
  split
  · exact classAttr name _
  split
  · exact (plainAttr v name).tryCatch fun f ↦ by split <;> grind
  · exact plainAttr v name

@[grind ←]
theorem getAttr? : Grows (Eval.getAttr? v name) := by
  unfold Eval.getAttr?
  refine ((getAttr v name).bind fun w ↦ .pure _).tryCatch fun f ↦ ?_
  split <;> grind

@[grind ←]
theorem hasAttr : Grows (Eval.hasAttr v name) := by
  unfold Eval.hasAttr
  grind

@[grind ←]
theorem vars : Grows (Eval.vars v) := by
  refine (getAttr? v _).bind fun d ↦ ?_
  split <;> grind

@[grind ←]
theorem isOf : Grows (Eval.isOf v name) := by
  refine .get fun s ↦ ?_
  split
  · exact .pure _
  · refine (getAttr? v _).bind fun c ↦ ?_
    split <;> grind

@[grind ←]
theorem isInstance (names : List String) : Grows (Eval.isInstance v names) := by
  induction names with
  | nil => exact .pure _
  | cons name names ih =>
    refine (isOf v name).bind fun b ↦ ?_
    split
    · exact .pure _
    · exact ih

@[grind ←]
theorem isMapping : Grows (Eval.isMapping v) := by
  refine (getAttr v _).bind fun c ↦ .get fun s ↦ ?_
  split <;> grind

/-! ### Texts, lengths and elements -/

@[grind ←]
theorem givenText (operation : String) (b : Behaviour) : Grows (Eval.givenText operation b) := by
  refine (ofExcept b).bind fun w ↦ .get fun s ↦ ?_
  split <;> grind

theorem showWithin (fuel : Nat) (inside : List Ref) : Grows (Eval.showWithin fuel inside v) := by
  induction fuel generalizing inside v with
  | zero => exact .throw _
  | succ fuel ih =>
    unfold Eval.showWithin
    refine .get fun s ↦ ?_
    cases v with
    | ref r =>
      dsimp only
      split
      · grind
      split
      · grind
      split <;> grind
    | _ => exact .ofExcept _

@[grind ←]
theorem shown : Grows (Eval.shown v) := showWithin v _ _

@[grind ←]
theorem plain : Grows (Eval.plain v) := by
  refine .get fun s ↦ ?_
  split
  · exact givenText _ _
  · split <;> grind

@[grind ←]
theorem givenLength (b : Behaviour) : Grows (Eval.givenLength b) := by
  refine (ofExcept b).bind fun w ↦ .get fun s ↦ ?_
  split <;> grind

@[grind ←]
theorem length : Grows (Eval.length v) := by
  refine .get fun s ↦ ?_
  split
  · exact givenLength _
  · exact .throw _
  · split <;> grind

@[grind ←]
theorem isTrue : Grows (Eval.isTrue v) := by
  refine .get fun s ↦ ?_
  split
  · split <;> grind
  · split <;> grind

@[grind ←]
theorem tableElements (items : List (Value × Value)) (fuel k : Nat) :
    Grows (Eval.tableElements items fuel k) := by
  induction fuel generalizing k with
  | zero => exact .pure _
  | succ fuel ih =>
    refine .get fun s ↦ ?_
    split
    · exact (ih _).bind fun vs ↦ .pure _
    · exact .throw _

@[grind ←]
theorem elements : Grows (Eval.elements v) := by
  refine .get fun s ↦ ?_
  split
  · exact .pure _
  split
  · exact ((ofExcept _).bind fun _ ↦ .pure _).tryCatch fun _ ↦ by grind
  · exact tableElements _ _ _
  · exact .throw _

/-! ### Subscripts -/

@[grind ←]
theorem checkKey : Grows (Eval.checkKey v) := by
  unfold Eval.checkKey
  grind

@[grind ←]
theorem indexIn (n : Nat) (what : String) (outside : Fault) (key : Value) :
    Grows (Eval.indexIn n what outside key) := by
  refine .get fun s ↦ ?_
  split <;> grind

@[grind ←]
theorem limit (bound : Option Value) : Grows (Eval.bound bound) := by
  unfold Eval.bound
  split
  · exact .pure _
  · exact .pure _
  · refine .get fun s ↦ ?_
    split <;> grind

@[grind ←]
theorem positions (n : Nat) (start stop step : Option Value) :
    Grows (Eval.positions n start stop step) := by
  unfold Eval.positions
  grind

@[grind ←]
theorem entry (entries : List (Value × Value)) (key : Value) :
    Grows (Eval.entry entries key) := by
  refine (checkKey key).bind fun _ ↦ .get fun s ↦ ?_
  split
  · exact .pure _
  · exact (shown key).bind fun _ ↦ .throw _

@[grind ←]
theorem getItem (key : Value) : Grows (Eval.getItem v key) := by
  refine .get fun s ↦ ?_
  split
  · exact .ofExcept _
  · exact entry _ key
  · exact .throw _
  · dsimp only
    split <;> grind

@[grind ←]
theorem getPart (start stop step : Option Value) : Grows (Eval.getPart v start stop step) := by
  refine .get fun s ↦ ?_
  dsimp only
  split <;> grind

@[grind ←]
theorem subscript (i : Subscript) : Grows (Eval.subscript v i) := by
  cases i with
  | «at» key => exact getItem v key
  | part start stop step =>
    refine .get fun s ↦ .get fun s' ↦ ?_
    split
    · exact .ofExcept _
    · exact .throw _
    · exact getPart v start stop step

end Grows

end VariableExplorer.Eval
