import VariableExplorer.Expression.Evaluation
import VariableExplorer.Proofs.Value.Reading

/-!
Calling a value, and finding what a name means, are tame.
-/

namespace VariableExplorer.Eval.Tame

theorem nameValue (env : Ref) (name : String) : Tame (Eval.nameValue env name) := by
  refine .get fun s _ ↦ ?_
  split
  · exact .pure trivial
  split
  · exact .fail trivial
  split
  · split
    · exact .pure trivial
    · exact .fail trivial
  · refine (getItem _ _).tryCatch fun f hf ↦ ?_
    split
    · exact .fail trivial
    · exact .throw hf

theorem newSet (cls : String) (items : List Value) : Tame (Eval.newSet cls items) :=
  (forM checkKey items).bind fun _ _ ↦ .get fun _ _ ↦ new (by simp)

theorem contains (container v : Value) : Tame (Eval.contains container v) := by
  refine .get fun s _ ↦ ?_
  split
  · exact .pure trivial
  · exact .fail trivial
  split
  case h_1 | h_2 => exact (checkKey v).bind fun _ _ ↦ .pure trivial
  · split
    · exact .pure trivial
    · exact .fail trivial

theorem compare (op : CompareOp) (l r : Value) : Tame (Eval.compare op l r) := by
  refine .get fun s _ ↦ ?_
  have hfault {r : Except (Value × Value) Bool} {fault : Value × Value → Fault}
      (h : ∀ p, (fault p).IsOwn) : Tame (MonadExcept.ofExcept (r.mapError fault) : Eval Bool) := by
    refine ofOwn fun f hf ↦ ?_
    cases r with
    | ok b => cases hf
    | error p => cases hf; exact h p
  cases op with
  | lt | le | gt | ge => exact hfault fun _ ↦ trivial
  | isIn => exact contains r l
  | isNotIn => exact (contains r l).bind fun _ _ ↦ .pure trivial
  | _ => exact .pure trivial

theorem greatest (best : Value) (vs : List Value) : Tame (Eval.greatest best vs) := by
  induction vs generalizing best with
  | nil => exact .pure trivial
  | cons v vs ih =>
    refine (compare .gt v best).bind fun b _ ↦ ?_
    split
    · exact ih v
    · exact ih best

theorem callUniversal (env : Ref) (name : String) (args : List Value) (keywords : List String) :
    Tame (Eval.callUniversal env name args keywords) := by
  have htakesNone : Tame (if keywords.isEmpty then return
      else MonadExcept.throw (.argumentCount s!"{name}() takes no keyword arguments") :
      Eval Unit) := by
    split
    · exact .pure trivial
    · exact .fail trivial
  unfold Eval.callUniversal
  dsimp only
  split
  · refine htakesNone.bind fun _ _ ↦ ?_
    split
    · exact .pure trivial
    · exact .fail trivial
  · refine htakesNone.bind fun _ _ ↦ ?_
    split
    · exact (length _).bind fun _ _ ↦ .pure trivial
    · exact .fail trivial
  · split
    · exact .fail trivial
    · refine (elements _).bind fun vs _ ↦ ?_
      split
      · exact .fail trivial
      · exact greatest _ _
    · exact greatest _ _
  · split
    · exact (shown _).bind fun _ _ ↦ .pure trivial
    · exact .fail trivial
  · split
    · exact .get fun _ _ ↦ .pure trivial
    · exact .fail trivial
  · exact .pure trivial

theorem decoded (args : List Value) : Tame (Eval.decoded args) := by
  refine .get fun s _ ↦ ?_
  dsimp only
  split
  · exact .raise (by decide)
  · split
    · exact .raise (by decide)
    · exact .fail trivial

theorem construct (name : String) (args : List Value) : Tame (Eval.construct name args) := by
  unfold Eval.construct
  split
  -- One case for each class and number of arguments; most of them make the object at once.
  case h_2 => exact (plain _).bind fun _ _ ↦ .pure trivial
  case h_3 =>
    split
    · exact decoded args
    · exact .fail trivial
  case h_5 => exact (isTrue _).bind fun _ _ ↦ .pure trivial
  case h_6 => exact newList _
  case h_7 => exact (elements _).bind fun _ _ ↦ newList _
  case h_8 => exact newTuple _
  case h_9 => exact (elements _).bind fun _ _ ↦ newTuple _
  case h_10 | h_12 => exact newSet _ _
  case h_11 | h_13 => exact (elements _).bind fun _ _ ↦ newSet _ _
  case h_14 => exact newDict _
  case h_15 => exact .get fun _ _ ↦ .pure trivial
  case h_17 =>
    refine .get fun s _ ↦ ?_
    split
    · exact .pure trivial
    · exact .pure trivial
    · split
      · exact .pure trivial
      · exact .raise (by decide)
    · split
      · exact .pure trivial
      · exact .raise (by decide)
      · exact .fail trivial
    · exact .raise (by decide)
  case h_18 =>
    split
    · exact new (by simp)
    · exact .pure trivial
  all_goals exact .pure trivial

theorem call (env : Ref) (fuel : Nat) (v : Value) (args : List Value) (keywords : List String) :
    Tame (Eval.call env fuel v args keywords) := by
  induction fuel generalizing v args with
  | zero => exact .get fun _ _ ↦ .fail trivial
  | succ fuel ih =>
    refine .get fun s hs ↦ ?_
    split
    · exact callUniversal _ _ _ _
    · exact construct _ _
    case h_9 =>
      split
      · exact .pure trivial
      · exact ih _ _
      · exact ih _ _
      · split
        · refine (alloc (by simp)).bind fun _ _ ↦ ?_
          split
          · exact new (by simp)
          · exact .fail trivial
        · exact .pure trivial
      · split
        next hb => exact special hs hb
        · exact .fail trivial
    all_goals exact .pure trivial

end VariableExplorer.Eval.Tame
