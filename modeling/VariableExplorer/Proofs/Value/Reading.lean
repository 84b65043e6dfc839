import VariableExplorer.Proofs.Value.Attribute
import VariableExplorer.Value.Subscript

/-!
Reading the texts, the length, the elements and the entries of a value is tame.
-/

namespace VariableExplorer

theorem integerText_isOwn {i : Int} {f : Fault} (h : integerText i = .error f) : f.IsOwn := by
  have h' : f = .tooManyDigits := by
    dsimp only [integerText] at h
    generalize (if i < 0 then _ else _ : Nat) = n at h
    split at h
    · cases h; rfl
    · cases h
  rw [h']
  trivial

namespace Store

theorem ofMade?_native (s : Store) (cls name : String) : s.ofMade? (.native cls) name = none := by
  simp only [ofMade?, lineage, List.findSome?_eq_none_iff]
  intro a ha
  obtain ⟨n, rfl⟩ : ∃ n, a = .native n := by
    rcases List.mem_cons.mp ha with rfl | ha
    · exact ⟨cls, rfl⟩
    · obtain ⟨n, -, rfl⟩ := List.mem_map.mp ha
      exact ⟨n, rfl⟩
  rfl

theorem scalarText_isOwn {s : Store} {v : Value} {f : Fault} (h : s.scalarText v = .error f) :
    f.IsOwn := by
  cases v with
  | int i => exact integerText_isOwn h
  | _ => cases h

end Store

namespace Eval.Tame

theorem ofOwn {α : Type} {r : Except Fault α} (h : ∀ f, r = .error f → f.IsOwn) :
    Tame (MonadExcept.ofExcept r : Eval α) :=
  .ofExcept (fun _ _ ↦ trivial) fun f hf ↦ Fault.isOrdinary_of_isOwn (h f hf)

theorem special {s : Store} (hs : s.Civil) {c : ClassRef} {name : String} {b : Behaviour}
    (h : s.ofMade? c name = some (.special b)) : Tame (MonadExcept.ofExcept b : Eval Value) :=
  ofBehaviour (hs.ofMade? h) (.inl rfl)

theorem givenText {b : Behaviour} (h : Tame (MonadExcept.ofExcept b : Eval Value))
    (operation : String) : Tame (Eval.givenText operation b) := by
  refine h.bind fun v _ ↦ .get fun s _ ↦ ?_
  split
  · exact .pure trivial
  · exact .fail trivial

theorem showWithin (fuel : Nat) (inside : List Ref) (v : Value) :
    Tame (Eval.showWithin fuel inside v) := by
  induction fuel generalizing inside v with
  | zero => exact .fail trivial
  | succ fuel ih =>
    refine .get fun s hs ↦ ?_
    cases v with
    | ref r =>
      dsimp only
      split
      next hb => exact givenText (special hs hb) _
      split
      · exact .pure trivial
      have hitem (w : Value) : Tame (Eval.showWithin fuel (r :: inside) w) := ih _ w
      have hitems (ws : List Value) :
          Tame (ws.mapM (Eval.showWithin fuel (r :: inside))) := mapM hitem ws
      split
      -- One case for each kind of body: its parts have less fuel, and are inside `r` as well.
      case h_1 => exact ofOwn fun f hf ↦ Store.scalarText_isOwn hf
      case h_3 | h_7 | h_11 | h_13 => exact (hitem _).bind fun _ _ ↦ .pure trivial
      case h_2 | h_4 | h_12 | h_14 => exact (hitems _).bind fun _ _ ↦ .pure trivial
      case h_5 =>
        split
        · exact .pure trivial
        · exact (hitems _).bind fun _ _ ↦ .pure trivial
      case h_6 =>
        split
        · split
          · exact .pure trivial
          · exact (mapM (fun _ ↦ (hitem _).bind fun _ _ ↦ (hitem _).bind fun _ _ ↦
              .pure trivial) _).bind fun _ _ ↦ .pure trivial
        · exact (mapM (fun _ ↦ (hitem _).bind fun _ _ ↦ (hitem _).bind fun _ _ ↦
            .pure trivial) _).bind fun _ _ ↦ .pure trivial
      case h_9 =>
        exact (mapM (fun _ ↦ ofOwn fun f hf ↦ integerText_isOwn hf) _).bind fun _ _ ↦ .pure trivial
      case h_15 =>
        simp only [pure_bind]
        split
        · refine (hitem _).bind fun _ _ ↦ ?_
          split
          · exact (hitem _).bind fun _ _ ↦ .pure trivial
          · exact .pure trivial
        · split
          · exact (hitem _).bind fun _ _ ↦ .pure trivial
          · exact .pure trivial
      case h_17 =>
        split
        · refine (mapM (fun e ↦ ?_) _).bind fun _ _ ↦ .pure trivial
          simp only [pure_bind]
          split
          · exact (hitem _).bind fun _ _ ↦ .pure trivial
          · exact (hitem _).bind fun _ _ ↦ (hitem _).bind fun _ _ ↦ .pure trivial
        · exact .pure trivial
      all_goals exact .pure trivial
    | _ => exact ofOwn fun f hf ↦ Store.scalarText_isOwn hf

theorem shown (v : Value) : Tame (Eval.shown v) := showWithin _ _ v

theorem plain (v : Value) : Tame (Eval.plain v) := by
  refine .get fun s hs ↦ ?_
  split
  next hb => exact givenText (special hs hb) _
  split
  case h_4 =>
    split
    · exact shown _
    · split
      · exact .pure trivial
      · exact shown _
  case h_5 => exact (mapM shown _).bind fun _ _ ↦ .pure trivial
  case h_6 => split <;> exact shown _
  case h_7 => exact shown v
  all_goals exact .pure trivial

theorem givenLength {b : Behaviour} (h : Tame (MonadExcept.ofExcept b : Eval Value)) :
    Tame (Eval.givenLength b) := by
  refine h.bind fun v _ ↦ .get fun s _ ↦ ?_
  split
  · exact .fail trivial
  split
  · exact .fail trivial
  split
  · exact .raise (by decide)
  · exact .pure trivial

theorem length (v : Value) : Tame (Eval.length v) := by
  refine .get fun s hs ↦ ?_
  split
  next hb => exact givenLength (special hs hb)
  · exact .fail trivial
  split
  · split
    · exact .raise (by decide)
    · exact .pure trivial
  · exact .fail trivial

theorem isTrue (v : Value) : Tame (Eval.isTrue v) := by
  refine .get fun s hs ↦ ?_
  split
  next hb =>
    split
    case h_4 => exact (givenLength (special hs hb)).bind fun _ _ ↦ .pure trivial
    all_goals exact .pure trivial
  · split <;> exact .pure trivial

theorem tableElements (items : List (Value × Value)) (fuel k : Nat) :
    Tame (Eval.tableElements items fuel k) := by
  induction fuel generalizing k with
  | zero => exact .pure trivial
  | succ fuel ih =>
    refine .get fun s _ ↦ ?_
    split
    · exact (ih _).bind fun _ _ ↦ .pure trivial
    · exact .fail trivial

theorem elements (v : Value) : Tame (Eval.elements v) := by
  refine .get fun s hs ↦ ?_
  split
  · exact .pure trivial
  split
  next hb =>
    refine .tryCatch ((special hs hb).bind fun _ _ ↦ .pure trivial) fun f hf ↦ ?_
    split
    · exact .pure trivial
    · exact .throw hf
  · exact tableElements _ _ _
  · exact .fail trivial

theorem indexIn (n : Nat) (what : String) {outside : Fault} (h : outside.IsOwn) (key : Value) :
    Tame (Eval.indexIn n what outside key) := by
  refine .get fun s _ ↦ ?_
  split
  · split
    · exact .fail trivial
    · split
      · exact .pure trivial
      · exact .fail h
  · split <;> exact .fail trivial

theorem limit (v : Option Value) : Tame (Eval.bound v) := by
  unfold Eval.bound
  split
  · exact .pure trivial
  · exact .pure trivial
  · refine .get fun s _ ↦ ?_
    split
    · exact .pure trivial
    · exact .raise (by decide)

theorem positions (n : Nat) (start stop step : Option Value) :
    Tame (Eval.positions n start stop step) := by
  refine (limit step).bind fun _ _ ↦ ?_
  dsimp only
  split
  · exact .raise (by decide)
  · exact (limit start).bind fun _ _ ↦ (limit stop).bind fun _ _ ↦ .pure trivial

theorem entry (entries : List (Value × Value)) (key : Value) : Tame (Eval.entry entries key) := by
  refine (checkKey key).bind fun _ _ ↦ .get fun s _ ↦ ?_
  split
  · exact .pure trivial
  · exact (shown key).bind fun _ _ ↦ .fail trivial

theorem getItem (v key : Value) : Tame (Eval.getItem v key) := by
  refine .get fun s hs ↦ ?_
  split
  next hb => exact special hs hb
  · exact entry _ key
  · exact .fail trivial
  dsimp only
  split
  case h_7 => exact entry _ key
  case h_8 =>
    split
    · exact entry _ key
    · exact .fail trivial
  case h_9 => split <;> exact .fail trivial
  all_goals
    refine (indexIn _ _ ?_ key).bind fun _ _ ↦ .pure trivial
    trivial

theorem getPart (v : Value) (start stop step : Option Value) :
    Tame (Eval.getPart v start stop step) := by
  refine .get fun s _ ↦ ?_
  have hpick {α : Type} (xs : List α) (d : α) : Tame (do
      return (← Eval.positions xs.length start stop step).map (xs.getD · d) : Eval (List α)) :=
    (positions _ _ _ _).bind fun _ _ ↦ .pure trivial
  dsimp only
  split
  · exact (hpick _ _).bind fun _ _ ↦ newList _
  · exact (hpick _ _).bind fun _ _ ↦ newTuple _
  · exact (hpick _ _).bind fun _ _ ↦ .pure trivial
  · exact (hpick _ _).bind fun _ _ ↦ .pure trivial
  · exact (hpick _ _).bind fun _ _ ↦ new (by simp)
  · refine (limit step).bind fun _ _ ↦ ?_
    split
    · exact .raise (by decide)
    · exact (limit start).bind fun _ _ ↦ (limit stop).bind fun _ _ ↦ new (by simp)
  · exact .fail trivial
  · exact .fail trivial
  · split <;> exact .fail trivial

theorem subscript (v : Value) (i : Subscript) : Tame (Eval.subscript v i) := by
  cases i with
  | «at» key => exact getItem v key
  | part start stop step =>
    refine .get fun s hs ↦ .get fun s' hs' ↦ ?_
    split
    next hb => exact special hs hb
    · exact .fail trivial
    · exact getPart v start stop step

end Eval.Tame

end VariableExplorer
