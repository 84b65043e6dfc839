import VariableExplorer.Proofs.Navigation.Path
import VariableExplorer.Proofs.Running
import VariableExplorer.Suggestion.Provider

/-!
What the lookup of members gives. It takes one question at most, and whatever becomes of that there
is a list: the first of the members that go with the path, or none.
-/

namespace VariableExplorer

namespace Wait

/-- The answer is there at some look, and the caller has not cancelled by an earlier one. -/
inductive InTime : List Look → Prop
  | now {l : Look} {ls : List Look} : l.answered = true → InTime (l :: ls)
  | later {l : Look} {ls : List Look} : l.cancelled = false → InTime ls → InTime (l :: ls)

variable {a : Answer} {looks : List Look}

theorem await_of_inTime (ha : a.comes = true) (h : InTime looks) :
    await a looks = .answered a := by
  induction h with
  | now hl => simp [await, hl, ha]
  | later hl _ ih => simp [await, hl, ha, ih]

theorem await_of_late (h : a.comes = true → ¬ InTime looks) :
    await a looks = .expired ∨ await a looks = .cancelled := by
  induction looks with
  | nil => exact .inl rfl
  | cons l ls ih =>
    have hl : ¬ (l.answered && a.comes) = true := fun hl ↦ by
      obtain ⟨hanswered, ha⟩ := Bool.and_eq_true_iff.mp hl
      exact h ha (.now hanswered)
    rw [await, if_neg hl]
    cases hc : l.cancelled with
    | true => exact .inr (by simp)
    | false => exact ih fun ha hls ↦ h ha (.later hc hls)

theorem run_of_taken {m : Type → Type} [Monad m] [LawfulMonad m] {w : Wait}
    (hc : w.cancelled = false) (ht : w.taken = true) (call : m Answer) :
    w.run false call = (await · w.looks) <$> call := by
  rw [run, if_neg (by simp [hc]), if_neg (by simp), if_pos ht, bind_pure_comp]

end Wait

namespace Provider

open Navigation

/-- A member that goes with what is typed: it is reached by a name, and the name starts like this. -/
def Fits (typed : String) (i : ValueInfo) : Prop :=
  (i.accessorKind = .dollar ∨ i.accessorKind = .at) ∧
    typed.toList <+: (trimLeading i.name).toList

instance (typed : String) : DecidablePred (Fits typed) :=
  fun _ ↦ inferInstanceAs (Decidable (_ ∧ _))

def firstFitting (typed : String) (max : Int) (es : List (Element ValueInfo)) : List Candidate :=
  (((Element.givenOnly es).filter (Fits typed)).take max.toNat).map fun i ↦
    { displayName := trimLeading i.name }

theorem candidate?_eq (typed : String) (i : ValueInfo) : candidate? typed i =
    if Fits typed i then some { displayName := trimLeading i.name } else none := by
  simp only [candidate?, Fits, List.isPrefixOf_iff_prefix, Bool.or_eq_true, decide_eq_true_eq]
  by_cases hkind : i.accessorKind = .dollar ∨ i.accessorKind = .at
  · simp [hkind]
  · simp [hkind]

theorem toNat_sub_of_lt {max : Int} {found : Nat} (h : ¬ max ≤ found) :
    (max - found).toNat = (max - (found + 1 : Nat)).toNat + 1 := by
  omega

theorem named_eq (typed : String) (max : Int) (found : Nat) (es : List (Element ValueInfo)) :
    named typed max found es =
      (((Element.givenOnly es).filter (Fits typed)).take (max - found).toNat).map fun i ↦
        { displayName := trimLeading i.name } := by
  induction es generalizing found with
  | nil => simp [named, Element.givenOnly]
  | cons e es ih =>
    by_cases h : max ≤ found
    · simp [named, h, Int.toNat_of_nonpos (Int.sub_nonpos_of_le h)]
    cases e with
    | foreign typeName =>
      have hforeign : Element.givenOnly (.foreign typeName :: es) = Element.givenOnly es := rfl
      simp [named, h, hforeign, ih]
    | given i =>
      have hgiven : Element.givenOnly (.given i :: es) = i :: Element.givenOnly es := rfl
      by_cases hi : Fits typed i
      · simp [named, h, hgiven, candidate?_eq, hi, ih, toNat_sub_of_lt h]
      · simp [named, h, hgiven, candidate?_eq, hi, ih]

theorem names_eq (max : Int) (found : Nat) (ds : List Descriptor) : names max found ds =
    ((ds.filter (!·.isHidden)).take (max - found).toNat).map fun d ↦
      { displayName := d.name, kind := d.kind } := by
  induction ds generalizing found with
  | nil => simp [names]
  | cons d ds ih =>
    rw [names]
    split
    next h => simp [Int.toNat_of_nonpos (Int.sub_nonpos_of_le h)]
    next h =>
      cases hd : d.isHidden with
      | true => simp [hd, ih]
      | false => simp [hd, ih, toNat_sub_of_lt h]

section

variable (path : Option String) (p : Provider) (snapshot : Snapshot) (max : Int)
  (cancellable : Bool)

theorem lookup_of_free (h : Free (path.getD "").toList) :
    p.lookup snapshot path max cancellable = .found ((snapshot.visible.take max.toNat).map
      fun d ↦ { displayName := d.name, kind := d.kind }) := by
  rw [lookup]
  split
  next hmax => simp [Int.toNat_of_nonpos hmax]
  next =>
    rw [Path.parse, scopeOf_of_free h, names_eq, Snapshot.visible]
    simp

theorem lookup_of_degenerate (h : scopeOf (path.getD "").toList = .degenerate) :
    p.lookup snapshot path max cancellable = .found [] := by
  rw [lookup, Path.parse, h]
  exact ite_self _

end

/-- What a lookup makes of the answer to its question: the members that go with what is typed if it
is a list that comes in time, and nothing of a failure or of what comes late. -/
structure Offers (typed : String) (max : Int) (looks : List Look)
    (result : Answer → Except Fault (List Candidate)) : Prop where
  inTime : Wait.InTime looks → ∀ es error,
    result (.values ⟨.ok, some (.many es), error⟩) = .ok (firstFitting typed max es)
  late : ¬ Wait.InTime looks → ∀ a, result a = .ok []
  silent : result .silent = .ok []
  raised : ∀ f, f.isOrdinary = true → result (.raised f) = .ok []
  unsuccessful : ∀ o, o.status ≠ .ok → result (.values o) = .ok []

theorem collect_offers (typed : String) (max : Int) (looks : List Look) :
    Offers typed max looks fun a ↦ collect typed max (Wait.await a looks) := by
  have hlate (a : Answer) (h : a.comes = true → ¬ Wait.InTime looks) :
      collect typed max (Wait.await a looks) = .ok [] := by
    obtain h | h := Wait.await_of_late h <;> rw [h] <;> rfl
  have hcases (a : Answer) (ha : a.comes = true → collect typed max (.answered a) = .ok []) :
      collect typed max (Wait.await a looks) = .ok [] := by
    by_cases h : a.comes = true ∧ Wait.InTime looks
    · rw [Wait.await_of_inTime h.1 h.2, ha h.1]
    · exact hlate a fun hcomes hin ↦ h ⟨hcomes, hin⟩
  refine ⟨fun h es error ↦ ?_, fun h a ↦ hlate a fun _ ↦ h, hlate _ nofun, fun f hf ↦ ?_,
    fun o ho ↦ ?_⟩
  · rw [Wait.await_of_inTime rfl h, collect, named_eq]
    simp [firstFitting]
  · exact hcases _ fun _ ↦ if_pos hf
  · refine hcases _ fun _ ↦ ?_
    obtain ⟨status, value, error⟩ := o
    cases status with
    | ok => exact absurd rfl ho
    | _ => rfl

theorem members_composed {m : Type → Type} [Monad m] {P : {α : Type} → m α → Prop}
    (hP : Composed m P) {ask : Call → m Answer} (hask : ∀ c, P (ask c)) (p : Provider)
    (snapshot : Snapshot) (path : Option String) (max : Int) (cancellable : Bool) (w : Wait) :
    P (p.members snapshot ask path max cancellable w) := by
  have hwait (c : Call) : P (w.run p.closed (ask c)) := by
    rw [Wait.run]
    split
    · exact hP.pure _
    split
    · exact hP.pure _
    split
    · exact hP.bind (hask c) fun _ ↦ hP.pure _
    · exact hP.pure _
  rw [members]
  split
  · exact hP.pure _
  · exact hP.bind (hwait _) fun _ ↦ hP.pure _

theorem members_nested {m : Type → Type} [Monad m] [LawfulMonad m] {p : Provider}
    (hopen : p.closed = false) {path base typed : String} {selector : Selector}
    (hscope : scopeOf path.toList = .nested base selector typed) {max : Int} (hmax : 0 < max)
    {w : Wait} (hc : w.cancelled = false) (ht : w.taken = true) (snapshot : Snapshot)
    (ask : Call → m Answer) (cancellable : Bool) :
    p.members snapshot ask (some path) max cancellable w =
      (fun a ↦ collect typed max (Wait.await a w.looks)) <$>
        ask (.children (p.request base cancellable)) := by
  rw [members, lookup, if_neg (by omega), Path.parse, Option.getD_some, hscope]
  dsimp only
  rw [hopen, Wait.run_of_taken hc ht, bind_pure_comp, Functor.map_map]

/-- The members of a path. Where nothing is asked the result is there at once: it is the first
variables that are not hidden for a path without a selector, and nothing for a path with no base.
Any other path takes one question, unless the caller has cancelled before. -/
theorem members_eq {m : Type → Type} [Monad m] [LawfulMonad m] {p : Provider}
    (hopen : p.closed = false) (snapshot : Snapshot) (ask : Call → m Answer)
    (path : Option String) (max : Int) (cancellable : Bool) (w : Wait) :
    (max ≤ 0 → p.members snapshot ask path max cancellable w = pure (.ok [])) ∧
    (0 < max → ∃ scope, Reads (path.getD "").toList scope ∧ match scope with
      | .degenerate => p.members snapshot ask path max cancellable w = pure (.ok [])
      | .global _ => p.members snapshot ask path max cancellable w =
          pure (.ok (((snapshot.entries.filter (!·.isHidden)).take max.toNat).map fun d ↦
            { displayName := d.name, kind := d.kind }))
      | .nested base _ typed =>
        if w.cancelled || !w.taken then
          p.members snapshot ask path max cancellable w = pure (.ok [])
        else ∃ result, Offers typed max w.looks result ∧
          p.members snapshot ask path max cancellable w = result <$> ask (.children
            ⟨globalEnvironment, base, [.accessorKind, .hasChildren], none, some p.maxResults,
              some p.waitTimeout, cancellable⟩)) := by
  refine ⟨fun hmax ↦ ?_, fun hmax ↦ ⟨scopeOf (path.getD "").toList, reads_scopeOf _, ?_⟩⟩
  · rw [members, lookup, if_pos hmax]
  rw [members, lookup, if_neg (by omega), Path.parse]
  dsimp only
  cases scopeOf (path.getD "").toList with
  | degenerate => rfl
  | global typed =>
    dsimp only
    rw [names_eq]
    simp
  | nested base selector typed =>
    have hoffers := collect_offers typed max w.looks
    dsimp only
    rw [hopen]
    cases hc : w.cancelled with
    | true => simp [Wait.run, hc, collect]
    | false =>
      cases ht : w.taken with
      | false => simp [Wait.run, hc, ht, hoffers.silent]
      | true =>
        rw [if_neg (by simp), Wait.run_of_taken hc ht, bind_pure_comp, Functor.map_map]
        exact ⟨_, hoffers, rfl⟩

/-- A session that counts the questions and answers each with the members of a frame. -/
def frameSession (_ : Call) : StateM Nat Answer := fun count ↦
  (.values (.success (.many [
    .given { name := "$col", accessorKind := .dollar }, .foreign "int",
    .given { name := "[[0]]", accessorKind := .positional },
    .given { name := "$row", accessorKind := .dollar },
    .given { name := "@cost", accessorKind := .at }])), count + 1)

/-- It is asked once; what is no member or goes by another name is left out. -/
theorem members_frame : (Provider.members {} {} frameSession (some "df$co") 5 false {}).run 0 =
    (.ok [{ displayName := "col" }, { displayName := "cost" }], 1) := by
  obtain ⟨-, h⟩ := members_eq (p := {}) rfl {} frameSession (some "df$co") 5 false {}
  obtain ⟨scope, hreads, h⟩ := h (by decide)
  have hscope : scopeOf "df$co".toList = .nested "df" .byName "co" := by decide
  rw [← hreads.unique] at h
  simp only [Option.getD_some, hscope] at h
  obtain ⟨result, hoffers, hmembers⟩ := h
  rw [hmembers]
  show (result _, 1) = _
  rw [Outcome.success, hoffers.inTime (.now rfl)]
  exact congrArg (Except.ok · , 1) (by decide)

end Provider

end VariableExplorer
