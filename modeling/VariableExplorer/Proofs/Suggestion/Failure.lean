import Mathlib.Tactic.SplitIfs
import VariableExplorer.Proofs.Suggestion.Members

/-!
When the lookup of members gives no list. It has to ask, and the provider is closed, or the answer
that comes in time is a success with a value that has no elements, or the session raises what stops
a program.
-/

namespace VariableExplorer

namespace Provider

open Navigation

def elementType : Element ValueInfo → String
  | .given _ => "ValueInfo"
  | .foreign typeName => typeName

/-- An answer that no list can be made of. -/
inductive Spoils : Answer → Fault → Prop
  | one (e : Element ValueInfo) (error : Option String) :
      Spoils (.values ⟨.ok, some (.one e), error⟩) (.notIterable (elementType e))
  | stop {f : VariableExplorer.Fault} : f.isOrdinary = false → Spoils (.raised f) (.raised f)

variable {a : Answer} {typed : String} {max : Int} {looks : List Look} {f : Fault}

theorem Spoils.comes (h : Spoils a f) : a.comes = true := by
  cases h <;> rfl

theorem collect_of_spoils (h : Spoils a f) : collect typed max (.answered a) = .error f := by
  cases h with
  | one e error => cases e <;> rfl
  | stop hf => exact if_neg (by rw [hf]; exact Bool.false_ne_true)

theorem spoils_of_collect (h : collect typed max (.answered a) = .error f) : Spoils a f := by
  unfold collect at h
  split at h
  · contradiction
  next g heq =>
    cases heq
    split at h
    · cases h
    next hg =>
      cases h
      exact .stop (Bool.not_eq_true _ ▸ hg)
  · cases h
  next heq =>
    cases heq
    cases h
    exact .one _ _
  next heq =>
    cases heq
    cases h
    exact .one _ _
  · cases h

theorem collect_await_eq_error_iff :
    collect typed max (Wait.await a looks) = .error f ↔ Wait.InTime looks ∧ Spoils a f := by
  by_cases h : a.comes = true ∧ Wait.InTime looks
  · rw [Wait.await_of_inTime h.1 h.2]
    exact ⟨fun hf ↦ ⟨h.2, spoils_of_collect hf⟩, fun hf ↦ collect_of_spoils hf.2⟩
  · have hlate : a.comes = true → ¬ Wait.InTime looks := fun hcomes hin ↦ h ⟨hcomes, hin⟩
    have hempty : collect typed max (Wait.await a looks) = .ok [] := by
      obtain h | h := Wait.await_of_late hlate <;> rw [h] <;> rfl
    rw [hempty]
    exact ⟨nofun, fun ⟨hin, hspoils⟩ ↦ absurd hin (hlate hspoils.comes)⟩

section

variable {σ : Type} {closed : Bool} {w : Wait} {call : StateM σ Answer} {s : σ}

/-- A wait that comes to no list, for a call that starts at a state `s`. -/
def Strands (closed : Bool) (w : Wait) (call : StateM σ Answer) (s : σ) (f : Fault) : Prop :=
  w.cancelled = false ∧ (closed = true ∧ f = .closed ∨
    closed = false ∧ w.taken = true ∧ Wait.InTime w.looks ∧ Spoils (call.run s).1 f)

theorem fst_run : ((w.run closed call).run s).1 =
    if w.cancelled then .cancelled else if closed then .refused
    else Wait.await (if w.taken then (call.run s).1 else .silent) w.looks := by
  unfold Wait.run
  split_ifs <;> rfl

theorem collect_run_eq_error_iff :
    collect typed max ((w.run closed call).run s).1 = .error f ↔ Strands closed w call s f := by
  rw [fst_run, Strands]
  split_ifs with hc hclosed ht
  · simp [collect, hc]
  · simp [collect, hc, hclosed, eq_comm (a := f)]
  · simp [collect_await_eq_error_iff, hc, hclosed, ht]
  · have hsilent : ¬ Spoils .silent f := fun h ↦ by cases h
    simp [collect_await_eq_error_iff, hc, hclosed, ht, hsilent]

end

/-- Looking up members gives a list at all times but for these: it has to ask for a positive number
of them behind an expression, nobody has cancelled before, and either the provider is closed or the
answer in time is one that no list can be made of. -/
theorem members_eq_error_iff {σ : Type} (p : Provider) (snapshot : Snapshot)
    (ask : Call → StateM σ Answer) (path : Option String) (max : Int) (cancellable : Bool)
    (w : Wait) (s : σ) (f : Fault) :
    ((p.members snapshot ask path max cancellable w).run s).1 = .error f ↔
      0 < max ∧ ∃ base selector typed, Reads (path.getD "").toList (.nested base selector typed) ∧
        Strands p.closed w (ask (.children (p.request base cancellable))) s f := by
  by_cases hmax : max ≤ 0
  · rw [members, lookup, if_pos hmax]
    constructor
    · intro h
      cases h
    · rintro ⟨hpositive, -⟩
      omega
  have hreads {scope : Scope} : Reads (path.getD "").toList scope ↔
      scope = scopeOf (path.getD "").toList :=
    ⟨fun h ↦ h.unique.symm, fun h ↦ h ▸ reads_scopeOf _⟩
  rw [members, lookup, if_neg hmax, Path.parse]
  dsimp only
  simp only [hreads]
  cases scopeOf (path.getD "").toList with
  | nested base selector typed =>
    refine collect_run_eq_error_iff.trans ⟨fun h ↦ ⟨by omega, _, _, _, rfl, h⟩, ?_⟩
    rintro ⟨-, _, _, _, heq, h⟩
    cases heq
    exact h
  | _ =>
    constructor
    · intro h
      cases h
    · rintro ⟨-, base, selector, typed, heq, -⟩
      cases heq

end Provider

end VariableExplorer
