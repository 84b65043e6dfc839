import VariableExplorer.Proofs.Replica.Place
import VariableExplorer.Proofs.Running

/-!
Computations that use a replica are runs of it: whatever a session does in the middle of a call and
a listener while it is told, a refresh that is carried out moves the replica as its steps allow.
-/

namespace VariableExplorer.Replica

open Refresh Function

variable {ι σ α β : Type}

/-- The replica in a state is what computations get and set. -/
structure Carries [MonadStateOf (Replica ι) (StateM σ)] (view : σ → Replica ι) : Prop where
  get : ∀ s, (getThe (Replica ι) : StateM σ (Replica ι)).run s = pure (view s, s)
  set : ∀ s m, view ((set m : StateM σ PUnit).run s).2 = m
  modify : ∀ s f, view ((modifyThe (Replica ι) f : StateM σ PUnit).run s).2 = f (view s)

section

variable [MonadStateOf (Replica ι) (StateM σ)] {view : σ → Replica ι} (hview : Carries view)
  (ask : Call → StateM σ Answer) (tell : Snapshot → ι → StateM σ Unit) {s : σ}

include hview

theorem run_of_none {s₁ : σ} (hb : (Refresh.build ask (view s).timeout).run s = pure (none, s₁)) :
    (Replica.run ask tell).run s =
      (false, ((modifyThe (Replica ι) (·.settle none) : StateM σ PUnit).run s₁).2) := by
  simp only [Replica.run, StateT.run_bind, hview.get, hb, pure_bind]
  rfl

theorem run_of_some {s₁ s₂ : σ} {x : Snapshot}
    (hb : (Refresh.build ask (view s).timeout).run s = pure (some x, s₁))
    (hs₂ : s₂ = ((modifyThe (Replica ι) (·.settle (some x)) : StateM σ PUnit).run s₁).2) :
    (Replica.run ask tell).run s = (true, (((view s₂).listeners.forM (tell x)).run s₂).2) := by
  simp only [Replica.run, StateT.run_bind, hview.get, hb, pure_bind, hs₂]
  rfl

theorem refresh_of_busy (hb : (view s).busy = true) :
    (Replica.refresh ask tell).run s = (false, s) := by
  simp only [Replica.refresh, StateT.run_bind, hview.get, pure_bind, begin?_eq_none.mpr hb]
  rfl

theorem refresh_of_free (hb : (view s).busy = false) :
    (Replica.refresh ask tell).run s = (Replica.run ask tell).run
      ((set { view s with busy := true } : StateM σ PUnit).run s).2 := by
  simp only [Replica.refresh, StateT.run_bind, hview.get, pure_bind,
    begin?_eq_some.mpr ⟨hb, rfl⟩]
  rfl

theorem refreshApart_of_busy (start : StateM σ Bool → StateM σ (Option α))
    (hb : (view s).busy = true) : (refreshApart ask tell start).run s = (.dropped, s) := by
  simp only [refreshApart, StateT.run_bind, hview.get, pure_bind, begin?_eq_none.mpr hb]
  rfl

theorem refreshApart_of_some (hb : (view s).busy = false) :
    ((refreshApart ask tell fun refresh ↦ some <$> refresh).run s).2 =
      ((Replica.run ask tell).run ((set { view s with busy := true } : StateM σ PUnit).run s).2).2 := by
  simp only [refreshApart, StateT.run_bind, hview.get, pure_bind, begin?_eq_some.mpr ⟨hb, rfl⟩]
  rfl

theorem refreshApart_of_none (hb : (view s).busy = false) :
    view ((refreshApart (α := α) ask tell fun _ ↦ return none).run s).2 =
      settle { view s with busy := true } none := by
  simp only [refreshApart, StateT.run_bind, hview.get, pure_bind, begin?_eq_some.mpr ⟨hb, rfl⟩]
  exact (hview.modify _ (·.settle none)).trans (congrArg (·.settle none) (hview.set s _))

end

/-- Threads without end are idle. -/
def Spare (w : Interplay ι) : Prop := ∃ k, ∀ u, k ≤ u → w.threads u = []

theorem spare_update {threads : Nat → List (Activity ι)} (h : ∃ k, ∀ u, k ≤ u → threads u = [])
    {w : Interplay ι} {t : Nat} {as : List (Activity ι)} (hw : w.threads = update threads t as) :
    Spare w := by
  obtain ⟨k, hk⟩ := h
  refine ⟨max k (t + 1), fun u hu ↦ ?_⟩
  rw [hw, update_of_ne (by omega)]
  exact hk u (by omega)

variable [BEq ι]

/-- What a computation does to the replica from a state on, a thread does in a run. -/
def ConductedFrom (view : σ → Replica ι) (s : σ) (x : StateM σ α) : Prop :=
  ∀ (w : Interplay ι) (t : Nat), w.replica = view s → CanAct (w.threads t) → Spare w →
    ∃ w', Interplay.Run w w' ∧ w'.replica = view (x.run s).2 ∧ w'.threads = w.threads

/-- A computation that a thread can carry out. -/
def Conducted (view : σ → Replica ι) (x : StateM σ α) : Prop := ∀ s, ConductedFrom view s x

namespace ConductedFrom

variable {view : σ → Replica ι} {s : σ}

theorem of_view {x : StateM σ α} (h : view (x.run s).2 = view s) : ConductedFrom view s x :=
  fun w _ hw _ _ ↦ ⟨w, .refl, hw.trans h.symm, rfl⟩

theorem of_listen {x : StateM σ α} {l : ι} (h : view (x.run s).2 = (view s).listen l) :
    ConductedFrom view s x :=
  fun _ t hw ht _ ↦ ⟨_, .single (.listen t l ht), (congrArg (·.listen l) hw).trans h.symm, rfl⟩

theorem of_unlisten {x : StateM σ α} {l : ι} (h : view (x.run s).2 = (view s).unlisten l) :
    ConductedFrom view s x :=
  fun _ t hw ht _ ↦ ⟨_, .single (.unlisten t l ht), (congrArg (·.unlisten l) hw).trans h.symm, rfl⟩

theorem bind {x : StateM σ α} {f : α → StateM σ β} (hx : ConductedFrom view s x)
    (hf : ConductedFrom view (x.run s).2 (f (x.run s).1)) : ConductedFrom view s (x >>= f) := by
  intro w t hw ht hspare
  obtain ⟨w₁, hrun₁, hw₁, ht₁⟩ := hx w t hw ht hspare
  obtain ⟨w₂, hrun₂, hw₂, ht₂⟩ := hf w₁ t hw₁ (ht₁ ▸ ht)
    (hspare.imp fun k hk ↦ by simpa only [ht₁] using hk)
  exact ⟨w₂, hrun₁.trans hrun₂, hw₂, ht₂.trans ht₁⟩

end ConductedFrom

namespace Conducted

variable {view : σ → Replica ι}

theorem of_view {x : StateM σ α} (h : ∀ s, view (x.run s).2 = view s) : Conducted view x :=
  fun s ↦ .of_view (h s)

theorem pure (a : α) : Conducted view (Pure.pure a : StateM σ α) := of_view fun _ ↦ rfl

theorem bind {x : StateM σ α} {f : α → StateM σ β} (hx : Conducted view x)
    (hf : ∀ a, Conducted view (f a)) : Conducted view (x >>= f) :=
  fun s ↦ (hx s).bind (hf _ _)

theorem composed : Composed (StateM σ) (Conducted view) := ⟨pure, bind⟩

theorem forM {f : β → StateM σ PUnit} (hf : ∀ b, Conducted view (f b)) (bs : List β) :
    Conducted view (bs.forM f) := composed.forM fun b _ ↦ hf b

end Conducted

namespace Interplay

variable {view : σ → Replica ι}

/-- How far a refresh on a thread has got, when its computation is at this point. -/
def Stands (view : σ → Replica ι) (threads : Nat → List (Activity ι)) (t n : Nat)
    (rest : List (Activity ι)) (s : σ) (w : Interplay ι) : Progress → Prop
  | .asking q => w.replica = view s ∧ w.threads = update threads t (.asking n q :: rest)
  | .done none => w.replica = (view s).settle none ∧ w.threads = update threads t rest
  | .done (some x) => w.replica = (view s).settle (some x) ∧
      w.threads = update threads t (.announcing n x :: rest)

variable {threads : Nat → List (Activity ι)} {t n : Nat} {rest : List (Activity ι)}

theorem Stands.advance {ask : Call → StateM σ Answer} (hask : ∀ c, Conducted view (ask c))
    (timeout : Option Seconds) (hspare : ∃ k, ∀ u, k ≤ u → threads u = []) {s : σ}
    {w : Interplay ι} {p : Progress} (h : Stands view threads t n rest s w p) :
    ∃ w', Run w w' ∧ Stands view threads t n rest ((p.advance ask timeout).run s).2 w'
      ((p.advance ask timeout).run s).1 := by
  cases p with
  | done found => exact ⟨w, .refl, h⟩
  | asking q =>
    obtain ⟨hw, ht⟩ := h
    obtain ⟨w₁, hrun, hw₁, ht₁⟩ := hask (q.call timeout) s w t hw
      (by rw [ht, update_self]; trivial) (spare_update hspare ht)
    have htop : w₁.threads t = .asking n q :: rest := by rw [ht₁, ht, update_self]
    refine ⟨_, hrun.tail (.answer ((ask (q.call timeout)).run s).1 htop), ?_⟩
    have hthreads (as : List (Activity ι)) : update w₁.threads t as = update threads t as := by
      rw [ht₁, ht, update_idem]
    simp only [answer]
    show Stands view threads t n rest ((ask (q.call timeout)).run s).2 _
      (q.next ((ask (q.call timeout)).run s).1)
    split
    next s' hn => rw [hn]; exact ⟨hw₁, hthreads _⟩
    next hn => rw [hn]; exact ⟨congrArg (·.settle none) hw₁, hthreads _⟩
    next x hn => rw [hn]; exact ⟨congrArg (·.settle (some x)) hw₁, hthreads _⟩

/-- How many questions a refresh asks at most from here on. -/
def questionsLeft : Progress → Nat
  | .asking .liveness => 4
  | .asking .frames => 3
  | .asking (.environment _) => 2
  | .asking (.children _ _) => 1
  | .done _ => 0

theorem questionsLeft_next (q : Stage) (a : Answer) :
    questionsLeft (q.next a) < questionsLeft (.asking q) := by
  unfold Stage.next
  split
  · decide
  · split <;> simp [questionsLeft]
  all_goals simp [questionsLeft]
  cases q <;> simp

theorem questionsLeft_advance (ask : Call → StateM σ Answer) (timeout : Option Seconds)
    (p : Progress) (s : σ) :
    questionsLeft ((p.advance ask timeout).run s).1 ≤ questionsLeft p - 1 := by
  cases p with
  | done found => exact Nat.le_refl 0
  | asking q => exact Nat.le_sub_one_of_lt (questionsLeft_next q _)

theorem Stands.build {ask : Call → StateM σ Answer} (hask : ∀ c, Conducted view (ask c))
    (timeout : Option Seconds) (hspare : ∃ k, ∀ u, k ≤ u → threads u = []) {s : σ}
    {w : Interplay ι} (h : Stands view threads t n rest s w (.asking .liveness)) :
    ∃ w', Run w w' ∧ Stands view threads t n rest ((build ask timeout).run s).2 w'
      (.done ((build ask timeout).run s).1) := by
  have hleft := questionsLeft_advance ask timeout
  have hend : ∀ {p : Progress}, questionsLeft p = 0 → ∃ found, p = .done found := by
    intro p hp
    cases p with
    | done found => exact ⟨found, rfl⟩
    | asking q => cases q <;> simp [questionsLeft] at hp
  let r₁ := (Progress.advance ask timeout (.asking .liveness)).run s
  let r₂ := (r₁.1.advance ask timeout).run r₁.2
  let r₃ := (r₂.1.advance ask timeout).run r₂.2
  let r₄ := (r₃.1.advance ask timeout).run r₃.2
  obtain ⟨w₁, hrun₁, h₁⟩ := h.advance hask timeout hspare
  obtain ⟨w₂, hrun₂, h₂⟩ := Stands.advance (s := r₁.2) (p := r₁.1) hask timeout hspare h₁
  obtain ⟨w₃, hrun₃, h₃⟩ := Stands.advance (s := r₂.2) (p := r₂.1) hask timeout hspare h₂
  obtain ⟨w₄, hrun₄, h₄⟩ := Stands.advance (s := r₃.2) (p := r₃.1) hask timeout hspare h₃
  have hnone : questionsLeft r₄.1 = 0 := by
    have h₁ : questionsLeft r₁.1 ≤ 3 := hleft (.asking .liveness) s
    have h₂ : questionsLeft r₂.1 ≤ questionsLeft r₁.1 - 1 := hleft r₁.1 r₁.2
    have h₃ : questionsLeft r₃.1 ≤ questionsLeft r₂.1 - 1 := hleft r₂.1 r₂.2
    have h₄ : questionsLeft r₄.1 ≤ questionsLeft r₃.1 - 1 := hleft r₃.1 r₃.2
    omega
  obtain ⟨found, hfound⟩ := hend hnone
  have hbuild : (Refresh.build ask timeout).run s = (r₄.1.found, r₄.2) := rfl
  rw [hbuild, hfound]
  change Stands view threads t n rest r₄.2 w₄ r₄.1 at h₄
  rw [hfound] at h₄
  exact ⟨w₄, hrun₁.trans (hrun₂.trans (hrun₃.trans hrun₄)), h₄⟩

theorem tell_run (rest : List (Activity ι)) {tell : ι → StateM σ Unit}
    (htell : ∀ l, Conducted view (tell l)) (x : Snapshot)
    (hspare : ∃ k, ∀ u, k ≤ u → threads u = []) (ls : List ι) {s : σ} {w : Interplay ι}
    (hw : w.replica = view s) (ht : ∃ as, w.threads = update threads t as) :
    ∃ w', Run (w.tell t n x rest ls) w' ∧ w'.replica = view ((ls.forM tell).run s).2 ∧
      w'.threads = update threads t rest := by
  obtain ⟨as, ht⟩ := ht
  induction ls generalizing s w as with
  | nil => exact ⟨_, .refl, hw, by simp only [Interplay.tell, ht, update_idem]⟩
  | cons l ls ih =>
    have ht₁ : (w.tell t n x rest (l :: ls)).threads =
        update threads t (.telling n x ls :: rest) := by
      simp only [Interplay.tell, ht, update_idem]
    obtain ⟨w₁, hrun₁, hw₁, hthreads₁⟩ := htell l s (w.tell t n x rest (l :: ls)) t hw
      (by rw [ht₁, update_self]; trivial) (spare_update hspare ht₁)
    have htop : w₁.threads t = .telling n x ls :: rest := by rw [hthreads₁, ht₁, update_self]
    obtain ⟨w₂, hrun₂, hw₂, hthreads₂⟩ := ih hw₁ _ (hthreads₁.trans ht₁)
    exact ⟨w₂, (hrun₁.tail (.tell htop)).trans hrun₂, hw₂, hthreads₂⟩

/-- The refresh of a thread that has taken the place. -/
theorem run_run [MonadStateOf (Replica ι) (StateM σ)] (hview : Carries view)
    {ask : Call → StateM σ Answer} {tell : Snapshot → ι → StateM σ Unit}
    (hask : ∀ c, Conducted view (ask c)) (htell : ∀ x l, Conducted view (tell x l))
    (hspare : ∃ k, ∀ u, k ≤ u → threads u = []) {s : σ} {w : Interplay ι}
    (hw : w.replica = view s) (ht : w.threads = update threads t (.asking n .liveness :: rest)) :
    ∃ w', Run w w' ∧ w'.replica = view ((Replica.run ask tell).run s).2 ∧
      w'.threads = update threads t rest := by
  obtain ⟨w₁, hrun₁, h₁⟩ := Stands.build (s := s) hask (view s).timeout hspare ⟨hw, ht⟩
  rcases hb : (Refresh.build ask (view s).timeout).run s with ⟨found, s₁⟩
  rw [hb] at h₁
  cases found with
  | none =>
    rw [run_of_none hview ask tell hb]
    exact ⟨w₁, hrun₁, h₁.1.trans (hview.modify s₁ (·.settle none)).symm, h₁.2⟩
  | some x =>
    obtain ⟨s₂, hs₂⟩ : ∃ s₂, s₂ =
        ((modifyThe (Replica ι) (·.settle (some x)) : StateM σ PUnit).run s₁).2 := ⟨_, rfl⟩
    have hview₂ : view s₂ = (view s₁).settle (some x) := hs₂ ▸ hview.modify s₁ _
    rw [run_of_some hview ask tell hb hs₂]
    obtain ⟨hw₁, ht₁⟩ := h₁
    have htop : w₁.threads t = .announcing n x :: rest := by rw [ht₁, update_self]
    have htold := tell_run (n := n) rest (htell x) x hspare (view s₂).listeners
      (w := { w₁ with log := .announced n w₁.replica.listeners :: w₁.log })
      (hw₁.trans hview₂.symm) ⟨_, ht₁⟩
    rw [← hview₂] at hw₁
    rw [← hw₁] at htold ⊢
    obtain ⟨w₂, hrun₂, hw₂, ht₂⟩ := htold
    exact ⟨w₂, (hrun₁.tail (.announce htop)).trans hrun₂, hw₂, ht₂⟩

end Interplay

namespace Conducted

variable [MonadStateOf (Replica ι) (StateM σ)] {view : σ → Replica ι} {ask : Call → StateM σ Answer}
  {tell : Snapshot → ι → StateM σ Unit}

theorem refresh (hview : Carries view) (hask : ∀ c, Conducted view (ask c))
    (htell : ∀ x l, Conducted view (tell x l)) : Conducted view (Replica.refresh ask tell) := by
  intro s w t hw ht hspare
  cases hb : w.replica.busy with
  | true =>
    rw [refresh_of_busy hview ask tell (hw ▸ hb)]
    exact ⟨w, .refl, hw, rfl⟩
  | false =>
    have hreplica := Interplay.request_replica hb t false
    have hthreads := Interplay.request_threads hb t false
    rw [hw, ← hview.set s { view s with busy := true }] at hreplica
    obtain ⟨w', hrun', hw', hthreads'⟩ :=
      Interplay.run_run hview hask htell hspare hreplica hthreads
    rw [refresh_of_free hview ask tell (s := s) (hw ▸ hb)]
    exact ⟨w', hrun'.head (.request t false ht), hw', hthreads'.trans (update_eq_self ..)⟩

theorem refreshApart_started (hview : Carries view) (hask : ∀ c, Conducted view (ask c))
    (htell : ∀ x l, Conducted view (tell x l)) :
    Conducted view (refreshApart ask tell fun refresh ↦ some <$> refresh) := by
  intro s w t hw ht hspare
  cases hb : w.replica.busy with
  | true =>
    rw [refreshApart_of_busy hview ask tell _ (hw ▸ hb)]
    exact ⟨w, .refl, hw, rfl⟩
  | false =>
    obtain ⟨k, hk⟩ := id hspare
    let u := max k (t + 1)
    have hu : w.threads u = [] := hk u (by omega)
    have hreplica := Interplay.request_replica hb t true
    have hthreads := Interplay.request_threads hb t true
    rw [hw, ← hview.set s { view s with busy := true }] at hreplica
    have hstart := Interplay.Step.start (t := t) (u := u)
      (by rw [hthreads, update_self, if_pos rfl])
      (by rw [hthreads, update_of_ne (by omega)]; exact hu)
    have hstarted : ((w.request t true).start t u w.begun (w.threads t)).threads =
        update w.threads u [.asking w.begun .liveness] := by
      simp only [Interplay.start, hthreads, update_idem, update_eq_self]
    obtain ⟨w', hrun', hw', hthreads'⟩ :=
      Interplay.run_run (w := (w.request t true).start t u w.begun (w.threads t)) hview hask htell
        hspare hreplica hstarted
    rw [refreshApart_of_some hview ask tell (s := s) (hw ▸ hb)]
    refine ⟨w', (hrun'.head hstart).head (.request t true ht), hw', ?_⟩
    rw [hthreads', ← hu, update_eq_self]

theorem refreshApart_failed (hview : Carries view) :
    Conducted view (refreshApart (α := α) ask tell fun _ ↦ return none) := by
  intro s w t hw ht hspare
  cases hb : w.replica.busy with
  | true =>
    rw [refreshApart_of_busy hview ask tell _ (hw ▸ hb)]
    exact ⟨w, .refl, hw, rfl⟩
  | false =>
    have hreplica := Interplay.request_replica hb t true
    have hthreads := Interplay.request_threads hb t true
    have hfail := Interplay.Step.failStart (t := t) (by rw [hthreads, update_self, if_pos rfl])
    refine ⟨_, (Relation.ReflTransGen.single hfail).head (.request t true ht), ?_, ?_⟩
    · rw [refreshApart_of_none hview ask tell (s := s) (hw ▸ hb), Interplay.failStart, hreplica, hw]
    · simp only [Interplay.failStart, hthreads, update_idem, update_eq_self]

end Conducted

end VariableExplorer.Replica
