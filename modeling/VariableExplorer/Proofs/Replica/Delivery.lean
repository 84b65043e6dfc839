import VariableExplorer.Proofs.Replica.Latest

/-!
What listeners are told. Deliveries of one refresh may still be going on when another refresh comes
to pass: a listener that is yet to be told of the older snapshot is then told of it last.
-/

namespace VariableExplorer.Replica

open Refresh Function

variable {ι : Type}

/-- The snapshot that an activity is telling of, and its refresh. -/
def Activity.news? : Activity ι → Option (Nat × Snapshot)
  | .announcing n s | .telling n s _ => some (n, s)
  | _ => none

/-- The activity may yet tell the listener. -/
def Activity.Ahead (l : ι) : Activity ι → Prop
  | .announcing _ _ => True
  | .telling _ _ ls => l ∈ ls
  | _ => False

namespace Interplay

/-- What a listener was told last, and by which refresh. -/
def lastTold? [DecidableEq ι] (l : ι) : List (Event ι) → Option (Nat × Snapshot)
  | [] => none
  | .told n l' s :: log => if l' = l then some (n, s) else lastTold? l log
  | _ :: log => lastTold? l log

@[simp] theorem tell_begun (w : Interplay ι) (t n : Nat) (s : Snapshot) (rest : List (Activity ι))
    (ls : List ι) : (w.tell t n s rest ls).begun = w.begun := by
  cases ls <;> rfl

def numbers (w : Interplay ι) (t : Nat) : List Nat := (w.threads t).map Activity.number

/-- What one step does to the numbers of the refreshes that each thread is in the middle of. -/
inductive Renumbered (f f' : Nat → List Nat) (k : Nat) : Nat → Prop
  | same : f' = f → Renumbered f f' k k
  | begun (t : Nat) : f' = update f t (k :: f t) → Renumbered f f' k (k + 1)
  | ended (t n : Nat) (rest : List Nat) : f t = n :: rest → f' = update f t rest →
      Renumbered f f' k k
  | moved (t u n : Nat) (rest : List Nat) : f t = n :: rest → f u = [] →
      f' = update (update f t rest) u [n] → Renumbered f f' k k

theorem numbers_update {w w' : Interplay ι} {t : Nat} {as : List (Activity ι)}
    (h : w'.threads = update w.threads t as) :
    w'.numbers = update w.numbers t (as.map Activity.number) := by
  funext u
  by_cases hu : u = t
  · subst hu; simp only [numbers, h, update_self]
  · simp only [numbers, h, update_of_ne hu]

theorem numbers_of_top {w : Interplay ι} {t : Nat} {a : Activity ι} {rest : List (Activity ι)}
    (h : w.threads t = a :: rest) : w.numbers t = a.number :: rest.map Activity.number := by
  simp only [numbers, h, List.map_cons]

theorem Renumbered.turn {w w' : Interplay ι} {t k : Nat} {a : Activity ι} (b : Activity ι)
    {rest : List (Activity ι)} (ht : w.threads t = a :: rest)
    (hw' : w'.threads = update w.threads t (b :: rest)) (hb : b.number = a.number) :
    Renumbered w.numbers w'.numbers k k := by
  refine .same ((numbers_update hw').trans ?_)
  rw [List.map_cons, hb, ← numbers_of_top ht, update_eq_self]

theorem Renumbered.finish {w w' : Interplay ι} {t k : Nat} {a : Activity ι}
    {rest : List (Activity ι)} (ht : w.threads t = a :: rest)
    (hw' : w'.threads = update w.threads t rest) : Renumbered w.numbers w'.numbers k k :=
  .ended t a.number _ (numbers_of_top ht) (numbers_update hw')

theorem Renumbered.tell {w : Interplay ι} {t n k : Nat} {s : Snapshot} {ls : List ι}
    {a : Activity ι} {rest : List (Activity ι)} (ht : w.threads t = a :: rest)
    (ha : a.number = n) : Renumbered w.numbers (w.tell t n s rest ls).numbers k k := by
  cases ls with
  | nil => exact .finish ht rfl
  | cons l ls => exact .turn (.telling n s ls) ht rfl ha.symm

theorem Step.renumbered [BEq ι] {w w' : Interplay ι} (hs : Step w w') :
    Renumbered w.numbers w'.numbers w.begun w'.begun := by
  cases hs with
  | request t apart hact =>
    cases hb : w.replica.busy with
    | true => rw [request_of_busy hb]; exact .same rfl
    | false =>
      rw [request_of_free hb]
      refine .begun t ((numbers_update rfl).trans ?_)
      cases apart <;> rfl
  | @start t u n rest ht hu =>
    refine .moved t u n _ (numbers_of_top ht) (by simp [numbers, hu]) ?_
    let v : Interplay ι := { w with threads := update w.threads t rest }
    have hv : v.numbers = update w.numbers t (rest.map Activity.number) := numbers_update rfl
    rw [← hv]
    exact (numbers_update (w := v) rfl).trans rfl
  | failStart ht => exact .finish ht rfl
  | @answer t n s rest a ht =>
    rw [answer_begun]
    unfold Interplay.answer
    split
    next s' _ => exact .turn (.asking n s') ht rfl rfl
    next => exact .finish ht rfl
    next x _ => exact .turn (.announcing n x) ht rfl rfl
  | announce ht =>
    rw [Interplay.announce, tell_begun]
    exact Renumbered.tell (w := { w with log := _ :: w.log }) ht rfl
  | tell ht =>
    rw [tell_begun]
    exact .tell ht rfl
  | listen | unlisten => exact .same rfl

/-- Each refresh is in one place at most, and what began later is further in. -/
structure Apart (f : Nat → List Nat) (k : Nat) : Prop where
  below : ∀ t, ∀ n ∈ f t, n < k
  stacked : ∀ t, (f t).Pairwise (· > ·)
  apart : ∀ t u, t ≠ u → ∀ n ∈ f t, n ∉ f u

theorem Apart.update {f : Nat → List Nat} {k k' t : Nat} {ns : List Nat} (h : Apart f k)
    (hk : k ≤ k') (hbelow : ∀ n ∈ ns, n < k') (hstacked : ns.Pairwise (· > ·))
    (hapart : ∀ u ≠ t, ∀ n ∈ ns, n ∉ f u) : Apart (update f t ns) k' where
  below u n hn := by
    by_cases hu : u = t
    · subst hu
      exact hbelow n (by simpa only [update_self] using hn)
    · rw [update_of_ne hu] at hn
      exact Nat.lt_of_lt_of_le (h.below u n hn) hk
  stacked u := by
    by_cases hu : u = t
    · subst hu
      simpa only [update_self] using hstacked
    · rw [update_of_ne hu]
      exact h.stacked u
  apart u v huv n hn := by
    by_cases hu : u = t
    · subst hu
      rw [update_self] at hn
      rw [update_of_ne huv.symm]
      exact hapart v huv.symm n hn
    · rw [update_of_ne hu] at hn
      by_cases hv : v = t
      · subst hv
        rw [update_self]
        exact fun hn' ↦ hapart u hu n hn' hn
      · rw [update_of_ne hv]
        exact h.apart u v huv n hn

theorem Apart.step {f f' : Nat → List Nat} {k k' : Nat} (h : Apart f k)
    (hs : Renumbered f f' k k') : Apart f' k' := by
  -- A thread whose innermost number is taken away is still apart from the others.
  have hover {t n : Nat} {rest : List Nat} (ht : f t = n :: rest) :
      Apart (Function.update f t rest) k := by
    have hmem {m : Nat} (hm : m ∈ rest) : m ∈ f t := by simp [ht, hm]
    have hstacked := h.stacked t
    rw [ht] at hstacked
    exact h.update (Nat.le_refl k) (fun m hm ↦ h.below t m (hmem hm)) hstacked.of_cons
      fun u hu m hm ↦ h.apart t u hu.symm m (hmem hm)
  cases hs with
  | same hf => rwa [hf]
  | begun t hf =>
    rw [hf]
    refine h.update (Nat.le_succ k) ?_ ?_ ?_
    · exact List.forall_mem_cons.mpr
        ⟨Nat.lt_succ_self k, fun n hn ↦ Nat.lt_succ_of_lt (h.below t n hn)⟩
    · exact .cons (h.below t) (h.stacked t)
    · refine fun u hu ↦ List.forall_mem_cons.mpr ⟨fun hk ↦ ?_, h.apart t u hu.symm⟩
      exact Nat.lt_irrefl k (h.below u k hk)
  | ended t n rest ht hf =>
    rw [hf]
    exact hover ht
  | moved t u n rest ht hu hf =>
    -- The number goes to a thread that was idle, and nothing in its own is on it any more.
    rw [hf]
    have hstacked := h.stacked t
    rw [ht] at hstacked
    refine (hover ht).update (Nat.le_refl k) ?_ (List.pairwise_singleton _ _) ?_
    · simpa using h.below t n (by simp [ht])
    · intro v hv m hm
      cases List.mem_singleton.mp hm
      by_cases hvt : v = t
      · subst hvt
        rw [update_self]
        exact fun hn ↦ Nat.lt_irrefl n (List.rel_of_pairwise_cons hstacked hn)
      · rw [update_of_ne hvt]
        exact h.apart t v (Ne.symm hvt) n (by simp [ht])

theorem Apart.unique {w : Interplay ι} (h : Apart w.numbers w.begun) {t : Nat} {a : Activity ι}
    {rest : List (Activity ι)} (ht : w.threads t = a :: rest) :
    a.number ∉ rest.map Activity.number ∧ ∀ u ≠ t, a.number ∉ w.numbers u := by
  have hnumbers := numbers_of_top ht
  refine ⟨fun hn ↦ ?_, fun u hu ↦ h.apart t u hu.symm _ (by simp [hnumbers])⟩
  have hstacked := h.stacked t
  rw [hnumbers] at hstacked
  exact Nat.lt_irrefl _ (List.rel_of_pairwise_cons hstacked hn)

/-- Only the innermost activity of a thread keeps it from running other code. -/
def Open (f : Nat → List (Activity ι)) : Prop := ∀ t, ∀ b ∈ (f t).tail, CanAct [b]

theorem Open.update {f : Nat → List (Activity ι)} (h : Open f) (t : Nat) {as : List (Activity ι)}
    (has : ∀ b ∈ as.tail, CanAct [b]) : Open (update f t as) := by
  intro u
  by_cases hu : u = t
  · subst hu; simpa only [update_self] using has
  · simpa only [update_of_ne hu] using h u

theorem Open.rest {f : Nat → List (Activity ι)} (h : Open f) {t : Nat} {a : Activity ι}
    {rest : List (Activity ι)} (ht : f t = a :: rest) : ∀ b ∈ rest, CanAct [b] := by
  simpa only [ht, List.tail_cons] using h t

theorem Open.finish {f : Nat → List (Activity ι)} (h : Open f) {t : Nat} {a : Activity ι}
    {rest : List (Activity ι)} (ht : f t = a :: rest) : Open (Function.update f t rest) :=
  h.update t fun b hb ↦ h.rest ht b (List.mem_of_mem_tail hb)

theorem Open.turn {f : Nat → List (Activity ι)} (h : Open f) {t : Nat} {a : Activity ι}
    {rest : List (Activity ι)} (ht : f t = a :: rest) (b : Activity ι) :
    Open (Function.update f t (b :: rest)) := h.update t (h.rest ht)

theorem Open.tell {w : Interplay ι} (h : Open w.threads) {t : Nat} {a : Activity ι}
    {rest : List (Activity ι)} (ht : w.threads t = a :: rest) (n : Nat) (s : Snapshot)
    (ls : List ι) : Open (w.tell t n s rest ls).threads := by
  cases ls with
  | nil => exact h.finish ht
  | cons l ls => exact h.turn ht _

theorem Open.step [BEq ι] {w w' : Interplay ι} (h : Open w.threads) (hs : Step w w') :
    Open w'.threads := by
  cases hs with
  | request t apart hact =>
    cases hb : w.replica.busy with
    | true => rw [request_of_busy hb]; exact h
    | false =>
      rw [request_of_free hb]
      refine h.update t fun b hb ↦ ?_
      rw [List.tail_cons] at hb
      have ht := h t
      cases has : w.threads t with
      | nil => simp [has] at hb
      | cons a rest =>
        rw [has] at hb hact ht
        rcases List.mem_cons.mp hb with rfl | hb
        · cases b <;> exact hact
        · exact ht b hb
  | start ht hu => exact (h.finish ht).update _ (by simp)
  | failStart ht => exact h.finish ht
  | answer a ht =>
    unfold Interplay.answer
    split
    · exact h.turn ht _
    · exact h.finish ht
    · exact h.turn ht _
  | announce ht => exact Open.tell (w := { w with log := _ :: w.log }) h ht _ _ _
  | tell ht => exact h.tell ht _ _ _
  | listen | unlisten => exact h

/-- This is the snapshot of a refresh that has passed. -/
def News (w : Interplay ι) (n : Nat) (s : Snapshot) : Prop :=
  ∃ infos, w.Passed n infos ∧ s = .ofInfos infos

theorem Sound.passed_mono [BEq ι] {w w' : Interplay ι} (h : Sound w) (hs : Step w w') {n : Nat}
    {infos : List ValueInfo} (hn : w.Passed n infos) : w'.Passed n infos := by
  rcases step_turn h.place h.recorded hs with hkept | ⟨m, infos', hnew⟩
  · exact (hkept.2 n infos).mpr hn
  · have hm : n ≠ m := by
      rintro rfl
      exact hnew.before infos hn
    exact (hnew.others n hm infos).mpr hn

/-- What is told, and what is to be told, are snapshots of refreshes that have passed. -/
structure Truthful (w : Interplay ι) : Prop where
  telling : ∀ t, ∀ a ∈ w.threads t, ∀ n s, a.news? = some (n, s) → w.News n s
  told : ∀ n l s, .told n l s ∈ w.log → w.News n s

theorem Truthful.tell {w : Interplay ι} (h : Truthful w) {t n : Nat} {s : Snapshot} {ls : List ι}
    {a : Activity ι} {rest : List (Activity ι)} (ht : w.threads t = a :: rest)
    (ha : a.news? = some (n, s)) : Truthful (w.tell t n s rest ls) := by
  have hnews : w.News n s := h.telling t a (by simp [ht]) n s ha
  have hrest : ∀ b ∈ rest, ∀ n s, b.news? = some (n, s) → w.News n s :=
    fun b hb ↦ h.telling t b (by simp [ht, hb])
  cases ls with
  | nil =>
    refine ⟨forall_update h.telling hrest, fun m l x hm ↦ h.told m l x ?_⟩
    simpa [Interplay.tell] using hm
  | cons l ls =>
    refine ⟨forall_update h.telling (List.forall_mem_cons.mpr ⟨?_, hrest⟩), fun m l x hm ↦ ?_⟩
    · rintro m x hx
      cases hx
      exact hnews
    · rcases List.mem_cons.mp hm with hm | hm
      · cases hm
        exact hnews
      · exact h.told m l x hm

/-- A thread moves, and what is told then is no news of its own. -/
theorem Truthful.turn {w w' : Interplay ι} (h : Truthful w)
    (hmono : ∀ {n : Nat} {s : Snapshot}, w.News n s → w'.News n s) {t : Nat}
    (new : List (Activity ι)) {rest : List (Activity ι)} (hrest : rest ⊆ w.threads t)
    (hthreads : w'.threads = Function.update w.threads t (new ++ rest))
    (hnew : ∀ a ∈ new, ∀ n s, a.news? = some (n, s) → w'.News n s)
    (hlog : ∀ n l s, .told n l s ∈ w'.log → .told n l s ∈ w.log) : Truthful w' where
  telling := by
    rw [hthreads]
    exact forall_update (fun u a ha n s hn ↦ hmono (h.telling u a ha n s hn))
      (List.forall_mem_append.mpr
        ⟨hnew, fun a ha n s hn ↦ hmono (h.telling t a (hrest ha) n s hn)⟩)
  told n l s hn := hmono (h.told n l s (hlog n l s hn))

theorem Truthful.step [BEq ι] {w w' : Interplay ι} (h : Truthful w) (hsound : Sound w)
    (hs : Step w w') : Truthful w' := by
  -- What has passed stays passed, so only what the step adds is left to be accounted for.
  have hmono {n : Nat} {s : Snapshot} (hn : w.News n s) : w'.News n s :=
    hn.imp fun infos hi ↦ ⟨hsound.passed_mono hs hi.1, hi.2⟩
  cases hs with
  | request t apart hact =>
    cases hb : w.replica.busy with
    | true =>
      rw [request_of_busy hb] at hmono ⊢
      exact ⟨fun t a ha n s hn ↦ hmono (h.telling t a ha n s hn),
        fun n l s hn ↦ hmono (h.told n l s (by simpa using hn))⟩
    | false =>
      rw [request_of_free hb] at hmono ⊢
      refine h.turn hmono [_] (List.Subset.refl _) rfl ?_ ?_
      · cases apart <;> simp [Activity.news?]
      · cases apart <;> simp
  | @start t u n rest ht hu =>
    have hended : Truthful { w with threads := Function.update w.threads t rest } :=
      h.turn id [] (by simp [ht]) rfl (by simp) fun _ _ _ hn ↦ hn
    exact hended.turn hmono [.asking n .liveness] (List.nil_subset _) rfl
      (by simp [Activity.news?]) (by simp [Interplay.start])
  | failStart ht =>
    exact h.turn hmono [] (by simp [ht]) rfl (by simp) (by simp [Interplay.failStart])
  | @answer t n s rest a ht =>
    have hled := (hsound.recorded.asking t n s (by simp [ht])).answer t rest a
    cases hn : s.next a with
    | asking s' =>
      simp only [Interplay.answer, hn] at hmono ⊢
      exact h.turn hmono [.asking n s'] (by simp [ht]) rfl (by simp [Activity.news?]) (by simp)
    | done found =>
      cases found with
      | none =>
        simp only [Interplay.answer, hn] at hmono ⊢
        exact h.turn hmono [] (by simp [ht]) rfl (by simp) (by simp)
      | some x =>
        rw [hn] at hled
        have hnews : (w.answer t n s rest a).News n x := hled.found_iff.mp rfl
        simp only [Interplay.answer, hn] at hmono hnews ⊢
        refine h.turn hmono [.announcing n x] (by simp [ht]) rfl ?_ (by simp)
        rintro b hb m y hy
        cases List.mem_singleton.mp hb
        cases hy
        exact hnews
  | @announce t n s rest ht =>
    have hlog : Truthful { w with log := .announced n w.replica.listeners :: w.log } :=
      ⟨h.telling, fun n l s hn ↦ h.told n l s (by simpa using hn)⟩
    exact hlog.tell ht rfl
  | tell ht => exact h.tell ht rfl
  | listen | unlisten =>
    exact ⟨fun t a ha n s hn ↦ hmono (h.telling t a ha n s hn),
      fun n l s hn ↦ hmono (h.told n l s hn)⟩

structure Delivering (w : Interplay ι) : Prop where
  sound : Sound w
  apart : Apart w.numbers w.begun
  opened : Open w.threads
  truthful : Truthful w

namespace Delivering

variable {w w' : Interplay ι}

theorem init {timeout : Option Seconds} :
    Delivering (ι := ι) { replica := { timeout := timeout } } where
  sound := .init
  apart := ⟨fun _ _ h ↦ by simp [numbers] at h, fun _ ↦ .nil, fun _ _ _ _ h ↦ by simp [numbers] at h⟩
  opened _ _ h := by simp at h
  truthful := ⟨fun _ _ h ↦ by simp at h, fun _ _ _ h ↦ by simp at h⟩

theorem step [BEq ι] (h : Delivering w) (hs : Step w w') : Delivering w' :=
  ⟨h.sound.step hs, h.apart.step hs.renumbered, h.opened.step hs, h.truthful.step h.sound hs⟩

theorem run [BEq ι] (h : Delivering w) (hrun : Run w w') : Delivering w' := by
  induction hrun with
  | refl => exact h
  | tail _ hs ih => exact ih.step hs

theorem news_run [BEq ι] (h : Delivering w) (hrun : Run w w') {n : Nat} {s : Snapshot}
    (hn : w.News n s) : w'.News n s := by
  induction hrun with
  | refl => exact hn
  | tail hrun hs ih => exact ih.imp fun _ hi ↦ ⟨(h.run hrun).sound.passed_mono hs hi.1, hi.2⟩

end Delivering

theorem Reachable.delivering [BEq ι] {w : Interplay ι} (h : Reachable w) : Delivering w := by
  obtain ⟨timeout, hrun⟩ := h
  exact Delivering.init.run hrun

end Interplay

end VariableExplorer.Replica
