import VariableExplorer.Proofs.Replica.Interplay

/-!
The place of the refresh under way: at every moment it is free, or one activity of one thread keeps
it. Whatever else is under way belongs to refreshes that gave it up earlier.
-/

namespace VariableExplorer.Replica.Interplay

open Refresh Function

variable {ι : Type}

/-- Activities of refreshes before the `k`-th, which keep no place. -/
def Past (k : Nat) (as : List (Activity ι)) : Prop := ∀ a ∈ as, ¬ a.holds ∧ a.number < k

theorem Past.mono {k k' : Nat} {as : List (Activity ι)} (h : Past k as) (hk : k ≤ k') : Past k' as :=
  fun a ha ↦ ⟨(h a ha).1, Nat.lt_of_lt_of_le (h a ha).2 hk⟩

theorem past_update {k : Nat} {threads : Nat → List (Activity ι)} {t u : Nat}
    {as : List (Activity ι)} (h : u ≠ t → Past k (threads u)) (ha : Past k as) :
    Past k (update threads t as u) := by
  by_cases hu : u = t
  · subst hu; simpa only [update_self] using ha
  · simpa only [update_of_ne hu] using h hu

/-- Only refreshes before the `k`-th are over. -/
def EndedBefore (k : Nat) (log : List (Event ι)) : Prop := ∀ n b, .ended n b ∈ log → n < k

theorem EndedBefore.cons {k : Nat} {log : List (Event ι)} {e : Event ι} (h : EndedBefore k log)
    (he : ∀ n b, e = .ended n b → n < k) : EndedBefore k (e :: log) := by
  intro n b hn
  rcases List.mem_cons.mp hn with hn | hn
  · exact he n b hn.symm
  · exact h n b hn

inductive Place (w : Interplay ι) : Prop
  | free : w.replica.busy = false → (∀ t, Past w.begun (w.threads t)) →
      EndedBefore w.begun w.log → Place w
  | taken (t : Nat) (a : Activity ι) (rest : List (Activity ι)) : w.replica.busy = true →
      w.threads t = a :: rest → a.holds → a.number + 1 = w.begun → Past a.number rest →
      (∀ u ≠ t, Past a.number (w.threads u)) → EndedBefore a.number w.log → Place w

theorem request_of_busy {w : Interplay ι} (h : w.replica.busy = true) (t : Nat) (apart : Bool) :
    w.request t apart = { w with log := .refused :: w.log } := by
  simp only [request, begin?_eq_none.mpr h]

theorem request_of_free {w : Interplay ι} (h : w.replica.busy = false) (t : Nat) (apart : Bool) :
    w.request t apart =
      { replica := { w.replica with busy := true }
        threads := update w.threads t
          ((if apart then .starting w.begun else .asking w.begun .liveness) :: w.threads t)
        begun := w.begun + 1
        log := if apart then w.log
          else .asked w.begun (Stage.liveness.call w.replica.timeout) :: w.log } := by
  simp only [request, begin?_eq_some.mpr ⟨h, rfl⟩]

theorem request_replica {w : Interplay ι} (h : w.replica.busy = false) (t : Nat) (apart : Bool) :
    (w.request t apart).replica = { w.replica with busy := true } := by
  rw [request_of_free h]

theorem request_threads {w : Interplay ι} (h : w.replica.busy = false) (t : Nat) (apart : Bool) :
    (w.request t apart).threads = update w.threads t
      ((if apart then .starting w.begun else .asking w.begun .liveness) :: w.threads t) := by
  rw [request_of_free h]

namespace Place

variable {w : Interplay ι}

theorem init {timeout : Option Seconds} :
    Place (ι := ι) { replica := { timeout := timeout } } :=
  .free rfl (fun _ _ ha ↦ by simp at ha) (fun _ _ hn ↦ by simp at hn)

/-- An activity that keeps the place is the innermost of its thread. -/
theorem of_holds (h : Place w) {t : Nat} {a : Activity ι} {rest : List (Activity ι)}
    (ht : w.threads t = a :: rest) (ha : a.holds) : w.replica.busy = true ∧
      a.number + 1 = w.begun ∧ Past a.number rest ∧ (∀ u ≠ t, Past a.number (w.threads u)) ∧
      EndedBefore a.number w.log := by
  cases h with
  | free _ hpast => exact absurd ha (hpast t a (by simp [ht])).1
  | taken t' a' rest' hb ht' ha' hn hrest hother hend =>
    have htt : t = t' := by
      by_contra hne
      exact (hother t hne a (by simp [ht])).1 ha
    subst htt
    rw [ht] at ht'
    cases ht'
    exact ⟨hb, hn, hrest, hother, hend⟩

/-- Only one thread moves, in the middle of what keeps no place. -/
theorem shift (h : Place w) {w' : Interplay ι} {t : Nat} {a : Activity ι}
    {rest : List (Activity ι)} (new : List (Activity ι)) (ht : w.threads t = a :: rest)
    (ha : ¬ a.holds)
    (hbusy : w'.replica.busy = w.replica.busy) (hbegun : w'.begun = w.begun)
    (hthreads : w'.threads = update w.threads t (new ++ rest))
    (hnew : ∀ b ∈ new, ¬ b.holds ∧ b.number = a.number)
    (hlog : ∀ k, a.number < k → EndedBefore k w.log → EndedBefore k w'.log) : Place w' := by
  have hpast {k : Nat} (hk : Past k (w.threads t)) : Past k (new ++ rest) := by
    intro b hb
    rcases List.mem_append.mp hb with hb | hb
    · rw [(hnew b hb).2]
      exact ⟨(hnew b hb).1, (hk a (by simp [ht])).2⟩
    · exact hk b (by simp [ht, hb])
  cases h with
  | free hb hall hend =>
    refine .free (hbusy.trans hb) ?_ ?_
    · rw [hthreads, hbegun]
      exact fun u ↦ past_update (fun _ ↦ hall u) (hpast (hall t))
    · rw [hbegun]
      exact hlog _ (hall t a (by simp [ht])).2 hend
  | taken t' a' rest' hb ht' ha' hn hrest hother hend =>
    have hne : t ≠ t' := by
      rintro rfl
      rw [ht] at ht'
      cases ht'
      exact ha ha'
    have hk := hother t hne
    refine .taken t' a' rest' (hbusy.trans hb) ?_ ha' (by rw [hbegun, hn]) hrest ?_ ?_
    · rw [hthreads, update_of_ne (Ne.symm hne), ht']
    · rw [hthreads]
      exact fun u hu ↦ past_update (fun _ ↦ hother u hu) (hpast hk)
    · exact hlog _ (hk a (by simp [ht])).2 hend

/-- The activity that keeps the place becomes another one of its refresh. -/
theorem keep (h : Place w) {w' : Interplay ι} {t : Nat} {a : Activity ι} (a' : Activity ι)
    {rest : List (Activity ι)} (ht : w.threads t = a :: rest) (ha : a.holds) (ha' : a'.holds)
    (hn : a'.number = a.number) (hbusy : w'.replica.busy = w.replica.busy)
    (hbegun : w'.begun = w.begun) (hthreads : w'.threads = update w.threads t (a' :: rest))
    (hlog : ∀ n b, .ended n b ∈ w'.log → .ended n b ∈ w.log) : Place w' := by
  obtain ⟨hb, hnum, hrest, hother, hend⟩ := h.of_holds ht ha
  refine .taken t a' rest (hbusy.trans hb) (by rw [hthreads, update_self]) ha'
    (by rw [hn, hnum, hbegun]) (hn ▸ hrest) ?_ (hn ▸ fun n b h ↦ hend n b (hlog n b h))
  intro u hu
  rw [hthreads, update_of_ne hu, hn]
  exact hother u hu

/-- The activity that keeps the place gives it up. -/
theorem giveUp (h : Place w) {w' : Interplay ι} {t : Nat} {a : Activity ι}
    {rest : List (Activity ι)} (new : List (Activity ι)) (ht : w.threads t = a :: rest)
    (ha : a.holds) (hbusy : w'.replica.busy = false) (hbegun : w'.begun = w.begun)
    (hthreads : w'.threads = update w.threads t (new ++ rest))
    (hnew : ∀ b ∈ new, ¬ b.holds ∧ b.number = a.number)
    (hlog : ∀ n b, .ended n b ∈ w'.log → n = a.number ∨ .ended n b ∈ w.log) : Place w' := by
  obtain ⟨-, hnum, hrest, hother, hend⟩ := h.of_holds ht ha
  have hlt : a.number < w.begun := by omega
  refine .free hbusy ?_ ?_
  · rw [hthreads, hbegun]
    refine fun u ↦ past_update (fun hu ↦ (hother u hu).mono (Nat.le_of_lt hlt)) ?_
    intro b hb
    rcases List.mem_append.mp hb with hb | hb
    · exact ⟨(hnew b hb).1, (hnew b hb).2 ▸ hlt⟩
    · exact hrest.mono (Nat.le_of_lt hlt) b hb
  · rw [hbegun]
    intro n b hn
    rcases hlog n b hn with rfl | hn
    · exact hlt
    · exact Nat.lt_trans (hend n b hn) hlt

theorem tell_place (h : Place w) {t n : Nat} {s : Snapshot} {a : Activity ι} {ls : List ι}
    {rest : List (Activity ι)} (ht : w.threads t = a :: rest) (ha : ¬ a.holds)
    (hn : a.number = n) : Place (w.tell t n s rest ls) := by
  cases ls with
  | nil =>
    refine h.shift [] ht ha rfl rfl rfl (by simp) fun k hk hend ↦ hend.cons fun m b hm ↦ ?_
    cases hm
    exact hn ▸ hk
  | cons l ls =>
    exact h.shift [.telling n s ls] ht ha rfl rfl rfl
      (List.forall_mem_singleton.mpr ⟨id, hn.symm⟩) fun _ _ hend ↦ hend.cons (by simp)

theorem request (h : Place w) (t : Nat) (apart : Bool) : Place (w.request t apart) := by
  cases hb : w.replica.busy with
  | true =>
    rw [request_of_busy hb]
    cases h with
    | free hf => simp [hb] at hf
    | taken t' a rest hb ht ha hn hrest hother hend =>
      exact .taken t' a rest hb ht ha hn hrest hother (hend.cons (by simp))
  | false =>
    rw [request_of_free hb]
    cases h with
    | taken _ _ _ hb' => simp [hb] at hb'
    | free _ hpast hend =>
      have hnum : (if apart then .starting w.begun
          else .asking w.begun .liveness : Activity ι).number = w.begun := by
        cases apart <;> rfl
      -- The latest number is that of the new refresh, and all others are past.
      refine .taken t _ (w.threads t) rfl (update_self ..) (by cases apart <;> trivial)
        (by rw [hnum]) (by rw [hnum]; exact hpast t) (fun u hu ↦ ?_) ?_
      · simp only [hnum, update_of_ne hu]
        exact hpast u
      · rw [hnum]
        cases apart with
        | true => exact hend
        | false => exact hend.cons (by simp)

theorem start (h : Place w) {t u n : Nat} {rest : List (Activity ι)}
    (ht : w.threads t = .starting n :: rest) : Place (w.start t u n rest) := by
  obtain ⟨hb, hnum, hrest, hother, hend⟩ := h.of_holds ht trivial
  refine .taken u (.asking n .liveness) [] hb (update_self ..) trivial hnum (by simp [Past])
    (fun v hv ↦ ?_) (hend.cons (by simp))
  simp only [Interplay.start, update_of_ne hv]
  exact past_update (hother v) hrest

theorem step [BEq ι] {w' : Interplay ι} (h : Place w) (hs : Step w w') : Place w' := by
  cases hs with
  | request t apart => exact h.request t apart
  | start ht => exact h.start ht
  | failStart ht =>
    exact h.giveUp [] ht trivial rfl rfl rfl (by simp) (by grind [failStart, Activity.number])
  | @answer t n s rest a ht =>
    simp only [answer]
    -- A refresh that asks on keeps the place; one that is done gives it up, to tell of it or not.
    split
    next s' _ => exact h.keep (.asking n s') ht trivial trivial rfl rfl rfl rfl (by simp)
    · exact h.giveUp [] ht trivial rfl rfl rfl (by simp) (by grind [Activity.number])
    next snapshot _ =>
      exact h.giveUp [.announcing n snapshot] ht trivial rfl rfl rfl
        (by simp [Activity.holds, Activity.number]) (fun _ _ hn ↦ .inr (by simpa using hn))
  | @announce t n s rest ht =>
    rw [announce]
    have hplace : Place { w with log := .announced n w.replica.listeners :: w.log } :=
      h.shift [.announcing n s] ht id rfl rfl (by simp [← ht]) (by simp [Activity.holds])
        fun _ _ hend ↦ hend.cons (by simp)
    exact hplace.tell_place ht id rfl
  | tell ht => exact h.tell_place ht id rfl
  | listen | unlisten =>
    cases h with
    | free hb hpast hend => exact .free hb hpast hend
    | taken t' a rest hb ht ha hn hrest hother hend =>
      exact .taken t' a rest hb ht ha hn hrest hother hend

end Place

end VariableExplorer.Replica.Interplay
