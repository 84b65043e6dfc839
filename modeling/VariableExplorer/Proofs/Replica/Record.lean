import VariableExplorer.Proofs.Replica.Conversation
import VariableExplorer.Proofs.Replica.Place
import VariableExplorer.Proofs.Running

/-!
What was said in each refresh. The calls and answers of one number make up one conversation, and as
refreshes keep the place while they ask, no conversation goes on in the middle of another.
-/

namespace VariableExplorer.Replica.Interplay

open Refresh Function

variable {ι : Type}

/-- The calls of a refresh, in order. -/
def callsOf (n : Nat) : List (Event ι) → List Call
  | [] => []
  | .asked m c :: log => if m = n then callsOf n log ++ [c] else callsOf n log
  | _ :: log => callsOf n log

def answersOf (n : Nat) : List (Event ι) → List Answer
  | [] => []
  | .answered m a :: log => if m = n then answersOf n log ++ [a] else answersOf n log
  | _ :: log => answersOf n log

def Event.asker? : Event ι → Option Nat
  | .asked n _ => some n
  | _ => none

def Silent (w : Interplay ι) (n : Nat) : Prop := callsOf n w.log = [] ∧ answersOf n w.log = []

/-- What was said in a refresh has led here. -/
def LedTo (w : Interplay ι) (n : Nat) (p : Progress) : Prop :=
  Talk w.replica.timeout (callsOf n w.log) (answersOf n w.log) p

section Answer

variable {w : Interplay ι} {n : Nat} (t : Nat) (s : Stage) (rest : List (Activity ι)) (a : Answer)

theorem LedTo.answer {s : Stage} (h : w.LedTo n (.asking s)) :
    (w.answer t n s rest a).LedTo n (s.next a) := by
  unfold Interplay.answer
  split
  next hn =>
    rw [hn]
    simpa only [LedTo, callsOf, answersOf, if_true] using h.more hn
  all_goals
    next hn =>
      rw [hn]
      simpa only [LedTo, callsOf, answersOf, if_true, settle_timeout] using h.finish hn

theorem answer_timeout : (w.answer t n s rest a).replica.timeout = w.replica.timeout := by
  unfold answer
  split <;> rfl

theorem answer_begun : (w.answer t n s rest a).begun = w.begun := by
  unfold answer
  split <;> rfl

theorem callsOf_answer {m : Nat} (hm : m ≠ n) :
    callsOf m (w.answer t n s rest a).log = callsOf m w.log := by
  unfold answer
  split
  · exact if_neg hm.symm
  all_goals rfl

theorem answersOf_answer {m : Nat} (hm : m ≠ n) :
    answersOf m (w.answer t n s rest a).log = answersOf m w.log := by
  unfold answer
  split <;> exact if_neg hm.symm

theorem asker_answer : ∃ ns, (w.answer t n s rest a).log.filterMap Event.asker? =
    ns ++ w.log.filterMap Event.asker? ∧ (ns = [] ∨ ns = [n]) := by
  unfold answer
  split
  · exact ⟨[n], rfl, .inr rfl⟩
  all_goals exact ⟨[], rfl, .inl rfl⟩

end Answer

structure Recorded (w : Interplay ι) : Prop where
  talks : ∀ n, w.Silent n ∨ ∃ p, w.LedTo n p
  starting : ∀ t n, .starting n ∈ w.threads t → w.Silent n
  asking : ∀ t n s, .asking n s ∈ w.threads t → w.LedTo n (.asking s)
  unbegun : ∀ n, w.begun ≤ n → w.Silent n
  ordered : (w.log.filterMap Event.asker?).Pairwise (· ≥ ·)
  asker : ∀ n ∈ w.log.filterMap Event.asker?, n < w.begun

theorem Place.eq_of_holds {w : Interplay ι} (h : Place w) {t u : Nat} {a b : Activity ι}
    {rest : List (Activity ι)} (ht : w.threads t = a :: rest) (ha : a.holds)
    (hb : b ∈ w.threads u) (hbh : b.holds) : u = t ∧ b = a := by
  obtain ⟨-, -, hrest, hother, -⟩ := h.of_holds ht ha
  have hu : u = t := by
    by_contra hu
    exact (hother u hu b hb).1 hbh
  subst hu
  rw [ht, List.mem_cons] at hb
  rcases hb with rfl | hb
  · exact ⟨rfl, rfl⟩
  · exact absurd hbh (hrest b hb).1

theorem Place.not_holds {w : Interplay ι} (h : Place w) (hb : w.replica.busy = false) {t : Nat}
    {a : Activity ι} (ha : a ∈ w.threads t) : ¬ a.holds := by
  cases h with
  | free _ hpast => exact (hpast t a ha).1
  | taken _ _ _ hb' => simp [hb] at hb'

namespace Recorded

variable {w w' : Interplay ι}

theorem init {timeout : Option Seconds} :
    Recorded (ι := ι) { replica := { timeout := timeout } } where
  talks _ := .inl ⟨rfl, rfl⟩
  starting _ _ h := by simp at h
  asking _ _ _ h := by simp at h
  unbegun _ _ := ⟨rfl, rfl⟩
  ordered := .nil
  asker _ h := by simp at h

/-- Nothing is said; at most a thread is to be started for another refresh. -/
theorem of_silence (h : Recorded w) (htimeout : w'.replica.timeout = w.replica.timeout)
    (hcalls : ∀ n, callsOf n w'.log = callsOf n w.log)
    (hanswers : ∀ n, answersOf n w'.log = answersOf n w.log)
    (hasker : w'.log.filterMap Event.asker? = w.log.filterMap Event.asker?)
    (hbegun : w.begun ≤ w'.begun)
    (hthreads : ∀ t, ∀ a ∈ w'.threads t, a.holds → a ∈ w.threads t ∨ a = .starting w.begun) :
    Recorded w' := by
  have hsilent {n : Nat} (hn : w.Silent n) : w'.Silent n :=
    ⟨(hcalls n).trans hn.1, (hanswers n).trans hn.2⟩
  have hled {n : Nat} {p : Progress} (hp : w.LedTo n p) : w'.LedTo n p := by
    simpa only [LedTo, htimeout, hcalls, hanswers] using hp
  refine ⟨fun n ↦ ?_, fun t n ht ↦ ?_, fun t n s ht ↦ ?_, fun n hn ↦ ?_, ?_, ?_⟩
  · exact (h.talks n).imp hsilent fun ⟨p, hp⟩ ↦ ⟨p, hled hp⟩
  · rcases hthreads t _ ht trivial with ht | ht
    · exact hsilent (h.starting t n ht)
    · cases ht
      exact hsilent (h.unbegun _ (Nat.le_refl _))
  · rcases hthreads t _ ht trivial with ht | ht
    · exact hled (h.asking t n s ht)
    · cases ht
  · exact hsilent (h.unbegun n (Nat.le_trans hbegun hn))
  · rw [hasker]; exact h.ordered
  · rw [hasker]
    exact fun n hn ↦ Nat.lt_of_lt_of_le (h.asker n hn) hbegun

/-- The refresh that keeps the place says something, and the conversation goes on or ends. -/
theorem of_talk (h : Recorded w) {k : Nat}
    (htimeout : w'.replica.timeout = w.replica.timeout)
    (hcalls : ∀ n ≠ k, callsOf n w'.log = callsOf n w.log)
    (hanswers : ∀ n ≠ k, answersOf n w'.log = answersOf n w.log)
    (hasker : ∃ ns, w'.log.filterMap Event.asker? = ns ++ w.log.filterMap Event.asker? ∧
      (ns = [] ∨ ns = [k]))
    (hk : k + 1 = w'.begun) (hbegun : w.begun ≤ w'.begun) {p : Progress} (hp : w'.LedTo k p)
    (hholds : ∀ t, ∀ a ∈ w'.threads t, a.holds → ∃ s, a = .asking k s ∧ p = .asking s) :
    Recorded w' := by
  have hsilent {n : Nat} (hn : n ≠ k) (hs : w.Silent n) : w'.Silent n :=
    ⟨(hcalls n hn).trans hs.1, (hanswers n hn).trans hs.2⟩
  have hled {n : Nat} (hn : n ≠ k) {p : Progress} (hp : w.LedTo n p) : w'.LedTo n p := by
    simpa only [LedTo, htimeout, hcalls n hn, hanswers n hn] using hp
  refine ⟨fun n ↦ ?_, fun t n ht ↦ ?_, fun t n s ht ↦ ?_, fun n hn ↦ ?_, ?_, ?_⟩
  · by_cases hn : n = k
    · exact .inr ⟨p, hn ▸ hp⟩
    · exact (h.talks n).imp (hsilent hn) fun ⟨p, hp⟩ ↦ ⟨p, hled hn hp⟩
  · obtain ⟨s, hs, -⟩ := hholds t _ ht trivial
    cases hs
  · obtain ⟨s', hs, rfl⟩ := hholds t _ ht trivial
    cases hs
    exact hp
  · exact hsilent (by omega) (h.unbegun n (by omega))
  · obtain ⟨ns, hns, rfl | rfl⟩ := hasker
    · rw [hns]; exact h.ordered
    · rw [hns]
      refine .cons (fun n hn ↦ ?_) h.ordered
      have := h.asker n hn
      omega
  · obtain ⟨ns, hns, hns'⟩ := hasker
    intro n hn
    rw [hns, List.mem_append] at hn
    rcases hn with hn | hn
    · rcases hns' with rfl | rfl
      · simp at hn
      · simp at hn; omega
    · have := h.asker n hn
      omega

theorem tell (h : Recorded w) {t n : Nat} {s : Snapshot} {ls : List ι} {a : Activity ι}
    {rest : List (Activity ι)} (ht : w.threads t = a :: rest) : Recorded (w.tell t n s rest ls) := by
  have hthreads (new : List (Activity ι)) (hnew : ∀ b ∈ new, ¬ b.holds) (u : Nat) (b : Activity ι)
      (hb : b ∈ update w.threads t (new ++ rest) u) (hbh : b.holds) : b ∈ w.threads u := by
    by_cases hu : u = t
    · subst hu
      rw [update_self, List.mem_append] at hb
      rcases hb with hb | hb
      · exact absurd hbh (hnew b hb)
      · rw [ht]; exact List.mem_cons_of_mem a hb
    · simpa only [update_of_ne hu] using hb
  cases ls with
  | nil =>
    exact h.of_silence rfl (fun _ ↦ rfl) (fun _ ↦ rfl) rfl (Nat.le_refl _)
      fun u b hb hbh ↦ .inl (hthreads [] (by simp) u b hb hbh)
  | cons l ls =>
    exact h.of_silence rfl (fun _ ↦ rfl) (fun _ ↦ rfl) rfl (Nat.le_refl _)
      fun u b hb hbh ↦ .inl (hthreads [.telling n s ls] (by simp [Activity.holds]) u b hb hbh)

theorem request (h : Recorded w) (hplace : Place w) (t : Nat) (apart : Bool) :
    Recorded (w.request t apart) := by
  have hplace' := hplace.request t apart
  cases hb : w.replica.busy with
  | true =>
    rw [request_of_busy hb]
    exact h.of_silence rfl (fun _ ↦ rfl) (fun _ ↦ rfl) rfl (Nat.le_refl _) fun _ _ ha _ ↦ .inl ha
  | false =>
    rw [request_of_free hb] at hplace' ⊢
    obtain ⟨hcalls, hanswers⟩ := h.unbegun _ (Nat.le_refl _)
    cases apart with
    | true =>
      -- In a thread of its own it is yet to ask anything.
      refine h.of_silence rfl (fun _ ↦ rfl) (fun _ ↦ rfl) rfl (Nat.le_succ _) fun u a ha hah ↦ ?_
      exact .inr (hplace'.eq_of_holds (update_self ..) trivial ha hah).2
    | false =>
      refine h.of_talk (k := w.begun) rfl (fun n hn ↦ if_neg hn.symm) (fun _ _ ↦ rfl)
        ⟨[w.begun], rfl, .inr rfl⟩ rfl (Nat.le_succ _) (p := .asking .liveness) ?_
        fun u a ha hah ↦ ⟨.liveness, ?_, rfl⟩
      · simp only [LedTo, callsOf, answersOf, Bool.false_eq_true, if_false, if_true, hcalls,
          hanswers]
        exact .begin
      · exact (hplace'.eq_of_holds (update_self ..) trivial ha hah).2

theorem start (h : Recorded w) (hplace : Place w) {t u n : Nat} {rest : List (Activity ι)}
    (ht : w.threads t = .starting n :: rest) : Recorded (w.start t u n rest) := by
  obtain ⟨-, hnum, -⟩ := hplace.of_holds ht trivial
  obtain ⟨hcalls, hanswers⟩ := h.starting t n (by simp [ht])
  refine h.of_talk (k := n) rfl (fun m hm ↦ if_neg hm.symm) (fun _ _ ↦ rfl)
    ⟨[n], rfl, .inr rfl⟩ hnum (Nat.le_refl _) (p := .asking .liveness) ?_
    fun v a ha hah ↦ ⟨.liveness, ?_, rfl⟩
  · simp only [LedTo, Interplay.start, callsOf, answersOf, if_true, hcalls, hanswers]
    exact .begin
  · exact ((hplace.start ht).eq_of_holds (update_self ..) trivial ha hah).2

theorem step [BEq ι] (h : Recorded w) (hplace : Place w) (hs : Step w w') : Recorded w' := by
  -- Only one activity holds the place, so only its refresh can have its talk go on.
  have hplace' := hplace.step hs
  cases hs with
  | request t apart => exact h.request hplace t apart
  | start ht => exact h.start hplace ht
  | @failStart t n rest ht =>
    exact h.of_silence rfl (fun _ ↦ rfl) (fun _ ↦ rfl) rfl (Nat.le_refl _)
      fun u a ha hah ↦ absurd hah (hplace'.not_holds rfl ha)
  | @answer t n s rest a ht =>
    obtain ⟨-, hnum, -⟩ := hplace.of_holds ht trivial
    refine h.of_talk (answer_timeout ..) (fun m hm ↦ callsOf_answer _ _ _ _ hm)
      (fun m hm ↦ answersOf_answer _ _ _ _ hm) (asker_answer ..) ((answer_begun ..).symm ▸ hnum)
      (Nat.le_of_eq (answer_begun ..).symm) ((h.asking t n s (by simp [ht])).answer t rest a)
      fun u b hb hbh ↦ ?_
    cases hn : s.next a with
    | asking s' =>
      simp only [answer, hn] at hplace' hb
      exact ⟨s', (hplace'.eq_of_holds (update_self ..) trivial hb hbh).2, rfl⟩
    | done found =>
      cases found <;> simp only [answer, hn] at hplace' hb <;>
        exact absurd hbh (hplace'.not_holds rfl hb)
  | @announce t n s rest ht =>
    have hrec : Recorded { w with log := .announced n w.replica.listeners :: w.log } :=
      h.of_silence rfl (fun _ ↦ rfl) (fun _ ↦ rfl) rfl (Nat.le_refl _) fun _ _ ha _ ↦ .inl ha
    exact hrec.tell ht
  | tell ht => exact h.tell ht
  | listen | unlisten =>
    exact h.of_silence rfl (fun _ ↦ rfl) (fun _ ↦ rfl) rfl (Nat.le_refl _) fun _ _ ha _ ↦ .inl ha

end Recorded

end VariableExplorer.Replica.Interplay
