import VariableExplorer.Proofs.Replica.Delivery

/-!
The course of each refresh. One that replaces the snapshot announces its own to all who listen at
that moment, tells each of them once, in their order, and says so at its end; one that does not
tells nobody. That other refreshes begin and end between two listeners makes no difference.
-/

namespace VariableExplorer.Replica

open Refresh Function

variable {ι : Type}

/-- The refresh to whose delivery an event belongs. -/
def Event.delivers? : Event ι → Option Nat
  | .announced n _ | .told n _ _ | .ended n _ => some n
  | _ => none

namespace Interplay

/-- What there is of the delivery of a refresh in a log, in order. -/
def deliveries (n : Nat) : List (Event ι) → List (Event ι)
  | [] => []
  | ev :: log => if ev.delivers? = some n then deliveries n log ++ [ev] else deliveries n log

theorem deliveries_cons_self {n : Nat} {ev : Event ι} (h : ev.delivers? = some n)
    (log : List (Event ι)) : deliveries n (ev :: log) = deliveries n log ++ [ev] := if_pos h

theorem deliveries_cons_of_ne {n : Nat} {ev : Event ι} (h : ev.delivers? ≠ some n)
    (log : List (Event ι)) : deliveries n (ev :: log) = deliveries n log := if_neg h

theorem mem_deliveries {n : Nat} {ev : Event ι} (h : ev.delivers? = some n) {log : List (Event ι)}
    (hev : ev ∈ log) : ev ∈ deliveries n log := by
  induction log with
  | nil => cases hev
  | cons ev' log ih =>
    rw [deliveries]
    obtain rfl | hev := List.mem_cons.mp hev
    · rw [if_pos h]
      exact List.mem_append_right _ (List.mem_singleton_self _)
    · split
      · exact List.mem_append_left _ (ih hev)
      · exact ih hev

def UnderWay (w : Interplay ι) (a : Activity ι) : Prop := ∃ t, a ∈ w.threads t

theorem exists_mem_update_iff {f : Nat → List (Activity ι)} {t : Nat}
    (old new rest : List (Activity ι)) {b : Activity ι} (ht : f t = old ++ rest) (hold : b ∉ old)
    (hnew : b ∉ new) : (∃ u, b ∈ update f t (new ++ rest) u) ↔ ∃ u, b ∈ f u := by
  constructor
  · rintro ⟨u, hb⟩
    obtain hb | hb := mem_of_mem_update hb
    · refine ⟨t, ?_⟩
      rw [ht]
      exact List.mem_append_right _ ((List.mem_append.mp hb).resolve_left hnew)
    · exact ⟨u, hb⟩
  · rintro ⟨u, hb⟩
    refine ⟨u, ?_⟩
    by_cases hu : u = t
    · subst hu
      rw [ht] at hb
      rw [update_self]
      exact List.mem_append_right _ ((List.mem_append.mp hb).resolve_left hold)
    · rwa [update_of_ne hu]

/-- What has become of a refresh: how far it has got, and what was delivered of it by then. -/
inductive Course (w : Interplay ι) (n : Nat) : Prop
  | unbegun : w.begun ≤ n → deliveries n w.log = [] → Course w n
  | asking (a : Activity ι) : w.UnderWay a → a.holds → a.number = n → deliveries n w.log = [] →
      Course w n
  | announcing (s : Snapshot) : w.UnderWay (.announcing n s) → w.News n s →
      deliveries n w.log = [] → Course w n
  | telling (s : Snapshot) (told ls : List ι) : w.UnderWay (.telling n s ls) → w.News n s →
      deliveries n w.log = .announced n (told ++ ls) :: told.map (.told n · s) → Course w n
  /-- It was over without a snapshot of its own. -/
  | failed : n < w.begun → (∀ a, w.UnderWay a → a.number ≠ n) → (∀ infos, ¬ w.Passed n infos) →
      deliveries n w.log = [.ended n false] → Course w n
  | passed (s : Snapshot) (ls : List ι) : n < w.begun → (∀ a, w.UnderWay a → a.number ≠ n) →
      w.News n s →
      deliveries n w.log = .announced n ls :: ls.map (.told n · s) ++ [.ended n true] → Course w n

/-- Nothing happens to a refresh. -/
structure Spared (w w' : Interplay ι) (m : Nat) : Prop where
  deliveries : deliveries m w'.log = deliveries m w.log
  passed : ∀ infos, w'.Passed m infos ↔ w.Passed m infos
  begun : w'.begun ≤ m ↔ w.begun ≤ m
  underWay : ∀ a : Activity ι, a.number = m → (w'.UnderWay a ↔ w.UnderWay a)

variable {w w' : Interplay ι}

theorem Spared.news_iff {m : Nat} (h : Spared w w' m) (s : Snapshot) :
    w'.News m s ↔ w.News m s :=
  exists_congr fun infos ↦ and_congr_left' (h.passed infos)

theorem Spared.notUnderWay {m : Nat} (h : Spared w w' m)
    (hgone : ∀ a, w.UnderWay a → a.number ≠ m) : ∀ a, w'.UnderWay a → a.number ≠ m :=
  fun a ha hn ↦ hgone a ((h.underWay a hn).mp ha) hn

theorem Course.of_spared {m : Nat} (h : Course w m) (hs : Spared w w' m) : Course w' m := by
  have hlt : m < w.begun → m < w'.begun := by
    have hbegun := hs.begun
    omega
  cases h with
  | unbegun hle hlog => exact .unbegun (hs.begun.mpr hle) (hs.deliveries.trans hlog)
  | asking a ha hholds hn hlog =>
    exact .asking a ((hs.underWay a hn).mpr ha) hholds hn (hs.deliveries.trans hlog)
  | announcing s ha hnews hlog =>
    exact .announcing s ((hs.underWay _ rfl).mpr ha) ((hs.news_iff s).mpr hnews)
      (hs.deliveries.trans hlog)
  | telling s told ls ha hnews hlog =>
    exact .telling s told ls ((hs.underWay _ rfl).mpr ha) ((hs.news_iff s).mpr hnews)
      (hs.deliveries.trans hlog)
  | failed hbegun hgone hnot hlog =>
    exact .failed (hlt hbegun) (hs.notUnderWay hgone)
      (fun infos ↦ (hs.passed infos).not.mpr (hnot infos)) (hs.deliveries.trans hlog)
  | passed s ls hbegun hgone hnews hlog =>
    exact .passed s ls (hlt hbegun) (hs.notUnderWay hgone) ((hs.news_iff s).mpr hnews)
      (hs.deliveries.trans hlog)

theorem Spared.of_turn {t n m : Nat} (old new : List (Activity ι)) {rest : List (Activity ι)}
    (hm : m ≠ n)
    (hlog : Interplay.deliveries m w'.log = Interplay.deliveries m w.log)
    (hanswers : answersOf m w'.log = answersOf m w.log) (hbegun : w'.begun = w.begun)
    (ht : w.threads t = old ++ rest) (ht' : w'.threads = update w.threads t (new ++ rest))
    (hold : ∀ a ∈ old, a.number = n) (hnew : ∀ a ∈ new, a.number = n) : Spared w w' m where
  deliveries := hlog
  passed infos := by rw [Passed, Passed, hanswers]
  begun := by rw [hbegun]
  underWay a ha := by
    rw [UnderWay, UnderWay, ht']
    exact exists_mem_update_iff old new rest ht (fun h ↦ hm (ha.symm.trans (hold a h)))
      fun h ↦ hm (ha.symm.trans (hnew a h))

theorem Spared.tell {t n m : Nat} {s : Snapshot} {a : Activity ι} {rest : List (Activity ι)}
    (hm : m ≠ n) (ht : w.threads t = a :: rest) (ha : a.number = n) (ls : List ι) :
    Spared w (w.tell t n s rest ls) m := by
  have hold : ∀ b ∈ [a], b.number = n := List.forall_mem_singleton.mpr ha
  cases ls with
  | nil =>
    refine .of_turn [a] [] hm ?_ rfl rfl ht rfl hold (by simp)
    exact deliveries_cons_of_ne (by simpa [Event.delivers?] using hm.symm) _
  | cons l ls =>
    refine .of_turn [a] [.telling n s ls] hm ?_ rfl rfl ht rfl hold (by simp [Activity.number])
    exact deliveries_cons_of_ne (by simpa [Event.delivers?] using hm.symm) _

theorem Spared.trans {w'' : Interplay ι} {m : Nat} (h : Spared w w' m) (h' : Spared w' w'' m) :
    Spared w w'' m where
  deliveries := h'.deliveries.trans h.deliveries
  passed infos := (h'.passed infos).trans (h.passed infos)
  begun := h'.begun.trans h.begun
  underWay a ha := (h'.underWay a ha).trans (h.underWay a ha)

namespace Apart

theorem eq_of_number (h : Apart w.numbers w.begun) {t : Nat} {a b : Activity ι}
    {rest : List (Activity ι)} (ht : w.threads t = a :: rest) (hb : w.UnderWay b)
    (hn : b.number = a.number) : b = a := by
  obtain ⟨hrest, hothers⟩ := h.unique ht
  obtain ⟨u, hb⟩ := hb
  obtain rfl | hu := eq_or_ne u t
  · rw [ht] at hb
    refine (List.mem_cons.mp hb).resolve_right fun hb ↦ hrest ?_
    rw [← hn]
    exact List.mem_map_of_mem hb
  · refine absurd ?_ (hothers u hu)
    rw [← hn]
    exact List.mem_map_of_mem hb

theorem gone (h : Apart w.numbers w.begun) {t : Nat} {a : Activity ι} {rest : List (Activity ι)}
    (ht : w.threads t = a :: rest) (ht' : w'.threads = Function.update w.threads t rest) :
    ∀ b, w'.UnderWay b → b.number ≠ a.number := by
  obtain ⟨hrest, hothers⟩ := h.unique ht
  rintro b ⟨u, hb⟩ hn
  rw [ht'] at hb
  obtain rfl | hu := eq_or_ne u t
  · rw [update_self] at hb
    refine hrest ?_
    rw [← hn]
    exact List.mem_map_of_mem hb
  · rw [update_of_ne hu] at hb
    refine hothers u hu ?_
    rw [← hn]
    exact List.mem_map_of_mem hb

theorem number_lt (h : Apart w.numbers w.begun) {a : Activity ι} (ha : w.UnderWay a) :
    a.number < w.begun := by
  obtain ⟨t, ha⟩ := ha
  exact h.below t a.number (List.mem_map_of_mem ha)

theorem top_lt (h : Apart w.numbers w.begun) {t : Nat} {a : Activity ι} {rest : List (Activity ι)}
    (ht : w.threads t = a :: rest) : a.number < w.begun :=
  h.number_lt ⟨t, by simp [ht]⟩

end Apart

/-- How much of its refresh is delivered while an activity goes on. -/
def Delivered (log : List (Event ι)) : Activity ι → Prop
  | .telling n s ls =>
    ∃ told, deliveries n log = .announced n (told ++ ls) :: told.map (.told n · s)
  | a => deliveries a.number log = []

theorem Course.delivered (hapart : Apart w.numbers w.begun) {t : Nat} {a : Activity ι}
    {rest : List (Activity ι)} (ht : w.threads t = a :: rest) (h : Course w a.number) :
    Delivered w.log a := by
  have htop : w.UnderWay a := ⟨t, by simp [ht]⟩
  cases h with
  | unbegun hle _ => exact absurd hle (Nat.not_le.mpr (hapart.number_lt htop))
  | asking b hb hholds hn hlog =>
    obtain rfl := hapart.eq_of_number ht hb hn
    cases b with
    | starting | asking => exact hlog
    | announcing | telling => exact absurd hholds id
  | announcing s hb _ hlog =>
    have heq := hapart.eq_of_number ht hb rfl
    rw [← heq]
    exact hlog
  | telling s told ls hb _ hlog =>
    have heq := hapart.eq_of_number ht hb rfl
    rw [← heq]
    exact ⟨told, hlog⟩
  | failed _ hgone => exact absurd rfl (hgone a htop)
  | passed _ _ _ hgone => exact absurd rfl (hgone a htop)

theorem Course.tell (hapart : Apart w.numbers w.begun) {t n : Nat} {s : Snapshot} {a : Activity ι}
    {rest : List (Activity ι)} (told : List ι) {ls : List ι} (ht : w.threads t = a :: rest)
    (ha : a.number = n) (hnews : w.News n s)
    (hlog : deliveries n w.log = .announced n (told ++ ls) :: told.map (.told n · s)) :
    Course (w.tell t n s rest ls) n := by
  cases ls with
  | nil =>
    have hgone : ∀ b, (w.tell t n s rest []).UnderWay b → b.number ≠ a.number :=
      hapart.gone ht rfl
    rw [ha] at hgone
    refine .passed s told ?_ hgone hnews ?_
    · rw [tell_begun, ← ha]
      exact hapart.top_lt ht
    · refine (deliveries_cons_self rfl _).trans ?_
      rw [hlog, List.append_nil]
  | cons l ls =>
    refine .telling s (told ++ [l]) ls ⟨t, ?_⟩ hnews ?_
    · simp [Interplay.tell]
    · refine (deliveries_cons_self rfl _).trans ?_
      rw [hlog]
      simp

theorem request_spared {m : Nat} (hm : m ≠ w.begun) (t : Nat) (apart : Bool) :
    Spared w (w.request t apart) m := by
  cases hb : w.replica.busy with
  | true =>
    rw [request_of_busy hb]
    exact ⟨rfl, fun _ ↦ .rfl, .rfl, fun _ _ ↦ .rfl⟩
  | false =>
    rw [request_of_free hb]
    refine ⟨?_, fun infos ↦ ?_, ?_, fun a ha ↦ ?_⟩
    · cases apart <;> rfl
    · cases apart <;> exact .rfl
    · show w.begun + 1 ≤ m ↔ w.begun ≤ m
      omega
    · refine exists_mem_update_iff [] [_] _ rfl (by simp) fun hmem ↦ ?_
      cases List.mem_singleton.mp hmem
      exact hm (by cases apart <;> exact ha.symm)

theorem Course.request (h : Course w w.begun) (hapart : Apart w.numbers w.begun) (t : Nat)
    (apart : Bool) : Course (w.request t apart) w.begun := by
  have hnone : deliveries w.begun w.log = [] := by
    have hlt {a : Activity ι} (ha : w.UnderWay a) (hn : a.number = w.begun) : False :=
      absurd (hapart.number_lt ha) (Nat.not_lt.mpr (Nat.le_of_eq hn.symm))
    cases h with
    | unbegun _ hlog => exact hlog
    | asking a ha _ hn _ => exact (hlt ha hn).elim
    | announcing s ha => exact (hlt ha rfl).elim
    | telling s told ls ha => exact (hlt ha rfl).elim
    | failed hbegun => exact absurd hbegun (Nat.lt_irrefl _)
    | passed s ls hbegun => exact absurd hbegun (Nat.lt_irrefl _)
  cases hb : w.replica.busy with
  | true =>
    rw [request_of_busy hb]
    exact .unbegun (Nat.le_refl _) hnone
  | false =>
    rw [request_of_free hb]
    refine .asking (if apart then .starting w.begun else .asking w.begun .liveness) ⟨t, ?_⟩ ?_ ?_ ?_
    · simp
    · cases apart <;> trivial
    · cases apart <;> rfl
    · cases apart <;> exact hnone

theorem answer_spared {t n m : Nat} {s : Stage} {rest : List (Activity ι)} (a : Answer)
    (hm : m ≠ n) (ht : w.threads t = .asking n s :: rest) : Spared w (w.answer t n s rest a) m := by
  have hanswers := answersOf_answer t s rest a (w := w) hm
  have hold : ∀ b ∈ [(.asking n s : Activity ι)], b.number = n := by simp [Activity.number]
  have hended : (Event.ended n false : Event ι).delivers? ≠ some m := by
    simpa [Event.delivers?] using hm.symm
  cases hn : s.next a with
  | asking s' =>
    simp only [Interplay.answer, hn] at hanswers ⊢
    exact .of_turn [_] [.asking n s'] hm rfl hanswers rfl ht rfl hold (by simp [Activity.number])
  | done found =>
    cases found with
    | none =>
      simp only [Interplay.answer, hn] at hanswers ⊢
      exact .of_turn [_] [] hm (deliveries_cons_of_ne hended _) hanswers rfl ht rfl hold (by simp)
    | some x =>
      simp only [Interplay.answer, hn] at hanswers ⊢
      exact .of_turn [_] [.announcing n x] hm rfl hanswers rfl ht rfl hold
        (by simp [Activity.number])

theorem Course.answer (hdel : Delivering w) {t n : Nat} {s : Stage} {rest : List (Activity ι)}
    (a : Answer) (ht : w.threads t = .asking n s :: rest) (hlog : deliveries n w.log = []) :
    Course (w.answer t n s rest a) n := by
  have hled := (hdel.sound.recorded.asking t n s (by simp [ht])).answer t rest a
  cases hn : s.next a with
  | asking s' =>
    simp only [Interplay.answer, hn]
    exact .asking (.asking n s') ⟨t, by simp⟩ trivial rfl hlog
  | done found =>
    rw [hn] at hled
    cases found with
    | none =>
      have hnot := hled.not_passed (by simp)
      simp only [Interplay.answer, hn] at hnot ⊢
      refine .failed (hdel.apart.top_lt ht) (hdel.apart.gone ht rfl) hnot ?_
      exact (deliveries_cons_self rfl _).trans (congrArg (· ++ [_]) hlog)
    | some x =>
      have hnews : (w.answer t n s rest a).News n x := hled.found_iff.mp rfl
      simp only [Interplay.answer, hn] at hnews ⊢
      exact .announcing x ⟨t, by simp⟩ hnews hlog

theorem start_spared {t u n m : Nat} {rest : List (Activity ι)} (hm : m ≠ n)
    (ht : w.threads t = .starting n :: rest) (hu : w.threads u = []) :
    Spared w (w.start t u n rest) m where
  deliveries := rfl
  passed _ := .rfl
  begun := .rfl
  underWay a ha := by
    have hstarting : a ∉ [(.starting n : Activity ι)] := fun h ↦ by
      cases List.mem_singleton.mp h
      exact hm ha.symm
    have hasking : a ∉ [(.asking n .liveness : Activity ι)] := fun h ↦ by
      cases List.mem_singleton.mp h
      exact hm ha.symm
    have hidle : update w.threads t rest u = [] := by
      obtain rfl | hne := eq_or_ne u t
      · rw [ht] at hu
        cases hu
      · rw [update_of_ne hne, hu]
    exact (exists_mem_update_iff [] [_] [] hidle (by simp) hasking).trans
      (exists_mem_update_iff [_] [] rest ht hstarting (by simp))

/-- Every refresh keeps to its course, whatever happens next. -/
theorem Course.step [BEq ι] (hdel : Delivering w) (h : ∀ n, Course w n) (hs : Step w w') (m : Nat) :
    Course w' m := by
  -- The refresh that takes the step goes on in its course; the step spares every other.
  cases hs with
  | request t apart hact =>
    obtain rfl | hm := eq_or_ne m w.begun
    · exact (h w.begun).request hdel.apart t apart
    · exact (h m).of_spared (request_spared hm t apart)
  | @start t u n rest ht hu =>
    obtain rfl | hm := eq_or_ne m n
    · exact .asking (.asking m .liveness) ⟨u, by simp [Interplay.start]⟩ trivial rfl
        ((h m).delivered hdel.apart ht)
    · exact (h m).of_spared (start_spared hm ht hu)
  | @failStart t n rest ht =>
    have hlog := (h n).delivered hdel.apart ht
    obtain rfl | hm := eq_or_ne m n
    · have hsilent : (w.failStart t m rest).Silent m :=
        hdel.sound.recorded.starting t m (by simp [ht])
      refine .failed (hdel.apart.top_lt ht) (hdel.apart.gone ht rfl)
        (fun _ hpassed ↦ Passed.not_silent hpassed hsilent) ?_
      exact (deliveries_cons_self rfl _).trans (congrArg (· ++ [_]) hlog)
    · refine (h m).of_spared
        (.of_turn [_] [] hm ?_ rfl rfl ht rfl ?_ (by simp))
      · exact deliveries_cons_of_ne (by simpa [Event.delivers?] using hm.symm) _
      · simp [Activity.number]
  | @answer t n s rest a ht =>
    obtain rfl | hm := eq_or_ne m n
    · exact .answer hdel a ht ((h m).delivered hdel.apart ht)
    · exact (h m).of_spared (answer_spared a hm ht)
  | @announce t n s rest ht =>
    have hnews : w.News n s := hdel.truthful.telling t (.announcing n s) (by simp [ht]) n s rfl
    have hlog := (h n).delivered hdel.apart ht
    let v : Interplay ι := { w with log := .announced n w.replica.listeners :: w.log }
    obtain rfl | hm := eq_or_ne m n
    · exact .tell (w := v) hdel.apart [] ht rfl hnews
        ((deliveries_cons_self rfl _).trans (congrArg (· ++ [_]) hlog))
    · have hannounced : Spared w v m :=
        ⟨deliveries_cons_of_ne (by simpa [Event.delivers?] using hm.symm) _, fun _ ↦ .rfl, .rfl,
          fun _ _ ↦ .rfl⟩
      exact (h m).of_spared (hannounced.trans (.tell (w := v) hm ht rfl v.replica.listeners))
  | @tell t n s ls rest ht =>
    have hnews : w.News n s := hdel.truthful.telling t (.telling n s ls) (by simp [ht]) n s rfl
    obtain rfl | hm := eq_or_ne m n
    · obtain ⟨told, hlog⟩ := (h m).delivered hdel.apart ht
      exact .tell hdel.apart told ht rfl hnews hlog
    · exact (h m).of_spared (.tell hm ht rfl ls)
  | listen | unlisten => exact (h m).of_spared ⟨rfl, fun _ ↦ .rfl, .rfl, fun _ _ ↦ .rfl⟩

theorem Reachable.course [BEq ι] (h : Reachable w) (n : Nat) : Course w n := by
  obtain ⟨timeout, hrun⟩ := h
  induction hrun generalizing n with
  | refl => exact .unbegun (Nat.zero_le n) rfl
  | tail hrun hs ih => exact .step (Delivering.init.run hrun) ih hs n

theorem Course.ended_iff {n : Nat} {b : Bool} (h : Course w n) (hb : .ended n b ∈ w.log) :
    b = true ↔ ∃ infos, w.Passed n infos := by
  have hmem := mem_deliveries rfl hb
  cases h with
  | unbegun _ hlog | asking _ _ _ _ hlog | announcing _ _ _ hlog => simp [hlog] at hmem
  | telling s told ls _ _ hlog => simp [hlog] at hmem
  | failed _ _ hnot hlog =>
    have hfalse : b = false := by simpa [hlog] using hmem
    simpa [hfalse] using hnot
  | passed s ls _ _ hnews hlog =>
    have htrue : b = true := by simpa [hlog] using hmem
    exact iff_of_true htrue (hnews.imp fun _ h ↦ h.1)

theorem Step.announced_eq [BEq ι] (hs : Step w w') {n : Nat} {ls : List ι}
    (h : .announced n ls ∈ w'.log) : .announced n ls ∈ w.log ∨ ls = w.replica.listeners := by
  have htell {v : Interplay ι} {t m : Nat} {s : Snapshot} {rest : List (Activity ι)} {ls' : List ι}
      (h : .announced n ls ∈ (v.tell t m s rest ls').log) : .announced n ls ∈ v.log := by
    cases ls' <;> exact (List.mem_cons.mp h).resolve_left (by simp)
  cases hs with
  | request t apart hact =>
    refine .inl ?_
    cases hb : w.replica.busy with
    | true =>
      rw [request_of_busy hb] at h
      simpa using h
    | false =>
      rw [request_of_free hb] at h
      cases apart
      · simpa using h
      · exact h
  | start | failStart => exact .inl ((List.mem_cons.mp h).resolve_left (by simp))
  | @answer t m s rest a ht =>
    refine .inl ?_
    unfold Interplay.answer at h
    split at h <;> simpa using h
  | announce ht =>
    obtain heq | h := List.mem_cons.mp (htell h)
    · cases heq
      exact .inr rfl
    · exact .inl h
  | tell ht => exact .inl (htell h)
  | listen | unlisten => exact .inl h

end Interplay

section

variable {σ : Type} [MonadStateOf (Replica ι) (StateM σ)] {view : σ → Replica ι}

theorem run_getThe (hview : Carries view) (s : σ) :
    (getThe (Replica ι) : ExceptT VariableExplorer.Fault (StateM σ) (Replica ι)).run s =
      (.ok (view s), s) := by
  show (Except.ok <$> (getThe (Replica ι) : StateM σ (Replica ι))).run s = _
  rw [StateT.run_map, hview.get]
  rfl

theorem run_advance (ask : Call → StateM σ Answer) (timeout : Option Seconds) (p : Progress)
    (s : σ) :
    (p.advance (fun c ↦ liftM (ask c)) timeout : ExceptT VariableExplorer.Fault (StateM σ) _).run s =
      (.ok ((p.advance ask timeout).run s).1, ((p.advance ask timeout).run s).2) := by
  cases p <;> rfl

theorem run_build (ask : Call → StateM σ Answer) (timeout : Option Seconds) (s : σ) :
    (build (fun c ↦ liftM (ask c)) timeout : ExceptT VariableExplorer.Fault (StateM σ) _).run s =
      (.ok ((build ask timeout).run s).1, ((build ask timeout).run s).2) := by
  unfold build
  rw [run_bind_of_ok (run_advance ask timeout _ s), run_bind_of_ok (run_advance ask timeout _ _),
    run_bind_of_ok (run_advance ask timeout _ _), run_bind_of_ok (run_advance ask timeout _ _)]
  rfl

variable (hview : Carries view) {ask : Call → StateM σ Answer}
  {tell : Snapshot → ι → ExceptT VariableExplorer.Fault (StateM σ) Unit} {s : σ}

include hview

theorem refreshGuarded_of_busy (hb : (view s).busy = true) :
    (refreshGuarded ask tell).run s = (.ok false, s) := by
  unfold refreshGuarded refresh
  rw [run_bind_of_ok (run_getThe hview s)]
  simp only [begin?_eq_none.mpr hb]
  rfl

/-- A refresh that finds the place free says whether it has replaced the snapshot; in that case it
tells the listeners of that moment, and otherwise nobody. -/
theorem refreshGuarded_of_free (hb : (view s).busy = false)
    (htell : ∀ x l s f, ((tell x l).run s).1 = .error f → f.isOrdinary = true) :
    ∃ s₀ s₁ s₂ found, view s₀ = { view s with busy := true } ∧
      (build ask (view s).timeout).run s₀ = (found, s₁) ∧ view s₂ = (view s₁).settle found ∧
      (refreshGuarded ask tell).run s = (.ok found.isSome, found.elim s₂ fun x ↦
        (view s₂).listeners.foldl (fun s l ↦ ((tell x l).run s).2) s₂) := by
  let s₀ := ((set { view s with busy := true } : StateM σ PUnit).run s).2
  have hs₀ : view s₀ = { view s with busy := true } := hview.set s _
  obtain ⟨found, s₁, hbuild⟩ : ∃ found s₁, (build ask (view s).timeout).run s₀ = (found, s₁) :=
    ⟨_, _, rfl⟩
  let s₂ := ((modifyThe (Replica ι) (·.settle found) : StateM σ PUnit).run s₁).2
  refine ⟨s₀, s₁, s₂, found, hs₀, hbuild, hview.modify s₁ _, ?_⟩
  have hset : (set { view s with busy := true } : ExceptT VariableExplorer.Fault (StateM σ) PUnit).run
      s = (.ok (), s₀) := rfl
  have hmodify : (modifyThe (Replica ι) (·.settle found) :
      ExceptT VariableExplorer.Fault (StateM σ) PUnit).run s₁ = (.ok (), s₂) := rfl
  have hfound := run_build ask (view s₀).timeout s₀
  rw [hs₀, hbuild] at hfound
  unfold refreshGuarded refresh Replica.run
  rw [run_bind_of_ok (run_getThe hview s)]
  simp only [begin?_eq_some.mpr ⟨hb, rfl⟩]
  rw [run_bind_of_ok hset, run_bind_of_ok (run_getThe hview s₀), hs₀, run_bind_of_ok hfound,
    run_bind_of_ok hmodify]
  cases found with
  | none => rfl
  | some x =>
    have htold := run_forM_guarded (htell x) (view s₂).listeners s₂
    exact (run_bind_of_ok (run_getThe hview s₂)).trans ((run_bind_of_ok htold).trans rfl)

end

/-- A refresh returns that it was successful just if it has replaced the snapshot. Then each of
those who listened when it announced this was told once of its own snapshot, in their order;
otherwise nobody was told. It is so among any number of threads, and with listeners that do
whatever they like with the replica and raise. -/
theorem Interplay.refresh_tells [BEq ι] :
    (∀ w : Interplay ι, Reachable w → ∀ n, Course w n ∧
      ∀ b, .ended n b ∈ w.log → (b = true ↔ ∃ infos, w.Passed n infos)) ∧
    (∀ w w' : Interplay ι, Reachable w → Step w w' →
      (Kept w w' ∨ ∃ n infos, Renewed w w' n infos) ∧
      ∀ n ls, .announced n ls ∈ w'.log → .announced n ls ∈ w.log ∨ ls = w.replica.listeners) ∧
    ∀ {σ : Type} [MonadStateOf (Replica ι) (StateM σ)] (view : σ → Replica ι)
      (ask : Call → StateM σ Answer)
      (tell : Snapshot → ι → ExceptT VariableExplorer.Fault (StateM σ) Unit) (s : σ),
      Carries view → (∀ x l s f, ((tell x l).run s).1 = .error f → f.isOrdinary = true) →
      ((view s).busy = true → (refreshGuarded ask tell).run s = (.ok false, s)) ∧
      ((view s).busy = false → ∃ s₀ s₁ s₂ found, view s₀ = { view s with busy := true } ∧
        (build ask (view s).timeout).run s₀ = (found, s₁) ∧ view s₂ = (view s₁).settle found ∧
        (refreshGuarded ask tell).run s = (.ok found.isSome, found.elim s₂ fun x ↦
          (view s₂).listeners.foldl (fun s l ↦ ((tell x l).run s).2) s₂)) := by
  refine ⟨fun w h n ↦ ⟨h.course n, fun b hb ↦ (h.course n).ended_iff hb⟩, fun w w' h hs ↦ ?_, ?_⟩
  · exact ⟨step_turn h.sound.place h.sound.recorded hs, fun n ls hn ↦ hs.announced_eq hn⟩
  · intro σ _ view ask tell s hview htell
    exact ⟨refreshGuarded_of_busy hview, fun hb ↦ refreshGuarded_of_free hview hb htell⟩

/-- Each of two listeners takes itself off and raises, and the other is told all the same. -/
theorem Interplay.tells_of_raising :
    let ask (c : Call) : StateM (Replica Nat) Answer := return ({} : Script).answer c
    let tell (_ : Snapshot) (l : Nat) : ExceptT VariableExplorer.Fault (StateM (Replica Nat)) Unit :=
      do
        modifyThe (Replica Nat) (·.unlisten l)
        throw (.raised "ValueError" none)
    ∃ m, (refreshGuarded ask tell).run { listeners := [1, 2] } = (.ok true, m) ∧
      m.listeners = [] := by
  intro ask tell
  have hraises : ∀ x l s f, ((tell x l).run s).1 = .error f → f.isOrdinary = true := by
    intro x l s f hf
    have hraised : ((tell x l).run s).1 = .error (.raised "ValueError" none) := rfl
    rw [hraised] at hf
    cases hf
    rfl
  obtain ⟨s₀, s₁, s₂, found, hs₀, hbuild, hs₂, hrun⟩ :=
    ((refresh_tells (ι := Nat)).2.2 id ask tell { listeners := [1, 2] }
      ⟨fun _ ↦ rfl, fun _ _ ↦ rfl, fun _ _ ↦ rfl⟩ hraises).2 rfl
  have hfound : (build ask none).run s₀ = (some {}, s₀) := rfl
  cases hfound.symm.trans hbuild
  refine ⟨_, hrun, ?_⟩
  have hlisteners : s₂.listeners = [1, 2] :=
    (congrArg Replica.listeners hs₂).trans (congrArg Replica.listeners hs₀)
  show (s₂.listeners.foldl (fun m l ↦ m.unlisten l) s₂).listeners = []
  simp [hlisteners, unlisten]

end VariableExplorer.Replica
