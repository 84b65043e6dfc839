import VariableExplorer.Proofs.Replica.Delivery

/-!
Whether listeners end up with the snapshot of the replica. The latest refresh that passes tells all
who listen; a listener is told of an older snapshot after that just if an older delivery that was
still going on had it ahead.
-/

namespace VariableExplorer.Replica.Interplay

open Refresh Function

variable {ι : Type}

theorem mem_update_rest {f : Nat → List (Activity ι)} {t u : Nat} {a b : Activity ι}
    {rest : List (Activity ι)} (new : List (Activity ι)) (ht : f t = a :: rest) (hb : b ∈ f u)
    (hne : b ≠ a) : b ∈ update f t (new ++ rest) u := by
  by_cases hu : u = t
  · subst hu
    rw [ht, List.mem_cons] at hb
    rw [update_self]
    exact List.mem_append_right new (hb.resolve_left hne)
  · rwa [update_of_ne hu]

theorem mem_of_mem_update_rest {f : Nat → List (Activity ι)} {t u : Nat} {a b : Activity ι}
    {rest : List (Activity ι)} (new : List (Activity ι)) (ht : f t = a :: rest)
    (hb : b ∈ update f t (new ++ rest) u) :
    b ∈ new ∨ ∃ v, b ∈ f v := by
  rcases mem_of_mem_update hb with hb | hb
  · exact (List.mem_append.mp hb).imp_right fun hb ↦ ⟨t, by simp [ht, hb]⟩
  · exact .inr ⟨u, hb⟩

variable [DecidableEq ι] {w w' : Interplay ι} {n : Nat} {x : Snapshot} {l : ι}

/-- The listener was told of the snapshot last, or is going to be, unless another refresh passes. -/
structure Fresh (w : Interplay ι) (n : Nat) (x : Snapshot) (l : ι) : Prop where
  others : ∀ t, ∀ a ∈ w.threads t, a.number ≠ n → ¬ a.Ahead l
  own : ∀ t, ∀ a ∈ w.threads t, a.number = n → ∃ ls, a = .telling n x ls
  heard : (∃ t ls, .telling n x ls ∈ w.threads t ∧ l ∈ ls) ∨ lastTold? l w.log = some (n, x)

namespace Fresh

theorem of_silence (h : Fresh w n x l)
    (hnew : ∀ t, ∀ a ∈ w'.threads t, (∃ u, a ∈ w.threads u) ∨ (a.number ≠ n ∧ ¬ a.Ahead l))
    (hkeep : ∀ t ls, l ∈ ls → .telling n x ls ∈ w.threads t → .telling n x ls ∈ w'.threads t)
    (hlog : lastTold? l w'.log = lastTold? l w.log) : Fresh w' n x l where
  others t a ha hn := by
    rcases hnew t a ha with ⟨u, hu⟩ | ⟨-, hahead⟩
    · exact h.others u a hu hn
    · exact hahead
  own t a ha hn := by
    rcases hnew t a ha with ⟨u, hu⟩ | ⟨hne, -⟩
    · exact h.own u a hu hn
    · exact absurd hn hne
  heard := by
    rcases h.heard with ⟨t, ls, ht, hl⟩ | hlast
    · exact .inl ⟨t, ls, hkeep t ls hl ht, hl⟩
    · exact .inr (hlog.trans hlast)

/-- The innermost activity of a thread, one that asks, goes on or ends. -/
theorem turn (h : Fresh w n x l) {t : Nat} {a : Activity ι} {rest : List (Activity ι)}
    (new : List (Activity ι))
    (ht : w.threads t = a :: rest) (ha : a.holds)
    (hw' : w'.threads = update w.threads t (new ++ rest))
    (hnew : ∀ b ∈ new, b.number = a.number ∧ b.holds)
    (hlog : lastTold? l w'.log = lastTold? l w.log) : Fresh w' n x l := by
  have hn : a.number ≠ n := by
    intro hn
    obtain ⟨ls, rfl⟩ := h.own t a (by simp [ht]) hn
    exact ha
  refine h.of_silence (fun u b hb ↦ ?_) (fun u ls hl hb ↦ ?_) hlog
  · rw [hw'] at hb
    refine (mem_of_mem_update_rest new ht hb).symm.imp_right fun hb ↦ ?_
    obtain ⟨hnumber, hholds⟩ := hnew b hb
    exact ⟨hnumber ▸ hn, by cases b <;> first | exact id | exact absurd hholds id⟩
  · rw [hw']
    exact mem_update_rest new ht hb (by rintro rfl; exact ha)

theorem tell (h : Fresh w n x l) {t m : Nat} {s : Snapshot} {ls : List ι}
    {rest : List (Activity ι)} (ht : w.threads t = .telling m s ls :: rest) :
    Fresh (w.tell t m s rest ls) n x l := by
  have htop : .telling m s ls ∈ w.threads t := by simp [ht]
  cases ls with
  | nil =>
    refine h.of_silence (fun u b hb ↦ .inl ?_) (fun u ls hl hb ↦ ?_) rfl
    · exact (mem_of_mem_update_rest [] ht hb).resolve_left (by simp)
    · refine mem_update_rest [] ht hb ?_
      rintro ⟨⟩
      simp at hl
  | cons l' ls =>
    by_cases hm : m = n
    · subst hm
      obtain ⟨_, hls⟩ := h.own t _ htop rfl
      cases hls
      refine ⟨fun u b hb hbm ↦ ?_, fun u b hb hbm ↦ ?_, ?_⟩
      · rcases mem_of_mem_update_rest [.telling m x ls] ht hb with hb | ⟨v, hb⟩
        · cases List.mem_singleton.mp hb
          exact absurd rfl hbm
        · exact h.others v b hb hbm
      · rcases mem_of_mem_update_rest [.telling m x ls] ht hb with hb | ⟨v, hb⟩
        · exact ⟨ls, List.mem_singleton.mp hb⟩
        · exact h.own v b hb hbm
      · by_cases hl : l' = l
        · exact .inr (if_pos hl)
        · refine h.heard.imp (fun ⟨u, ls', hu, hl'⟩ ↦ ?_) fun hlast ↦ (if_neg hl).trans hlast
          by_cases hls : ls' = l' :: ls
          · subst hls
            exact ⟨t, ls, by simp [Interplay.tell],
              (List.mem_cons.mp hl').resolve_left (Ne.symm hl)⟩
          · exact ⟨u, ls', mem_update_rest [.telling m x ls] ht hu (by simpa using hls), hl'⟩
    · have hahead : l ∉ l' :: ls := h.others t _ htop hm
      obtain ⟨hl, hls⟩ := List.ne_and_not_mem_of_not_mem_cons hahead
      refine h.of_silence (fun u b hb ↦ ?_) (fun u ls' _ hb ↦ ?_) (if_neg hl.symm)
      · refine (mem_of_mem_update_rest [.telling m s ls] ht hb).symm.imp_right fun hb ↦ ?_
        cases List.mem_singleton.mp hb
        exact ⟨hm, hls⟩
      · exact mem_update_rest [.telling m s ls] ht hb (by rintro ⟨⟩; exact hm rfl)

theorem request (h : Fresh w n x l) (hbegun : n < w.begun) (t : Nat) (apart : Bool) :
    Fresh (w.request t apart) n x l := by
  cases hb : w.replica.busy with
  | true =>
    rw [request_of_busy hb]
    exact h.of_silence (fun u a ha ↦ .inl ⟨u, ha⟩) (fun _ _ _ ha ↦ ha) rfl
  | false =>
    rw [request_of_free hb]
    refine h.of_silence (fun u a ha ↦ ?_) (fun u ls _ ha ↦ ?_) (by cases apart <;> rfl)
    · rcases mem_of_mem_update ha with ha | ha
      · rcases List.mem_cons.mp ha with rfl | ha
        · refine .inr ⟨?_, ?_⟩ <;> cases apart <;>
            first | exact Nat.ne_of_gt hbegun | exact id
        · exact .inl ⟨t, ha⟩
      · exact .inl ⟨u, ha⟩
    · by_cases hu : u = t
      · subst hu
        simp only [update_self]
        exact List.mem_cons_of_mem _ ha
      · simpa only [update_of_ne hu] using ha

theorem start (h : Fresh w n x l) {t u k : Nat} {rest : List (Activity ι)}
    (ht : w.threads t = .starting k :: rest) (hu : w.threads u = []) :
    Fresh (w.start t u k rest) n x l := by
  -- A refresh that only starts is another one: the `n`-th is told of already.
  have hk : k ≠ n := by
    rintro rfl
    obtain ⟨ls, hls⟩ := h.own t (.starting k) (by simp [ht]) rfl
    cases hls
  refine h.of_silence (fun v b hb ↦ ?_) (fun v ls _ hb ↦ ?_) rfl
  · rcases mem_of_mem_update hb with hb | hb
    · cases List.mem_singleton.mp hb
      exact .inr ⟨hk, id⟩
    · exact .inl ((mem_of_mem_update_rest [] ht hb).resolve_left (by simp))
  · have hv : v ≠ u := by
      rintro rfl
      simp [hu] at hb
    simp only [Interplay.start, update_of_ne hv]
    exact mem_update_rest [] ht hb (by simp)

theorem answer (h : Fresh w n x l) (hd : Delivering w) {infos : List ValueInfo}
    (hpassed : w.Passed n infos) {t k : Nat} {s : Stage} {rest : List (Activity ι)} (a : Answer)
    (ht : w.threads t = .asking k s :: rest)
    (hlatest : ∀ m infos, (w.answer t k s rest a).Passed m infos → m ≤ n) :
    Fresh (w.answer t k s rest a) n x l := by
  have hled := hd.sound.recorded.asking t k s (by simp [ht])
  cases hnext : s.next a with
  | asking s' =>
    simp only [Interplay.answer, hnext]
    exact h.turn [.asking k s'] ht trivial rfl (by simp [Activity.number, Activity.holds]) rfl
  | done found =>
    cases found with
    | none =>
      simp only [Interplay.answer, hnext]
      exact h.turn [] ht trivial rfl (by simp) rfl
    | some y =>
      -- Another refresh comes to pass, a later one, which `hlatest` rules out.
      have hafter := hled.answer t rest a
      rw [hnext] at hafter
      obtain ⟨infos', hk, -⟩ := hafter.found_iff.mp rfl
      have hle := hlatest k infos' hk
      obtain ⟨-, hnum, -⟩ := hd.sound.place.of_holds ht trivial
      have hbegun := hd.sound.recorded.begun_of_passed hpassed
      have hkn : k = n := by
        simp only [Activity.number] at hnum
        omega
      subst hkn
      exact absurd hpassed (hled.not_passed (by simp) infos)

theorem step (h : Fresh w n x l) (hd : Delivering w) (hn : w.News n x)
    (hlatest : ∀ m infos, w'.Passed m infos → m ≤ n) (hs : Step w w') : Fresh w' n x l := by
  obtain ⟨infos, hpassed, rfl⟩ := hn
  cases hs with
  | request t apart => exact h.request (hd.sound.recorded.begun_of_passed hpassed) t apart
  | start ht hu => exact h.start ht hu
  | failStart ht => exact h.turn [] ht trivial rfl (by simp) rfl
  | answer a ht => exact h.answer hd hpassed a ht hlatest
  | @announce t k s rest ht =>
    -- a refresh that is yet to tell anyone has the listener ahead
    have htop : .announcing k s ∈ w.threads t := by simp [ht]
    by_cases hk : k = n
    · obtain ⟨ls, hls⟩ := h.own t _ htop hk
      cases hls
    · exact absurd trivial (h.others t _ htop hk)
  | tell ht => exact h.tell ht
  | listen | unlisten => exact h.of_silence (fun u a ha ↦ .inl ⟨u, ha⟩) (fun _ _ _ ha ↦ ha) rfl

theorem announce (hd : Delivering w) {t : Nat} {rest : List (Activity ι)}
    (ht : w.threads t = .announcing n x :: rest) (hl : l ∈ w.replica.listeners)
    (hrest : ∀ a ∈ rest, ¬ a.Ahead l) (hothers : ∀ u ≠ t, ∀ a ∈ w.threads u, ¬ a.Ahead l) :
    Fresh (w.announce t n x rest) n x l := by
  obtain ⟨hbelow, hapart⟩ := hd.apart.unique ht
  cases hls : w.replica.listeners with
  | nil => simp [hls] at hl
  | cons l' ls =>
    rw [hls] at hl
    simp only [Interplay.announce, hls, Interplay.tell]
    refine ⟨fun u a ha hn ↦ ?_, fun u a ha hn ↦ ?_, ?_⟩
    · by_cases hu : u = t
      · subst hu
        simp only [update_self, List.mem_cons] at ha
        rcases ha with rfl | ha
        · exact absurd rfl hn
        · exact hrest a ha
      · simp only [update_of_ne hu] at ha
        exact hothers u hu a ha
    · by_cases hu : u = t
      · subst hu
        simp only [update_self, List.mem_cons] at ha
        rcases ha with rfl | ha
        · exact ⟨ls, rfl⟩
        · exact absurd (List.mem_map.mpr ⟨a, ha, hn⟩) hbelow
      · simp only [update_of_ne hu] at ha
        exact absurd (List.mem_map.mpr ⟨a, ha, hn⟩) (hapart u hu)
    · by_cases hl' : l' = l
      · exact .inr (if_pos hl')
      · exact .inl ⟨t, ls, by simp, (List.mem_cons.mp hl).resolve_left (Ne.symm hl')⟩

theorem run (h : Fresh w n x l) (hd : Delivering w) (hn : w.News n x) (hrun : Run w w')
    (hlatest : ∀ m infos, w'.Passed m infos → m ≤ n) : Fresh w' n x l := by
  induction hrun with
  | refl => exact h
  | tail hrun hs ih =>
    have hd' := hd.run hrun
    exact (ih fun m infos hm ↦ hlatest m infos (hd'.sound.passed_mono hs hm)).step hd'
      (hd.news_run hrun hn) hlatest hs

end Fresh

/-- A thread is in the middle of an activity, and is the only one that the `n`-th refresh may be
on, further in. -/
def Beneath (w : Interplay ι) (n t : Nat) (b : Activity ι) (post : List (Activity ι)) : Prop :=
  (∃ top, w.threads t = top ++ b :: post) ∧ ∀ u ≠ t, n ∉ w.numbers u

/-- The listener is told, after the `n`-th refresh, of the snapshot of another one: by a delivery
that has it ahead, or it was told so last. -/
inductive Overdue (w : Interplay ι) (n t m : Nat) (s : Snapshot) (post : List (Activity ι)) (l : ι) :
    Prop
  | ahead (ls : List ι) : Beneath w n t (.telling m s ls) post → l ∈ ls → Overdue w n t m s post l
  | told (k : Nat) (y : Snapshot) : (∀ u, n ∉ w.numbers u) → lastTold? l w.log = some (k, y) →
      k ≠ n → Overdue w n t m s post l

theorem Renumbered.not_mem {f f' : Nat → List Nat} {k k' : Nat} (hs : Renumbered f f' k k')
    (hn : n ≠ k) (h : ∀ u, n ∉ f u) : ∀ u, n ∉ f' u := by
  have hupdate {f : Nat → List Nat} {t : Nat} {ns : List Nat} (hf : ∀ u, n ∉ f u) (hns : n ∉ ns)
      (u : Nat) : n ∉ update f t ns u := by
    by_cases hu : u = t
    · subst hu; rwa [update_self]
    · rw [update_of_ne hu]; exact hf u
  have hrest {t m : Nat} {rest : List Nat} (ht : f t = m :: rest) : n ≠ m ∧ n ∉ rest :=
    List.ne_and_not_mem_of_not_mem_cons (ht ▸ h t)
  cases hs with
  | same hf => exact hf ▸ h
  | begun t hf => exact hf ▸ hupdate h (List.not_mem_cons_of_ne_of_not_mem hn (h t))
  | ended t m rest ht hf => exact hf ▸ hupdate h (hrest ht).2
  | moved t u m rest ht hu hf =>
    exact hf ▸ hupdate (hupdate h (hrest ht).2) (by simpa using (hrest ht).1)

theorem tell_lastTold {t k : Nat} {y : Snapshot} {ls : List ι} {a : Activity ι}
    {rest : List (Activity ι)} (ht : w.threads t = a :: rest) (ha : a.number = k) :
    lastTold? l (w.tell t k y rest ls).log = lastTold? l w.log ∨
      ∃ k' y' u, lastTold? l (w.tell t k y rest ls).log = some (k', y') ∧ k' ∈ w.numbers u := by
  cases ls with
  | nil => exact .inl rfl
  | cons l' ls =>
    by_cases hl : l' = l
    · exact .inr ⟨k, y, t, if_pos hl, by simp [numbers_of_top ht, ha]⟩
    · exact .inl (if_neg hl)

theorem Step.lastTold (hs : Step w w') : lastTold? l w'.log = lastTold? l w.log ∨
    ∃ k y t, lastTold? l w'.log = some (k, y) ∧ k ∈ w.numbers t := by
  cases hs with
  | request t apart hact =>
    refine .inl ?_
    cases hb : w.replica.busy with
    | true => rw [request_of_busy hb]; rfl
    | false => rw [request_of_free hb]; cases apart <;> rfl
  | answer a ht =>
    refine .inl ?_
    unfold Interplay.answer
    split <;> rfl
  | announce ht => exact tell_lastTold (w := { w with log := _ :: w.log }) ht rfl
  | tell ht => exact tell_lastTold ht rfl
  | start | failStart | listen | unlisten => exact .inl rfl

namespace Beneath

omit [DecidableEq ι]

variable {t u : Nat} {b : Activity ι} {post : List (Activity ι)}

theorem further (h : Beneath w n t b post) {a : Activity ι} {rest : List (Activity ι)}
    (hu : w.threads u = a :: rest) (hne : a ≠ b) (hut : u = t) : ∃ top, rest = top ++ b :: post := by
  obtain ⟨⟨top, ht⟩, -⟩ := h
  rw [← hut, hu] at ht
  cases top with
  | nil => exact absurd (List.cons.inj ht).1 hne
  | cons c top => exact ⟨top, (List.cons.inj ht).2⟩

/-- A thread moves, at most in the middle of what is further in. -/
theorem shift (h : Beneath w n t b post) (old new : List (Activity ι)) {rest : List (Activity ι)}
    (hu : w.threads u = old ++ rest) (hw' : w'.threads = update w.threads u (new ++ rest))
    (hin : u = t → ∃ top, rest = top ++ b :: post) (hnew : u ≠ t → ∀ a ∈ new, a.number ≠ n) :
    Beneath w' n t b post := by
  obtain ⟨⟨top, ht⟩, hothers⟩ := h
  by_cases hut : u = t
  · subst hut
    obtain ⟨top', rfl⟩ := hin rfl
    refine ⟨⟨new ++ top', by rw [hw', update_self, List.append_assoc]⟩, fun v hv ↦ ?_⟩
    rw [numbers_update hw', update_of_ne hv]
    exact hothers v hv
  · refine ⟨⟨top, by rw [hw', update_of_ne (Ne.symm hut), ht]⟩, fun v hv ↦ ?_⟩
    rw [numbers_update hw']
    by_cases hvu : v = u
    · subst hvu
      rw [update_self, List.map_append, List.mem_append]
      rintro (hn | hn)
      · obtain ⟨a, ha, rfl⟩ := List.mem_map.mp hn
        exact hnew hut a ha rfl
      · refine hothers v hv ?_
        rw [numbers, hu, List.map_append]
        exact List.mem_append_right _ hn
    · rw [update_of_ne hvu]
      exact hothers v hv

theorem number_ne (h : Beneath w n t b post) {a : Activity ι} {rest : List (Activity ι)}
    (hu : w.threads u = a :: rest) (hut : u ≠ t) : a.number ≠ n := by
  rintro rfl
  exact h.2 u hut (by simp [numbers_of_top hu])

theorem tell (h : Beneath w n t b post) {k : Nat} {y : Snapshot} {a : Activity ι} {ls : List ι}
    {rest : List (Activity ι)} (hu : w.threads u = a :: rest) (ha : a.number = k)
    (hin : u = t → ∃ top, rest = top ++ b :: post) : Beneath (w.tell u k y rest ls) n t b post := by
  cases ls with
  | nil => exact h.shift [a] [] hu rfl hin (by simp)
  | cons l ls =>
    refine h.shift [a] [.telling k y ls] hu rfl hin fun hut c hc ↦ ?_
    cases List.mem_singleton.mp hc
    have hne := h.number_ne hu hut
    rwa [ha] at hne

theorem request (h : Beneath w n t b post) (hbegun : n < w.begun) (u : Nat) (apart : Bool) :
    Beneath (w.request u apart) n t b post := by
  cases hb : w.replica.busy with
  | true =>
    rw [request_of_busy hb]
    exact h
  | false =>
    rw [request_of_free hb]
    refine h.shift [] [_] rfl rfl (fun hut ↦ hut ▸ h.1) fun _ a ha ↦ ?_
    rw [List.mem_singleton.mp ha]
    cases apart <;> exact Nat.ne_of_gt hbegun

theorem start (h : Beneath w n t b post) {v k : Nat} {rest : List (Activity ι)} (hk : k ≠ n)
    (hv : w.threads v = .starting k :: rest) (hu : w.threads u = []) (hb : .starting k ≠ b) :
    Beneath (w.start v u k rest) n t b post := by
  have hut : u ≠ t := by
    rintro rfl
    obtain ⟨⟨top, ht⟩, -⟩ := h
    simp [hu] at ht
  have hpop : Beneath { w with threads := update w.threads v rest } n t b post :=
    h.shift [_] [] hv rfl (h.further hv hb) (by simp)
  have hidle : update w.threads v rest u = [] := by
    rw [update_of_ne (by rintro rfl; simp [hu] at hv), hu]
  refine hpop.shift [] [.asking k .liveness] hidle rfl (fun h ↦ absurd h hut) fun _ a ha ↦ ?_
  cases List.mem_singleton.mp ha
  exact hk

theorem answer (h : Beneath w n t b post) {k : Nat} {q : Stage} {rest : List (Activity ι)}
    (a : Answer) (hu : w.threads u = .asking k q :: rest) (hb : .asking k q ≠ b) :
    Beneath (w.answer u k q rest a) n t b post := by
  have hin := h.further hu hb
  have hk (hut : u ≠ t) : k ≠ n := h.number_ne hu hut
  unfold Interplay.answer
  split
  next q' _ => exact h.shift [_] [.asking k q'] hu rfl hin (by simpa [Activity.number] using hk)
  next => exact h.shift [_] [] hu rfl hin (by simp)
  next y _ => exact h.shift [_] [.announcing k y] hu rfl hin (by simpa [Activity.number] using hk)

end Beneath

namespace Overdue

variable {t m : Nat} {s : Snapshot} {post : List (Activity ι)}

theorem tell {ls : List ι} (h : Beneath w n t (.telling m s ls) post) (hl : l ∈ ls)
    (ht : w.threads t = .telling m s ls :: post) (hm : m ≠ n)
    (hpost : n ∉ post.map Activity.number) : Overdue (w.tell t m s post ls) n t m s post l := by
  cases ls with
  | nil => simp at hl
  | cons l' ls =>
    have hothers (u : Nat) (hu : u ≠ t) : n ∉ (w.tell t m s post (l' :: ls)).numbers u := by
      simpa only [numbers, Interplay.tell, update_of_ne hu] using h.2 u hu
    by_cases hl' : l' = l
    · refine .told m s (fun u ↦ ?_) (if_pos hl') hm
      by_cases hu : u = t
      · subst hu
        simp only [numbers, Interplay.tell, update_self, List.map_cons]
        exact List.not_mem_cons_of_ne_of_not_mem (Ne.symm hm) hpost
      · exact hothers u hu
    · exact .ahead ls ⟨⟨[], update_self ..⟩, hothers⟩
        ((List.mem_cons.mp hl).resolve_left (Ne.symm hl'))

theorem step (h : Overdue w n t m s post l) (hd : Delivering w) (hn : w.News n x) (hm : m ≠ n)
    (hpost : n ∉ post.map Activity.number) (hs : Step w w') : Overdue w' n t m s post l := by
  obtain ⟨infos, hpassed, rfl⟩ := hn
  have hbegun := hd.sound.recorded.begun_of_passed hpassed
  cases h with
  | told k y hnone hlast hk =>
    have hnone' := hs.renumbered.not_mem (Nat.ne_of_lt hbegun) hnone
    rcases hs.lastTold (l := l) with hsame | ⟨k', y', u, hlast', hk'⟩
    · exact .told k y hnone' (hsame.trans hlast) hk
    · exact .told k' y' hnone' hlast' fun hn ↦ hnone u (hn ▸ hk')
  | ahead ls h hl =>
    -- The delivery stays where it is in its thread, except where it is innermost and tells.
    cases hs with
    | request u apart => exact .ahead ls (h.request hbegun u apart) hl
    | @start v u k rest hv hu =>
      have hk : k ≠ n := by
        rintro rfl
        exact hpassed.not_silent (hd.sound.recorded.starting v k (by simp [hv]))
      exact .ahead ls (h.start hk hv hu (by simp)) hl
    | @failStart u k rest hu =>
      exact .ahead ls (h.shift [_] [] hu rfl (h.further hu (by simp)) (by simp)) hl
    | answer a hu => exact .ahead ls (h.answer a hu (by simp)) hl
    | @announce u k y rest hu =>
      exact .ahead ls (Beneath.tell (w := { w with log := _ :: w.log }) h hu rfl
        (h.further hu (by simp))) hl
    | @tell u k y ls' rest hu =>
      by_cases hin : u = t → ∃ top, rest = top ++ .telling m s ls :: post
      · exact .ahead ls (h.tell hu rfl hin) hl
      · -- the delivery itself is innermost
        obtain ⟨rfl, hrest⟩ := Classical.not_imp.mp hin
        obtain ⟨⟨top, ht⟩, -⟩ := id h
        rw [hu] at ht
        cases top with
        | nil =>
          cases ht
          exact tell h hl hu hm hpost
        | cons c top => exact absurd ⟨top, (List.cons.inj ht).2⟩ hrest
    | listen | unlisten => exact .ahead ls h hl

theorem run (h : Overdue w n t m s post l) (hd : Delivering w) (hn : w.News n x) (hm : m ≠ n)
    (hpost : n ∉ post.map Activity.number) (hrun : Run w w') : Overdue w' n t m s post l := by
  induction hrun with
  | refl => exact h
  | tail hrun hs ih => exact ih.step (hd.run hrun) (hd.news_run hrun hn) hm hpost hs

end Overdue

/-- The listener was last told of the snapshot of the replica, by the latest refresh that passed. -/
def UpToDate (w : Interplay ι) (l : ι) : Prop :=
  ∃ n infos, w.Passed n infos ∧ (∀ m infos, w.Passed m infos → m ≤ n) ∧
    lastTold? l w.log = some (n, w.replica.snapshot)

/-- The listener was last told of a snapshot by a refresh before one that passed. -/
def Outdated (w : Interplay ι) (l : ι) : Prop :=
  ∃ m s n infos, lastTold? l w.log = some (m, s) ∧ m < n ∧ w.Passed n infos

/-- A delivery is going on that has yet to tell the listener. -/
def Pending (l : ι) (as : List (Activity ι)) : Prop := ∃ a ∈ as, a.Ahead l

theorem UpToDate.not_outdated (h : w.UpToDate l) : ¬ w.Outdated l := by
  obtain ⟨n, _, -, hlatest, hlast⟩ := h
  rintro ⟨m, s, k, infos, hlast', hlt, hk⟩
  rw [hlast] at hlast'
  cases hlast'
  exact absurd (hlatest k infos hk) (by omega)

theorem told_of_lastTold {log : List (Event ι)} {m : Nat} {s : Snapshot}
    (h : lastTold? l log = some (m, s)) : .told m l s ∈ log := by
  induction log with
  | nil => cases h
  | cons e log ih =>
    cases e with
    | told k l' y =>
      simp only [lastTold?] at h
      split at h
      next hl => cases h; simp [hl]
      next => exact List.mem_cons_of_mem _ (ih h)
    | _ => exact List.mem_cons_of_mem _ (ih h)

omit [DecidableEq ι] in
theorem Latest.snapshot_of_news (h : Latest w) (hn : w.News n x)
    (hlatest : ∀ m infos, w.Passed m infos → m ≤ n) : w.replica.snapshot = x := by
  obtain ⟨infos, hpassed, rfl⟩ := hn
  cases h with
  | none hnone => exact absurd hpassed (hnone n infos)
  | passed m infos' hm hlast hsnapshot =>
    obtain rfl : n = m := Nat.le_antisymm (hlast n infos hpassed) (hlatest m infos' hm)
    rw [hsnapshot, hpassed.unique hm]

/-- When the latest refresh begins to tell those who listen: a listener that a delivery further out
on the same thread has yet to tell ends up with an older snapshot than the replica's. Where no other
thread has yet to tell it either, it is up to date in the end just if there is no such delivery. -/
theorem upToDate_iff {w₀ : Interplay ι} {t : Nat} {rest : List (Activity ι)} (hw₀ : Reachable w₀)
    (ht : w₀.threads t = .announcing n x :: rest) (hl : l ∈ w₀.replica.listeners)
    (hrun : Run (w₀.announce t n x rest) w) (hquiet : w.Quiet)
    (hlatest : ∀ m infos, w.Passed m infos → m ≤ n) :
    (Pending l rest → w.Outdated l) ∧
    ((∀ u ≠ t, ¬ Pending l (w₀.threads u)) → (w.UpToDate l ↔ ¬ Pending l rest)) := by
  have hd₀ := hw₀.delivering
  have hd₁ := hd₀.step (.announce ht)
  have hd := hd₁.run hrun
  have hn₁ : (w₀.announce t n x rest).News n x :=
    hd₀.news_run (.single (.announce ht)) (hd₀.truthful.telling t (.announcing n x) (by simp [ht]) n x rfl)
  have hn := hd₁.news_run hrun hn₁
  have houtdated : Pending l rest → w.Outdated l := by
    -- The delivery further out goes on behind this refresh, so what it tells comes last.
    rintro ⟨a, ha, hahead⟩
    obtain ⟨m, s, ls, rfl, hls⟩ : ∃ m s ls, a = .telling m s ls ∧ l ∈ ls := by
      cases a with
      | telling m s ls => exact ⟨m, s, ls, rfl, hahead⟩
      | announcing m s => exact absurd (hd₀.opened.rest ht _ ha) id
      | starting | asking => exact absurd hahead id
    obtain ⟨pre, post, rfl⟩ := List.append_of_mem ha
    obtain ⟨hbelow, hapart⟩ := hd₀.apart.unique ht
    simp only [Activity.number, List.map_append, List.map_cons, List.mem_append, List.mem_cons,
      not_or] at hbelow
    obtain ⟨-, hm, hpost⟩ := hbelow
    have hbeneath : Beneath (w₀.announce t n x (pre ++ .telling m s ls :: post)) n t
        (.telling m s ls) post :=
      Beneath.tell (w := { w₀ with log := .announced n w₀.replica.listeners :: w₀.log })
        ⟨⟨.announcing n x :: pre, ht⟩, hapart⟩ ht rfl fun _ ↦ ⟨pre, rfl⟩
    rcases (Overdue.ahead ls hbeneath hls).run hd₁ hn₁ (Ne.symm hm) hpost hrun with
      ⟨ls', ⟨⟨top, htop⟩, -⟩, -⟩ | ⟨k, y, -, hlast, hk⟩
    · simp [hquiet t] at htop
    · obtain ⟨infos, hpassed, -⟩ := hn
      obtain ⟨infos', hpassed', -⟩ := hd.truthful.told k l y (told_of_lastTold hlast)
      exact ⟨k, y, n, infos, hlast, Nat.lt_of_le_of_ne (hlatest k infos' hpassed') hk, hpassed⟩
  refine ⟨houtdated, fun hothers ↦ ⟨fun h hp ↦ h.not_outdated (houtdated hp), fun hp ↦ ?_⟩⟩
  -- With none further out the news stays ahead of the listener, or is what it was told last.
  have hfresh := (Fresh.announce hd₀ ht hl (fun a ha h ↦ hp ⟨a, ha, h⟩)
    fun u hu a ha h ↦ hothers u hu ⟨a, ha, h⟩).run hd₁ hn₁ hrun hlatest
  rcases hfresh.heard with ⟨u, ls, hu, -⟩ | hlast
  · simp [hquiet u] at hu
  · obtain ⟨infos, hpassed, -⟩ := id hn
    exact ⟨n, infos, hpassed, hlatest,
      by rw [hlast, hd.sound.latest.snapshot_of_news hn hlatest]⟩

/-- What a session with these variables answers to the calls of a refresh. -/
def replies (infos : List ValueInfo) : List Answer := [
  .alive true, .frames (.success (.many [.given ⟨0, "<module>", true, globalEnvironment⟩])),
  .values (.success (.one (.given { name := "" }))), .values (.success (.many (infos.map .given)))]

def answerAll {ι : Type} (w : Interplay ι) (t : Nat) : List Answer → Interplay ι
  | [] => w
  | a :: as => match w.threads t with
    | .asking n s :: rest => (w.answer t n s rest a).answerAll t as
    | _ => w

theorem run_answerAll {ι : Type} [BEq ι] (w : Interplay ι) (t : Nat) (as : List Answer) :
    Run w (w.answerAll t as) := by
  induction as generalizing w with
  | nil => exact .refl
  | cons a as ih =>
    unfold answerAll
    split
    next ht => exact .head (.answer a ht) (ih _)
    next => exact .refl

/-- A listener refreshes while it is told, and the listener after it is then told of the older
snapshot last. -/
theorem upToDate_iff_nested : ∃ w : Interplay Nat, Reachable w ∧ w.Quiet ∧ w.UpToDate 0 ∧
    w.Outdated 1 := by
  let w₁ : Interplay Nat := { replica := { listeners := [0, 1] } }
  let w₂ := (w₁.request 0 false).answerAll 0 (replies [])
  let w₃ := ((w₂.announce 0 0 {} []).request 0 false).answerAll 0 (replies [{ name := "x" }])
  let x : Snapshot := .ofInfos [{ name := "x" }]
  let w₄ := w₃.announce 0 1 x [.telling 0 {} [1]]
  let w₅ := w₄.tell 0 1 x [.telling 0 {} [1]] [1]
  let w₆ := w₅.tell 0 1 x [.telling 0 {} [1]] []
  let w₇ := (w₆.tell 0 0 {} [] [1]).tell 0 0 {} [] []
  have hw₁ : Reachable w₁ := ⟨none, .tail (.single (.listen 0 0 trivial)) (.listen 0 1 trivial)⟩
  have hw₂ : Run w₁ w₂ := (run_answerAll _ 0 _).head (.request 0 false trivial)
  have hw₃ : Run w₂ w₃ := ((run_answerAll _ 0 _).head
    (.request (w := w₂.announce 0 0 {} []) 0 false trivial)).head (.announce rfl)
  have hrun : Run w₄ w₇ := .tail (.tail (.tail (.single (.tell rfl)) (.tell rfl)) (.tell rfl)) (.tell rfl)
  have hw₃' : Reachable w₃ := hw₁.imp fun _ h ↦ (h.trans hw₂).trans hw₃
  have hidle (u : Nat) (hu : u ≠ 0) : w₃.threads u = [] := by
    cases u with
    | zero => exact absurd rfl hu
    | succ u => rfl
  have hquiet : w₇.Quiet := fun u ↦ by cases u <;> rfl
  have hw₇ : Reachable w₇ := hw₃'.imp fun _ h ↦ (h.tail (.announce rfl)).trans hrun
  have hlatest (m : Nat) (infos : List ValueInfo) (hm : w₇.Passed m infos) : m ≤ 1 := by
    have hbegun : m < 2 := hw₇.sound.recorded.begun_of_passed hm
    omega
  have hfirst := upToDate_iff (l := 0) hw₃' rfl (by decide) hrun hquiet hlatest
  have hsecond := upToDate_iff (l := 1) hw₃' rfl (by decide) hrun hquiet hlatest
  refine ⟨w₇, hw₇, hquiet, (hfirst.2 fun u hu ↦ ?_).mpr ?_, hsecond.1 ?_⟩
  · simp [Pending, hidle u hu]
  · simp [Pending, Activity.Ahead]
  · simp [Pending, Activity.Ahead]

/-- The same in a rehearsal: B is told of the older variables last. -/
example : let script (names : List String) : Script :=
      { locals := .gives (.success (.many (names.map fun n ↦ .given { name := n }))) }
    (((Rehearsal.performAll [
        .listen "A" [.unlisten "A", .change fun _ ↦ script ["y"], .refresh],
        .listen "B" [], .refresh]).run { script := script ["x"] }).2.events.filterMap fun
      | .told label names _ => some (label, names)
      | _ => none) = [("A", ["x"]), ("B", ["y"]), ("B", ["x"])] := by
  decide +kernel

end VariableExplorer.Replica.Interplay
