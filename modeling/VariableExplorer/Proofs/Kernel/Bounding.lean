import VariableExplorer.Proofs.Kernel.Collecting
import VariableExplorer.Proofs.Kernel.Variables

/-!
Listings with a pattern, a limit and a token, against the one without. A pattern, a limit and a
token decide how far the members are read and which of their descriptions are kept, but not what a
description says. So a listing that is not cancelled has the first of the plain descriptions that
the pattern wants, as many as the limit allows, and one that is cancelled was found so at a look.
-/

namespace VariableExplorer

open Eval

variable {env : Ref} {s t : Store} {infos rest : List ValueInfo} {i : ValueInfo}
  {found : Option (List ValueInfo)} {pattern : Option String} {limit : Option Int}
  {cancelled : Nat → Bool} {j : Nat}

namespace Inspection

def firstWanted (pattern : Option String) (limit : Option Int) (infos : List ValueInfo) :
    List ValueInfo :=
  let kept := infos.filter (wanted pattern ·.name)
  limit.elim kept fun n ↦ kept.take n.toNat

/-- A listing comes to the child at this place, as fewer than the limit are wanted before it. -/
def ComesTo (pattern : Option String) (limit : Option Int) (infos : List ValueInfo) (j : Nat) :
    Prop :=
  j < infos.length ∧ ∀ n ∈ limit, ((infos.take j).countP (wanted pattern ·.name) : Int) < n

/-- The looks at its token that a listing takes: one at the start, and one at each child it
comes to. -/
def TakesLook (pattern : Option String) (limit : Option Int) (infos : List ValueInfo) : Nat → Prop
  | 0 => True
  | j + 1 => ComesTo pattern limit infos j

/-- What may be collected of children with these descriptions. -/
inductive Collects (pattern : Option String) (limit : Option Int) (cancelled : Nat → Bool)
    (infos : List ValueInfo) : Option (List ValueInfo) → Prop
  | cancelled {j : Nat} : ComesTo pattern limit infos j → cancelled j = true →
      Collects pattern limit cancelled infos none
  | full : (∀ j, ComesTo pattern limit infos j → cancelled j = false) →
      Collects pattern limit cancelled infos (some (firstWanted pattern limit infos))

def remaining (limit : Option Int) (found : Nat) : Option Int := limit.map (· - (found : Int))

theorem remaining_zero (limit : Option Int) : remaining limit 0 = limit := by
  cases limit <;> simp [remaining]

theorem remaining_succ (limit : Option Int) (found : Nat) :
    remaining limit (found + 1) = (remaining limit found).map (· - 1) := by
  cases limit with
  | none => rfl
  | some n => exact congrArg some (by omega : n - ((found + 1 : Nat) : Int) = n - found - 1)

theorem remaining_any (limit : Option Int) (found : Nat) :
    (remaining limit found).any (· ≤ 0) = limit.any (· ≤ (found : Int)) := by
  cases limit with
  | none => rfl
  | some n => exact decide_eq_decide.mpr (by omega : n - (found : Int) ≤ 0 ↔ n ≤ found)

theorem firstWanted_reached (h : limit.any (· ≤ 0) = true) :
    firstWanted pattern limit infos = [] := by
  cases limit with
  | none => simp at h
  | some n =>
    have hn : n.toNat = 0 := by simpa using h
    simp [firstWanted, hn]

theorem firstWanted_unwanted (hi : wanted pattern i.name = false) :
    firstWanted pattern limit (i :: infos) = firstWanted pattern limit infos := by
  simp [firstWanted, hi]

theorem firstWanted_wanted (hroom : limit.any (· ≤ 0) = false)
    (hi : wanted pattern i.name = true) : firstWanted pattern limit (i :: infos) =
      i :: firstWanted pattern (limit.map (· - 1)) infos := by
  cases limit with
  | none => simp [firstWanted, hi]
  | some n =>
    have hn : n.toNat = (n - 1).toNat + 1 := by
      have : ¬ n ≤ 0 := by simpa using hroom
      omega
    simp only [firstWanted, Option.elim_some, Option.map_some]
    rw [hn, List.filter_cons_of_pos (by exact hi), List.take_succ_cons]

theorem not_comesTo_of_reached (h : limit.any (· ≤ 0) = true) :
    ¬ ComesTo pattern limit infos j := by
  rintro ⟨-, hroom⟩
  cases limit with
  | none => simp at h
  | some n =>
    have hn : n ≤ 0 := by simpa using h
    have := hroom n rfl
    omega

theorem comesTo_zero (hroom : limit.any (· ≤ 0) = false) :
    ComesTo pattern limit (i :: infos) 0 := by
  refine ⟨by simp, fun n hn ↦ ?_⟩
  cases hn
  simpa using hroom

theorem comesTo_succ_unwanted (hi : wanted pattern i.name = false) :
    ComesTo pattern limit (i :: infos) (j + 1) ↔ ComesTo pattern limit infos j := by
  simp [ComesTo, hi]

theorem comesTo_succ_wanted (hi : wanted pattern i.name = true) :
    ComesTo pattern limit (i :: infos) (j + 1) ↔ ComesTo pattern (limit.map (· - 1)) infos j := by
  have hcount (n : Int) : ((infos.take j).countP (wanted pattern ·.name) + 1 : Nat) < n ↔
      ((infos.take j).countP (wanted pattern ·.name) : Int) < n - 1 := by omega
  have hplace : j + 1 < (i :: infos).length ↔ j < infos.length := Nat.succ_lt_succ_iff
  refine and_congr hplace ?_
  rw [List.take_succ_cons, List.countP_cons_of_pos (by exact hi)]
  cases limit with
  | none => simp
  | some n =>
    simp only [Option.mem_some_iff, Option.map_some, forall_eq']
    exact hcount n

namespace Collects

theorem nil : Collects pattern limit cancelled [] (some []) := by
  have h : firstWanted pattern limit [] = [] := by cases limit <;> simp [firstWanted]
  rw [← congrArg some h]
  exact full fun _ hj ↦ absurd hj.1 (Nat.not_lt_zero _)

theorem reached (h : limit.any (· ≤ 0) = true) :
    Collects pattern limit cancelled infos (some []) :=
  firstWanted_reached h ▸ full fun _ hj ↦ absurd hj (not_comesTo_of_reached h)

variable (hroom : limit.any (· ≤ 0) = false) (hgoes : cancelled 0 = false)

include hgoes

theorem skip (hi : wanted pattern i.name = false)
    (h : Collects pattern limit (fun j ↦ cancelled (j + 1)) infos found) :
    Collects pattern limit cancelled (i :: infos) found := by
  cases h with
  | cancelled hj hset => exact .cancelled ((comesTo_succ_unwanted hi).mpr hj) hset
  | full h =>
    rw [← firstWanted_unwanted hi]
    refine .full fun j hj ↦ ?_
    cases j with
    | zero => exact hgoes
    | succ j => exact h j ((comesTo_succ_unwanted hi).mp hj)

include hroom

theorem keep (hi : wanted pattern i.name = true)
    (h : Collects pattern (limit.map (· - 1)) (fun j ↦ cancelled (j + 1)) infos found) :
    Collects pattern limit cancelled (i :: infos) (found.map (i :: ·)) := by
  cases h with
  | cancelled hj hset => exact .cancelled ((comesTo_succ_wanted hi).mpr hj) hset
  | full h =>
    rw [Option.map_some, ← firstWanted_wanted hroom hi]
    refine .full fun j hj ↦ ?_
    cases j with
    | zero => exact hgoes
    | succ j => exact h j ((comesTo_succ_wanted hi).mp hj)

end Collects

theorem describeChild_store {properties : List Property} {c : Child}
    (h : (describeChild properties c).run s = (.ok i, t)) : t = s := by
  rcases hrun : (describe (childRequest properties c) c.value).run s with ⟨result, u⟩
  obtain rfl : s = u := congrArg Prod.snd hrun
  cases result with
  | ok j =>
    rw [describeChild_run_of_ok hrun] at h
    exact (congrArg Prod.snd h).symm
  | error f =>
    rw [describeChild_run_of_error hrun] at h
    exact (congrArg Prod.snd h).symm

variable {properties : List Property} {m : Eval (Option Child)} {ms : List (Eval (Option Child))}
  {looks looks' n n' : Nat}

theorem collect_plain_cons
    (h : (collect properties none none (fun _ ↦ false) looks n (m :: ms)).run s =
      (.ok (some infos), t)) : ∃ u looks n rest,
      (collect properties none none (fun _ ↦ false) looks n ms).run u = (.ok (some rest), t) ∧
      (m.run s = (.ok none, u) ∧ infos = rest ∨ ∃ c i, m.run s = (.ok (some c), u) ∧
        (describeChild properties c).run u = (.ok i, u) ∧ infos = i :: rest) := by
  obtain ⟨read, u, hread, hgoes⟩ := collect_cons_eq_ok h
  cases hgoes with
  | absent hrest => exact ⟨u, looks, n, infos, hrest, .inl ⟨hread, rfl⟩⟩
  | enough hreached => cases hreached
  | unwanted _ _ hunwanted => cases hunwanted
  | @described c i u' rest _ _ _ hdescribed hrest =>
    obtain rfl := describeChild_store hdescribed
    exact ⟨u', _, _, rest, hrest, .inr ⟨c, i, hread, hdescribed, rfl⟩⟩

theorem collect_cons_collects {c : Child} {u : Store} (hread : m.run s = (.ok (some c), u))
    (hdescribed : (describeChild properties c).run u = (.ok i, u))
    (hrest : ∀ n, ∃ found w,
      (collect properties pattern limit cancelled (looks + 1) n ms).run u = (.ok found, w) ∧
      Collects pattern (remaining limit n) (fun j ↦ cancelled (looks + 1 + j)) infos found) :
    ∃ found w, (collect properties pattern limit cancelled looks n (m :: ms)).run s =
        (.ok found, w) ∧
      Collects pattern (remaining limit n) (fun j ↦ cancelled (looks + j)) (i :: infos) found := by
  have hname := (describeChild_eq_ok hdescribed).1
  have hlooks : (fun j ↦ cancelled (looks + 1 + j)) = fun j ↦ cancelled (looks + (j + 1)) := by
    funext j
    rw [Nat.add_assoc, Nat.add_comm 1 j]
  simp only [hlooks] at hrest
  rw [collect, run_bind_of_ok hread]
  dsimp only
  by_cases hreached : limit.any (· ≤ (n : Int)) = true
  · rw [if_pos hreached]
    exact ⟨_, u, rfl, .reached (by rwa [remaining_any])⟩
  have hroom : (remaining limit n).any (· ≤ 0) = false := by
    rwa [remaining_any, ← Bool.not_eq_true]
  rw [if_neg hreached]
  cases hset : cancelled looks with
  | true => exact ⟨_, u, rfl, .cancelled (comesTo_zero hroom) hset⟩
  | false =>
    cases hwanted : wanted pattern c.name with
    | false =>
      obtain ⟨found, w, hrun, hfound⟩ := hrest n
      exact ⟨found, w, hrun, .skip hset (hname ▸ hwanted) hfound⟩
    | true =>
      obtain ⟨found, w, hrun, hfound⟩ := hrest (n + 1)
      rw [remaining_succ] at hfound
      refine ⟨found.map (i :: ·), w, ?_, .keep hroom hset (hname ▸ hwanted) hfound⟩
      show (describeChild properties c >>= _).run u = _
      rw [run_bind_of_ok hdescribed, run_bind_of_ok hrun]
      rfl

theorem collect_collects (pattern : Option String) (limit : Option Int) (cancelled : Nat → Bool)
    (looks n : Nat) (h : (collect properties none none (fun _ ↦ false) looks' n' ms).run s =
      (.ok (some infos), t)) : ∃ found u,
      (collect properties pattern limit cancelled looks n ms).run s = (.ok found, u) ∧
      Collects pattern (remaining limit n) (fun j ↦ cancelled (looks + j)) infos found := by
  induction ms generalizing s infos looks looks' n n' with
  | nil =>
    cases h
    exact ⟨_, t, rfl, .nil⟩
  | cons m ms ih =>
    -- Descriptions leave the store as it is, so both listings read the next member in the same one.
    obtain ⟨u, looks', n', rest, hrest, ⟨hread, rfl⟩ | ⟨c, i, hread, hdescribed, rfl⟩⟩ :=
      collect_plain_cons h
    · rw [collect, run_bind_of_ok hread]
      exact ih looks n hrest
    · exact collect_cons_collects hread hdescribed fun n ↦ ih (looks + 1) n hrest

theorem children_run_of_set (hset : cancelled 0 = true) (r : ChildrenRequest) (s : Store) :
    (children env r cancelled).run s = (.ok .cancelled, s) := by
  rw [children, if_pos hset]
  rfl

end Inspection

theorem Kernel.fst_children {κ : Type} {k : Kernel κ} (hopen : k.closed = false)
    (r : ChildrenRequest) (cancelled : Nat → Bool) : (k.children r cancelled).1 =
      ((Inspection.children k.env r cancelled).run k.store).1 := by
  rw [children, inspect, if_neg (by simp [hopen])]
  rfl

open Inspection in
/-- Where all children can be listed, a pattern, a limit and a token leave two outcomes. If one of
the looks that the listing takes finds the token set, it is cancelled; otherwise it has the first
of the plain descriptions that the pattern wants, as many as the limit allows. -/
theorem Kernel.children_bounded {κ : Type} {k : Kernel κ} {r : ChildrenRequest}
    (hopen : k.closed = false)
    (hplain : (k.children { r with pattern := none, limit := none }).1 = .ok (.success infos))
    (cancelled : Nat → Bool) :
    (∃ look, TakesLook r.pattern r.limit infos look ∧ cancelled look = true) ∧
        (k.children r cancelled).1 = .ok .cancelled ∨
      (∀ look, TakesLook r.pattern r.limit infos look → cancelled look = false) ∧
        (k.children r cancelled).1 = .ok (.success (firstWanted r.pattern r.limit infos)) := by
  rw [fst_children hopen] at hplain ⊢
  cases hstart : cancelled 0 with
  | true => exact .inl ⟨⟨0, trivial, hstart⟩, by rw [children_run_of_set hstart]⟩
  | false =>
    obtain ⟨env, ms, u, v, henv, hms, hcollected⟩ := children_eq_ok (Prod.ext hplain rfl)
    obtain ⟨found, w, hcollected, hfound⟩ :=
      collect_collects r.pattern r.limit cancelled 1 0 hcollected
    have hlisted : (environment k.env r.environment >>= fun env ↦ childrenOf env r.expression >>=
        fun ms ↦ collect r.properties r.pattern r.limit cancelled 1 0 ms).run k.store =
        (.ok found, w) := by
      rw [run_bind_of_ok henv, run_bind_of_ok hms]
      exact hcollected
    rw [children_run_of_found hstart hlisted]
    rw [remaining_zero] at hfound
    cases hfound with
    | @cancelled j hj hset =>
      exact .inl ⟨⟨j + 1, hj, by rwa [Nat.add_comm]⟩, rfl⟩
    | full hgoes =>
      refine .inr ⟨fun look hlook ↦ ?_, rfl⟩
      cases look with
      | zero => exact hstart
      | succ j => exact Nat.add_comm j 1 ▸ hgoes j hlook

def threeKeys : Recipe :=
  Recipe.dict [(pure (.str "k0"), pure (.int 0)), (pure (.str "k1"), pure (.int 1)),
    (pure (.str "l"), pure (.int 2))]

def threeEntries : List (Value × Value) :=
  [(.str "k0", .int 0), (.str "k1", .int 1), (.str "l", .int 2)]

/-- The second key that fits the pattern is beyond the limit, so nothing is seen of a token that is
set only then. -/
theorem children_bounded_threeKeys : ∃ (k : Kernel Empty) (infos : List ValueInfo),
    Kernel.new ["globals"] [("d", threeKeys)] false = .ok k ∧
    (k.children ⟨globalEnvironment, "d", [], none, none, none, false⟩).1 = .ok (.success infos) ∧
    infos.map (·.name) = ["$k0", "$k1", "$l"] ∧
    (k.children ⟨globalEnvironment, "d", [], some "$k*", some 1, none, false⟩
      fun look ↦ look = 2).1 = .ok (.success [{ name := "$k0" }]) := by
  obtain ⟨k, hk, hd⟩ : ∃ k : Kernel Empty, k.Lone threeKeys (.ref 2) ∧
      k.store.IsDict 2 threeEntries :=
    ⟨_, ⟨rfl, rfl, ⟨_, _, rfl, by decide⟩, nofun⟩, rfl⟩
  have hkind : k.store.isKind (.ref 2) mappingKinds = true := by
    rw [Store.isKind, hd.classOf]
    rfl
  obtain ⟨t, hlisted, -⟩ := hd.itemised.enumerates hkind
  let plain : ChildrenRequest := ⟨globalEnvironment, "d", [], none, none, none, false⟩
  have hcollected : (Inspection.collect [] none none (fun _ ↦ false) 1 0
      (threeEntries.map fun e ↦ Child.ofEntry "d" e.1 e.2)).run t =
      (.ok (some [{ name := "$k0" }, { name := "$k1" }, { name := "$l" }]), t) := rfl
  have hlisting := Inspection.children_run_of_ok (r := plain)
    ((Inspection.listing_run hk.evaluateChain_run hk.other hlisted _).trans hcollected)
  have hplain : (k.children plain).1 =
      .ok (.success [{ name := "$k0" }, { name := "$k1" }, { name := "$l" }]) := by
    rw [Kernel.fst_children hk.isOpen, hlisting]
  refine ⟨k, _, hk.made, hplain, rfl, ?_⟩
  obtain ⟨⟨look, hlook, hset⟩, -⟩ | ⟨-, hbounded⟩ := Kernel.children_bounded
    (r := ⟨globalEnvironment, "d", [], some "$k*", some 1, none, false⟩) hk.isOpen hplain
    fun look ↦ look = 2
  · obtain rfl : look = 2 := by simpa using hset
    exact absurd (hlook.2 1 rfl) (by decide +kernel)
  · exact hbounded

end VariableExplorer
