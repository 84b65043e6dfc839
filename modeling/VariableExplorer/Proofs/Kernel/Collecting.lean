import VariableExplorer.Proofs.Description.Growth
import VariableExplorer.Proofs.Kernel.Desk
import VariableExplorer.Proofs.Kernel.Itemising

/-!
What an inspection has collected. Each description that it gives is that of a member which was read
of the value, so what is reached by a name is listed under that name.
-/

namespace VariableExplorer

open Eval

variable {env : Ref} {s t : Store} {v : Value} {e : String} {infos : List ValueInfo}
  {ms : List (Eval (Option Child))}

theorem Child.ofEnvironment_kind (h : (ofEnvironment env).run s = (.ok ms, t)) :
    ∀ m ∈ ms, Grows m ∧ ∀ u u' c, m.run u = (.ok (some c), u') → c.kind = .other := by
  cases h
  intro m hm
  obtain ⟨⟨k, v⟩, -, rfl⟩ := List.mem_map.mp hm
  refine ⟨by grind, fun u u' c hread ↦ ?_⟩
  cases k with
  | str name =>
    cases hread
    rfl
  | _ => cases hread

namespace Inspection

open Child

variable {properties : List Property} {cancelled : Nat → Bool}

theorem describeChild_grows (c : Child) : Grows (describeChild properties c) := by
  unfold describeChild
  grind

/-- How a listing that succeeds goes on with what it has read of one more child. -/
inductive Proceeds (properties : List Property) (pattern : Option String) (limit : Option Int)
    (cancelled : Nat → Bool) (looks found : Nat) (ms : List (Eval (Option Child))) (s t : Store) :
    Option Child → List ValueInfo → Prop
  | absent {infos : List ValueInfo} :
      (collect properties pattern limit cancelled looks found ms).run s = (.ok (some infos), t) →
      Proceeds properties pattern limit cancelled looks found ms s t none infos
  | enough {c : Child} : limit.any (· ≤ (found : Int)) = true →
      Proceeds properties pattern limit cancelled looks found ms s t (some c) []
  | unwanted {c : Child} {infos : List ValueInfo} : limit.any (· ≤ (found : Int)) = false →
      cancelled looks = false → wanted pattern c.name = false →
      (collect properties pattern limit cancelled (looks + 1) found ms).run s =
        (.ok (some infos), t) →
      Proceeds properties pattern limit cancelled looks found ms s t (some c) infos
  | described {c : Child} {i : ValueInfo} {u : Store} {infos : List ValueInfo} :
      limit.any (· ≤ (found : Int)) = false → cancelled looks = false →
      wanted pattern c.name = true → (describeChild properties c).run s = (.ok i, u) →
      (collect properties pattern limit cancelled (looks + 1) (found + 1) ms).run u =
        (.ok (some infos), t) →
      Proceeds properties pattern limit cancelled looks found ms s t (some c) (i :: infos)

theorem collect_cons_eq_ok {pattern : Option String} {limit : Option Int} {looks found : Nat}
    {m : Eval (Option Child)}
    (h : (collect properties pattern limit cancelled looks found (m :: ms)).run s =
      (.ok (some infos), t)) : ∃ read u, m.run s = (.ok read, u) ∧
        Proceeds properties pattern limit cancelled looks found ms u t read infos := by
  obtain ⟨read, u, hread, h⟩ := run_bind_eq_ok h
  refine ⟨read, u, hread, ?_⟩
  cases read with
  | none => exact .absent h
  | some c =>
    dsimp only at h
    split at h
    next hlimit =>
      cases h
      exact .enough hlimit
    next hlimit =>
    split at h
    · cases h
    next hset =>
    split at h
    next hunwanted =>
      exact .unwanted (by simpa using hlimit) (by simpa using hset) (by simpa using hunwanted) h
    next hwanted =>
    obtain ⟨i, u', hdescribed, h⟩ := run_bind_eq_ok h
    obtain ⟨rest, w, hrest, h⟩ := run_bind_eq_ok h
    cases rest with
    | none => cases h
    | some rest =>
      cases h
      exact .described (by simpa using hlimit) (by simpa using hset) (by simpa using hwanted)
        hdescribed hrest

theorem collect_mem {pattern : Option String} {limit : Option Int} {looks found : Nat}
    (hms : ∀ m ∈ ms, Grows m) (hkind : properties.contains .accessorKind = true)
    (h : (collect properties pattern limit cancelled looks found ms).run s =
      (.ok (some infos), t)) : ∀ i ∈ infos, ∃ m ∈ ms, ∃ u u' c, s.Keeps u ∧
        m.run u = (.ok (some c), u') ∧ i.name = c.name ∧ i.accessorKind = c.kind := by
  induction ms generalizing s looks found infos with
  | nil =>
    cases h
    exact fun i hi ↦ nomatch hi
  | cons m ms ih =>
    obtain ⟨hm, hms⟩ := List.forall_mem_cons.mp hms
    obtain ⟨read, u, hread, h⟩ := collect_cons_eq_ok h
    have hk := hm.keeps hread
    -- What the other members give is found further on.
    have hrest {s' : Store} {looks found : Nat} {infos : List ValueInfo} (hk : s.Keeps s')
        (h : (collect properties pattern limit cancelled looks found ms).run s' =
          (.ok (some infos), t)) : ∀ i ∈ infos, ∃ m' ∈ m :: ms, ∃ u u' c, s.Keeps u ∧
            m'.run u = (.ok (some c), u') ∧ i.name = c.name ∧ i.accessorKind = c.kind := by
      intro i hi
      obtain ⟨m', hm', w, w', c, hk', hrun, hsame⟩ := ih hms h i hi
      exact ⟨m', List.mem_cons_of_mem m hm', w, w', c, hk.trans hk', hrun, hsame⟩
    cases h with
    | absent h => exact hrest hk h
    | enough => exact fun i hi ↦ nomatch hi
    | unwanted _ _ _ h => exact hrest hk h
    | @described c _ _ _ _ _ _ hdescribed hcollected =>
      have hk₁ := (describeChild_grows c).keeps hdescribed
      obtain ⟨hname, hasked⟩ := describeChild_eq_ok hdescribed
      exact List.forall_mem_cons.mpr ⟨⟨m, List.mem_cons_self, s, u, c, .refl s, hread, hname,
        hasked hkind⟩, hrest (hk.trans hk₁) hcollected⟩

theorem settled_eq_ok {α : Type} {x : Eval α} {a : α} {error : Option String}
    (h : (settled x).run s = (.ok ⟨.ok, some a, error⟩, t)) : x.run s = (.ok a, t) := by
  rcases hrun : x.run s with ⟨result, u⟩
  cases result with
  | ok b =>
    rw [settled_run_of_ok hrun] at h
    cases h
    rfl
  | error f =>
    cases hf : f.isOrdinary with
    | true =>
      rw [settled_run_of_error hrun hf] at h
      cases h
    | false =>
      rw [settled_run_of_stop hrun hf] at h
      cases h

theorem children_eq_ok {r : ChildrenRequest} {error : Option String}
    (h : (children env r cancelled).run s = (.ok ⟨.ok, some infos, error⟩, t)) :
    ∃ env' ms u u', (environment env r.environment).run s = (.ok env', u) ∧
      (childrenOf env' r.expression).run u = (.ok ms, u') ∧
      (collect r.properties r.pattern r.limit cancelled 1 0 ms).run u' = (.ok (some infos), t) := by
  rw [children] at h
  split at h
  · cases h
  obtain ⟨found, u, hfound, h⟩ := run_bind_eq_ok h
  split at h
  · cases h
  · cases h
    obtain ⟨env', u', henv, hlisted⟩ := run_bind_eq_ok (settled_eq_ok hfound)
    obtain ⟨ms, w, hms, hcollected⟩ := run_bind_eq_ok hlisted
    exact ⟨env', ms, u', w, henv, hms, hcollected⟩
  · injection h with h
    injection h with h
    injection h with _ h
    cases h

/-- What is listed behind an expression and reached by a name, the value presents under it. -/
theorem children_presents {r : ChildrenRequest} {error : Option String}
    (henv : r.environment = globalEnvironment)
    (hkind : r.properties.contains .accessorKind = true)
    (h : (children env r cancelled).run s = (.ok ⟨.ok, some infos, error⟩, t)) :
    ∃ v u, (evaluateChain env r.expression).run s = (.ok v, u) ∧ ∀ i ∈ infos,
      i.accessorKind = .dollar ∨ i.accessorKind = .at → ∃ way name w,
        i.name = way.selector.char.toString ++ name ∧ u.Presents v way name w := by
  obtain ⟨env', ms, s', u, hglobal, hms, hcollected⟩ := children_eq_ok h
  rw [henv, environment_global] at hglobal
  cases hglobal
  obtain ⟨v, u₁, hv, hms⟩ := run_bind_eq_ok hms
  refine ⟨v, u₁, hv, fun i hi hselected ↦ ?_⟩
  -- The members are those of a value, or else the variables.
  obtain hmembers | henvironment : (members v r.expression).run u₁ = (.ok ms, u) ∨
      (ofEnvironment env).run u₁ = (.ok ms, u) := by
    split at hms
    · split at hms
      · exact .inr hms
      · exact .inl hms
    · exact .inl hms
  · have horigin := Store.members_origin hmembers
    have hk := (members_grows v r.expression).keeps hmembers
    obtain ⟨m, hm, w, w', c, hk', hread, hname, hsame⟩ :=
      collect_mem (fun m hm ↦ (horigin m hm).grows) hkind hcollected i hi
    rw [hsame] at hselected
    obtain ⟨way, name, hc, hpresents⟩ :=
      Store.presents_of_origin (horigin m hm) (hk.trans hk') hread hselected
    exact ⟨way, name, c.value, hname.trans hc, hpresents⟩
  · have hvariable := ofEnvironment_kind henvironment
    obtain ⟨m, hm, w, w', c, -, hread, -, hsame⟩ :=
      collect_mem (fun m hm ↦ (hvariable m hm).1) hkind hcollected i hi
    have hother := (hvariable m hm).2 w w' c hread
    rw [hsame, hother] at hselected
    simp at hselected

end Inspection

theorem Kernel.answer_children_eq_ok {κ : Type} {k : Kernel κ} {r : ChildrenRequest}
    {es : List (Element ValueInfo)} {error : Option String}
    (h : (k.answer (.children r)).1 = .values ⟨.ok, some (.many es), error⟩) : ∃ infos t,
      es = infos.map .given ∧ (Inspection.children k.env r fun _ ↦ false).run k.store =
        (.ok ⟨.ok, some infos, error⟩, t) := by
  cases hopen : k.closed with
  | true =>
    simp [answer, children, inspect, hopen, Outcome.transportError, listPayload] at h
  | false =>
    rcases hrun : (Inspection.children k.env r fun _ ↦ false).run k.store with ⟨result, t⟩
    cases result with
    | ok o =>
      rw [answer_children hopen hrun] at h
      obtain ⟨status, value, error'⟩ := o
      cases value with
      | none => simp [listPayload] at h
      | some infos =>
        simp only [listPayload, Option.map_some, Answer.values.injEq, Outcome.mk.injEq,
          Option.some.injEq, Payload.many.injEq] at h
        obtain ⟨rfl, rfl, rfl⟩ := h
        exact ⟨infos, t, rfl, rfl⟩
    | error f =>
      simp only [answer, children, inspect, hopen, Bool.false_eq_true, if_false, eval, hrun] at h
      cases h

end VariableExplorer
