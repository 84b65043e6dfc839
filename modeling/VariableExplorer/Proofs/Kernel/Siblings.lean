import VariableExplorer.Proofs.Kernel.Bounding
import VariableExplorer.Proofs.Value.Recipe

/-!
Whether one bad member hides the others. A member that cannot be described does not; but one that
raises when it is read, or when its name is made, does: then nothing is listed at all, whether the
others come before it or after it.
-/

namespace VariableExplorer

open Eval

variable {s t u : Store} {properties : List Property} {ms : List (Eval (Option Child))}

namespace Child

/-- A member that nothing can keep from being read and named. -/
def Ready (m : Eval (Option Child)) : Prop := ∀ s, ∃ c, m.run s = (.ok (some c), s)

/-- Elements, attributes and entries under a text are there to be had; columns, slots and other
keys are not. -/
inductive Source.IsReady : Source → Prop
  | entry (text : String) (w : Value) : IsReady (.entry (.str text) w)
  | element (i : Nat) (w : Value) : IsReady (.element i w)
  | own (name : String) (w : Value) : IsReady (.own name w)
  | declared (name : String) (f : Found) (w : Value) : IsReady (.declared name f w)

theorem Source.IsReady.ready {source : Source} (h : source.IsReady) (v : Value) (e : String) :
    Ready (source.read v e) := by
  intro s
  cases h <;> exact ⟨_, rfl⟩

end Child

namespace Inspection

open Child

/-- What is told of a child: its full description or, just where describing it raises, the bare
one. -/
inductive Portrays (properties : List Property) (since now : Store) (c : Child) (i : ValueInfo) :
    Prop
  | full {u : Store} : since.Keeps u → u.Keeps now →
      (describe (childRequest properties c) c.value).run u = (.ok i, u) →
      Portrays properties since now c i
  | bare {u : Store} {f : Fault} : since.Keeps u → u.Keeps now →
      (describe (childRequest properties c) c.value).run u = (.error f, u) →
      i = describeBare (childRequest properties c) u c.value → Portrays properties since now c i

namespace Portrays

variable {c : Child} {i : ValueInfo}

theorem mono {since earlier now later : Store} (h : Portrays properties since now c i)
    (hearlier : earlier.Keeps since) (hlater : now.Keeps later) :
    Portrays properties earlier later c i := by
  cases h with
  | full hu hu' hrun => exact .full (hearlier.trans hu) (hu'.trans hlater) hrun
  | bare hu hu' hrun hi => exact .bare (hearlier.trans hu) (hu'.trans hlater) hrun hi

theorem name_eq {since now : Store} (h : Portrays properties since now c i) : i.name = c.name := by
  cases h with
  | full _ _ hrun => exact (describe_eq_ok hrun).1
  | bare _ _ _ hi =>
    rw [hi]
    rfl

theorem names {since now : Store} {cs : List Child} {infos : List ValueInfo}
    (h : List.Forall₂ (Portrays properties since now) cs infos) :
    infos.map (·.name) = cs.map (·.name) := by
  rw [← List.forall₂_eq_eq_eq, List.forall₂_map_left_iff, List.forall₂_map_right_iff]
  exact h.flip.imp fun _ _ h ↦ h.name_eq

end Portrays

theorem describeChild_portrays (properties : List Property) (hs : s.Civil) (c : Child) : ∃ i,
    (describeChild properties c).run s = (.ok i, s) ∧ Portrays properties s s c i := by
  rcases hrun : (describe (childRequest properties c) c.value).run s with ⟨result, u⟩
  obtain rfl : s = u := congrArg Prod.snd hrun
  have hends := (describe_yields _ _).ends hs hrun
  cases result with
  | ok i => exact ⟨i, describeChild_run_of_ok hrun, .full (.refl s) (.refl s) hrun⟩
  | error f =>
    refine ⟨_, ?_, .bare (.refl s) (.refl s) hrun rfl⟩
    rw [describeChild_run_of_error hrun, if_pos (hends.failure f rfl)]

/-- Members are read one after the other. Either all of them can be, and each that is there is told
of, or the first that cannot be is all that becomes known. -/
theorem collect_reads (hms : Child.AllTame ms) (hs : s.Civil) (looks n : Nat) :
    (∃ cs infos t, (readAll ms).run s = (.ok (cs, none), t) ∧ s.Keeps t ∧
      (collect properties none none (fun _ ↦ false) looks n ms).run s = (.ok (some infos), t) ∧
      List.Forall₂ (Portrays properties s t) cs infos) ∨
    ∃ before m after cs f u t, ms = before ++ m :: after ∧
      (readAll before).run s = (.ok (cs, none), u) ∧ m.run u = (.error f, t) ∧
      f.isOrdinary = true ∧
      (collect properties none none (fun _ ↦ false) looks n ms).run s = (.error f, t) := by
  induction ms generalizing s looks n with
  -- The next member is read where the ones before have left the store, hence `s` is general.
  | nil => exact .inl ⟨[], [], s, rfl, .refl s, rfl, .nil⟩
  | cons m ms ih =>
    obtain ⟨hm, hms⟩ := List.forall_mem_cons.mp hms
    rcases hread : m.run s with ⟨f | found, u⟩
    · have hf := (hm.ends hs hread).failure f rfl
      exact .inr ⟨[], m, ms, [], f, s, u, rfl, rfl, hread, hf, run_bind_of_error hread⟩
    obtain ⟨hkeeps, hu, -, -⟩ := hm.ends hs hread
    cases found with
    | none =>
      have hgoes : ∀ n, (collect properties none none (fun _ ↦ false) looks n (m :: ms)).run s =
          (collect properties none none (fun _ ↦ false) looks n ms).run u :=
        fun n ↦ run_bind_of_ok hread
      obtain ⟨cs, infos, t, hcs, hk, hrun, hall⟩ |
        ⟨before, m', after, cs, f, u', t, rfl, hcs, hm', hf, hrun⟩ := ih hms hu looks n
      · exact .inl ⟨cs, infos, t, readAll_cons_of_ok hread hcs, hkeeps.trans hk,
          (hgoes n).trans hrun, hall.imp fun _ _ h ↦ h.mono hkeeps (.refl t)⟩
      · exact .inr ⟨m :: before, m', after, cs, f, u', t, rfl, readAll_cons_of_ok hread hcs, hm',
          hf, (hgoes n).trans hrun⟩
    | some c =>
      obtain ⟨i, hdescribed, hi⟩ := describeChild_portrays properties hu c
      have hgoes : (collect properties none none (fun _ ↦ false) looks n (m :: ms)).run s =
          (collect properties none none (fun _ ↦ false) (looks + 1) (n + 1) ms >>= fun rest ↦
            Pure.pure (rest.map (i :: ·))).run u := by
        rw [collect, run_bind_of_ok hread]
        exact run_bind_of_ok hdescribed
      rw [hgoes]
      obtain ⟨cs, infos, t, hcs, hk, hrun, hall⟩ |
        ⟨before, m', after, cs, f, u', t, rfl, hcs, hm', hf, hrun⟩ := ih hms hu (looks + 1) (n + 1)
      · refine .inl ⟨c :: cs, i :: infos, t, readAll_cons_of_ok hread hcs, hkeeps.trans hk,
          (run_bind_of_ok hrun).trans rfl, .cons (hi.mono hkeeps hk) ?_⟩
        exact hall.imp fun _ _ h ↦ h.mono hkeeps (.refl t)
      · exact .inr ⟨m :: before, m', after, c :: cs, f, u', t, rfl, readAll_cons_of_ok hread hcs,
          hm', hf, run_bind_of_error hrun⟩

theorem childrenOf_allTame {env env' : Ref} {expression : String} (hs : Shell.Sound env s)
    (h : (childrenOf env' expression).run s = (.ok ms, t)) : Child.AllTame ms ∧ t.Civil := by
  obtain ⟨v, u, hv, h⟩ := run_bind_eq_ok h
  have hu := ((evaluateChain_endures env' expression).upholds.sound hs hv).civil
  have hends : Ends Child.AllTame u (.ok ms, t) := by
    refine Yields.ends ?_ hu h
    split
    · exact .ite (ofEnvironment_yields env') (members_yields _ _)
    · exact members_yields _ _
  exact ⟨hends.result ms rfl, hends.civil⟩

end Inspection

open Inspection in
/-- An open kernel whose values raise but ordinary failures, and an expression whose members can be
listed. If each of them can be read and named in its turn, the children are those that were read,
each with its description or else the bare one. If not, there are none at all: the outcome is the
first failure. -/
theorem Kernel.children_siblings {κ : Type} {k : Kernel κ} (hopen : k.closed = false)
    (hs : Shell.Sound k.env k.store) {r : ChildrenRequest} (hpattern : r.pattern = none)
    (hlimit : r.limit = none) {env : Ref}
    (henv : (environment k.env r.environment).run k.store = (.ok env, s))
    (hms : (childrenOf env r.expression).run s = (.ok ms, t)) :
    (∃ cs infos u, (Child.readAll ms).run t = (.ok (cs, none), u) ∧
      (k.children r).1 = .ok (.success infos) ∧
      List.Forall₂ (Portrays r.properties t u) cs infos) ∨
    ∃ before m after cs f u, ms = before ++ m :: after ∧
      (Child.readAll before).run t = (.ok (cs, none), u) ∧ (m.run u).1 = .error f ∧
      (k.children r).1 = .ok (.evaluationError f.report) := by
  have hs' := (environment_endures k.env r.environment).upholds.sound hs henv
  obtain ⟨htame, ht⟩ := childrenOf_allTame hs' hms
  have hlisted : (environment k.env r.environment >>= fun env ↦ childrenOf env r.expression >>=
      fun ms ↦ collect r.properties r.pattern r.limit (fun _ ↦ false) 1 0 ms).run k.store =
      (collect r.properties none none (fun _ ↦ false) 1 0 ms).run t := by
    rw [run_bind_of_ok henv, run_bind_of_ok hms, hpattern, hlimit]
  rw [fst_children hopen]
  obtain ⟨cs, infos, u, hcs, -, hrun, hall⟩ |
    ⟨before, m, after, cs, f, u, w, hsplit, hcs, hm, hf, hrun⟩ := collect_reads htame ht 1 0
  · exact .inl ⟨cs, infos, u, hcs, by rw [children_run_of_ok (hlisted.trans hrun)], hall⟩
  · refine .inr ⟨before, m, after, cs, f, u, hsplit, hcs, congrArg Prod.fst hm, ?_⟩
    rw [children_run_of_error (hlisted.trans hrun), if_pos hf]

def badValue : Recipe :=
  Recipe.dict [(pure (.str "a"), Kernel.hostile), (pure (.str "b"), pure (.int 2))]

def badKey : Recipe :=
  Recipe.dict [(pure (.str "b"), pure (.int 2)), (Kernel.hostile, pure (.int 1))]

theorem bad_tame : Tame badValue ∧ Tame badKey := by
  constructor <;> refine Recipe.dict_tame ?_ <;> simp [AllTame, Kernel.hostile_tame, Yields.pure]

theorem Kernel.Lone.listed {d : Recipe} {k : Kernel Empty} {v : Value} (hk : k.Lone d v)
    (hd : Tame d) (hmembers : (Child.members v "d").run k.store = (.ok ms, k.store)) :
    k.closed = false ∧ Shell.Sound k.env k.store ∧
      (Inspection.environment k.env globalEnvironment).run k.store = (.ok k.env, k.store) ∧
      (Inspection.childrenOf k.env "d").run k.store = (.ok ms, k.store) := by
  obtain ⟨hs, hopen, -⟩ := Kernel.new_sound (List.forall_mem_singleton.mpr hd) hk.made
  refine ⟨hopen, hs, by rw [Inspection.environment_global]; rfl, ?_⟩
  exact Inspection.childrenOf_run hk.evaluateChain_run hk.other hmembers

/-- The value that cannot be described has its entry beside the other; the key that cannot be named
takes the entry before it along. -/
theorem children_siblings_hostile :
    let r : ChildrenRequest := ⟨globalEnvironment, "d", [.hasChildren], none, none, none, false⟩
    (∃ (k : Kernel Empty) (infos : List ValueInfo),
      Kernel.new ["globals"] [("d", badValue)] false = .ok k ∧
      (k.children r).1 = .ok (.success infos) ∧ infos.map (·.name) = ["$a", "$b"]) ∧
    ∃ k : Kernel Empty, Kernel.new ["globals"] [("d", badKey)] false = .ok k ∧
      (k.children r).1 = .ok (.evaluationError "RuntimeError: ") := by
  intro r
  constructor
  · obtain ⟨k, hk, hmembers⟩ : ∃ k : Kernel Empty, k.Lone badValue (.ref 5) ∧
        (Child.members (.ref 5) "d").run k.store =
          (.ok [Child.ofEntry "d" (.str "a") (.ref 4), Child.ofEntry "d" (.str "b") (.int 2)],
            k.store) :=
      ⟨_, ⟨rfl, rfl, ⟨_, _, rfl, by decide⟩, nofun⟩, rfl⟩
    obtain ⟨hopen, hs, hglobal, hms⟩ := hk.listed bad_tame.1 hmembers
    obtain ⟨cs, infos, u, hcs, hrun, hall⟩ | ⟨before, m, after, cs, f, u, hsplit, -, hm, -⟩ :=
      Kernel.children_siblings hopen hs (r := r) rfl rfl hglobal hms
    · refine ⟨k, infos, hk.made, hrun, ?_⟩
      rw [Inspection.Portrays.names hall]
      cases hcs
      rfl
    · have hready : ∀ m ∈ [Child.ofEntry "d" (.str "a") (.ref 4),
          Child.ofEntry "d" (.str "b") (.int 2)], Child.Ready m := by
        simp only [List.forall_mem_cons]
        exact ⟨(Child.Source.IsReady.entry _ _).ready (.ref 5) "d",
          (Child.Source.IsReady.entry _ _).ready (.ref 5) "d", by simp⟩
      obtain ⟨c, hc⟩ := hready m (by simp [hsplit]) u
      rw [hc] at hm
      cases hm
  · obtain ⟨k, hk, hmembers, hraises⟩ : ∃ k : Kernel Empty, k.Lone badKey (.ref 5) ∧
        (Child.members (.ref 5) "d").run k.store =
          (.ok [Child.ofEntry "d" (.str "b") (.int 2), Child.ofEntry "d" (.ref 4) (.int 1)],
            k.store) ∧
        (Child.ofEntry "d" (.ref 4) (.int 1)).run k.store =
          (.error (.raised "RuntimeError" none), k.store) :=
      ⟨_, ⟨rfl, rfl, ⟨_, _, rfl, by decide⟩, nofun⟩, rfl, rfl⟩
    have hread : (Child.ofEntry "d" (.str "b") (.int 2)).run k.store =
        (.ok (some ⟨"$b", "d$b", .dollar, .int 2⟩), k.store) := rfl
    have hlost := Child.readAll_cons_of_ok hread (Child.readAll_cons_of_error hraises [])
    obtain ⟨hopen, hs, hglobal, hms⟩ := hk.listed bad_tame.2 hmembers
    obtain ⟨cs, infos, u, hcs, -, -⟩ | ⟨before, m, after, cs, f, u, hsplit, hcs, hm, hrun⟩ :=
      Kernel.children_siblings hopen hs (r := r) rfl rfl hglobal hms
    · rw [hlost] at hcs
      cases hcs
    · have hstops := Child.readAll_append_of_ok hcs
        (Child.readAll_cons_of_error (Prod.ext hm rfl) after)
      rw [← hsplit, hlost] at hstops
      have hresult := Except.ok.inj (congrArg Prod.fst hstops)
      cases congrArg Prod.snd hresult
      exact ⟨k, hk.made, hrun⟩

end VariableExplorer
