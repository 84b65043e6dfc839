import VariableExplorer.Kernel.Shell
import VariableExplorer.Proofs.Description.Dictionary
import VariableExplorer.Proofs.Navigation.Chain

/-!
The namespace of a shell. Its environment stays a dictionary of distinct names whatever is bound,
unbound or evaluated.
-/

namespace VariableExplorer

open Eval

def asEntry (e : String × Value) : Value × Value := (.str e.1, e.2)

/-- The environment binds these names to these values, in this order and each name once. -/
structure Store.Binds (s : Store) (env : Ref) (vars : List (String × Value)) : Prop where
  dict : s.IsDict env (vars.map asEntry)
  nodup : (vars.map (·.1)).Nodup

namespace Store

variable {s t : Store} {env : Ref} {vars : List (String × Value)}

theorem IsDict.keeps {r : Ref} {es : List (Value × Value)} (h : s.IsDict r es) (hk : s.Keeps t) :
    t.IsDict r es := hk r _ h

theorem Binds.keeps (h : s.Binds env vars) (hk : s.Keeps t) : t.Binds env vars :=
  ⟨h.dict.keeps hk, h.nodup⟩

theorem Binds.names (h : s.Binds env vars) : Shell.names s env = vars.map (·.1) := by
  rw [Shell.names, h.dict.entries, List.filterMap_map, ← List.filterMap_eq_map]
  rfl

theorem lookup?_asEntry (s : Store) (name : String) (vars : List (String × Value)) :
    s.lookup? (.str name) (vars.map asEntry) = vars.lookup name := by
  induction vars with
  | nil => rfl
  | cons e vars ih =>
    obtain ⟨n, v⟩ := e
    simp only [List.map_cons, asEntry, lookup?, sameKey, List.lookup_cons]
    by_cases h : n = name
    · simp [h]
    · have hne : (name == n) = false := by simpa using Ne.symm h
      simpa only [hne, beq_eq_false_iff_ne.mpr h, Bool.false_eq_true, if_false] using ih

end Store

namespace Shell

/-- The variables once a name is bound: in its place if there is one, or else at the end. -/
def assign (name : String) (v : Value) : List (String × Value) → List (String × Value)
  | [] => [(name, v)]
  | e :: vars => if e.1 = name then (name, v) :: vars else e :: assign name v vars

theorem insertEntry_asEntry (s : Store) (name : String) (v : Value)
    (vars : List (String × Value)) :
    s.insertEntry (.str name) v (vars.map asEntry) = (assign name v vars).map asEntry := by
  induction vars with
  | nil => rfl
  | cons e vars ih =>
    simp only [List.map_cons, asEntry, Store.insertEntry, Store.sameKey, assign]
    by_cases h : e.1 = name
    · simp [h, asEntry]
    · simpa [h, asEntry] using ih

theorem assign_names (name : String) (v : Value) (vars : List (String × Value)) :
    (assign name v vars).map (·.1) =
      if name ∈ vars.map (·.1) then vars.map (·.1) else vars.map (·.1) ++ [name] := by
  induction vars with
  | nil => rfl
  | cons e vars ih =>
    simp only [assign]
    by_cases h : e.1 = name
    · simp [h]
    · simp only [h, if_false, List.map_cons, ih, List.mem_cons, Ne.symm h, false_or]
      split <;> simp

theorem assign_of_lookup_none {name : String} {v : Value} {vars : List (String × Value)}
    (h : vars.lookup name = none) : assign name v vars = vars ++ [(name, v)] := by
  induction vars with
  | nil => rfl
  | cons e vars ih =>
    obtain ⟨n, w⟩ := e
    rw [List.lookup_cons] at h
    by_cases hn : name = n
    · simp [hn] at h
    · rw [beq_eq_false_iff_ne.mpr hn] at h
      simp only [assign, if_neg (Ne.symm hn), ih h, List.cons_append]

theorem nodup_assign {name : String} {v : Value} {vars : List (String × Value)}
    (h : (vars.map (·.1)).Nodup) : ((assign name v vars).map (·.1)).Nodup := by
  rw [assign_names]
  split
  · exact h
  next hn =>
    refine List.nodup_append.mpr ⟨h, by simp, fun a ha b hb ↦ ?_⟩
    rw [List.mem_singleton.mp hb]
    exact fun heq ↦ hn (heq ▸ ha)

theorem contains_names (name : String) (vars : List (String × Value)) :
    (vars.map (·.1)).contains name = (vars.lookup name).isSome := by
  rw [Bool.eq_iff_iff, List.contains_iff_mem, List.lookup_isSome_iff, List.mem_map]
  refine exists_congr fun e ↦ and_congr_right fun _ ↦ ?_
  rw [beq_iff_eq, eq_comm]

theorem lookup_assign_self (name : String) (v : Value) (vars : List (String × Value)) :
    (assign name v vars).lookup name = some v := by
  induction vars with
  | nil => simp [assign]
  | cons e vars ih =>
    obtain ⟨n, w⟩ := e
    by_cases h : n = name
    · simp [assign, h]
    · simpa [assign, h, List.lookup_cons, beq_eq_false_iff_ne.mpr (Ne.symm h)] using ih

theorem lookup_assign_of_ne {name name' : String} (hne : name ≠ name') (v : Value)
    (vars : List (String × Value)) :
    (assign name v vars).lookup name' = vars.lookup name' := by
  have hname : (name' == name) = false := beq_eq_false_iff_ne.mpr (Ne.symm hne)
  induction vars with
  | nil => simp [assign, List.lookup_cons, hname]
  | cons e vars ih =>
    obtain ⟨n, w⟩ := e
    by_cases h : n = name
    · simp [assign, h, List.lookup_cons, hname]
    · simp [assign, h, List.lookup_cons, ih]

theorem lookup_filter_of_ne {name name' : String} (hne : name ≠ name')
    (vars : List (String × Value)) :
    (vars.filter fun e ↦ e.1 ≠ name).lookup name' = vars.lookup name' := by
  have hname : (name' == name) = false := beq_eq_false_iff_ne.mpr (Ne.symm hne)
  induction vars with
  | nil => rfl
  | cons e vars ih =>
    obtain ⟨n, w⟩ := e
    by_cases h : n = name
    · rw [List.filter_cons_of_neg (by simpa using h), ih, h, List.lookup_cons, hname]
    · rw [List.filter_cons_of_pos (by simpa using h), List.lookup_cons, List.lookup_cons, ih]

theorem eraseEntry_asEntry (s : Store) (name : String) (vars : List (String × Value)) :
    s.eraseEntry (.str name) (vars.map asEntry) =
      (vars.filter fun e ↦ e.1 ≠ name).map asEntry := by
  simp only [Store.eraseEntry, List.filter_map]
  congr 1
  refine List.filter_congr fun e _ ↦ ?_
  by_cases h : e.1 = name <;> simp [asEntry, Store.sameKey, h]

/-- Nothing but ordinary failures can be raised, and the environment is a dictionary of names. -/
structure Sound (env : Ref) (s : Store) : Prop where
  civil : s.Civil
  binds : ∃ vars, s.Binds env vars

end Shell

namespace Store

variable {s : Store}

theorem IsDict.set_of_ne {r r' : Ref} {es : List (Value × Value)} {o : Object}
    (h : s.IsDict r' es) (hne : r ≠ r') : (s.set r o).IsDict r' es := by
  rw [IsDict, get?_set, if_neg fun h ↦ hne h.1]
  exact h

theorem Binds.set {env : Ref} {old vars : List (String × Value)} (h : s.Binds env old)
    (hvars : (vars.map (·.1)).Nodup) :
    (s.set env ⟨.native "dict", .dict (vars.map asEntry), none, []⟩).Binds env vars := by
  refine ⟨?_, hvars⟩
  rw [IsDict, get?_set, if_pos ⟨rfl, get?_eq_some_lt h.dict.get?⟩]

end Store

namespace Shell.Sound

variable {s : Store} {env : Ref}

theorem set_of_ne (h : Sound env s) {r : Ref} {o : Object} (hr : r ≠ env)
    (ho : ∀ d, o.body ≠ .classDef d) : Sound env (s.set r o) := by
  obtain ⟨hcivil, vars, hdict, hnodup⟩ := h
  exact ⟨hcivil.set fun d hd ↦ (ho d hd).elim, vars, hdict.set_of_ne hr, hnodup⟩

theorem set_self (h : Sound env s) {vars : List (String × Value)}
    (hvars : (vars.map (·.1)).Nodup) :
    Sound env (s.set env ⟨.native "dict", .dict (vars.map asEntry), none, []⟩) :=
  ⟨h.civil.set (by simp), vars, h.binds.elim fun _ hold ↦ hold.set hvars⟩

end Shell.Sound

namespace Eval

variable {α β : Type} {env : Ref}

/-- The environment stays a dictionary of names, whether or not the computation fails. -/
def Upholds (env : Ref) (x : Eval α) : Prop := ∀ s, Shell.Sound env s → Shell.Sound env (x.run s).2

theorem Tame.upholds {x : Eval α} (h : Tame x) : Upholds env x := by
  intro s hs
  obtain ⟨hkeeps, hcivil, -, -⟩ := h s hs.civil
  exact ⟨hcivil, hs.binds.imp fun vars hvars ↦ hvars.keeps hkeeps⟩

namespace Upholds

theorem sound {x : Eval α} (h : Upholds env x) {s t : Store} {r : Except Fault α}
    (hs : Shell.Sound env s) (hr : x.run s = (r, t)) : Shell.Sound env t :=
  Maintains.of_run h hs hr

theorem bind {x : Eval α} {f : α → Eval β} (hx : Upholds env x) (hf : ∀ a, Upholds env (f a)) :
    Upholds env (x >>= f) := Maintains.bind hx hf

theorem get {f : Store → Eval α} (hf : ∀ s, Upholds env (f s)) :
    Upholds env (MonadState.get >>= f) := fun s hs ↦ hf s s hs

theorem ite {c : Prop} [Decidable c] {x y : Eval α} (hx : Upholds env x) (hy : Upholds env y) :
    Upholds env (if c then x else y) := by
  split
  · exact hx
  · exact hy

theorem pure (a : α) : Upholds env (Pure.pure a : Eval α) := fun _ hs ↦ hs

theorem forM {f : α → Eval PUnit} (hf : ∀ a, Upholds env (f a)) (as : List α) :
    Upholds env (as.forM f) := Maintains.forM fun a _ ↦ hf a

end Upholds

/-- Besides, where the computation fails it does so ordinarily. -/
structure Endures (env : Ref) (x : Eval α) : Prop where
  upholds : Upholds env x
  failure : ∀ s f, Shell.Sound env s → (x.run s).1 = .error f → f.isOrdinary = true

theorem Tame.endures {x : Eval α} (h : Tame x) : Endures env x :=
  ⟨h.upholds, fun s f hs ↦ (h s hs.civil).failure f⟩

namespace Endures

theorem pure (a : α) : Endures env (Pure.pure a) := (Tame.endures (.pure trivial))

theorem bind {x : Eval α} {f : α → Eval β} (hx : Endures env x) (hf : ∀ a, Endures env (f a)) :
    Endures env (x >>= f) := by
  refine ⟨hx.upholds.bind fun a ↦ (hf a).upholds, fun s g hs hg ↦ ?_⟩
  rcases hr : x.run s with ⟨r, t⟩
  cases r with
  | error e =>
    rw [run_bind_of_error hr] at hg
    cases hg
    exact hx.failure s g hs (congrArg Prod.fst hr)
  | ok a =>
    rw [run_bind_of_ok hr] at hg
    exact (hf a).failure t g (hx.upholds.sound hs hr) hg

theorem ite {c : Prop} [Decidable c] {x y : Eval α} (hx : Endures env x) (hy : Endures env y) :
    Endures env (if c then x else y) := by
  split
  · exact hx
  · exact hy

theorem forM {f : α → Eval PUnit} {as : List α} (hf : ∀ a ∈ as, Endures env (f a)) :
    Endures env (as.forM f) :=
  Composed.forM (m := Eval) (P := Endures env) ⟨pure, bind⟩ hf

end Endures

end Eval

namespace Shell

variable {env : Ref}

theorem bind_run {s : Store} {vars : List (String × Value)} (h : s.Binds env vars) (name : String)
    (v : Value) : (Shell.bind env name v).run s = (.ok (), s.set env
      ⟨.native "dict", .dict ((assign name v vars).map asEntry), none, []⟩) := by
  rw [← insertEntry_asEntry s]
  show (_, _) = _
  simp only [h.dict.get?]

theorem bind_upholds (name : String) (v : Value) : Upholds env (Shell.bind env name v) := by
  intro s hs
  obtain ⟨vars, hvars⟩ := hs.binds
  rw [bind_run hvars]
  exact hs.set_self (nodup_assign hvars.nodup)

theorem bind_upholds_of_any (r : Ref) (name : String) (v : Value) :
    Upholds env (Shell.bind r name v) := by
  by_cases hr : r = env
  · subst hr
    exact bind_upholds name v
  intro s hs
  unfold Shell.bind
  show Sound env (Prod.snd (_, _))
  dsimp only
  split
  · exact hs.set_of_ne hr (by simp)
  · exact hs

theorem unbind_run {s : Store} {vars : List (String × Value)} (h : s.Binds env vars)
    (name : String) : (Shell.unbind env name).run s = (.ok (), s.set env
      ⟨.native "dict", .dict ((vars.filter fun e ↦ e.1 ≠ name).map asEntry), none, []⟩) := by
  rw [← eraseEntry_asEntry s]
  show (_, _) = _
  simp only [h.dict.get?]

theorem unbind_upholds (name : String) : Upholds env (Shell.unbind env name) := by
  intro s hs
  obtain ⟨vars, hvars⟩ := hs.binds
  rw [unbind_run hvars]
  exact hs.set_self (hvars.nodup.sublist (List.filter_sublist.map _))

theorem bind_endures (name : String) (v : Value) : Endures env (Shell.bind env name v) :=
  ⟨bind_upholds name v, fun s f _ hf ↦ by cases hf⟩

theorem unbind_endures (name : String) : Endures env (Shell.unbind env name) :=
  ⟨unbind_upholds name, fun s f _ hf ↦ by cases hf⟩

theorem bindAll_endures {vars : List (String × Recipe)} (h : ∀ e ∈ vars, Tame e.2) :
    Endures env (Shell.bindAll env vars) :=
  .forM fun e he ↦ (h e he).endures.bind fun v ↦ bind_endures _ v

theorem bindAll_upholds {vars : List (String × Recipe)} (h : ∀ e ∈ vars, Tame e.2) :
    Upholds env (Shell.bindAll env vars) := (bindAll_endures h).upholds

end Shell

namespace Shell

variable {env : Ref} {s t : Store} {vars : List (String × Value)}

/-- The store once an environment has been given the universal names. -/
def provided (env : Ref) (s : Store) : Store := ((Eval.provideUniversal env).run s).2

theorem provideUniversal_run (env : Ref) (s : Store) :
    (Eval.provideUniversal env).run s = (.ok (), provided env s) := by
  refine Prod.ext ?_ rfl
  rw [Eval.provideUniversal, run_get_bind]
  split
  · split <;> rfl
  · rfl

theorem provided_of_bound (h : s.Binds env vars) (hu : (vars.lookup universalKey).isSome = true) :
    provided env s = s := by
  rw [provided, Eval.provideUniversal, run_get_bind]
  simp only [h.dict.get?, Store.lookup?_asEntry, hu, if_true]
  rfl

theorem provided_of_free (h : s.Binds env vars) (hu : vars.lookup universalKey = none) :
    provided env s = (s.alloc ⟨.native "dict", .dict (universalNames.map asEntry), none, []⟩).1.set
      env ⟨.native "dict", .dict ((vars ++ [(universalKey, Value.ref s.objects.size)]).map asEntry),
        none, []⟩ := by
  rw [provided, Eval.provideUniversal, run_get_bind, List.map_append]
  simp only [h.dict.get?, Store.lookup?_asEntry, hu, Option.isSome_none, Bool.false_eq_true,
    if_false]
  rfl

theorem provided_of_free_binds (h : s.Binds env vars) (hu : vars.lookup universalKey = none) :
    (provided env s).Binds env (vars ++ [(universalKey, .ref s.objects.size)]) ∧
      (provided env s).IsDict s.objects.size (universalNames.map asEntry) := by
  have henv := Store.get?_eq_some_lt h.dict.get?
  rw [provided_of_free h hu]
  refine ⟨(h.keeps (s.keeps_alloc _)).set ?_, ?_⟩
  · rw [← assign_of_lookup_none hu]
    exact nodup_assign h.nodup
  · rw [Store.IsDict, Store.get?_set, if_neg fun he ↦ Nat.ne_of_lt henv he.1, Store.get?_alloc,
      if_pos rfl]

theorem provided_binds (h : s.Binds env vars) : ∃ vars', (provided env s).Binds env vars' ∧
    (vars'.lookup universalKey).isSome = true ∧
    ∀ name v, vars.lookup name = some v → vars'.lookup name = some v := by
  cases hu : vars.lookup universalKey with
  | some u =>
    have hsome : (vars.lookup universalKey).isSome = true := by rw [hu]; rfl
    rw [provided_of_bound h hsome]
    exact ⟨vars, h, hsome, fun _ _ hv ↦ hv⟩
  | none =>
    refine ⟨_, (provided_of_free_binds h hu).1, by simp [List.lookup_append], fun name v hv ↦ ?_⟩
    rw [List.lookup_append, hv]
    rfl

theorem provided_civil (env : Ref) (h : s.Civil) : (provided env s).Civil := by
  rw [provided, Eval.provideUniversal, run_get_bind]
  split
  · split
    · exact h
    · exact (h.alloc (by simp)).set (by simp)
  · exact h

theorem provided_sound (h : Sound env s) : Sound env (provided env s) := by
  obtain ⟨vars, hvars⟩ := h.binds
  obtain ⟨vars', hvars', -, -⟩ := provided_binds hvars
  exact ⟨provided_civil env h.civil, vars', hvars'⟩

theorem provided_of_keeps (h : Sound env s) (hk : (provided env s).Keeps t) :
    provided env t = t := by
  obtain ⟨vars, hvars⟩ := h.binds
  obtain ⟨vars', hvars', hu, -⟩ := provided_binds hvars
  exact provided_of_bound (hvars'.keeps hk) hu

theorem provideUniversal_upholds (env' : Ref) : Upholds env (Eval.provideUniversal env') := by
  intro s hs
  by_cases henv : env' = env
  · subst henv
    rw [provideUniversal_run]
    exact provided_sound hs
  rw [Eval.provideUniversal, run_get_bind]
  split
  · split
    · exact hs
    · refine Upholds.bind (Tame.newDict _).upholds (fun names t ht ↦ ?_) s hs
      exact ht.set_of_ne henv (o := ⟨_, .dict (_ ++ [(.str universalKey, names)]), _, _⟩) (by simp)
  · exact hs

theorem nameValue_of_bound (h : s.Binds env vars) {name : String} {v : Value}
    (hv : vars.lookup name = some v) : (Eval.nameValue env name).run s = (.ok v, s) := by
  rw [Eval.nameValue, run_get_bind, h.dict.entries, Store.lookup?_asEntry, hv]
  rfl

theorem nameValue_of_universal (h : s.Binds env vars) {name : String} {v : Value} {r : Ref}
    {names : List (String × Value)} (hn : vars.lookup name = none)
    (hu : vars.lookup universalKey = some (.ref r)) (hr : s.IsDict r (names.map asEntry))
    (hv : names.lookup name = some v) : (Eval.nameValue env name).run s = (.ok v, s) := by
  have hkey : (Eval.checkKey (.str name)).run s = (.ok (), s) := rfl
  have hitem : (Eval.getItem (.ref r) (.str name)).run s = (.ok v, s) := by
    rw [Eval.getItem, run_get_bind, hr.classOf, Store.ofMade?_native]
    simp only [hr.body]
    rw [Eval.entry, run_bind_of_ok hkey, run_get_bind, Store.lookup?_asEntry, hv]
    rfl
  rw [Eval.nameValue, run_get_bind, h.dict.entries, Store.lookup?_asEntry, hn,
    Store.lookup?_asEntry, hu]
  simp only [hr.body]
  exact run_tryCatch_of_ok hitem

end Shell

end VariableExplorer
