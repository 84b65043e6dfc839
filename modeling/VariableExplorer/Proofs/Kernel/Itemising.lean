import VariableExplorer.Proofs.Description.Kinds
import VariableExplorer.Proofs.Kernel.Inspection

/-!
Inspecting a mapping. Its first entries are described in their order: an entry whose key is a text
goes by that text, any other by its place.
-/

namespace VariableExplorer

open Eval

variable {s t : Store} {v : Value} {entries : List (Value × Value)}

def textKey? : Value → Option String
  | .str text => some text
  | _ => none

/-- The value counts as a mapping, and these are the entries that it lists. -/
def Store.Enumerates (s : Store) (v : Value) (entries : List (Value × Value)) (t : Store) : Prop :=
  ∃ u, (isMapping v).run s = (.ok true, u) ∧
    (Child.entriesBy v "items").run u = (.ok entries, t)

theorem Store.Enumerates.members_run (h : s.Enumerates v entries t) (expression : String) :
    (Child.members v expression).run s =
      (.ok (entries.map fun e ↦ Child.ofEntry expression e.1 e.2), t) := by
  obtain ⟨u, hmapping, hitems⟩ := h
  rw [Child.members, run_bind_of_ok hmapping]
  show (Child.entriesBy v "items" >>= _).run u = _
  rw [run_bind_of_ok hitems]
  rfl

theorem Store.Enumerates.civil (h : s.Enumerates v entries t) (hs : s.Civil) : t.Civil := by
  obtain ⟨u, hmapping, hitems⟩ := h
  have hu := ((Tame.isMapping v).ends hs hmapping).civil
  exact ((Child.entriesBy_tame v "items").ends hu hitems).civil

theorem Store.Itemised.enumerates {vars : List (String × Value)} (h : s.Itemised v vars entries)
    (hkind : s.isKind v mappingKinds = true) : ∃ t, s.Enumerates v entries t ∧ s.Keeps t := by
  have hmapping : Gives s (isMapping v) true := by
    have hgives := h.toOrdinary.candid.isMapping_gives
    rwa [hkind] at hgives
  obtain ⟨u, hu, hk⟩ := hmapping s (.refl s)
  obtain ⟨t, ht, hk'⟩ := h.entriesBy_gives u hk
  exact ⟨t, ⟨u, hu, ht⟩, hk.trans hk'⟩

theorem describe_eq_ok {r : Request} {i : ValueInfo} (h : (describe r v).run s = (.ok i, t)) :
    i.name = r.name ∧ (r.properties.contains .accessorKind = true → i.accessorKind = r.kind) := by
  obtain ⟨-, u, h⟩ := run_transient_eq_ok h
  rw [Describe.read, run_get_bind] at h
  obtain ⟨typeName, s₁, -, h⟩ := run_bind_eq_ok h
  obtain ⟨length, s₂, -, h⟩ := run_bind_eq_ok h
  obtain ⟨slotCount, s₃, -, h⟩ := run_bind_eq_ok h
  obtain ⟨attributeCount, s₄, -, h⟩ := run_bind_eq_ok h
  obtain ⟨dim, s₅, -, h⟩ := run_bind_eq_ok h
  obtain ⟨flags, s₆, -, h⟩ := run_bind_eq_ok h
  obtain ⟨hasChildren, s₇, -, h⟩ := run_bind_eq_ok h
  extract_lets finish at h
  split at h
  all_goals
    obtain ⟨representation, s₈, -, h⟩ := run_bind_eq_ok h
    cases h
    exact ⟨rfl, fun hasked ↦ if_pos hasked⟩

/-- As long as stores are of some kind, the key is a text, or it can be told from one and be shown,
and whatever the value does when it is described is got over. All of this leaves the store of that
kind. -/
structure Passable (I : Store → Prop) (e : Value × Value) : Prop where
  key : (∃ text, e.1 = .str text) ∨ ∀ s, I s → ∃ text t u,
    (isInstance e.1 ["str"]).run s = (.ok false, t) ∧ (shown e.1).run t = (.ok text, u) ∧ I u
  value : ∀ s, I s → ∀ r, I ((describe r e.2).run s).2 ∧
    ∀ f, ((describe r e.2).run s).1 = .error f → f.isOrdinary = true

def Store.Passes (s : Store) (entries : List (Value × Value)) : Prop :=
  ∃ I : Store → Prop, I s ∧ ∀ e ∈ entries, Passable I e

/-- Where nothing raises but ordinary failures, a value may do whatever it does: it is enough that
the keys are texts or plain data. -/
theorem Store.Civil.passes (hs : s.Civil)
    (hkeys : ∀ e ∈ entries, (∃ text, e.1 = .str text) ∨ ∃ text,
      Gives s (isInstance e.1 ["str"]) false ∧ Gives s (shown e.1) text) :
    s.Passes entries := by
  refine ⟨fun t ↦ s.Keeps t ∧ t.Civil, ⟨.refl s, hs⟩, fun e he ↦ ⟨?_, ?_⟩⟩
  · refine (hkeys e he).imp_right fun ⟨text, htold, hshown⟩ t ⟨hk, ht⟩ ↦ ?_
    obtain ⟨u, hu, hk'⟩ := htold t hk
    obtain ⟨w, hw, hk''⟩ := hshown u (hk.trans hk')
    have hcivil := ((Tame.isInstance _ _).ends ht hu).civil
    exact ⟨text, u, w, hu, hw, (hk.trans hk').trans hk'',
      ((Tame.shown _).ends hcivil hw).civil⟩
  · intro t ⟨hk, ht⟩ r
    obtain ⟨hkeeps, hcivil, -, hfailure⟩ := describe_yields r e.2 t ht
    exact ⟨⟨hk.trans hkeeps, hcivil⟩, hfailure⟩

namespace Inspection

/-- How a child goes by the key of its entry. -/
def GoesBy (key : Value) (name : String) (kind : AccessorKind) : Prop :=
  match textKey? key with
  | some text => name = "$" ++ text ∧ kind = .dollar
  | none => kind = .positional

theorem ofEntry_run {I : Store → Prop} {e : Value × Value} (he : Passable I e) (hs : I s)
    (expression : String) : ∃ c t, (Child.ofEntry expression e.1 e.2).run s = (.ok (some c), t) ∧
      I t ∧ c.value = e.2 ∧ GoesBy e.1 c.name c.kind := by
  obtain ⟨key, w⟩ := e
  obtain ⟨text, rfl⟩ | hother := he.key
  · exact ⟨⟨"$" ++ text, expression ++ "$" ++ text, .dollar, w⟩, s, rfl, hs, rfl, rfl, rfl⟩
  · obtain ⟨text, t, u, htold, hshown, hu⟩ := hother s hs
    refine ⟨⟨"[[" ++ text ++ "]]", expression ++ "[" ++ text ++ "]", .positional, w⟩, u, ?_, hu,
      rfl, ?_⟩
    · rw [Child.ofEntry, run_bind_of_ok htold]
      show (shown key >>= _).run t = _
      rw [run_bind_of_ok hshown]
      rfl
    · cases key with
      | str text' => cases htold
      | _ => rfl

def childRequest (properties : List Property) (c : Child) : Request :=
  ⟨c.name, c.expression, c.kind, properties, if c.kind = .other then .summary else .none⟩

theorem describeChild_run_of_ok {properties : List Property} {c : Child} {i : ValueInfo}
    (h : (describe (childRequest properties c) c.value).run s = (.ok i, t)) :
    (describeChild properties c).run s = (.ok i, t) := run_handle_of_ok h

theorem describeChild_run_of_error {properties : List Property} {c : Child} {f : Fault}
    (h : (describe (childRequest properties c) c.value).run s = (.error f, t)) :
    (describeChild properties c).run s =
      (if f.isOrdinary then .ok (describeBare (childRequest properties c) t c.value)
        else .error f, t) := by
  refine (run_tryCatch_of_error h).trans ?_
  cases f.isOrdinary <;> rfl

theorem describeChild_eq_ok {properties : List Property} {c : Child} {i : ValueInfo}
    (h : (describeChild properties c).run s = (.ok i, t)) : i.name = c.name ∧
      (properties.contains .accessorKind = true → i.accessorKind = c.kind) := by
  rcases hrun : (describe (childRequest properties c) c.value).run s with ⟨result, u⟩
  cases result with
  | ok j =>
    rw [describeChild_run_of_ok hrun] at h
    cases h
    exact describe_eq_ok hrun
  | error f =>
    rw [describeChild_run_of_error hrun] at h
    split at h
    · cases h
      exact ⟨rfl, fun hasked ↦ if_pos hasked⟩
    · cases h

theorem describeChild_answers {properties : List Property} {c : Child}
    (h : ∀ f, ((describe (childRequest properties c) c.value).run s).1 = .error f →
      f.isOrdinary = true) : ∃ i, (describeChild properties c).run s =
        (.ok i, ((describe (childRequest properties c) c.value).run s).2) := by
  rcases hrun : (describe (childRequest properties c) c.value).run s with ⟨result, t⟩
  rw [hrun] at h
  cases result with
  | ok i => exact ⟨i, describeChild_run_of_ok hrun⟩
  | error f => exact ⟨_, by rw [describeChild_run_of_error hrun, if_pos (h f rfl)]⟩

theorem describeChild_passed {I : Store → Prop} {e : Value × Value} (he : Passable I e) (hs : I s)
    {properties : List Property} (hkind : properties.contains .accessorKind = true) {c : Child}
    (hc : c.value = e.2) : ∃ i t, (describeChild properties c).run s = (.ok i, t) ∧ I t ∧
      i.name = c.name ∧ i.accessorKind = c.kind := by
  obtain ⟨ht, hfailure⟩ := he.value s hs (childRequest properties c)
  rw [← hc] at ht hfailure
  obtain ⟨i, hdescribed⟩ := describeChild_answers hfailure
  obtain ⟨hname, hasked⟩ := describeChild_eq_ok hdescribed
  exact ⟨i, _, hdescribed, ht, hname, hasked hkind⟩

theorem collect_entries {I : Store → Prop} (hs : I s) (hpass : ∀ e ∈ entries, Passable I e)
    {properties : List Property} (hkind : properties.contains .accessorKind = true)
    (expression : String) (limit : Int) (looks found : Nat) : ∃ infos t,
      (collect properties none (some limit) (fun _ ↦ false) looks found
        (entries.map fun e ↦ Child.ofEntry expression e.1 e.2)).run s = (.ok (some infos), t) ∧
      List.Forall₂ (fun e i ↦ GoesBy e.1 i.name i.accessorKind)
        (entries.take (limit - found).toNat) infos := by
  induction entries generalizing s looks found with
  | nil => exact ⟨[], s, rfl, by simp⟩
  | cons e entries ih =>
    obtain ⟨he, hpass⟩ := List.forall_mem_cons.mp hpass
    obtain ⟨c, u, hread, hu, hvalue, hgoes⟩ := ofEntry_run he hs expression
    rw [List.map_cons, collect, run_bind_of_ok hread]
    by_cases hfull : limit ≤ found
    · -- The next entry has been read, but there are enough.
      have hnone : (limit - found).toNat = 0 := by omega
      refine ⟨[], u, ?_, by simp [hnone]⟩
      simp only [Option.any_some, hfull, decide_true, if_true]
      rfl
    · have hmore : (limit - found).toNat = (limit - (found + 1 : Nat)).toNat + 1 := by omega
      obtain ⟨i, w, hdescribed, hw, hname, hsame⟩ := describeChild_passed he hu hkind hvalue
      obtain ⟨infos, t, hrest, hall⟩ := ih hw hpass (looks + 1) (found + 1)
      refine ⟨i :: infos, t, ?_, ?_⟩
      · simp only [Option.any_some, hfull, decide_false, Bool.false_eq_true, if_false, wanted,
          Bool.not_true]
        rw [run_bind_of_ok hdescribed, run_bind_of_ok hrest]
        rfl
      · rw [hmore, List.take_succ_cons]
        refine .cons ?_ hall
        rw [hname, hsame]
        exact hgoes

theorem childrenOf_run {env : Ref} {expression : String} {u : Store}
    {ms : List (Eval (Option Child))} (hv : (evaluateChain env expression).run s = (.ok v, t))
    (hne : v ≠ .ref env) (hms : (Child.members v expression).run t = (.ok ms, u)) :
    (childrenOf env expression).run s = (.ok ms, u) := by
  rw [childrenOf, run_bind_of_ok hv]
  cases v with
  | ref r =>
    have hother : r ≠ env := fun h ↦ hne (congrArg Value.ref h)
    show (if r = env then Child.ofEnvironment env
      else Child.members (.ref r) expression).run t = _
    rw [if_neg hother, hms]
  | _ => exact hms

theorem listing_run_of_members {α : Type} {env : Ref} {expression : String} {u : Store}
    {ms : List (Eval (Option Child))} (hv : (evaluateChain env expression).run s = (.ok v, t))
    (hne : v ≠ .ref env) (hms : (Child.members v expression).run t = (.ok ms, u))
    (f : List (Eval (Option Child)) → Eval α) :
    (environment env globalEnvironment >>= fun env ↦ childrenOf env expression >>= f).run s =
      (f ms).run u := by
  rw [environment_global, pure_bind, run_bind_of_ok (childrenOf_run hv hne hms)]

theorem listing_run {α : Type} {env : Ref} {expression : String} {u : Store}
    (hv : (evaluateChain env expression).run s = (.ok v, t)) (hne : v ≠ .ref env)
    (hlisted : t.Enumerates v entries u) (f : List (Eval (Option Child)) → Eval α) :
    (environment env globalEnvironment >>= fun env ↦ childrenOf env expression >>= f).run s =
      (f (entries.map fun e ↦ Child.ofEntry expression e.1 e.2)).run u :=
  listing_run_of_members hv hne (hlisted.members_run expression) f

theorem children_run_of_ok {env : Ref} {r : ChildrenRequest} {infos : List ValueInfo}
    (h : (environment env r.environment >>= fun env ↦ childrenOf env r.expression >>= fun ms ↦
      collect r.properties r.pattern r.limit (fun _ ↦ false) 1 0 ms).run s =
        (.ok (some infos), t)) :
    (children env r fun _ ↦ false).run s = (.ok (.success infos), t) :=
  children_run_of_found rfl h

theorem settled_run_of_stop {α : Type} {x : Eval α} {f : Fault} (h : x.run s = (.error f, t))
    (hf : f.isOrdinary = false) : (settled x).run s = (.error f, t) := by
  rw [settled, handle, run_tryCatch_of_error (run_map_of_error h), hf]
  rfl

theorem children_run_of_error {env : Ref} {r : ChildrenRequest} {f : Fault}
    (h : (environment env r.environment >>= fun env ↦ childrenOf env r.expression >>= fun ms ↦
      collect r.properties r.pattern r.limit (fun _ ↦ false) 1 0 ms).run s = (.error f, t)) :
    (children env r fun _ ↦ false).run s =
      (if f.isOrdinary then .ok (.evaluationError f.report) else .error f, t) := by
  rw [children, if_neg (by simp)]
  cases hf : f.isOrdinary with
  | true =>
    rw [run_bind_of_ok (settled_run_of_error h hf)]
    rfl
  | false => exact run_bind_of_error (settled_run_of_stop h hf)

theorem children_of_mapping {env : Ref} {expression : String} {u : Store}
    (hv : (evaluateChain env expression).run s = (.ok v, t)) (hne : v ≠ .ref env)
    (hlisted : t.Enumerates v entries u) (hpass : u.Passes entries) {properties : List Property}
    (hkind : properties.contains .accessorKind = true) (limit : Int) (timeout : Option Seconds)
    (cancellable : Bool) : ∃ infos w,
      (children env ⟨globalEnvironment, expression, properties, none, some limit, timeout,
        cancellable⟩ fun _ ↦ false).run s = (.ok (.success infos), w) ∧
      List.Forall₂ (fun e i ↦ GoesBy e.1 i.name i.accessorKind) (entries.take limit.toNat)
        infos := by
  obtain ⟨I, hu, hpass⟩ := hpass
  obtain ⟨infos, w, hcollected, hall⟩ := collect_entries hu hpass hkind expression limit 1 0
  have hinner := (listing_run hv hne hlisted
    (collect properties none (some limit) (fun _ ↦ false) 1 0)).trans hcollected
  exact ⟨infos, w, children_run_of_ok hinner, by simpa using hall⟩

end Inspection

end VariableExplorer
