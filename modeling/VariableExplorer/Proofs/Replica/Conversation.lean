import Mathlib.Data.List.Infix
import VariableExplorer.Replica.Refresh

/-!
What a refresh and the session say to each other. A refresh that passes all its stages has had four
answers, and the last of them lists the variables of its snapshot.
-/

namespace VariableExplorer

namespace Snapshot

theorem ofElements?_eq_some {es : List (Element ValueInfo)} {s : Snapshot} :
    ofElements? es = some s ↔ ∃ infos : List ValueInfo, es = infos.map .given ∧ s = ofInfos infos := by
  have hgiven (infos : List ValueInfo) : Element.givenOnly (infos.map Element.given) = infos := by
    simp only [Element.givenOnly, List.filterMap_map]
    exact List.filterMap_some
  constructor
  · intro h
    simp only [ofElements?, Option.ite_none_right_eq_some, Option.some.injEq] at h
    obtain ⟨hall, rfl⟩ := h
    suffices hes : ∃ infos : List ValueInfo, es = infos.map .given by
      obtain ⟨infos, rfl⟩ := hes
      exact ⟨infos, rfl, by rw [hgiven]⟩
    induction es with
    | nil => exact ⟨[], rfl⟩
    | cons e es ih =>
      simp only [List.all_cons, Bool.and_eq_true] at hall
      obtain ⟨infos, rfl⟩ := ih hall.2
      cases e with
      | given i => exact ⟨i :: infos, rfl⟩
      | foreign _ => simp at hall
  · rintro ⟨infos, rfl, rfl⟩
    simp [ofElements?, hgiven]

theorem insertEntry_of_not_mem {d : Descriptor} {es : List Descriptor}
    (h : d.name ∉ es.map (·.name)) : insertEntry d es = es ++ [d] := by
  induction es with
  | nil => rfl
  | cons e es ih =>
    simp only [List.map_cons, List.mem_cons, not_or] at h
    rw [insertEntry, if_neg (Ne.symm h.1), ih h.2, List.cons_append]

theorem ofInfos_entries {infos : List ValueInfo} (h : (infos.map (·.name)).Nodup) :
    (ofInfos infos).entries = infos.map .ofInfo := by
  suffices hfold : ∀ s : Snapshot, (s.names ++ infos.map (·.name)).Nodup →
      (infos.foldl (fun s i ↦ s.insert (.ofInfo i)) s).entries = s.entries ++ infos.map .ofInfo by
    exact hfold {} h
  intro s hs
  induction infos generalizing s with
  | nil => simp
  | cons i infos ih =>
    have hi : i.name ∉ s.names := fun hmem ↦
      (List.nodup_append.mp hs).2.2 _ hmem _ (List.mem_cons_self ..) rfl
    have hinsert : (s.insert (.ofInfo i)).entries = s.entries ++ [.ofInfo i] :=
      insertEntry_of_not_mem hi
    rw [List.foldl_cons, ih (List.nodup_cons.mp h).2, hinsert]
    · simp
    · rw [names, hinsert, List.map_append]
      simpa [names, Descriptor.ofInfo] using hs

end Snapshot

namespace Refresh

/-- Calls and answers so far, and where they have led. -/
inductive Talk (timeout : Option Seconds) : List Call → List Answer → Progress → Prop
  | begin : Talk timeout [Stage.liveness.call timeout] [] (.asking .liveness)
  | more {cs : List Call} {as : List Answer} {s s' : Stage} {a : Answer} :
      Talk timeout cs as (.asking s) → s.next a = .asking s' →
      Talk timeout (cs ++ [s'.call timeout]) (as ++ [a]) (.asking s')
  | finish {cs : List Call} {as : List Answer} {s : Stage} {a : Answer} {found : Option Snapshot} :
      Talk timeout cs as (.asking s) → s.next a = .done found →
      Talk timeout cs (as ++ [a]) (.done found)

/-- The value of an answer that lists descriptions only. -/
inductive Lists : Option (Payload ValueInfo) → List ValueInfo → Prop
  | nothing : Lists none []
  | many (infos : List ValueInfo) : Lists (some (.many (infos.map .given))) infos

/-- The answers of a refresh that passes all its stages: the session runs, has a global frame,
evaluates and lists these variables. -/
inductive Passes : List Answer → List ValueInfo → Prop
  | mk {frames : List (Element StackFrame)} {f : StackFrame} {i : ValueInfo}
      {v : Option (Payload ValueInfo)} {infos : List ValueInfo} {e e' e'' : Option String} :
      globalFrame? frames = some f → Lists v infos →
      Passes [.alive true, .frames ⟨.ok, some (.many frames), e⟩,
        .values ⟨.ok, some (.one (.given i)), e'⟩, .values ⟨.ok, v, e''⟩] infos

theorem Passes.unique {as : List Answer} {infos infos' : List ValueInfo} (h : Passes as infos)
    (h' : Passes as infos') : infos = infos' := by
  obtain ⟨-, hv⟩ := h
  obtain ⟨-, hv'⟩ := h'
  have hinj : Function.Injective (Element.given : ValueInfo → Element ValueInfo) :=
    fun _ _ h ↦ Element.given.inj h
  cases hv with
  | nothing => cases hv'; rfl
  | many infos =>
    generalize hmany : some (Payload.many (infos.map Element.given)) = v at hv'
    cases hv' with
    | nothing => cases hmany
    | many infos' => exact hinj.list_map (Payload.many.inj (Option.some.inj hmany))

/-- The calls of a refresh that asks everything, with the frame it evaluates in. -/
def script (timeout : Option Seconds) (f : StackFrame) (env x : String) : List Call := [
  .isRunning, .traceback timeout,
  .evaluate ⟨f, globalEnvironment, globalEnvironmentName, properties, .summary, timeout⟩,
  (Stage.children env x).call timeout]

/-- The calls and the answers that lead to a stage. -/
def Before (timeout : Option Seconds) : Stage → List Call → List Answer → Prop
  | .liveness, cs, as => cs = [.isRunning] ∧ as = []
  | .frames, cs, as => cs = [.isRunning, .traceback timeout] ∧ as = [.alive true]
  | .environment f, cs, as => ∃ frames e, globalFrame? frames = some f ∧
      cs = (script timeout f "" "").take 3 ∧
      as = [.alive true, .frames ⟨.ok, some (.many frames), e⟩]
  | .children env x, cs, as => ∃ frames f e i e', globalFrame? frames = some f ∧
      cs = script timeout f env x ∧
      as = [.alive true, .frames ⟨.ok, some (.many frames), e⟩,
        .values ⟨.ok, some (.one (.given i)), e'⟩]

theorem Stage.before_next {timeout : Option Seconds} {s s' : Stage} {a : Answer} {cs : List Call}
    {as : List Answer} (h : Before timeout s cs as) (hn : s.next a = .asking s') :
    Before timeout s' (cs ++ [s'.call timeout]) (as ++ [a]) := by
  unfold Stage.next at hn
  split at hn
  · cases hn
    obtain ⟨rfl, rfl⟩ := h
    exact ⟨rfl, rfl⟩
  · split at hn
    next f hf =>
      cases hn
      obtain ⟨rfl, rfl⟩ := h
      exact ⟨_, _, hf, rfl, rfl⟩
    · cases hn
  · cases hn
    obtain ⟨frames, e, hf, rfl, rfl⟩ := h
    exact ⟨frames, _, e, _, _, hf, rfl, rfl⟩
  all_goals cases hn

theorem Stage.next_eq_found {s : Stage} {a : Answer} {snapshot : Snapshot} :
    s.next a = .done (some snapshot) ↔ ∃ env x v e infos, s = .children env x ∧
      a = .values ⟨.ok, v, e⟩ ∧ Lists v infos ∧ snapshot = Snapshot.ofInfos infos := by
  constructor
  · intro h
    unfold Stage.next at h
    split at h
    · cases h
    · split at h <;> cases h
    · cases h
    · simp only [Progress.done.injEq] at h
      obtain ⟨infos, rfl, rfl⟩ := Snapshot.ofElements?_eq_some.mp h
      exact ⟨_, _, _, _, infos, rfl, rfl, .many infos, rfl⟩
    · cases h
      exact ⟨_, _, _, _, [], rfl, rfl, .nothing, rfl⟩
    · cases h
  · rintro ⟨env, x, v, e, infos, rfl, rfl, hv, rfl⟩
    cases hv with
    | nothing => rfl
    | many =>
      simp only [Stage.next, Progress.done.injEq]
      exact Snapshot.ofElements?_eq_some.mpr ⟨infos, rfl, rfl⟩

namespace Talk

variable {timeout : Option Seconds} {cs : List Call} {as : List Answer}

theorem before {s : Stage} (h : Talk timeout cs as (.asking s)) : Before timeout s cs as := by
  generalize hp : Progress.asking s = p at h
  induction h generalizing s with
  | begin => cases hp; exact ⟨rfl, rfl⟩
  | more _ hn ih => cases hp; exact Stage.before_next (ih rfl) hn
  | finish => cases hp

/-- A refresh finds a snapshot just if it passes all its stages. -/
theorem found_iff {p : Progress} (h : Talk timeout cs as p) {snapshot : Snapshot} :
    p = .done (some snapshot) ↔ ∃ infos, Passes as infos ∧ snapshot = Snapshot.ofInfos infos := by
  constructor
  · rintro rfl
    cases h with
    | finish h hn =>
      obtain ⟨env, x, v, e, infos, rfl, rfl, hv, rfl⟩ := Stage.next_eq_found.mp hn
      obtain ⟨frames, f, e, i, e', hf, -, rfl⟩ := h.before
      exact ⟨infos, .mk hf hv, rfl⟩
  · rintro ⟨infos, hp, rfl⟩
    -- The fourth answer is the last one, and so it is that to the stage of the children.
    cases hp with
    | mk hf hv =>
      generalize has : [_, _, _, _] = as at h
      cases h with
      | begin => cases has
      | @more _ _ s s' a h hn =>
        have hb := Stage.before_next h.before hn
        rw [← has] at hb
        cases s' <;> simp [Before] at hb
      | @finish _ as s a found h hn =>
        have hb := h.before
        have hlast := congrArg List.getLast? has
        have hinit := congrArg List.dropLast has
        simp only [List.dropLast_concat, List.getLast?_append, List.getLast?_singleton,
          Option.some_or] at hinit hlast
        cases hlast
        rw [← hinit] at hb
        cases s with
        | liveness | frames | environment f => simp [Before] at hb
        | children env x =>
          rw [← hn]
          exact Stage.next_eq_found.mpr ⟨env, x, _, _, infos, rfl, rfl, hv, rfl⟩

/-- The calls of a refresh are the first of the four that a whole one makes, and what is evaluated
is evaluated in the first global frame. -/
theorem calls {p : Progress} (h : Talk timeout cs as p) : ∃ f env x,
    cs <+: script timeout f env x ∧ (3 ≤ cs.length → ∃ frames e,
      globalFrame? frames = some f ∧ as[1]? = some (.frames ⟨.ok, some (.many frames), e⟩)) := by
  have hasking {s : Stage} {cs : List Call} {as : List Answer} (h : Before timeout s cs as)
      (more : List Answer) : ∃ f env x, cs <+: script timeout f env x ∧ (3 ≤ cs.length →
        ∃ frames e, globalFrame? frames = some f ∧
          (as ++ more)[1]? = some (.frames ⟨.ok, some (.many frames), e⟩)) := by
    cases s with
    | liveness =>
      obtain ⟨rfl, -⟩ := h
      exact ⟨default, "", "", ⟨_, rfl⟩, by simp⟩
    | frames =>
      obtain ⟨rfl, -⟩ := h
      exact ⟨default, "", "", ⟨_, rfl⟩, by simp⟩
    | environment f =>
      obtain ⟨frames, e, hf, rfl, rfl⟩ := h
      exact ⟨f, "", "", List.take_prefix _ _, fun _ ↦ ⟨frames, e, hf, rfl⟩⟩
    | children env x =>
      obtain ⟨frames, f, e, i, e', hf, rfl, rfl⟩ := h
      exact ⟨f, env, x, List.prefix_rfl, fun _ ↦ ⟨frames, e, hf, rfl⟩⟩
  cases h with
  | begin => simpa using hasking Talk.begin.before []
  | more h hn => simpa using hasking (Talk.more h hn).before []
  | finish h => exact hasking h.before _

end Talk

end Refresh

end VariableExplorer
