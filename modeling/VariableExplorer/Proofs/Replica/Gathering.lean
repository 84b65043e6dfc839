import Mathlib.Data.Finset.Card
import VariableExplorer.Proofs.Replica.Latest
import VariableExplorer.Proofs.Suggestion.Members

/-!
What a snapshot gathers from a list of descriptions: each name once, in the place of its first
description, with what the last one says. Whoever reads the snapshot finds no name twice.
-/

namespace VariableExplorer

namespace Snapshot

/-! ### One description more -/

theorem ofInfos_concat (infos : List ValueInfo) (i : ValueInfo) :
    ofInfos (infos ++ [i]) = (ofInfos infos).insert (.ofInfo i) := List.foldl_concat ..

theorem map_insertEntry_of_mem {d : Descriptor} {es : List Descriptor}
    (h : d.name ∈ es.map (·.name)) : (insertEntry d es).map (·.name) = es.map (·.name) := by
  induction es with
  | nil => cases h
  | cons e es ih =>
    rw [insertEntry]
    by_cases he : e.name = d.name
    · simp [he]
    · rw [List.map_cons, List.mem_cons] at h
      rw [if_neg he, List.map_cons, ih (h.resolve_left (Ne.symm he)), List.map_cons]

theorem names_insert (s : Snapshot) (d : Descriptor) :
    (s.insert d).names = if d.name ∈ s.names then s.names else s.names ++ [d.name] := by
  split
  next h => exact map_insertEntry_of_mem h
  next h => rw [names, insert, insertEntry_of_not_mem h, List.map_append]; rfl

theorem nodup_names_insert {s : Snapshot} (h : s.names.Nodup) (d : Descriptor) :
    (s.insert d).names.Nodup := by
  rw [names_insert]
  split
  · exact h
  next hd => exact List.concat_eq_append ▸ h.concat hd

theorem find?_insertEntry (d : Descriptor) (es : List Descriptor) (name : String) :
    (insertEntry d es).find? (·.name = name) =
      if d.name = name then some d else es.find? (·.name = name) := by
  induction es with
  | nil => by_cases hd : d.name = name <;> simp [insertEntry, hd]
  | cons e es ih =>
    rw [insertEntry]
    by_cases he : e.name = d.name
    · by_cases hd : d.name = name <;> simp [he, hd]
    · rw [if_neg he, List.find?_cons, ih, List.find?_cons]
      by_cases hd : d.name = name
      · simp [hd, show e.name ≠ name from hd ▸ he]
      · simp [hd]

theorem find?_insert (s : Snapshot) (d : Descriptor) (name : String) :
    (s.insert d).find? name = if d.name = name then some d else s.find? name :=
  find?_insertEntry d s.entries name

/-! ### All of them -/

theorem eraseDups_concat {α : Type} [BEq α] [LawfulBEq α] (l : List α) (a : α) :
    (l ++ [a]).eraseDups = if a ∈ l then l.eraseDups else l.eraseDups ++ [a] := by
  rw [List.eraseDups_append]
  have hsingle : [a].eraseDups = [a] := by simp [List.eraseDups_cons]
  by_cases h : a ∈ l <;> simp [List.removeAll, h, hsingle]

theorem names_ofInfos (infos : List ValueInfo) :
    (ofInfos infos).names = (infos.map (·.name)).eraseDups := by
  induction infos using List.reverseRecOn with
  | nil => rfl
  | append_singleton infos i ih =>
    rw [ofInfos_concat, names_insert, List.map_append, List.map_singleton, eraseDups_concat, ih]
    simp [Descriptor.ofInfo]

theorem nodup_names_ofInfos (infos : List ValueInfo) : (ofInfos infos).names.Nodup := by
  induction infos using List.reverseRecOn with
  | nil => exact List.nodup_nil
  | append_singleton infos i ih =>
    rw [ofInfos_concat]
    exact nodup_names_insert ih _

theorem find?_ofInfos (infos : List ValueInfo) (name : String) :
    (ofInfos infos).find? name = (infos.findRev? (·.name = name)).map .ofInfo := by
  rw [List.findRev?_eq_find?_reverse]
  induction infos using List.reverseRecOn with
  | nil => rfl
  | append_singleton infos i ih =>
    rw [ofInfos_concat, find?_insert, ih, List.reverse_concat, List.find?_cons]
    by_cases h : i.name = name <;> simp [h, Descriptor.ofInfo]

/-! ### Keys of their own -/

/-- The value for a key: one that is there keeps its place, any other goes to the end. -/
def assign (key : String) (d : Descriptor) :
    List (String × Descriptor) → List (String × Descriptor)
  | [] => [(key, d)]
  | (k, e) :: rest => if k = key then (k, d) :: rest else (k, e) :: assign key d rest

def tabulate (infos : List ValueInfo) : List (String × Descriptor) :=
  infos.foldl (fun table i ↦ assign i.name (.ofInfo i) table) []

def keyed (s : Snapshot) : List (String × Descriptor) := s.entries.map fun d ↦ (d.name, d)

theorem assign_keyed (s : Snapshot) (d : Descriptor) :
    assign d.name d s.keyed = (s.insert d).keyed := by
  suffices h : ∀ es : List Descriptor, assign d.name d (es.map fun e ↦ (e.name, e)) =
      (insertEntry d es).map fun e ↦ (e.name, e) from h s.entries
  intro es
  induction es with
  | nil => rfl
  | cons e es ih =>
    rw [List.map_cons, assign, insertEntry]
    by_cases h : e.name = d.name <;> simp [h, ih]

theorem tabulate_eq (infos : List ValueInfo) : tabulate infos = (ofInfos infos).keyed := by
  induction infos using List.reverseRecOn with
  | nil => rfl
  | append_singleton infos i ih =>
    rw [tabulate, List.foldl_concat, ← tabulate, ih, ofInfos_concat]
    exact assign_keyed _ (.ofInfo i)

/-- What a snapshot has of the descriptions that it was built from. -/
structure Gathers (infos : List ValueInfo) (s : Snapshot) : Prop where
  /-- Each name stands where it first occurs. -/
  names : s.names = (infos.map (·.name)).eraseDups
  nodup : s.names.Nodup
  /-- Under a name stands what the last description of that name says. -/
  find? : ∀ name, s.find? name = (infos.findRev? (·.name = name)).map .ofInfo
  keyed : s.keyed = tabulate infos
  size : s.size = (infos.map (·.name)).toFinset.card

theorem ofInfos_gathers (infos : List ValueInfo) : Gathers infos (ofInfos infos) where
  names := names_ofInfos infos
  nodup := nodup_names_ofInfos infos
  find? := find?_ofInfos infos
  keyed := (tabulate_eq infos).symm
  size := by
    have hset : (infos.map (·.name)).toFinset = (ofInfos infos).names.toFinset := by
      ext name
      simp [names_ofInfos]
    rw [hset, List.toFinset_card_of_nodup (nodup_names_ofInfos infos), Snapshot.names,
      List.length_map, Snapshot.size]

end Snapshot

/-! ### Refreshes -/

namespace Refresh

variable {σ : Type}

/-- A session answers what a refresh asks, and the last answer lists these descriptions. -/
inductive Told (ask : Call → StateM σ Answer) (timeout : Option Seconds) (s t : σ)
    (infos : List ValueInfo) : Prop
  | mk {s₁ s₂ s₃ : σ} {frames : List (Element StackFrame)} {f : StackFrame} {i : ValueInfo}
      {v : Option (Payload ValueInfo)} {e e' e'' : Option String} :
      (ask .isRunning).run s = (.alive true, s₁) →
      (ask (.traceback timeout)).run s₁ = (.frames ⟨.ok, some (.many frames), e⟩, s₂) →
      globalFrame? frames = some f →
      (ask ((Stage.environment f).call timeout)).run s₂ =
        (.values ⟨.ok, some (.one (.given i)), e'⟩, s₃) →
      (ask ((Stage.children (orGlobal f.environment) (orGlobal i.expression)).call timeout)).run
        s₃ = (.values ⟨.ok, v, e''⟩, t) →
      Lists v infos → Told ask timeout s t infos

/-- The answers that a refresh goes on with. -/
inductive Stage.Accepts : Stage → Answer → Progress → Prop
  | running : Accepts .liveness (.alive true) (.asking .frames)
  | framed {frames : List (Element StackFrame)} {f : StackFrame} {e : Option String} :
      globalFrame? frames = some f →
      Accepts .frames (.frames ⟨.ok, some (.many frames), e⟩) (.asking (.environment f))
  | described (f : StackFrame) (i : ValueInfo) (e : Option String) :
      Accepts (.environment f) (.values ⟨.ok, some (.one (.given i)), e⟩)
        (.asking (.children (orGlobal f.environment) (orGlobal i.expression)))
  | listed (env x : String) {v : Option (Payload ValueInfo)} {infos : List ValueInfo}
      (e : Option String) : Lists v infos →
      Accepts (.children env x) (.values ⟨.ok, v, e⟩) (.done (some (.ofInfos infos)))

theorem Stage.next_eq_of_accepts {q : Stage} {a : Answer} {p : Progress} (h : q.Accepts a p) :
    q.next a = p := by
  cases h with
  | running | described => rfl
  | framed h => simp only [next, h]
  | listed env x e h => exact next_eq_found.mpr ⟨env, x, _, e, _, rfl, rfl, h, rfl⟩

theorem Stage.next_cases (q : Stage) (a : Answer) :
    q.next a = .done none ∨ q.Accepts a (q.next a) := by
  rcases hp : q.next a with q' | found
  · refine .inr ?_
    unfold next at hp
    split at hp
    · cases hp; exact .running
    · split at hp
      next hf => cases hp; exact .framed hf
      · cases hp
    · cases hp; exact .described ..
    all_goals cases hp
  · cases found with
    | none => exact .inl rfl
    | some x =>
      obtain ⟨env, x, v, e, infos, rfl, rfl, hv, rfl⟩ := next_eq_found.mp hp
      exact .inr (.listed env x e hv)

variable {ask : Call → StateM σ Answer} {timeout : Option Seconds} {s t : σ}

theorem run_advance_asking {q : Stage} {a : Answer} (h : (ask (q.call timeout)).run s = (a, t)) :
    ((Progress.asking q).advance ask timeout).run s = (q.next a, t) := run_bind h

theorem build_of_told {infos : List ValueInfo} (h : Told ask timeout s t infos) :
    (build ask timeout).run s = (some (.ofInfos infos), t) := by
  obtain ⟨hrunning, hframes, hglobal, henv, hchildren, hlists⟩ := h
  rw [build, run_bind (run_advance_asking (q := .liveness) hrunning),
    Stage.next_eq_of_accepts .running, run_bind (run_advance_asking (q := .frames) hframes),
    Stage.next_eq_of_accepts (.framed hglobal), run_bind (run_advance_asking henv),
    Stage.next_eq_of_accepts (.described ..), run_bind (run_advance_asking hchildren),
    Stage.next_eq_of_accepts (.listed _ _ _ hlists)]
  rfl

theorem accepts_of_some {α : Type} {q : Stage} {rest : Progress → StateM σ (Option α)} {x : α}
    (hrest : ∀ u, ((rest (.done none)).run u).1 = none)
    (h : ((Progress.asking q).advance ask timeout >>= rest).run s = (some x, t)) :
    ∃ a u p, (ask (q.call timeout)).run s = (a, u) ∧ q.Accepts a p ∧
      (rest p).run u = (some x, t) := by
  rcases hasked : (ask (q.call timeout)).run s with ⟨a, u⟩
  rw [run_bind (run_advance_asking hasked)] at h
  obtain hnone | hgoes := q.next_cases a
  · have hnothing := hrest u
    rw [← hnone, h] at hnothing
    cases hnothing
  · exact ⟨a, u, _, rfl, hgoes, h⟩

theorem told_of_build {x : Snapshot} (h : (build ask timeout).run s = (some x, t)) :
    ∃ infos, Told ask timeout s t infos ∧ x = .ofInfos infos := by
  obtain ⟨_, _, _, hrunning, hgoes, h⟩ := accepts_of_some (fun _ ↦ rfl) h
  cases hgoes
  obtain ⟨_, _, _, hframes, hgoes, h⟩ := accepts_of_some (fun _ ↦ rfl) h
  cases hgoes with
  | framed hglobal =>
    obtain ⟨_, _, _, henv, hgoes, h⟩ := accepts_of_some (fun _ ↦ rfl) h
    cases hgoes
    obtain ⟨_, _, _, hchildren, hgoes, h⟩ := accepts_of_some (fun _ ↦ rfl) h
    cases hgoes with
    | listed env x e hlists =>
      cases h
      exact ⟨_, .mk hrunning hframes hglobal henv hchildren hlists, rfl⟩

/-- A refresh has a snapshot just if it was told of descriptions, which make up the snapshot. -/
theorem build_eq_some_iff {x : Snapshot} : (build ask timeout).run s = (some x, t) ↔
    ∃ infos, Told ask timeout s t infos ∧ x = .ofInfos infos := by
  refine ⟨told_of_build, ?_⟩
  rintro ⟨infos, h, rfl⟩
  exact build_of_told h

end Refresh

/-! ### Readers -/

namespace Provider

variable {m : Type → Type} [Monad m] {path : Option String} (p : Provider) (s : Snapshot)

theorem members_sublist_names (hfree : Navigation.Free (path.getD "").toList)
    (ask : Call → m Answer) (max : Int) (cancellable : Bool) (w : Wait) :
    ∃ found, p.members s ask path max cancellable w = pure (.ok found) ∧
      (found.map (·.displayName)).Sublist s.names := by
  refine ⟨_, by rw [members, lookup_of_free path p s max cancellable hfree], ?_⟩
  rw [List.map_map]
  exact ((List.take_sublist _ _).trans List.filter_sublist).map fun d : Descriptor ↦ d.name

end Provider

open Refresh in
/-- A refresh that is told of descriptions, however many of them bear the same name, gathers them in
its snapshot, and there are no other snapshots: neither of a refresh nor, whatever goes on at the
same time, of a replica. The number of its names is the member count for no path, and none is
found twice. -/
theorem Snapshot.gathered :
    (∀ {σ : Type} (ask : Call → StateM σ Answer) (timeout : Option Seconds) (s t : σ)
      (x : Snapshot), (build ask timeout).run s = (some x, t) ↔
        ∃ infos, Told ask timeout s t infos ∧ x = .ofInfos infos) ∧
    (∀ {ι : Type} [BEq ι] (w : Replica.Interplay ι), Replica.Interplay.Reachable w →
      ∃ infos, w.replica.snapshot = .ofInfos infos) ∧
    ∀ infos : List ValueInfo, Gathers infos (.ofInfos infos) ∧
      ∀ path : Option String, path.getD "" = "" → ∀ p : Provider,
        p.memberCount (.ofInfos infos) path = (infos.map (·.name)).toFinset.card ∧
        ∀ {m : Type → Type} [Monad m] (ask : Call → m Answer) (max : Int) (cancellable : Bool)
          (w : Wait), ∃ found, p.members (.ofInfos infos) ask path max cancellable w =
            pure (.ok found) ∧ (found.map (·.displayName)).Nodup := by
  refine ⟨fun ask timeout s t x ↦ build_eq_some_iff, fun w hw ↦ ?_, fun infos ↦
    ⟨ofInfos_gathers infos, fun path hpath p ↦ ⟨?_, fun ask max cancellable w ↦ ?_⟩⟩⟩
  · cases hw.sound.latest with
    | none _ hempty => exact ⟨[], hempty⟩
    | passed _ infos _ _ hsnapshot => exact ⟨infos, hsnapshot⟩
  · rw [← (ofInfos_gathers infos).size]
    exact if_pos hpath
  · have hfree : Navigation.Free (path.getD "").toList := by simp [hpath, Navigation.Free]
    obtain ⟨found, hfound, hnames⟩ :=
      p.members_sublist_names (.ofInfos infos) hfree ask max cancellable w
    exact ⟨found, hfound, hnames.nodup (ofInfos_gathers infos).nodup⟩

open Refresh in
/-- The name `x` is described twice: it stays in its place and is what it was described as last. -/
theorem Snapshot.gathered_repeated :
    let infos : List ValueInfo := [
      { name := "x", typeName := "int" }, { name := "y", typeName := "list" },
      { name := "x", typeName := "str" }]
    let script : Script := { locals := .gives (.success (.many (infos.map .given))) }
    let ask (c : Call) : StateM Unit Answer := return script.answer c
    ∃ x : Snapshot, (build ask none).run () = (some x, ()) ∧ x.names = ["x", "y"] ∧
      (x.find? "x").map (·.typeName) = some "str" ∧ Provider.memberCount {} x none = 2 ∧
      (∃ found, Provider.members {} x ask none 5 false {} = pure (.ok found) ∧
        (found.map (·.displayName)).Nodup) ∧
      ∃ infos : List ValueInfo, ({} : Replica Nat).snapshot = .ofInfos infos := by
  intro infos script ask
  obtain ⟨hbuild, hreplica, hgathers⟩ := Snapshot.gathered
  obtain ⟨hinfos, hfree⟩ := hgathers infos
  obtain ⟨hcount, hmembers⟩ := hfree none rfl {}
  have htold : Told ask none () () infos :=
    .mk (f := ⟨0, "<module>", true, globalEnvironment⟩) rfl rfl rfl rfl rfl (.many infos)
  refine ⟨.ofInfos infos, (hbuild ask none () () _).mpr ⟨infos, htold, rfl⟩, ?_, ?_, ?_,
    hmembers ask 5 false {}, hreplica (ι := Nat) { replica := {} } ⟨none, .refl⟩⟩
  · rw [hinfos.names]
    rfl
  · rw [hinfos.find?]
    rfl
  · rw [hcount]
    rfl

end VariableExplorer
