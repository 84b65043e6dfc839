import VariableExplorer.Explorer.Staging
import VariableExplorer.Proofs.Settings.Recent
import VariableExplorer.Proofs.Suggestion.Prompt

/-!
Recent paths at the prompt. An explorer goes through them one after the other, however much else is
done in between, and begins anew with each path that it has listed.
-/

namespace VariableExplorer

open Suggestion

/-! ### What is left alone -/

section

variable {σ τ : Type} {view : σ → τ} {ask : Call → StateM σ Answer}
  (hask : ∀ c, Leaves view (ask c))

include hask

theorem Refresh.build_leaves (timeout : Option Seconds) :
    Leaves view (Refresh.build ask timeout) := by
  have hadvance (p : Progress) : Leaves view (p.advance ask timeout) := by
    cases p with
    | asking q => exact (hask _).bind fun _ ↦ .pure _
    | done found => exact .pure _
  exact (hadvance _).bind fun p ↦ (hadvance p).bind fun p ↦ (hadvance p).bind fun p ↦
    (hadvance p).bind fun _ ↦ .pure _

end

namespace Staging

/-- What decides which path is recalled next. -/
def recalling (s : Staging) : SettingsManager × Nat := (s.explorer.settings, s.explorer.next)

theorem ask_leaves (c : Call) : Leaves recalling (ask c) := by
  cases c <;> exact fun _ ↦ rfl

theorem refresh_leaves : Leaves recalling refresh := by
  have htell (x : Snapshot) (l : Unit) :
      Leaves recalling (explore (·.showSnapshot x)) := fun _ ↦ rfl
  have hrun : Leaves recalling (Replica.run ask fun x () ↦ explore (·.showSnapshot x)) := by
    refine .bind (fun _ ↦ rfl) fun replica ↦ .bind (Refresh.build_leaves ask_leaves _) fun found ↦
      .bind (fun _ ↦ rfl) fun _ ↦ ?_
    cases found with
    | none => exact .pure _
    | some x => exact .bind (fun _ ↦ rfl) fun _ ↦ .bind (.forM (htell x) _) fun _ ↦ .pure _
  refine .bind (fun _ ↦ rfl) fun replica ↦ ?_
  split
  · exact .pure _
  · exact .bind (fun _ ↦ rfl) fun _ ↦ hrun

theorem accept_leaves : Leaves recalling accept := by
  have hsuggest (p : Provider) (x : Snapshot) (text : String) :
      Leaves recalling (p.suggest x ask text) :=
    p.suggest_composed Leaves.composed (fun _ ↦ rfl) (fun _ _ ↦ rfl) ask_leaves x text _
  refine .bind (fun _ ↦ rfl) fun s ↦ .bind (hsuggest _ _ _) fun found ↦ ?_
  split
  · exact fun _ ↦ rfl
  · exact .pure _

theorem openNode_leaves (n : Node) : Leaves recalling (openNode n) := by
  refine .bind (fun _ ↦ rfl) fun s ↦ ?_
  rw [Explorer.openNode]
  split
  · exact .pure _
  split
  · exact .pure _
  · exact (ask_leaves _).bind fun _ ↦ .pure _

end Staging

/-! ### Submitted texts -/

theorem Text.blank_of_strip {text : String} (h : strip text = "") :
    ∀ c ∈ text.toList, isBlank c = true := by
  have hblank {cs : List Char} (h : cs.dropWhile isBlank = []) : ∀ c ∈ cs, isBlank c = true := by
    have hcs : cs.takeWhile isBlank ++ cs.dropWhile isBlank = cs :=
      List.takeWhile_append_dropWhile
    rw [h, List.append_nil] at hcs
    exact hcs ▸ List.all_eq_true.mp List.all_takeWhile
  have hnil : ((text.toList.dropWhile isBlank).reverse.dropWhile isBlank) = [] :=
    List.reverse_eq_nil_iff.mp (String.ofList_eq_empty_iff.mp h)
  refine hblank (Classical.byContradiction fun hne ↦ ?_)
  have hhead := hblank hnil _ (List.mem_reverse.mpr (List.head_mem hne))
  rw [List.head_dropWhile_not isBlank hne] at hhead
  cases hhead

theorem Text.exists_of_strip {text : String} (h : strip text ≠ "") :
    ∃ c ∈ (strip text).toList, isBlank c = false := by
  let cs := (text.toList.dropWhile isBlank).reverse.dropWhile isBlank
  have hcs : (strip text).toList = cs.reverse := String.toList_ofList
  have hne : cs ≠ [] := fun hnil ↦ h (String.toList_injective (hcs.trans (by rw [hnil]; rfl)))
  refine ⟨cs.head hne, ?_, ?_⟩
  · rw [hcs]
    exact List.mem_reverse.mpr (List.head_mem hne)
  · simpa using List.head_dropWhile_not isBlank hne

theorem Text.strip_strip {text : String} (h : strip text ≠ "") : strip (strip text) ≠ "" := by
  intro hempty
  obtain ⟨c, hc, hfilled⟩ := exists_of_strip h
  cases hfilled.symm.trans (blank_of_strip hempty c hc)

namespace Explorer

def listed? (text : String) : Option String :=
  match Submission.ofText text with
  | .listing path => some path
  | _ => none

theorem strip_of_listed {text path : String} (h : listed? text = some path) :
    Text.strip path ≠ "" := by
  rw [listed?, Submission.ofText] at h
  split at h
  next hlisting =>
    split at hlisting
    · cases hlisting
    next hfilled =>
    split at hlisting
    · cases hlisting
      cases h
      exact Text.strip_strip hfilled
    · cases hlisting
  · cases h

variable {σ : Type} {p : Provider} {snapshot : Snapshot} {ask : Call → StateM σ Answer}
  {run : String → StateM σ (Except VariableExplorer.Fault Entry)} {s : σ}
  {e : Explorer} {text : String}

theorem submit_of_listed {path : String} (h : listed? text = some path)
    (hfile : e.settings.file ≠ .directory) :
    let e' := ((e.submit p snapshot ask run text).run s).1.1
    e'.settings = (e.settings.addRecent path).1 ∧ e'.next = 0 := by
  have hremember : ({ e with prompt := "" } : Explorer).remember path =
      ({ e with prompt := "", settings := (e.settings.addRecent path).1, next := 0 }, none) := by
    rw [remember, SettingsManager.addRecent, SettingsManager.put_eq hfile]
  rw [listed?] at h
  split at h
  next hlisting =>
    obtain rfl := Option.some.inj h
    rw [submit, hlisting]
    simp only [hremember, StateT.run_bind]
    generalize (p.members snapshot ask (some _) _ _ _).run s = r
    obtain ⟨found, s'⟩ := r
    cases found <;> exact ⟨rfl, rfl⟩
  · cases h

theorem submit_of_not_listed (h : listed? text = none) :
    let e' := ((e.submit p snapshot ask run text).run s).1.1
    e'.settings = e.settings ∧ e'.next = e.next := by
  rw [listed?] at h
  rw [submit]
  cases htext : Submission.ofText text with
  | nothing => exact ⟨rfl, rfl⟩
  | listing path =>
    rw [htext] at h
    cases h
  | code code =>
    simp only [StateT.run_bind]
    generalize (run code).run s = r
    obtain ⟨found, s'⟩ := r
    cases found <;> exact ⟨rfl, rfl⟩

theorem recallNext_settings (e : Explorer) : e.recallNext.settings = e.settings := by
  rw [recallNext]
  split <;> rfl

theorem recallNext_prompt (e : Explorer) : e.recallNext.prompt =
    (e.recentPaths[e.next % e.recentPaths.length]?).getD e.prompt := by
  rw [recallNext]
  split
  next h => rw [h, Option.getD_none]
  next h => rw [h, Option.getD_some]

theorem recallNext_next (h : e.recentPaths ≠ []) :
    e.recallNext.next = e.next % e.recentPaths.length + 1 := by
  rw [recallNext]
  split
  next hnone =>
    have hlt := Nat.mod_lt e.next (List.length_pos_iff.mpr h)
    exact absurd (List.getElem?_eq_none_iff.mp hnone) (Nat.not_le.mpr hlt)
  · rfl

end Explorer

/-! ### A course of deeds -/

namespace Staging

inductive Deed
  | press (k : Key)
  | submit (text : String)
  | change (f : Script → Script) (entries : Option (List (String × Explorer.Entry)))
  | openMade (label : String) (expression : Option String)
  | openShown (index : Nat)

namespace Deed

def act : Deed → Acting Unit
  | press k => Staging.press k
  | submit text => do let _ ← Staging.submit text
  | change f entries => Staging.change f entries
  | openMade label expression => do let _ ← Staging.openMade label expression
  | openShown index => do let _ ← Staging.openShown index

def run (d : Deed) (s : Staging) : Staging := (d.act.run s).2

def listed? (s : Staging) : Deed → Option String
  | press .submit => Explorer.listed? s.explorer.prompt
  | submit text => Explorer.listed? text
  | _ => none

end Deed

variable {s t : Staging} {d : Deed} {path : String}

theorem submit_explorer (s : Staging) (text : String) : ((submit text).run s).2.explorer =
    ((s.explorer.submit s.workspace.provider s.workspace.replica.snapshot ask execute text).run
      s).1.1 := by
  have hget : (getThe Staging : Acting Staging).run s = (s, s) := rfl
  rw [submit, run_bind hget]
  dsimp only
  generalize s.explorer.submit s.workspace.provider s.workspace.replica.snapshot ask execute
    text = x
  rfl

theorem submit_listed {text : String} (h : Explorer.listed? text = some path)
    (hfile : s.explorer.settings.file ≠ .directory) :
    ((submit text).run s).2.recalling = ((s.explorer.settings.addRecent path).1, 0) := by
  rw [recalling, submit_explorer]
  obtain ⟨hsettings, hnext⟩ := Explorer.submit_of_listed h hfile
  rw [hsettings, hnext]

theorem submit_not_listed {text : String} (h : Explorer.listed? text = none) :
    ((submit text).run s).2.recalling = s.recalling := by
  rw [recalling, submit_explorer]
  obtain ⟨hsettings, hnext⟩ := Explorer.submit_of_not_listed h
  rw [hsettings, hnext]
  rfl

theorem run_submit (text : String) (s : Staging) :
    (Deed.submit text).run s = ((submit text).run s).2 := by
  rw [Deed.run, Deed.act]
  generalize submit text = x
  rfl

theorem run_enter (s : Staging) :
    (Deed.press .submit).run s = ((submit s.explorer.prompt).run s).2 := by
  have hget : (getThe Staging : Acting Staging).run s = (s, s) := rfl
  rw [Deed.run, Deed.act, press, run_bind hget]
  generalize submit s.explorer.prompt = x
  rfl

theorem run_recallNext (s : Staging) :
    ((Deed.press .recallNext).run s).explorer = s.explorer.recallNext := rfl

theorem run_listed (h : d.listed? s = some path)
    (hfile : s.explorer.settings.file ≠ .directory) :
    (d.run s).recalling = ((s.explorer.settings.addRecent path).1, 0) := by
  cases d with
  | press k =>
    cases k with
    | submit => exact run_enter s ▸ submit_listed h hfile
    | character | erase | accept | recallNext | refresh => cases h
  | submit text => exact run_submit text s ▸ submit_listed h hfile
  | change | openMade | openShown => cases h

theorem run_not_listed (h : d.listed? s = none) (hd : d ≠ .press .recallNext) :
    (d.run s).recalling = s.recalling := by
  cases d with
  | press k =>
    cases k with
    | submit => exact run_enter s ▸ submit_not_listed h
    | recallNext => exact absurd rfl hd
    | accept => exact accept_leaves s
    | refresh => exact refresh_leaves.bind (fun _ ↦ .pure _) s
    | character | erase => rfl
  | submit text => exact run_submit text s ▸ submit_not_listed h
  | change => rfl
  | openMade label expression =>
    have hmade : Leaves recalling (openMade label expression) :=
      .bind (fun _ ↦ rfl) fun _ ↦ (openNode_leaves _).bind fun _ _ ↦ rfl
    exact hmade.bind (fun _ ↦ .pure _) s
  | openShown index =>
    have hshown : Leaves recalling (openShown index) := by
      refine .bind (fun _ ↦ rfl) fun s ↦ ?_
      split
      · exact .pure _
      · exact (openNode_leaves _).bind fun _ ↦ fun _ ↦ rfl
    exact hshown.bind (fun _ ↦ .pure _) s

/-- One deed after the other, with the paths that were listed, the latest first, and how often a
path has been recalled since. -/
inductive Course (s : Staging) : List String → Nat → Staging → Prop
  | start : Course s [] 0 s
  | listed {paths : List String} {k : Nat} {t : Staging} {d : Deed} {path : String} :
      Course s paths k t → d.listed? t = some path → Course s (path :: paths) 0 (d.run t)
  | recalled {paths : List String} {k : Nat} {t : Staging} :
      Course s paths k t → Course s paths (k + 1) ((Deed.press .recallNext).run t)
  | other {paths : List String} {k : Nat} {t : Staging} {d : Deed} :
      Course s paths k t → d.listed? t = none → d ≠ .press .recallNext → Course s paths k (d.run t)

section

variable {paths : List String} {k : Nat}

theorem text_of_listed (h : d.listed? s = some path) :
    ∃ text, Explorer.listed? text = some path := by
  cases d with
  | press k =>
    cases k with
    | submit => exact ⟨_, h⟩
    | character | erase | accept | recallNext | refresh => cases h
  | submit text => exact ⟨text, h⟩
  | change | openMade | openShown => cases h

section

variable (hkeys : (s.explorer.settings.settings.data.map Prod.fst).Nodup)
  (hfile : s.explorer.settings.file ≠ .directory)

include hkeys hfile

theorem Course.settings (h : Course s paths k t) :
    (paths = [] ∧ t.explorer.settings = s.explorer.settings) ∨
      paths ≠ [] ∧
        t.explorer.settings.Holds ((paths ++ s.explorer.recentPaths).eraseDups.take 12) := by
  induction h with
  | start => exact .inl ⟨rfl, rfl⟩
  | listed _ hlisted ih =>
    obtain ⟨text, htext⟩ := text_of_listed hlisted
    have hpath := Explorer.strip_of_listed htext
    obtain ⟨rfl, ht⟩ | ⟨-, ht⟩ := ih
    · obtain ⟨hsettings, -⟩ := Prod.mk.inj (run_listed hlisted (ht ▸ hfile))
      have hinitial : s.explorer.recentPaths = s.explorer.recentPaths.eraseDups :=
        (eraseDups_of_nodup (Settings.usable_recentPaths _).nodup).symm
      rw [hsettings, ht]
      exact .inr ⟨List.cons_ne_nil _ _,
        SettingsManager.holds_addRecent hkeys hfile hpath (.inl hinitial)⟩
    · obtain ⟨hsettings, -⟩ := Prod.mk.inj (run_listed hlisted ht.noDirectory)
      have hpaths := ht.lists.recentPaths ht.usable
      rw [hsettings]
      exact .inr ⟨List.cons_ne_nil _ _,
        SettingsManager.holds_addRecent ht.lists.keys ht.noDirectory hpath (.inr hpaths)⟩
  | @recalled _ _ t _ ih => rwa [run_recallNext, Explorer.recallNext_settings]
  | other _ hlisted hd ih =>
    obtain ⟨hsettings, -⟩ := Prod.mk.inj (run_not_listed hlisted hd)
    rwa [hsettings]

theorem Course.recentPaths (h : Course s paths k t) : t.explorer.recentPaths =
    if paths = [] then s.explorer.recentPaths
    else (paths ++ s.explorer.recentPaths).eraseDups.take 12 := by
  obtain ⟨rfl, ht⟩ | ⟨hpaths, ht⟩ := h.settings hkeys hfile
  · rw [if_pos rfl, Explorer.recentPaths, ht]
    rfl
  · rw [if_neg hpaths]
    exact ht.lists.recentPaths ht.usable

theorem Course.noDirectory (h : Course s paths k t) :
    t.explorer.settings.file ≠ .directory := by
  obtain ⟨-, ht⟩ | ⟨-, ht⟩ := h.settings hkeys hfile
  · rwa [ht]
  · exact ht.noDirectory

theorem Course.next (h : Course s paths k t) (hstart : s.explorer.next = 0) :
    t.explorer.recentPaths ≠ [] → t.explorer.next % t.explorer.recentPaths.length =
      k % t.explorer.recentPaths.length := by
  induction h with
  | start => exact fun _ ↦ by rw [hstart]
  | listed h hlisted =>
    obtain ⟨-, hnext⟩ := Prod.mk.inj (run_listed hlisted (h.noDirectory hkeys hfile))
    exact fun _ ↦ by rw [hnext]
  | @recalled paths k t _ ih =>
    have hpaths : t.explorer.recallNext.recentPaths = t.explorer.recentPaths := by
      rw [Explorer.recentPaths, Explorer.recallNext_settings]
      rfl
    intro hne
    rw [run_recallNext, hpaths] at hne ⊢
    rw [Explorer.recallNext_next hne, ih hne, Nat.mod_add_mod]
  | other _ hlisted hd ih =>
    obtain ⟨hsettings, hnext⟩ := Prod.mk.inj (run_not_listed hlisted hd)
    rwa [Explorer.recentPaths, hsettings, hnext]

theorem Course.recall (h : Course s paths k t) (hstart : s.explorer.next = 0) :
    ((Deed.press .recallNext).run t).explorer.prompt =
      (t.explorer.recentPaths[k % t.explorer.recentPaths.length]?).getD t.explorer.prompt := by
  rw [run_recallNext, Explorer.recallNext_prompt]
  cases hpaths : t.explorer.recentPaths with
  | nil => simp
  | cons path rest =>
    have hnext := h.next hkeys hfile hstart (by simp [hpaths])
    rw [← hpaths, hnext]

end

end

end Staging

/-- The recent paths are the latest ones. Whatever settings there are at first, and however often
they are saved and loaded again while paths are added, the recent paths are the first twelve of all
that were added, the latest first, and those of before, each once. In an explorer they come to the
prompt one after the other, beginning with the first when a path has been listed. -/
theorem recentPaths_latest :
    (∀ (m : SettingsManager) (path : String) (es : List SettingsManager.Edit),
      (m.settings.data.map Prod.fst).Nodup → m.file ≠ .directory → Text.strip path ≠ "" →
      (∀ e ∈ es, e.Fitting) →
      ((m.addRecent path).1.runAll es).settings.recentPaths =
        ((es.filterMap SettingsManager.Edit.path?).reverse ++
          path :: m.settings.recentPaths).eraseDups.take 12) ∧
    ∀ (s t : Staging) (listed : List String) (k : Nat),
      (s.explorer.settings.settings.data.map Prod.fst).Nodup →
      s.explorer.settings.file ≠ .directory → s.explorer.next = 0 →
      Staging.Course s listed k t →
      t.explorer.recentPaths = (if listed = [] then s.explorer.recentPaths
        else (listed ++ s.explorer.recentPaths).eraseDups.take 12) ∧
      ((Staging.Deed.press .recallNext).run t).explorer.prompt =
        (t.explorer.recentPaths[k % t.explorer.recentPaths.length]?).getD t.explorer.prompt := by
  constructor
  · intro m path es hkeys hfile hpath hes
    exact SettingsManager.recentPaths_runAll hkeys hfile hpath hes
  · intro s t listed k hkeys hfile hstart hcourse
    exact ⟨hcourse.recentPaths hkeys hfile, hcourse.recall hkeys hfile hstart⟩

/-- Settings with two recent paths and something between them that is none. A path comes to the
front again, and the second one is recalled after a key has been pressed. -/
theorem recentPaths_latest_revisited :
    let m : SettingsManager :=
      ⟨⟨[("recent_paths", .arr [.str "b$", .null, .str "a@"])]⟩, .absent⟩
    let s : Staging := { explorer := { settings := m } }
    let t := (Staging.Deed.press (.character 'x')).run ((Staging.Deed.press .recallNext).run s)
    (m.settings.data.map Prod.fst).Nodup ∧ m.file ≠ .directory ∧ Text.strip "x$" ≠ "" ∧
      s.explorer.next = 0 ∧ Staging.Course s [] 1 t ∧
      ((m.addRecent "x$").1.runAll [.reload, .addRecent "a@" 12, .save]).settings.recentPaths =
        ["a@", "x$", "b$"] ∧
      ((Staging.Deed.press .recallNext).run t).explorer.prompt = "a@" := by
  intro m s t
  have hkeys : (m.settings.data.map Prod.fst).Nodup := by decide
  have hfile : m.file ≠ .directory := nofun
  have hcourse : Staging.Course s [] 1 t := .other (.recalled .start) rfl nofun
  have hedits := recentPaths_latest.1 m "x$" [.reload, .addRecent "a@" 12, .save] hkeys hfile
    (by decide) (by simp [SettingsManager.Edit.Fitting, Settings.recentLimit]; decide)
  have hrecall := recentPaths_latest.2 s t [] 1 hkeys hfile rfl hcourse
  refine ⟨hkeys, hfile, by decide, rfl, hcourse, hedits.trans (by decide), hrecall.2.trans ?_⟩
  rw [hrecall.1]
  decide

end VariableExplorer
