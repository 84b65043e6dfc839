import VariableExplorer.Proofs.Settings.Storing

/-!
The recent paths are the latest ones. However often the list is cut while paths are added, what is
left is what one cut of all of them leaves, as a path that has been cut off comes back only in front.
-/

namespace VariableExplorer

/-! ### Lists without repetitions -/

section

variable {α : Type} [BEq α] [LawfulBEq α]

theorem eraseDups_filter (p : α → Bool) (l : List α) :
    (l.filter p).eraseDups = l.eraseDups.filter p := by
  induction hn : l.length using Nat.strongRecOn generalizing l with
  | ind n ih =>
    cases l with
    | nil => rfl
    | cons a l =>
      have hlength : (l.filter fun b ↦ !b == a).length < n := by
        have hle := List.length_filter_le (fun b ↦ !b == a) l
        rw [List.length_cons] at hn
        omega
      have hrest := ih _ hlength _ rfl
      rw [List.filter_filter] at hrest
      rw [List.eraseDups_cons, List.filter_cons]
      split
      next ha =>
        rw [List.filter_cons_of_pos ha, List.eraseDups_cons, ← hrest, List.filter_filter]
        simp only [Bool.and_comm]
      next ha =>
        rw [List.filter_cons_of_neg ha, ← hrest]
        congr 1
        refine List.filter_congr fun b _ ↦ ?_
        cases hb : b == a with
        | true => simp [eq_of_beq hb, ha]
        | false => simp

theorem eraseDups_cons_filter (a : α) (l : List α) :
    (a :: l).eraseDups = a :: l.eraseDups.filter fun b ↦ !b == a := by
  rw [List.eraseDups_cons, eraseDups_filter]

theorem nodup_eraseDups (l : List α) : l.eraseDups.Nodup := by
  induction l with
  | nil => exact List.nodup_nil
  | cons a l ih =>
    rw [eraseDups_cons_filter]
    exact List.nodup_cons.mpr ⟨by simp, ih.filter _⟩

theorem eraseDups_of_nodup {l : List α} (h : l.Nodup) : l.eraseDups = l := by
  induction l with
  | nil => rfl
  | cons a l ih =>
    obtain ⟨ha, hl⟩ := List.nodup_cons.mp h
    rw [eraseDups_cons_filter, ih hl, List.filter_eq_self.mpr]
    intro b hb
    simpa using ne_of_mem_of_not_mem hb ha

theorem take_filter_take {l : List α} (h : l.Nodup) (a : α) (n : Nat) :
    ((l.take (n + 1)).filter fun b ↦ !b == a).take n = (l.filter fun b ↦ !b == a).take n := by
  induction l generalizing n with
  | nil => rfl
  | cons b l ih =>
    obtain ⟨hb, hl⟩ := List.nodup_cons.mp h
    rw [List.take_succ_cons]
    cases hba : b == a with
    | true =>
      obtain rfl := eq_of_beq hba
      have hself : ∀ c ∈ l, (!c == b) = true := by
        intro c hc
        simpa using ne_of_mem_of_not_mem hc hb
      rw [List.filter_cons_of_neg (by simp), List.filter_cons_of_neg (by simp),
        List.filter_eq_self.mpr hself,
        List.filter_eq_self.mpr fun c hc ↦ hself c (List.mem_of_mem_take hc), List.take_take,
        Nat.min_self]
    | false =>
      rw [List.filter_cons_of_pos (by simp [hba]), List.filter_cons_of_pos (by simp [hba])]
      cases n with
      | zero => rfl
      | succ n => rw [List.take_succ_cons, List.take_succ_cons, ih hl]

/-- To put an element in front of a list that was cut, and to cut the list again, is the same as to
cut it once. -/
theorem take_cons_filter_take {l : List α} (h : l.Nodup) (a : α) (n : Nat) :
    (a :: (l.take n).filter fun b ↦ !b == a).take n =
      (a :: l.filter fun b ↦ !b == a).take n := by
  cases n with
  | zero => rfl
  | succ n => rw [List.take_succ_cons, List.take_succ_cons, take_filter_take h]

end

namespace Settings

variable {s t : Settings} {key : String}

/-! ### The list in the settings -/

/-- What counts as the recent paths: texts that are not blank, each once. -/
structure Usable (paths : List String) : Prop where
  nodup : paths.Nodup
  filled : ∀ path ∈ paths, Text.strip path ≠ ""

theorem usable_usablePaths (vs : List Json) : Usable (usablePaths vs) := by
  induction vs with
  | nil => exact ⟨List.nodup_nil, nofun⟩
  | cons v vs ih =>
    cases v with
    | str t =>
      rw [usablePaths]
      split
      · exact ih
      next ht =>
        refine ⟨List.nodup_cons.mpr ⟨by simp, ih.nodup.filter _⟩, fun path hpath ↦ ?_⟩
        obtain rfl | hpath := List.mem_cons.mp hpath
        · exact ht
        · exact ih.filled path (List.mem_of_mem_filter hpath)
    | null | bool | int | float | arr | obj => exact ih

theorem usablePaths_map {paths : List String} (h : Usable paths) :
    usablePaths (paths.map .str) = paths := by
  induction paths with
  | nil => rfl
  | cons path paths ih =>
    obtain ⟨hpath, hnodup⟩ := List.nodup_cons.mp h.nodup
    have hrest := ih ⟨hnodup, fun p hp ↦ h.filled p (List.mem_cons_of_mem path hp)⟩
    rw [List.map_cons, usablePaths, if_neg (h.filled path List.mem_cons_self), hrest,
      List.filter_eq_self.mpr]
    intro p hp
    simpa using ne_of_mem_of_not_mem hp hpath

theorem usable_recentPaths (s : Settings) : Usable s.recentPaths := by
  rw [recentPaths]
  split
  · exact usable_usablePaths _
  · exact ⟨List.nodup_nil, nofun⟩

theorem Usable.take {paths : List String} (h : Usable paths) (n : Nat) : Usable (paths.take n) :=
  ⟨h.nodup.sublist (List.take_sublist n paths),
    fun path hpath ↦ h.filled path (List.mem_of_mem_take hpath)⟩

theorem lookup_insertField_self (key : String) (v : Json) (fs : List (String × Json)) :
    (Json.insertField key v fs).lookup key = some v := by
  induction fs with
  | nil => simp [Json.insertField]
  | cons f fs ih =>
    rw [Json.insertField]
    split
    next hf => simp [hf]
    next hf =>
      rw [List.lookup_cons, beq_false_of_ne (Ne.symm hf)]
      exact ih

theorem lookup_insertField_of_ne {key k : String} (hne : k ≠ key) (v : Json)
    (fs : List (String × Json)) : (Json.insertField key v fs).lookup k = fs.lookup k := by
  induction fs with
  | nil => simp [Json.insertField, hne]
  | cons f fs ih =>
    rw [Json.insertField]
    split
    next hf =>
      have hk : (k == f.1) = false := beq_false_of_ne (hf ▸ hne)
      rw [List.lookup_cons, List.lookup_cons, hk]
    · rw [List.lookup_cons, List.lookup_cons, ih]

theorem lookup_kept {depth : Nat} {fs gs : List (String × Json)} {v : Json}
    (h : List.Forall₂ (Json.FieldKept depth) fs gs) (hv : fs.lookup key = some v)
    (hstorable : Json.Storable depth v) : gs.lookup key = some v := by
  induction h with
  | nil => cases hv
  | @cons f g fs gs hfield _ ih =>
    rw [List.lookup_cons] at hv ⊢
    rw [hfield.1]
    cases hkey : key == f.1 with
    | true =>
      rw [hkey] at hv
      obtain rfl := Option.some.inj hv
      rw [hfield.2 hstorable]
    | false =>
      rw [hkey] at hv
      exact ih hv

structure Lists (s : Settings) (paths : List String) : Prop where
  keys : (s.data.map Prod.fst).Nodup
  held : s.data.lookup recentKey = some (.arr (paths.map .str))

variable {paths : List String}

theorem Lists.recentPaths (h : s.Lists paths) (hpaths : Usable paths) : s.recentPaths = paths := by
  rw [Settings.recentPaths, h.held]
  exact usablePaths_map hpaths

theorem Lists.set (h : s.Lists paths) (hkey : key ≠ recentKey) (v : Json) :
    (s.set key v).Lists paths where
  keys := keys_insertField v h.keys
  held := (lookup_insertField_of_ne (Ne.symm hkey) v s.data).trans h.held

theorem lists_addRecent (h : (s.data.map Prod.fst).Nodup) (path : String) :
    (s.addRecent path).Lists ((path :: s.recentPaths.filter fun p ↦ !p == path).take 12) where
  keys := keys_insertField _ h
  held := by
    have hfilter : (fun p : String ↦ decide (p ≠ path)) = fun p ↦ !p == path := by
      funext p
      rw [beq_eq_decide, decide_not]
    rw [addRecent, hfilter]
    exact lookup_insertField_self recentKey _ s.data

theorem Lists.load (h : s.Lists paths) {isPrivate : Bool}
    (hload : load (.file (Text.Utf8.encode s.toText) isPrivate) = .ok t) : t.Lists paths := by
  obtain ⟨t', hload', hkept⟩ | ⟨f, hload'⟩ := load_saved_kept h.keys isPrivate
  · cases hload.symm.trans hload'
    have hstorable : Json.Storable (Json.depthLimit - 1) (.arr (paths.map .str)) := by
      refine .arr fun v hv ↦ ?_
      obtain ⟨path, -, rfl⟩ := List.mem_map.mp hv
      exact .str path
    exact ⟨Json.fields_keys hkept ▸ h.keys, lookup_kept hkept h.held hstorable⟩
  · cases hload.symm.trans hload'

end Settings

namespace SettingsManager

open Settings

variable {m : SettingsManager} {paths l : List String}

/-! ### The list while paths are added -/

/-- The manager has these recent paths, and so has its file if it can be loaded. -/
structure Holds (m : SettingsManager) (paths : List String) : Prop where
  usable : Usable paths
  lists : m.settings.Lists paths
  noDirectory : m.file ≠ .directory
  loads : ∀ s, load m.file = .ok s → s.Lists paths

theorem holds_put {s : Settings} (hfile : m.file ≠ .directory) (husable : Usable paths)
    (h : s.Lists paths) : (m.put s).1.Holds paths := by
  rw [put_eq hfile]
  exact ⟨husable, h, nofun, fun _ hload ↦ h.load hload⟩

theorem Holds.reload (h : m.Holds paths) : m.reload.1.Holds paths := by
  rw [SettingsManager.reload]
  cases hload : load m.file with
  | ok s => exact ⟨h.usable, h.loads s hload, h.noDirectory, h.loads⟩
  | error f => exact h

/-- A path goes in front of a list without repetitions, of which the manager may have only the first
paths. -/
theorem holds_addRecent {path : String} (hkeys : (m.settings.data.map Prod.fst).Nodup)
    (hfile : m.file ≠ .directory) (hpath : Text.strip path ≠ "")
    (h : m.settings.recentPaths = l.eraseDups ∨ m.settings.recentPaths = l.eraseDups.take 12) :
    (m.addRecent path).1.Holds ((path :: l).eraseDups.take 12) := by
  have hpaths : (path :: m.settings.recentPaths.filter fun p ↦ !p == path).take 12 =
      (path :: l).eraseDups.take 12 := by
    rw [eraseDups_cons_filter]
    obtain h | h := h
    · rw [h]
    · rw [h, take_cons_filter_take (nodup_eraseDups l)]
  have husable := usable_recentPaths m.settings
  refine hpaths ▸ holds_put hfile (Usable.take ⟨?_, fun p hp ↦ ?_⟩ 12) (lists_addRecent hkeys path)
  · exact List.nodup_cons.mpr ⟨by simp, husable.nodup.filter _⟩
  · obtain rfl | hp := List.mem_cons.mp hp
    · exact hpath
    · exact husable.filled p (List.mem_of_mem_filter hp)

namespace Edit

def path? : Edit → Option String
  | addRecent path _ => some path
  | _ => none

/-- Nothing but paths that are not blank comes to the recent paths, of which as many are kept as
always. -/
def Fitting : Edit → Prop
  | set key _ => key ≠ recentKey
  | addRecent path limit => Text.strip path ≠ "" ∧ limit = recentLimit
  | save | reload => True

end Edit

theorem Holds.edit {e : Edit} (h : m.Holds (l.eraseDups.take 12)) (he : e.Fitting) :
    (e.run m).1.Holds ((e.path?.toList ++ l).eraseDups.take 12) := by
  cases e with
  | set key v => exact holds_put h.noDirectory h.usable (h.lists.set he v)
  | addRecent path limit =>
    obtain ⟨hpath, rfl⟩ := he
    exact holds_addRecent h.lists.keys h.noDirectory hpath (.inr (h.lists.recentPaths h.usable))
  | save => exact holds_put h.noDirectory h.usable h.lists
  | reload => exact h.reload

def runAll (m : SettingsManager) (es : List Edit) : SettingsManager :=
  es.foldl (fun m e ↦ (e.run m).1) m

/-- The paths that are added come in front, the latest first, and the list is as if it had been cut
once. -/
theorem Holds.edits (h : m.Holds (l.eraseDups.take 12)) {es : List Edit}
    (hes : ∀ e ∈ es, e.Fitting) :
    (m.runAll es).Holds (((es.filterMap Edit.path?).reverse ++ l).eraseDups.take 12) := by
  induction es generalizing m l with
  | nil => exact h
  | cons e es ih =>
    have hrest := ih (h.edit (hes e List.mem_cons_self))
      fun e' he' ↦ hes e' (List.mem_cons_of_mem e he')
    have hpaths : ((e :: es).filterMap Edit.path?).reverse ++ l =
        (es.filterMap Edit.path?).reverse ++ (e.path?.toList ++ l) := by
      rw [List.filterMap_cons]
      cases e.path? <;> simp
    rw [hpaths]
    exact hrest

theorem recentPaths_runAll {path : String} {es : List Edit}
    (hkeys : (m.settings.data.map Prod.fst).Nodup) (hfile : m.file ≠ .directory)
    (hpath : Text.strip path ≠ "") (hes : ∀ e ∈ es, e.Fitting) :
    ((m.addRecent path).1.runAll es).settings.recentPaths =
      ((es.filterMap Edit.path?).reverse ++
        path :: m.settings.recentPaths).eraseDups.take 12 := by
  have hinitial := (eraseDups_of_nodup (usable_recentPaths m.settings).nodup).symm
  have hfirst := holds_addRecent hkeys hfile hpath (.inl hinitial)
  have hall := hfirst.edits hes
  exact hall.lists.recentPaths hall.usable

end SettingsManager

end VariableExplorer
