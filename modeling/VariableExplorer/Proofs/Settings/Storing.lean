import VariableExplorer.Proofs.Json.RoundTrip
import VariableExplorer.Proofs.Settings.Preferences

/-!
Settings and their file stay in step. Whatever is set, added to the recent paths, saved or loaded
again, the file holds what the manager holds, and a manager that is made from the file is the same.
-/

namespace VariableExplorer

/-! ### Texts without carriage returns -/

theorem FileState.plainLines_eq {cs : List Char} (h : '\r' ∉ cs) : plainLines cs = cs := by
  induction cs with
  | nil => rfl
  | cons c cs ih =>
    obtain ⟨hc, hcs⟩ := not_or.mp (List.mem_cons.not.mp h)
    rw [plainLines.eq_def]
    split
    next heq => exact absurd (List.cons.inj heq).1.symm hc
    next heq => exact absurd (List.cons.inj heq).1.symm hc
    next heq =>
      cases heq
      rw [ih hcs]
    next heq => cases heq

namespace Json

theorem cr_notMem_encodeChar (c : Char) : '\r' ∉ encodeChar c := by
  have hdigit : ∀ d < 16, '\r' ≠ Text.Quoted.hexDigit d := by decide
  have hunit (n : Nat) : '\r' ∉ escapeUnit n := by
    simp [escapeUnit, Text.Quoted.hex, hdigit _ (Nat.mod_lt _ (by decide : 0 < 16))]
  unfold encodeChar
  split
  next h =>
    obtain rfl | rfl := (by simpa using h : c = '"' ∨ c = '\\') <;> decide
  split
  · decide
  split
  · decide
  split
  · decide
  split
  · decide
  split
  · decide
  dsimp only
  split
  next hprintable =>
    rintro hmem
    obtain rfl := List.mem_singleton.mp hmem
    cases hprintable
  split
  · exact hunit _
  · exact fun hmem ↦ (List.mem_append.mp hmem).elim (hunit _) (hunit _)

theorem cr_notMem_quote (s : String) : '\r' ∉ quote s := by
  simp [quote, List.mem_flatMap, cr_notMem_encodeChar]

theorem cr_notMem_lineBreak (level : Nat) : '\r' ∉ lineBreak level := by
  simp [lineBreak, List.mem_replicate]

theorem cr_notMem_toString (i : Int) : '\r' ∉ (toString i).toList := by
  rw [toString_signed]
  refine cr_notMem_signed _ fun hmem ↦ ?_
  cases (Decimal.whole_toDigits i.natAbs).digits _ hmem

theorem cr_notMem_renderItems {level : Nat} {vs : List Json}
    (h : ∀ v ∈ vs, '\r' ∉ render level v) : '\r' ∉ renderItems level vs := by
  induction vs with
  | nil => simp [renderItems]
  | cons v vs ih =>
    simp [renderItems, cr_notMem_lineBreak, h v List.mem_cons_self,
      ih fun w hw ↦ h w (List.mem_cons_of_mem v hw)]

theorem cr_notMem_renderFields {level : Nat} {fs : List (String × Json)}
    (h : ∀ f ∈ fs, '\r' ∉ render level f.2) : '\r' ∉ renderFields level fs := by
  induction fs with
  | nil => simp [renderFields]
  | cons f fs ih =>
    simp [renderFields, cr_notMem_lineBreak, cr_notMem_quote, h f List.mem_cons_self,
      ih fun g hg ↦ h g (List.mem_cons_of_mem f hg)]

theorem cr_notMem_render (v : Json) (level : Nat) : '\r' ∉ render level v := by
  induction v using ofElements generalizing level with
  | null => simp [render, scalarText]
  | bool b => cases b <;> simp [render, scalarText]
  | int i => exact cr_notMem_toString i
  | float x => exact (spelled_floatText x).cr_notMem
  | str s => exact cr_notMem_quote s
  | arr vs ih =>
    cases vs with
    | nil => simp [render, scalarText]
    | cons v vs =>
      have hv := ih v List.mem_cons_self (level + 1)
      have hitems := cr_notMem_renderItems fun w hw ↦ ih w (List.mem_cons_of_mem v hw) (level + 1)
      simp [render, cr_notMem_lineBreak, hv, hitems]
  | obj fs ih =>
    cases fs with
    | nil => simp [render, scalarText]
    | cons f fs =>
      have hf := ih f List.mem_cons_self (level + 1)
      have hfields := cr_notMem_renderFields fun g hg ↦ ih g (List.mem_cons_of_mem f hg) (level + 1)
      simp [render, cr_notMem_lineBreak, cr_notMem_quote, hf, hfields]

end Json

/-! ### Settings in their file -/

namespace Settings

def Storable (s : Settings) : Prop := Json.Storable Json.depthLimit (.obj s.data)

variable {s : Settings}

theorem storable_empty : Storable {} := .obj List.nodup_nil nofun

theorem load_toText (s : Settings) (isPrivate : Bool) :
    load (.file (Text.Utf8.encode s.toText) isPrivate) = ofText s.toText := by
  have hplain : plain s.toText = s.toText := by
    rw [plain, toText, Json.pretty, String.toList_ofList,
      FileState.plainLines_eq (Json.cr_notMem_render (.obj s.data) 0), ← Json.pretty]
  rw [load_encode, hplain]

theorem load_saved (h : s.Storable) (isPrivate : Bool) :
    load (.file (Text.Utf8.encode s.toText) isPrivate) = .ok s := by
  rw [load_toText, ofText, toText, Json.parse_pretty h]

/-- Of settings that were saved the same keys are loaded, with the values that can be stored, unless
what was saved exceeds a limit. -/
theorem load_saved_kept (h : (s.data.map Prod.fst).Nodup) (isPrivate : Bool) :
    (∃ t, load (.file (Text.Utf8.encode s.toText) isPrivate) = .ok t ∧
      List.Forall₂ (Json.FieldKept (Json.depthLimit - 1)) s.data t.data) ∨
    ∃ f, load (.file (Text.Utf8.encode s.toText) isPrivate) = .error f := by
  rw [load_toText, ofText, toText]
  obtain ⟨gs, hgs, hparse⟩ | ⟨f, hf, hparse⟩ := Json.parse_pretty_obj h
  · rw [hparse]
    exact .inl ⟨⟨gs⟩, rfl, hgs⟩
  · rw [hparse]
    cases f with
    | malformed => exact absurd rfl hf
    | tooManyDigits | tooDeep => exact .inr ⟨_, rfl⟩

theorem storable_iff : s.Storable ↔ (s.data.map Prod.fst).Nodup ∧
    ∀ f ∈ s.data, Json.Storable (Json.depthLimit - 1) f.2 :=
  ⟨fun h ↦ by cases h with | obj hkeys hvalues => exact ⟨hkeys, hvalues⟩, fun h ↦ .obj h.1 h.2⟩

theorem mem_insertField {key : String} {v : Json} {fs : List (String × Json)}
    {f : String × Json} (h : f ∈ Json.insertField key v fs) : f = (key, v) ∨ f ∈ fs := by
  induction fs with
  | nil => exact .inl (List.mem_singleton.mp h)
  | cons g fs ih =>
    rw [Json.insertField] at h
    split at h
    next hkey =>
      obtain rfl | h := List.mem_cons.mp h
      · exact .inl (by rw [hkey])
      · exact .inr (List.mem_cons_of_mem g h)
    · obtain rfl | h := List.mem_cons.mp h
      · exact .inr List.mem_cons_self
      · exact (ih h).imp_right (List.mem_cons_of_mem g)

theorem keys_insertField {key : String} (v : Json) {fs : List (String × Json)}
    (h : (fs.map Prod.fst).Nodup) : ((Json.insertField key v fs).map Prod.fst).Nodup := by
  induction fs with
  | nil => exact List.nodup_cons.mpr ⟨List.not_mem_nil, List.nodup_nil⟩
  | cons g fs ih =>
    obtain ⟨hg, hfs⟩ := List.nodup_cons.mp h
    rw [Json.insertField]
    split
    · exact List.nodup_cons.mpr ⟨hg, hfs⟩
    next hne =>
      refine List.nodup_cons.mpr ⟨fun hmem ↦ ?_, ih hfs⟩
      obtain ⟨f, hf, hfg⟩ := List.mem_map.mp hmem
      obtain rfl | hf := mem_insertField hf
      · exact hne hfg.symm
      · exact hg (hfg ▸ List.mem_map_of_mem hf)

theorem Storable.set (h : s.Storable) {v : Json} (hv : Json.Storable (Json.depthLimit - 1) v)
    (key : String) : (s.set key v).Storable := by
  obtain ⟨hkeys, hvalues⟩ := storable_iff.mp h
  refine storable_iff.mpr ⟨keys_insertField v hkeys, fun f hf ↦ ?_⟩
  obtain rfl | hf := mem_insertField hf
  · exact hv
  · exact hvalues f hf

theorem Storable.addRecent (h : s.Storable) (path : String) (limit : Int) :
    (s.addRecent path limit).Storable := by
  refine h.set (.arr fun v hv ↦ ?_) recentKey
  obtain ⟨t, -, rfl⟩ := List.mem_map.mp hv
  exact .str t

end Settings

namespace SettingsManager

inductive Edit
  | set (key : String) (v : Json)
  | addRecent (path : String) (limit : Int)
  | save
  | reload

namespace Edit

def run (m : SettingsManager) : Edit → SettingsManager × Option Settings.Fault
  | set key v => m.set key v
  | addRecent path limit => m.addRecent path limit
  | save => m.put m.settings
  | reload => m.reload

def Storable : Edit → Prop
  | set _ v => Json.Storable (Json.depthLimit - 1) v
  | _ => True

end Edit

/-- What a manager comes to that starts without a file. -/
inductive Reached : SettingsManager → Prop
  | start : Reached ⟨{}, .absent⟩
  | edit {m : SettingsManager} {e : Edit} : Reached m → e.Storable → Reached (e.run m).1

structure InStep (m : SettingsManager) : Prop where
  storable : m.settings.Storable
  noDirectory : m.file ≠ .directory
  load : Settings.load m.file = .ok m.settings

variable {m : SettingsManager}

theorem put_eq {s : Settings} (h : m.file ≠ .directory) :
    m.put s = (⟨s, .file (Text.Utf8.encode s.toText) true⟩, none) := by
  obtain ⟨settings, file⟩ := m
  cases file with
  | directory => exact absurd rfl h
  | absent | file bytes isPrivate => rfl

theorem inStep_of_saved {s : Settings} (h : s.Storable) :
    InStep ⟨s, .file (Text.Utf8.encode s.toText) true⟩ :=
  ⟨h, nofun, Settings.load_saved h true⟩

theorem InStep.reload (h : m.InStep) : m.reload = (m, none) := by
  rw [SettingsManager.reload, h.load]

theorem InStep.new (h : m.InStep) : SettingsManager.new m.file = .ok m := by
  rw [SettingsManager.new, h.load]
  rfl

theorem InStep.edit (h : m.InStep) {e : Edit} (he : e.Storable) :
    ∃ m', e.run m = (m', none) ∧ m'.InStep ∧ (e ≠ .reload →
      m'.file = .file (Text.Utf8.encode m'.settings.toText) true) := by
  cases e with
  | set key v =>
    exact ⟨_, put_eq h.noDirectory, inStep_of_saved (h.storable.set he key), fun _ ↦ rfl⟩
  | addRecent path limit =>
    exact ⟨_, put_eq h.noDirectory, inStep_of_saved (h.storable.addRecent path limit), fun _ ↦ rfl⟩
  | save => exact ⟨_, put_eq h.noDirectory, inStep_of_saved h.storable, fun _ ↦ rfl⟩
  | reload => exact ⟨m, h.reload, h, fun hne ↦ absurd rfl hne⟩

theorem Reached.inStep (h : Reached m) : m.InStep := by
  induction h with
  | start => exact ⟨Settings.storable_empty, nofun, rfl⟩
  | edit _ he ih =>
    obtain ⟨m', hrun, hm', -⟩ := ih.edit he
    rw [hrun]
    exact hm'

/-- Every edit of a manager that has started without a file comes through. The file then holds what
the manager holds: a manager that is made from it is the same, with all its data in the same order,
and loading it changes nothing. -/
theorem edit_kept {e : Edit} (h : Reached m) (he : e.Storable) : ∃ m', e.run m = (m', none) ∧
    SettingsManager.new m'.file = .ok m' ∧ m'.reload = (m', none) ∧ (e ≠ .reload →
      m'.file = .file (Text.Utf8.encode m'.settings.toText) true) := by
  obtain ⟨m', hrun, hm', hfile⟩ := h.inStep.edit he
  exact ⟨m', hrun, hm'.new, hm'.reload, hfile⟩

/-- A path is added behind a value with nested and empty parts, whose key has a mark and a line break
in it. -/
theorem edit_kept_recent : ∃ m', (Edit.addRecent "df$a" 12).run
      ((Edit.set "a\"\n" (.arr [.obj [("é", .arr []), ("", .int (-12))], .null])).run
        ⟨{}, .absent⟩).1 = (m', none) ∧
    SettingsManager.new m'.file = .ok m' ∧ m'.reload = (m', none) ∧
    (Edit.addRecent "df$a" 12 ≠ .reload →
      m'.file = .file (Text.Utf8.encode m'.settings.toText) true) := by
  refine edit_kept (.edit .start ?_) trivial
  refine .arr fun v hv ↦ ?_
  obtain rfl | hv := List.mem_cons.mp hv
  · refine .obj (by decide) fun f hf ↦ ?_
    obtain rfl | hf := List.mem_cons.mp hf
    · exact .arr nofun
    · obtain rfl := List.mem_singleton.mp hf
      exact .int (by decide)
  · obtain rfl := List.mem_singleton.mp hv
    exact .null

end SettingsManager

end VariableExplorer
