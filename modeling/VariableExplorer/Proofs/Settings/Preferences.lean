import Mathlib.Tactic.SplitIfs
import VariableExplorer.Proofs.Json.Limits
import VariableExplorer.Proofs.Text.Utf8
import VariableExplorer.Settings.File

/-!
What settings come to, whatever the file and the environment hold. Files that cannot be loaded are
those that hold no text and those whose text exceeds a limit of reading. A preference is what the
value found for it stands for where that can be used and its default where it cannot, and fails on
numbers that are too large.
-/

namespace VariableExplorer

namespace Settings

open Text

/-! ### Files -/

def plain (s : String) : String := String.ofList (FileState.plainLines s.toList)

inductive Unreadable : FileState → Fault → Prop
  | badText {bytes : List UInt8} {isPrivate : Bool} {f : Utf8.Fault} :
      (∀ s, bytes ≠ Utf8.encode s) → Utf8.decode bytes = .error f →
      Unreadable (.file bytes isPrivate) (.badText f)
  | tooManyDigits {s : String} {isPrivate : Bool} {count : Nat} :
      Json.parse (plain s) = .error (.tooManyDigits count) →
      Json.Exceeds Json.depthLimit (plain s).toList (.tooManyDigits count) →
      Unreadable (.file (Utf8.encode s) isPrivate) (.tooManyDigits count)
  | tooDeep {s : String} {isPrivate : Bool} :
      Json.parse (plain s) = .error .tooDeep →
      Json.Exceeds Json.depthLimit (plain s).toList .tooDeep →
      Unreadable (.file (Utf8.encode s) isPrivate) .tooDeep

theorem load_encode (s : String) (isPrivate : Bool) :
    load (.file (Utf8.encode s) isPrivate) = ofText (plain s) := by
  rw [load, FileState.text, Utf8.decode_eq_ok_iff.mpr rfl]
  rfl

theorem load_undecoded {bytes : List UInt8} {f : Utf8.Fault} (h : Utf8.decode bytes = .error f)
    (isPrivate : Bool) : load (.file bytes isPrivate) = .error (.badText f) := by
  rw [load, FileState.text, h]
  rfl

theorem ofText_eq_error_iff {t : String} {f : Fault} : ofText t = .error f ↔
    (∃ count, Json.parse t = .error (.tooManyDigits count) ∧ f = .tooManyDigits count) ∨
      Json.parse t = .error .tooDeep ∧ f = .tooDeep := by
  rw [ofText]
  split
  next h => simp [h]
  next h => simp [h]
  next h => simp [h]
  next count h => simp [h, eq_comm (b := f)]
  next h => simp [h, eq_comm (b := f)]

theorem load_eq_error_iff {file : FileState} {f : Fault} :
    load file = .error f ↔ Unreadable file f := by
  constructor
  · intro h
    cases file with
    | absent => cases h
    | directory => cases h
    | file bytes isPrivate =>
      cases hdecode : Utf8.decode bytes with
      | error g =>
        have hbytes : ∀ s, bytes ≠ Utf8.encode s := fun s hs ↦ by
          rw [Utf8.decode_eq_ok_iff.mpr hs] at hdecode
          cases hdecode
        rw [load_undecoded hdecode] at h
        cases h
        exact .badText hbytes hdecode
      | ok s =>
        obtain rfl := Utf8.decode_eq_ok_iff.mp hdecode
        rw [load_encode, ofText_eq_error_iff] at h
        obtain ⟨count, hparse, rfl⟩ | ⟨hparse, rfl⟩ := h
        · exact .tooManyDigits hparse (Json.exceeds_of_parse hparse)
        · exact .tooDeep hparse (Json.exceeds_of_parse hparse)
  · intro h
    cases h with
    | badText _ hdecode => exact load_undecoded hdecode _
    | tooManyDigits hparse _ =>
      rw [load_encode, ofText_eq_error_iff]
      exact .inl ⟨_, hparse, rfl⟩
    | tooDeep hparse _ =>
      rw [load_encode, ofText_eq_error_iff]
      exact .inr ⟨hparse, rfl⟩

/-! ### Preferences -/

/-- The real number that a value stands for. -/
inductive AsFloat : Json → Float → Prop
  | bool (b : Bool) : AsFloat (.bool b) (if b then 1.0 else 0.0)
  | int {i : Int} {x : Float} : Decimal.nearestInt? i = some x → AsFloat (.int i) x
  | float (x : Float) : AsFloat (.float x) x
  | text {t : String} {x : Float} : Decimal.readFloat? t = some x → AsFloat (.str t) x

/-- An integer that no real number is near. -/
inductive BeyondFloat : Json → Fault → Prop
  | int {i : Int} : Decimal.nearestInt? i = none → BeyondFloat (.int i) .tooLarge

/-- The integer that a value stands for. -/
inductive AsInt : Json → Int → Prop
  | bool (b : Bool) : AsInt (.bool b) (if b then 1 else 0)
  | int (i : Int) : AsInt (.int i) i
  | float {x : Float} {i : Int} : Decimal.truncate? x = some i → AsInt (.float x) i
  | text {t : String} {i : Int} : Decimal.readInteger t = .ok i → AsInt (.str t) i

/-- A real number that has no integer part. -/
inductive BeyondInt : Json → Fault → Prop
  | float {x : Float} : x.isInf = true → BeyondInt (.float x) .infinite

inductive AsName : Json → String → Prop
  | text (t : String) : AsName (.str t) (Decimal.lowerAscii t)

/-- What a preference comes to for the value that is found: what the value stands for if that can
be used, a default that can be used if the value stands for nothing such, and a failure if the
value is beyond what anything can stand for. -/
inductive Settles {α : Type} (stands : Json → α → Prop) (beyond : Json → Fault → Prop)
    (usable : α → Prop) (default : α) : Option Json → Except Fault α → Prop
  | found {v : Json} {a : α} : stands v a → usable a →
      Settles stands beyond usable default (some v) (.ok a)
  | default {raw : Option Json} : (∀ v, raw = some v → (∀ a, stands v a → ¬ usable a) ∧
      ∀ f, ¬ beyond v f) → usable default → Settles stands beyond usable default raw (.ok default)
  | beyond {v : Json} {f : Fault} : beyond v f →
      Settles stands beyond usable default (some v) (.error f)

section

variable {α : Type} {stands : Json → α → Prop} {beyond : Json → Fault → Prop} {usable : α → Prop}
  {default : α} {v : Json}

theorem Settles.of_stands [DecidablePred usable] {a : α} (hdefault : usable default)
    (ha : stands v a) (hunique : ∀ b, stands v b → b = a) (hbeyond : ∀ f, ¬ beyond v f) :
    Settles stands beyond usable default (some v) (.ok (if usable a then a else default)) := by
  split
  next h => exact .found ha h
  next h =>
    refine .default (fun w hw ↦ ?_) hdefault
    cases hw
    exact ⟨fun b hb ↦ hunique b hb ▸ h, hbeyond⟩

theorem Settles.of_nothing (hdefault : usable default) (hstands : ∀ a, ¬ stands v a)
    (hbeyond : ∀ f, ¬ beyond v f) :
    Settles stands beyond usable default (some v) (.ok default) := by
  refine .default (fun w hw ↦ ?_) hdefault
  cases hw
  exact ⟨fun a ha ↦ absurd ha (hstands a), hbeyond⟩

theorem Settles.of_none (hdefault : usable default) :
    Settles stands beyond usable default none (.ok default) :=
  .default (fun _ hv ↦ nomatch hv) hdefault

theorem Settles.usable_of_ok {raw : Option Json} {a : α}
    (h : Settles stands beyond usable default raw (.ok a)) : usable a := by
  cases h with
  | found _ h => exact h
  | default _ h => exact h

end

theorem positiveFloat_settles (raw : Option Json) {default : Float} (hdefault : 0.0 < default) :
    Settles AsFloat BeyondFloat (0.0 < ·) default raw (positiveFloat raw default) := by
  cases raw with
  | none => exact .of_none hdefault
  | some v =>
    cases v with
    | null | arr _ | obj _ => exact .of_nothing hdefault nofun nofun
    | bool b => exact .of_stands hdefault (.bool b) (fun _ h ↦ by cases h; rfl) nofun
    | float x => exact .of_stands hdefault (.float x) (fun _ h ↦ by cases h; rfl) nofun
    | int i =>
      rw [positiveFloat]
      cases h : Decimal.nearestInt? i with
      | none => exact .beyond (.int h)
      | some x =>
        refine .of_stands hdefault (.int h) (fun y hy ↦ ?_) fun f hf ↦ ?_
        · cases hy with
          | int hy => exact Option.some.inj (hy.symm.trans h)
        · cases hf with
          | int hf => exact nomatch h.symm.trans hf
    | str t =>
      rw [positiveFloat]
      cases h : Decimal.readFloat? t with
      | none =>
        refine .of_nothing hdefault (fun x hx ↦ ?_) nofun
        cases hx with
        | text hx => exact nomatch h.symm.trans hx
      | some x =>
        refine .of_stands hdefault (.text h) (fun y hy ↦ ?_) nofun
        cases hy with
        | text hy => exact Option.some.inj (hy.symm.trans h)

theorem positiveInt_settles (raw : Option Json) {default : Int} (hdefault : 0 < default) :
    Settles AsInt BeyondInt (0 < ·) default raw (positiveInt raw default) := by
  cases raw with
  | none => exact .of_none hdefault
  | some v =>
    cases v with
    | null | arr _ | obj _ => exact .of_nothing hdefault nofun nofun
    | bool b => exact .of_stands hdefault (.bool b) (fun _ h ↦ by cases h; rfl) nofun
    | int i => exact .of_stands hdefault (.int i) (fun _ h ↦ by cases h; rfl) nofun
    | float x =>
      rw [positiveInt]
      split
      next hinf => exact .beyond (.float hinf)
      next hinf =>
        have hbeyond (f : Fault) : ¬ BeyondInt (.float x) f := fun hf ↦ by
          cases hf with
          | float hf => exact hinf hf
        cases h : Decimal.truncate? x with
        | none =>
          refine .of_nothing hdefault (fun i hi ↦ ?_) hbeyond
          cases hi with
          | float hi => exact nomatch h.symm.trans hi
        | some i =>
          refine .of_stands hdefault (.float h) (fun j hj ↦ ?_) hbeyond
          cases hj with
          | float hj => exact Option.some.inj (hj.symm.trans h)
    | str t =>
      rw [positiveInt]
      cases h : Decimal.readInteger t with
      | error f =>
        refine .of_nothing hdefault (fun i hi ↦ ?_) nofun
        cases hi with
        | text hi => exact nomatch h.symm.trans hi
      | ok i =>
        refine .of_stands hdefault (.text h) (fun j hj ↦ ?_) nofun
        cases hj with
        | text hj => exact Except.ok.inj (hj.symm.trans h)

theorem positiveFloat_eq_error_iff {raw : Option Json} {default : Float} {f : Fault} :
    positiveFloat raw default = .error f ↔ ∃ v, raw = some v ∧ BeyondFloat v f := by
  constructor
  · intro h
    cases raw with
    | none => cases h
    | some v =>
      cases v with
      | int i =>
        rw [positiveFloat] at h
        cases hi : Decimal.nearestInt? i with
        | none =>
          rw [hi] at h
          cases h
          exact ⟨_, rfl, .int hi⟩
        | some x =>
          rw [hi] at h
          cases h
      | _ => cases h
  · rintro ⟨v, rfl, hf⟩
    cases hf with
    | int hi => rw [positiveFloat, hi]; rfl

theorem positiveInt_eq_error_iff {raw : Option Json} {default : Int} {f : Fault} :
    positiveInt raw default = .error f ↔ ∃ v, raw = some v ∧ BeyondInt v f := by
  constructor
  · intro h
    cases raw with
    | none => cases h
    | some v =>
      cases v with
      | float x =>
        rw [positiveInt] at h
        cases hx : x.isInf with
        | true =>
          rw [hx] at h
          cases h
          exact ⟨_, rfl, .float hx⟩
        | false =>
          rw [hx] at h
          cases h
      | _ => cases h
  · rintro ⟨v, rfl, hf⟩
    cases hf with
    | float hx => rw [positiveInt, hx]; rfl

structure Prefers (s : Settings) (vars : Variables) : Prop where
  waitTimeout : Settles AsFloat BeyondFloat (0.0 < ·) 2.0
    (s.value? vars "wait_timeout" "NSMIRROR_WAIT_TIMEOUT") (s.waitTimeout vars)
  refreshTimeout : Settles AsFloat BeyondFloat (0.0 < ·) 30.0
    (s.value? vars "refresh_timeout" "NSMIRROR_REFRESH_TIMEOUT") (s.refreshTimeout vars)
  maxResults : Settles AsInt BeyondInt (0 < ·) 100
    (s.value? vars "max_results" "NSMIRROR_MAX_RESULTS") (s.maxResults vars)
  helpBrowser : Settles AsName (fun _ _ ↦ False) (· ∈ ["external", "internal"]) "external"
    (s.value? vars "help_browser" "NSMIRROR_HELP_BROWSER") (.ok (s.helpBrowser vars))

theorem helpBrowser_settles (s : Settings) (vars : Variables) :
    Settles AsName (fun _ _ ↦ False) (· ∈ helpBrowsers) "external"
      (s.value? vars "help_browser" "NSMIRROR_HELP_BROWSER") (.ok (s.helpBrowser vars)) := by
  have hdefault : "external" ∈ helpBrowsers := by decide
  rw [helpBrowser]
  simp only [List.contains_iff_mem]
  cases s.value? vars "help_browser" "NSMIRROR_HELP_BROWSER" with
  | none => exact .of_none hdefault
  | some v =>
    cases v with
    | str t => exact .of_stands hdefault (.text t) (fun _ h ↦ by cases h; rfl) (fun _ ↦ id)
    | _ => exact .of_nothing hdefault nofun (fun _ ↦ id)

theorem prefers (s : Settings) (vars : Variables) : s.Prefers vars where
  waitTimeout := positiveFloat_settles _ (by decide)
  refreshTimeout := positiveFloat_settles _ (by decide)
  maxResults := positiveInt_settles _ (by decide)
  helpBrowser := s.helpBrowser_settles vars

end Settings

/-- Settings can be loaded from every file but those that hold no text or exceed a limit of reading,
and whatever was loaded, every preference is the usable one that was found or else its default,
unless the number found is too large. -/
theorem SettingsManager.new_prefers (file : FileState) (vars : Variables) :
    (∀ f, SettingsManager.new file = .error f ↔ Settings.Unreadable file f) ∧
      ∀ s : Settings, s.Prefers vars := by
  refine ⟨fun f ↦ ?_, fun s ↦ s.prefers vars⟩
  rw [← Settings.load_eq_error_iff, SettingsManager.new]
  cases Settings.load file <;> simp [Except.map]

end VariableExplorer
