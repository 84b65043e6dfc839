import Mathlib.Logic.Function.Basic
import Mathlib.Logic.Relation
import VariableExplorer.Handover.Queue

/-!
A dispatcher in the hands of any number of threads. Handing work over, closing, cancelling and the
loop's own turns interleave in every way, and the work that the loop runs may hand over and close
as well.
-/

namespace VariableExplorer

namespace Dispatcher

open Function Relation

variable {ω ρ : Type}

/-! ### What the operations do -/

section

variable {d : Dispatcher ω ρ} {n m : Nat} {f : Fate ρ} {work : ω}

@[simp] theorem setFate_queue : (d.setFate n f).queue = d.queue := rfl

@[simp] theorem setFate_closed : (d.setFate n f).closed = d.closed := rfl

@[simp] theorem setFate_jobs_length : (d.setFate n f).jobs.length = d.jobs.length :=
  List.length_modify _ _ _

theorem exists_fate?_iff : (∃ f, d.fate? n = some f) ↔ n < d.jobs.length := by
  rw [← Option.isSome_iff_exists]
  simp [fate?]

theorem fate?_setFate_self (h : n < d.jobs.length) : (d.setFate n f).fate? n = some f := by
  simp [fate?, setFate, h]

theorem fate?_setFate_of_ne (h : m ≠ n) : (d.setFate n f).fate? m = d.fate? m := by
  simp [fate?, setFate, h.symm]

theorem fate?_put_self : (d.put work).1.fate? d.jobs.length = some .waiting := by
  simp [fate?, put]

theorem fate?_put_of_lt (h : n < d.jobs.length) : (d.put work).1.fate? n = d.fate? n := by
  simp [fate?, put, List.getElem?_append_left h]

/-- What the loop takes: the mark, a job that waits, or one that does not. -/
theorem take_cases {e : Entry} {rest : List Entry} (hended : d.ended = false)
    (hqueue : d.queue = e :: rest) :
    (e = .stop ∧ d.take = ({ d with queue := rest, ended := true }, none)) ∨
    (∃ n work, e = .job n ∧ d.fate? n = some .waiting ∧
      d.take = (({ d with queue := rest }).setFate n .running, some (n, work))) ∨
    ∃ n, e = .job n ∧ d.fate? n ≠ some .waiting ∧ d.take = ({ d with queue := rest }, none) := by
  rw [take, hended, hqueue]
  cases e with
  | stop => exact .inl ⟨rfl, rfl⟩
  | job n =>
    refine .inr ?_
    simp only [fate?]
    cases hjob : d.jobs[n]? with
    | none => exact .inr ⟨n, rfl, by simp [hjob], rfl⟩
    | some j =>
      obtain ⟨work, fate⟩ := j
      cases fate with
      | waiting => exact .inl ⟨n, work, rfl, by simp [hjob], rfl⟩
      | _ => exact .inr ⟨n, rfl, by simp [hjob], rfl⟩

theorem cancel_cases (d : Dispatcher ω ρ) (n : Nat) :
    (d.fate? n = some .waiting ∧ (d.cancel n).1 = d.setFate n .cancelled) ∨
      (d.cancel n).1 = d := by
  rw [cancel]
  split
  · exact .inl ⟨‹_›, rfl⟩
  · exact .inr rfl
  · exact .inr rfl

def Ordinary (r : Except Fault ρ) : Prop := ∀ f, r = .error f → f.isOrdinary = true

theorem finish_cases (d : Dispatcher ω ρ) (n : Nat) (r : Except Fault ρ) :
    (Ordinary r ∧ d.finish n r = d.setFate n (.settled r)) ∨
      ∃ f, r = .error f ∧ f.isOrdinary = false ∧ d.finish n r = { d with ended := true } := by
  cases r with
  | ok a => exact .inl ⟨nofun, rfl⟩
  | error f =>
    rw [finish]
    cases hf : f.isOrdinary with
    | true => exact .inl ⟨fun g hg ↦ by cases hg; exact hf, rfl⟩
    | false => exact .inr ⟨f, rfl, hf, rfl⟩

theorem finish_queue (r : Except Fault ρ) : (d.finish n r).queue = d.queue := by
  obtain ⟨-, hfinish⟩ | ⟨f, -, -, hfinish⟩ := d.finish_cases n r
  · rw [hfinish, setFate_queue]
  · rw [hfinish]

theorem finish_closed (r : Except Fault ρ) : (d.finish n r).closed = d.closed := by
  obtain ⟨-, hfinish⟩ | ⟨f, -, -, hfinish⟩ := d.finish_cases n r
  · rw [hfinish, setFate_closed]
  · rw [hfinish]

end

/-- Who works with a dispatcher: what runs on the thread of the loop, and any number of others. -/
inductive Agent
  | loop
  | other (n : Nat)
  deriving DecidableEq

inductive Phase (ω : Type)
  | idle
  /-- Work is taken, and the agent has still to put it into the queue. -/
  | offering (work : ω)
  /-- The dispatcher is still open, and the agent has yet to close it. -/
  | closing
  /-- No more work is taken, and the agent has still to put the mark into the queue. -/
  | marking

def Entry.number? : Entry → Option Nat
  | .job n => some n
  | .stop => none

end Dispatcher

open Dispatcher Function Relation

structure Workshop (ω ρ : Type) where
  dispatcher : Dispatcher ω ρ := {}
  phases : Agent → Phase ω := fun _ ↦ .idle
  taken : List Entry := []
  given : List (Nat × Except Fault ρ) := []
  current : Option Nat := none

namespace Workshop

variable {ω ρ : Type}

/-- The jobs that the loop has begun to run. -/
def begun (s : Workshop ω ρ) : List Nat := s.given.map (·.1) ++ s.current.toList

def entries (s : Workshop ω ρ) : List Entry := s.taken ++ s.dispatcher.queue

def enter (s : Workshop ω ρ) (a : Agent) (p : Phase ω) : Workshop ω ρ :=
  { s with phases := update s.phases a p }

@[simp] theorem enter_phases_self (s : Workshop ω ρ) (a : Agent) (p : Phase ω) :
    (s.enter a p).phases a = p := update_self ..

/-- The loop takes an entry. -/
def take (s : Workshop ω ρ) (e : Entry) : Workshop ω ρ :=
  { s with
    dispatcher := s.dispatcher.take.1
    taken := s.taken ++ [e]
    current := s.dispatcher.take.2.map (·.1) }

def finish (s : Workshop ω ρ) (n : Nat) (r : Except Fault ρ) : Workshop ω ρ :=
  { s with
    dispatcher := s.dispatcher.finish n r
    given := s.given ++ [(n, r)]
    current := none }

/-- The thread of the loop does something of its own only while it runs a job. -/
def Acts (s : Workshop ω ρ) (a : Agent) : Prop := a = .loop → s.current.isSome = true

theorem acts_other (s : Workshop ω ρ) (i : Nat) : s.Acts (.other i) := nofun

inductive Step : Workshop ω ρ → Workshop ω ρ → Prop
  | look {s : Workshop ω ρ} {a : Agent} (work : ω) : s.Acts a → s.phases a = .idle →
      s.dispatcher.takesWork = true → Step s (s.enter a (.offering work))
  | put {s : Workshop ω ρ} {a : Agent} {work : ω} : s.Acts a → s.phases a = .offering work →
      Step s { s.enter a .idle with dispatcher := (s.dispatcher.put work).1 }
  | lookToClose {s : Workshop ω ρ} {a : Agent} : s.Acts a → s.phases a = .idle →
      s.dispatcher.takesWork = true → Step s (s.enter a .closing)
  | refuse {s : Workshop ω ρ} {a : Agent} : s.Acts a → s.phases a = .closing →
      Step s { s.enter a .marking with dispatcher := s.dispatcher.refuseWork }
  | mark {s : Workshop ω ρ} {a : Agent} : s.Acts a → s.phases a = .marking →
      Step s { s.enter a .idle with dispatcher := s.dispatcher.putStop }
  | take {s : Workshop ω ρ} {e : Entry} {rest : List Entry} : s.current = none →
      s.dispatcher.ended = false → s.dispatcher.queue = e :: rest → Step s (s.take e)
  | finish {s : Workshop ω ρ} {n : Nat} (r : Except Fault ρ) : s.current = some n →
      s.phases .loop = .idle → Step s (s.finish n r)
  | cancel {s : Workshop ω ρ} (n : Nat) :
      Step s { s with dispatcher := (s.dispatcher.cancel n).1 }

abbrev Run : Workshop ω ρ → Workshop ω ρ → Prop := ReflTransGen Step

/-- What a job's fate tells of it. -/
def Stands (s : Workshop ω ρ) (n : Nat) : Fate ρ → Prop
  | .waiting => n ∉ s.begun ∧ .job n ∈ s.dispatcher.queue
  | .running => s.current = some n ∨ ∃ f, (n, .error f) ∈ s.given ∧ f.isOrdinary = false
  | .cancelled => n ∉ s.begun
  | .settled r => (n, r) ∈ s.given ∧ Ordinary r

/-- The loop ends at the first mark or with the first job that stops the program. -/
def Ends (s : Workshop ω ρ) : Prop :=
  (∃ before, s.taken = before ++ [.stop] ∧ .stop ∉ before ∧ ∀ p ∈ s.given, Ordinary p.2) ∨
  ∃ before n f, s.given = before ++ [(n, .error f)] ∧ f.isOrdinary = false ∧ .stop ∉ s.taken ∧
    ∀ p ∈ before, Ordinary p.2

/-- How the queue, the loop and the fates of the jobs go together. -/
structure Orderly (s : Workshop ω ρ) : Prop where
  numbers : s.entries.filterMap Entry.number? = List.range s.dispatcher.jobs.length
  begun : s.begun.Sublist (s.taken.filterMap Entry.number?)
  passed : ∀ n, .job n ∈ s.taken → n ∈ s.begun ∨ s.dispatcher.fate? n = some .cancelled
  fates : ∀ n f, s.dispatcher.fate? n = some f → s.Stands n f
  goes : s.dispatcher.ended = false → .stop ∉ s.taken ∧ ∀ p ∈ s.given, Ordinary p.2
  ends : s.dispatcher.ended = true → s.current = none ∧ s.Ends

theorem mem_filterMap_number? {es : List Entry} {n : Nat} :
    n ∈ es.filterMap Entry.number? ↔ .job n ∈ es := by
  rw [List.mem_filterMap]
  constructor
  · rintro ⟨e, he, hn⟩
    cases e with
    | job m => cases hn; exact he
    | stop => cases hn
  · exact fun h ↦ ⟨_, h, rfl⟩

namespace Orderly

variable {s : Workshop ω ρ} {n : Nat} (h : s.Orderly)

include h

theorem pairwise : s.begun.Pairwise (· < ·) := by
  have htaken : (s.taken.filterMap Entry.number?).Sublist (List.range s.dispatcher.jobs.length) := by
    rw [← h.numbers, entries, List.filterMap_append]
    exact List.sublist_append_left _ _
  exact List.pairwise_lt_range.sublist (h.begun.trans htaken)

theorem nodup : s.begun.Nodup := h.pairwise.imp Nat.ne_of_lt

theorem mem_entries_iff : .job n ∈ s.entries ↔ n < s.dispatcher.jobs.length := by
  rw [← mem_filterMap_number?, h.numbers, List.mem_range]

theorem mem_taken_of_begun (hn : n ∈ s.begun) : .job n ∈ s.taken :=
  mem_filterMap_number?.mp (h.begun.subset hn)

theorem lt_of_mem_taken (hn : .job n ∈ s.taken) : n < s.dispatcher.jobs.length :=
  h.mem_entries_iff.mp (List.mem_append_left _ hn)

theorem not_mem_taken (hn : .job n ∈ s.dispatcher.queue) : .job n ∉ s.taken := by
  intro htaken
  have hnodup : (s.entries.filterMap Entry.number?).Nodup := h.numbers ▸ List.nodup_range
  rw [entries, List.filterMap_append] at hnodup
  exact (List.nodup_append.mp hnodup).2.2 n (mem_filterMap_number?.mpr htaken) n
    (mem_filterMap_number?.mpr hn) rfl

theorem not_mem_begun (hn : .job n ∈ s.dispatcher.queue) : n ∉ s.begun :=
  fun hbegun ↦ h.not_mem_taken hn (h.mem_taken_of_begun hbegun)

end Orderly

theorem Orderly.init : ({} : Workshop ω ρ).Orderly where
  numbers := rfl
  begun := List.Sublist.refl _
  passed := by simp
  fates n f hf := by simp [fate?] at hf
  goes _ := by simp
  ends := nofun

section

variable {s : Workshop ω ρ} {n m : Nat} {f : Fate ρ}

theorem Stands.mono {s' : Workshop ω ρ} (h : s.Stands n f)
    (hbegun : n ∈ s'.begun → n ∈ s.begun)
    (hqueue : .job n ∈ s.dispatcher.queue → .job n ∈ s'.dispatcher.queue)
    (hcurrent : s.current = some n → s'.current = some n) (hgiven : s.given <+: s'.given) :
    s'.Stands n f := by
  cases f with
  | waiting => exact ⟨fun hn ↦ h.1 (hbegun hn), hqueue h.2⟩
  | running => exact h.imp hcurrent fun ⟨g, hg, hstops⟩ ↦ ⟨g, hgiven.subset hg, hstops⟩
  | cancelled => exact fun hn ↦ h (hbegun hn)
  | settled r => exact ⟨hgiven.subset h.1, h.2⟩

theorem Orderly.put (h : s.Orderly) (phases : Agent → Phase ω) (work : ω) :
    Orderly { s with phases := phases, dispatcher := (s.dispatcher.put work).1 } where
  numbers := by
    show (s.taken ++ (s.dispatcher.queue ++ [_])).filterMap _ = List.range (List.length (_ ++ [_]))
    rw [← List.append_assoc, List.filterMap_append, List.length_append, List.range_add]
    exact congrArg₂ _ h.numbers rfl
  begun := h.begun
  passed n hn := by
    rw [fate?_put_of_lt (h.lt_of_mem_taken hn)]
    exact h.passed n hn
  fates n f hf := by
    obtain hlt | rfl | hgt := Nat.lt_trichotomy n s.dispatcher.jobs.length
    · rw [fate?_put_of_lt hlt] at hf
      exact (h.fates n f hf).mono id (List.mem_append_left _) id (List.prefix_rfl)
    · rw [fate?_put_self] at hf
      cases hf
      refine ⟨fun hn ↦ ?_, List.mem_append_right _ (List.mem_singleton_self _)⟩
      exact Nat.lt_irrefl _ (h.lt_of_mem_taken (h.mem_taken_of_begun hn))
    · have hlt : n < (s.dispatcher.put work).1.jobs.length := exists_fate?_iff.mp ⟨f, hf⟩
      simp [Dispatcher.put] at hlt
      omega
  goes := h.goes
  ends := h.ends

theorem Orderly.mark (h : s.Orderly) (phases : Agent → Phase ω) :
    Orderly { s with phases := phases, dispatcher := s.dispatcher.putStop } where
  numbers := by
    show (s.taken ++ (s.dispatcher.queue ++ [_])).filterMap _ = _
    rw [← List.append_assoc, List.filterMap_append]
    exact (List.append_nil _).trans h.numbers
  begun := h.begun
  passed := h.passed
  fates n f hf := (h.fates n f hf).mono id (List.mem_append_left _) id (List.prefix_rfl)
  goes := h.goes
  ends := h.ends

theorem Orderly.cancel (h : s.Orderly) (n : Nat) :
    Orderly { s with dispatcher := (s.dispatcher.cancel n).1 } := by
  obtain ⟨hwaits, hcancel⟩ | hcancel := s.dispatcher.cancel_cases n
  · have hlt : n < s.dispatcher.jobs.length := exists_fate?_iff.mp ⟨_, hwaits⟩
    obtain ⟨hbegun, -⟩ := h.fates n _ hwaits
    rw [hcancel]
    refine ⟨h.numbers.trans (by simp), h.begun, fun m hm ↦ ?_, fun m f hf ↦ ?_, h.goes, h.ends⟩
    · by_cases hmn : m = n
      · exact .inr (by rw [hmn]; exact fate?_setFate_self hlt)
      · rw [fate?_setFate_of_ne hmn]
        exact h.passed m hm
    · by_cases hmn : m = n
      · rw [hmn, fate?_setFate_self hlt] at hf
        cases hf
        exact hmn ▸ hbegun
      · rw [fate?_setFate_of_ne hmn] at hf
        exact h.fates m f hf
  · rw [hcancel]
    exact h

theorem begun_of_idle (h : s.current = none) : s.begun = s.given.map (·.1) := by
  rw [begun, h]
  exact List.append_nil _

theorem begun_of_current (h : s.current = some n) : s.begun = s.given.map (·.1) ++ [n] := by
  rw [begun, h]
  rfl

theorem entries_take {e : Entry} {rest : List Entry} (hqueue : s.dispatcher.queue = e :: rest) :
    (s.taken ++ [e]) ++ rest = s.entries := by
  rw [entries, hqueue, List.append_assoc]
  rfl

theorem Orderly.takeStop (h : s.Orderly) {rest : List Entry} (hcurrent : s.current = none)
    (hended : s.dispatcher.ended = false) (hqueue : s.dispatcher.queue = .stop :: rest) :
    Orderly { s with
      dispatcher := { s.dispatcher with queue := rest, ended := true }
      taken := s.taken ++ [.stop] } where
  numbers := (congrArg _ (entries_take hqueue)).trans h.numbers
  begun := by
    rw [List.filterMap_append]
    exact h.begun.trans (List.sublist_append_left _ _)
  passed n hn := by
    obtain hn | hn := List.mem_append.mp hn
    · exact h.passed n hn
    · cases List.mem_singleton.mp hn
  fates n f hf := (h.fates n f hf).mono id (by simp [hqueue]) id (List.prefix_rfl)
  goes := nofun
  ends _ := ⟨hcurrent, .inl ⟨s.taken, rfl, h.goes hended⟩⟩

theorem Orderly.takeWaiting (h : s.Orderly) {rest : List Entry} (hcurrent : s.current = none)
    (hended : s.dispatcher.ended = false) (hqueue : s.dispatcher.queue = .job n :: rest)
    (hwaits : s.dispatcher.fate? n = some .waiting) :
    Orderly { s with
      dispatcher := ({ s.dispatcher with queue := rest }).setFate n .running
      taken := s.taken ++ [.job n]
      current := some n } where
  numbers := by
    show ((s.taken ++ [_]) ++ rest).filterMap _ = List.range (List.length _)
    rw [setFate_jobs_length, entries_take hqueue]
    exact h.numbers
  begun := by
    have hbegun := h.begun
    rw [begun_of_idle hcurrent] at hbegun
    rw [begun_of_current rfl, List.filterMap_append]
    exact hbegun.append (List.Sublist.refl _)
  passed m hm := by
    rw [begun_of_current rfl, ← begun_of_idle hcurrent]
    by_cases hmn : m = n
    · exact .inl (by simp [hmn])
    · rw [fate?_setFate_of_ne hmn]
      have hm : .job m ∈ s.taken := by simpa [hmn] using hm
      exact (h.passed m hm).imp_left (List.mem_append_left _)
  fates m f hf := by
    have hlt : n < s.dispatcher.jobs.length := exists_fate?_iff.mp ⟨_, hwaits⟩
    by_cases hmn : m = n
    · obtain rfl := hmn
      have hself : (({ s.dispatcher with queue := rest }).setFate m .running).fate? m =
          some (.running : Fate ρ) := fate?_setFate_self hlt
      cases hself.symm.trans hf
      exact .inl rfl
    · rw [fate?_setFate_of_ne hmn] at hf
      refine (h.fates m f hf).mono (fun hm ↦ ?_) (by simp [hqueue, hmn]) (by simp [hcurrent])
        (List.prefix_rfl)
      rw [begun_of_current rfl, ← begun_of_idle hcurrent] at hm
      simpa [hmn] using hm
  goes _ := ⟨by simp [(h.goes hended).1], (h.goes hended).2⟩
  ends hends := nomatch hended.symm.trans hends

theorem Orderly.takeCancelled (h : s.Orderly) {rest : List Entry} (hcurrent : s.current = none)
    (hended : s.dispatcher.ended = false) (hqueue : s.dispatcher.queue = .job n :: rest)
    (hfate : s.dispatcher.fate? n ≠ some .waiting) :
    Orderly { s with
      dispatcher := { s.dispatcher with queue := rest }
      taken := s.taken ++ [.job n] } := by
  have hmem : .job n ∈ s.dispatcher.queue := by simp [hqueue]
  have hbegun : n ∉ s.begun := h.not_mem_begun hmem
  -- A job that is still in the queue has not begun, so it waits or has been cancelled.
  have hcancelled : s.dispatcher.fate? n = some .cancelled := by
    obtain ⟨f, hf⟩ := exists_fate?_iff.mpr (h.mem_entries_iff.mp (List.mem_append_right _ hmem))
    have hstands := h.fates n f hf
    rw [begun_of_idle hcurrent] at hbegun
    cases f with
    | waiting => exact absurd hf hfate
    | running =>
      obtain hruns | ⟨g, hg, -⟩ := hstands
      · exact nomatch hcurrent.symm.trans hruns
      · exact absurd (List.mem_map_of_mem hg) hbegun
    | cancelled => exact hf
    | settled r => exact absurd (List.mem_map_of_mem hstands.1) hbegun
  refine ⟨?_, ?_, fun m hm ↦ ?_, fun m f hf ↦ ?_, fun _ ↦ ?_, fun hends ↦ ?_⟩
  · exact (congrArg _ (entries_take hqueue)).trans h.numbers
  · rw [List.filterMap_append]
    exact h.begun.trans (List.sublist_append_left _ _)
  · obtain hm | hm := List.mem_append.mp hm
    · exact h.passed m hm
    · cases List.mem_singleton.mp hm
      exact .inr hcancelled
  · have hstands := h.fates m f hf
    by_cases hmn : m = n
    · have hf : s.dispatcher.fate? m = some f := hf
      rw [hmn, hcancelled] at hf
      cases hf
      exact hstands
    · exact hstands.mono id (by simp [hqueue, hmn]) id (List.prefix_rfl)
  · exact ⟨by simp [(h.goes hended).1], (h.goes hended).2⟩
  · exact nomatch hended.symm.trans hends

theorem Orderly.take (h : s.Orderly) {e : Entry} {rest : List Entry} (hcurrent : s.current = none)
    (hended : s.dispatcher.ended = false) (hqueue : s.dispatcher.queue = e :: rest) :
    (s.take e).Orderly := by
  rw [Workshop.take]
  obtain ⟨rfl, htake⟩ | ⟨n, work, rfl, hwaits, htake⟩ | ⟨n, rfl, hfate, htake⟩ :=
    take_cases hended hqueue
  · rw [htake]
    have htaken := h.takeStop hcurrent hended hqueue
    rwa [hcurrent] at htaken
  · rw [htake]
    exact h.takeWaiting hcurrent hended hqueue hwaits
  · rw [htake]
    have htaken := h.takeCancelled hcurrent hended hqueue hfate
    rwa [hcurrent] at htaken

theorem Orderly.not_ended (h : s.Orderly) (hcurrent : s.current = some n) :
    s.dispatcher.ended = false := by
  cases hended : s.dispatcher.ended with
  | false => rfl
  | true => exact nomatch hcurrent.symm.trans (h.ends hended).1

theorem begun_finish (hcurrent : s.current = some n) (r : Except Fault ρ) :
    (s.finish n r).begun = s.begun := by
  rw [begun_of_idle rfl, begun_of_current hcurrent]
  exact List.map_append

theorem Orderly.fate?_current (h : s.Orderly) (hcurrent : s.current = some n) :
    s.dispatcher.fate? n = some .running := by
  have hbegun := begun_of_current hcurrent
  have hruns : n ∈ s.begun := by simp [hbegun]
  have hfirst : n ∉ s.given.map (·.1) := by
    have hnodup := h.nodup
    rw [hbegun] at hnodup
    exact fun hn ↦ (List.nodup_append.mp hnodup).2.2 n hn n (List.mem_singleton_self n) rfl
  obtain ⟨f, hf⟩ := exists_fate?_iff.mpr (h.lt_of_mem_taken (h.mem_taken_of_begun hruns))
  have hstands := h.fates n f hf
  cases f with
  | waiting => exact absurd hruns hstands.1
  | running => exact hf
  | cancelled => exact absurd hruns hstands
  | settled r => exact absurd (List.mem_map_of_mem hstands.1) hfirst

theorem Stands.finish (h : s.Stands m f) (hcurrent : s.current = some n) (hmn : m ≠ n)
    (r : Except Fault ρ) : (s.finish n r).Stands m f := by
  refine h.mono ?_ ?_ ?_ (List.prefix_append _ _)
  · rw [begun_finish hcurrent]
    exact id
  · intro hm
    show .job m ∈ (s.dispatcher.finish n r).queue
    rwa [finish_queue]
  · intro hm
    exact absurd (Option.some.inj (hm.symm.trans hcurrent)) hmn

/-- A job that gives a value or fails ordinarily is settled with that, and the loop goes on. -/
theorem Orderly.finishOrdinary (h : s.Orderly) (hcurrent : s.current = some n)
    {r : Except Fault ρ} (hr : Ordinary r)
    (hfinish : s.dispatcher.finish n r = s.dispatcher.setFate n (.settled r)) :
    (s.finish n r).Orderly := by
  have hbegun : (s.finish n r).begun = s.begun := begun_finish hcurrent r
  have hdispatcher : (s.finish n r).dispatcher = s.dispatcher.setFate n (.settled r) := hfinish
  have hlt : n < s.dispatcher.jobs.length := exists_fate?_iff.mp ⟨_, h.fate?_current hcurrent⟩
  refine ⟨?_, ?_, ?_, ?_, ?_, ?_⟩
  · rw [entries, hdispatcher, setFate_jobs_length]
    exact h.numbers
  · rw [hbegun]
    exact h.begun
  · intro m hm
    rw [hbegun, hdispatcher]
    by_cases hmn : m = n
    · exact .inl (by simp [hmn, begun_of_current hcurrent])
    · rw [fate?_setFate_of_ne hmn]
      exact h.passed m hm
  · intro m f hf
    rw [hdispatcher] at hf
    by_cases hmn : m = n
    · rw [hmn, fate?_setFate_self hlt] at hf
      cases hf
      exact ⟨List.mem_append_right _ (by simp [hmn]), hr⟩
    · rw [fate?_setFate_of_ne hmn] at hf
      exact (h.fates m f hf).finish hcurrent hmn r
  · intro _
    obtain ⟨hmark, hgiven⟩ := h.goes (h.not_ended hcurrent)
    exact ⟨hmark, List.forall_mem_append.mpr ⟨hgiven, by simpa using hr⟩⟩
  · intro hends
    rw [hdispatcher] at hends
    exact nomatch (h.not_ended hcurrent).symm.trans hends

/-- A job that stops the program ends the loop, and nothing is told of what it gave. -/
theorem Orderly.finishStopping (h : s.Orderly) (hcurrent : s.current = some n) {f : Fault}
    (hf : f.isOrdinary = false)
    (hfinish : s.dispatcher.finish n (.error f) = { s.dispatcher with ended := true }) :
    (s.finish n (.error f)).Orderly := by
  have hbegun : (s.finish n (.error f)).begun = s.begun := begun_finish hcurrent _
  have hdispatcher : (s.finish n (.error f)).dispatcher = { s.dispatcher with ended := true } :=
    hfinish
  refine ⟨?_, ?_, ?_, ?_, ?_, ?_⟩
  · rw [entries, hdispatcher]
    exact h.numbers
  · rw [hbegun]
    exact h.begun
  · rw [hbegun, hdispatcher]
    exact h.passed
  · intro m g hg
    rw [hdispatcher] at hg
    have hg : s.dispatcher.fate? m = some g := hg
    by_cases hmn : m = n
    · rw [hmn] at hg
      cases (h.fate?_current hcurrent).symm.trans hg
      exact .inr ⟨f, List.mem_append_right _ (by simp [hmn]), hf⟩
    · exact (h.fates m g hg).finish hcurrent hmn _
  · intro hends
    rw [hdispatcher] at hends
    cases hends
  · intro _
    obtain ⟨hmark, hgiven⟩ := h.goes (h.not_ended hcurrent)
    exact ⟨rfl, .inr ⟨s.given, n, f, rfl, hf, hmark, hgiven⟩⟩

theorem Orderly.finish (h : s.Orderly) (hcurrent : s.current = some n) (r : Except Fault ρ) :
    (s.finish n r).Orderly := by
  obtain ⟨hr, hfinish⟩ | ⟨f, rfl, hf, hfinish⟩ := s.dispatcher.finish_cases n r
  · exact h.finishOrdinary hcurrent hr hfinish
  · exact h.finishStopping hcurrent hf hfinish

end

/-! ### Whole runs -/

theorem Step.orderly {s s' : Workshop ω ρ} (hstep : Step s s') (h : s.Orderly) : s'.Orderly := by
  cases hstep with
  | look | lookToClose | refuse =>
    exact ⟨h.numbers, h.begun, h.passed, h.fates, h.goes, h.ends⟩
  | put => exact h.put _ _
  | mark => exact h.mark _
  | take hcurrent hended hqueue => exact h.take hcurrent hended hqueue
  | finish r hcurrent _ => exact h.finish hcurrent r
  | cancel n => exact h.cancel n

def Reachable (s : Workshop ω ρ) : Prop := Run {} s

theorem Reachable.orderly {s : Workshop ω ρ} (h : s.Reachable) : s.Orderly := by
  induction h with
  | refl => exact .init
  | tail _ hstep ih => exact hstep.orderly ih

section

variable {s s' : Workshop ω ρ} {n : Nat}

theorem Step.after_end (hstep : Step s s') (hidle : s.current = none)
    (hended : s.dispatcher.ended = true) : s'.dispatcher.ended = true ∧ s'.taken = s.taken ∧
      s'.given = s.given ∧ s'.current = none := by
  cases hstep with
  | look | lookToClose | refuse | put | mark => exact ⟨hended, rfl, rfl, hidle⟩
  | take _ hgoes _ => exact nomatch hended.symm.trans hgoes
  | finish r hcurrent _ => exact nomatch hidle.symm.trans hcurrent
  | cancel n =>
    refine ⟨?_, rfl, rfl, hidle⟩
    obtain ⟨-, hcancel⟩ | hcancel := s.dispatcher.cancel_cases n <;> rw [hcancel] <;> exact hended

theorem Run.after_end (hrun : Run s s') (hidle : s.current = none)
    (hended : s.dispatcher.ended = true) : s'.dispatcher.ended = true ∧ s'.taken = s.taken ∧
      s'.given = s.given ∧ s'.current = none := by
  induction hrun with
  | refl => exact ⟨hended, rfl, rfl, hidle⟩
  | tail _ hstep ih =>
    obtain ⟨hended, htaken, hgiven, hidle⟩ := ih
    obtain ⟨hended, htaken', hgiven', hidle⟩ := hstep.after_end hidle hended
    exact ⟨hended, htaken'.trans htaken, hgiven'.trans hgiven, hidle⟩

/-- No work is taken, and nobody is about to put work into the queue. -/
structure Quiet (s : Workshop ω ρ) : Prop where
  closed : s.dispatcher.closed = true
  offers : ∀ a work, s.phases a ≠ .offering work

theorem Quiet.enter (h : s.Quiet) {d : Dispatcher ω ρ} (hclosed : d.closed = true) (a : Agent)
    {p : Phase ω} (hp : ∀ work, p ≠ .offering work) :
    Quiet { s.enter a p with dispatcher := d } where
  closed := hclosed
  offers b work := by
    show update s.phases a p b ≠ _
    by_cases hb : b = a
    · rw [hb, update_self]
      exact hp work
    · rw [update_of_ne hb]
      exact h.offers b work

theorem Step.quiet (hstep : Step s s') (h : s.Quiet) :
    s'.Quiet ∧ ∃ k, s'.entries = s.entries ++ List.replicate k .stop := by
  have hsame : s.entries = s.entries ++ List.replicate 0 .stop := (List.append_nil _).symm
  have hclosed : s.dispatcher.takesWork = false := by simp [takesWork, h.closed]
  cases hstep with
  | look work _ _ hopen => exact nomatch hclosed.symm.trans hopen
  | put _ hoffers => exact absurd hoffers (h.offers _ _)
  | lookToClose _ _ hopen => exact nomatch hclosed.symm.trans hopen
  | refuse => exact ⟨h.enter rfl _ nofun, 0, hsame⟩
  | @mark a =>
    exact ⟨h.enter (d := s.dispatcher.putStop) h.closed a nofun, 1,
      (List.append_assoc _ _ _).symm⟩
  | @take e rest _ hended hqueue =>
    have htake : s.dispatcher.take.1.closed = s.dispatcher.closed ∧
        s.dispatcher.take.1.queue = rest := by
      obtain ⟨-, htake⟩ | ⟨n, work, -, -, htake⟩ | ⟨n, -, -, htake⟩ := take_cases hended hqueue <;>
        rw [htake] <;> exact ⟨rfl, rfl⟩
    refine ⟨⟨htake.1.trans h.closed, h.offers⟩, 0, ?_⟩
    show (s.taken ++ [e]) ++ s.dispatcher.take.1.queue = _
    rw [htake.2, entries_take hqueue]
    exact hsame
  | @finish n r =>
    refine ⟨⟨(finish_closed r).trans h.closed, h.offers⟩, 0, ?_⟩
    exact (congrArg (s.taken ++ ·) (finish_queue r)).trans hsame
  | cancel n =>
    obtain ⟨-, hcancel⟩ | hcancel := s.dispatcher.cancel_cases n <;> rw [hcancel] <;>
      exact ⟨⟨h.closed, h.offers⟩, 0, hsame⟩

theorem Run.quiet (hrun : Run s s') (h : s.Quiet) :
    s'.Quiet ∧ ∃ k, s'.entries = s.entries ++ List.replicate k .stop := by
  induction hrun with
  | refl => exact ⟨h, 0, (List.append_nil _).symm⟩
  | tail _ hstep ih =>
    obtain ⟨hquiet, k, hentries⟩ := ih
    obtain ⟨hquiet, l, hentries'⟩ := hstep.quiet hquiet
    refine ⟨hquiet, k + l, ?_⟩
    rw [hentries', hentries, List.append_assoc, List.replicate_append_replicate]

theorem not_mem_of_marks {before queue es : List Entry} {k : Nat} (hes : .stop ∉ es)
    (h : before ++ .stop :: queue = es ++ List.replicate k .stop) : .job n ∉ queue := by
  intro hn
  have hmark : (.job n : Entry) ∉ List.replicate k .stop :=
    fun hn ↦ nomatch List.eq_of_mem_replicate hn
  obtain ⟨c, hc, hmarks⟩ | ⟨c, hc, hmarks⟩ := List.append_eq_append_iff.mp h
  · cases c with
    | nil =>
      rw [List.nil_append] at hmarks
      exact hmark (hmarks ▸ List.mem_cons_of_mem _ hn)
    | cons e c =>
      obtain ⟨rfl, -⟩ := List.cons.inj hmarks
      exact hes (by simp [hc])
  · exact hmark (hmarks ▸ List.mem_append_right _ (List.mem_cons_of_mem _ hn))

/-- Where closing finds nobody about to put work into the queue, all the work that was taken has run
by the end of the loop, unless it was cancelled or one of the jobs has stopped the program. -/
theorem Quiet.all_begun (hquiet : s.Quiet) (hmark : .stop ∉ s.entries) (hrun : Run s s')
    (h : s'.Orderly) (hended : s'.dispatcher.ended = true) (hgiven : ∀ p ∈ s'.given, Ordinary p.2)
    (hn : n < s'.dispatcher.jobs.length) :
    n ∈ s'.begun ∨ s'.dispatcher.fate? n = some .cancelled := by
  obtain ⟨-, k, hentries⟩ := hrun.quiet hquiet
  obtain ⟨-, ⟨before, htaken, -, -⟩ | ⟨before, m, f, hlast, hf, -, -⟩⟩ := h.ends hended
  · refine h.passed n ?_
    obtain hn | hn := List.mem_append.mp (h.mem_entries_iff.mpr hn)
    · exact hn
    · rw [entries, htaken, List.append_assoc] at hentries
      exact absurd hn (not_mem_of_marks hmark hentries)
  · have hordinary := hgiven (m, .error f) (by simp [hlast])
    exact nomatch hf.symm.trans (hordinary f rfl)

end

/-- Work that is handed over is begun in the order in which it was put into the queue, no job more
than once, and what it gives is its fate. The loop goes on until it takes a mark or a job stops the
program; by then every job has run, was cancelled or stands behind that, where it stays for ever.
Behind the mark there is no job if nobody was about to put one when work was refused. -/
theorem handed_over {s : Workshop ω ρ} (h : s.Reachable) :
    s.Orderly ∧ s.begun.Pairwise (· < ·) ∧
    (∀ n < s.dispatcher.jobs.length, ∃ f, s.dispatcher.fate? n = some f ∧ s.Stands n f) ∧
    (s.dispatcher.ended = false → s.current = none →
      ∀ e rest, s.dispatcher.queue = e :: rest → Step s (s.take e)) ∧
    (s.dispatcher.ended = true →
      (∀ n < s.dispatcher.jobs.length, n ∈ s.given.map (·.1) ∨
        s.dispatcher.fate? n = some .cancelled ∨ .job n ∈ s.dispatcher.queue) ∧
      ∀ s', Run s s' → s'.taken = s.taken ∧ s'.begun = s.begun) ∧
    (s.Quiet → .stop ∉ s.entries → ∀ s', Run s s' → s'.dispatcher.ended = true →
      (∀ p ∈ s'.given, Ordinary p.2) → ∀ n < s'.dispatcher.jobs.length,
        n ∈ s'.begun ∨ s'.dispatcher.fate? n = some .cancelled) := by
  have horderly := h.orderly
  refine ⟨horderly, horderly.pairwise, fun n hn ↦ ?_, fun hended hidle e rest hqueue ↦ ?_,
    fun hended ↦ ⟨fun n hn ↦ ?_, fun s' hrun ↦ ?_⟩, fun hquiet hmark s' hrun hended hgiven n hn ↦ ?_⟩
  · obtain ⟨f, hf⟩ := exists_fate?_iff.mpr hn
    exact ⟨f, hf, horderly.fates n f hf⟩
  · exact .take hidle hended hqueue
  · obtain ⟨hidle, -⟩ := horderly.ends hended
    obtain hn | hn := List.mem_append.mp (horderly.mem_entries_iff.mpr hn)
    · rw [← begun_of_idle hidle]
      exact (horderly.passed n hn).imp_right .inl
    · exact .inr (.inr hn)
  · obtain ⟨hidle, -⟩ := horderly.ends hended
    obtain ⟨-, htaken, hgiven, hidle'⟩ := hrun.after_end hidle hended
    exact ⟨htaken, by rw [begun_of_idle hidle', begun_of_idle hidle, hgiven]⟩
  · exact hquiet.all_begun hmark hrun (Reachable.orderly (h.trans hrun)) hended hgiven hn

/-- A thread looks while the dispatcher is open and puts its work behind the mark. Its job is never
run, and nobody tells it so. -/
theorem handed_over_behind : ∃ s : Workshop Unit Unit, s.Reachable ∧ s.dispatcher.ended = true ∧
    s.dispatcher.fate? 0 = some .waiting ∧ ∀ s', Run s s' → 0 ∉ s'.begun := by
  have hlook : Reachable _ :=
    .single (.look (s := ({} : Workshop Unit Unit)) () (acts_other _ 0) rfl rfl)
  have hclosing : Reachable _ := hlook.tail (.lookToClose (acts_other _ 1) rfl rfl)
  have hrefused : Reachable _ := hclosing.tail (.refuse (acts_other _ 1) rfl)
  have hmarked : Reachable _ := hrefused.tail (.mark (acts_other _ 1) rfl)
  have htaken : Reachable _ := hmarked.tail (.take rfl rfl rfl)
  have hput : Reachable _ := htaken.tail (.put (acts_other _ 0) rfl)
  refine ⟨_, hput, rfl, rfl, fun s' hrun ↦ ?_⟩
  obtain ⟨-, -, -, -, hend, -⟩ := handed_over hput
  rw [((hend rfl).2 s' hrun).2]
  exact nofun

end Workshop

end VariableExplorer
