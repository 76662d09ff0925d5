import NodeProbe.Load
import Mathlib.Data.List.Forall2

set_option autoImplicit false

namespace NodeProbe

open Json

def Work.result (work : Work) : Option Value := work.outcome.toOption

namespace Batch

-- What has become of a unit once it was polled in so many rounds.
def Tracks (rounds : Nat) (work : Work) : Slot → Prop
  | .running left => left.pending + rounds = work.pending ∧ left.outcome = work.outcome
  | .done result => work.pending < rounds ∧ result = work.result

theorem start_tracks (work : Work) : Tracks 0 work (.start work) := ⟨rfl, rfl⟩

theorem poll_tracks (index rounds : Nat) (work : Work) (slot : Slot) (tracks : Tracks rounds work slot) :
    Tracks (rounds + 1) work (slot.poll index).1 := by
  cases slot with
  | done result => exact ⟨Nat.lt_succ_of_lt tracks.1, tracks.2⟩
  | running left =>
    obtain ⟨pending, outcome⟩ := left
    obtain ⟨remaining, own⟩ := tracks
    dsimp only at remaining own
    subst own
    cases pending with
    | zero =>
      have ready : work.pending < rounds + 1 := by omega
      cases finished : work.outcome with
      | ok value => exact ⟨ready, by rw [Work.result, finished]; rfl⟩
      | error failure => exact ⟨ready, by rw [Work.result, finished]; rfl⟩
    | succ pending => exact ⟨by dsimp only; omega, rfl⟩

theorem round_tracks (rounds : Nat) (units : List Work) (slots : List Slot)
    (tracks : List.Forall₂ (Tracks rounds) units slots) (index : Nat) :
    List.Forall₂ (Tracks (rounds + 1)) units (round index slots).1 := by
  induction tracks generalizing index with
  | nil => exact .nil
  | cons first _ ih => exact .cons (poll_tracks index rounds _ _ first) (ih (index + 1))

theorem run_tracks (rounds : Nat) (units : List Work) (slots : List Slot)
    (tracks : List.Forall₂ (Tracks rounds) units slots) :
    ∃ total, List.Forall₂ (Tracks total) units (run slots).1 ∧ left (run slots).1 = 0 := by
  induction slots using run.induct generalizing rounds with
  | case1 slots finished =>
    rw [run, if_pos finished]
    exact ⟨rounds, tracks, finished⟩
  | case2 slots unfinished polled ih =>
    rw [run, if_neg unfinished]
    exact ih (rounds + 1) (round_tracks rounds units slots tracks 0)

theorem finished_results (total : Nat) (units : List Work) (slots : List Slot)
    (tracks : List.Forall₂ (Tracks total) units slots) (finished : left slots = 0) :
    slots.map Slot.result = units.map Work.result := by
  induction tracks with
  | nil => rfl
  | @cons work slot units slots first _ ih =>
    obtain ⟨slotFinished, othersFinished⟩ := Nat.add_eq_zero_iff.mp finished
    rw [List.map_cons, List.map_cons, ih othersFinished]
    cases slot with
    | running left => cases slotFinished
    | done result => exact congrArg (· :: units.map Work.result) first.2

end Batch

theorem batch_results (units : List Work) (elapsed : Duration) :
    (runBatch units elapsed).1.results = units.map Work.result := by
  have started : List.Forall₂ (Batch.Tracks 0) units (units.map Slot.start) :=
    List.forall₂_map_right_iff.mpr (List.forall₂_same.mpr fun work _ => Batch.start_tracks work)
  obtain ⟨total, tracks, finished⟩ := Batch.run_tracks 0 units _ started
  exact Batch.finished_results total units _ tracks finished

theorem result_some (work : Work) (value : Value) : work.result = some value ↔ work.outcome = .ok value := by
  rw [Work.result]
  cases work.outcome with
  | ok own =>
    constructor
    · exact fun same => congrArg Except.ok (Option.some.inj same)
    · exact fun same => congrArg some (Except.ok.inj same)
  | error failure => exact ⟨nofun, nofun⟩

theorem result_none (work : Work) : work.result = none ↔ ∃ failure, work.outcome = .error failure := by
  rw [Work.result]
  cases work.outcome with
  | ok own => exact ⟨nofun, nofun⟩
  | error failure => exact ⟨fun _ => ⟨failure, rfl⟩, fun _ => rfl⟩

theorem result_is_some (work : Work) : work.result.isSome = work.outcome.isOk := by
  rw [Work.result]
  cases work.outcome <;> rfl

theorem batch_slot (units : List Work) (elapsed : Duration) (slot : Nat) :
    (runBatch units elapsed).1.results[slot]? = units[slot]?.map Work.result := by
  rw [batch_results, List.getElem?_map]

theorem batch_size (units : List Work) (elapsed : Duration) : (runBatch units elapsed).1.size = units.length := by
  rw [Report.size, batch_results, List.length_map]

theorem batch_succeeded (units : List Work) (elapsed : Duration) :
    (runBatch units elapsed).1.succeeded = units.countP fun work => work.outcome.isOk := by
  rw [Report.succeeded, batch_results, List.countP_map]
  exact congrArg (List.countP · units) (funext result_is_some)

theorem succeeded_le_size (report : Report) : report.succeeded ≤ report.size := List.countP_le_length

theorem batch_failed (units : List Work) (elapsed : Duration) :
    (runBatch units elapsed).1.failed = units.countP fun work => !work.outcome.isOk := by
  have all : units.length = units.countP (fun work => work.outcome.isOk) +
      units.countP (fun work => decide ¬work.outcome.isOk = true) := List.length_eq_countP_add_countP _
  simp only [Bool.not_eq_true, Bool.decide_eq_false] at all
  rw [Report.failed, batch_size, batch_succeeded]
  omega

theorem batch_first (units : List Work) (elapsed : Duration) (value : Value) :
    (runBatch units elapsed).1.first = some value ↔ ∃ work rest, units = work :: rest ∧ work.outcome = .ok value := by
  rw [Report.first, batch_results]
  cases units with
  | nil => exact ⟨nofun, nofun⟩
  | cons work rest =>
    constructor
    · intro held
      exact ⟨work, rest, rfl, (result_some work value).mp held⟩
    · rintro ⟨first, others, same, succeeded⟩
      cases same
      exact (result_some work value).mpr succeeded

/-- Each slot of a batch ends as its own unit does, whatever the other units do and how long they take. -/
theorem batch_isolated (units : List Work) (elapsed : Duration) :
    let report := (runBatch units elapsed).1
    report.size = units.length ∧
    (∀ (slot : Nat) (value : Value), report.results[slot]? = some (some value) ↔
      ∃ work, units[slot]? = some work ∧ work.outcome = .ok value) ∧
    (∀ slot : Nat, report.results[slot]? = some none ↔
      ∃ work failure, units[slot]? = some work ∧ work.outcome = .error failure) ∧
    (∀ (others : List Work) (duration : Duration) (slot : Nat),
      units[slot]?.map Work.outcome = others[slot]?.map Work.outcome →
      report.results[slot]? = (runBatch others duration).1.results[slot]?) ∧
    report.succeeded = units.countP (fun work => work.outcome.isOk) ∧
    report.failed = units.countP (fun work => !work.outcome.isOk) ∧
    report.succeeded ≤ report.size ∧ report.succeeded + report.failed = report.size ∧
    (∀ value, report.first = some value ↔ ∃ work rest, units = work :: rest ∧ work.outcome = .ok value) := by
  intro report
  refine ⟨batch_size units elapsed, ?_, ?_, ?_, batch_succeeded units elapsed, batch_failed units elapsed,
    succeeded_le_size report, Nat.add_sub_cancel' (succeeded_le_size report), batch_first units elapsed⟩
  · intro slot value
    rw [batch_slot, Option.map_eq_some_iff]
    exact exists_congr fun work => and_congr_right fun _ => result_some work value
  · intro slot
    rw [batch_slot, Option.map_eq_some_iff]
    constructor
    · rintro ⟨work, issued, failed⟩
      obtain ⟨failure, own⟩ := (result_none work).mp failed
      exact ⟨work, failure, issued, own⟩
    · rintro ⟨work, failure, issued, own⟩
      exact ⟨work, issued, (result_none work).mpr ⟨failure, own⟩⟩
  · intro others duration slot sameOutcome
    have sameResult := congrArg (Option.map Except.toOption) sameOutcome
    rw [Option.map_map, Option.map_map] at sameResult
    rw [batch_slot, batch_slot]
    exact sameResult

-- A unit that ends last leaves its slot as it does without delay, whatever the other unit does.
theorem delayed_batch :
    (runBatch [⟨7, .ok .null⟩, ⟨0, .error (.transport "refused")⟩] (.ofSecs 5)).1.results[0]? =
      (runBatch [⟨0, .ok .null⟩, ⟨3, .ok (.boolean true)⟩] (.ofSecs 1)).1.results[0]? :=
  (batch_isolated [⟨7, .ok .null⟩, ⟨0, .error (.transport "refused")⟩] (.ofSecs 5)).2.2.2.1
    [⟨0, .ok .null⟩, ⟨3, .ok (.boolean true)⟩] (.ofSecs 1) 0 rfl

end NodeProbe
