import NodeProbe.Proofs.Batch.Slots
import Mathlib.Data.List.Nodup

set_option autoImplicit false

namespace NodeProbe

open Json

-- A failure on its way into the log: the polls before it came out, the slot it came out of, and why.
structure Warning where
  round : Nat
  slot : Nat
  failure : Failure

def Warning.event (warning : Warning) : Event := .requestFailed warning.slot warning.failure

def Warning.Before (first second : Warning) : Prop :=
  first.round < second.round ∨ first.round = second.round ∧ first.slot < second.slot

def Work.warning? (slot : Nat) (work : Work) : Option Warning :=
  match work.outcome with
  | .ok _ => none
  | .error failure => some ⟨work.pending, slot, failure⟩

theorem warning_some (slot : Nat) (work : Work) (warning : Warning) :
    work.warning? slot = some warning ↔
      slot = warning.slot ∧ work.pending = warning.round ∧ work.outcome = .error warning.failure := by
  obtain ⟨round, own, failure⟩ := warning
  rw [Work.warning?]
  cases work.outcome with
  | ok value => simp
  | error reason =>
    simp only [Option.some.injEq, Warning.mk.injEq, Except.error.injEq]
    exact and_left_comm

theorem warning_is_some (slot : Nat) (work : Work) : (work.warning? slot).isSome = !work.outcome.isOk := by
  rw [Work.warning?]
  cases work.outcome <;> rfl

namespace Batch

def warnings (index : Nat) (units : List Work) : List Warning :=
  (units.zipIdx index).filterMap fun entry => entry.1.warning? entry.2

theorem warnings_cons (index : Nat) (work : Work) (rest : List Work) :
    warnings index (work :: rest) = (work.warning? index).toList ++ warnings (index + 1) rest := by
  rw [warnings, List.zipIdx_cons, List.filterMap_cons, warnings]
  cases work.warning? index <;> rfl

theorem mem_warnings (units : List Work) (warning : Warning) :
    warning ∈ warnings 0 units ↔ ∃ work, units[warning.slot]? = some work ∧
      work.pending = warning.round ∧ work.outcome = .error warning.failure := by
  simp only [warnings, List.mem_filterMap, Prod.exists, warning_some, List.mk_mem_zipIdx_iff_getElem?]
  constructor
  · rintro ⟨work, slot, issued, rfl, own⟩
    exact ⟨work, issued, own⟩
  · rintro ⟨work, issued, own⟩
    exact ⟨work, warning.slot, issued, rfl, own⟩

theorem warnings_by_slot (index : Nat) (units : List Work) :
    (warnings index units).Pairwise fun first second => first.slot < second.slot := by
  have slots : (units.zipIdx index).Pairwise fun first second => first.2 < second.2 := by
    rw [← List.pairwise_map, List.zipIdx_map_snd]
    exact List.pairwise_lt_range'
  apply List.Pairwise.filterMap _ _ slots
  intro first second less warning here other there
  rw [← ((warning_some _ _ _).mp here).1, ← ((warning_some _ _ _).mp there).1]
  exact less

theorem warnings_length (units : List Work) (index : Nat) :
    (warnings index units).length = units.countP fun work => !work.outcome.isOk := by
  induction units generalizing index with
  | nil => rfl
  | cons work rest ih =>
    rw [warnings_cons, List.length_append, ih, List.countP_cons, ← warning_is_some index work, Nat.add_comm]
    cases work.warning? index <;> rfl

theorem poll_log (index rounds : Nat) (work : Work) (slot : Slot) (tracks : Tracks rounds work slot) :
    (slot.poll index).2 = ((work.warning? index).toList.filter (·.round = rounds)).map Warning.event := by
  cases slot with
  | done result =>
    have past : work.pending ≠ rounds := Nat.ne_of_lt tracks.1
    rw [Work.warning?]
    cases work.outcome with
    | ok value => rfl
    | error failure => simp [Slot.poll, past]
  | running left =>
    obtain ⟨pending, outcome⟩ := left
    obtain ⟨remaining, own⟩ := tracks
    dsimp only at remaining own
    subst own
    rw [Work.warning?]
    cases pending with
    | zero =>
      have due : work.pending = rounds := by omega
      cases work.outcome with
      | ok value => rfl
      | error failure => simp [Slot.poll, due, Warning.event]
    | succ pending =>
      have early : work.pending ≠ rounds := by omega
      cases work.outcome with
      | ok value => rfl
      | error failure => simp [Slot.poll, early]

theorem round_log (rounds : Nat) (units : List Work) (slots : List Slot)
    (tracks : List.Forall₂ (Tracks rounds) units slots) (index : Nat) :
    (round index slots).2 = ((warnings index units).filter (·.round = rounds)).map Warning.event := by
  induction tracks generalizing index with
  | nil => rfl
  | cons first _ ih =>
    rw [round, warnings_cons, List.filter_append, List.map_append, ← poll_log index rounds _ _ first, ← ih (index + 1)]

theorem finished_early (rounds : Nat) (units : List Work) (slots : List Slot)
    (tracks : List.Forall₂ (Tracks rounds) units slots) (finished : left slots = 0) :
    ∀ work ∈ units, work.pending < rounds := by
  induction tracks with
  | nil => exact List.forall_mem_nil _
  | @cons work slot units slots first _ ih =>
    obtain ⟨slotFinished, othersFinished⟩ := Nat.add_eq_zero_iff.mp finished
    refine List.forall_mem_cons.mpr ⟨?_, ih othersFinished⟩
    cases slot with
    | running left => cases slotFinished
    | done result => exact first.1

def logged (start total : Nat) (units : List Work) : List Warning :=
  (List.range' start total).flatMap fun number => (warnings 0 units).filter (·.round = number)

theorem run_log (rounds : Nat) (units : List Work) (slots : List Slot)
    (tracks : List.Forall₂ (Tracks rounds) units slots) :
    ∃ total, (run slots).2 = (logged rounds total units).map Warning.event ∧
      ∀ work ∈ units, work.pending < rounds + total := by
  induction slots using run.induct generalizing rounds with
  | case1 slots finished =>
    rw [run, if_pos finished]
    exact ⟨0, rfl, finished_early rounds units slots tracks finished⟩
  | case2 slots unfinished polled ih =>
    obtain ⟨total, others, bounded⟩ := ih (rounds + 1) (round_tracks rounds units slots tracks 0)
    refine ⟨total + 1, ?_, fun work issued => by have := bounded work issued; omega⟩
    rw [run, if_neg unfinished]
    dsimp only
    rw [others, round_log rounds units slots tracks 0, logged, logged, List.range'_succ, List.flatMap_cons,
      List.map_append]

theorem logged_ordered (start total : Nat) (units : List Work) : (logged start total units).Pairwise Warning.Before := by
  apply List.pairwise_flatMap.mpr
  constructor
  · intro number _
    apply List.Pairwise.imp_of_mem _ ((warnings_by_slot 0 units).filter _)
    intro first second here there less
    have same := of_decide_eq_true (List.mem_filter.mp here).2
    have other := of_decide_eq_true (List.mem_filter.mp there).2
    exact .inr ⟨same.trans other.symm, less⟩
  · apply List.Pairwise.imp _ List.pairwise_lt_range'
    intro number later less first here second there
    have same := of_decide_eq_true (List.mem_filter.mp here).2
    have other := of_decide_eq_true (List.mem_filter.mp there).2
    exact .inl (by omega)

theorem mem_logged (total : Nat) (units : List Work) (bounded : ∀ work ∈ units, work.pending < total)
    (warning : Warning) : warning ∈ logged 0 total units ↔ warning ∈ warnings 0 units := by
  simp only [logged, List.mem_flatMap, List.mem_filter, decide_eq_true_eq, List.mem_range'_1]
  constructor
  · rintro ⟨_, _, present, _⟩
    exact present
  · intro present
    obtain ⟨work, issued, due, _⟩ := (mem_warnings units warning).mp present
    have inside := bounded work (List.mem_of_getElem? issued)
    exact ⟨warning.round, by omega, present, rfl⟩

theorem before_differs (first second : Warning) (before : first.Before second) : first ≠ second := by
  rintro rfl
  rcases before with less | ⟨_, less⟩ <;> exact Nat.lt_irrefl _ less

theorem logged_perm (total : Nat) (units : List Work) (bounded : ∀ work ∈ units, work.pending < total) :
    (logged 0 total units).Perm (warnings 0 units) := by
  have once : (logged 0 total units).Nodup := (logged_ordered 0 total units).imp (before_differs _ _)
  have bySlot : (warnings 0 units).Nodup := by
    apply (warnings_by_slot 0 units).imp
    intro first second less same
    exact Nat.ne_of_lt less (congrArg Warning.slot same)
  exact (List.perm_ext_iff_of_nodup once bySlot).mpr (mem_logged total units bounded)

theorem warning_slots_once (units : List Work) : ((warnings 0 units).map Warning.slot).Nodup := by
  rw [List.Nodup, List.pairwise_map]
  exact (warnings_by_slot 0 units).imp Nat.ne_of_lt

end Batch

theorem run_batch_log (units : List Work) (elapsed : Duration) :
    ∃ total, (∀ work ∈ units, work.pending < total) ∧
      (runBatch units elapsed).2 = (Batch.logged 0 total units).map Warning.event ++
        [.batchComplete units.length (units.countP fun work => work.outcome.isOk)
          (units.countP fun work => !work.outcome.isOk)] := by
  have started : List.Forall₂ (Batch.Tracks 0) units (units.map Slot.start) :=
    List.forall₂_map_right_iff.mpr (List.forall₂_same.mpr fun work _ => Batch.start_tracks work)
  obtain ⟨total, events, bounded⟩ := Batch.run_log 0 units _ started
  rw [Nat.zero_add] at bounded
  refine ⟨total, bounded, ?_⟩
  rw [← batch_size units elapsed, ← batch_succeeded units elapsed, ← batch_failed units elapsed, ← events]
  rfl

def Event.Carries (event : Event) (name : String) (number : Nat) : Prop :=
  ∃ own : Integer, own.value = number ∧ event.fields.lookup name = some (.number (.integer own))

theorem count_carried (number : Nat) (small : number < 0x10000000000000000) :
    ∃ own : Integer, own.value = number ∧ Event.countValue number = .number (.integer own) :=
  ⟨_, rfl, dif_pos small⟩

theorem warning_carries_slot (warning : Warning) (small : warning.slot < 0x10000000000000000) :
    warning.event.Carries "slot" warning.slot := by
  obtain ⟨own, same, held⟩ := count_carried warning.slot small
  refine ⟨own, same, ?_⟩
  rw [← held, Warning.event]
  cases warning.failure <;> rfl

theorem warning_told (warning : Warning) :
    (∀ code body, warning.failure = .status code body →
      warning.event.message = "Request failed: " ++ body ∧ warning.event.Carries "status" code.toNat) ∧
    ((∀ code body, warning.failure ≠ .status code body) →
      warning.event.message = "Request failed: " ++ warning.failure.message ∧
        warning.event.fields.lookup "status" = none) := by
  obtain ⟨round, slot, failure⟩ := warning
  constructor
  · rintro code body rfl
    have narrow := code.toNat_lt
    obtain ⟨own, same, held⟩ := count_carried code.toNat (by omega)
    exact ⟨rfl, own, same, congrArg some held⟩
  · intro other
    cases failure with
    | status code body => exact absurd rfl (other code body)
    | _ => exact ⟨rfl, rfl⟩

/-- Each failed unit is warned of once, in the order in which the failures come out, before one summary. -/
theorem batch_log (units : List Work) (elapsed : Duration) :
    let succeeded := units.countP fun work => work.outcome.isOk
    let failed := units.countP fun work => !work.outcome.isOk
    let complete := Event.batchComplete units.length succeeded failed
    succeeded + failed = units.length ∧ complete.level = .info ∧ complete.message = "Batch complete" ∧
    (units.length < 0x10000000000000000 → complete.Carries "requests" units.length ∧
      complete.Carries "succeeded" succeeded ∧ complete.Carries "failed" failed) ∧
    ∃ warnings : List Warning,
      (runBatch units elapsed).2 = warnings.map Warning.event ++ [complete] ∧
      warnings.length = failed ∧ (warnings.map Warning.slot).Nodup ∧ warnings.Pairwise Warning.Before ∧
      (∀ warning, warning ∈ warnings ↔ ∃ work, units[warning.slot]? = some work ∧
        work.pending = warning.round ∧ work.outcome = .error warning.failure) ∧
      ∀ warning ∈ warnings, warning.event.level = .warn ∧
        (units.length < 0x10000000000000000 → warning.event.Carries "slot" warning.slot) ∧
        (∀ code body, warning.failure = .status code body →
          warning.event.message = "Request failed: " ++ body ∧ warning.event.Carries "status" code.toNat) ∧
        ((∀ code body, warning.failure ≠ .status code body) →
          warning.event.message = "Request failed: " ++ warning.failure.message ∧
            warning.event.fields.lookup "status" = none) := by
  intro succeeded failed complete
  obtain ⟨total, bounded, events⟩ := run_batch_log units elapsed
  have kept := Batch.logged_perm total units bounded
  have counted : succeeded + failed = units.length := by
    have every := Nat.add_sub_cancel' (succeeded_le_size (runBatch units elapsed).1)
    rwa [← Report.failed, batch_succeeded, batch_failed, batch_size] at every
  have members : ∀ warning, warning ∈ Batch.logged 0 total units ↔ ∃ work, units[warning.slot]? = some work ∧
      work.pending = warning.round ∧ work.outcome = .error warning.failure := by
    intro warning
    rw [kept.mem_iff, Batch.mem_warnings]
  refine ⟨counted, rfl, rfl, ?_, Batch.logged 0 total units, events, ?_, ?_, ?_, members, ?_⟩
  · intro small
    obtain ⟨requests, ofRequests, held⟩ := count_carried units.length small
    obtain ⟨successes, ofSucceeded, heldSucceeded⟩ := count_carried succeeded (by omega)
    obtain ⟨failures, ofFailed, heldFailed⟩ := count_carried failed (by omega)
    exact ⟨⟨requests, ofRequests, congrArg some held⟩, ⟨successes, ofSucceeded, congrArg some heldSucceeded⟩,
      ⟨failures, ofFailed, congrArg some heldFailed⟩⟩
  · rw [kept.length_eq, Batch.warnings_length]
  · exact (kept.map Warning.slot).nodup_iff.mpr (Batch.warning_slots_once units)
  · exact Batch.logged_ordered 0 total units
  · intro warning present
    obtain ⟨work, issued, _⟩ := (members warning).mp present
    have inside := (List.getElem?_eq_some_iff.mp issued).1
    exact ⟨rfl, fun small => warning_carries_slot warning (Nat.lt_trans inside small), warning_told warning⟩

-- The failure of the first slot comes out two rounds after that of the last one, with the status it came with.
theorem late_status_logged :
    let units : List Work := [⟨2, .error (.status 500 "down")⟩, ⟨1, .ok .null⟩, ⟨0, .error (.timeout 5)⟩]
    let status : Warning := ⟨2, 0, .status 500 "down"⟩
    let timeout : Warning := ⟨0, 2, .timeout 5⟩
    status.event ∈ (runBatch units .zero).2 ∧ status.event.message = "Request failed: down" ∧
      status.event.Carries "slot" 0 ∧ status.event.Carries "status" 500 ∧
      timeout.event ∈ (runBatch units .zero).2 ∧
      timeout.event.message = "Request failed: Request timed out after 5s" ∧ timeout.event.Carries "slot" 2 := by
  intro units status timeout
  obtain ⟨_, _, _, _, warnings, events, _, _, _, members, told⟩ := batch_log units .zero
  have statusPresent : status ∈ warnings := (members status).mpr ⟨_, rfl, rfl, rfl⟩
  have timeoutPresent : timeout ∈ warnings := (members timeout).mpr ⟨_, rfl, rfl, rfl⟩
  obtain ⟨_, statusSlot, stated, _⟩ := told status statusPresent
  obtain ⟨_, timeoutSlot, _, displayed⟩ := told timeout timeoutPresent
  obtain ⟨message, carried⟩ := stated 500 "down" rfl
  have logged : ∀ warning ∈ warnings, warning.event ∈ (runBatch units .zero).2 := by
    intro warning present
    rw [events]
    exact List.mem_append_left _ (List.mem_map_of_mem present)
  exact ⟨logged status statusPresent, message, statusSlot (by decide), carried, logged timeout timeoutPresent,
    (displayed nofun).1, timeoutSlot (by decide)⟩

end NodeProbe
