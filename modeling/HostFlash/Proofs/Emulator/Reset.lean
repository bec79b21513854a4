import HostFlash.FactoryReset
import HostFlash.Proofs.Listing.Emulated

/-!
# A factory reset of the emulator

A factory reset reads the listing of the emulator and clears the candidates by name. With distinct
names the sweep reaches every flagged partition once, in the order of the table, and so it fills
exactly those whose clear is not injected to fail. A reset behind a reset changes nothing.
-/

namespace HostFlash.Emulator

namespace Partition

/-- The partition behind a factory reset in which the clears of some names fail. -/
def reset (failures : List String) (p : Partition) : Partition :=
  if 'F' ∈ p.flags.toList ∧ p.name ∉ failures then
    { p with
      data := List.replicate p.data.length (if 'E' ∈ p.flags.toList then 0x00 else 0xFF) }
  else p

/-- What a factory reset reports about a flagged partition. -/
def outcome (failures : List String) (p : Partition) : ClearOutcome :=
  let mode : ClearKind := if 'E' ∈ p.flags.toList then .ecc else .erase
  { name := p.name
    mode := mode
    result :=
      if p.name ∈ failures then
        .error (.badStatus (commandText "dummy" (Flasher.clearArgs p.name mode)) injectedStatus)
      else .ok () }

variable {failures : List String} {p : Partition}

theorem fill_eq (p : Partition) (byte : UInt8) :
    p.fill byte = { p with data := List.replicate p.data.length byte } := by
  rw [fill, List.map_const']

theorem clearKind_candidate (p : Partition) :
    p.candidate.clearKind = if 'E' ∈ p.flags.toList then .ecc else .erase := by
  simp [candidate, Candidate.clearKind, ClearKind.ofEcc]

@[simp] theorem reset_name (failures : List String) (p : Partition) :
    (p.reset failures).name = p.name := by
  unfold reset
  split <;> rfl

@[simp] theorem reset_flags (failures : List String) (p : Partition) :
    (p.reset failures).flags = p.flags := by
  unfold reset
  split <;> rfl

@[simp] theorem length_data_reset (failures : List String) (p : Partition) :
    (p.reset failures).data.length = p.data.length := by
  unfold reset
  split
  · exact List.length_replicate
  · rfl

theorem reset_of_not_flagged (hflagged : ¬ p.flagged) : p.reset failures = p := by
  rw [reset, if_neg]
  exact fun h => hflagged (decide_eq_true h.1)

theorem reset_of_failing (hfailing : p.name ∈ failures) : p.reset failures = p := by
  rw [reset, if_neg]
  exact fun h => h.2 hfailing

theorem reset_of_cleared (hflagged : p.flagged) (hsound : p.name ∉ failures) :
    p.reset failures = p.fill (clearByte p.candidate.clearKind) := by
  rw [reset, if_pos ⟨of_decide_eq_true hflagged, hsound⟩, fill_eq, clearKind_candidate]
  split <;> rfl

theorem reset_reset (failures : List String) (p : Partition) :
    (p.reset failures).reset failures = p.reset failures := by
  by_cases h : 'F' ∈ p.flags.toList ∧ p.name ∉ failures
  · rw [reset, reset_flags, reset_name, length_data_reset, if_pos h]
    rw [reset, if_pos h]
  · rw [reset, reset_flags, reset_name, if_neg h]

theorem flagged_reset (failures : List String) (p : Partition) :
    (p.reset failures).flagged = p.flagged := by
  rw [flagged, flagged, reset_flags]

theorem outcome_reset (failures : List String) (p : Partition) :
    (p.reset failures).outcome failures = p.outcome failures := by
  rw [outcome, outcome, reset_flags, reset_name]

theorem Listable.reset (hp : p.Listable) (failures : List String) :
    (p.reset failures).Listable := by
  rw [Listable, WellNamed, reset_name, reset_flags]
  exact hp

end Partition

/-! ## One clear -/

theorem updateFirst_append {front : List Partition} {p : Partition}
    (hfront : ∀ q ∈ front, q.name ≠ p.name) (change : Partition → Partition)
    (rest : List Partition) :
    updateFirst p.name change (front ++ p :: rest) = front ++ change p :: rest := by
  induction front with
  | nil => exact if_pos rfl
  | cons q front ih =>
      rw [List.forall_mem_cons] at hfront
      rw [List.cons_append, updateFirst, if_neg hfront.1, ih hfront.2]
      rfl

/-- The clear of a flagged partition leaves the table with that partition reset, and reports what
the outcome of the partition says. -/
theorem clear_flagged {e : Emulator} {front rest : List Partition} {p : Partition}
    (he : e.partitions = front ++ p :: rest) (hfront : ∀ q ∈ front, q.name ≠ p.name)
    (hflagged : p.flagged) :
    (e.clear p.name p.candidate.clearKind).2 =
        { e with partitions := front ++ p.reset e.clearFailures :: rest } ∧
      tool.checked (Flasher.clearArgs p.name p.candidate.clearKind)
          (.ok (e.clear p.name p.candidate.clearKind).1) =
        (p.outcome e.clearFailures).result := by
  by_cases hfailing : p.name ∈ e.clearFailures
  · have hclear : e.clear p.name p.candidate.clearKind = (.failed injectedStatus, e) :=
      if_pos (List.contains_iff_mem.mpr hfailing)
    rw [hclear, Partition.reset_of_failing hfailing, ← he]
    refine ⟨rfl, ?_⟩
    rw [Partition.outcome, if_pos hfailing, ← Partition.clearKind_candidate]
    rfl
  · have hfound : ∃ q, e.find? p.name = some q := by
      rw [← Option.isSome_iff_exists, find?, List.find?_isSome]
      exact ⟨p, by simp [he], beq_self_eq_true p.name⟩
    obtain ⟨q, hq⟩ := hfound
    have hclear : e.clear p.name p.candidate.clearKind =
        (.ok "", { e with
          partitions := front ++ p.fill (clearByte p.candidate.clearKind) :: rest }) := by
      rw [clear, if_neg (mt List.contains_iff_mem.mp hfailing), hq]
      simp only [he, updateFirst_append hfront]
    rw [hclear, Partition.reset_of_cleared hflagged hfailing]
    refine ⟨rfl, ?_⟩
    rw [Partition.outcome, if_neg hfailing]
    rfl

/-- What a sweep reports about a table. -/
def outcomes (failures : List String) (partitions : List Partition) : List ClearOutcome :=
  (partitions.filter (·.flagged)).map (·.outcome failures)

/-- Two states of the emulator have the same table and the same injected failures of clears. -/
def SameFlash (e e' : Emulator) : Prop :=
  e.partitions = e'.partitions ∧ e.clearFailures = e'.clearFailures

/-- A clear is a command of the emulator, which notes it and carries it out. -/
theorem clear_run (w : World Emulator) (name : String) (mode : ClearKind) :
    ∃ w', FactoryReset.clear tool name mode w =
        (.returned ⟨name, mode, tool.checked (Flasher.clearArgs name mode)
          (.ok ((w.device.record (.clear name mode)).clear name mode).1)⟩, w') ∧
      w'.device = ((w.device.record (.clear name mode)).clear name mode).2 := by
  cases mode with
  | ecc => exact ⟨_, rfl, rfl⟩
  | erase => exact ⟨_, rfl, rfl⟩

/-- The clear of a candidate resets its partition and no other. -/
theorem clear_candidate {w : World Emulator} {front rest : List Partition} {p : Partition}
    (hpartitions : w.device.partitions = front ++ p :: rest)
    (hfront : ∀ q ∈ front, q.name ≠ p.name) (hflagged : p.flagged) :
    ∃ w', FactoryReset.clear tool p.candidate.name p.candidate.clearKind w =
        (.returned (p.outcome w.device.clearFailures), w') ∧
      w'.device.partitions = front ++ [p.reset w.device.clearFailures] ++ rest ∧
      w'.device.clearFailures = w.device.clearFailures := by
  have hrecorded : (w.device.record (.clear p.name p.candidate.clearKind)).partitions =
      front ++ p :: rest := hpartitions
  obtain ⟨hstate, hresult⟩ := clear_flagged hrecorded hfront hflagged
  obtain ⟨w', hclear, hdevice⟩ := clear_run w p.name p.candidate.clearKind
  rw [hstate] at hdevice
  refine ⟨w', ?_, ?_, ?_⟩
  · refine hclear.trans ?_
    rw [hresult, Partition.clearKind_candidate]
    rfl
  · rw [hdevice, List.append_assoc]
    rfl
  · rw [hdevice]
    rfl

/-! ## The sweep -/

/-- The sweep of a part of the table resets that part and leaves what stands in front of it. -/
theorem clearAll_table {failures : List String} {front rest : List Partition}
    {w : World Emulator} (hpartitions : w.device.partitions = front ++ rest)
    (hfailures : w.device.clearFailures = failures)
    (hnodup : ((front ++ rest).map (·.name)).Nodup) :
    ∃ w', FactoryReset.clearAll tool (flaggedCandidates rest) w =
        (.returned (outcomes failures rest), w') ∧
      w'.device.partitions = front ++ rest.map (·.reset failures) ∧
      w'.device.clearFailures = failures := by
  induction rest generalizing front w with
  | nil => exact ⟨w, rfl, hpartitions, hfailures⟩
  | cons p rest ih =>
      -- The partition at hand moves to the front as the sweep leaves it.
      have hnext : ((front ++ [p.reset failures] ++ rest).map (·.name)).Nodup := by
        simpa using hnodup
      have hjoin : front ++ (p :: rest).map (·.reset failures) =
          front ++ [p.reset failures] ++ rest.map (·.reset failures) := by
        rw [List.map_cons, List.append_assoc, List.singleton_append]
      by_cases hflagged : p.flagged
      · have hfront : ∀ q ∈ front, q.name ≠ p.name := by
          rw [List.map_append, List.map_cons, List.nodup_append] at hnodup
          exact fun q hq => hnodup.2.2 q.name (List.mem_map_of_mem hq) p.name List.mem_cons_self
        obtain ⟨w₁, hclear, hmoved, hkept⟩ := clear_candidate hpartitions hfront hflagged
        rw [hfailures] at hclear hmoved hkept
        obtain ⟨w', hrun, htable, hkept'⟩ := ih hmoved hkept hnext
        refine ⟨w', ?_, by rw [hjoin, htable], hkept'⟩
        rw [flaggedCandidates, outcomes, List.filter_cons_of_pos hflagged, List.map_cons,
          List.map_cons, FactoryReset.clearAll, Action.bind_returned hclear]
        exact Action.bind_returned hrun _
      · have hmoved : w.device.partitions = front ++ [p.reset failures] ++ rest := by
          rw [hpartitions, Partition.reset_of_not_flagged hflagged, List.append_assoc,
            List.singleton_append]
        obtain ⟨w', hrun, htable, hkept⟩ := ih hmoved hfailures hnext
        refine ⟨w', ?_, by rw [hjoin, htable], hkept⟩
        rw [flaggedCandidates, outcomes, List.filter_cons_of_neg hflagged]
        exact hrun

/-! ## The whole reset -/

/-- The signals return and leave the flash alone. They may be noted in the history. -/
structure Quiet (mediator : Mediator Emulator) : Prop where
  suspend : ∀ w, ∃ w', mediator.suspend w = (.returned (), w') ∧ SameFlash w'.device w.device
  resume : ∀ w, ∃ w', mediator.resume w = (.returned (), w') ∧ SameFlash w'.device w.device

theorem mediator_quiet : Quiet mediator where
  suspend _ := ⟨_, rfl, rfl, rfl⟩
  resume _ := ⟨_, rfl, rfl, rfl⟩

/-- A factory reset resets the table and reports its flagged partitions. -/
theorem run_reset {mediator : Mediator Emulator} (hmediator : Quiet mediator)
    {w : World Emulator} (hnodup : (w.device.partitions.map (·.name)).Nodup)
    (hlistable : ∀ p ∈ w.device.partitions, p.Listable) :
    ∃ w', FactoryReset.run tool mediator w =
        (.returned ⟨outcomes w.device.clearFailures w.device.partitions⟩, w') ∧
      w'.device.partitions = w.device.partitions.map (·.reset w.device.clearFailures) ∧
      w'.device.clearFailures = w.device.clearFailures := by
  obtain ⟨listed, hquery, hlisted⟩ := query_tool hlistable
  -- The mediator may do what it likes to the history, so the worlds are only compared by flash.
  obtain ⟨logged, hinfo, hlogged⟩ : ∃ logged,
      World.info ("Factory reset: " ++ toString (flaggedCandidates w.device.partitions).length ++
        " partition(s) to clear") listed = (.returned (), logged) ∧
        logged.device = w.device.record .list := ⟨_, rfl, hlisted⟩
  obtain ⟨suspended, hsuspend, hpartitions, hfailures⟩ := hmediator.suspend logged
  have hstart : suspended.device.partitions = [] ++ w.device.partitions := by
    rw [hpartitions, hlogged]
    rfl
  have hinjected : suspended.device.clearFailures = w.device.clearFailures := by
    rw [hfailures, hlogged]
    rfl
  obtain ⟨swept, hsweep, htable, hkept⟩ := clearAll_table hstart hinjected hnodup
  obtain ⟨w', hresume, hpartitions', hfailures'⟩ := hmediator.resume swept
  refine ⟨w', ?_, hpartitions'.trans htable, hfailures'.trans hkept⟩
  rw [FactoryReset.run, Action.bind_returned hquery, Action.bind_returned hinfo,
    Mediator.whileSuspended, Action.bind_returned hsuspend]
  exact Action.ensuring_apply (Action.bind_returned hsweep _) hresume

theorem outcomes_map_reset (failures : List String) (partitions : List Partition) :
    outcomes failures (partitions.map (·.reset failures)) = outcomes failures partitions := by
  simp only [outcomes, List.filter_map, List.map_map, Function.comp_def,
    Partition.flagged_reset, Partition.outcome_reset]

/-- A factory reset of a table with distinct names that can be listed fills the flagged partitions
whose clear does not fail and no others, and keeps names, flags, order and sizes. It reports each
flagged partition once, in order. A second reset reports the same and changes nothing. -/
theorem run_twice {mediator : Mediator Emulator} (hmediator : Quiet mediator)
    {w : World Emulator} (hnodup : (w.device.partitions.map (·.name)).Nodup)
    (hlistable : ∀ p ∈ w.device.partitions, p.Listable) :
    ∃ w₁ w₂,
      FactoryReset.run tool mediator w =
        (.returned ⟨outcomes w.device.clearFailures w.device.partitions⟩, w₁) ∧
      w₁.device.partitions = w.device.partitions.map (·.reset w.device.clearFailures) ∧
      FactoryReset.run tool mediator w₁ =
        (.returned ⟨outcomes w.device.clearFailures w.device.partitions⟩, w₂) ∧
      w₂.device.partitions = w₁.device.partitions := by
  obtain ⟨w₁, hfirst, hpartitions, hfailures⟩ := run_reset hmediator hnodup hlistable
  -- The second reset begins with names and flags as the first did.
  have hnodup₁ : (w₁.device.partitions.map (·.name)).Nodup := by
    simpa [hpartitions, Function.comp_def] using hnodup
  have hlistable₁ : ∀ p ∈ w₁.device.partitions, p.Listable := by
    rw [hpartitions, List.forall_mem_map]
    exact fun p hp => (hlistable p hp).reset _
  obtain ⟨w₂, hsecond, hpartitions₂, _⟩ := run_reset hmediator hnodup₁ hlistable₁
  refine ⟨w₁, w₂, hfirst, hpartitions, ?_, ?_⟩
  · rw [hsecond, hfailures, hpartitions, outcomes_map_reset]
  · rw [hpartitions₂, hfailures, hpartitions, List.map_map]
    exact List.map_congr_left fun p _ => Partition.reset_reset _ p

/-- Three flagged partitions, one of which fails to clear, and one that is not flagged. -/
def halfFailing : World Emulator where
  machine := ⟨⟨[]⟩, [], "/tmp", 0⟩
  log := []
  device :=
    { empty with
      partitions := [⟨"HBEL", "E--F-", [1, 2]⟩, ⟨"NVRAM", "---F-", [3]⟩, ⟨"MVPD", "---F-", [4]⟩,
        ⟨"PAYLOAD", "E----", [5]⟩]
      clearFailures := ["NVRAM"] }

theorem halfFailing_twice :
    Quiet mediator ∧ (halfFailing.device.partitions.map (·.name)).Nodup ∧
      (∀ p ∈ halfFailing.device.partitions, p.Listable) ∧
      ∃ w₁ w₂,
        FactoryReset.run tool mediator halfFailing =
          (.returned ⟨[⟨"HBEL", .ecc, .ok ()⟩,
            ⟨"NVRAM", .erase, .error (.badStatus "dummy -P NVRAM -e -f" 2)⟩,
            ⟨"MVPD", .erase, .ok ()⟩]⟩, w₁) ∧
        w₁.device.partitions = [⟨"HBEL", "E--F-", [0x00, 0x00]⟩, ⟨"NVRAM", "---F-", [3]⟩,
          ⟨"MVPD", "---F-", [0xFF]⟩, ⟨"PAYLOAD", "E----", [5]⟩] ∧
        (FactoryReset.run tool mediator w₁).1 =
          (FactoryReset.run tool mediator halfFailing).1 ∧
        w₂ = (FactoryReset.run tool mediator w₁).2 ∧
        w₂.device.partitions = w₁.device.partitions := by
  have hnodup : (halfFailing.device.partitions.map (·.name)).Nodup := by decide +kernel
  have hlistable : ∀ p ∈ halfFailing.device.partitions, p.Listable := by decide +kernel
  have htable : halfFailing.device.partitions.map (·.reset halfFailing.device.clearFailures) =
      [⟨"HBEL", "E--F-", [0x00, 0x00]⟩, ⟨"NVRAM", "---F-", [3]⟩, ⟨"MVPD", "---F-", [0xFF]⟩,
        ⟨"PAYLOAD", "E----", [5]⟩] := by
    decide +kernel
  have houtcomes : outcomes halfFailing.device.clearFailures halfFailing.device.partitions =
      [⟨"HBEL", .ecc, .ok ()⟩, ⟨"NVRAM", .erase, .error (.badStatus "dummy -P NVRAM -e -f" 2)⟩,
        ⟨"MVPD", .erase, .ok ()⟩] := by
    simp [outcomes, halfFailing, Partition.flagged, Partition.outcome, commandText,
      Flasher.clearArgs, ClearKind.option, injectedStatus]
  obtain ⟨w₁, w₂, hfirst, hpartitions, hsecond, hpartitions₂⟩ :=
    run_twice mediator_quiet hnodup hlistable
  refine ⟨mediator_quiet, hnodup, hlistable, w₁, w₂, ?_, ?_, ?_, ?_, hpartitions₂⟩
  · rw [hfirst, houtcomes]
  · rw [hpartitions, htable]
  · rw [hfirst, hsecond]
  · rw [hsecond]

end HostFlash.Emulator
