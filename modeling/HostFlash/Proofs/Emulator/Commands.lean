import HostFlash.Proofs.Emulator.Reset

/-!
# Commands and the partition table

A call of the emulator is answered whatever its words are. Calls note what they were asked for, and
only a clear that succeeds changes data, in the first partition of its name. The layout of the
table, which is all that the listing shows, stays as it is over any run of calls, with whatever
happens to the machine between them.
-/

namespace HostFlash.Emulator

/-! ## Argument vectors -/

/-- The argument vectors that ask for something, with the event that each leaves behind. -/
inductive Asks : List String → Event → Prop where
  | list : Asks ["-i"] .list
  | read (name destination : String) :
      Asks ["-P", name, "-r", destination] (.read name destination)
  | eccClear (name : String) : Asks ["-P", name, "-c", "-f"] (.clear name .ecc)
  | erase (name : String) : Asks ["-P", name, "-e", "-f"] (.clear name .erase)

/-- The event that an argument vector leaves behind. -/
def event? (args : List String) : Option Event := (command? args).map Command.event

theorem asks_of_command? {args : List String} {command : Command}
    (hcommand : command? args = some command) : Asks args command.event := by
  unfold command? at hcommand
  split at hcommand
  · cases hcommand
    exact .list
  · cases hcommand
    exact .read _ _
  · cases hcommand
    exact .eccClear _
  · cases hcommand
    exact .erase _
  · cases hcommand

/-- The commands are those of the four shapes, also where a name looks like an option. -/
theorem asks_iff {args : List String} {event : Event} :
    Asks args event ↔ event? args = some event := by
  constructor
  · intro hasks
    cases hasks <;> rfl
  · intro hevent
    obtain ⟨command, hcommand, rfl⟩ := Option.map_eq_some_iff.mp hevent
    exact asks_of_command? hcommand

/-! ## The layout -/

/-- What the table says of a partition besides its data. -/
structure Slot where
  name : String
  flags : String
  size : Nat
deriving Repr, DecidableEq

def Partition.slot (p : Partition) : Slot := ⟨p.name, p.flags, p.data.length⟩

/-- The slots of the table in order. -/
def layout (e : Emulator) : List Slot := e.partitions.map (·.slot)

theorem Partition.slot_inj {p q : Partition} :
    p.slot = q.slot ↔ p.name = q.name ∧ p.flags = q.flags ∧ p.data.length = q.data.length := by
  rw [slot, slot, Slot.mk.injEq]

theorem listingLine_congr {p q : Partition} (index offset : Nat) (hslot : p.slot = q.slot) :
    listingLine index offset p = listingLine index offset q := by
  obtain ⟨hname, hflags, hsize⟩ := Partition.slot_inj.mp hslot
  unfold listingLine
  rw [hname, hflags, hsize]

theorem listingLines_congr {ps qs : List Partition} (index offset : Nat)
    (hslots : ps.map (·.slot) = qs.map (·.slot)) :
    listingLines index offset ps = listingLines index offset qs := by
  induction ps generalizing qs index offset with
  | nil =>
      rw [List.map_nil, eq_comm, List.map_eq_nil_iff] at hslots
      rw [hslots]
  | cons p ps ih =>
      cases qs with
      | nil => cases hslots
      | cons q qs =>
          obtain ⟨hslot, hrest⟩ := List.cons.inj hslots
          rw [listingLines, listingLines, listingLine_congr index offset hslot,
            (Partition.slot_inj.mp hslot).2.2, ih _ _ hrest]

/-- The listing shows the layout and nothing else. -/
theorem listing_congr {e e' : Emulator} (hlayout : e.layout = e'.layout) :
    e.listing = e'.listing := by
  rw [listing, listing, listingLines_congr 0 0 hlayout]

/-! ## Clears -/

/-- The first partition of a name is filled with a byte, and every other one is left alone. -/
def FirstFilled (name : String) (byte : UInt8) (before after : List Partition) : Prop :=
  ∃ front p rest, before = front ++ p :: rest ∧ (∀ q ∈ front, q.name ≠ name) ∧ p.name = name ∧
    after = front ++ { p with data := List.replicate p.data.length byte } :: rest

theorem FirstFilled.slots {name : String} {byte : UInt8} {before after : List Partition}
    (h : FirstFilled name byte before after) : after.map (·.slot) = before.map (·.slot) := by
  obtain ⟨front, p, rest, rfl, _, _, rfl⟩ := h
  simp [Partition.slot]

/-- The byte that a clear fills a partition with. -/
theorem clearByte_eq (mode : ClearKind) : clearByte mode = if mode = .ecc then 0x00 else 0xFF := by
  cases mode <;> rfl

/-- The status that a clear comes back with. -/
def clearStatus (e : Emulator) (name : String) : Int :=
  if name ∈ e.clearFailures then 2 else if ∃ p ∈ e.partitions, p.name = name then 0 else 1

theorem firstFilled_updateFirst {partitions : List Partition} {name : String}
    (hfound : ∃ p ∈ partitions, p.name = name) (byte : UInt8) :
    FirstFilled name byte partitions (updateFirst name (·.fill byte) partitions) := by
  obtain ⟨p, hp, hname⟩ := hfound
  have hfind : (partitions.find? (·.name == name)).isSome := by
    rw [List.find?_isSome]
    exact ⟨p, hp, by simpa using hname⟩
  obtain ⟨q, hq⟩ := Option.isSome_iff_exists.mp hfind
  obtain ⟨hqname, front, rest, rfl, hfront⟩ := List.find?_eq_some_iff_append.mp hq
  have hqname : q.name = name := by simpa using hqname
  have hfront : ∀ q ∈ front, q.name ≠ name := by simpa using hfront
  subst hqname
  refine ⟨front, q, rest, rfl, hfront, rfl, ?_⟩
  rw [updateFirst_append hfront, Partition.fill_eq]

/-- A clear either fails and changes nothing, or fills the first partition of its name. -/
theorem clear_cases (e : Emulator) (name : String) (mode : ClearKind) :
    (e.clear name mode).1.status = e.clearStatus name ∧
      (e.clearStatus name ≠ 0 → (e.clear name mode).2 = e) ∧
      (e.clearStatus name = 0 → ∃ partitions,
        (e.clear name mode).2 = { e with partitions := partitions } ∧
          FirstFilled name (if mode = .ecc then 0x00 else 0xFF) e.partitions partitions) := by
  rw [← clearByte_eq]
  unfold clear clearStatus
  by_cases hfailing : name ∈ e.clearFailures
  · rw [if_pos (List.contains_iff_mem.mpr hfailing), if_pos hfailing]
    exact ⟨rfl, fun _ => rfl, fun h => absurd h (by decide)⟩
  · rw [if_neg (mt List.contains_iff_mem.mp hfailing), if_neg hfailing]
    cases hfind : e.find? name with
    | none =>
        have hunknown : ¬ ∃ p ∈ e.partitions, p.name = name := by
          simpa [find?] using hfind
        rw [if_neg hunknown]
        exact ⟨rfl, fun _ => rfl, fun h => absurd h (by decide)⟩
    | some p =>
        have hknown : ∃ p ∈ e.partitions, p.name = name :=
          ⟨p, List.mem_of_find?_eq_some hfind, by simpa using List.find?_some hfind⟩
        rw [if_pos hknown]
        exact ⟨rfl, fun h => absurd rfl h, fun _ => ⟨_, rfl, firstFilled_updateFirst hknown _⟩⟩

/-! ## One call -/

/-- What a call with an argument vector does to the emulator. -/
structure Effect (args : List String) (answer : ToolAnswer) (e e' : Emulator) : Prop where
  layout : e'.layout = e.layout
  /-- Injected failures stay injected. -/
  failures : e'.clearFailures = e.clearFailures ∧ e'.readStatus = e.readStatus ∧
    e'.listStatus = e.listStatus
  noted : ∀ event, Asks args event → e'.history = e.history ++ [event]
  refused : (∀ event, ¬ Asks args event) → answer.status = 1 ∧ e' = e
  clearStatus : ∀ name mode, Asks args (.clear name mode) → answer.status = e.clearStatus name
  cleared : ∀ name mode, Asks args (.clear name mode) → answer.status = 0 →
    FirstFilled name (if mode = .ecc then 0x00 else 0xFF) e.partitions e'.partitions
  /-- Nothing but a clear that succeeds changes data. -/
  kept : (∀ name mode, Asks args (.clear name mode) → answer.status ≠ 0) →
    e'.partitions = e.partitions

theorem perform_read (name destination : String) (w : World Emulator) :
    ∃ answer w', perform (.read name destination) w = (.returned answer, w') ∧
      w'.device = w.device := by
  have hread : World.onDevice (fun e => (e.read name, e)) w =
      (.returned (w.device.read name), w) := rfl
  rw [perform, Action.bind_returned hread]
  cases w.device.read name with
  | error status => exact ⟨_, w, rfl, rfl⟩
  | ok data =>
      let written := w.machine.writeFile destination data
      have hwrite : World.onMachine (fun m => m.writeFile destination data) w =
          (.returned written.1, { w with machine := written.2 }) := rfl
      dsimp only
      rw [Action.bind_returned hwrite]
      cases written.1 with
      | error cause => exact ⟨_, _, rfl, rfl⟩
      | ok _ => exact ⟨_, _, rfl, rfl⟩

variable {args : List String}

theorem run_of_command? {command : Command} {w w' : World Emulator} {answer : ToolAnswer}
    (hcommand : command? args = some command)
    (hperform : perform command { w with device := w.device.record command.event } =
      (.returned answer, w')) :
    tool.run args w = (.returned (.ok answer), w') := by
  have hnote : note command.event w =
      (.returned (), { w with device := w.device.record command.event }) := rfl
  show run args w = _
  unfold run
  rw [hcommand]
  dsimp only
  rw [Action.bind_returned hnote, Action.bind_returned hperform]
  rfl

theorem event_unique {event : Event} {command : Command} (hcommand : command? args = some command)
    (hasks : Asks args event) : event = command.event := by
  have hevent := asks_iff.mp hasks
  rw [event?, hcommand, Option.map_some, Option.some_inj] at hevent
  exact hevent.symm

/-- A command that leaves the table alone only leaves its event behind. -/
theorem effect_of_harmless {command : Command} (hcommand : command? args = some command)
    (hharmless : ∀ name mode, command.event ≠ .clear name mode) (answer : ToolAnswer)
    (e : Emulator) : Effect args answer e (e.record command.event) where
  layout := rfl
  failures := ⟨rfl, rfl, rfl⟩
  noted event hasks := by
    rw [event_unique hcommand hasks]
    rfl
  refused hnone := absurd (asks_of_command? hcommand) (hnone _)
  clearStatus name mode hasks := absurd (event_unique hcommand hasks).symm (hharmless name mode)
  cleared name mode hasks := absurd (event_unique hcommand hasks).symm (hharmless name mode)
  kept _ := rfl

theorem effect_of_clear {name : String} {mode : ClearKind}
    (hcommand : command? args = some (.clear name mode)) (e : Emulator) :
    Effect args ((e.record (.clear name mode)).clear name mode).1 e
      ((e.record (.clear name mode)).clear name mode).2 := by
  let noted := e.record (.clear name mode)
  -- The event is noted before the clear is tried, and does not enter into what comes of it.
  have hclearStatus : noted.clearStatus name = e.clearStatus name := rfl
  have hunique : ∀ {event : Event}, Asks args event → event = .clear name mode :=
    event_unique hcommand
  have hasks : Asks args (.clear name mode) := asks_of_command? hcommand
  obtain ⟨hstatus, hfailed, hfilled⟩ := clear_cases noted name mode
  rw [hclearStatus] at hstatus hfailed hfilled
  by_cases hzero : e.clearStatus name = 0
  · obtain ⟨partitions, hafter, hfirst⟩ := hfilled hzero
    rw [hafter]
    exact {
      layout := hfirst.slots
      failures := ⟨rfl, rfl, rfl⟩
      noted := fun event hevent => by rw [hunique hevent]; rfl
      refused := fun hnone => absurd hasks (hnone _)
      clearStatus := fun name' mode' hevent => by cases hunique hevent; exact hstatus
      cleared := fun name' mode' hevent _ => by cases hunique hevent; exact hfirst
      kept := fun hnone => absurd (hstatus.trans hzero) (hnone name mode hasks) }
  · rw [hfailed hzero]
    exact {
      layout := rfl
      failures := ⟨rfl, rfl, rfl⟩
      noted := fun event hevent => by rw [hunique hevent]; rfl
      refused := fun hnone => absurd hasks (hnone _)
      clearStatus := fun name' mode' hevent => by cases hunique hevent; exact hstatus
      cleared := fun _ _ _ h => absurd (hstatus.symm.trans h) hzero
      kept := fun _ => rfl }

theorem effect_of_unknown (hcommand : command? args = none) (e : Emulator) :
    Effect args (.failed unknownStatus) e e := by
  have hnone : ∀ event, ¬ Asks args event := by
    intro event hasks
    rw [asks_iff, event?, hcommand] at hasks
    cases hasks
  exact {
    layout := rfl
    failures := ⟨rfl, rfl, rfl⟩
    noted := fun event hasks => absurd hasks (hnone event)
    refused := fun _ => ⟨rfl, rfl⟩
    clearStatus := fun _ _ hasks => absurd hasks (hnone _)
    cleared := fun _ _ hasks => absurd hasks (hnone _)
    kept := fun _ => rfl }

/-- Every call is answered. -/
theorem run_effect (args : List String) (w : World Emulator) :
    ∃ answer w', tool.run args w = (.returned (.ok answer), w') ∧
      Effect args answer w.device w'.device := by
  cases hcommand : command? args with
  | none =>
      refine ⟨_, w, ?_, effect_of_unknown hcommand w.device⟩
      show run args w = _
      rw [run, hcommand]
      rfl
  | some command =>
  cases command with
  | list =>
      exact ⟨_, _, run_of_command? hcommand rfl,
        effect_of_harmless hcommand (by simp [Command.event]) _ _⟩
  | read name destination =>
      obtain ⟨answer, w', hperform, hdevice⟩ := perform_read name destination
        { w with device := w.device.record (.read name destination) }
      refine ⟨answer, w', run_of_command? hcommand hperform, ?_⟩
      rw [hdevice]
      exact effect_of_harmless hcommand (by simp [Command.event]) _ _
  | clear name mode =>
      exact ⟨_, _, run_of_command? hcommand rfl, effect_of_clear hcommand w.device⟩

/-! ## Runs of calls -/

/-- A call, with the machine and the log as they are at that time. -/
structure Request where
  machine : Machine
  log : List LogLine
  args : List String

/-- The world in which a call is made. -/
def Request.world (r : Request) (e : Emulator) : World Emulator := ⟨r.machine, r.log, e⟩

/-- The emulator after a call. -/
def after (e : Emulator) (r : Request) : Emulator := (tool.run r.args (r.world e)).2.device

/-- The emulator after a run of calls. -/
def afterAll (e : Emulator) (requests : List Request) : Emulator := requests.foldl after e

theorem after_effect (e : Emulator) (r : Request) :
    ∃ answer, Effect r.args answer e (e.after r) := by
  obtain ⟨answer, w', hrun, heffect⟩ := run_effect r.args (r.world e)
  refine ⟨answer, ?_⟩
  rw [after, hrun]
  exact heffect

theorem Effect.history {answer : ToolAnswer} {e e' : Emulator} (h : Effect args answer e e') :
    e'.history = e.history ++ (event? args).toList := by
  cases hevent : event? args with
  | none =>
      have hnone : ∀ event, ¬ Asks args event := by
        intro event hasks
        rw [asks_iff, hevent] at hasks
        cases hasks
      rw [(h.refused hnone).2]
      simp
  | some event => exact h.noted event (asks_iff.mpr hevent)

theorem layout_afterAll (e : Emulator) (requests : List Request) :
    (e.afterAll requests).layout = e.layout := by
  induction requests generalizing e with
  | nil => rfl
  | cons r rest ih =>
      obtain ⟨answer, heffect⟩ := after_effect e r
      exact (ih (e.after r)).trans heffect.layout

theorem history_afterAll (e : Emulator) (requests : List Request) :
    (e.afterAll requests).history = e.history ++ requests.filterMap (event? ·.args) := by
  induction requests generalizing e with
  | nil => exact (List.append_nil _).symm
  | cons r rest ih =>
      obtain ⟨answer, heffect⟩ := after_effect e r
      have hrest := ih (e.after r)
      rw [heffect.history, List.append_assoc] at hrest
      refine hrest.trans ?_
      cases hevent : event? r.args with
      | none => simp [hevent]
      | some event => simp [hevent]

/-! ## Data after a run -/

/-- One of these argument vectors asks for a clear that turns the partition at a place into another
one: it is the first of its name there, and no failure of its clears is injected. -/
def Clears (argss : List (List String)) (e : Emulator) (place : Nat) (p p' : Partition) : Prop :=
  ∃ args ∈ argss, ∃ mode, Asks args (.clear p.name mode) ∧ p.name ∉ e.clearFailures ∧
    (∀ slot ∈ e.layout.take place, slot.name ≠ p.name) ∧
    p' = { p with data := List.replicate p.data.length (if mode = .ecc then 0x00 else 0xFF) }

theorem Clears.mono {argss argss' : List (List String)} {e : Emulator} {place : Nat}
    {p p' : Partition} (h : Clears argss e place p p') (hsubset : argss ⊆ argss') :
    Clears argss' e place p p' := by
  obtain ⟨args, hargs, hclear⟩ := h
  exact ⟨args, hsubset hargs, hclear⟩

theorem Clears.slot {argss : List (List String)} {e : Emulator} {place : Nat} {p p' : Partition}
    (h : Clears argss e place p p') : p'.slot = p.slot := by
  obtain ⟨_, _, _, _, _, _, rfl⟩ := h
  simp [Partition.slot]

/-- A clear leaves nothing of the data that was there before it but the size. -/
theorem Clears.of_slot {argss : List (List String)} {e e' : Emulator} {place : Nat}
    {p q p' : Partition} (h : Clears argss e place q p') (hslot : q.slot = p.slot)
    (hlayout : e.layout = e'.layout) (hfailures : e.clearFailures = e'.clearFailures) :
    Clears argss e' place p p' := by
  obtain ⟨hname, hflags, hsize⟩ := Partition.slot_inj.mp hslot
  obtain ⟨args, hargs, mode, hasks, hsound, hfirst, rfl⟩ := h
  rw [hname] at hasks hsound hfirst
  rw [hlayout] at hfirst
  rw [hfailures] at hsound
  exact ⟨args, hargs, mode, hasks, hsound, hfirst, by rw [hname, hflags, hsize]⟩

theorem clearStatus_eq_zero {e : Emulator} {name : String} (h : e.clearStatus name = 0) :
    name ∉ e.clearFailures := by
  intro hfailing
  rw [clearStatus, if_pos hfailing] at h
  cases h

/-- The partition at a place is left alone by a call, or cleared. -/
theorem Effect.partition {answer : ToolAnswer} {e e' : Emulator} (h : Effect args answer e e')
    {place : Nat} {p : Partition} (hp : e.partitions[place]? = some p) :
    ∃ p', e'.partitions[place]? = some p' ∧ (p' = p ∨ Clears [args] e place p p') := by
  by_cases hclear : ∃ name mode, Asks args (.clear name mode) ∧ answer.status = 0
  · obtain ⟨name, mode, hasks, hstatus⟩ := hclear
    have hsound : name ∉ e.clearFailures :=
      clearStatus_eq_zero ((h.clearStatus name mode hasks).symm.trans hstatus)
    obtain ⟨front, q, rest, hbefore, hfront, rfl, hafter⟩ := h.cleared name mode hasks hstatus
    rw [hbefore] at hp
    rw [hafter]
    -- The place lies in front of the partition that is filled, on it, or behind it.
    rcases Nat.lt_trichotomy place front.length with hplace | rfl | hplace
    · rw [List.getElem?_append_left hplace] at hp ⊢
      exact ⟨p, hp, Or.inl rfl⟩
    · rw [List.getElem?_append_right le_rfl, Nat.sub_self, List.getElem?_cons_zero] at hp ⊢
      cases hp
      refine ⟨_, rfl, Or.inr ⟨args, List.mem_singleton_self args, mode, hasks, hsound, ?_, rfl⟩⟩
      intro slot hslot
      have hlayout : e.layout = front.map (·.slot) ++ (p :: rest).map (·.slot) := by
        rw [Emulator.layout, hbefore, List.map_append]
      rw [hlayout, List.take_left' (List.length_map _)] at hslot
      obtain ⟨q', hq', rfl⟩ := List.mem_map.mp hslot
      exact hfront q' hq'
    · obtain ⟨behind, hbehind⟩ := Nat.exists_eq_add_of_lt hplace
      have hindex : place - front.length = behind + 1 := by omega
      rw [List.getElem?_append_right hplace.le, hindex, List.getElem?_cons_succ] at hp ⊢
      exact ⟨p, hp, Or.inl rfl⟩
  · have hkept : e'.partitions = e.partitions :=
      h.kept fun name mode hasks hstatus => hclear ⟨name, mode, hasks, hstatus⟩
    exact ⟨p, hkept ▸ hp, Or.inl rfl⟩

/-- After a run of calls a partition is as it was, or as a clear of its name has left it. -/
theorem partition_afterAll {e : Emulator} (requests : List Request) {place : Nat} {p : Partition}
    (hp : e.partitions[place]? = some p) :
    ∃ p', (e.afterAll requests).partitions[place]? = some p' ∧
      (p' = p ∨ Clears (requests.map (·.args)) e place p p') := by
  induction requests generalizing e p with
  | nil => exact ⟨p, hp, Or.inl rfl⟩
  | cons r rest ih =>
      obtain ⟨answer, heffect⟩ := after_effect e r
      obtain ⟨q, hq, hfirst⟩ := heffect.partition hp
      have hslot : q.slot = p.slot := by
        rcases hfirst with rfl | hclears
        · rfl
        · exact hclears.slot
      obtain ⟨p', hp', hrest⟩ := ih hq
      refine ⟨p', hp', ?_⟩
      rcases hrest with rfl | hclears
      · exact hfirst.imp_right (·.mono (by simp))
      · exact Or.inr ((hclears.of_slot hslot heffect.layout heffect.failures.1).mono (by simp))

/-- No run of calls changes the layout of the table or its listing. The history grows by the events
that the calls asked for, and a partition is as it was or as a clear in the run has left it. The
call behind the run is answered, and does to the emulator what it may do. -/
theorem requests_keep_table (e : Emulator) (requests : List Request) :
    (e.afterAll requests).layout = e.layout ∧
      (e.afterAll requests).listing = e.listing ∧
      (e.afterAll requests).history = e.history ++ requests.filterMap (event? ·.args) ∧
      (∀ place (p : Partition), e.partitions[place]? = some p →
        ∃ p', (e.afterAll requests).partitions[place]? = some p' ∧
          (p' = p ∨ Clears (requests.map (·.args)) e place p p')) ∧
      ∀ next : Request, ∃ answer w',
        tool.run next.args (next.world (e.afterAll requests)) = (.returned (.ok answer), w') ∧
          Effect next.args answer (e.afterAll requests) w'.device := by
  have hlayout := layout_afterAll e requests
  refine ⟨hlayout, listing_congr hlayout, history_afterAll e requests,
    fun place p hp => partition_afterAll requests hp, ?_⟩
  intro next
  exact run_effect next.args (next.world (e.afterAll requests))

/-- Two partitions of one name, which looks like an option. -/
def twins : Emulator := { empty with partitions := [⟨"-c", "--F", [1, 2]⟩, ⟨"-c", "E-F", [3]⟩] }

/-- A call on a machine without files. -/
def bareRequest (args : List String) : Request := ⟨⟨⟨[]⟩, [], "/tmp", 0⟩, [], args⟩

/-- Clears reach the first of the two only, a read to a file named like an option is a read, and a
vector of one word too many is refused. -/
theorem twins_keep_table :
    let requests := [["-P", "-c", "-c", "-f"], ["-P", "-c", "-r", "-f"], ["-i", "-i"],
      ["-P", "-c", "-e", "-f"]].map bareRequest
    (twins.afterAll requests).listing = twins.listing ∧
      (twins.afterAll requests).history =
        [.clear "-c" .ecc, .read "-c" "-f", .clear "-c" .erase] ∧
      twins.partitions[1]? = some ⟨"-c", "E-F", [3]⟩ ∧
      (twins.afterAll requests).partitions[1]? = some ⟨"-c", "E-F", [3]⟩ := by
  intro requests
  obtain ⟨_, hlisting, hhistory, hdata, _⟩ := requests_keep_table twins requests
  obtain ⟨p', hp', hafter⟩ := hdata 1 ⟨"-c", "E-F", [3]⟩ rfl
  refine ⟨hlisting, hhistory, rfl, ?_⟩
  rcases hafter with rfl | ⟨_, _, _, _, _, hfirst, _⟩
  · exact hp'
  · exact absurd rfl (hfirst ⟨"-c", "--F", 2⟩ (by decide))

end HostFlash.Emulator
