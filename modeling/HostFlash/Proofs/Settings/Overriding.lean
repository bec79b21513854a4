import Mathlib
import HostFlash.Proofs.Settings.Documents
import HostFlash.Settings.Decoding

/-!
# Settings override their defaults

A document overrides the defaults field by field. It is accepted exactly if its sections are the
four that are known, each key in a section is one of those of the section, and each value is of the
kind that its key asks for. Then every field has the value that stands under its own key in its own
section, or else its default, whatever else the document says and in whatever order it says it.
-/

namespace HostFlash.Settings

open Toml (Table Value)

/-! ## Keys and values -/

/-- The keys of the settings. -/
inductive Key where
  | program
  | runTimeout
  | busClient
  | service
  | object
  | interface
  | callTimeout
  | software
  | hostInventory
  | version
  | guard
deriving Repr, DecidableEq

namespace Key

/-- The section of a key. -/
def heading : Key → String
  | program | runTimeout => "tool"
  | busClient | service | object | interface | callTimeout => "mediator"
  | software | hostInventory => "paths"
  | version | guard => "partitions"

/-- The name of a key in its section. Two keys of different sections have the same name. -/
def name : Key → String
  | program => "path"
  | runTimeout => "timeout_secs"
  | busClient => "busctl"
  | service => "service"
  | object => "object"
  | interface => "interface"
  | callTimeout => "timeout_secs"
  | software => "software"
  | hostInventory => "host_inventory"
  | version => "version"
  | guard => "guard"

/-- The value is of the kind that the key asks for. -/
def Fits : Key → Value → Prop
  | runTimeout, v | callTimeout, v => ∃ n : Nat, v = .integer n
  | program, v | busClient, v | service, v | object, v | interface, v | software, v
  | hostInventory, v | version, v | guard, v => ∃ s, v = .string s

theorem exists_iff {P : Key → Prop} :
    (∃ key, P key) ↔ P program ∨ P runTimeout ∨ P busClient ∨ P service ∨ P object ∨
      P interface ∨ P callTimeout ∨ P software ∨ P hostInventory ∨ P version ∨ P guard := by
  constructor
  · rintro ⟨key, hkey⟩
    cases key <;> simp [hkey]
  · rintro (h | h | h | h | h | h | h | h | h | h | h) <;> exact ⟨_, h⟩

/-- All keys. -/
def all : List Key :=
  [program, runTimeout, busClient, service, object, interface, callTimeout, software,
   hostInventory, version, guard]

theorem mem_all (key : Key) : key ∈ all := by
  cases key <;> decide

/-- Section and name tell the keys apart. -/
theorem eq_of_name {key key' : Key} (hheading : key.heading = key'.heading)
    (hname : key.name = key'.name) : key = key' := by
  cases key <;> cases key' <;> simp [heading, name] at hheading hname ⊢

end Key

/-- The sections. -/
def headings : List String := ["tool", "mediator", "paths", "partitions"]

/-- The value of a field, by its key. -/
def value (s : Settings) : Key → Value
  | .program => .string s.tool.program
  | .runTimeout => .integer s.tool.timeoutSeconds
  | .busClient => .string s.mediator.busClient
  | .service => .string s.mediator.service
  | .object => .string s.mediator.object
  | .interface => .string s.mediator.interface
  | .callTimeout => .integer s.mediator.timeoutSeconds
  | .software => .string s.paths.software
  | .hostInventory => .string s.paths.hostInventory
  | .version => .string s.partitions.version
  | .guard => .string s.partitions.guard

theorem value_fits (s : Settings) (key : Key) : key.Fits (s.value key) := by
  cases key <;> exact ⟨_, rfl⟩

/-- Settings have no other fields. -/
theorem eq_of_value {s t : Settings} (h : ∀ key, s.value key = t.value key) : s = t := by
  obtain ⟨⟨_, _⟩, ⟨_, _, _, _, _⟩, ⟨_, _⟩, ⟨_, _⟩⟩ := s
  obtain ⟨⟨_, _⟩, ⟨_, _, _, _, _⟩, ⟨_, _⟩, ⟨_, _⟩⟩ := t
  obtain rfl := Value.string.inj (h .program)
  obtain rfl := Int.ofNat.inj (Value.integer.inj (h .runTimeout))
  obtain rfl := Value.string.inj (h .busClient)
  obtain rfl := Value.string.inj (h .service)
  obtain rfl := Value.string.inj (h .object)
  obtain rfl := Value.string.inj (h .interface)
  obtain rfl := Int.ofNat.inj (Value.integer.inj (h .callTimeout))
  obtain rfl := Value.string.inj (h .software)
  obtain rfl := Value.string.inj (h .hostInventory)
  obtain rfl := Value.string.inj (h .version)
  obtain rfl := Value.string.inj (h .guard)
  rfl

theorem text?_eq_some_iff {v : Value} {s : String} : text? v = some s ↔ v = .string s := by
  cases v <;> simp [text?]

theorem seconds?_eq_some_iff {v : Value} {n : Nat} : seconds? v = some n ↔ v = .integer n := by
  cases v with
  | integer i =>
      simp only [seconds?, Option.ite_none_right_eq_some, Option.some.injEq, Value.integer.injEq]
      omega
  | _ => simp [seconds?]

/-! ## A section of keys -/

section Fields

variable {α β : Type} {fields : List (Field α)} {entries : Table} {s s' : α} {key : String}

/-- A part of the section belongs to the key: a value for the key is read as the part, and a value
for any other key leaves the part as it is. -/
def Owns (fields : List (Field α)) (key : String) (part : α → β) (read : Value → Option β) : Prop :=
  ∀ f ∈ fields, ∀ v s s', f.set v s = some s' →
    (f.key = key → read v = some (part s')) ∧ (f.key ≠ key → part s' = part s)

variable {part : α → β} {read : Value → Option β}

theorem Owns.setKey (h : Owns fields key part read) {entry : String × Value}
    (hset : setKey fields s entry = some s') :
    (entry.1 = key → read entry.2 = some (part s')) ∧ (entry.1 ≠ key → part s' = part s) := by
  unfold Settings.setKey at hset
  split at hset
  next => cases hset
  next f hfound =>
    have hkey : f.key = entry.1 := by simpa using List.find?_some hfound
    rw [← hkey]
    exact h f (List.mem_of_find?_eq_some hfound) _ _ _ hset

/-- With distinct keys the value under the key decides alone. -/
theorem Owns.foldlM (h : Owns fields key part read) (hdistinct : (entries.map Prod.fst).Nodup)
    (hset : entries.foldlM (Settings.setKey fields) s = some s') :
    (∀ v, entries.lookup key = some v → read v = some (part s')) ∧
      (entries.lookup key = none → part s' = part s) := by
  induction entries generalizing s with
  | nil =>
      cases hset
      simp
  | cons e entries ih =>
      obtain ⟨name, v⟩ := e
      rw [List.map_cons, List.nodup_cons] at hdistinct
      rw [List.foldlM_cons] at hset
      obtain ⟨between, hfirst, hset⟩ := Option.bind_eq_some_iff.mp hset
      obtain ⟨hread, hkept⟩ := h.setKey hfirst
      obtain ⟨hreadRest, hkeptRest⟩ := ih hdistinct.2 hset
      by_cases hname : name = key
      · -- The key does not come again, so what was read stays.
        subst hname
        rw [List.lookup_cons_self, hkeptRest (lookup_eq_none_of_not_mem hdistinct.1)]
        simpa using hread rfl
      · have hne : (key == name) = false := by simpa using Ne.symm hname
        rw [List.lookup_cons, hne, ← hkept hname]
        exact ⟨hreadRest, hkeptRest⟩

theorem setKey_cons (f : Field α) (fields : List (Field α)) (s : α) (entry : String × Value) :
    setKey (f :: fields) s entry =
      if f.key = entry.1 then f.set entry.2 s else setKey fields s entry := by
  unfold setKey
  by_cases hkey : f.key = entry.1
  · simp [hkey]
  · simp [hkey, List.find?_cons_of_neg]

theorem isSome_setKey (hdistinct : (fields.map Field.key).Nodup) (s : α) (entry : String × Value) :
    (setKey fields s entry).isSome = true ↔
      ∃ f ∈ fields, f.key = entry.1 ∧ (f.set entry.2 s).isSome = true := by
  induction fields with
  | nil => simp [setKey]
  | cons f fields ih =>
      rw [List.map_cons, List.nodup_cons] at hdistinct
      rw [setKey_cons]
      simp only [List.mem_cons, exists_eq_or_imp]
      by_cases hkey : f.key = entry.1
      · have hother : ∀ g ∈ fields, g.key ≠ entry.1 := fun g hg heq =>
          hdistinct.1 (List.mem_map.mpr ⟨g, hg, heq.trans hkey.symm⟩)
        simp only [hkey, if_true, true_and]
        constructor
        · exact Or.inl
        · rintro (h | ⟨g, hg, heq, _⟩)
          · exact h
          · exact absurd heq (hother g hg)
      · simp [hkey, ih hdistinct.2]

/-- Keys are accepted one by one, if what is accepted does not depend on the section so far. -/
theorem isSome_foldlM {accepted : String × Value → Prop}
    (h : ∀ e ∈ entries, ∀ s, (setKey fields s e).isSome = true ↔ accepted e) :
    (entries.foldlM (setKey fields) s).isSome = true ↔ ∀ e ∈ entries, accepted e := by
  induction entries generalizing s with
  | nil => simp
  | cons e entries ih =>
      rw [List.forall_mem_cons] at h
      rw [List.foldlM_cons, List.forall_mem_cons, ← h.1 s]
      cases hset : setKey fields s e with
      | none => simp
      | some between => simpa using ih h.2

end Fields

/-! ## The sections -/

section Sections

theorem set_reading {α β : Type} {key : String} {read : Value → Option β} {put : β → α → α}
    {v : Value} {s s' : α} :
    (Field.reading key read put).set v s = some s' ↔ ∃ x, read v = some x ∧ put x s = s' :=
  Option.map_eq_some_iff

@[simp] theorem key_reading {α β : Type} (key : String) (read : Value → Option β)
    (put : β → α → α) : (Field.reading key read put).key = key := rfl

theorem isSome_reading {α β : Type} {key : String} {read : Value → Option β} {put : β → α → α}
    {v : Value} {s : α} :
    ((Field.reading key read put).set v s).isSome = true ↔ (read v).isSome = true := by
  simp [Field.reading]

theorem isSome_text?_iff {v : Value} : (text? v).isSome = true ↔ ∃ s, v = .string s := by
  simp only [Option.isSome_iff_exists, text?_eq_some_iff]

theorem isSome_seconds?_iff {v : Value} : (seconds? v).isSome = true ↔ ∃ n : Nat, v = .integer n := by
  simp only [Option.isSome_iff_exists, seconds?_eq_some_iff]

/-- The entry of a section has a known key and a value of its kind. -/
def Known (heading : String) (entry : String × Value) : Prop :=
  ∃ key : Key, key.heading = heading ∧ key.name = entry.1 ∧ key.Fits entry.2

/-- The keys of the fields are those of the section, with values of their kinds. -/
def Covers {α : Type} (heading : String) (fields : List (Field α)) : Prop :=
  ∀ s e, (setKey fields s e).isSome = true ↔ Known heading e

theorem covers_tool : Covers "tool" toolFields := by
  intro s e
  rw [isSome_setKey (by decide)]
  simp [toolFields, isSome_reading, isSome_text?_iff, isSome_seconds?_iff, Known, Key.exists_iff,
    Key.heading, Key.name, Key.Fits]

theorem covers_mediator : Covers "mediator" mediatorFields := by
  intro s e
  rw [isSome_setKey (by decide)]
  simp [mediatorFields, isSome_reading, isSome_text?_iff, isSome_seconds?_iff, Known,
    Key.exists_iff, Key.heading, Key.name, Key.Fits]

theorem covers_paths : Covers "paths" pathFields := by
  intro s e
  rw [isSome_setKey (by decide)]
  simp [pathFields, isSome_reading, isSome_text?_iff, Known, Key.exists_iff, Key.heading,
    Key.name, Key.Fits]

theorem covers_partitions : Covers "partitions" partitionFields := by
  intro s e
  rw [isSome_setKey (by decide)]
  simp [partitionFields, isSome_reading, isSome_text?_iff, Known, Key.exists_iff, Key.heading,
    Key.name, Key.Fits]

theorem Covers.isSome_section? {α : Type} {heading : String} {fields : List (Field α)}
    (h : Covers heading fields) (defaults : α) (entries : Table) :
    (section? fields defaults (.table entries)).isSome = true ↔
      ∀ e ∈ entries, Known heading e :=
  isSome_foldlM fun e _ s => h s e

end Sections

/-! ## The document -/

/-- The tree of a document all of whose entries are sections. -/
structure Document (table : Table) : Prop where
  wellFormed : (Value.table table).WellFormed
  sections : ∀ e ∈ table, ∃ entries, e.2 = .table entries

/-- The document has the entry in the section. -/
def Holds (table : Table) (heading : String) (entry : String × Value) : Prop :=
  ∃ entries, (heading, .table entries) ∈ table ∧ entry ∈ entries

/-- The value that a document gives to a key. -/
def given? (table : Table) (key : Key) : Option Value :=
  match table.lookup key.heading with
  | some (.table entries) => entries.lookup key.name
  | _ => none

/-- The sections are known, and so is every key in each of them, with a value of its kind. -/
structure Accepted (table : Table) : Prop where
  heading : ∀ e ∈ table, e.1 ∈ headings
  known : ∀ heading entry, Holds table heading entry → Known heading entry

section Table

variable {table : Table} {s : Settings}

theorem Document.keys (h : Document table) : (table.map Prod.fst).Nodup := by
  cases h.wellFormed with
  | table hkeys hentries => exact hkeys

theorem Document.keys_section (h : Document table) {heading : String} {entries : Table}
    (hsection : (heading, .table entries) ∈ table) : (entries.map Prod.fst).Nodup := by
  cases h.wellFormed with
  | table _ hentries =>
      cases hentries _ hsection with
      | table hkeys _ => exact hkeys

theorem isSome_setKey_sections (s : Settings) (heading : String) (entries : Table) :
    (setKey sections s (heading, .table entries)).isSome = true ↔
      heading ∈ headings ∧ ∀ entry ∈ entries, Known heading entry := by
  rw [isSome_setKey (by decide)]
  simp only [sections, List.mem_cons, List.not_mem_nil, or_false, exists_eq_or_imp, exists_eq_left,
    key_reading, isSome_reading, covers_tool.isSome_section?, covers_mediator.isSome_section?,
    covers_paths.isSome_section?, covers_partitions.isSome_section?, headings]
  constructor
  · rintro (⟨rfl, h⟩ | ⟨rfl, h⟩ | ⟨rfl, h⟩ | ⟨rfl, h⟩) <;> exact ⟨by simp, h⟩
  · rintro ⟨rfl | rfl | rfl | rfl, h⟩ <;> simpa using h

theorem isSome_ofTable? (h : Document table) :
    (ofTable? table).isSome = true ↔ Accepted table := by
  have haccepted : (ofTable? table).isSome = true ↔
      ∀ e ∈ table, e.1 ∈ headings ∧
        ∀ entries, e.2 = .table entries → ∀ entry ∈ entries, Known e.1 entry := by
    refine isSome_foldlM fun e he s => ?_
    obtain ⟨entries, hentries⟩ := h.sections e he
    obtain ⟨heading, v⟩ := e
    subst hentries
    rw [isSome_setKey_sections]
    simp
  rw [haccepted]
  constructor
  · refine fun hall => ⟨fun e he => (hall e he).1, ?_⟩
    rintro heading entry ⟨entries, hsection, hentry⟩
    exact (hall _ hsection).2 entries rfl entry hentry
  · exact fun hall e he => ⟨hall.heading e he,
      fun entries heq entry hentry => hall.known e.1 entry ⟨entries, heq ▸ he, hentry⟩⟩

theorem owns_tool : Owns sections "tool" Settings.tool (section? toolFields {}) := by
  simp [Owns, sections, set_reading]

theorem owns_mediator :
    Owns sections "mediator" Settings.mediator (section? mediatorFields {}) := by
  simp [Owns, sections, set_reading]

theorem owns_paths : Owns sections "paths" Settings.paths (section? pathFields {}) := by
  simp [Owns, sections, set_reading]

theorem owns_partitions :
    Owns sections "partitions" Settings.partitions (section? partitionFields {}) := by
  simp [Owns, sections, set_reading]

/-- The field of a key in a section has the value that the document gives to the key, or else its
default. -/
theorem value_in_section {α : Type} {fields : List (Field α)} {chosen : Settings → α}
    {heading : String} (h : Document table) (hset : ofTable? table = some s)
    (hsection : Owns sections heading chosen (section? fields (chosen {}))) (key : Key)
    (part : α → Value) (hkey : key.heading = heading) (hpart : Owns fields key.name part some) :
    part (chosen s) = (given? table key).getD (part (chosen {})) := by
  obtain ⟨hread, hkept⟩ := hsection.foldlM h.keys hset
  unfold given?
  rw [hkey]
  cases hfound : table.lookup heading with
  | none =>
      rw [hkept hfound]
      rfl
  | some v =>
      obtain ⟨entries, rfl⟩ : ∃ entries, v = .table entries := h.sections _ (mem_of_lookup hfound)
      have hentries : entries.foldlM (setKey fields) (chosen {}) = some (chosen s) :=
        hread _ hfound
      obtain ⟨hreadPart, hkeptPart⟩ :=
        hpart.foldlM (h.keys_section (mem_of_lookup hfound)) hentries
      show part (chosen s) = (entries.lookup key.name).getD _
      cases hvalue : entries.lookup key.name with
      | none => rw [hkeptPart hvalue, Option.getD_none]
      | some v => rw [Option.getD_some, Option.some.inj (hreadPart v hvalue)]

/-- What a document gives to a key goes into the field of the key, and nothing else does. -/
theorem value_of_ofTable? (h : Document table) (hset : ofTable? table = some s) (key : Key) :
    s.value key = (given? table key).getD (({} : Settings).value key) := by
  have htool := value_in_section h hset owns_tool
  have hmediator := value_in_section h hset owns_mediator
  have hpaths := value_in_section h hset owns_paths
  have hpartitions := value_in_section h hset owns_partitions
  cases key with
  | program =>
      refine htool .program (fun t => .string t.program) rfl ?_
      simp [Owns, toolFields, set_reading, text?_eq_some_iff, Key.name]
  | runTimeout =>
      refine htool .runTimeout (fun t => .integer t.timeoutSeconds) rfl ?_
      simp [Owns, toolFields, set_reading, seconds?_eq_some_iff, Key.name]
  | busClient =>
      refine hmediator .busClient (fun t => .string t.busClient) rfl ?_
      simp [Owns, mediatorFields, set_reading, text?_eq_some_iff, Key.name]
  | service =>
      refine hmediator .service (fun t => .string t.service) rfl ?_
      simp [Owns, mediatorFields, set_reading, text?_eq_some_iff, Key.name]
  | object =>
      refine hmediator .object (fun t => .string t.object) rfl ?_
      simp [Owns, mediatorFields, set_reading, text?_eq_some_iff, Key.name]
  | interface =>
      refine hmediator .interface (fun t => .string t.interface) rfl ?_
      simp [Owns, mediatorFields, set_reading, text?_eq_some_iff, Key.name]
  | callTimeout =>
      refine hmediator .callTimeout (fun t => .integer t.timeoutSeconds) rfl ?_
      simp [Owns, mediatorFields, set_reading, seconds?_eq_some_iff, Key.name]
  | software =>
      refine hpaths .software (fun t => .string t.software) rfl ?_
      simp [Owns, pathFields, set_reading, text?_eq_some_iff, Key.name]
  | hostInventory =>
      refine hpaths .hostInventory (fun t => .string t.hostInventory) rfl ?_
      simp [Owns, pathFields, set_reading, text?_eq_some_iff, Key.name]
  | version =>
      refine hpartitions .version (fun t => .string t.version) rfl ?_
      simp [Owns, partitionFields, set_reading, text?_eq_some_iff, Key.name]
  | guard =>
      refine hpartitions .guard (fun t => .string t.guard) rfl ?_
      simp [Owns, partitionFields, set_reading, text?_eq_some_iff, Key.name]

theorem given?_eq_some_iff (h : Document table) {key : Key} {v : Value} :
    given? table key = some v ↔ Holds table key.heading (key.name, v) := by
  constructor
  · intro hgiven
    unfold given? at hgiven
    split at hgiven
    next entries hfound => exact ⟨entries, mem_of_lookup hfound, mem_of_lookup hgiven⟩
    next => cases hgiven
  · rintro ⟨entries, hsection, hentry⟩
    unfold given?
    rw [(lookup_eq_some_iff_mem h.keys).mpr hsection]
    exact (lookup_eq_some_iff_mem (h.keys_section hsection)).mpr hentry

theorem ofTable_eq_ok_iff : ofTable table = .ok s ↔ ofTable? table = some s := by
  unfold ofTable
  cases ofTable? table <;> simp

theorem isOk_ofTable (h : Document table) : (∃ s, ofTable table = .ok s) ↔ Accepted table := by
  rw [← isSome_ofTable? h, Option.isSome_iff_exists]
  simp only [ofTable_eq_ok_iff]

theorem ofTable_of_not_accepted (h : Document table) (hrefused : ¬ Accepted table) :
    ofTable table = .error (.malformedSettings "unknown key or invalid value") := by
  rw [← isSome_ofTable? h, Option.not_isSome_iff_eq_none] at hrefused
  rw [ofTable, hrefused]

theorem malformed_of_ofTable {failure : Failure} (hfailed : ofTable table = .error failure) :
    ∃ reason, failure = .malformedSettings reason := by
  unfold ofTable at hfailed
  split at hfailed
  next => cases hfailed
  next =>
    cases hfailed
    exact ⟨_, rfl⟩

end Table

/-! ## The order of a document -/

/-- Two documents have the same sections with the same entries, each in an order of its own. -/
structure SameContents (table table' : Table) : Prop where
  heading : ∀ heading, heading ∈ table.map Prod.fst ↔ heading ∈ table'.map Prod.fst
  entry : ∀ heading entry, Holds table heading entry ↔ Holds table' heading entry

section Order

variable {table table' : Table}

/-- Sections can come in any order. -/
theorem SameContents.of_perm (hperm : table.Perm table') : SameContents table table' := by
  constructor
  · exact fun _ => (hperm.map Prod.fst).mem_iff
  · intro heading entry
    simp only [Holds, hperm.mem_iff]

theorem SameContents.accepted_iff (h : SameContents table table') :
    Accepted table ↔ Accepted table' := by
  have haccepted (t : Table) : Accepted t ↔ (∀ heading ∈ t.map Prod.fst, heading ∈ headings) ∧
      ∀ heading entry, Holds t heading entry → Known heading entry := by
    rw [List.forall_mem_map]
    exact ⟨fun ha => ⟨ha.heading, ha.known⟩, fun ha => ⟨ha.1, ha.2⟩⟩
  simp only [haccepted, h.heading, h.entry]

theorem SameContents.given? (h : SameContents table table') (ht : Document table)
    (ht' : Document table') (key : Key) : given? table key = given? table' key := by
  apply Option.ext
  intro v
  rw [given?_eq_some_iff ht, given?_eq_some_iff ht', h.entry]

theorem SameContents.ofTable (h : SameContents table table') (ht : Document table)
    (ht' : Document table') : ofTable table = ofTable table' := by
  by_cases haccepted : Accepted table
  · obtain ⟨s, hs⟩ := (isOk_ofTable ht).mpr haccepted
    obtain ⟨s', hs'⟩ := (isOk_ofTable ht').mpr (h.accepted_iff.mp haccepted)
    have heq : s = s' := eq_of_value fun key => by
      rw [value_of_ofTable? ht (ofTable_eq_ok_iff.mp hs),
        value_of_ofTable? ht' (ofTable_eq_ok_iff.mp hs'), h.given? ht ht']
    rw [hs, hs', heq]
  · rw [ofTable_of_not_accepted ht haccepted,
      ofTable_of_not_accepted ht' (haccepted ∘ h.accepted_iff.mpr)]

end Order

/-! ## Some of the values of settings -/

/-- A document holds the values of the chosen keys and no others. Of the sections, those without
any such key can be there or not. -/
structure Excerpt (s : Settings) (chosen : Key → Bool) (table : Table) : Prop
    extends Document table where
  heading : ∀ e ∈ table, e.1 ∈ headings
  entry : ∀ heading entry, Holds table heading entry ↔
    ∃ key, chosen key = true ∧ key.heading = heading ∧ (key.name, s.value key) = entry

/-- The deadlines fit into the integers of a document. -/
structure Expressible (s : Settings) : Prop where
  run : (s.tool.timeoutSeconds : Int) ≤ Int64.maxValue.toInt
  call : (s.mediator.timeoutSeconds : Int) ≤ Int64.maxValue.toInt

/-- The values of the chosen keys in a section. -/
def excerptSection (s : Settings) (chosen : Key → Bool) (heading : String) : Table :=
  (Key.all.filter fun key => chosen key && key.heading == heading).map fun key =>
    (key.name, s.value key)

/-- Such a document, with every section. -/
def excerpt (s : Settings) (chosen : Key → Bool) : Table :=
  headings.map fun heading => (heading, .table (s.excerptSection chosen heading))

section Excerpts

variable {s : Settings} {chosen : Key → Bool} {table : Table}

theorem Excerpt.accepted (h : Excerpt s chosen table) : Accepted table := by
  refine ⟨h.heading, fun heading entry hholds => ?_⟩
  obtain ⟨key, _, rfl, rfl⟩ := (h.entry heading entry).mp hholds
  exact ⟨key, rfl, rfl, s.value_fits key⟩

theorem Excerpt.given? (h : Excerpt s chosen table) (key : Key) :
    given? table key = if chosen key then some (s.value key) else none := by
  apply Option.ext
  intro v
  rw [given?_eq_some_iff h.toDocument, h.entry]
  constructor
  · rintro ⟨key', hchosen, hheading, heq⟩
    obtain ⟨hname, rfl⟩ := Prod.mk.inj heq
    obtain rfl := Key.eq_of_name hheading hname
    rw [if_pos hchosen]
  · intro hgiven
    obtain ⟨hchosen, heq⟩ := Option.ite_none_right_eq_some.mp hgiven
    cases heq
    exact ⟨key, hchosen, rfl, rfl⟩

theorem wellFormed_value (h : s.Expressible) (key : Key) : (s.value key).WellFormed := by
  have hleast : Int64.minValue.toInt ≤ 0 := by decide
  cases key with
  | runTimeout => exact .integer (Int.le_trans hleast (Int.natCast_nonneg _)) h.run
  | callTimeout => exact .integer (Int.le_trans hleast (Int.natCast_nonneg _)) h.call
  | _ => exact .string _

theorem mem_excerptSection {heading : String} {entry : String × Value} :
    entry ∈ s.excerptSection chosen heading ↔
      ∃ key, chosen key = true ∧ key.heading = heading ∧ (key.name, s.value key) = entry := by
  simp [excerptSection, Key.mem_all, and_assoc]

theorem keys_excerptSection (s : Settings) (chosen : Key → Bool) (heading : String) :
    ((s.excerptSection chosen heading).map Prod.fst).Nodup := by
  unfold excerptSection
  rw [List.map_map]
  refine List.Nodup.map_on ?_ (List.Nodup.filter _ (by decide))
  intro key hkey key' hkey' hname
  simp only [List.mem_filter, Bool.and_eq_true, beq_iff_eq] at hkey hkey'
  exact Key.eq_of_name (hkey.2.2.trans hkey'.2.2.symm) hname

theorem holds_excerpt {heading : String} {entry : String × Value} :
    Holds (s.excerpt chosen) heading entry ↔
      ∃ key, chosen key = true ∧ key.heading = heading ∧ (key.name, s.value key) = entry := by
  rw [← mem_excerptSection]
  constructor
  · rintro ⟨entries, hsection, hentry⟩
    obtain ⟨_, _, heq⟩ := List.mem_map.mp hsection
    cases heq
    exact hentry
  · intro hentry
    obtain ⟨key, _, rfl, _⟩ := mem_excerptSection.mp hentry
    refine ⟨_, List.mem_map.mpr ⟨key.heading, ?_, rfl⟩, hentry⟩
    cases key <;> decide

theorem excerpt_excerpt (h : s.Expressible) (chosen : Key → Bool) :
    Excerpt s chosen (s.excerpt chosen) := by
  have hsection (heading : String) :
      (Value.table (s.excerptSection chosen heading)).WellFormed := by
    refine .table (keys_excerptSection s chosen heading) fun entry hentry => ?_
    obtain ⟨key, _, _, rfl⟩ := mem_excerptSection.mp hentry
    exact wellFormed_value h key
  constructor
  case toDocument =>
    constructor
    · refine .table ?_ (List.forall_mem_map.mpr fun heading _ => hsection heading)
      have hheadings : headings.Nodup := by decide
      simpa [excerpt, Function.comp_def] using hheadings
    · exact List.forall_mem_map.mpr fun _ _ => ⟨_, rfl⟩
  case heading => exact List.forall_mem_map.mpr fun _ hheading => hheading
  case entry => exact fun _ _ => holds_excerpt

end Excerpts

/-! ## The settings of a document -/

/-- Decoding takes exactly the documents with known keys and values of their kinds, and then each
field has what the document gives to its key, or else its default, in whatever order that stands.
So some of the values of settings are decoded to those values over the defaults. The tree of a
text is such a document if its sections are tables. -/
theorem ofText_overrides :
    (∀ table, Document table →
      ((∃ s, ofTable table = .ok s) ↔ Accepted table) ∧
      (∀ s, ofTable table = .ok s →
        ∀ key, s.value key = (given? table key).getD (({} : Settings).value key)) ∧
      (∀ failure, ofTable table = .error failure →
        ∃ reason, failure = .malformedSettings reason) ∧
      ∀ table', Document table' → SameContents table table' → ofTable table = ofTable table') ∧
    (∀ (s : Settings) (chosen : Key → Bool), s.Expressible →
      Excerpt s chosen (s.excerpt chosen) ∧
      ∀ table, Excerpt s chosen table → ∃ s', ofTable table = .ok s' ∧
        ∀ key, s'.value key = if chosen key then s.value key else ({} : Settings).value key) ∧
    (∀ text table, Toml.parse text = some table →
      (∀ e ∈ table, ∃ entries, e.2 = .table entries) →
      Document table ∧ ofText text = ofTable table) := by
  refine ⟨?_, ?_, ?_⟩
  · exact fun table h => ⟨isOk_ofTable h,
      fun s hs key => value_of_ofTable? h (ofTable_eq_ok_iff.mp hs) key,
      fun _ hfailed => malformed_of_ofTable hfailed,
      fun table' h' hsame => hsame.ofTable h h'⟩
  · refine fun s chosen hs => ⟨excerpt_excerpt hs chosen, ?_⟩
    intro table h
    obtain ⟨s', hs'⟩ := (isOk_ofTable h.toDocument).mpr h.accepted
    refine ⟨s', hs', fun key => ?_⟩
    rw [value_of_ofTable? h.toDocument (ofTable_eq_ok_iff.mp hs'), h.given?]
    split
    next => rfl
    next => rfl
  · intro text table hparse hsections
    refine ⟨⟨Toml.wellFormed_of_parse hparse, hsections⟩, ?_⟩
    rw [ofText, hparse]

/-- A deadline for calls alone, with two sections in the other order. -/
theorem ofText_overrides_callTimeout :
    ∃ s, ofText "[mediator]\ntimeout_secs = 5\n[tool]\n[paths]\n[partitions]\n" = .ok s ∧
      s.value .callTimeout = .integer 5 ∧ s.value .runTimeout = .integer 600 := by
  obtain ⟨hdocument, htext⟩ := ofText_overrides.2.2
    "[mediator]\ntimeout_secs = 5\n[tool]\n[paths]\n[partitions]\n"
    [("mediator", .table [("timeout_secs", .integer 5)]), ("tool", .table []),
      ("paths", .table []), ("partitions", .table [])] (by cbv) (by simp)
  obtain ⟨hexcerpt, hdecoded⟩ := ofText_overrides.2.1
    { mediator := { timeoutSeconds := 5 } } (· == .callTimeout) ⟨by decide, by decide⟩
  obtain ⟨s, hs, hvalue⟩ := hdecoded _ hexcerpt
  have horder := (ofText_overrides.1 _ hdocument).2.2.2 _ hexcerpt.toDocument
    (.of_perm (.swap _ _ _))
  exact ⟨s, htext.trans (horder.trans hs), hvalue .callTimeout, hvalue .runTimeout⟩

end HostFlash.Settings
