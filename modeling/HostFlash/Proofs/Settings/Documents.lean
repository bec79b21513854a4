import HostFlash.Proofs.Lookup
import HostFlash.Toml.Document

/-!
# Trees of documents

In the tree of a document the keys of every table are distinct and every integer fits into 64 bits.
Whatever `parse` gives is such a tree: a key is put into a draft only where it is new or in place of
itself, and an integer that does not fit is refused.
-/

namespace HostFlash.Toml

/-- A value as a document can hold it. -/
inductive Value.WellFormed : Value → Prop where
  | string (s : String) : WellFormed (.string s)
  | integer {n : Int} (hleast : Int64.minValue.toInt ≤ n) (hgreatest : n ≤ Int64.maxValue.toInt) :
      WellFormed (.integer n)
  | float (text : String) : WellFormed (.float text)
  | boolean (b : Bool) : WellFormed (.boolean b)
  | date (text : String) : WellFormed (.date text)
  | array {items : List Value} (hitems : ∀ v ∈ items, WellFormed v) : WellFormed (.array items)
  | table {entries : Table} (hkeys : (entries.map Prod.fst).Nodup)
      (hentries : ∀ e ∈ entries, WellFormed e.2) : WellFormed (.table entries)

/-- A part of a document that becomes such a value. -/
inductive Draft.WellFormed : Draft → Prop where
  | value {v : Value} (hv : v.WellFormed) : WellFormed (.value v)
  | table {origin : Origin} {entries : DraftTable} (hkeys : (entries.map Prod.fst).Nodup)
      (hentries : ∀ e ∈ entries, WellFormed e.2) : WellFormed (.table origin entries)
  | tables {elements : List DraftTable} (hkeys : ∀ t ∈ elements, (t.map Prod.fst).Nodup)
      (helements : ∀ t ∈ elements, ∀ e ∈ t, WellFormed e.2) : WellFormed (.tables elements)

/-- Entries of such a part. -/
structure DraftTable.WellFormed (t : DraftTable) : Prop where
  keys : (t.map Prod.fst).Nodup
  entries : ∀ e ∈ t, Draft.WellFormed e.2

/-! ## Frozen drafts -/

namespace Draft

theorem freezeTable_eq_map (t : DraftTable) :
    freezeTable t = t.map fun e => (e.1, e.2.freeze) := by
  induction t with
  | nil => rfl
  | cons e rest ih => rw [freezeTable, ih, List.map_cons]

theorem freezeTables_eq_map (elements : List DraftTable) :
    freezeTables elements = elements.map fun t => .table (freezeTable t) := by
  induction elements with
  | nil => rfl
  | cons t rest ih => rw [freezeTables, ih, List.map_cons]

theorem keys_freezeTable (t : DraftTable) :
    (freezeTable t).map Prod.fst = t.map Prod.fst := by
  rw [freezeTable_eq_map, List.map_map]
  rfl

theorem WellFormed.freeze {d : Draft} (h : d.WellFormed) : d.freeze.WellFormed := by
  induction h with
  | value hv => exact hv
  | @table origin entries hkeys hentries ih =>
      refine .table (by rwa [keys_freezeTable]) ?_
      rw [freezeTable_eq_map, List.forall_mem_map]
      exact ih
  | @tables elements hkeys helements ih =>
      refine .array ?_
      rw [freezeTables_eq_map, List.forall_mem_map]
      intro t ht
      refine .table (by rw [keys_freezeTable]; exact hkeys t ht) ?_
      rw [freezeTable_eq_map, List.forall_mem_map]
      exact ih t ht

end Draft

/-! ## Changes of a draft -/

namespace DraftTable

variable {t t' : DraftTable} {key : String} {d : Draft} {path : List String}

theorem wellFormed_nil : WellFormed [] := ⟨List.nodup_nil, fun _ he => nomatch he⟩

theorem WellFormed.of_lookup (h : WellFormed t) (hfound : t.lookup key = some d) : d.WellFormed :=
  h.entries _ (mem_of_lookup hfound)

theorem WellFormed.draft {origin : Origin} (h : WellFormed t) :
    Draft.WellFormed (.table origin t) :=
  .table h.keys h.entries

/-- The entries of a table in braces become a table at once. -/
theorem WellFormed.freeze (h : WellFormed t) : (Value.table (Draft.freezeTable t)).WellFormed := by
  have hdraft : Draft.WellFormed (.table .dotted t) := h.draft
  exact hdraft.freeze

theorem wellFormed_of_draft {origin : Origin} (h : Draft.WellFormed (.table origin t)) :
    WellFormed t := by
  cases h with
  | table hkeys hentries => exact ⟨hkeys, hentries⟩

theorem wellFormed_of_tables {elements : List DraftTable}
    (h : Draft.WellFormed (.tables elements)) : ∀ t ∈ elements, WellFormed t := by
  cases h with
  | tables hkeys helements => exact fun t ht => ⟨hkeys t ht, helements t ht⟩

theorem draft_tables {elements : List DraftTable} (h : ∀ t ∈ elements, WellFormed t) :
    Draft.WellFormed (.tables elements) :=
  .tables (fun t ht => (h t ht).keys) fun t ht => (h t ht).entries

/-- A key that is there keeps its place, and one that is not comes last. -/
theorem WellFormed.put (h : WellFormed t) (hd : d.WellFormed) (key : String) :
    WellFormed (t.put key d) := by
  unfold DraftTable.put
  split
  next =>
    constructor
    · have hkeys : (t.map fun e => if e.1 == key then (key, d) else e).map Prod.fst =
          t.map Prod.fst := by
        rw [List.map_map]
        refine List.map_congr_left fun e _ => ?_
        by_cases hkey : e.1 = key
        · simp [hkey]
        · simp [hkey]
      rw [hkeys]
      exact h.keys
    · rw [List.forall_mem_map]
      intro e he
      by_cases hkey : e.1 = key
      · simpa [hkey] using hd
      · simpa [hkey] using h.entries e he
  next hnew =>
    constructor
    · rw [List.map_append, List.map_singleton]
      refine List.nodup_append.mpr ⟨h.keys, List.pairwise_singleton _ _, ?_⟩
      intro key' hkey' last hlast
      obtain ⟨e, he, rfl⟩ := List.mem_map.mp hkey'
      rw [List.mem_singleton.mp hlast]
      exact fun heq => hnew (List.any_eq_true.mpr ⟨e, he, beq_iff_eq.mpr heq⟩)
    · rw [List.forall_mem_append]
      exact ⟨h.entries, by simpa using hd⟩

/-- The table that a change for the last of several tables leaves. -/
theorem wellFormed_elements {elements : List DraftTable} (h : ∀ t ∈ elements, WellFormed t)
    (ht : WellFormed t) : Draft.WellFormed (.tables (elements.dropLast ++ [t])) := by
  refine draft_tables (List.forall_mem_append.mpr ⟨?_, by simpa using ht⟩)
  exact fun t ht => h t (List.dropLast_subset elements ht)

theorem wellFormed_last {elements : List DraftTable} (h : ∀ t ∈ elements, WellFormed t) :
    WellFormed (elements.getLast?.getD []) := by
  cases hlast : elements.getLast? with
  | none => exact wellFormed_nil
  | some t => exact h t (List.mem_of_getLast? hlast)

theorem WellFormed.below {change : DraftTable → Option DraftTable}
    (hchange : ∀ {s s'}, WellFormed s → change s = some s' → WellFormed s') (h : WellFormed t)
    (hbelow : below change path t = some t') : WellFormed t' := by
  induction path generalizing t t' with
  | nil => exact hchange h hbelow
  | cons step path ih =>
      rw [DraftTable.below] at hbelow
      split at hbelow
      next =>
        obtain ⟨sub, hsub, rfl⟩ := Option.map_eq_some_iff.mp hbelow
        exact h.put (ih wellFormed_nil hsub).draft step
      next origin sub hfound =>
        obtain ⟨sub', hsub, rfl⟩ := Option.map_eq_some_iff.mp hbelow
        exact h.put (ih (wellFormed_of_draft (h.of_lookup hfound)) hsub).draft step
      next elements hfound =>
        obtain ⟨sub, hsub, rfl⟩ := Option.map_eq_some_iff.mp hbelow
        have helements := wellFormed_of_tables (h.of_lookup hfound)
        exact h.put (wellFormed_elements helements (ih (wellFormed_last helements) hsub)) step
      next => cases hbelow

theorem WellFormed.openTable (h : WellFormed t) (hopen : openTable key t = some t') :
    WellFormed t' := by
  unfold DraftTable.openTable at hopen
  split at hopen
  next =>
    cases hopen
    exact h.put wellFormed_nil.draft key
  next sub hfound =>
    cases hopen
    exact h.put (wellFormed_of_draft (h.of_lookup hfound)).draft key
  next => cases hopen

theorem WellFormed.openElement (h : WellFormed t) (hopen : openElement key t = some t') :
    WellFormed t' := by
  unfold DraftTable.openElement at hopen
  split at hopen
  next =>
    cases hopen
    exact h.put (draft_tables (by simpa using wellFormed_nil)) key
  next elements hfound =>
    cases hopen
    refine h.put (draft_tables (List.forall_mem_append.mpr ⟨?_, ?_⟩)) key
    · exact wellFormed_of_tables (h.of_lookup hfound)
    · simpa using wellFormed_nil
  next => cases hopen

theorem WellFormed.assign {v : Value} (h : WellFormed t) (hv : v.WellFormed)
    (hassign : assign key v path t = some t') : WellFormed t' := by
  induction path generalizing t t' with
  | nil =>
      rw [DraftTable.assign] at hassign
      split at hassign
      next => cases hassign
      next =>
        cases hassign
        exact h.put (.value hv) key
  | cons step path ih =>
      rw [DraftTable.assign] at hassign
      split at hassign
      next =>
        obtain ⟨sub, hsub, rfl⟩ := Option.map_eq_some_iff.mp hassign
        exact h.put (ih wellFormed_nil hsub).draft step
      next origin sub hfound =>
        split at hassign
        next => cases hassign
        next =>
          obtain ⟨sub', hsub, rfl⟩ := Option.map_eq_some_iff.mp hassign
          exact h.put (ih (wellFormed_of_draft (h.of_lookup hfound)) hsub).draft step
      next elements hfound =>
        split at hassign
        next => cases hassign
        next =>
          obtain ⟨sub, hsub, rfl⟩ := Option.map_eq_some_iff.mp hassign
          have helements := wellFormed_of_tables (h.of_lookup hfound)
          exact h.put (wellFormed_elements helements (ih (wellFormed_last helements) hsub)) step
      next => cases hassign

theorem WellFormed.assignTo {v : Value} (h : WellFormed t) (hv : v.WellFormed)
    (hassign : assignTo t path v = some t') : WellFormed t' := by
  unfold Toml.assignTo at hassign
  split at hassign
  next => cases hassign
  next => exact h.assign hv hassign

end DraftTable

/-! ## Values that are read -/

section Reading

variable {cs rest : List Char} {v : Value} {fuel levels : Nat}

theorem wellFormed_of_fitted {n : Int} (h : fitted n = some v) : v.WellFormed := by
  unfold fitted at h
  split at h
  next hfits =>
    cases h
    simp only [Bool.and_eq_true, decide_eq_true_eq] at hfits
    exact .integer hfits.1 hfits.2
  next => cases h

theorem wellFormed_of_integer (h : integer cs = some (v, rest)) : v.WellFormed := by
  have hfitted : ∀ {n : Int} {rest' : List Char},
      ((fitted n).map fun v => (v, rest')) = some (v, rest) → v.WellFormed := by
    intro n rest' hread
    obtain ⟨v', hv', heq⟩ := Option.map_eq_some_iff.mp hread
    cases heq
    exact wellFormed_of_fitted hv'
  unfold integer at h
  dsimp only at h
  split at h
  all_goals
    obtain ⟨_, _, h⟩ := Option.bind_eq_some_iff.mp h
    obtain ⟨_, _, h⟩ := Option.bind_eq_some_iff.mp h
    exact hfitted h

theorem wellFormed_of_float (h : float cs = some (v, rest)) : v.WellFormed := by
  unfold float at h
  dsimp only at h
  split at h
  next =>
    cases h
    exact .float _
  next =>
    cases h
    exact .float _
  next =>
    obtain ⟨_, _, h⟩ := Option.bind_eq_some_iff.mp h
    obtain ⟨_, _, h⟩ := Option.bind_eq_some_iff.mp h
    obtain ⟨_, _, h⟩ := Option.bind_eq_some_iff.mp h
    obtain ⟨_, h⟩ := Option.ite_none_left_eq_some.mp h
    obtain ⟨_, h⟩ := Option.ite_none_left_eq_some.mp h
    cases h
    exact .float _

theorem wellFormed_of_date (h : date cs = some (v, rest)) : v.WellFormed := by
  obtain ⟨_, _, heq⟩ := Option.map_eq_some_iff.mp h
  cases heq
  exact .date _

theorem wellFormed_of_plainValue (h : plainValue cs = some (v, rest)) : v.WellFormed := by
  unfold plainValue at h
  obtain ⟨⟨v', rest'⟩, hread, heq⟩ := Option.map_eq_some_iff.mp h
  cases heq
  generalize cs.takeWhile isValueChar = word at hread
  split at hread
  next =>
    cases hread
    exact .boolean true
  next =>
    cases hread
    exact .boolean false
  next =>
    cases hdate : date word with
    | some read =>
        rw [hdate] at hread
        cases hread
        exact wellFormed_of_date hdate
    | none =>
        cases hfloat : float word with
        | some read =>
            rw [hdate, hfloat] at hread
            cases hread
            exact wellFormed_of_float hfloat
        | none =>
            rw [hdate, hfloat] at hread
            exact wellFormed_of_integer hread

/-- The readers of values, of the items of an array and of the entries of a table in braces, each of
which goes on with one unit of fuel less. -/
structure ReadsWellFormed (fuel : Nat) : Prop where
  value : ∀ {levels cs v rest}, value fuel levels cs = some (v, rest) → v.WellFormed
  items : ∀ {levels cs items rest}, arrayItems fuel levels cs = some (items, rest) →
    ∀ v ∈ items, Value.WellFormed v
  entries : ∀ {levels t cs t' rest}, DraftTable.WellFormed t →
    inlineEntries fuel levels t cs = some (t', rest) → DraftTable.WellFormed t'

theorem ReadsWellFormed.value_succ (h : ReadsWellFormed fuel)
    (hread : Toml.value (fuel + 1) levels cs = some (v, rest)) : v.WellFormed := by
  rw [Toml.value.eq_def] at hread
  dsimp only at hread
  split at hread
  next =>
    split at hread
    next => cases hread
    next =>
      obtain ⟨_, hitems, heq⟩ := Option.map_eq_some_iff.mp hread
      cases heq
      exact .array (h.items hitems)
  next =>
    split at hread
    next => cases hread
    next =>
      split at hread
      next =>
        cases hread
        exact .table List.nodup_nil fun _ he => nomatch he
      next =>
        obtain ⟨_, hentries, heq⟩ := Option.map_eq_some_iff.mp hread
        cases heq
        exact (h.entries DraftTable.wellFormed_nil hentries).freeze
  next =>
    obtain ⟨_, _, heq⟩ := Option.map_eq_some_iff.mp hread
    cases heq
    exact .string _
  next =>
    obtain ⟨_, _, heq⟩ := Option.map_eq_some_iff.mp hread
    cases heq
    exact .string _
  next => exact wellFormed_of_plainValue hread

theorem ReadsWellFormed.items_succ (h : ReadsWellFormed fuel) {items : List Value}
    (hread : arrayItems (fuel + 1) levels cs = some (items, rest)) : ∀ v ∈ items, v.WellFormed := by
  rw [arrayItems.eq_def] at hread
  dsimp only at hread
  split at hread
  next =>
    cases hread
    exact fun _ hv => nomatch hv
  next =>
    obtain ⟨⟨v, behind⟩, hv, hread⟩ := Option.bind_eq_some_iff.mp hread
    have hfirst := h.value hv
    dsimp only at hread
    split at hread
    next =>
      obtain ⟨_, hitems, heq⟩ := Option.map_eq_some_iff.mp hread
      cases heq
      exact List.forall_mem_cons.mpr ⟨hfirst, h.items hitems⟩
    next =>
      cases hread
      simpa using hfirst
    next => cases hread

theorem ReadsWellFormed.entries_succ (h : ReadsWellFormed fuel) {t t' : DraftTable}
    (ht : t.WellFormed) (hread : inlineEntries (fuel + 1) levels t cs = some (t', rest)) :
    t'.WellFormed := by
  rw [inlineEntries.eq_def] at hread
  dsimp only at hread
  obtain ⟨⟨path, behindKey⟩, _, hread⟩ := Option.bind_eq_some_iff.mp hread
  dsimp only at hread
  split at hread
  next =>
    obtain ⟨⟨v, behindValue⟩, hv, hread⟩ := Option.bind_eq_some_iff.mp hread
    obtain ⟨added, hadded, hread⟩ := Option.bind_eq_some_iff.mp hread
    have haddedFormed := ht.assignTo (h.value hv) hadded
    dsimp only at hread
    split at hread
    next => exact h.entries haddedFormed hread
    next =>
      cases hread
      exact haddedFormed
    next => cases hread
  next => cases hread

theorem readsWellFormed (fuel : Nat) : ReadsWellFormed fuel := by
  induction fuel with
  | zero =>
      constructor
      · intro levels cs v rest hread
        rw [Toml.value.eq_def] at hread
        cases hread
      · intro levels cs items rest hread
        rw [arrayItems.eq_def] at hread
        cases hread
      · intro levels t cs t' rest _ hread
        rw [inlineEntries.eq_def] at hread
        cases hread
  | succ fuel ih => exact ⟨ih.value_succ, ih.items_succ, ih.entries_succ⟩

end Reading

/-! ## Documents -/

/-- The value of a statement is well formed, if it has one. -/
def Statement.WellFormed : Statement → Prop
  | .header _ => True
  | .repeatedHeader _ => True
  | .assignment _ v => v.WellFormed

theorem wellFormed_of_statement {fuel : Nat} {cs rest : List Char} {s : Statement}
    (h : statement fuel cs = some (s, rest)) : s.WellFormed := by
  unfold statement at h
  split at h
  next =>
    split at h
    next =>
      obtain ⟨_, _, heq⟩ := Option.map_eq_some_iff.mp h
      cases heq
      trivial
    next => cases h
  next =>
    split at h
    next =>
      obtain ⟨_, _, heq⟩ := Option.map_eq_some_iff.mp h
      cases heq
      trivial
    next => cases h
  next =>
    split at h
    next =>
      obtain ⟨⟨v, _⟩, hv, h⟩ := Option.bind_eq_some_iff.mp h
      obtain ⟨_, _, heq⟩ := Option.map_eq_some_iff.mp h
      cases heq
      exact (readsWellFormed fuel).value hv
    next => cases h

theorem wellFormed_of_statements {fuel : Nat} {cs : List Char} {parsed : List Statement}
    (h : statements fuel cs = some parsed) : ∀ s ∈ parsed, s.WellFormed := by
  induction fuel generalizing cs parsed with
  | zero => cases h
  | succ fuel ih =>
      rw [statements.eq_def] at h
      dsimp only at h
      split at h
      next =>
        cases h
        exact fun _ hs => nomatch hs
      next =>
        split at h
        next => exact ih h
        next =>
          obtain ⟨⟨s, rest⟩, hs, h⟩ := Option.bind_eq_some_iff.mp h
          obtain ⟨more, hmore, rfl⟩ := Option.map_eq_some_iff.mp h
          exact List.forall_mem_cons.mpr ⟨wellFormed_of_statement hs, ih hmore⟩

theorem Assembly.wellFormed_add {a a' : Assembly} {s : Statement} (ha : a.root.WellFormed)
    (hs : s.WellFormed) (hadd : a.add s = some a') : a'.root.WellFormed := by
  cases s with
  | header path =>
      obtain ⟨last, _, hadd⟩ := Option.bind_eq_some_iff.mp hadd
      obtain ⟨root, hroot, rfl⟩ := Option.map_eq_some_iff.mp hadd
      exact ha.below DraftTable.WellFormed.openTable hroot
  | repeatedHeader path =>
      obtain ⟨last, _, hadd⟩ := Option.bind_eq_some_iff.mp hadd
      obtain ⟨root, hroot, rfl⟩ := Option.map_eq_some_iff.mp hadd
      exact ha.below DraftTable.WellFormed.openElement hroot
  | assignment path v =>
      obtain ⟨root, hroot, rfl⟩ := Option.map_eq_some_iff.mp hadd
      exact ha.below (fun ht => ht.assignTo hs) hroot

theorem Assembly.wellFormed_addAll {parsed : List Statement} {a a' : Assembly}
    (ha : a.root.WellFormed) (hparsed : ∀ s ∈ parsed, s.WellFormed)
    (hadd : parsed.foldlM Assembly.add a = some a') : a'.root.WellFormed := by
  induction parsed generalizing a with
  | nil =>
      cases hadd
      exact ha
  | cons s parsed ih =>
      rw [List.forall_mem_cons] at hparsed
      rw [List.foldlM_cons] at hadd
      obtain ⟨between, hs, hadd⟩ := Option.bind_eq_some_iff.mp hadd
      exact ih (wellFormed_add ha hparsed.1 hs) hparsed.2 hadd

/-- The tree of a document has distinct keys in every table, and integers that fit into 64 bits. -/
theorem wellFormed_of_parse {text : String} {table : Table} (h : parse text = some table) :
    (Value.table table).WellFormed := by
  obtain ⟨parsed, hparsed, h⟩ := Option.bind_eq_some_iff.mp h
  obtain ⟨assembly, hassembly, heq⟩ := Option.bind_eq_some_iff.mp h
  cases heq
  exact (Assembly.wellFormed_addAll DraftTable.wellFormed_nil (wellFormed_of_statements hparsed)
    hassembly).freeze

end HostFlash.Toml
