import Mathlib.Data.List.Nodup
import Mathlib.Data.List.TakeWhile
import HostFlash.Backend
import HostFlash.Proofs.Listing.Lines
import HostFlash.Proofs.Lookup

/-!
# The grammar of backend texts

A backend text is read by a search for the first colon, for commas and for the first equals sign of
each piece, with blanks trimmed from some of the parts. `Writes` says without any search which texts
name a backend, and `Faults` which fault any other text has: the name comes first, and then the
leftmost piece that is no option or repeats a key. Reading finds what the grammar says.
-/

namespace HostFlash

namespace Text

/-! ## Trimming -/

/-- The text has no blank at either end. -/
def Trimmed (cs : List Char) : Prop :=
  (∀ c ∈ cs.head?, isBlank c = false) ∧ ∀ c ∈ cs.getLast?, isBlank c = false

-- Named, since a search may find an instance that goes through all characters.
instance (cs : List Char) : Decidable (Trimmed cs) :=
  @instDecidableAnd _ _ (Option.decidableForallMem cs.head?) (Option.decidableForallMem cs.getLast?)

/-- The text is a trimmed core with blanks around it. -/
def Padded (core cs : List Char) : Prop :=
  Trimmed core ∧ ∃ lead tail, cs = lead ++ core ++ tail ∧
    (∀ c ∈ lead, isBlank c = true) ∧ ∀ c ∈ tail, isBlank c = true

theorem Trimmed.padded {cs : List Char} (h : Trimmed cs) : Padded cs cs :=
  ⟨h, [], [], by simp, by simp, by simp⟩

theorem head?_dropWhile_blank (cs : List Char) :
    ∀ c ∈ (cs.dropWhile isBlank).head?, isBlank c = false := by
  intro c hc
  have hhead := List.head?_dropWhile_not isBlank cs
  rwa [hc] at hhead

theorem dropWhile_blank_of_head? {cs : List Char} (h : ∀ c ∈ cs.head?, isBlank c = false) :
    cs.dropWhile isBlank = cs := by
  cases cs with
  | nil => rfl
  | cons c cs => exact List.dropWhile_cons_of_neg (by simp [h c rfl])

/-- Dropping blanks at the end is dropping them in front, seen from behind. -/
theorem dropWhile_reverse (cs : List Char) :
    cs.reverse.dropWhile isBlank = (trimEnd cs).reverse := by
  rw [trimEnd, List.reverse_reverse]

theorem exists_trimEnd (cs : List Char) :
    ∃ tail, cs = trimEnd cs ++ tail ∧ ∀ c ∈ tail, isBlank c = true := by
  refine ⟨(cs.reverse.takeWhile isBlank).reverse, ?_, ?_⟩
  · rw [trimEnd, ← List.reverse_append, List.takeWhile_append_dropWhile, List.reverse_reverse]
  · intro c hc
    exact List.mem_takeWhile_imp (List.mem_reverse.mp hc)

theorem padded_trim (cs : List Char) : Padded (trim cs) cs := by
  obtain ⟨tail, htail, hblank⟩ := exists_trimEnd (trimStart cs)
  refine ⟨⟨?_, ?_⟩, cs.takeWhile isBlank, tail, ?_, fun c hc => List.mem_takeWhile_imp hc, hblank⟩
  · -- The first character is that of the text without its blanks in front, if there is one.
    intro c hc
    apply head?_dropWhile_blank cs c
    show (trimStart cs).head? = some c
    have hcore : (trimEnd (trimStart cs)).head? = some c := hc
    rw [htail, List.head?_append, hcore, Option.some_or]
  · intro c hc
    apply head?_dropWhile_blank (trimStart cs).reverse c
    rw [dropWhile_reverse, List.head?_reverse]
    exact hc
  · rw [List.append_assoc]
    show cs = cs.takeWhile isBlank ++ (trimEnd (trimStart cs) ++ tail)
    rw [← htail, trimStart, List.takeWhile_append_dropWhile]

/-- A padded text is trimmed to its core. -/
theorem Padded.trim_eq {core cs : List Char} (h : Padded core cs) : trim cs = core := by
  obtain ⟨⟨hhead, hlast⟩, lead, tail, rfl, hlead, htail⟩ := h
  rw [trim, trimStart, List.append_assoc, List.dropWhile_append_of_pos hlead]
  cases core with
  | nil =>
      have hnone : tail.dropWhile isBlank = [] := List.dropWhile_eq_nil_iff.mpr htail
      rw [List.nil_append, hnone]
      rfl
  | cons c core =>
      have hrest : (c :: core ++ tail).dropWhile isBlank = c :: core ++ tail :=
        dropWhile_blank_of_head? (by simpa using hhead)
      have htail' : ∀ d ∈ tail.reverse, isBlank d = true := by simpa using htail
      rw [hrest, trimEnd, List.reverse_append, List.dropWhile_append_of_pos htail',
        dropWhile_blank_of_head? (by rwa [List.head?_reverse]), List.reverse_reverse]

theorem trim_eq_iff {core cs : List Char} : trim cs = core ↔ Padded core cs :=
  ⟨fun h => h ▸ padded_trim cs, Padded.trim_eq⟩

/-- Nothing is left of blanks alone. -/
theorem trim_eq_nil_iff {cs : List Char} : trim cs = [] ↔ ∀ c ∈ cs, isBlank c = true := by
  constructor
  · intro h
    obtain ⟨_, lead, tail, rfl, hlead, htail⟩ := trim_eq_iff.mp h
    rw [List.append_nil]
    exact fun c hc => (List.mem_append.mp hc).elim (hlead c) (htail c)
  · intro h
    rw [trim_eq_iff]
    exact ⟨⟨by simp, by simp⟩, cs, [], by simp, h, by simp⟩

end Text

namespace BackendSpec

open Text (Padded Trimmed)

variable {cs front piece : List Char} {pieces : List (List Char)}

/-! ## The grammar -/

/-- The text in front of the first colon, and the pieces between the commas behind that colon. There
are none without a colon, and behind a colon there is at least one. -/
inductive Divides : List Char → List Char → List (List Char) → Prop where
  | plain {cs : List Char} (hcolon : ':' ∉ cs) : Divides cs cs []
  | optioned {front first : List Char} {rest : List (List Char)} (hfront : ':' ∉ front)
      (hpieces : ∀ piece ∈ first :: rest, ',' ∉ piece) :
      Divides (front ++ ':' :: (first ++ rest.flatMap (',' :: ·))) front (first :: rest)

/-- A piece that is an option: a key, which blanks may stand around, and the value behind the first
equals sign as it is. -/
def WritesOption (piece : List Char) (o : String × String) : Prop :=
  o.1 ≠ "" ∧ ∃ key, piece = key ++ '=' :: o.2.toList ∧ '=' ∉ key ∧ Padded o.1.toList key

/-- The text names the backend with the options. -/
structure Writes (text : String) (spec : BackendSpec) : Prop where
  name_ne : spec.name ≠ ""
  distinct : (spec.options.map Prod.fst).Nodup
  divided : ∃ front pieces, Divides text.toList front pieces ∧ Padded spec.name.toList front ∧
    List.Forall₂ WritesOption pieces spec.options

/-- What is wrong with a piece behind options with these keys. -/
inductive Offends (keys : List String) (piece : List Char) : Fault → Prop where
  | missingValue (hequals : '=' ∉ piece) : Offends keys piece (.missingValue (String.ofList piece))
  | emptyKey {key value : List Char} (hpiece : piece = key ++ '=' :: value) (hkey : '=' ∉ key)
      (hblank : ∀ c ∈ key, Text.isBlank c = true) :
      Offends keys piece (.emptyKey (String.ofList piece))
  | repeatedKey {key value : String} (hwrites : WritesOption piece (key, value))
      (hrepeated : key ∈ keys) : Offends keys piece (.repeatedKey key)

/-- The text has a fault: it has no name, or the name is there and a piece is wrong, with nothing
wrong to the left of it. -/
inductive Faults (text : String) : Fault → Prop where
  | missingName {front : List Char} {pieces : List (List Char)}
      (hdivides : Divides text.toList front pieces) (hblank : ∀ c ∈ front, Text.isBlank c = true) :
      Faults text (.missingName text)
  | piece {front piece : List Char} {before behind : List (List Char)}
      {opts : List (String × String)} {fault : Fault}
      (hdivides : Divides text.toList front (before ++ piece :: behind))
      (hname : ∃ c ∈ front, Text.isBlank c = false)
      (hbefore : List.Forall₂ WritesOption before opts) (hdistinct : (opts.map Prod.fst).Nodup)
      (hoffends : Offends (opts.map Prod.fst) piece fault) : Faults text fault

/-! ## The division of a text -/

theorem Divides.parts_eq (h : Divides cs front pieces) : parts cs = (Text.trim front, pieces) := by
  cases h with
  | plain hcolon => rw [parts, Text.cutAt?_of_not_mem hcolon]
  | optioned hfront hpieces =>
      rw [List.forall_mem_cons] at hpieces
      rw [parts, Text.cutAt?_append hfront]
      simp only [Text.splitOn_append_flatMap hpieces.1 hpieces.2]

theorem exists_divides (cs : List Char) : ∃ front pieces, Divides cs front pieces := by
  by_cases hcolon : ':' ∈ cs
  · obtain ⟨front, behind, rfl, hfront⟩ := List.eq_append_cons_of_mem hcolon
    cases hsplit : Text.splitOn ',' behind with
    | nil => exact absurd hsplit (Text.splitOn_ne_nil ',' behind)
    | cons first rest =>
        have hpieces : ∀ piece ∈ first :: rest, ',' ∉ piece := fun piece hpiece =>
          Text.not_mem_of_mem_splitOn (hsplit ▸ hpiece)
        have hbehind := Text.append_flatMap_of_splitOn hsplit
        subst hbehind
        exact ⟨front, first :: rest, .optioned hfront hpieces⟩
  · exact ⟨cs, [], .plain hcolon⟩

/-! ## One piece -/

theorem readOption_eq_ok_iff {o : String × String} :
    readOption piece = .ok o ↔ WritesOption piece o := by
  unfold readOption
  constructor
  · intro h
    split at h
    next => cases h
    next key value hcut =>
    split at h
    next => cases h
    next hkey =>
    cases h
    obtain ⟨hequals, hpiece⟩ := Text.cutAt?_eq_some_iff.mp hcut
    refine ⟨mt String.ofList_eq_empty_iff.mp hkey, key, ?_, hequals, ?_⟩
    · rw [hpiece, String.toList_ofList]
    · rw [String.toList_ofList]
      exact Text.padded_trim key
  · rintro ⟨hne, key, rfl, hequals, hpadded⟩
    have hkey : o.1.toList ≠ [] := mt String.toList_eq_nil_iff.mp hne
    simp only [Text.cutAt?_append hequals, hpadded.trim_eq, if_neg hkey, String.ofList_toList]

/-- A piece that is no option offends whatever stands in front of it. -/
theorem offends_of_readOption {fault : Fault} (h : readOption piece = .error fault)
    (keys : List String) : Offends keys piece fault := by
  rw [readOption] at h
  split at h
  next hcut =>
    cases h
    refine .missingValue fun hmem => ?_
    obtain ⟨key, value, rfl, hkey⟩ := List.eq_append_cons_of_mem hmem
    rw [Text.cutAt?_append hkey] at hcut
    cases hcut
  next key value hcut =>
  split at h
  next hkey =>
    cases h
    obtain ⟨hequals, hpiece⟩ := Text.cutAt?_eq_some_iff.mp hcut
    exact .emptyKey hpiece hequals (Text.trim_eq_nil_iff.mp hkey)
  next => cases h

/-- What is found of an offending piece: its fault, or an option with a key that is there already. -/
theorem Offends.readOption_eq {keys : List String} {fault : Fault} (h : Offends keys piece fault) :
    readOption piece = .error fault ∨
      ∃ key value, readOption piece = .ok (key, value) ∧ key ∈ keys ∧ fault = .repeatedKey key := by
  cases h with
  | missingValue hequals =>
      left
      simp only [readOption, Text.cutAt?_of_not_mem hequals]
  | emptyKey hpiece hkey hblank =>
      left
      subst hpiece
      simp only [readOption, Text.cutAt?_append hkey, if_pos (Text.trim_eq_nil_iff.mpr hblank)]
  | repeatedKey hwrites hrepeated =>
      exact Or.inr ⟨_, _, readOption_eq_ok_iff.mpr hwrites, hrepeated, rfl⟩

/-! ## All pieces -/

section Pieces

variable {before new : List (String × String)}

theorem any_key_iff {key : String} :
    before.any (·.1 == key) = true ↔ key ∈ before.map Prod.fst := by
  simp [List.any_eq_true]

theorem nodup_keys_append_singleton {o : String × String} :
    ((before ++ [o]).map Prod.fst).Nodup ↔
      (before.map Prod.fst).Nodup ∧ o.1 ∉ before.map Prod.fst := by
  rw [List.map_append, List.map_singleton, ← List.concat_eq_append, List.nodup_concat, and_comm]

/-- Options with distinct keys are read from their pieces one after the other. -/
theorem readOptions_append (before : List (String × String)) (behind : List (List Char))
    (hpieces : List.Forall₂ WritesOption pieces new)
    (hdistinct : ((before ++ new).map Prod.fst).Nodup) :
    readOptions before (pieces ++ behind) = readOptions (before ++ new) behind := by
  induction hpieces generalizing before with
  | nil => rw [List.append_nil, List.nil_append]
  | @cons piece o pieces new hpiece _ ih =>
      rw [List.append_cons] at hdistinct ⊢
      have hfresh : ¬ before.any (·.1 == o.1) = true := by
        rw [List.map_append] at hdistinct
        rw [any_key_iff]
        exact (nodup_keys_append_singleton.mp hdistinct.of_append_left).2
      rw [List.cons_append, readOptions, readOption_eq_ok_iff.mpr hpiece]
      dsimp only
      rw [if_neg hfresh, ih _ hdistinct]

/-- Pieces are options with distinct keys, or one of them is the leftmost that offends. -/
theorem options_or_offends (before : List (String × String)) (hbefore : (before.map Prod.fst).Nodup)
    (pieces : List (List Char)) :
    (∃ new, List.Forall₂ WritesOption pieces new ∧ ((before ++ new).map Prod.fst).Nodup) ∨
      ∃ fault front piece behind new, pieces = front ++ piece :: behind ∧
        List.Forall₂ WritesOption front new ∧ ((before ++ new).map Prod.fst).Nodup ∧
        Offends ((before ++ new).map Prod.fst) piece fault := by
  induction pieces generalizing before with
  | nil => exact Or.inl ⟨[], .nil, by simpa using hbefore⟩
  | cons piece rest ih =>
      cases hread : readOption piece with
      | error fault =>
          exact Or.inr ⟨fault, [], piece, rest, [], rfl, .nil, by simpa using hbefore,
            offends_of_readOption hread _⟩
      | ok o =>
          have hwrites : WritesOption piece o := readOption_eq_ok_iff.mp hread
          by_cases hrepeated : o.1 ∈ before.map Prod.fst
          · exact Or.inr ⟨.repeatedKey o.1, [], piece, rest, [], rfl, .nil,
              by simpa using hbefore, .repeatedKey hwrites (by simpa using hrepeated)⟩
          · rcases ih _ (nodup_keys_append_singleton.mpr ⟨hbefore, hrepeated⟩) with
              ⟨new, hpieces, hdistinct⟩ | ⟨fault, front, piece', behind, new, rfl, hpieces,
                hdistinct, hoffends⟩
            · rw [← List.append_cons] at hdistinct
              exact Or.inl ⟨o :: new, .cons hwrites hpieces, hdistinct⟩
            · rw [← List.append_cons] at hdistinct hoffends
              exact Or.inr ⟨fault, piece :: front, piece', behind, o :: new, rfl,
                .cons hwrites hpieces, hdistinct, hoffends⟩

theorem Offends.readOptions_eq {fault : Fault} (h : Offends (before.map Prod.fst) piece fault)
    (behind : List (List Char)) : readOptions before (piece :: behind) = .error fault := by
  rcases h.readOption_eq with hread | ⟨key, value, hread, hrepeated, rfl⟩
  · simp only [readOptions, hread]
  · simp only [readOptions, hread, if_pos (any_key_iff.mpr hrepeated)]

end Pieces

/-! ## The whole text -/

theorem parse_of_divides {text : String} (h : Divides text.toList front pieces) :
    parse text =
      if Text.trim front = [] then .error (.missingName text)
      else (readOptions [] pieces).map fun opts => ⟨String.ofList (Text.trim front), opts⟩ := by
  simp only [parse, h.parts_eq]
  cases readOptions [] pieces with
  | error fault => rfl
  | ok opts => rfl

theorem trim_ne_nil_of_padded {name : String} (hname : name ≠ "") (h : Padded name.toList front) :
    Text.trim front ≠ [] := by
  rw [h.trim_eq]
  exact mt String.toList_eq_nil_iff.mp hname

theorem Writes.parse_eq {text : String} {spec : BackendSpec} (h : Writes text spec) :
    parse text = .ok spec := by
  obtain ⟨hname, hdistinct, front, pieces, hdivides, hpadded, hpieces⟩ := h
  have hread : readOptions [] pieces = .ok spec.options := by
    have happend := readOptions_append [] [] hpieces hdistinct
    rwa [List.append_nil] at happend
  rw [parse_of_divides hdivides, if_neg (trim_ne_nil_of_padded hname hpadded), hread,
    hpadded.trim_eq, String.ofList_toList]
  rfl

theorem Faults.parse_eq {text : String} {fault : Fault} (h : Faults text fault) :
    parse text = .error fault := by
  cases h with
  | missingName hdivides hblank =>
      rw [parse_of_divides hdivides, if_pos (Text.trim_eq_nil_iff.mpr hblank)]
  | @piece front piece before behind opts fault hdivides hname hbefore hdistinct hoffends =>
      have hnonblank : Text.trim front ≠ [] := by
        intro htrim
        obtain ⟨c, hc, hblank⟩ := hname
        rw [Text.trim_eq_nil_iff.mp htrim c hc] at hblank
        cases hblank
      have hread : readOptions [] (before ++ piece :: behind) = .error fault :=
        (readOptions_append [] _ hbefore hdistinct).trans (hoffends.readOptions_eq behind)
      rw [parse_of_divides hdivides, if_neg hnonblank, hread]
      rfl

/-- Every text is written for a backend or has a fault. -/
theorem writes_or_faults (text : String) :
    (∃ spec, Writes text spec) ∨ ∃ fault, Faults text fault := by
  obtain ⟨front, pieces, hdivides⟩ := exists_divides text.toList
  by_cases htrim : Text.trim front = []
  · exact Or.inr ⟨_, .missingName hdivides (Text.trim_eq_nil_iff.mp htrim)⟩
  · rcases options_or_offends [] List.nodup_nil pieces with
      ⟨opts, hpieces, hdistinct⟩ | ⟨fault, before, piece, behind, opts, rfl, hbefore, hdistinct,
        hoffends⟩
    · refine Or.inl ⟨⟨String.ofList (Text.trim front), opts⟩, ?_, hdistinct, front, pieces,
        hdivides, ?_, hpieces⟩
      · exact mt String.ofList_eq_empty_iff.mp htrim
      · rw [String.toList_ofList]
        exact Text.padded_trim front
    · have hname : ∃ c ∈ front, Text.isBlank c = false := by
        simpa [Text.trim_eq_nil_iff] using htrim
      exact Or.inr ⟨fault, .piece hdivides hname hbefore hdistinct hoffends⟩

theorem parse_eq_ok_iff {text : String} {spec : BackendSpec} :
    parse text = .ok spec ↔ Writes text spec := by
  refine ⟨fun hparse => ?_, Writes.parse_eq⟩
  rcases writes_or_faults text with ⟨spec', hwrites⟩ | ⟨fault, hfaults⟩
  · have heq := hwrites.parse_eq.symm.trans hparse
    cases heq
    exact hwrites
  · rw [hfaults.parse_eq] at hparse
    cases hparse

theorem parse_eq_error_iff {text : String} {fault : Fault} :
    parse text = .error fault ↔ Faults text fault := by
  refine ⟨fun hparse => ?_, Faults.parse_eq⟩
  rcases writes_or_faults text with ⟨spec, hwrites⟩ | ⟨fault', hfaults⟩
  · rw [hwrites.parse_eq] at hparse
    cases hparse
  · have heq := hfaults.parse_eq.symm.trans hparse
    cases heq
    exact hfaults

/-! ## Writing a text -/

/-- The text of a backend with options, in their order. -/
def render (spec : BackendSpec) : String :=
  spec.name ++ ":" ++ ",".intercalate (spec.options.map fun o => o.1 ++ "=" ++ o.2)

/-- The backend has options, and none of its parts holds a character that would end it, or a blank
that would be trimmed. -/
structure Plain (spec : BackendSpec) : Prop where
  name : spec.name ≠ "" ∧ Trimmed spec.name.toList ∧ ':' ∉ spec.name.toList
  options_ne : spec.options ≠ []
  keys : ∀ o ∈ spec.options,
    o.1 ≠ "" ∧ Trimmed o.1.toList ∧ ',' ∉ o.1.toList ∧ '=' ∉ o.1.toList
  values : ∀ o ∈ spec.options, ',' ∉ o.2.toList
  distinct : (spec.options.map Prod.fst).Nodup

/-- An option as it is written. -/
def optionText (o : String × String) : List Char := o.1.toList ++ '=' :: o.2.toList

theorem intercalate_cons (first : List Char) (rest : List (List Char)) :
    List.intercalate [','] (first :: rest) = first ++ rest.flatMap (',' :: ·) := by
  induction rest generalizing first with
  | nil => simp
  | cons piece rest ih =>
      rw [List.intercalate_cons_cons, ih piece]
      simp

theorem toList_render {spec : BackendSpec} {first : String × String}
    {rest : List (String × String)} (hoptions : spec.options = first :: rest) :
    spec.render.toList = spec.name.toList ++
      ':' :: (optionText first ++ (rest.map optionText).flatMap (',' :: ·)) := by
  have htexts : (spec.options.map fun o => o.1 ++ "=" ++ o.2).map String.toList =
      optionText first :: rest.map optionText := by
    rw [hoptions, List.map_map, List.map_cons]
    simp [optionText, Function.comp_def]
  have hcomma : ",".toList = [','] := rfl
  rw [render, String.toList_append, String.toList_intercalate, htexts, hcomma, intercalate_cons]
  simp

theorem Plain.writesOption {spec : BackendSpec} (h : spec.Plain) {o : String × String}
    (ho : o ∈ spec.options) : WritesOption (optionText o) o := by
  obtain ⟨hne, htrimmed, _, hequals⟩ := h.keys o ho
  exact ⟨hne, o.1.toList, rfl, hequals, htrimmed.padded⟩

theorem Plain.comma_not_mem {spec : BackendSpec} (h : spec.Plain) {o : String × String}
    (ho : o ∈ spec.options) : ',' ∉ optionText o := by
  simp [optionText, (h.keys o ho).2.2.1, h.values o ho]

theorem Plain.writes_render {spec : BackendSpec} (h : spec.Plain) : Writes spec.render spec := by
  obtain ⟨hne, htrimmed, hcolon⟩ := h.name
  refine ⟨hne, h.distinct, spec.name.toList, spec.options.map optionText, ?_, htrimmed.padded, ?_⟩
  · obtain ⟨first, rest, hoptions⟩ := List.exists_cons_of_ne_nil h.options_ne
    rw [toList_render hoptions, hoptions]
    refine .optioned hcolon ?_
    rw [← List.map_cons, ← hoptions, List.forall_mem_map]
    exact fun o ho => h.comma_not_mem ho
  · rw [List.forall₂_map_left_iff, List.forall₂_same]
    exact fun o ho => h.writesOption ho

/-- The order of the options is of no concern to whether they can be written. -/
theorem Plain.perm {spec : BackendSpec} (h : spec.Plain) {options : List (String × String)}
    (hperm : options.Perm spec.options) : Plain ⟨spec.name, options⟩ where
  name := h.name
  options_ne hnil := h.options_ne ((hperm.symm.trans (.of_eq hnil)).eq_nil)
  keys o ho := h.keys o (hperm.subset ho)
  values o ho := h.values o (hperm.subset ho)
  distinct := (hperm.map Prod.fst).nodup_iff.mpr h.distinct

/-- A text is read as a backend exactly if the grammar says that it names the backend, and as a
fault exactly if the grammar says that it has the fault. A text that was written from parts without
separators and outer blanks is read as those parts, in whatever order the options stand, so that
the values are found under their keys. -/
theorem parse_grammar (text : String) :
    (∀ spec, parse text = .ok spec ↔ Writes text spec) ∧
      (∀ fault, parse text = .error fault ↔ Faults text fault) ∧
      ∀ (spec : BackendSpec) (options : List (String × String)), spec.Plain →
        options.Perm spec.options →
        parse (render ⟨spec.name, options⟩) = .ok ⟨spec.name, options⟩ ∧
          ∀ key, options.lookup key = spec.options.lookup key := by
  refine ⟨fun _ => parse_eq_ok_iff, fun _ => parse_eq_error_iff, ?_⟩
  intro spec options hplain hperm
  exact ⟨(hplain.perm hperm).writes_render.parse_eq, lookup_perm hperm hplain.distinct⟩

/-- A backend with separators in places where they end nothing. -/
def imageSpec : BackendSpec := ⟨"dummy", [("image", "/a b=c:d"), ("x:y", "")]⟩

/-- The options are read in either order, and a key that blanks stand around is repeated although
a piece behind it is no option at all. -/
theorem imageSpec_grammar :
    imageSpec.Plain ∧ [("x:y", ""), ("image", "/a b=c:d")].Perm imageSpec.options ∧
      parse "dummy:x:y=,image=/a b=c:d" =
        .ok ⟨"dummy", [("x:y", ""), ("image", "/a b=c:d")]⟩ ∧
      Faults "dummy:a=1, a =2,b" (.repeatedKey "a") ∧
      parse "dummy:a=1, a =2,b" = .error (.repeatedKey "a") := by
  have hplain : imageSpec.Plain :=
    ⟨by decide +kernel, by decide, by decide +kernel, by decide +kernel, by decide +kernel⟩
  have hperm : [("x:y", ""), ("image", "/a b=c:d")].Perm imageSpec.options := List.Perm.swap _ _ _
  have hfirst : WritesOption "a=1".toList ("a", "1") :=
    ⟨by decide, ['a'], by decide +kernel, by decide, ⟨by decide +kernel, [], [], by simp⟩⟩
  have hspace : ∀ c ∈ [' '], Text.isBlank c = true := by
    rw [List.forall_mem_singleton]
    decide
  have hsecond : WritesOption " a =2".toList ("a", "2") :=
    ⟨by decide, [' ', 'a', ' '], by decide +kernel, by decide,
      ⟨by decide +kernel, [' '], [' '], by decide +kernel, hspace, hspace⟩⟩
  have hdivides : Divides "dummy:a=1, a =2,b".toList "dummy".toList
      (["a=1".toList] ++ " a =2".toList :: [['b']]) := by
    have htext : "dummy:a=1, a =2,b".toList =
        "dummy".toList ++ ':' :: ("a=1".toList ++ [" a =2".toList, ['b']].flatMap (',' :: ·)) := by
      decide +kernel
    rw [htext]
    exact .optioned (by decide +kernel) (by decide +kernel)
  have hfaults : Faults "dummy:a=1, a =2,b" (.repeatedKey "a") :=
    .piece hdivides ⟨'d', by decide +kernel, by decide⟩ (.cons hfirst .nil) (by decide)
      (.repeatedKey hsecond (by decide))
  have hrendered : render ⟨imageSpec.name, [("x:y", ""), ("image", "/a b=c:d")]⟩ =
      "dummy:x:y=,image=/a b=c:d" := by
    decide +kernel
  have hread := ((parse_grammar "").2.2 imageSpec _ hplain hperm).1
  rw [hrendered] at hread
  exact ⟨hplain, hperm, hread, hfaults, ((parse_grammar _).2.1 _).mpr hfaults⟩

end BackendSpec

end HostFlash
