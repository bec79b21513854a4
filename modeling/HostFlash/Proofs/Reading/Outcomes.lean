import Mathlib.Data.List.Infix
import HostFlash.Proofs.Emulator.VersionPartition
import HostFlash.Proofs.Version.Container
import HostFlash.Proofs.Version.Layout

/-!
# Outcomes on the raw input

What the processing of a version text comes to is decided by a few characters of it: the first one,
the line feeds, and whether anything but blanks stands behind the only one. A scan of the flash
comes to nothing exactly if the payload of the dump begins with a NUL, a line feed, or not at all.
-/

namespace HostFlash.Firmware

namespace Version

/-! ## Components -/

/-- Behind the first line stand two lines or more, or one with more than blanks in it. -/
def NamesComponents (cs : List Char) : Prop :=
  2 ≤ cs.count '\n' ∨
    cs.count '\n' = 1 ∧ ∃ c ∈ cs.dropWhile (· ≠ '\n'), Text.isBlank c = false

instance (cs : List Char) : Decidable (NamesComponents cs) :=
  inferInstanceAs (Decidable (_ ∨ _))

/-- A line has a component exactly if it is not blank. -/
theorem ComponentLine.body_ne_nil_iff (l : ComponentLine) :
    l.body ≠ [] ↔ ∃ c ∈ l.text, Text.isBlank c = false := by
  constructor
  · intro hbody
    obtain ⟨c, rest, hbody⟩ := List.exists_cons_of_ne_nil hbody
    have hmem : c ∈ l.body := hbody ▸ List.mem_cons_self
    exact ⟨c, List.mem_append_right _ hmem, l.body_head c (by rw [hbody, List.head?_cons])⟩
  · rintro ⟨c, hmem, hblank⟩ hbody
    rw [ComponentLine.text, hbody, List.append_nil] at hmem
    rw [(l.indent_blank c hmem).1] at hblank
    cases hblank

namespace Outline

/-- Every line but the first has a line feed in front of it. -/
theorem count_text (o : Outline) : o.text.count '\n' = o.components.length := by
  have hline : List.count '\n' ∘ (fun l : ComponentLine => '\n' :: l.text) = fun _ => 1 := by
    funext l
    rw [Function.comp_apply, List.count_cons_self, List.count_eq_zero.mpr l.newline_not_mem]
  rw [text, List.count_append, List.count_eq_zero.mpr o.version_line, Nat.zero_add,
    List.count_flatMap, hline, List.map_const', List.sum_replicate_nat, Nat.mul_one]

theorem dropWhile_text {o : Outline} {l : ComponentLine} {rest : List ComponentLine}
    (hcomponents : o.components = l :: rest) :
    o.text.dropWhile (· ≠ '\n') =
      '\n' :: (l.text ++ rest.flatMap fun l => '\n' :: l.text) := by
  rw [text, hcomponents, List.flatMap_cons, List.cons_append,
    Text.dropWhile_ne_append o.version_line]

theorem components_named_eq_empty_iff (o : Outline) :
    o.named.components = "" ↔ List.intercalate [','] o.bodies = [] :=
  String.ofList_eq_empty_iff

/-- The lines name components exactly if they say so. Two lines do even if both are blank, since
the comma between them is left. -/
theorem namesComponents_text (o : Outline) :
    NamesComponents o.text ↔ o.named.components ≠ "" := by
  rw [NamesComponents, o.count_text, Ne, o.components_named_eq_empty_iff, bodies]
  -- Only a single line has to be looked into: none names nothing, and two leave a comma.
  cases hcomponents : o.components with
  | nil => simp
  | cons l rest =>
  cases rest with
  | nil =>
      have hnewline : Text.isBlank '\n' = true := by decide
      rw [List.map_singleton, List.intercalate_singleton, ← Ne, l.body_ne_nil_iff,
        dropWhile_text hcomponents]
      simp [hnewline]
  | cons l' rest =>
      rw [List.map_cons, List.map_cons, List.intercalate_cons_cons]
      simp

end Outline

/-- Whether an image is active is read off its text, less the line feed at its end. -/
theorem ofVersion_parse {text : String} {o : Outline} (ho : o.Writes text)
    (hline : firstLine text ≠ "") :
    ImageState.ofVersion (parse text) =
      if NamesComponents o.text then .active else .invalid := by
  have hversion : (parse text).version ≠ "" := by rwa [version_parse]
  rw [parse_of_writes ho] at hversion
  rw [ImageState.ofVersion, isComplete, parse_of_writes ho]
  simp [hversion, o.namesComponents_text]

/-! ## Ids -/

/-- The digits in base 16, in lower case. -/
def hexDigits : List Char :=
  ['0', '1', '2', '3', '4', '5', '6', '7', '8', '9', 'a', 'b', 'c', 'd', 'e', 'f']

/-- A byte in two digits. -/
def hexByte (b : UInt8) : List Char :=
  [hexDigits.getD (b.toNat / 16) '0', hexDigits.getD (b.toNat % 16) '0']

theorem digitChar_eq_hexDigit {n : Nat} (hn : n < 16) :
    Nat.digitChar n = hexDigits.getD n '0' := by
  have hall : ∀ i : Fin 16, Nat.digitChar i = hexDigits.getD i '0' := by decide
  exact hall ⟨n, hn⟩

theorem idOf_eq {version : List Char} (hversion : version ≠ []) :
    idOf (String.ofList version) =
      String.ofList (((Sha512.digest (Text.Utf8.encode version)).flatMap hexByte).take 8) := by
  have hdigits : ∀ b : UInt8,
      [Nat.digitChar (b.toNat / 16), Nat.digitChar (b.toNat % 16)] = hexByte b := fun b => by
    rw [digitChar_eq_hexDigit (Nat.div_lt_of_lt_mul b.toNat_lt),
      digitChar_eq_hexDigit (Nat.mod_lt _ (by decide)), hexByte]
  rw [idOf, if_neg (mt String.ofList_eq_empty_iff.mp hversion), String.toList_ofList]
  simp only [hdigits]
  rfl

end Version

/-! ## Log lines -/

/-- The errors among log lines. -/
def errors (lines : List LogLine) : List LogLine := lines.filter (·.level = .error)

/-- A text that does not begin so far like another one does not begin like it further on. -/
theorem not_prefix_append {start text : List Char} (h : ¬ start.take text.length <+: text)
    (rest : List Char) : ¬ start <+: text ++ rest := by
  intro hprefix
  have htaken := hprefix.take text.length
  rw [List.take_left] at htaken
  exact h htaken

/-- The line is about a version that could not be read. -/
def ReportsVersion (line : LogLine) : Prop :=
  "Failed to read version".toList <+: line.message.toList

theorem not_reportsVersion_append {level : LogLevel} {front : String}
    (hfront : ¬ "Failed to read version".toList.take front.toList.length <+: front.toList)
    (rest : String) : ¬ ReportsVersion ⟨level, front ++ rest⟩ := by
  rw [ReportsVersion, String.toList_append]
  exact not_prefix_append hfront rest.toList

namespace Registry

/-- A text with a first line is published, whatever the registry. -/
theorem processText_fst_of_ne (r : Registry) {text : String} (hline : Version.firstLine text ≠ "") :
    (r.processText text).1 =
      .published (Version.idOf (Version.firstLine text)) (.ofVersion (Version.parse text)) := by
  rw [processText, if_neg (mt Version.id_parse_eq_empty_iff.mp hline), Version.id,
    Version.version_parse]

theorem processText_fst_eq_blank_iff (r : Registry) {text : String} :
    (r.processText text).1 = .blank ↔ Version.firstLine text = "" := by
  refine ⟨fun hblank => ?_, fun hline => by rw [r.processText_blank hline]⟩
  refine Decidable.byContradiction fun hline => ?_
  rw [r.processText_fst_of_ne hline] at hblank
  cases hblank

end Registry

namespace Manager

variable {δ : Type}

theorem log_processText (text : String) (m : Manager δ) :
    (processText text m).2.world.log =
      m.world.log ++ processLog text (m.registry.processText text).1 := rfl

/-- A text that names a version can only lack components. -/
theorem missingParts_of_version {text : String} {v : Version} (hversion : v.version ≠ "") :
    missingParts text v =
      if ImageState.ofVersion v = .active then []
      else [⟨.error, "Failed to read extendedVersion, VERSION=" ++ Text.quoted text⟩] := by
  rw [missingParts, if_neg hversion, List.nil_append, ImageState.ofVersion, Version.isComplete]
  by_cases hcomponents : v.components = ""
  · simp [hcomponents]
  · simp [hversion, hcomponents]

theorem errors_processLog {text : String} (hline : Version.firstLine text ≠ "") (id : String)
    (state : ImageState) :
    errors (processLog text (.published id state)) =
      if ImageState.ofVersion (Version.parse text) = .active then []
      else [⟨.error, "Failed to read extendedVersion, VERSION=" ++ Text.quoted text⟩] := by
  have hversion : (Version.parse text).version ≠ "" := by rwa [Version.version_parse]
  rw [processLog, missingParts_of_version hversion, errors, List.filter_append]
  split <;> rfl

/-- The error about a version is never logged, since a text without one is blank. -/
theorem not_reportsVersion_of_mem {r : Registry} {text : String} {line : LogLine}
    (hline : line ∈ processLog text (r.processText text).1) : ¬ ReportsVersion line := by
  by_cases hfirst : Version.firstLine text = ""
  · rw [r.processText_blank hfirst] at hline
    rw [List.mem_singleton.mp hline]
    unfold ReportsVersion
    decide
  · have hversion : (Version.parse text).version ≠ "" := by rwa [Version.version_parse]
    rw [r.processText_fst_of_ne hfirst, processLog, missingParts_of_version hversion,
      List.mem_append, List.mem_singleton] at hline
    -- The line about the components differs from one about the version behind its first words.
    rcases hline with hmissing | rfl
    · split at hmissing
      · cases hmissing
      · rw [List.mem_singleton.mp hmissing]
        exact not_reportsVersion_append (by decide) _
    · rw [String.append_assoc, String.append_assoc, String.append_assoc]
      exact not_reportsVersion_append (by decide) _

end Manager

/-! ## Dumps -/

/-- The text of an image has a first line unless its payload begins with a NUL or a line feed. A
character is decoded to a line feed only if a line feed was there. -/
theorem Image.firstLine_text_eq_empty_iff (data : List UInt8) :
    Version.firstLine (text data) = "" ↔
      payload data = [] ∨ (payload data).head? = some 0x00 ∨ (payload data).head? = some 0x0A := by
  have hnothing : Text.Utf8.decodeLossy [] = [] := rfl
  rw [Version.firstLine_eq_empty_iff, text, String.ofList_eq_empty_iff, String.toList_ofList]
  cases payload data with
  | nil => simp [hnothing]
  | cons b bytes =>
  by_cases hnul : b = 0
  · simp [hnul, hnothing]
  · obtain ⟨c, cs, hdecoded, hbegins⟩ := Text.Utf8.decodeLossy_cons b (bytes.takeWhile (· ≠ 0))
    have hnewline : c = '\n' ↔ b = 0x0A := by
      rw [← Char.toNat_inj, ← UInt8.toNat_inj]
      exact hbegins.toNat_eq_iff (by decide)
    rw [List.takeWhile_cons_of_pos (by simpa using hnul), hdecoded]
    simp [hnul, hnewline]

namespace Manager

variable {δ : Type}

theorem scan_blank_iff {tool : Flasher δ} {partition : String} {m : Manager δ}
    {data : List UInt8} (hdump : Attempts tool partition m.world (.dumped data)) :
    (scan tool partition m).1 = .returned (.read .blank) ↔
      Version.firstLine (Image.text data) = "" := by
  obtain ⟨outcome, hprocess, hscan, _⟩ := scan_of_read (versionText_of_attempts hdump)
  rw [hscan, ← m.registry.processText_fst_eq_blank_iff, Ending.returned.inj hprocess]
  simp

/-- What the processing of a text comes to, whatever was published before: nothing if the first
line is empty, and else an image under the digest of that line, which is active exactly if the
other lines name components. One line feed at the very end is no part of the lines. An image that is
not active makes one error, about its components, and there is never one about the version. A scan
comes to nothing exactly if the payload of the dump begins with a NUL or a line feed, or is empty. -/
theorem outcome_of_input (m : Manager δ) (text : String) :
    let id := String.ofList (((Sha512.digest
      (Text.Utf8.encode (text.toList.takeWhile (· ≠ '\n')))).flatMap Version.hexByte).take 8)
    (∃ body outcome lines,
      let state : ImageState := if Version.NamesComponents body then .active else .invalid
      (text.toList = body ++ ['\n'] ∨ text.toList = body ∧ body.getLast? ≠ some '\n') ∧
        (processText text m).1 = .returned outcome ∧
        (processText text m).2.world.log = m.world.log ++ lines ∧
        (outcome = .blank ↔ text = "" ∨ text.toList.head? = some '\n') ∧
        (outcome ≠ .blank → outcome = .published id state) ∧
        errors lines = (if outcome = .published id .invalid then
          [⟨.error, "Failed to read extendedVersion, VERSION=" ++ Text.quoted text⟩] else []) ∧
        ∀ line ∈ lines, ¬ ReportsVersion line) ∧
      ∀ (tool : Flasher δ) (partition : String) (data : List UInt8),
        Attempts tool partition m.world (.dumped data) →
        let p := if Image.containerMagic <+: data then data.drop 4096 else data
        ((scan tool partition m).1 = .returned (.read .blank) ↔
          p = [] ∨ p.head? = some 0x00 ∨ p.head? = some 0x0A) := by
  intro id
  obtain ⟨o, ho⟩ := Version.exists_writes text
  refine ⟨⟨o.text, (m.registry.processText text).1,
    processLog text (m.registry.processText text).1, ?_⟩, ?_⟩
  · intro state
    have hpublished : Version.firstLine text ≠ "" →
        (m.registry.processText text).1 = .published id state := fun hline => by
      rw [m.registry.processText_fst_of_ne hline, Version.ofVersion_parse ho hline,
        Version.firstLine, Version.idOf_eq (mt String.ofList_eq_empty_iff.mpr hline)]
    refine ⟨ho, rfl, log_processText text m, ?_, ?_, ?_, fun line => not_reportsVersion_of_mem⟩
    · rw [← Version.firstLine_eq_empty_iff, m.registry.processText_fst_eq_blank_iff]
    · exact fun hblank => hpublished (mt m.registry.processText_fst_eq_blank_iff.mpr hblank)
    · by_cases hline : Version.firstLine text = ""
      · have hne : PublishOutcome.blank ≠ .published id .invalid := by simp
        rw [m.registry.processText_blank hline, if_neg hne]
        rfl
      · have hstate : ImageState.ofVersion (Version.parse text) = state :=
          Version.ofVersion_parse ho hline
        rw [hpublished hline, errors_processLog hline, hstate]
        clear_value state
        cases state <;> simp
  · intro tool partition data hdump p
    have hpayload : Image.payload data = p := by
      simp [Image.payload, p, Image.containerHeaderSize]
    rw [scan_blank_iff hdump, Image.firstLine_text_eq_empty_iff, hpayload]

/-- A line feed in front makes a text blank, and two blank lines behind a version make it active,
also with a comma for all of its components. -/
theorem bareHost_outcomes :
    let m : Manager Emulator := ⟨.empty {}, Emulator.bareHost [0x0A, 0x76]⟩
    Attempts Emulator.tool Emulator.versionPartition m.world (.dumped [0x0A, 0x76]) ∧
      (scan Emulator.tool Emulator.versionPartition m).1 = .returned (.read .blank) ∧
      ∃ id, (processText "v1\n\n \n" m).1 = .returned (.published id .active) := by
  intro m
  have hdump : Attempts Emulator.tool Emulator.versionPartition m.world (.dumped [0x0A, 0x76]) :=
    Emulator.attempts_of_data rfl Emulator.bareMachine_scratch rfl
  refine ⟨hdump, ((outcome_of_input m "").2 _ _ _ hdump).mpr ?_, ?_⟩
  · decide
  · obtain ⟨⟨body, outcome, _, hbody, hprocess, _, hblank, hpublished, _⟩, _⟩ :=
      outcome_of_input m "v1\n\n \n"
    have hnonblank : outcome ≠ .blank := mt hblank.mp (by decide)
    have hlines : body = "v1\n\n ".toList := by
      have htext : "v1\n\n \n".toList = "v1\n\n ".toList ++ ['\n'] := by decide
      rcases hbody with hclosed | ⟨hopen, hlast⟩
      · exact List.append_cancel_right (hclosed.symm.trans htext)
      · rw [← hopen] at hlast
        exact absurd (by decide) hlast
    rw [hprocess, hpublished hnonblank, if_pos (by rw [hlines]; decide)]
    exact ⟨_, rfl⟩

end Manager

end HostFlash.Firmware
