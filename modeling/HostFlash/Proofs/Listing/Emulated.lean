import HostFlash.Flash.Emulator
import HostFlash.Proofs.Listing.Format

/-!
# The listing of the emulator

The emulator prints its partition table in the format of a listing, with numbers as wide as they
have to be. So what is read from it are the partitions with the flag `F`, in the order of the
table, as long as names and flags do not break the lines that they are printed in.
-/

namespace HostFlash

namespace Text

theorem not_mem_toDigits {c : Char} (hc : ∀ k, Nat.digitChar k ≠ c) {base : Nat}
    (hbase : 1 < base) (n : Nat) : c ∉ Nat.toDigits base n := by
  induction n using Nat.strongRecOn with
  | ind n ih =>
      rw [Nat.toDigits_eq_if hbase]
      split
      · exact fun hmem => hc n (List.mem_singleton.mp hmem).symm
      next hle =>
        have hless : n / base < n := Nat.div_lt_self (by omega) hbase
        rw [List.mem_append, not_or]
        exact ⟨ih _ hless, fun hmem => hc (n % base) (List.mem_singleton.mp hmem).symm⟩

/-- A printed number has nothing in it but digits. -/
theorem not_mem_digits {c : Char} (hc : ∀ k, Nat.digitChar k ≠ c) {base : Nat}
    (hbase : 1 < base) (width n : Nat) : c ∉ (digits base width n).toList := by
  rw [digits, String.toList_ofList, List.mem_append, not_or]
  refine ⟨fun hmem => ?_, not_mem_toDigits hc hbase n⟩
  exact hc 0 (List.eq_of_mem_replicate hmem).symm

theorem toList_foldl_append (texts : List String) (start : String) :
    (texts.foldl (· ++ ·) start).toList = start.toList ++ texts.flatMap String.toList := by
  induction texts generalizing start with
  | nil => simp
  | cons text texts ih => simp [ih]

end Text

namespace Emulator

open Listing (Line)

namespace Partition

/-- The name is one word of a listing. -/
def WellNamed (p : Partition) : Prop :=
  p.name ≠ "" ∧ ' ' ∉ p.name.toList ∧ '[' ∉ p.name.toList ∧ '\n' ∉ p.name.toList

instance (p : Partition) : Decidable p.WellNamed :=
  inferInstanceAs (Decidable (_ ∧ _ ∧ _ ∧ _))

/-- The partition is listed on one line. -/
def Listable (p : Partition) : Prop := p.WellNamed ∧ '\n' ∉ p.flags.toList

instance (p : Partition) : Decidable p.Listable :=
  inferInstanceAs (Decidable (_ ∧ _))

/-- A factory reset clears the partition. -/
def flagged (p : Partition) : Bool := decide ('F' ∈ p.flags.toList)

/-- The partition as a candidate of a factory reset. -/
def candidate (p : Partition) : Candidate :=
  { name := p.name, hasEcc := decide ('E' ∈ p.flags.toList), reprovision := true }

/-- The line of the partition at a place in the table. -/
def line (index offset : Nat) (p : Partition) : Line :=
  let size := p.data.length
  .entry (Text.digits 10 2 index).toList (15 - p.name.toList.length) p.name.toList
    ("0x" ++ Text.digits 16 8 offset ++ "..0x" ++ Text.digits 16 8 (offset + size) ++
      " (actual=0x" ++ Text.digits 16 8 size ++ ") ").toList
    p.flags.toList

theorem toList_listingLine (index offset : Nat) (p : Partition) :
    (listingLine index offset p).toList = (p.line index offset).text ++ ['\n'] := by
  unfold listingLine line
  simp [Line.text, Text.padLeft]

theorem line_wellFormed {p : Partition} (hp : p.Listable) (index offset : Nat) :
    (p.line index offset).WellFormed := by
  obtain ⟨⟨hne, hspace, hbracket, hnewline⟩, hflags⟩ := hp
  have hdigits : ∀ c, (∀ k, Nat.digitChar k ≠ c) → ∀ width n,
      c ∉ (Text.digits 10 width n).toList ∧ c ∉ (Text.digits 16 width n).toList :=
    fun c hc width n =>
      ⟨Text.not_mem_digits hc (by decide) width n, Text.not_mem_digits hc (by decide) width n⟩
  have hbracketDigits := hdigits '[' fun _ => Nat.digitChar_ne '[' (by decide)
  have hnewlineDigits := hdigits '\n' fun _ => Nat.digitChar_ne '\n' (by decide)
  have hspaceDigits := hdigits ' ' fun _ => Nat.digitChar_ne ' ' (by decide)
  refine ⟨⟨(hspaceDigits _ _).1, (hbracketDigits _ _).1, (hnewlineDigits _ _).1⟩,
    ⟨?_, hspace, hbracket, hnewline⟩, ?_, hflags⟩
  · exact fun hnil => hne (String.toList_eq_nil_iff.mp hnil)
  · simp [hbracketDigits, hnewlineDigits]

theorem candidate?_line (index offset : Nat) (p : Partition) :
    (p.line index offset).candidate? = if p.flagged then some p.candidate else none := by
  simp [line, Line.candidate?, flagged, candidate]

end Partition

/-- The lines for the partitions from a place on. -/
def tableLines : Nat → Nat → List Partition → List Line
  | _, _, [] => []
  | index, offset, p :: rest =>
      p.line index offset :: tableLines (index + 1) (offset + p.data.length) rest

/-- The partitions that a factory reset clears, in the order of the table. -/
def flaggedCandidates (partitions : List Partition) : List Candidate :=
  (partitions.filter (·.flagged)).map (·.candidate)

theorem toList_listingLines (index offset : Nat) (partitions : List Partition) :
    (listingLines index offset partitions).flatMap String.toList =
      Text.unlines ((tableLines index offset partitions).map Line.text) := by
  induction partitions generalizing index offset with
  | nil => rfl
  | cons p rest ih =>
      rw [listingLines, tableLines, List.flatMap_cons, ih, Partition.toList_listingLine]
      rfl

theorem tableLines_wellFormed {partitions : List Partition}
    (hpartitions : ∀ p ∈ partitions, p.Listable) (index offset : Nat) :
    ∀ l ∈ tableLines index offset partitions, l.WellFormed ∧ l.Plain := by
  induction partitions generalizing index offset with
  | nil => simp [tableLines]
  | cons p rest ih =>
      rw [List.forall_mem_cons] at hpartitions
      rw [tableLines, List.forall_mem_cons]
      exact ⟨⟨Partition.line_wellFormed hpartitions.1 index offset, trivial⟩, ih hpartitions.2 _ _⟩

theorem candidates_tableLines (index offset : Nat) (partitions : List Partition) :
    (tableLines index offset partitions).filterMap Line.candidate? =
      flaggedCandidates partitions := by
  induction partitions generalizing index offset with
  | nil => rfl
  | cons p rest ih =>
      rw [tableLines, List.filterMap_cons, ih, Partition.candidate?_line]
      cases hflagged : p.flagged with
      | true => simp [flaggedCandidates, hflagged]
      | false => simp [flaggedCandidates, hflagged]

/-- The lines in front of the table. -/
def headLines : List Line :=
  [.other "TOC@0x00000000 Partitions:".toList, .other "-----------".toList]

theorem toList_listingHead :
    listingHead.toList = Text.unlines (headLines.map Line.text) := by
  decide +kernel

theorem headLines_wellFormed : ∀ l ∈ headLines, l.WellFormed ∧ l.Plain := by
  decide +kernel

/-- The lines of the listing, each ended by a line feed alone. -/
def printedLines (e : Emulator) : List (Line × Bool) :=
  (headLines ++ tableLines 0 0 e.partitions).map fun l => (l, false)

/-- The listing is printed line by line. -/
theorem listing_eq_print (e : Emulator) : e.listing = Listing.print e.printedLines := by
  apply String.toList_injective
  rw [listing, Text.toList_foldl_append, toList_listingHead, toList_listingLines,
    Listing.toList_print, printedLines, List.map_map, Text.unlines, Text.unlines, Text.unlines,
    ← List.flatMap_append, ← List.map_append]
  congr 1
  apply List.map_congr_left
  intro l _
  exact (List.append_nil l.text).symm

theorem printedLines_wellFormed {e : Emulator} (he : ∀ p ∈ e.partitions, p.Listable) :
    ∀ l ∈ e.printedLines, l.1.WellFormed ∧ l.1.Plain := by
  intro l hl
  obtain ⟨l, hmem, rfl⟩ := List.mem_map.mp hl
  rcases List.mem_append.mp hmem with hhead | htable
  · exact headLines_wellFormed l hhead
  · exact tableLines_wellFormed he 0 0 l htable

theorem candidates_printedLines (e : Emulator) :
    (e.printedLines.filterMap fun l => l.1.candidate?) = flaggedCandidates e.partitions := by
  rw [printedLines, List.filterMap_map, ← candidates_tableLines 0 0 e.partitions]
  rfl

/-- Asked for its listing, the emulator notes that and prints it. -/
theorem run_listArgs (w : World Emulator) :
    tool.run Flasher.listArgs w =
      (.returned (.ok ⟨w.device.listStatus, w.device.listing⟩),
        { w with device := w.device.record .list }) :=
  rfl

theorem candidates_entryLines_listing {e : Emulator} (he : ∀ p ∈ e.partitions, p.Listable) :
    Listing.candidates (Listing.entryLines e.listing) = flaggedCandidates e.partitions := by
  rw [listing_eq_print, Listing.candidates_print fun l hl => (printedLines_wellFormed he l hl).1,
    candidates_printedLines]

theorem candidates_listing {e : Emulator} (he : ∀ p ∈ e.partitions, p.Listable) :
    Listing.candidates e.listing = flaggedCandidates e.partitions := by
  rw [listing_eq_print,
    Listing.candidates_print_plain (fun l hl => (printedLines_wellFormed he l hl).1)
      fun l hl => (printedLines_wellFormed he l hl).2,
    candidates_printedLines]

/-- A query of the emulator returns the flagged partitions. -/
theorem query_tool {w : World Emulator} (hw : ∀ p ∈ w.device.partitions, p.Listable) :
    ∃ w', Listing.query tool w = (.returned (flaggedCandidates w.device.partitions), w') ∧
      w'.device = w.device.record .list := by
  rw [Listing.query_of_run (run_listArgs w), Listing.ofAnswer,
    candidates_entryLines_listing hw]
  exact ⟨_, rfl, rfl⟩

/-- A partition whose flags reach into the next line. -/
def newlineFlags : Emulator :=
  { empty with partitions := [⟨"A", "\nF", []⟩] }

/-- Names alone do not make a table readable: flags that break their line hide the partition. -/
theorem newlineFlags_unread :
    (∀ p ∈ newlineFlags.partitions, p.WellNamed) ∧
      Listing.candidates newlineFlags.listing ≠ flaggedCandidates newlineFlags.partitions ∧
      ∀ w : World Emulator, w.device = newlineFlags →
        (Listing.query tool w).1 ≠ .returned (flaggedCandidates newlineFlags.partitions) := by
  have hflagged : flaggedCandidates newlineFlags.partitions = [⟨"A", false, true⟩] := by
    decide +kernel
  have hread : Listing.candidates newlineFlags.listing = [] := by decide +kernel
  have hcut : Listing.candidates (Listing.entryLines newlineFlags.listing) = [] := by
    decide +kernel
  refine ⟨by decide +kernel, ?_, ?_⟩
  · rw [hread, hflagged]
    exact (List.cons_ne_nil _ _).symm
  · intro w hw heq
    rw [Listing.query_of_run (run_listArgs w), hw, Listing.ofAnswer, hcut, hflagged] at heq
    cases heq

end Emulator

namespace Listing

open Emulator (flaggedCandidates)

/-- What is read from a listing are the entries with the flag `F`, in order, whatever the status of
the tool and whatever else stands in the lines. The listing of an emulator gives its flagged
partitions, in the order of the table, with and without the cut to the entries. -/
theorem query_exact :
    (∀ {δ : Type} (tool : Flasher δ) (w w' : World δ) (status : Int) (ls : List (Line × Bool)),
      (∀ l ∈ ls, l.1.WellFormed) →
        tool.run Flasher.listArgs w = (.returned (.ok ⟨status, print ls⟩), w') →
          (query tool w).1 = .returned (ls.filterMap fun l => l.1.candidate?)) ∧
      ∀ w : World Emulator, (∀ p ∈ w.device.partitions, p.Listable) →
        candidates w.device.listing = flaggedCandidates w.device.partitions ∧
          (query Emulator.tool w).1 = .returned (flaggedCandidates w.device.partitions) := by
  refine ⟨fun tool w w' status ls hls hrun => query_print hls hrun, fun w hw => ?_⟩
  obtain ⟨w', hquery, _⟩ := Emulator.query_tool hw
  exact ⟨Emulator.candidates_listing hw, congrArg Prod.fst hquery⟩

/-- Noise with flags, an entry, and an entry with an `F` and an `E` outside of its flags. -/
def mixedLines : List (Line × Bool) :=
  [(.other "TOC [EF]".toList, true),
   (.entry "0F".toList 2 "HBEL".toList "0xE0 ".toList "---F-".toList, true),
   (.entry "FE".toList 0 "NVRAM".toList "0xFE ".toList "--P--".toList, false)]

/-- A tool that answers everything with the mixed lines and a failure. -/
def mixedTool : Flasher Unit := ⟨"pflash", fun _ => pure (.ok ⟨3, print mixedLines⟩)⟩

theorem mixedLines_exact :
    (∀ l ∈ mixedLines, l.1.WellFormed) ∧
      (query mixedTool ⟨⟨⟨[]⟩, [], "/tmp", 0⟩, [], ()⟩).1 =
        .returned [⟨"HBEL", false, true⟩] ∧
      (∀ p ∈ Emulator.standard.partitions, p.Listable) ∧
      (query Emulator.tool ⟨⟨⟨[]⟩, [], "/tmp", 0⟩, [], .standard⟩).1 =
        .returned (flaggedCandidates Emulator.standard.partitions) := by
  have hmixed : ∀ l ∈ mixedLines, l.1.WellFormed := by decide +kernel
  have hstandard : ∀ p ∈ Emulator.standard.partitions, p.Listable := by decide +kernel
  exact ⟨hmixed, query_exact.1 mixedTool _ _ 3 mixedLines hmixed rfl,
    hstandard, (query_exact.2 ⟨⟨⟨[]⟩, [], "/tmp", 0⟩, [], .standard⟩ hstandard).2⟩

end Listing

end HostFlash
