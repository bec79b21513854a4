import HostFlash.Proofs.Calls.Recording
import HostFlash.Proofs.Listing.Lines

/-!
# A listing is read piece by piece

The cut of a listing to its entries writes out lines that were read, and they are read again. That
is not the identity: a line can lose a second carriage return, and the last line gains a line feed.
Neither matters, since a carriage return at the end of a line is no part of what the line describes
and an empty line describes nothing. So both readings of a listing are one pass over the pieces
between its line feeds. The cut and the whole listing agree on the lines that begin like an entry,
and what is read from one part of a listing does not depend on the other parts.
-/

namespace HostFlash

namespace Text

/-- A pass over lines that takes nothing from an empty line and does not see a carriage return at
the end of a line is a pass over the pieces between the line feeds. -/
theorem filterMap_lines {α : Type} {f : List Char → Option α} (hempty : f [] = none)
    (hreturn : ∀ line, f (dropReturn line) = f line) (cs : List Char) :
    (lines cs).filterMap f = (splitOn '\n' cs).filterMap f := by
  have hcomp : f ∘ dropReturn = f := funext hreturn
  obtain ⟨front, final, hpieces⟩ : ∃ front final, splitOn '\n' cs = front ++ [final] :=
    ⟨_, _, (List.dropLast_concat_getLast (splitOn_ne_nil '\n' cs)).symm⟩
  -- The text behind the last line feed is a line if it is not empty, and keeps its carriage return.
  have hfinal : (if final = [] then [] else [final]).filterMap f = [final].filterMap f := by
    split
    next hnil => simp [hnil, hempty]
    next => rfl
  simp only [lines, hpieces, List.dropLast_concat, List.getLast?_concat, Option.getD_some,
    List.filterMap_append, List.filterMap_map, hcomp, hfinal]

end Text

namespace Listing

variable {δ δ₁ δ₂ : Type}

/-! ## Words of a line -/

theorem secondWord?_inv {line name : List Char} (h : secondWord? line = some name) :
    name ≠ [] ∧ ' ' ∉ name ∧ name ⊆ line := by
  rw [secondWord?_eq] at h
  obtain ⟨hcut, hne⟩ := Option.filter_eq_some_iff.mp h
  obtain ⟨⟨word, rest⟩, hparts, rfl⟩ := Option.map_eq_some_iff.mp hcut
  obtain ⟨hword, hrest⟩ := Text.cutAt?_eq_some_iff.mp hparts
  refine ⟨of_decide_eq_true hne, hword, ?_⟩
  intro c hc
  have hmem : c ∈ (line.dropWhile (· ≠ ' ')).dropWhile (· = ' ') := by
    rw [hrest]
    exact List.mem_append_left _ hc
  exact (List.dropWhile_suffix _).subset ((List.dropWhile_suffix _).subset hmem)

/-- The name of a candidate is one word of its line. -/
theorem name_of_candidate? {line : List Char} {c : Candidate} (hline : '\n' ∉ line)
    (hc : candidate? line = some c) :
    c.name ≠ "" ∧ ' ' ∉ c.name.toList ∧ '\n' ∉ c.name.toList := by
  simp only [candidate?] at hc
  split at hc
  next =>
    obtain ⟨name, hname, rfl⟩ := Option.map_eq_some_iff.mp hc
    obtain ⟨hne, hspace, hsubset⟩ := secondWord?_inv hname
    refine ⟨?_, ?_, ?_⟩
    · exact fun heq => hne (String.ofList_eq_empty_iff.mp heq)
    · rwa [String.toList_ofList]
    · rw [String.toList_ofList]
      exact fun hmem => hline (hsubset hmem)
  next => cases hc

/-! ## Entries -/

/-- The candidates of the lines that begin like an entry, each read as it stands in the listing. -/
def entries (listing : String) : List Candidate :=
  ((Text.lines listing.toList).filter (['I', 'D'].isPrefixOf ·)).filterMap candidate?

theorem candidates_entryLines_eq_entries (listing : String) :
    candidates (entryLines listing) = entries listing :=
  candidates_entryLines_eq listing

theorem name_of_mem_entries {listing : String} {c : Candidate} (hc : c ∈ entries listing) :
    c.name ≠ "" ∧ ' ' ∉ c.name.toList ∧ '\n' ∉ c.name.toList := by
  obtain ⟨line, hline, hcandidate⟩ := List.mem_filterMap.mp hc
  exact name_of_candidate? (Text.not_mem_of_mem_lines (List.mem_filter.mp hline).1) hcandidate

/-- What a query takes from the answer of the tool: the entries of its output. -/
def taken : Except Failure ToolAnswer → List Candidate
  | .error _ => []
  | .ok out => entries out.output

theorem ofAnswer_snd (answer : Except Failure ToolAnswer) : (ofAnswer answer).2 = taken answer := by
  cases answer with
  | error failure => rfl
  | ok out => rw [ofAnswer, candidates_entryLines_eq_entries, taken]

/-- A query ends as the listing of the tool does. -/
theorem query_fst (tool : Flasher δ) (w : World δ) :
    (query tool w).1 = (tool.list w).1.map taken := by
  unfold query
  rw [Action.bind_apply]
  cases tool.list w with
  | mk ending w' =>
      cases ending with
      | returned answer => exact congrArg Ending.returned (ofAnswer_snd answer)
      | unwound reason => rfl

/-- A query takes from the output of the tool the candidates of the lines that begin like an
entry. The detour over the cut listing neither loses nor adds nor changes one, whatever the
listing, and the names of all of them are words. -/
theorem query_entries (tool : Flasher δ) (w : World δ) :
    (query tool w).1 = (tool.list w).1.map taken ∧
      ∀ listing, candidates (entryLines listing) = entries listing ∧
        ∀ c ∈ entries listing, c.name ≠ "" ∧ ' ' ∉ c.name.toList ∧ '\n' ∉ c.name.toList := by
  refine ⟨query_fst tool w, fun listing => ⟨candidates_entryLines_eq_entries listing, ?_⟩⟩
  intro c hc
  exact name_of_mem_entries hc

example : entries "ID=01 HBEL 0 [E-F]\r\r\n ID=02 NVRAM 0 [F]\r\nID=03 [F]\nID=04 GUARD 0 [F" =
    [⟨"HBEL", true, true⟩, ⟨"GUARD", false, true⟩] := by
  decide +kernel

/-! ## Pieces -/

/-- The candidate that a line describes, if it begins like an entry. -/
def entryCandidate? (line : List Char) : Option Candidate :=
  if ['I', 'D'].isPrefixOf line then candidate? line else none

theorem entries_eq_filterMap (listing : String) :
    entries listing = (Text.lines listing.toList).filterMap entryCandidate? :=
  List.filterMap_filter ..

theorem entryCandidate?_dropReturn (line : List Char) :
    entryCandidate? (Text.dropReturn line) = entryCandidate? line := by
  have hbegins : ['I', 'D'].isPrefixOf (Text.dropReturn line) = ['I', 'D'].isPrefixOf line := by
    unfold Text.dropReturn
    split
    next hlast =>
      obtain ⟨front, rfl⟩ := List.getLast?_eq_some_iff.mp hlast
      rw [List.dropLast_concat, Bool.eq_iff_iff, List.isPrefixOf_iff_prefix,
        List.isPrefixOf_iff_prefix]
      exact (Text.prefix_append_cons_iff (by decide) front []).symm
    next => rfl
  rw [entryCandidate?, entryCandidate?, hbegins, candidate?_dropReturn]

theorem candidates_eq_pieces (listing : String) :
    candidates listing = (Text.splitOn '\n' listing.toList).filterMap candidate? :=
  Text.filterMap_lines rfl candidate?_dropReturn _

theorem entries_eq_pieces (listing : String) :
    entries listing = (Text.splitOn '\n' listing.toList).filterMap entryCandidate? := by
  rw [entries_eq_filterMap, Text.filterMap_lines rfl entryCandidate?_dropReturn]

/-- A line feed parts the pieces in front of it from those behind it. -/
theorem splitOn_toList_append (a b : String) :
    Text.splitOn '\n' (a ++ "\n" ++ b).toList =
      Text.splitOn '\n' a.toList ++ Text.splitOn '\n' b.toList := by
  have htext : (a ++ "\n" ++ b).toList = a.toList ++ '\n' :: b.toList := by simp
  rw [htext, Text.splitOn_append_cons]

theorem candidates_append (a b : String) :
    candidates (a ++ "\n" ++ b) = candidates a ++ candidates b := by
  simp only [candidates_eq_pieces, splitOn_toList_append, List.filterMap_append]

theorem entries_append (a b : String) :
    entries (a ++ "\n" ++ b) = entries a ++ entries b := by
  simp only [entries_eq_pieces, splitOn_toList_append, List.filterMap_append]

/-- A query returns what is taken from the answer to it. -/
theorem query_fst_of_list {tool : Flasher δ} {w : World δ} {status : Int} {listing : String}
    (hlist : (tool.list w).1 = .returned (.ok ⟨status, listing⟩)) :
    (query tool w).1 = .returned (entries listing) := by
  rw [query_fst, hlist]
  rfl

/-- Of two parts of a listing with a line feed between them the first is read and then the second,
as if each were all of the listing. Queries take the same from a tool that prints both parts as
from two tools that print one each, whatever state the tools and their statuses are in. -/
theorem reading_append (a b : String) :
    candidates (a ++ "\n" ++ b) = candidates a ++ candidates b ∧
      ∀ (tool₁ : Flasher δ₁) (tool₂ : Flasher δ₂) (tool : Flasher δ) (w₁ : World δ₁)
        (w₂ : World δ₂) (w : World δ) (status₁ status₂ status : Int),
        (tool₁.list w₁).1 = .returned (.ok ⟨status₁, a⟩) →
        (tool₂.list w₂).1 = .returned (.ok ⟨status₂, b⟩) →
        (tool.list w).1 = .returned (.ok ⟨status, a ++ "\n" ++ b⟩) →
        ∃ first second, (query tool₁ w₁).1 = .returned first ∧
          (query tool₂ w₂).1 = .returned second ∧
          (query tool w).1 = .returned (first ++ second) := by
  refine ⟨candidates_append a b, ?_⟩
  intro tool₁ tool₂ tool w₁ w₂ w status₁ status₂ status hfirst hsecond hboth
  refine ⟨entries a, entries b, query_fst_of_list hfirst, query_fst_of_list hsecond, ?_⟩
  rw [query_fst_of_list hboth, entries_append]

/-- A tool that answers everything alike. -/
def answering (out : ToolAnswer) : Flasher Unit := ⟨"pflash", fun _ => pure (.ok out)⟩

/-- A world for such a tool. -/
def bareWorld : World Unit := ⟨⟨⟨[]⟩, [], "/tmp", 0⟩, [], ()⟩

/-- An entry, and the beginning of another one with a carriage return. -/
def openPart : String := "ID=01 HBEL 0 [E-F]\nID=02 NVR\r"

/-- The rest of an entry, and a whole one. -/
def closingPart : String := "AM 0 [F]\nID=03 GUARD 0 [--F]"

theorem openPart_append :
    (query (answering ⟨0, openPart⟩) bareWorld).1 = .returned [⟨"HBEL", true, true⟩] ∧
      (query (answering ⟨3, closingPart⟩) bareWorld).1 = .returned [⟨"GUARD", false, true⟩] ∧
      (query (answering ⟨1, openPart ++ "\n" ++ closingPart⟩) bareWorld).1 =
        .returned [⟨"HBEL", true, true⟩, ⟨"GUARD", false, true⟩] := by
  have hopen : (query (answering ⟨0, openPart⟩) bareWorld).1 =
      .returned [⟨"HBEL", true, true⟩] := by
    decide +kernel
  have hclosing : (query (answering ⟨3, closingPart⟩) bareWorld).1 =
      .returned [⟨"GUARD", false, true⟩] := by
    decide +kernel
  obtain ⟨first, second, hfirst, hsecond, hboth⟩ :=
    (reading_append openPart closingPart).2 (answering ⟨0, openPart⟩) (answering ⟨3, closingPart⟩)
      (answering ⟨1, openPart ++ "\n" ++ closingPart⟩) bareWorld bareWorld bareWorld 0 3 1
      rfl rfl rfl
  obtain rfl := Ending.returned.inj (hopen.symm.trans hfirst)
  obtain rfl := Ending.returned.inj (hclosing.symm.trans hsecond)
  exact ⟨hopen, hclosing, hboth⟩

end Listing

end HostFlash
