import Mathlib.Data.List.Basic
import Mathlib.Data.List.TakeWhile
import HostFlash.Proofs.Listing.Lines

/-!
# The format of a listing

The reading of a listing searches each line for the first space and the first bracket. `Line` says
what a listing is made of instead: entries with an id, a name, any text and flags, and lines that
do not begin like an entry. Reading a listing of this format gives the entries with the flag `F`,
in order, and nothing else of a line than its name and its flags matters.
-/

namespace HostFlash.Listing

/-- A line of a listing. -/
inductive Line where
  /-- `ID=` and an id, spaces, a name, a space, any text, and flags in brackets. There are `gap`
  spaces more than the one that must be there. -/
  | entry (id : List Char) (gap : Nat) (name middle flags : List Char)
  | other (text : List Char)
deriving Repr, DecidableEq

namespace Line

/-- The line as it is printed. -/
def text : Line → List Char
  | entry id gap name middle flags =>
      'I' :: 'D' :: '=' :: id ++ ' ' :: (List.replicate gap ' ' ++ name ++
        ' ' :: (middle ++ '[' :: (flags ++ [']'])))
  | other text => text

/-- The fields of an entry do not hold the characters that end them, and other lines do not begin
like an entry. -/
def WellFormed : Line → Prop
  | entry id _ name middle flags =>
      (' ' ∉ id ∧ '[' ∉ id ∧ '\n' ∉ id) ∧
        (name ≠ [] ∧ ' ' ∉ name ∧ '[' ∉ name ∧ '\n' ∉ name) ∧
        ('[' ∉ middle ∧ '\n' ∉ middle) ∧ '\n' ∉ flags
  | other text => '\n' ∉ text ∧ ¬ ['I', 'D'] <+: text

instance : (l : Line) → Decidable l.WellFormed
  | entry _ _ _ _ _ => inferInstanceAs (Decidable (_ ∧ _))
  | other _ => inferInstanceAs (Decidable (_ ∧ _))

/-- The line is an entry or has no bracket. -/
def Plain : Line → Prop
  | entry _ _ _ _ _ => True
  | other text => '[' ∉ text

instance : (l : Line) → Decidable l.Plain
  | entry _ _ _ _ _ => inferInstanceAs (Decidable True)
  | other _ => inferInstanceAs (Decidable (¬ _))

/-- The candidate that an entry with the flag `F` stands for. -/
def candidate? : Line → Option Candidate
  | entry _ _ name _ flags =>
      if 'F' ∈ flags then
        some { name := String.ofList name, hasEcc := decide ('E' ∈ flags), reprovision := true }
      else none
  | other _ => none

end Line

/-- The listing with these lines, each ended by a line feed, with a carriage return in front of it
if the line is marked so. -/
def print (ls : List (Line × Bool)) : String :=
  String.ofList (ls.flatMap fun l => l.1.text ++ if l.2 then ['\r', '\n'] else ['\n'])

/-! ## Reading one line -/

theorem newline_not_mem_text {l : Line} (hl : l.WellFormed) : '\n' ∉ l.text := by
  cases l with
  | entry id gap name middle flags =>
      obtain ⟨⟨_, _, hid⟩, ⟨_, _, _, hname⟩, ⟨_, hmiddle⟩, hflags⟩ := hl
      simp [Line.text, hid, hname, hmiddle, hflags]
  | other text => exact hl.1

/-- An entry is a candidate by its flags alone, whatever its id and the text in it. -/
theorem candidate?_text_entry {id name middle flags : List Char} {gap : Nat}
    (hl : (Line.entry id gap name middle flags).WellFormed) :
    candidate? (Line.entry id gap name middle flags).text =
      (Line.entry id gap name middle flags).candidate? := by
  obtain ⟨⟨hidSpace, hidBracket, _⟩, ⟨hne, hnameSpace, hnameBracket, _⟩, ⟨hmiddle, _⟩, _⟩ := hl
  have hflags : flagBlock (Line.entry id gap name middle flags).text =
      '[' :: (flags ++ [']']) := by
    have htext : (Line.entry id gap name middle flags).text =
        ('I' :: 'D' :: '=' :: id ++ ' ' :: (List.replicate gap ' ' ++ name ++ ' ' :: middle)) ++
          '[' :: (flags ++ [']']) := by
      simp [Line.text]
    rw [htext]
    apply flagBlock_append
    simp [hidBracket, hnameBracket, hmiddle]
  have hname : secondWord? (Line.entry id gap name middle flags).text = some name := by
    apply secondWord?_append _ hnameSpace hne
    simp [hidSpace]
  have hmark : ('[' :: (flags ++ [']'])).contains reprovisionFlag = decide ('F' ∈ flags) := by
    simp [reprovisionFlag]
  have hecc : ('[' :: (flags ++ [']'])).contains eccFlag = decide ('E' ∈ flags) := by
    simp [eccFlag]
  simp only [candidate?, hflags, hname, hmark, hecc, decide_eq_true_eq, Option.map_some]
  rfl

/-- An entry keeps its text in front of either line ending. -/
theorem dropReturn_entry (id : List Char) (gap : Nat) (name middle flags : List Char) :
    Text.dropReturn (Line.entry id gap name middle flags).text =
      (Line.entry id gap name middle flags).text := by
  have htext : (Line.entry id gap name middle flags).text =
      ('I' :: 'D' :: '=' :: id ++ ' ' :: (List.replicate gap ' ' ++ name ++
        ' ' :: (middle ++ '[' :: flags))) ++ [']'] := by
    simp [Line.text]
  rw [htext]
  exact Text.dropReturn_of_concat (by decide)

/-- A line as the reader has it: without its line ending. -/
theorem dropReturn_ended (l : Line) (withReturn : Bool) :
    Text.dropReturn (l.text ++ if withReturn then ['\r'] else []) = l.text ∨
      Text.dropReturn (l.text ++ if withReturn then ['\r'] else []) = Text.dropReturn l.text := by
  cases withReturn with
  | true => exact Or.inl (Text.dropReturn_concat l.text)
  | false => exact Or.inr (congrArg Text.dropReturn (List.append_nil l.text))

/-- An entry is read back, whatever its line ending. -/
theorem dropReturn_entry_ended (id : List Char) (gap : Nat) (name middle flags : List Char)
    (withReturn : Bool) :
    Text.dropReturn ((Line.entry id gap name middle flags).text ++
        if withReturn then ['\r'] else []) = (Line.entry id gap name middle flags).text := by
  rcases dropReturn_ended (.entry id gap name middle flags) withReturn with h | h
  · exact h
  · rw [h, dropReturn_entry]

/-- Of another line a part from its beginning is read. -/
theorem dropReturn_other_ended (text : List Char) (withReturn : Bool) :
    Text.dropReturn ((Line.other text).text ++ if withReturn then ['\r'] else []) <+: text := by
  rcases dropReturn_ended (.other text) withReturn with h | h
  · rw [h]
    exact List.prefix_refl text
  · rw [h]
    exact Text.dropReturn_prefix_self text

theorem candidate?_of_no_bracket {line : List Char} (hline : '[' ∉ line) :
    candidate? line = none := by
  have hflags : flagBlock line = [] := by
    rw [flagBlock, List.dropWhile_eq_nil_iff]
    exact fun c hc => decide_eq_true fun heq => hline (heq ▸ hc)
  rw [candidate?, hflags]
  rfl

/-- The cut to the entries takes a line for what it stands for. -/
theorem selected_eq_candidate? {l : Line} (hl : l.WellFormed) (withReturn : Bool) :
    (if mayDescribe (Text.dropReturn (l.text ++ if withReturn then ['\r'] else [])) then
        candidate? (Text.dropReturn (Text.dropReturn
          (l.text ++ if withReturn then ['\r'] else [])))
      else none) = l.candidate? := by
  cases l with
  | entry id gap name middle flags =>
      rw [dropReturn_entry_ended, dropReturn_entry, candidate?_text_entry hl]
      split
      · rfl
      -- The cut drops an entry only if there is no `F` anywhere in it.
      next hmay =>
        have hflag : 'F' ∉ flags := by
          intro hmem
          apply hmay
          simp [mayDescribe, Line.text, reprovisionFlag, hmem]
        exact (if_neg hflag).symm
  | other text =>
      have hmay : ¬ mayDescribe (Text.dropReturn ((Line.other text).text ++
          if withReturn then ['\r'] else [])) = true := by
        intro hmay
        rw [mayDescribe, Bool.and_eq_true, List.isPrefixOf_iff_prefix] at hmay
        exact hl.2 (hmay.1.trans (dropReturn_other_ended text withReturn))
      rw [if_neg hmay]
      rfl

/-- Without the cut a line without a bracket is no candidate either. -/
theorem candidate?_ended {l : Line} (hl : l.WellFormed) (hplain : l.Plain)
    (withReturn : Bool) :
    candidate? (Text.dropReturn (l.text ++ if withReturn then ['\r'] else [])) =
      l.candidate? := by
  cases l with
  | entry id gap name middle flags =>
      rw [dropReturn_entry_ended, candidate?_text_entry hl]
  | other text =>
      exact candidate?_of_no_bracket fun hmem =>
        hplain ((dropReturn_other_ended text withReturn).subset hmem)

/-! ## Reading a listing -/

theorem toList_print (ls : List (Line × Bool)) :
    (print ls).toList =
      Text.unlines (ls.map fun l => l.1.text ++ if l.2 then ['\r'] else []) := by
  rw [print, String.toList_ofList, Text.unlines, List.flatMap_map]
  congr 1
  funext l
  cases l.2 <;> simp

theorem lines_print {ls : List (Line × Bool)} (hls : ∀ l ∈ ls, l.1.WellFormed) :
    Text.lines (print ls).toList =
      ls.map fun l => Text.dropReturn (l.1.text ++ if l.2 then ['\r'] else []) := by
  rw [toList_print, Text.lines_unlines, List.map_map]
  · rfl
  · intro raw hraw
    obtain ⟨l, hl, rfl⟩ := List.mem_map.mp hraw
    have htext := newline_not_mem_text (hls l hl)
    cases l.2 <;> simp [htext]

/-- The cut of a listing to its entries has the candidates of the listing, in order. -/
theorem candidates_print {ls : List (Line × Bool)} (hls : ∀ l ∈ ls, l.1.WellFormed) :
    candidates (entryLines (print ls)) = ls.filterMap fun l => l.1.candidate? := by
  rw [candidates_entryLines, lines_print hls, List.filterMap_map, List.filterMap_filter,
    List.filterMap_map]
  apply List.filterMap_congr
  intro l hl
  exact selected_eq_candidate? (hls l hl) l.2

/-- A whole listing has the same candidates, if no other line has a bracket. -/
theorem candidates_print_plain {ls : List (Line × Bool)} (hls : ∀ l ∈ ls, l.1.WellFormed)
    (hplain : ∀ l ∈ ls, l.1.Plain) :
    candidates (print ls) = ls.filterMap fun l => l.1.candidate? := by
  rw [candidates, lines_print hls, List.filterMap_map]
  apply List.filterMap_congr
  intro l hl
  exact candidate?_ended (hls l hl) (hplain l hl) l.2

variable {δ : Type}

/-- A query asks the tool once, and what it returns is in the answer. -/
theorem query_of_run {tool : Flasher δ} {w w' : World δ} {answer : Except Failure ToolAnswer}
    (hrun : tool.run Flasher.listArgs w = (.returned answer, w')) :
    query tool w =
      (.returned (ofAnswer answer).2, { w' with log := w'.log ++ (ofAnswer answer).1 }) :=
  Action.bind_returned hrun _

/-- A query returns the candidates of the listing that the tool prints, whatever its status. -/
theorem query_print {tool : Flasher δ} {w w' : World δ} {status : Int}
    {ls : List (Line × Bool)} (hls : ∀ l ∈ ls, l.1.WellFormed)
    (hrun : tool.run Flasher.listArgs w = (.returned (.ok ⟨status, print ls⟩), w')) :
    (query tool w).1 = .returned (ls.filterMap fun l => l.1.candidate?) := by
  rw [query_of_run hrun, ofAnswer, candidates_print hls]

end HostFlash.Listing
