import HostFlash.Flash.Listing

/-!
# Lines of a listing

Splitting a text into lines undoes the writing of lines, and what is left of a listing after its
cut to the entries is read line by line like the listing itself.
-/

namespace HostFlash.Text

/-! ## Splitting -/

/-- A separator ends the piece that is being read. -/
theorem splitStep_self {separator : Char} {pieces : List (List Char)} (h : pieces ≠ []) :
    splitStep separator separator pieces = [] :: pieces := by
  cases pieces with
  | nil => exact absurd rfl h
  | cons piece rest => simp [splitStep]

theorem splitStep_ne {separator c : Char} (hc : c ≠ separator) (piece : List Char)
    (pieces : List (List Char)) :
    splitStep separator c (piece :: pieces) = (c :: piece) :: pieces := by
  simp [splitStep, hc]

/-- The first piece of a text reaches to the first separator. -/
theorem splitOn_append {separator : Char} {piece : List Char} (hpiece : separator ∉ piece)
    (rest : List Char) :
    splitOn separator (piece ++ separator :: rest) = piece :: splitOn separator rest := by
  induction piece with
  | nil => exact splitStep_self (splitOn_ne_nil separator rest)
  | cons c piece ih =>
      rw [List.mem_cons, not_or] at hpiece
      rw [List.cons_append, splitOn_cons, ih hpiece.2, splitStep_ne (Ne.symm hpiece.1)]

theorem splitOn_of_not_mem {separator : Char} {cs : List Char} (hcs : separator ∉ cs) :
    splitOn separator cs = [cs] := by
  induction cs with
  | nil => rfl
  | cons c cs ih =>
      rw [List.mem_cons, not_or] at hcs
      rw [splitOn_cons, ih hcs.2, splitStep_ne (Ne.symm hcs.1)]

/-- A separator parts the pieces in front of it from those behind it. -/
theorem splitOn_append_cons (separator : Char) (front rest : List Char) :
    splitOn separator (front ++ separator :: rest) =
      splitOn separator front ++ splitOn separator rest := by
  induction front with
  | nil => exact splitStep_self (splitOn_ne_nil separator rest)
  | cons c front ih =>
      rw [List.cons_append, splitOn_cons, ih, splitOn_cons]
      cases hpieces : splitOn separator front with
      | nil => exact absurd hpieces (splitOn_ne_nil separator front)
      | cons piece pieces =>
          simp only [List.cons_append, splitStep]
          split <;> rfl

/-- Pieces are found again behind one another, with a separator in front of each but the first. -/
theorem splitOn_append_flatMap {separator : Char} {first : List Char} {rest : List (List Char)}
    (hfirst : separator ∉ first) (hrest : ∀ piece ∈ rest, separator ∉ piece) :
    splitOn separator (first ++ rest.flatMap (separator :: ·)) = first :: rest := by
  induction rest generalizing first with
  | nil => rw [List.flatMap_nil, List.append_nil, splitOn_of_not_mem hfirst]
  | cons piece rest ih =>
      rw [List.forall_mem_cons] at hrest
      rw [List.flatMap_cons, List.cons_append, splitOn_append hfirst, ih hrest.1 hrest.2]

/-- A text is put together again from its pieces. -/
theorem append_flatMap_of_splitOn {separator : Char} {cs first : List Char}
    {rest : List (List Char)} (hpieces : splitOn separator cs = first :: rest) :
    first ++ rest.flatMap (separator :: ·) = cs := by
  induction cs generalizing first rest with
  | nil =>
      obtain ⟨rfl, rfl⟩ := List.cons.inj hpieces
      rfl
  | cons c cs ih =>
      rw [splitOn_cons] at hpieces
      cases hsplit : splitOn separator cs with
      | nil => exact absurd hsplit (splitOn_ne_nil separator cs)
      | cons piece pieces =>
          rw [hsplit] at hpieces
          by_cases hc : c = separator
          · subst hc
            rw [splitStep_self (List.cons_ne_nil _ _)] at hpieces
            obtain ⟨rfl, rfl⟩ := List.cons.inj hpieces
            exact congrArg (c :: ·) (ih hsplit)
          · rw [splitStep_ne hc] at hpieces
            obtain ⟨rfl, rfl⟩ := List.cons.inj hpieces
            exact congrArg (c :: ·) (ih hsplit)

theorem not_mem_of_mem_splitOn {separator : Char} {cs piece : List Char}
    (h : piece ∈ splitOn separator cs) : separator ∉ piece := by
  induction cs generalizing piece with
  | nil =>
      rw [splitOn_nil, List.mem_singleton] at h
      simp [h]
  | cons c cs ih =>
      rw [splitOn_cons] at h
      by_cases hc : c = separator
      · subst hc
        rw [splitStep_self (splitOn_ne_nil c cs), List.mem_cons] at h
        rcases h with rfl | h
        · simp
        · exact ih h
      · cases hpieces : splitOn separator cs with
        | nil => exact absurd hpieces (splitOn_ne_nil separator cs)
        | cons first pieces =>
            rw [hpieces] at h ih
            rw [splitStep_ne hc, List.mem_cons] at h
            rcases h with rfl | h
            · rw [List.mem_cons, not_or]
              exact ⟨Ne.symm hc, ih List.mem_cons_self⟩
            · exact ih (List.mem_cons_of_mem _ h)

/-! ## Lines -/

/-- A text as written line by line, with a line feed behind each. -/
def unlines (ls : List (List Char)) : List Char := ls.flatMap (· ++ ['\n'])

theorem splitOn_unlines {ls : List (List Char)} (hls : ∀ l ∈ ls, '\n' ∉ l) :
    splitOn '\n' (unlines ls) = ls ++ [[]] := by
  induction ls with
  | nil => rfl
  | cons l ls ih =>
      rw [unlines, List.flatMap_cons, List.append_assoc, List.singleton_append,
        splitOn_append (hls l List.mem_cons_self), List.cons_append]
      exact congrArg _ (ih fun l' hl' => hls l' (List.mem_cons_of_mem _ hl'))

/-- Written lines are read again, each without a carriage return at its end. -/
theorem lines_unlines {ls : List (List Char)} (hls : ∀ l ∈ ls, '\n' ∉ l) :
    lines (unlines ls) = ls.map dropReturn := by
  simp [lines, splitOn_unlines hls]

theorem dropReturn_prefix_self (line : List Char) : dropReturn line <+: line := by
  unfold dropReturn
  split
  · exact List.dropLast_prefix line
  · exact List.prefix_refl line

theorem dropReturn_concat (line : List Char) : dropReturn (line ++ ['\r']) = line := by
  simp [dropReturn]

theorem dropReturn_of_concat {line : List Char} {c : Char} (hc : c ≠ '\r') :
    dropReturn (line ++ [c]) = line ++ [c] := by
  simp [dropReturn, hc]

theorem not_mem_of_mem_lines {cs line : List Char} (h : line ∈ lines cs) : '\n' ∉ line := by
  have hpieces : ∀ piece ∈ splitOn '\n' cs, '\n' ∉ piece :=
    fun _ hpiece => not_mem_of_mem_splitOn hpiece
  -- The last line is kept as it is, and is not among the others.
  simp only [lines, List.mem_append, List.mem_map] at h
  rcases h with ⟨piece, hpiece, rfl⟩ | hlast
  · exact fun hmem => hpieces piece (List.dropLast_subset _ hpiece)
      ((dropReturn_prefix_self piece).subset hmem)
  · split at hlast
    · cases hlast
    · rw [List.mem_singleton.mp hlast]
      cases hfinal : (splitOn '\n' cs).getLast? with
      | none => simp
      | some final => exact hpieces final (List.mem_of_getLast? hfinal)

/-! ## The first separator -/

theorem dropWhile_ne_append {separator : Char} {front : List Char} (hfront : separator ∉ front)
    (rest : List Char) :
    (front ++ separator :: rest).dropWhile (· ≠ separator) = separator :: rest := by
  rw [List.dropWhile_append_of_pos, List.dropWhile_cons_of_neg]
  · simp
  · intro c hc
    exact decide_eq_true fun heq => hfront (heq ▸ hc)

theorem takeWhile_ne_append {separator : Char} {front : List Char} (hfront : separator ∉ front)
    (rest : List Char) :
    (front ++ separator :: rest).takeWhile (· ≠ separator) = front := by
  rw [List.takeWhile_append_of_pos, List.takeWhile_cons_of_neg, List.append_nil]
  · simp
  · intro c hc
    exact decide_eq_true fun heq => hfront (heq ▸ hc)

/-- What is behind a separator is behind everything in front of the first one. -/
theorem takeWhile_ne_append_cons {α : Type} [DecidableEq α] (separator : α) (front rest : List α) :
    (front ++ separator :: rest).takeWhile (· ≠ separator) = front.takeWhile (· ≠ separator) := by
  induction front with
  | nil => exact List.takeWhile_cons_of_neg (by simp)
  | cons a front ih => rw [List.cons_append, List.takeWhile_cons, List.takeWhile_cons, ih]

/-- A text without the separator begins no more text behind the separator. -/
theorem prefix_append_cons_iff {α : Type} {start : List α} {separator : α}
    (hstart : separator ∉ start) (front rest : List α) :
    start <+: front ++ separator :: rest ↔ start <+: front := by
  refine ⟨fun h => ?_, fun h => h.trans (List.prefix_append front _)⟩
  obtain ⟨tail, htail⟩ := h
  rcases List.append_eq_append_iff.mp htail with ⟨missing, rfl, _⟩ | ⟨beyond, rfl, hbeyond⟩
  · exact List.prefix_append start missing
  · cases beyond with
    | nil => simp
    | cons c beyond =>
        obtain ⟨rfl, _⟩ := List.cons.inj hbeyond
        exact absurd (List.mem_append_right front List.mem_cons_self) hstart

theorem cutAt?_append {separator : Char} {front : List Char} (hfront : separator ∉ front)
    (rest : List Char) : cutAt? separator (front ++ separator :: rest) = some (front, rest) := by
  rw [cutAt?, dropWhile_ne_append hfront, takeWhile_ne_append hfront]

/-- A character behind a text is dropped with all of it, or stays behind what is left. -/
theorem dropWhile_concat (p : Char → Bool) (cs : List Char) (c : Char) :
    (cs ++ [c]).dropWhile p = cs.dropWhile p ++ [c] ∨
      cs.dropWhile p = [] ∧ (cs ++ [c]).dropWhile p = [] := by
  rw [List.dropWhile_append]
  cases cs.dropWhile p with
  | nil => cases hc : p c <;> simp [hc]
  | cons d ds => exact Or.inl rfl

theorem cutAt?_of_not_mem {separator : Char} {cs : List Char} (hcs : separator ∉ cs) :
    cutAt? separator cs = none := by
  rw [cutAt?, ← List.append_nil cs, List.dropWhile_append_of_pos]
  · rfl
  · exact fun c hc => decide_eq_true fun heq => hcs (heq ▸ hc)

theorem cutAt?_eq_some_iff {separator : Char} {cs front rest : List Char} :
    cutAt? separator cs = some (front, rest) ↔
      separator ∉ front ∧ cs = front ++ separator :: rest := by
  constructor
  · intro h
    by_cases hcs : separator ∈ cs
    · obtain ⟨front', rest', rfl, hfront⟩ := List.eq_append_cons_of_mem hcs
      rw [cutAt?_append hfront] at h
      cases h
      exact ⟨hfront, rfl⟩
    · rw [cutAt?_of_not_mem hcs] at h
      cases h
  · rintro ⟨hfront, rfl⟩
    exact cutAt?_append hfront rest

/-- A character at the end does not move the first separator, unless it is one. -/
theorem cutAt?_concat {separator c : Char} (hc : c ≠ separator) (cs : List Char) :
    (cutAt? separator (cs ++ [c])).map Prod.fst = (cutAt? separator cs).map Prod.fst := by
  by_cases hcs : separator ∈ cs
  · obtain ⟨front, rest, rfl, hfront⟩ := List.eq_append_cons_of_mem hcs
    rw [List.append_assoc, List.cons_append, cutAt?_append hfront, cutAt?_append hfront]
    rfl
  · have hconcat : separator ∉ cs ++ [c] := by simpa [hcs] using hc.symm
    rw [cutAt?_of_not_mem hcs, cutAt?_of_not_mem hconcat]

end HostFlash.Text

namespace HostFlash.Listing

/-- A listing that was cut down to its entries is read line by line. -/
theorem candidates_entryLines (listing : String) :
    candidates (entryLines listing) =
      (((Text.lines listing.toList).filter mayDescribe).map Text.dropReturn).filterMap
        candidate? := by
  have hlines : ∀ l ∈ (Text.lines listing.toList).filter mayDescribe, '\n' ∉ l :=
    fun l hl => Text.not_mem_of_mem_lines (List.mem_filter.mp hl).1
  rw [candidates, entryLines, String.toList_ofList]
  exact congrArg (List.filterMap candidate?) (Text.lines_unlines hlines)

/-- The flags of a line begin at its first bracket. -/
theorem flagBlock_append {front : List Char} (hfront : '[' ∉ front) (flags : List Char) :
    flagBlock (front ++ '[' :: flags) = '[' :: flags :=
  Text.dropWhile_ne_append hfront flags

/-- The second word of a line stands behind the first word and any spaces, before a space. -/
theorem secondWord?_append {first name : List Char} (hfirst : ' ' ∉ first) (hname : ' ' ∉ name)
    (hne : name ≠ []) (gap : Nat) (rest : List Char) :
    secondWord? (first ++ ' ' :: (List.replicate gap ' ' ++ name ++ ' ' :: rest)) =
      some name := by
  have htrim : (' ' :: (List.replicate gap ' ' ++ name ++ ' ' :: rest)).dropWhile (· = ' ') =
      name ++ ' ' :: rest := by
    rw [List.dropWhile_cons_of_pos (by simp), List.append_assoc, List.dropWhile_append_of_pos]
    · cases name with
      | nil => exact absurd rfl hne
      | cons c name =>
          have hc : c ≠ ' ' := fun heq => hname (heq ▸ List.mem_cons_self)
          rw [List.cons_append, List.dropWhile_cons_of_neg]
          simp [hc]
    · intro c hc
      exact decide_eq_true (List.eq_of_mem_replicate hc)
  simp only [secondWord?, Text.dropWhile_ne_append hfirst, htrim, Text.cutAt?_append hname,
    if_neg hne]

/-! ## Carriage returns -/

theorem secondWord?_eq (line : List Char) :
    secondWord? line =
      ((Text.cutAt? ' ' ((line.dropWhile (· ≠ ' ')).dropWhile (· = ' '))).map Prod.fst).filter
        (· ≠ []) := by
  simp only [secondWord?]
  cases Text.cutAt? ' ' ((line.dropWhile (· ≠ ' ')).dropWhile (· = ' ')) with
  | none => rfl
  | some parts =>
      by_cases hword : parts.1 = [] <;> simp [hword, Option.filter]

theorem secondWord?_concat (line : List Char) :
    secondWord? (line ++ ['\r']) = secondWord? line := by
  rw [secondWord?_eq, secondWord?_eq]
  rcases Text.dropWhile_concat (· ≠ ' ') line '\r' with hfirst | ⟨hnone, hfirst⟩
  · rw [hfirst]
    rcases Text.dropWhile_concat (· = ' ') (line.dropWhile (· ≠ ' ')) '\r' with
      hrest | ⟨hnone, hrest⟩
    · rw [hrest, Text.cutAt?_concat (by decide)]
    · rw [hrest, hnone]
  · rw [hfirst, hnone]

theorem contains_flagBlock_concat {flag : Char} (hflag : flag ≠ '\r') (line : List Char) :
    (flagBlock (line ++ ['\r'])).contains flag = (flagBlock line).contains flag := by
  rcases Text.dropWhile_concat (· ≠ '[') line '\r' with hblock | ⟨hnone, hblock⟩
  · rw [flagBlock, hblock, flagBlock]
    simp [hflag]
  · rw [flagBlock, hblock, flagBlock, hnone]

/-- A carriage return behind a line is no part of what the line describes. -/
theorem candidate?_dropReturn (line : List Char) :
    candidate? (Text.dropReturn line) = candidate? line := by
  unfold Text.dropReturn
  split
  next hlast =>
    obtain ⟨front, rfl⟩ := List.getLast?_eq_some_iff.mp hlast
    have hreprovision : reprovisionFlag ≠ '\r' := by decide
    have hecc : eccFlag ≠ '\r' := by decide
    simp only [List.dropLast_concat, candidate?, contains_flagBlock_concat hreprovision,
      contains_flagBlock_concat hecc, secondWord?_concat]
  next => rfl

theorem mem_of_candidate? {line : List Char} {c : Candidate} (hc : candidate? line = some c) :
    reprovisionFlag ∈ line := by
  simp only [candidate?] at hc
  split at hc
  next hflag =>
    have hblock : reprovisionFlag ∈ flagBlock line := by simpa using hflag
    exact (List.dropWhile_suffix _).subset hblock
  next => cases hc

/-- The cut to the entries loses no candidate of a line that begins like an entry. -/
theorem candidates_entryLines_eq (listing : String) :
    candidates (entryLines listing) =
      ((Text.lines listing.toList).filter (['I', 'D'].isPrefixOf ·)).filterMap candidate? := by
  have hreturn : candidate? ∘ Text.dropReturn = candidate? := funext candidate?_dropReturn
  rw [candidates_entryLines, List.filterMap_map, hreturn, List.filterMap_filter,
    List.filterMap_filter]
  congr 1
  funext line
  by_cases hflag : reprovisionFlag ∈ line
  · simp [mayDescribe, hflag]
  · have hnone : candidate? line = none :=
      Option.eq_none_iff_forall_ne_some.mpr fun c hc => hflag (mem_of_candidate? hc)
    simp [hnone]

end HostFlash.Listing
