import Mathlib.Data.List.TakeWhile
import HostFlash.Proofs.Version.Naming

/-!
# The layout of a version text

`Outline` says what a version text is made of: a line with the version, and lines that each hold an
indent and a component. An outline is written with one line feed more at the end or without it, but
not without it if its last line is empty. Every text is written so, and what it names is read off
its outline.
-/

namespace HostFlash.Firmware.Version

/-! ## Outlines -/

/-- A line behind the first: an indent of blanks, and a component that begins with none. -/
structure ComponentLine where
  indent : List Char
  body : List Char
  indent_blank : ∀ c ∈ indent, Text.isBlank c = true ∧ c ≠ '\n'
  body_line : '\n' ∉ body
  body_head : ∀ c, body.head? = some c → Text.isBlank c = false

/-- The line as it is written. -/
def ComponentLine.text (l : ComponentLine) : List Char := l.indent ++ l.body

/-- The lines of a version text. -/
structure Outline where
  version : List Char
  components : List ComponentLine
  version_line : '\n' ∉ version

namespace Outline

/-- The lines as they are written, with a line feed between any two. -/
def text (o : Outline) : List Char :=
  o.version ++ o.components.flatMap fun l => '\n' :: l.text

/-- The text is written in these lines. A line feed at its end belongs to none of them, and may be
left out unless another one would be the last character then. -/
def Writes (o : Outline) (text : String) : Prop :=
  text.toList = o.text ++ ['\n'] ∨ text.toList = o.text ∧ o.text.getLast? ≠ some '\n'

/-- The components without their indents. -/
def bodies (o : Outline) : List (List Char) := o.components.map (·.body)

/-- What the lines name. -/
def named (o : Outline) : Version :=
  ⟨String.ofList o.version, String.ofList (List.intercalate [','] o.bodies)⟩

end Outline

/-! ## Reading an outline -/

theorem ComponentLine.newline_not_mem (l : ComponentLine) : '\n' ∉ l.text := by
  intro hmem
  rcases List.mem_append.mp hmem with hindent | hbody
  · exact (l.indent_blank '\n' hindent).2 rfl
  · exact l.body_line hbody

/-- The indent is dropped and nothing else. -/
theorem ComponentLine.trimStart_text (l : ComponentLine) : Text.trimStart l.text = l.body := by
  rw [Text.trimStart, ComponentLine.text,
    List.dropWhile_append_of_pos fun c hc => (l.indent_blank c hc).1]
  cases hbody : l.body with
  | nil => rfl
  | cons c rest =>
      rw [List.dropWhile_cons_of_neg]
      rw [l.body_head c (by rw [hbody, List.head?_cons])]
      exact Bool.false_ne_true

theorem Outline.splitOn_text (o : Outline) :
    Text.splitOn '\n' o.text = o.version :: o.components.map (·.text) := by
  have hlines : ∀ piece ∈ o.components.map (·.text), '\n' ∉ piece :=
    List.forall_mem_map.mpr fun l _ => l.newline_not_mem
  rw [← Text.splitOn_append_flatMap o.version_line hlines, List.flatMap_map]
  rfl

theorem withoutFinalNewline_concat (cs : List Char) :
    withoutFinalNewline (cs ++ ['\n']) = cs := by
  rw [withoutFinalNewline, if_pos List.getLast?_concat, List.dropLast_concat]

theorem withoutFinalNewline_of_ne {cs : List Char} (hcs : cs.getLast? ≠ some '\n') :
    withoutFinalNewline cs = cs :=
  if_neg hcs

/-- The line feed at the very end is left out, whether the outline is written with it or not. -/
theorem Outline.Writes.withoutFinalNewline_eq {o : Outline} {text : String} (h : o.Writes text) :
    withoutFinalNewline text.toList = o.text := by
  rcases h with hclosed | ⟨hopen, hlast⟩
  · rw [hclosed, withoutFinalNewline_concat]
  · rw [hopen, withoutFinalNewline_of_ne hlast]

theorem parse_of_writes {o : Outline} {text : String} (h : o.Writes text) :
    parse text = o.named := by
  have hbodies : (o.components.map (·.text)).map Text.trimStart = o.bodies := by
    rw [List.map_map]
    exact List.map_congr_left fun l _ => l.trimStart_text
  simp only [parse, h.withoutFinalNewline_eq, o.splitOn_text, hbodies]
  rfl

/-! ## Every text has an outline -/

/-- A line is its blanks in front and what is left behind them. -/
def ComponentLine.ofText (line : List Char) (hline : '\n' ∉ line) : ComponentLine where
  indent := line.takeWhile Text.isBlank
  body := line.dropWhile Text.isBlank
  indent_blank c hc :=
    ⟨List.mem_takeWhile_imp hc, fun heq => hline (heq ▸ (List.takeWhile_prefix _).subset hc)⟩
  body_line hmem := hline ((List.dropWhile_suffix _).subset hmem)
  body_head c hc := by
    have hhead := List.head?_dropWhile_not Text.isBlank line
    rwa [hc] at hhead

theorem ComponentLine.text_ofText {line : List Char} (hline : '\n' ∉ line) :
    (ofText line hline).text = line :=
  List.takeWhile_append_dropWhile

theorem exists_components {pieces : List (List Char)} (hpieces : ∀ piece ∈ pieces, '\n' ∉ piece) :
    ∃ components : List ComponentLine, components.map (·.text) = pieces := by
  induction pieces with
  | nil => exact ⟨[], rfl⟩
  | cons piece pieces ih =>
      rw [List.forall_mem_cons] at hpieces
      obtain ⟨components, hcomponents⟩ := ih hpieces.2
      refine ⟨.ofText piece hpieces.1 :: components, ?_⟩
      rw [List.map_cons, ComponentLine.text_ofText, hcomponents]

/-- The pieces between the line feeds are the lines of an outline. -/
theorem exists_outline (cs : List Char) : ∃ o : Outline, o.text = cs := by
  cases hsplit : Text.splitOn '\n' cs with
  | nil => exact absurd hsplit (Text.splitOn_ne_nil '\n' cs)
  | cons first rest =>
      have hpieces : ∀ piece ∈ first :: rest, '\n' ∉ piece := fun piece hpiece =>
        Text.not_mem_of_mem_splitOn (hsplit ▸ hpiece)
      rw [List.forall_mem_cons] at hpieces
      obtain ⟨components, rfl⟩ := exists_components hpieces.2
      refine ⟨⟨first, components, hpieces.1⟩, ?_⟩
      rw [← Text.append_flatMap_of_splitOn hsplit, List.flatMap_map]
      rfl

theorem exists_writes (text : String) : ∃ o : Outline, o.Writes text := by
  -- A line feed at the very end is left out of the lines, and only that one.
  by_cases hlast : text.toList.getLast? = some '\n'
  · obtain ⟨front, hfront⟩ := List.getLast?_eq_some_iff.mp hlast
    obtain ⟨o, ho⟩ := exists_outline front
    exact ⟨o, Or.inl (by rw [hfront, ho])⟩
  · obtain ⟨o, ho⟩ := exists_outline text.toList
    exact ⟨o, Or.inr ⟨ho.symm, ho ▸ hlast⟩⟩

/-! ## What does not matter, and what does -/

/-- One line feed at the end is ignored. -/
theorem parse_append_newline {text : String} (hlast : text.toList.getLast? ≠ some '\n') :
    parse (text ++ "\n") = parse text := by
  obtain ⟨o, ho⟩ := exists_writes text
  have hopen : o.text = text.toList := by
    rw [← ho.withoutFinalNewline_eq, withoutFinalNewline_of_ne hlast]
  have hclosed : o.Writes (text ++ "\n") := Or.inl (by rw [String.toList_append, hopen]; rfl)
  rw [parse_of_writes hclosed, parse_of_writes ho]

/-- The line with a carriage return at its end. In a line of blanks it is one more of them. -/
def ComponentLine.withReturn (l : ComponentLine) : ComponentLine :=
  if hbody : l.body = [] then
    { indent := l.indent ++ ['\r']
      body := []
      indent_blank := by
        intro c hc
        rcases List.mem_append.mp hc with hc | hc
        · exact l.indent_blank c hc
        · rw [List.mem_singleton.mp hc]
          decide
      body_line := List.not_mem_nil
      body_head := fun c hc => nomatch hc }
  else
    { indent := l.indent
      body := l.body ++ ['\r']
      indent_blank := l.indent_blank
      body_line := by simpa using l.body_line
      body_head := by
        intro c hc
        obtain ⟨first, rest, hbody⟩ := List.exists_cons_of_ne_nil hbody
        rw [hbody] at hc
        exact l.body_head c (by rw [hbody]; exact hc) }

theorem ComponentLine.text_withReturn (l : ComponentLine) :
    l.withReturn.text = l.text ++ ['\r'] := by
  unfold withReturn
  split
  next hbody => simp [ComponentLine.text, hbody]
  next => simp [ComponentLine.text]

theorem ComponentLine.body_withReturn (l : ComponentLine) :
    l.withReturn.body = if l.body = [] then [] else l.body ++ ['\r'] := by
  unfold withReturn
  split <;> rfl

/-- The lines with a carriage return at the end of each. -/
def Outline.withReturns (o : Outline) : Outline where
  version := o.version ++ ['\r']
  components := o.components.map (·.withReturn)
  version_line := by simpa using o.version_line

/-- The lines as they are written with those carriage returns. -/
def Outline.textWithReturns (o : Outline) : List Char :=
  o.version ++ ['\r'] ++ o.components.flatMap fun l => '\n' :: (l.text ++ ['\r'])

theorem Outline.text_withReturns (o : Outline) : o.withReturns.text = o.textWithReturns := by
  simp only [Outline.text, Outline.withReturns, Outline.textWithReturns, List.flatMap_map,
    ComponentLine.text_withReturn]

theorem Outline.getLast?_textWithReturns (o : Outline) :
    o.textWithReturns.getLast? = some '\r' := by
  rcases List.eq_nil_or_concat o.components with hnone | ⟨front, l, hlast⟩
  · simp [textWithReturns, hnone]
  · have hend : o.textWithReturns =
        (o.version ++ ['\r'] ++ (front.flatMap fun l => '\n' :: (l.text ++ ['\r'])) ++
          '\n' :: l.text) ++ ['\r'] := by
      simp [textWithReturns, hlast]
    rw [hend, List.getLast?_concat]

/-- The carriage return of the last line is no line feed, so that one behind it may be left out. -/
theorem Outline.writes_withReturns {o : Outline} {text : String}
    (h : text.toList = o.textWithReturns ∨ text.toList = o.textWithReturns ++ ['\n']) :
    o.withReturns.Writes text := by
  rw [Writes, o.text_withReturns]
  rcases h with hopen | hclosed
  · refine Or.inr ⟨hopen, ?_⟩
    rw [o.getLast?_textWithReturns]
    decide
  · exact Or.inl hclosed

theorem Outline.bodies_withReturns (o : Outline) :
    o.withReturns.bodies = o.bodies.map fun body => if body = [] then [] else body ++ ['\r'] := by
  simp only [Outline.bodies, Outline.withReturns, List.map_map, Function.comp_def,
    ComponentLine.body_withReturn]

theorem intercalate_replicate_nil (separator : Char) (n : Nat) :
    List.intercalate [separator] (List.replicate (n + 1) []) = List.replicate n separator := by
  induction n with
  | zero => rfl
  | succ n ih =>
      rw [List.replicate_succ, List.replicate_succ, List.intercalate_cons_cons,
        ← List.replicate_succ, ih]
      rfl

/-- Lines without a component leave the commas between them. -/
theorem Outline.components_named_of_blank {o : Outline} {n : Nat}
    (hblank : o.bodies = List.replicate (n + 1) []) :
    o.named.components = String.ofList (List.replicate n ',') := by
  rw [named, hblank, intercalate_replicate_nil]

/-- Every text is written in some outline, and what it names is what any such outline says: its
first line, and the components of the others. Neither the indents nor a line feed at the end
matter. A carriage return stays with what is in front of it, and an empty line counts as one more
component. -/
theorem parse_layout (text : String) :
    (∀ v, parse text = v ↔ ∃ o : Outline, o.Writes text ∧ o.named = v) ∧
      (∃ o : Outline, o.Writes text) ∧
      (∀ (other : String) (o o' : Outline), o.Writes text → o'.Writes other →
        o.version = o'.version → o.bodies = o'.bodies → parse text = parse other) ∧
      (text.toList.getLast? ≠ some '\n' → parse (text ++ "\n") = parse text) ∧
      (∀ o : Outline,
        text.toList = o.textWithReturns ∨ text.toList = o.textWithReturns ++ ['\n'] →
        parse text = ⟨String.ofList (o.version ++ ['\r']), String.ofList (List.intercalate [',']
          (o.bodies.map fun body => if body = [] then [] else body ++ ['\r']))⟩) ∧
      ∀ (o : Outline) (n : Nat), o.Writes text → o.bodies = List.replicate (n + 1) [] →
        (parse text).components = String.ofList (List.replicate n ',') := by
  refine ⟨fun v => ⟨fun hparse => ?_, ?_⟩, exists_writes text, ?_, parse_append_newline, ?_, ?_⟩
  · obtain ⟨o, ho⟩ := exists_writes text
    exact ⟨o, ho, (parse_of_writes ho).symm.trans hparse⟩
  · rintro ⟨o, ho, rfl⟩
    exact parse_of_writes ho
  · intro other o o' ho ho' hversion hbodies
    rw [parse_of_writes ho, parse_of_writes ho', Outline.named, Outline.named, hversion, hbodies]
  · intro o ho
    rw [parse_of_writes (Outline.writes_withReturns ho), Outline.named, o.bodies_withReturns]
    rfl
  · intro o n ho hblank
    rw [parse_of_writes ho, Outline.components_named_of_blank hblank]

/-- Three lines, the last of which holds blanks alone. -/
def tabbed : Outline :=
  ⟨['v', '1'], [.ofText ['\t', 'x'] (by decide), .ofText [' '] (by decide)], by decide⟩

/-- The same lines with other indents. -/
def spaced : Outline :=
  ⟨['v', '1'], [.ofText [' ', ' ', 'x'] (by decide), .ofText [] (by decide)], by decide⟩

/-- A version and two lines of blanks. -/
def bare : Outline :=
  ⟨['v', '1'], [.ofText ['\t'] (by decide), .ofText [] (by decide)], by decide⟩

theorem tabbed_layout :
    tabbed.Writes "v1\n\tx\n " ∧ parse "v1\n\tx\n " = ⟨"v1", "x,"⟩ ∧
      spaced.Writes "v1\n  x\n\n" ∧ parse "v1\n\tx\n " = parse "v1\n  x\n\n" ∧
      "v1\n\tx\n ".toList.getLast? ≠ some '\n' ∧
      parse ("v1\n\tx\n " ++ "\n") = parse "v1\n\tx\n " ∧
      "v1\r\n\tx\r\n \r".toList = tabbed.textWithReturns ∧
      parse "v1\r\n\tx\r\n \r" = ⟨"v1\r", "x\r,"⟩ ∧
      bare.Writes "v1\n\t\n\n" ∧ bare.bodies = List.replicate (1 + 1) [] ∧
      (parse "v1\n\t\n\n").components = "," := by
  have htabbed : tabbed.Writes "v1\n\tx\n " := Or.inr ⟨rfl, by decide⟩
  have hspaced : spaced.Writes "v1\n  x\n\n" := Or.inl rfl
  have hreturns : "v1\r\n\tx\r\n \r".toList = tabbed.textWithReturns := rfl
  have hbare : bare.Writes "v1\n\t\n\n" := Or.inl rfl
  have hlast : "v1\n\tx\n ".toList.getLast? ≠ some '\n' := by decide
  obtain ⟨hparse, _, hindents, hnewline, _⟩ := parse_layout "v1\n\tx\n "
  exact ⟨htabbed, (hparse _).mpr ⟨tabbed, htabbed, rfl⟩,
    hspaced, hindents _ tabbed spaced htabbed hspaced rfl rfl, hlast, hnewline hlast,
    hreturns, (parse_layout "v1\r\n\tx\r\n \r").2.2.2.2.1 tabbed (Or.inl hreturns),
    hbare, rfl, (parse_layout "v1\n\t\n\n").2.2.2.2.2 bare 1 hbare rfl⟩

end HostFlash.Firmware.Version
