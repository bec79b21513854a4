import HostFlash.Proofs.Calls.Reporting
import HostFlash.Proofs.Listing.Emulated
import HostFlash.Proofs.Listing.Pieces

/-!
# Lines about clears

The line about a clear says the name of the partition and how the tool has answered. It is a single
line where it is printed, as long as no line break stands in the names of the tool and of the
partition or in the message of a failure. Names that are taken from a listing never have one.
-/

namespace HostFlash

variable {δ : Type}

/-- The text has no line break. -/
def Text.Unbroken (text : String) : Prop := '\n' ∉ text.toList

instance (text : String) : Decidable (Text.Unbroken text) :=
  inferInstanceAs (Decidable (_ ∉ _))

namespace Text

theorem unbroken_append {s t : String} (hs : Unbroken s) (ht : Unbroken t) : Unbroken (s ++ t) := by
  rw [Unbroken, String.toList_append, List.mem_append, not_or]
  exact ⟨hs, ht⟩

theorem unbroken_replicate {c : Char} (hc : '\n' ≠ c) (n : Nat) :
    Unbroken (String.ofList (List.replicate n c)) := by
  rw [Unbroken, String.toList_ofList]
  exact fun hmem => hc (List.eq_of_mem_replicate hmem)

theorem unbroken_toString_nat (n : Nat) : Unbroken (toString n) := by
  have hdigits : '\n' ∉ Nat.toDigits 10 n :=
    not_mem_toDigits (fun _ => Nat.digitChar_ne '\n' (by decide)) (by decide) n
  rw [Unbroken, Nat.toString_eq_repr, Nat.repr, String.toList_ofList]
  exact hdigits

theorem unbroken_toString_int (n : Int) : Unbroken (toString n) := by
  cases n with
  | ofNat n => exact unbroken_toString_nat n
  | negSucc n => exact unbroken_append (by decide) (unbroken_toString_nat (n + 1))

end Text

/-- The tool has answered, with status 0. -/
def Flasher.Succeeds (answer : Except Failure ToolAnswer) : Prop :=
  ∃ out, answer = .ok out ∧ out.status = 0

namespace CommandLine

open Flasher (Succeeds)
open Report (outcomeLine)
open Text (Unbroken)

/-! ## Printed lines -/

/-- The text is these lines, each with its end. -/
def Prints (text : String) (lines : List String) : Prop :=
  text.toList = Text.unlines (lines.map String.toList)

instance (text : String) (lines : List String) : Decidable (Prints text lines) :=
  inferInstanceAs (Decidable (_ = _))

theorem prints_joinLines (lines : List String) : Prints (joinLines lines) lines := by
  rw [Prints, toList_joinLines, Text.unlines, List.flatMap_map]

/-- A text is never one set of lines without line breaks and another one too. -/
theorem Prints.unique {text : String} {lines lines' : List String} (h : Prints text lines)
    (hlines : ∀ line ∈ lines, Unbroken line) (h' : Prints text lines')
    (hlines' : ∀ line ∈ lines', Unbroken line) : lines = lines' := by
  have hsplit : Text.splitOn '\n' (Text.unlines (lines.map String.toList)) =
      Text.splitOn '\n' (Text.unlines (lines'.map String.toList)) :=
    congrArg (Text.splitOn '\n') (h.symm.trans h')
  rw [Text.splitOn_unlines (List.forall_mem_map.mpr hlines),
    Text.splitOn_unlines (List.forall_mem_map.mpr hlines')] at hsplit
  have hinjective : Function.Injective String.toList := fun _ _ => String.toList_injective
  exact List.map_injective_iff.mpr hinjective (List.append_cancel_right hsplit)

/-! ## The line about a clear -/

section Lines

variable {toolName name : String} {hasEcc : Bool} {answer : Except Failure ToolAnswer}

/-- What a line about a partition begins with: the name, in a column of sixteen characters. -/
def lineFront (name : String) : String :=
  "  " ++ name ++ String.ofList (List.replicate (16 - name.toList.length) ' ')

/-- Why a clear has failed, by how it was answered. A status other than zero is told with the command
line. -/
def clearFault? (toolName name : String) (hasEcc : Bool) :
    Except Failure ToolAnswer → Option String
  | .ok out =>
      if out.status = 0 then none
      else some ("'" ++ toolName ++ " -P " ++ name ++ (if hasEcc then " -c" else " -e") ++
        " -f' failed with return code " ++ toString out.status)
  | .error failure => some failure.message

/-- The line about a clear, by how it was answered. -/
def clearLine (toolName name : String) (hasEcc : Bool) (answer : Except Failure ToolAnswer) :
    String :=
  lineFront name ++
    match clearFault? toolName name hasEcc answer with
    | none => if hasEcc then " cleared (ecc-clear)" else " cleared (erase)"
    | some reason => " FAILED: " ++ reason

/-- The line begins with the name of the partition and says that it was cleared. -/
def MarkedCleared (name line : String) : Prop :=
  (lineFront name ++ " cleared (").toList <+: line.toList

/-- The line begins with the name of the partition and says that it failed to clear. -/
def MarkedFailed (name line : String) : Prop :=
  (lineFront name ++ " FAILED: ").toList <+: line.toList

instance (name line : String) : Decidable (MarkedCleared name line) :=
  inferInstanceAs (Decidable (_ <+: _))

instance (name line : String) : Decidable (MarkedFailed name line) :=
  inferInstanceAs (Decidable (_ <+: _))

theorem clearFault?_eq_none_iff :
    clearFault? toolName name hasEcc answer = none ↔ Succeeds answer := by
  cases answer with
  | error failure => simp [clearFault?, Succeeds]
  | ok out => simp [clearFault?, Succeeds]

theorem markedCleared_clearLine :
    MarkedCleared name (clearLine toolName name hasEcc answer) ↔ Succeeds answer := by
  have hnone : clearFault? toolName name hasEcc answer = none ↔ Succeeds answer :=
    clearFault?_eq_none_iff
  rw [← hnone]
  -- Behind the name the two kinds of lines differ in their second letter already.
  unfold MarkedCleared clearLine
  cases clearFault? toolName name hasEcc answer with
  | none => cases hasEcc <;> simp [List.prefix_append_right_inj]
  | some reason => simp [List.prefix_append_right_inj]

theorem markedFailed_clearLine :
    MarkedFailed name (clearLine toolName name hasEcc answer) ↔ ¬ Succeeds answer := by
  have hnone : clearFault? toolName name hasEcc answer = none ↔ Succeeds answer :=
    clearFault?_eq_none_iff
  rw [← hnone]
  unfold MarkedFailed clearLine
  cases clearFault? toolName name hasEcc answer with
  | none => cases hasEcc <;> simp [List.prefix_append_right_inj]
  | some reason => simp [List.prefix_append_right_inj]

theorem message_badStatus_clear (toolName name mode : String) (status : Int) :
    (Failure.badStatus (toolName ++ " -P " ++ name ++ mode ++ " -f") status).message =
      "'" ++ toolName ++ " -P " ++ name ++ mode ++ " -f' failed with return code " ++
        toString status := by
  have hquote : " -f" ++ "' failed with return code " = " -f' failed with return code " := rfl
  unfold Failure.message
  simp only [String.append_assoc, ← hquote]

/-- What the answer to a clear means is what is told about it. -/
theorem checked_clear (tool : Flasher δ) (name : String) (hasEcc : Bool)
    (answer : Except Failure ToolAnswer) :
    tool.checked (Flasher.clearArgs name (.ofEcc hasEcc)) answer = .ok () ∧
        clearFault? tool.name name hasEcc answer = none ∨
      ∃ failure, tool.checked (Flasher.clearArgs name (.ofEcc hasEcc)) answer = .error failure ∧
        clearFault? tool.name name hasEcc answer = some failure.message := by
  have hargs : Flasher.clearArgs name (.ofEcc hasEcc) =
      ["-P", name, if hasEcc then "-c" else "-e", "-f"] := by
    cases hasEcc <;> rfl
  cases answer with
  | error failure => exact Or.inr ⟨failure, rfl, rfl⟩
  | ok out =>
      by_cases hstatus : out.status = 0
      · exact Or.inl ⟨Flasher.checked_eq_ok_iff.mpr ⟨out, rfl, hstatus⟩, if_pos hstatus⟩
      · refine Or.inr ⟨_, tool.checked_of_status_ne_zero hstatus, ?_⟩
        rw [hargs, commandText_clear, message_badStatus_clear]
        exact if_neg hstatus

/-- The outcome of a clear whose call was answered so. -/
def answeredOutcome (tool : Flasher δ) (name : String) (hasEcc : Bool)
    (answer : Except Failure ToolAnswer) : ClearOutcome :=
  ⟨name, .ofEcc hasEcc, tool.checked (Flasher.clearArgs name (.ofEcc hasEcc)) answer⟩

theorem isOk_answeredOutcome (tool : Flasher δ) (name : String) (hasEcc : Bool)
    (answer : Except Failure ToolAnswer) :
    (answeredOutcome tool name hasEcc answer).isOk = true ↔ Succeeds answer := by
  rw [ClearOutcome.isOk_iff]
  exact Flasher.checked_eq_ok_iff

theorem outcomeLine_answeredOutcome (tool : Flasher δ) (name : String) (hasEcc : Bool)
    (answer : Except Failure ToolAnswer) :
    outcomeLine (answeredOutcome tool name hasEcc answer) =
      clearLine tool.name name hasEcc answer := by
  have hfront : "  " ++ Text.padRight 16 name = lineFront name := by
    rw [Text.padRight, lineFront, String.append_assoc]
  have hmode : " cleared (" ++ (ClearKind.ofEcc hasEcc).text ++ ")" =
      if hasEcc then " cleared (ecc-clear)" else " cleared (erase)" := by
    cases hasEcc <;> rfl
  rw [answeredOutcome, outcomeLine, hfront, clearLine]
  rcases checked_clear tool name hasEcc answer with
    ⟨hchecked, hfault⟩ | ⟨failure, hchecked, hfault⟩
  · rw [hchecked, hfault]
    exact congrArg (lineFront name ++ ·) hmode
  · rw [hchecked, hfault]

theorem failure_ofOutcome_answeredOutcome (tool : Flasher δ) (name : String) (hasEcc : Bool)
    (answer : Except Failure ToolAnswer) :
    (Report.ofOutcome (answeredOutcome tool name hasEcc answer)).failure =
      clearFault? tool.name name hasEcc answer := by
  rw [answeredOutcome, Report.ofOutcome]
  rcases checked_clear tool name hasEcc answer with
    ⟨hchecked, hfault⟩ | ⟨failure, hchecked, hfault⟩
  · rw [hchecked, hfault]
  · rw [hchecked, hfault]

theorem unbroken_lineFront (hname : Unbroken name) : Unbroken (lineFront name) :=
  Text.unbroken_append (Text.unbroken_append (by decide) hname)
    (Text.unbroken_replicate (by decide) _)

theorem unbroken_of_clearFault? {reason : String} (htool : Unbroken toolName)
    (hname : Unbroken name)
    (hfailure : ∀ failure, answer = .error failure → Unbroken failure.message)
    (hreason : clearFault? toolName name hasEcc answer = some reason) : Unbroken reason := by
  cases answer with
  | error failure =>
      cases hreason
      exact hfailure failure rfl
  | ok out =>
      simp only [clearFault?, Option.ite_none_left_eq_some, Option.some.injEq] at hreason
      obtain ⟨_, rfl⟩ := hreason
      have hmode : Unbroken (if hasEcc then " -c" else " -e") := by
        cases hasEcc <;> decide
      have hcommand : Unbroken ("'" ++ toolName ++ " -P " ++ name) :=
        Text.unbroken_append (Text.unbroken_append (Text.unbroken_append (by decide) htool)
          (by decide)) hname
      exact Text.unbroken_append (Text.unbroken_append (Text.unbroken_append hcommand hmode)
        (by decide)) (Text.unbroken_toString_int out.status)

/-- No line break comes into a line about a clear but by what is told in it. -/
theorem unbroken_clearLine (htool : Unbroken toolName) (hname : Unbroken name)
    (hfailure : ∀ failure, answer = .error failure → Unbroken failure.message) :
    Unbroken (clearLine toolName name hasEcc answer) := by
  unfold clearLine
  cases hfault : clearFault? toolName name hasEcc answer with
  | none =>
      refine Text.unbroken_append (unbroken_lineFront hname) ?_
      cases hasEcc <;> decide
  | some reason =>
      have hreason : Unbroken reason := unbroken_of_clearFault? htool hname hfailure hfault
      exact Text.unbroken_append (unbroken_lineFront hname)
        (Text.unbroken_append (by decide) hreason)

end Lines

end CommandLine

end HostFlash
