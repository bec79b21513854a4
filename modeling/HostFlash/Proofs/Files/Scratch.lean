import HostFlash.Host.Machine
import HostFlash.Proofs.Files.Walking
import HostFlash.Proofs.Listing.Emulated

/-!
# Files in a scratch directory

A scratch directory is made under the first name that is not taken. It is empty and can be walked
into, so a file that is written there is written anew, and is read back from there.
-/

namespace HostFlash

namespace Text

theorem digits_ne_nil (base width n : Nat) : (digits base width n).toList ≠ [] := by
  simp [digits, Nat.toDigits_ne_nil]

end Text

namespace Path

variable {directory name : String} {front : List Char} {last : Char}

theorem toList_join (hdirectory : directory.toList = front ++ [last]) (hlast : last ≠ '/') :
    (join directory name).toList = directory.toList ++ '/' :: name.toList := by
  rw [join, if_neg]
  · simp
  · simpa [hdirectory] using hlast

theorem pieces_join (hdirectory : directory.toList = front ++ [last]) (hlast : last ≠ '/')
    (hname : '/' ∉ name.toList) : pieces (join directory name) = pieces directory ++ [name] := by
  rw [pieces, toList_join hdirectory hlast, Text.splitOn_append_cons,
    Text.splitOn_of_not_mem hname, List.map_append]
  simp [pieces]

theorem isAbsolute_join (hdirectory : directory.toList = front ++ [last]) (hlast : last ≠ '/') :
    isAbsolute (join directory name) = isAbsolute directory := by
  rw [isAbsolute, toList_join hdirectory hlast, isAbsolute, hdirectory]
  cases front <;> rfl

end Path

namespace FileSystem

variable {fs made : FileSystem} {base : Location} {path name : String}

/-- What makes an entry finds nothing at the location that the path leads to. -/
theorem make_eq_ok {entry : Entry} (hmake : fs.make base path entry = .ok made) :
    ∃ location, fs.locate false base path = .ok location ∧ fs.lookup? location = none ∧
      made = fs.put location entry := by
  rw [make] at hmake
  split at hmake
  next => cases hmake
  next location hlocate =>
  split at hmake
  next hfree =>
    cases hmake
    exact ⟨location, hlocate, hfree, rfl⟩
  next => cases hmake

theorem locate_eq_ok {follow : Bool} {location : Location}
    (hlocate : fs.locate follow base path = .ok location) :
    fs.walk follow mostLinks (if Path.isAbsolute path then [] else base) (Path.pieces path) =
      .ok location := by
  rw [locate] at hlocate
  split at hlocate
  next => cases hlocate
  next => exact hlocate

theorem writeFile_of_resolve {location : Location} (hresolve : fs.resolve base path = .ok location)
    (hfree : fs.lookup? location = none) (content : List UInt8) :
    fs.writeFile base path content = .ok (fs.put location (.file content false)) := by
  rw [writeFile, updateFile, hresolve]
  simp only [hfree]

theorem readFile_of_resolve {location : Location} {content : List UInt8} {executable : Bool}
    (hresolve : fs.resolve base path = .ok location)
    (hfound : fs.lookup? location = some (.file content executable)) :
    fs.readFile base path = .ok content := by
  rw [readFile, entry, hresolve]
  simp only [hfound]

/-- A name below a directory is where the walk to the directory goes on by that name. -/
theorem resolve_join {front : List Char} {last : Char} (fs : FileSystem) (base : Location)
    (hpath : path.toList = front ++ [last]) (hlast : last ≠ '/') (hslash : '/' ∉ name.toList)
    (hcheck : Path.check (Path.join path name) = .ok ()) :
    fs.resolve base (Path.join path name) =
      fs.walk true mostLinks (if Path.isAbsolute path then [] else base)
        (Path.pieces path ++ [name]) := by
  rw [resolve, locate, hcheck, Path.isAbsolute_join hpath hlast,
    Path.pieces_join hpath hlast hslash]

/-- A file that is written into a directory that was just made is read back. -/
theorem writeFile_of_makeDirectory {front : List Char} {last : Char} (hclosed : fs.Closed)
    (hmake : fs.makeDirectory base path = .ok made) (hpath : path.toList = front ++ [last])
    (hlast : last ≠ '/') (hname : Path.Plain name) (hslash : '/' ∉ name.toList)
    (hcheck : Path.check (Path.join path name) = .ok ()) (content : List UInt8) :
    ∃ written, made.writeFile base (Path.join path name) content = .ok written ∧
      written.readFile base (Path.join path name) = .ok content := by
  obtain ⟨location, hlocate, hfree, rfl⟩ := make_eq_ok hmake
  -- The directory is new, so nothing is in it.
  have hempty : (fs.put location .directory).lookup? (location ++ [name]) = none := by
    rw [lookup?_put_ne hfree (by simp)]
    exact hclosed.lookup?_concat hfree name
  have hstrides : Strides (fs.put location .directory) true location [name]
      (.location (location ++ [name])) :=
    .name (lookup?_put_self hfree _) hname (by simp [hempty]) .done
  have hwalk := walk_put hfree .directory (by simp) (locate_eq_ok hlocate) hstrides
  have hagain := walk_put hempty (.file content false) (by simp) hwalk .done
  rw [List.append_nil] at hagain
  rw [← resolve_join _ _ hpath hlast hslash hcheck] at hwalk hagain
  exact ⟨_, writeFile_of_resolve hwalk hempty content,
    readFile_of_resolve hagain (lookup?_put_self hempty _)⟩

end FileSystem

namespace Machine

variable {m : Machine} {stem name : String}

/-- Something is at the path with this number already. -/
def Taken (m : Machine) (stem : String) (number : Nat) : Prop :=
  m.files.makeDirectory m.workingDirectory (m.numberedPath stem number) = .error .occupied

theorem isTaken_iff {number : Nat} :
    m.isTaken (m.numberedPath stem number) = true ↔ m.Taken stem number := by
  unfold isTaken Taken
  split
  next hmake => simp [hmake]
  next hmake => simpa using hmake

theorem tryNames_of_taken {number : Nat} (h : m.Taken stem number) (count : Nat) :
    m.tryNames stem (count + 1) number = m.tryNames stem count (number + 1) := by
  rw [tryNames]
  exact if_pos (isTaken_iff.mpr h)

theorem tryNames_of_not_taken {number : Nat} (h : ¬ m.Taken stem number) (count : Nat) :
    m.tryNames stem (count + 1) number =
      (m.numberedPath stem number,
        m.files.makeDirectory m.workingDirectory (m.numberedPath stem number)) := by
  rw [tryNames]
  exact if_neg (mt isTaken_iff.mp h)

/-- The first name that is not taken is used, if there is one among those that are tried. -/
theorem tryNames_eq (m : Machine) (stem : String) (count number : Nat) :
    (∃ n, number ≤ n ∧ n < number + count ∧ ¬ m.Taken stem n ∧
        (∀ k, number ≤ k → k < n → m.Taken stem k) ∧
        m.tryNames stem count number =
          (m.numberedPath stem n,
            m.files.makeDirectory m.workingDirectory (m.numberedPath stem n))) ∨
      (∀ k, number ≤ k → k < number + count → m.Taken stem k) ∧
        m.tryNames stem count number = (m.temporary, .error .noNameLeft) := by
  induction count generalizing number with
  | zero => exact Or.inr ⟨fun k hle hlt => by omega, rfl⟩
  | succ count ih =>
      by_cases htaken : m.Taken stem number
      · rw [tryNames_of_taken htaken]
        -- A number from here on is this one, which is taken, or one of those that come next.
        have hstep : ∀ k, number ≤ k → k = number ∨ number + 1 ≤ k := by omega
        rcases ih (number + 1) with ⟨n, hle, hlt, hfree, hbefore, heq⟩ | ⟨hall, heq⟩
        · refine Or.inl ⟨n, by omega, by omega, hfree, ?_, heq⟩
          intro k hk hkn
          rcases hstep k hk with rfl | hnext
          · exact htaken
          · exact hbefore k hnext hkn
        · refine Or.inr ⟨?_, heq⟩
          intro k hk hlt
          rcases hstep k hk with rfl | hnext
          · exact htaken
          · exact hall k hnext (by omega)
      · exact Or.inl ⟨number, Nat.le_refl _, by omega, htaken,
          fun k hle hlt => absurd hlt (Nat.not_lt_of_le hle), tryNames_of_not_taken htaken count⟩

theorem takeOver_eq_error {tried : String × Except IoError FileSystem} {cause : IoError}
    {m' : Machine} (h : m.takeOver tried = (.error cause, m')) :
    tried.2 = .error cause ∧ m' = { m with serial := m.serial + 1 } := by
  obtain ⟨path, made⟩ := tried
  cases made with
  | error e =>
      cases h
      exact ⟨rfl, rfl⟩
  | ok files => cases h

theorem takeOver_eq_ok {tried : String × Except IoError FileSystem} {path : String}
    {m' : Machine} (h : m.takeOver tried = (.ok path, m')) :
    path = tried.1 ∧ ∃ files, tried.2 = .ok files ∧
      m' = { m with files := files, serial := m.serial + 1 } := by
  obtain ⟨path', made⟩ := tried
  cases made with
  | error e => cases h
  | ok files =>
      cases h
      exact ⟨rfl, files, rfl, rfl⟩

/-- Making a scratch directory never fails for a name that is taken, and leaves the files alone when
it fails. -/
theorem makeScratch_eq_error {cause : IoError} {m' : Machine}
    (h : m.makeScratch stem = (.error cause, m')) :
    cause ≠ .occupied ∧ m' = { m with serial := m.serial + 1 } := by
  obtain ⟨hcause, hm'⟩ := takeOver_eq_error h
  refine ⟨?_, hm'⟩
  rintro rfl
  rcases tryNames_eq m stem mostNames m.serial with ⟨n, _, _, hfree, _, heq⟩ | ⟨_, heq⟩
  · rw [heq] at hcause
    exact hfree hcause
  · rw [heq] at hcause
    cases hcause

/-- A scratch directory that was made is made at the path that is next, which has a number. -/
theorem makeScratch_eq_ok {path : String} {m' : Machine}
    (h : m.makeScratch stem = (.ok path, m')) :
    path = m.scratchPath stem ∧ (∃ number, path = m.numberedPath stem number) ∧
      ∃ files, m.files.makeDirectory m.workingDirectory path = .ok files ∧
        m' = { m with files := files, serial := m.serial + 1 } := by
  obtain ⟨hpath, files, hmade, hm'⟩ := takeOver_eq_ok h
  refine ⟨hpath, ?_⟩
  rcases tryNames_eq m stem mostNames m.serial with ⟨n, _, _, _, _, heq⟩ | ⟨_, heq⟩
  · rw [heq] at hpath hmade
    subst hpath
    exact ⟨⟨n, rfl⟩, files, hmade, hm'⟩
  · rw [heq] at hmade
    cases hmade

/-- The path of a scratch directory ends in a digit. -/
theorem toList_numberedPath (m : Machine) (stem : String) (number : Nat) :
    ∃ front last, (m.numberedPath stem number).toList = front ++ [last] ∧ last ≠ '/' := by
  have hdigits := Text.digits_ne_nil 10 6 number
  obtain ⟨front, hfront⟩ : ∃ front, (m.numberedPath stem number).toList =
      front ++ (Text.digits 10 6 number).toList := by
    rw [numberedPath, Path.join]
    split
    next => exact ⟨m.temporary.toList ++ stem.toList, by simp⟩
    next => exact ⟨m.temporary.toList ++ '/' :: stem.toList, by simp⟩
  refine ⟨front ++ (Text.digits 10 6 number).toList.dropLast,
    (Text.digits 10 6 number).toList.getLast hdigits, ?_, ?_⟩
  · rw [hfront, List.append_assoc, List.dropLast_append_getLast]
  · intro hlast
    have hslash : '/' ∉ (Text.digits 10 6 number).toList :=
      Text.not_mem_digits (fun _ => Nat.digitChar_ne '/' (by decide)) (by decide) 6 number
    exact hslash (hlast ▸ List.getLast_mem hdigits)

/-- A scratch directory can be made in files that hang together, and there is room in its path for
a file of this name. -/
structure ScratchFor (m : Machine) (stem name : String) : Prop where
  closed : m.files.Closed
  made : ∃ path, (m.makeScratch stem).1 = .ok path
  fits : Path.check (Path.join (m.scratchPath stem) name) = .ok ()

/-- A file that is written in a fresh scratch directory is read back. -/
theorem ScratchFor.writeFile (h : m.ScratchFor stem name) (hname : Path.Plain name)
    (hslash : '/' ∉ name.toList) :
    ∃ m', m.makeScratch stem = (.ok (m.scratchPath stem), m') ∧
      ∀ content, ∃ m'',
        m'.writeFile (Path.join (m.scratchPath stem) name) content = (.ok (), m'') ∧
          m''.contentOf (Path.join (m.scratchPath stem) name) = .ok content := by
  obtain ⟨path, hpath⟩ := h.made
  cases hscratch : m.makeScratch stem with
  | mk result m' =>
  rw [hscratch] at hpath
  cases hpath
  obtain ⟨rfl, ⟨number, hnumber⟩, files, hmake, rfl⟩ := makeScratch_eq_ok hscratch
  obtain ⟨front, last, hend, hlast⟩ := toList_numberedPath m stem number
  rw [← hnumber] at hend
  refine ⟨_, rfl, fun content => ?_⟩
  obtain ⟨written, hwrite, hread⟩ := FileSystem.writeFile_of_makeDirectory h.closed hmake hend
    hlast hname hslash h.fits content
  refine ⟨{ m with files := written, serial := m.serial + 1 }, ?_, hread⟩
  simp only [Machine.writeFile, hwrite]

end Machine

end HostFlash
