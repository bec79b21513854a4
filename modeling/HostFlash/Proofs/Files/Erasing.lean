import HostFlash.Proofs.Files.Scratch
import HostFlash.Proofs.Lookup

/-!
# Taking a directory away

When a tree is erased, nothing is left at its location and below it, and every other location is as
before. A path that led to a new location leads there after other changes too, as long as the
directories and links on the way stay. So a scratch directory can be taken away behind everything
that leaves those in place.
-/

namespace HostFlash

namespace FileSystem

variable {fs fs' : FileSystem} {location : Location}

/-! ## The table without a tree -/

theorem lookup?_eraseTree (hne : location ≠ []) (fs : FileSystem) (other : Location) :
    (fs.eraseTree location).lookup? other =
      if location <+: other then none else fs.lookup? other := by
  by_cases hroot : other = []
  · subst hroot
    rw [if_neg (by simpa using hne)]
    rfl
  · rw [lookup?_of_ne_nil hroot, lookup?_of_ne_nil hroot]
    show (fs.entries.filter fun e => !location.isPrefixOf e.1).lookup other = _
    rw [lookup_filter (fun l => !location.isPrefixOf l)]
    by_cases hbelow : location <+: other
    · rw [List.isPrefixOf_iff_prefix.mpr hbelow, if_pos hbelow]
      rfl
    · simp [hbelow]

/-! ## Walks that stay -/

/-- Directories and links that were there are there still. -/
def Keeps (fs fs' : FileSystem) : Prop :=
  ∀ l entry, (entry = .directory ∨ ∃ target, entry = .link target) →
    fs.lookup? l = some entry → fs'.lookup? l = some entry

theorem Keeps.directory (h : fs.Keeps fs') (hfound : fs.lookup? location = some .directory) :
    fs'.lookup? location = some .directory :=
  h _ _ (.inl rfl) hfound

theorem Keeps.link {target : String} (h : fs.Keeps fs')
    (hfound : fs.lookup? location = some (.link target)) :
    fs'.lookup? location = some (.link target) :=
  h _ _ (.inr ⟨_, rfl⟩) hfound

/-- Entries that are added hide none that were there. -/
theorem keeps_append (entries more : List (Location × Entry)) :
    Keeps ⟨entries⟩ ⟨entries ++ more⟩ := by
  intro l entry _ hfound
  by_cases hroot : l = []
  · subst hroot
    exact hfound
  · rw [lookup?_of_ne_nil hroot] at hfound ⊢
    rw [List.lookup_append, hfound, Option.some_or]

variable {follow : Bool} {start : Location} {pieces : List String} {reached : Reached}

/-- Strides go on from a directory, if they go on. -/
theorem Strides.start_directory (h : Strides fs follow start pieces reached) :
    fs.lookup? start = some .directory ∨ reached = .location start := by
  cases h with
  | done => exact .inr rfl
  | stay hstart _ _ => exact .inl hstart
  | up hstart _ => exact .inl hstart
  | name hstart _ _ _ => exact .inl hstart
  | linkItself hstart _ _ _ => exact .inl hstart
  | link hstart _ _ _ => exact .inl hstart

theorem Strides.of_keeps (hkeeps : fs.Keeps fs')
    (hreached : ∀ l, reached = .location l → fs'.lookup? l = some .directory)
    (h : Strides fs follow start pieces reached) : Strides fs' follow start pieces reached := by
  induction h with
  | done => exact .done
  | stay hstart hpiece _ ih => exact .stay (hkeeps.directory hstart) hpiece (ih hreached)
  | up hstart _ ih => exact .up (hkeeps.directory hstart) (ih hreached)
  | @name start piece rest reached hstart hpiece _ hrest ih =>
      refine .name (hkeeps.directory hstart) hpiece ?_ (ih hreached)
      have hdirectory : fs'.lookup? (start ++ [piece]) = some .directory := by
        rcases hrest.start_directory with hpassed | hlast
        · exact hkeeps.directory hpassed
        · exact hreached _ hlast
      simp [hdirectory]
  | linkItself _ _ hlink _ =>
      -- The link is still there, so no directory can be in its place.
      have hthere := hkeeps.link hlink
      rw [hreached _ rfl] at hthere
      cases hthere
  | link hstart hpiece hlink hfollow =>
      exact .link (hkeeps.directory hstart) hpiece (hkeeps.link hlink) hfollow

theorem walk_of_keeps {links : Nat} (hkeeps : fs.Keeps fs')
    (hdirectory : fs'.lookup? location = some .directory)
    (h : fs.walk follow links start pieces = .ok location) :
    fs'.walk follow links start pieces = .ok location := by
  induction links generalizing start pieces with
  | zero =>
      rw [walk] at h ⊢
      split at h
      next => cases h
      next hstride =>
        cases h
        have honward := (strides_of_stride hstride).of_keeps hkeeps (by simpa using hdirectory)
        rw [honward.stride_eq]
      next => cases h
  | succ links ih =>
      rw [walk] at h ⊢
      split at h
      next => cases h
      next hstride =>
        cases h
        have honward := (strides_of_stride hstride).of_keeps hkeeps (by simpa using hdirectory)
        rw [honward.stride_eq]
      next directory target rest hstride =>
        have honward := (strides_of_stride hstride).of_keeps hkeeps (by simp)
        rw [honward.stride_eq]
        exact ih h

/-- A path to a directory leads there still, if the directories and links on the way stay. -/
theorem locate_of_keeps {base : Location} {path : String} (hkeeps : fs.Keeps fs')
    (hdirectory : fs'.lookup? location = some .directory)
    (h : fs.locate follow base path = .ok location) :
    fs'.locate follow base path = .ok location := by
  unfold locate at h ⊢
  split at h
  next => cases h
  next => exact walk_of_keeps hkeeps hdirectory h

end FileSystem

/-! ## Scratch directories -/

namespace Machine

variable {m m' made : Machine} {stem path : String} {location : Location}

/-- A scratch directory was made at the location of the path, where nothing was, and nothing else
has changed but for the number of the next one. -/
structure MakesScratch (m : Machine) (path : String) (location : Location) (made : Machine) :
    Prop where
  leads : m.files.locate false m.workingDirectory path = .ok location
  free : m.files.lookup? location = none
  directory : made.files.lookup? location = some .directory
  elsewhere : ∀ other, other ≠ location → made.files.lookup? other = m.files.lookup? other
  rest : made = { m with files := made.files, serial := m.serial + 1 }

theorem makesScratch_of_ok (h : m.makeScratch stem = (.ok path, made)) :
    ∃ location, m.MakesScratch path location made := by
  obtain ⟨_, _, files, hmake, rfl⟩ := makeScratch_eq_ok h
  obtain ⟨location, hleads, hfree, rfl⟩ := FileSystem.make_eq_ok hmake
  exact ⟨location, hleads, hfree, FileSystem.lookup?_put_self hfree _,
    fun other hother => FileSystem.lookup?_put_ne hfree hother _, rfl⟩

theorem files_of_error {cause : IoError} (h : m.makeScratch stem = (.error cause, made)) :
    made.files = m.files := by
  rw [(makeScratch_eq_error h).2]

/-- The path leads to a directory at the location, which can be taken away then. -/
structure Removable (m : Machine) (path : String) (location : Location) : Prop where
  leads : m.files.locate false m.workingDirectory path = .ok location
  directory : m.files.lookup? location = some .directory

theorem Removable.removeScratch (h : m.Removable path location) :
    m.removeScratch path = (.ok (), { m with files := m.files.eraseTree location }) := by
  simp [Machine.removeScratch, FileSystem.removeTree, h.leads, h.directory]

/-- A scratch directory can be taken away if it is there still, and if the directories and links
from before it was made are. -/
theorem MakesScratch.removable (h : m.MakesScratch path location made)
    (hkeeps : m.files.Keeps m'.files) (hworking : m'.workingDirectory = m.workingDirectory)
    (hdirectory : m'.files.lookup? location = some .directory) : m'.Removable path location := by
  refine ⟨?_, hdirectory⟩
  rw [hworking]
  exact FileSystem.locate_of_keeps hkeeps hdirectory h.leads

end Machine

end HostFlash
