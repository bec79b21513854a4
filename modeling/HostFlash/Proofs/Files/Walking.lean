import HostFlash.Host.FileSystem

/-!
# Walks to a new location

An entry that is put where nothing was is found there, and nothing has changed elsewhere. A walk
that came to that location before comes to it again, and may go on from there.
-/

namespace HostFlash

namespace Path

/-- A name that a walk takes for the name of an entry. -/
structure Plain (name : String) : Prop where
  ne_empty : name ≠ ""
  ne_dot : name ≠ "."
  ne_up : name ≠ ".."
  short : name.utf8ByteSize ≤ FileSystem.longestName

end Path

namespace FileSystem

variable {fs : FileSystem} {location other : Location} {entry : Entry}

/-! ## The table -/

theorem ne_nil_of_free (hfree : fs.lookup? location = none) : location ≠ [] := by
  rintro rfl
  cases hfree

theorem lookup?_of_ne_nil (hne : location ≠ []) :
    fs.lookup? location = fs.entries.lookup location := if_neg hne

theorem put_of_free (hfree : fs.lookup? location = none) (entry : Entry) :
    fs.put location entry = ⟨fs.entries ++ [(location, entry)]⟩ := by
  rw [lookup?_of_ne_nil (ne_nil_of_free hfree), List.lookup_eq_none_iff] at hfree
  rw [put, if_neg]
  rw [List.any_eq_true]
  rintro ⟨e, he, heq⟩
  exact absurd (beq_iff_eq.mp heq).symm (bne_iff_ne.mp (hfree e he))

theorem lookup?_put_self (hfree : fs.lookup? location = none) (entry : Entry) :
    (fs.put location entry).lookup? location = some entry := by
  have hne := ne_nil_of_free hfree
  have hlookup := hfree
  rw [lookup?_of_ne_nil hne] at hlookup
  rw [put_of_free hfree, lookup?_of_ne_nil hne, List.lookup_append, hlookup, Option.none_or,
    List.lookup_cons_self]

theorem lookup?_put_ne (hfree : fs.lookup? location = none) (hother : other ≠ location)
    (entry : Entry) : (fs.put location entry).lookup? other = fs.lookup? other := by
  by_cases hne : other = []
  · subst hne
    rfl
  · have hlast : [(location, entry)].lookup other = none := by
      simp [List.lookup_eq_none_iff, hother]
    rw [put_of_free hfree, lookup?_of_ne_nil hne, lookup?_of_ne_nil hne, List.lookup_append,
      hlast, Option.or_none]

/-- Whatever has a location lies in a directory. -/
def Closed (fs : FileSystem) : Prop :=
  ∀ e ∈ fs.entries, fs.lookup? e.1.dropLast = some .directory

instance (fs : FileSystem) : Decidable fs.Closed :=
  inferInstanceAs (Decidable (∀ e ∈ fs.entries, _))

/-- Nothing lies below a location where nothing is. -/
theorem Closed.lookup?_concat (hclosed : fs.Closed) (hfree : fs.lookup? location = none)
    (name : String) : fs.lookup? (location ++ [name]) = none := by
  cases hfound : fs.lookup? (location ++ [name]) with
  | none => rfl
  | some entry =>
      rw [lookup?_of_ne_nil (List.concat_ne_nil name location),
        List.lookup_eq_some_iff] at hfound
      obtain ⟨front, rest, hentries, _⟩ := hfound
      have hparent := hclosed (location ++ [name], entry) (by simp [hentries])
      rw [List.dropLast_concat, hfree] at hparent
      cases hparent

/-! ## The walk -/

theorem requireDirectory_eq_ok_iff :
    fs.requireDirectory location = .ok () ↔ fs.lookup? location = some .directory := by
  unfold requireDirectory
  split <;> simp_all

/-- The strides that come to somewhere, piece by piece. Every piece is taken from a directory. -/
inductive Strides (fs : FileSystem) (follow : Bool) :
    Location → List String → Reached → Prop where
  | done {start : Location} : Strides fs follow start [] (.location start)
  | stay {start : Location} {piece : String} {rest : List String} {reached : Reached}
      (hstart : fs.lookup? start = some .directory) (hpiece : piece = "" ∨ piece = ".")
      (hrest : Strides fs follow start rest reached) :
      Strides fs follow start (piece :: rest) reached
  | up {start : Location} {rest : List String} {reached : Reached}
      (hstart : fs.lookup? start = some .directory)
      (hrest : Strides fs follow start.dropLast rest reached) :
      Strides fs follow start (".." :: rest) reached
  | name {start : Location} {piece : String} {rest : List String} {reached : Reached}
      (hstart : fs.lookup? start = some .directory) (hpiece : Path.Plain piece)
      (hlink : ∀ target, fs.lookup? (start ++ [piece]) ≠ some (.link target))
      (hrest : Strides fs follow (start ++ [piece]) rest reached) :
      Strides fs follow start (piece :: rest) reached
  /-- The last piece is a link, and that itself is meant. -/
  | linkItself {start : Location} {piece target : String}
      (hstart : fs.lookup? start = some .directory) (hpiece : Path.Plain piece)
      (hlink : fs.lookup? (start ++ [piece]) = some (.link target)) (hfollow : follow = false) :
      Strides fs follow start [piece] (.location (start ++ [piece]))
  | link {start : Location} {piece target : String} {rest : List String}
      (hstart : fs.lookup? start = some .directory) (hpiece : Path.Plain piece)
      (hlink : fs.lookup? (start ++ [piece]) = some (.link target))
      (hfollow : rest = [] → follow = true) :
      Strides fs follow start (piece :: rest) (.link start target rest)

variable {follow : Bool} {start : Location} {pieces tail : List String} {reached : Reached}

theorem strides_of_stride (h : fs.stride follow start pieces = .ok reached) :
    Strides fs follow start pieces reached := by
  induction pieces generalizing start with
  | nil =>
      cases h
      exact .done
  | cons piece rest ih =>
      rw [stride] at h
      split at h
      next => cases h
      next hstart =>
      rw [requireDirectory_eq_ok_iff] at hstart
      split at h
      next hstay => exact .stay hstart (by simpa using hstay) (ih h)
      next hstay =>
      split at h
      next hup => exact hup ▸ .up hstart (ih h)
      next hup =>
      split at h
      next => cases h
      next hshort =>
      have hpiece : Path.Plain piece :=
        ⟨fun he => hstay (by simp [he]), fun he => hstay (by simp [he]), hup, Nat.not_lt.mp hshort⟩
      split at h
      next hlink =>
        split at h
        next hself =>
          obtain ⟨rfl, rfl⟩ : rest = [] ∧ follow = false := by simpa using hself
          cases h
          exact .linkItself hstart hpiece hlink rfl
        next hself =>
          cases h
          exact .link hstart hpiece hlink (by simpa using hself)
      next hlink => exact .name hstart hpiece hlink (ih h)

theorem Strides.stride_eq (h : Strides fs follow start pieces reached) :
    fs.stride follow start pieces = .ok reached := by
  induction h with
  | done => rfl
  | stay hstart hpiece _ ih => simp [stride, requireDirectory_eq_ok_iff.mpr hstart, hpiece, ih]
  | up hstart _ ih => simp [stride, requireDirectory_eq_ok_iff.mpr hstart, ih]
  | name hstart hpiece hlink _ ih =>
      simp only [stride, requireDirectory_eq_ok_iff.mpr hstart, hpiece.ne_empty, hpiece.ne_dot,
        hpiece.ne_up, Nat.not_lt.mpr hpiece.short, decide_false, Bool.or_self, Bool.false_eq_true,
        if_false, ih]
  | linkItself hstart hpiece hlink hfollow =>
      simp [stride, requireDirectory_eq_ok_iff.mpr hstart, hpiece.ne_empty, hpiece.ne_dot,
        hpiece.ne_up, Nat.not_lt.mpr hpiece.short, hlink, hfollow]
  | link hstart hpiece hlink hfollow =>
      simp [stride, requireDirectory_eq_ok_iff.mpr hstart, hpiece.ne_empty, hpiece.ne_dot,
        hpiece.ne_up, Nat.not_lt.mpr hpiece.short, hlink]
      exact hfollow

/-! ## After an entry is put -/

/-- Strides to a location where nothing was are strides to it still when an entry is put there, and
may go on from it. Those to a link are not concerned. -/
theorem Strides.put (hfree : fs.lookup? location = none) (hentry : ∀ target, entry ≠ .link target)
    (h : Strides fs follow start pieces reached) (tail : List String) :
    match reached with
    | .location there =>
        there = location → ∀ {onward : Reached},
          Strides (fs.put location entry) true location tail onward →
            Strides (fs.put location entry) true start (pieces ++ tail) onward
    | .link directory target rest =>
        Strides (fs.put location entry) true start (pieces ++ tail)
          (.link directory target (rest ++ tail)) := by
  -- Everything that is passed is there already, so it is not the new location.
  have hkept : ∀ {l : Location} {e : Entry}, fs.lookup? l = some e →
      (fs.put location entry).lookup? l = some e := by
    intro l e hfound
    rw [lookup?_put_ne hfree (fun heq => by simp [heq, hfree] at hfound), hfound]
  have hnolink : ∀ {l : Location}, (∀ target, fs.lookup? l ≠ some (.link target)) →
      ∀ target, (fs.put location entry).lookup? l ≠ some (.link target) := by
    intro l hl target
    by_cases heq : l = location
    · rw [heq, lookup?_put_self hfree]
      exact fun h => hentry target (Option.some.inj h)
    · rw [lookup?_put_ne hfree heq]
      exact hl target
  induction h with
  | done => exact fun heq _ htail => heq ▸ htail
  | @stay start piece rest reached hstart hpiece _ ih =>
      cases reached with
      | location there => exact fun heq _ htail => .stay (hkept hstart) hpiece (ih heq htail)
      | link directory target rest => exact .stay (hkept hstart) hpiece ih
  | @up start rest reached hstart _ ih =>
      cases reached with
      | location there => exact fun heq _ htail => .up (hkept hstart) (ih heq htail)
      | link directory target rest => exact .up (hkept hstart) ih
  | @name start piece rest reached hstart hpiece hlink _ ih =>
      cases reached with
      | location there =>
          exact fun heq _ htail => .name (hkept hstart) hpiece (hnolink hlink) (ih heq htail)
      | link directory target rest => exact .name (hkept hstart) hpiece (hnolink hlink) ih
  | linkItself _ _ hlink _ =>
      intro heq
      rw [heq, hfree] at hlink
      cases hlink
  | link hstart hpiece hlink _ => exact .link (hkept hstart) hpiece (hkept hlink) fun _ => rfl

/-- A walk to a location where nothing was comes to it still when an entry is put there, and may go
on from it. -/
theorem walk_put {links : Nat} {there : Location} (hfree : fs.lookup? location = none)
    (entry : Entry) (hentry : ∀ target, entry ≠ .link target)
    (hwalk : fs.walk follow links start pieces = .ok location)
    (htail : Strides (fs.put location entry) true location tail (.location there)) :
    (fs.put location entry).walk true links start (pieces ++ tail) = .ok there := by
  induction links generalizing start pieces with
  | zero =>
      rw [walk] at hwalk ⊢
      split at hwalk
      next => cases hwalk
      next hstride =>
        cases hwalk
        rw [((strides_of_stride hstride).put hfree hentry tail rfl htail).stride_eq]
      next => cases hwalk
  | succ links ih =>
      rw [walk] at hwalk ⊢
      split at hwalk
      next => cases hwalk
      next hstride =>
        cases hwalk
        rw [((strides_of_stride hstride).put hfree hentry tail rfl htail).stride_eq]
      next directory target rest hstride =>
        have honward := (strides_of_stride hstride).put hfree hentry tail
        rw [Strides.stride_eq honward]
        dsimp only at hwalk ⊢
        rw [← List.append_assoc]
        exact ih hwalk

end FileSystem

end HostFlash
