import Mathlib.Data.List.Forall2
import Mathlib.Data.List.Induction
import HostFlash.Firmware.Association

/-!
# Edges and their history

Associations that start empty are a set that remembers when its members came. After any additions
and removals, the edges that are there are those whose addition was not followed by a removal of
their kind or of their end. They stand in the order in which they entered: an edge that is added
again while it is there keeps its place, and one that was removed in between comes last.
-/

namespace HostFlash.Firmware.Associations

/-- A removal of edges: of all that have this forward name, or of all that lead to this path. -/
inductive Removal where
  | ofForward (forward : String)
  | ofEndpoint (endpoint : String)
deriving Repr, DecidableEq

/-- The removal takes the edge away. -/
def Removal.Hits : Removal → Association → Prop
  | ofForward forward, a => a.forward = forward
  | ofEndpoint endpoint, a => a.endpoint = endpoint

instance (r : Removal) (a : Association) : Decidable (r.Hits a) :=
  match r with
  | .ofForward forward => inferInstanceAs (Decidable (a.forward = forward))
  | .ofEndpoint endpoint => inferInstanceAs (Decidable (a.endpoint = endpoint))

/-- A change of the edges. -/
inductive Edit where
  | add (a : Association)
  | remove (r : Removal)
deriving Repr, DecidableEq

/-- The edges that a removal leaves. -/
def without (s : Associations) : Removal → Associations
  | .ofForward forward => s.withoutForward forward
  | .ofEndpoint endpoint => s.withoutEndpoint endpoint

/-- The edges after a change. -/
def after (s : Associations) : Edit → Associations
  | .add a => s.add a
  | .remove r => s.without r

/-- The edges after changes in their order. -/
def afterAll (s : Associations) (edits : List Edit) : Associations := edits.foldl after s

/-- The edge was added at this place, and no removal behind it takes the edge away. -/
structure Kept (edits : List Edit) (a : Association) (place : Nat) : Prop where
  added : edits[place]? = some (.add a)
  spared : ∀ later r, place < later → edits[later]? = some (.remove r) → ¬ r.Hits a

/-- The edge is kept from this place on, where it was added for the first time since the last
removal that took it away. -/
structure Entered (edits : List Edit) (a : Association) (place : Nat) : Prop
    extends Kept edits a place where
  first : ∀ earlier, earlier < place → edits[earlier]? = some (.add a) →
    ∃ between r, earlier < between ∧ between < place ∧
      edits[between]? = some (.remove r) ∧ r.Hits a

/-! ## One change -/

section Step

variable {s : Associations} {a b : Association} {r q : Removal}

theorem entries_without (s : Associations) (r : Removal) :
    (s.without r).entries = s.entries.filter fun a => ¬ r.Hits a := by
  cases r with
  | ofForward forward => rfl
  | ofEndpoint endpoint => rfl

theorem mem_add : a ∈ (s.add b).entries ↔ a ∈ s.entries ∨ a = b := by
  unfold add
  split
  next hmem => exact ⟨Or.inl, fun h => h.elim id fun heq => heq ▸ hmem⟩
  next => simp

theorem mem_without : a ∈ (s.without r).entries ↔ a ∈ s.entries ∧ ¬ r.Hits a := by
  rw [entries_without, List.mem_filter, decide_eq_true_iff]

theorem nodup_add (h : s.entries.Nodup) (a : Association) : (s.add a).entries.Nodup := by
  unfold add
  split
  next => exact h
  next hnew =>
    refine List.nodup_append.mpr ⟨h, List.pairwise_singleton _ a, fun b hb c hc heq => hnew ?_⟩
    rwa [← List.mem_singleton.mp hc, ← heq]

theorem nodup_without (h : s.entries.Nodup) (r : Removal) : (s.without r).entries.Nodup := by
  rw [entries_without]
  exact h.filter _

theorem without_comm (s : Associations) (r q : Removal) :
    (s.without r).without q = (s.without q).without r := by
  have hentries : ((s.without r).without q).entries = ((s.without q).without r).entries := by
    simp only [entries_without, List.filter_filter, Bool.and_comm]
  exact congrArg Associations.mk hentries

theorem without_idem (s : Associations) (r : Removal) : (s.without r).without r = s.without r := by
  have hentries : ((s.without r).without r).entries = (s.without r).entries := by
    simp only [entries_without, List.filter_filter, Bool.and_self]
  exact congrArg Associations.mk hentries

theorem contains_iff (s : Associations) (forward endpoint : String) :
    s.contains forward endpoint = true ↔ ∃ reverse, ⟨forward, reverse, endpoint⟩ ∈ s.entries := by
  rw [contains, List.any_eq_true]
  constructor
  · rintro ⟨a, hmem, ha⟩
    obtain ⟨rfl, rfl⟩ : a.forward = forward ∧ a.endpoint = endpoint := by simpa using ha
    exact ⟨a.reverse, hmem⟩
  · rintro ⟨reverse, hmem⟩
    exact ⟨_, hmem, by simp⟩

end Step

/-! ## The place of an edge -/

section Place

variable {edits : List Edit} {edit : Edit} {a b : Association} {r : Removal} {place : Nat}

theorem getElem?_concat_eq_some_iff {found : Edit} :
    (edits ++ [edit])[place]? = some found ↔
      edits[place]? = some found ∨ place = edits.length ∧ edit = found := by
  grind

theorem Kept.lt_length (h : Kept edits a place) : place < edits.length :=
  (List.getElem?_eq_some_iff.mp h.added).1

/-- A change that does not take the edge away keeps it. -/
theorem Kept.concat (h : Kept edits a place) (hedit : ∀ r, edit = .remove r → ¬ r.Hits a) :
    Kept (edits ++ [edit]) a place where
  added := getElem?_concat_eq_some_iff.mpr (Or.inl h.added)
  spared := by
    intro later r hlater hremove
    rcases getElem?_concat_eq_some_iff.mp hremove with hremove | ⟨_, hlast⟩
    · exact h.spared later r hlater hremove
    · exact hedit r hlast

/-- What is kept after one more change was kept before it, or was just added. -/
theorem Kept.of_concat (h : Kept (edits ++ [edit]) a place) :
    (Kept edits a place ∧ ∀ r, edit = .remove r → ¬ r.Hits a) ∨ edit = .add a := by
  rcases getElem?_concat_eq_some_iff.mp h.added with hadded | ⟨_, hlast⟩
  · have hplace := (List.getElem?_eq_some_iff.mp hadded).1
    refine Or.inl ⟨⟨hadded, fun later r hlater hremove => ?_⟩, fun r hedit => ?_⟩
    · exact h.spared later r hlater (getElem?_concat_eq_some_iff.mpr (Or.inl hremove))
    · exact h.spared edits.length r hplace (getElem?_concat_eq_some_iff.mpr (Or.inr ⟨rfl, hedit⟩))
  · exact Or.inr hlast

theorem kept_last (edits : List Edit) (a : Association) :
    Kept (edits ++ [.add a]) a edits.length where
  added := List.getElem?_concat_length
  spared := by
    intro later r hlater hremove
    have hlt := (List.getElem?_eq_some_iff.mp hremove).1
    rw [List.length_append, List.length_singleton] at hlt
    omega

theorem Entered.concat (h : Entered edits a place) (hedit : ∀ r, edit = .remove r → ¬ r.Hits a) :
    Entered (edits ++ [edit]) a place where
  toKept := h.toKept.concat hedit
  first := by
    intro earlier hearlier hadded
    rcases getElem?_concat_eq_some_iff.mp hadded with hadded | ⟨rfl, _⟩
    · obtain ⟨between, r, hafter, hbefore, hremove, hhits⟩ := h.first earlier hearlier hadded
      exact ⟨between, r, hafter, hbefore,
        getElem?_concat_eq_some_iff.mpr (Or.inl hremove), hhits⟩
    · exact absurd hearlier (Nat.lt_asymm h.lt_length)

/-- An edge that is not there enters with its addition. -/
theorem entered_last (habsent : ¬ ∃ place, Kept edits a place) :
    Entered (edits ++ [.add a]) a edits.length where
  toKept := kept_last edits a
  first := by
    intro earlier hearlier hadded
    by_contra hspared
    rcases getElem?_concat_eq_some_iff.mp hadded with hadded | ⟨rfl, _⟩
    · refine habsent ⟨earlier, hadded, fun later r hlater hremove hhits => hspared ?_⟩
      exact ⟨later, r, hlater, (List.getElem?_eq_some_iff.mp hremove).1,
        getElem?_concat_eq_some_iff.mpr (Or.inl hremove), hhits⟩
    · exact absurd hearlier (Nat.lt_irrefl _)

end Place

/-! ## All changes -/

/-- The edges are those that their history keeps, each once, and in the order in which they have
entered. -/
structure Chronicled (edits : List Edit) (s : Associations) : Prop where
  nodup : s.entries.Nodup
  mem_iff : ∀ a, a ∈ s.entries ↔ ∃ place, Kept edits a place
  ordered : ∃ places, places.Pairwise (· < ·) ∧ List.Forall₂ (Entered edits) s.entries places

section Run

variable {edits : List Edit} {entries : List Association} {places : List Nat} {s : Associations}

theorem lt_length_of_entered (h : List.Forall₂ (Entered edits) entries places) :
    ∀ place ∈ places, place < edits.length := by
  induction h with
  | nil => simp
  | cons hfirst _ ih => exact List.forall_mem_cons.mpr ⟨hfirst.lt_length, ih⟩

/-- The places of some of the entries are some of the places. -/
theorem exists_places_filter (p : Association → Bool) {R : Association → Nat → Prop}
    (h : List.Forall₂ R entries places) :
    ∃ rest, rest.Sublist places ∧
      List.Forall₂ (fun a place => R a place ∧ p a = true) (entries.filter p) rest := by
  induction h with
  | nil => exact ⟨[], .slnil, .nil⟩
  | @cons a place entries places hfirst _ ih =>
      obtain ⟨rest, hsublist, hrest⟩ := ih
      by_cases ha : p a = true
      · rw [List.filter_cons_of_pos ha]
        exact ⟨place :: rest, hsublist.cons_cons place, .cons ⟨hfirst, ha⟩ hrest⟩
      · rw [List.filter_cons_of_neg ha]
        exact ⟨rest, hsublist.cons place, hrest⟩

theorem chronicled_empty : Chronicled [] empty where
  nodup := List.nodup_nil
  mem_iff := by
    intro a
    constructor
    · exact fun hmem => nomatch hmem
    · rintro ⟨_, hkept⟩
      cases hkept.added
  ordered := ⟨[], .nil, .nil⟩

theorem Chronicled.add (h : Chronicled edits s) (b : Association) :
    Chronicled (edits ++ [.add b]) (s.add b) where
  nodup := nodup_add h.nodup b
  mem_iff := by
    intro a
    rw [mem_add, h.mem_iff]
    constructor
    · rintro (⟨place, hkept⟩ | rfl)
      · exact ⟨place, hkept.concat fun _ heq => nomatch heq⟩
      · exact ⟨_, kept_last edits a⟩
    · rintro ⟨place, hkept⟩
      rcases hkept.of_concat with ⟨hkept, _⟩ | heq
      · exact Or.inl ⟨place, hkept⟩
      · cases heq
        exact Or.inr rfl
  ordered := by
    obtain ⟨places, hincreasing, hentered⟩ := h.ordered
    have hbefore : List.Forall₂ (Entered (edits ++ [.add b])) s.entries places :=
      hentered.imp fun _ _ hplace => hplace.concat fun _ heq => nomatch heq
    unfold Associations.add
    split
    next => exact ⟨places, hincreasing, hbefore⟩
    next habsent =>
      rw [h.mem_iff] at habsent
      refine ⟨places ++ [edits.length], ?_, ?_⟩
      · refine List.pairwise_append.mpr ⟨hincreasing, List.pairwise_singleton _ _, ?_⟩
        intro place hplace last hlast
        rw [List.mem_singleton.mp hlast]
        exact lt_length_of_entered hentered place hplace
      · exact List.rel_append hbefore (.cons (entered_last habsent) .nil)

theorem Chronicled.without (h : Chronicled edits s) (r : Removal) :
    Chronicled (edits ++ [.remove r]) (s.without r) where
  nodup := nodup_without h.nodup r
  mem_iff := by
    intro a
    rw [mem_without, h.mem_iff]
    constructor
    · rintro ⟨⟨place, hkept⟩, hspared⟩
      exact ⟨place, hkept.concat fun q heq => Edit.remove.inj heq ▸ hspared⟩
    · rintro ⟨place, hkept⟩
      rcases hkept.of_concat with ⟨hkept, hspared⟩ | heq
      · exact ⟨⟨place, hkept⟩, hspared r rfl⟩
      · cases heq
  ordered := by
    obtain ⟨places, hincreasing, hentered⟩ := h.ordered
    obtain ⟨rest, hsublist, hrest⟩ := exists_places_filter (fun a => ¬ r.Hits a) hentered
    rw [entries_without]
    refine ⟨rest, hincreasing.sublist hsublist, hrest.imp fun a place hplace => ?_⟩
    exact hplace.1.concat fun q heq => Edit.remove.inj heq ▸ of_decide_eq_true hplace.2

theorem Chronicled.after (h : Chronicled edits s) (edit : Edit) :
    Chronicled (edits ++ [edit]) (s.after edit) := by
  cases edit with
  | add a => exact h.add a
  | remove r => exact h.without r

theorem chronicled_afterAll (edits : List Edit) : Chronicled edits (empty.afterAll edits) := by
  induction edits using List.reverseRecOn with
  | nil => exact chronicled_empty
  | append_singleton edits edit ih =>
      rw [afterAll, List.foldl_concat]
      exact ih.after edit

/-- The ends of the edges of a kind, one for each edge, in the order of the edges. -/
def ListsEndpoints (s : Associations) (forward : String) (ends : List String) : Prop :=
  ∃ kept : List Association, kept.Sublist s.entries ∧
    (∀ a, a ∈ kept ↔ a ∈ s.entries ∧ a.forward = forward) ∧ ends = kept.map (·.endpoint)

theorem listsEndpoints (s : Associations) (forward : String) :
    s.ListsEndpoints forward (s.endpoints forward) :=
  ⟨s.entries.filter (·.forward = forward), List.filter_sublist, by simp, rfl⟩

/-- Associations that start empty are the edges that their history keeps, each once and in the
order in which they have entered. What is looked up in them is what these edges say, and removals
can be made in any order and again. -/
theorem afterAll_chronicled (edits : List Edit) :
    Chronicled edits (empty.afterAll edits) ∧
      (∀ forward endpoint, (empty.afterAll edits).contains forward endpoint = true ↔
        ∃ reverse, ⟨forward, reverse, endpoint⟩ ∈ (empty.afterAll edits).entries) ∧
      (∀ forward, (empty.afterAll edits).ListsEndpoints forward
        ((empty.afterAll edits).endpoints forward)) ∧
      ∀ (s : Associations) (r q : Removal), (s.without r).without q = (s.without q).without r ∧
        (s.without r).without r = s.without r :=
  ⟨chronicled_afterAll edits, contains_iff _, listsEndpoints _,
    fun s r q => ⟨without_comm s r q, without_idem s r⟩⟩

/-- An edge that is added again keeps its place, unless it was removed in between. -/
example :
    (empty.afterAll [.add ⟨"active", "r", "/a"⟩, .add ⟨"active", "q", "/b"⟩,
      .add ⟨"functional", "r", "/a"⟩, .add ⟨"active", "q", "/b"⟩, .remove (.ofEndpoint "/a"),
      .add ⟨"active", "r", "/a"⟩]).entries =
        [⟨"active", "q", "/b"⟩, ⟨"active", "r", "/a"⟩] := by decide

end Run

end HostFlash.Firmware.Associations
