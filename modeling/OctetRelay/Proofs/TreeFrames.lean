/-
# What a change of a file tree leaves alone

A tree changes in two ways here.  A directory is made where nothing stood, and a
file or a link is removed.

| change | what stood before |
| --- | --- |
| a directory is made, with those that lead to it | all of it still stands (`Keeps`) |
| a file or link is removed | stands but for its own path (`item?_erase_of_ne`) |

Where a removed link led is another matter: the ways through it are gone as well.
But a removal opens no new way.  Whatever directory a written path leads to
afterwards, it led to before (`LeadsTo.of_erase`), since names are followed one
after the other and none can be followed from where nothing stands.

Source: the file operations of `prepare`; `SPEC_FULL.md` 10.
-/

import Mathlib.Data.List.Basic
import OctetRelay.FileTree
import OctetRelay.Proofs.Results

namespace OctetRelay
namespace FileTree

variable {tree before middle after : FileTree} {path place gone directory : FilePath}
  {item : FileItem} {names : List String} {written name : String}

/-! ### What stands under a path -/

/-- An entry that is filtered out is not found. -/
theorem lookup_filter_self {α : Type} (entries : List (FilePath × α)) (gone : FilePath) :
    (entries.filter fun entry => entry.1 ≠ gone).lookup gone = none := by
  rw [List.lookup_eq_none_iff]
  intro entry hentry
  have hne : entry.1 ≠ gone := of_decide_eq_true (List.mem_filter.1 hentry).2
  exact bne_iff_ne.2 hne.symm

/-- All other entries are found as before. -/
theorem lookup_filter_of_ne {α : Type} (entries : List (FilePath × α)) (hne : path ≠ gone) :
    (entries.filter fun entry => entry.1 ≠ gone).lookup path = entries.lookup path := by
  induction entries with
  | nil => rfl
  | cons entry rest ih =>
    obtain ⟨key, value⟩ := entry
    by_cases hkey : key = gone
    · have hpath : (path == key) = false := beq_eq_false_iff_ne.2 (hkey ▸ hne)
      rw [List.filter_cons_of_neg (by simpa using hkey), List.lookup_cons, hpath]
      exact ih
    · rw [List.filter_cons_of_pos (by simpa using hkey), List.lookup_cons, List.lookup_cons, ih]

/-- Where something was removed there is nothing. -/
theorem item?_erase_self (hgone : gone ≠ []) : (tree.erase gone).item? gone = none := by
  rw [item?, node?, if_neg hgone, erase, lookup_filter_self, lookup_filter_self]
  rfl

/-- Elsewhere there is what there was. -/
theorem item?_erase_of_ne (hne : path ≠ gone) : (tree.erase gone).item? path = tree.item? path := by
  rw [item?, node?, erase, lookup_filter_of_ne _ hne, lookup_filter_of_ne _ hne]
  rfl

/-- A removal brings nothing back. -/
theorem item?_erase_of_none (hgone : gone ≠ []) (h : tree.item? path = none) :
    (tree.erase gone).item? path = none := by
  by_cases hpath : path = gone
  · rw [hpath, item?_erase_self hgone]
  · rw [item?_erase_of_ne hpath, h]

/-- What is found after erasing stands at another path. -/
theorem ne_of_item?_erase (hgone : gone ≠ []) (h : (tree.erase gone).item? path = some item) :
    path ≠ gone := by
  rintro rfl
  rw [item?_erase_self hgone] at h
  cases h

/-- What is made where nothing stood takes nothing away. -/
theorem item?_add (hfree : tree.item? place = none) (h : tree.item? path = some item)
    (node : FileNode) : (tree.add place node).item? path = some item := by
  have hne : path ≠ place := by
    rintro rfl
    rw [hfree] at h
    cases h
  have hnode : (tree.add place node).node? path = tree.node? path := by
    have hnew : (path == place) = false := beq_eq_false_iff_ne.2 hne
    simp only [node?, add, List.lookup_append, List.lookup_cons, hnew, List.lookup_nil,
      Option.or_none]
  rw [item?, hnode]
  exact h

/-! ### What is kept -/

/-- What stood in a tree still stands in another one. -/
def Keeps (before after : FileTree) : Prop :=
  ∀ path item, before.item? path = some item → after.item? path = some item

namespace Keeps

/-- A tree keeps what stands in it. -/
theorem refl (tree : FileTree) : Keeps tree tree := fun _ _ h => h

/-- What is kept and kept again is kept. -/
theorem trans (h : Keeps before middle) (h' : Keeps middle after) : Keeps before after :=
  fun path item hitem => h' path item (h path item hitem)

end Keeps

/-- A directory can only be made where nothing stands. -/
theorem item?_of_freePlace (h : tree.freePlace written = .ok place) : tree.item? place = none := by
  obtain ⟨child, -, h⟩ := ok_of_bind h
  cases child with
  | none => cases h
  | some child =>
    simp only at h
    split at h
    · cases h
    · rename_i hfree
      obtain ⟨-, -, h⟩ := ok_of_bind h
      obtain rfl := Except.ok.inj h
      exact Option.not_isSome_iff_eq_none.1 hfree

/-- Making a directory keeps what there is. -/
theorem keeps_makeDirectory (tree : FileTree) (written : String) :
    Keeps tree (tree.makeDirectory written).tree := by
  rw [makeDirectory]
  split
  · rename_i place hplace
    exact fun _ _ hitem => item?_add (item?_of_freePlace hplace) hitem .directory
  · exact .refl tree

/-- How the outcome is settled has no part in the tree. -/
theorem Changed.tree_settled (made : Changed Unit) (written : String) :
    (made.settled written).tree = made.tree := by
  rw [Changed.settled]
  split
  · rfl
  · split <;> rfl

/-- **Making directories** keeps all that stood, whether or not it succeeds. -/
theorem keeps_makeNested (tree : FileTree) (paths : List String) :
    Keeps tree (tree.makeNested paths).tree := by
  induction paths with
  | nil => exact .refl tree
  | cons written above ih =>
    simp only [makeNested]
    split
    · split
      · rw [Changed.tree_settled]
        exact ih.trans (keeps_makeDirectory _ written)
      · exact ih
    · rw [Changed.tree_settled]
      exact keeps_makeDirectory tree written

/-- Making a directory with those above it keeps what there is. -/
theorem keeps_makeDirectories (tree : FileTree) (written : String) :
    Keeps tree (tree.makeDirectories written).tree := by
  rw [makeDirectories]
  split
  · exact .refl tree
  · exact keeps_makeNested tree _

/-! ### Where names lead -/

/-- Names are followed one part after the other. -/
theorem walk_append (tree : FileTree) (place : FilePath) (front back : List String) :
    tree.walk place (front ++ back) = (tree.walk place front).bind fun
      | (.place place, _) => tree.walk place back
      | (.link directory target, rest) => .ok (.link directory target, rest ++ back) := by
  induction front generalizing place with
  | nil => rfl
  | cons name rest ih =>
    simp only [List.cons_append, walk]
    cases tree.advance place name with
    | error fault => rfl
    | ok reached =>
      cases reached with
      | place next => exact ih next
      | link directory target => rfl

/-- A separator at the end asks for a directory, and leads nowhere else. -/
theorem walk_empty (tree : FileTree) (place : FilePath) :
    tree.walk place [""] = (tree.requireDirectory place).map fun () => (.place place, []) := by
  rw [walk, advance]
  cases tree.requireDirectory place <;> rfl

/-- An empty piece at the end asks for a directory. -/
theorem followLinks_concat_empty (tree : FileTree) (links : Nat) (place : FilePath)
    (names : List String) :
    tree.followLinks links place (names ++ [""]) =
      (tree.followLinks links place names).bind fun place =>
        (tree.requireDirectory place).map fun () => place := by
  fun_induction followLinks tree links place names with
  | case1 links place names fault hwalk =>
    rw [followLinks, walk_append, hwalk]
    rfl
  | case2 links place names arrived rest hwalk =>
    rw [followLinks, walk_append, hwalk]
    simp only [Except.bind, walk_empty]
    cases tree.requireDirectory arrived <;> rfl
  | case3 place names directory target rest hwalk =>
    rw [followLinks, walk_append, hwalk]
    rfl
  | case4 place names directory target rest hwalk links ih =>
    rw [followLinks, walk_append, hwalk]
    simp only [Except.bind, ← List.append_assoc]
    exact ih

/-- A directory is accepted just where one stands. -/
theorem requireDirectory_eq_ok_iff :
    tree.requireDirectory place = .ok () ↔ tree.item? place = some (.node .directory) := by
  rw [requireDirectory]
  split <;> simp_all

/-! A check that fails does not say that anything is missing. -/

/-- The length of a path is no reason for a missing file. -/
theorem requireShortPath_ne_notFound (written : String) :
    requireShortPath written ≠ .error .notFound := by
  rw [requireShortPath]
  split <;> simp

/-- Neither is the length of a name. -/
theorem requireShort_ne_notFound (name : String) : requireShort name ≠ .error .notFound := by
  rw [requireShort]
  split <;> simp

/-- Nor are the rights to a directory. -/
theorem requireAllowed_ne_notFound (tree : FileTree) (access : FileAccess) (place : FilePath) :
    tree.requireAllowed access place ≠ .error .notFound := by
  rw [requireAllowed]
  split <;> simp

/-- Names cannot be followed from where something was removed. -/
theorem ne_of_requireDirectory_erase (hgone : gone ≠ [])
    (h : (tree.erase gone).requireDirectory place = .ok ()) : place ≠ gone :=
  ne_of_item?_erase hgone (requireDirectory_eq_ok_iff.1 h)

/-- Erasing makes no directories. -/
theorem requireDirectory_of_erase (hgone : gone ≠ [])
    (h : (tree.erase gone).requireDirectory place = .ok ()) :
    tree.requireDirectory place = .ok () := by
  have hne : place ≠ gone := ne_of_requireDirectory_erase hgone h
  rw [requireDirectory_eq_ok_iff, item?_erase_of_ne hne] at h
  exact requireDirectory_eq_ok_iff.2 h

/-- **A removal opens no new way**: a name leads where it led before, if not to the very path that
is gone. -/
theorem advance_of_erase (hgone : gone ≠ []) {reached : Reached}
    (h : (tree.erase gone).advance place name = .ok reached) :
    place ≠ gone ∧ (reached = .place gone ∨ tree.advance place name = .ok reached) := by
  obtain ⟨⟨⟩, hdirectory, h⟩ := ok_of_bind h
  refine ⟨ne_of_requireDirectory_erase hgone hdirectory, ?_⟩
  rw [advance, requireDirectory_of_erase hgone hdirectory]
  by_cases hnext : place ++ [name] = gone
  · rw [hnext, item?_erase_self hgone] at h
    by_cases hname : isName name = true
    · -- the name leads to where nothing stands now
      have hempty : name ≠ "" := by
        rintro rfl
        cases hname
      rw [if_neg hempty] at h
      obtain ⟨⟨⟩, -, h⟩ := ok_of_bind h
      rw [if_pos hname] at h
      obtain ⟨⟨⟩, -, h⟩ := ok_of_bind h
      exact .inl (Except.ok.inj h).symm
    · rw [if_neg hname] at h ⊢
      exact .inr h
  · rw [item?_erase_of_ne hnext] at h
    exact .inr h

/-- A walk that goes through after erasing meets the erased path or went the same way before. -/
theorem walk_of_erase (hgone : gone ≠ []) {reached : Reached} {rest : List String}
    (h : (tree.erase gone).walk place names = .ok (reached, rest)) :
    reached = .place gone ∨ tree.walk place names = .ok (reached, rest) := by
  induction names generalizing place with
  | nil => exact .inr h
  | cons name names ih =>
    obtain ⟨next, hadvance, h⟩ := ok_of_bind h
    obtain ⟨-, rfl | hadvance⟩ := advance_of_erase hgone hadvance
    · -- from there no further name can be followed
      cases names with
      | nil => exact .inl (Prod.mk.inj (Except.ok.inj h)).1.symm
      | cons name names =>
        obtain ⟨next, hadvance, -⟩ := ok_of_bind h
        exact absurd rfl (advance_of_erase hgone hadvance).1
    · rw [walk, hadvance]
      cases next with
      | place next => exact ih h
      | link directory target => exact .inr h

/-- Links that are followed after erasing lead to the erased path or where they led before. -/
theorem followLinks_of_erase (hgone : gone ≠ []) {links : Nat}
    (h : (tree.erase gone).followLinks links place names = .ok path) :
    path = gone ∨ tree.followLinks links place names = .ok path := by
  fun_induction followLinks (tree.erase gone) links place names with
  | case1 links place names fault hwalk => cases h
  | case2 links place names arrived rest hwalk =>
    obtain rfl := Except.ok.inj h
    rcases walk_of_erase hgone hwalk with harrived | hwalk
    · exact .inl (Reached.place.inj harrived)
    · rw [followLinks, hwalk]
      exact .inr rfl
  | case3 place names directory target rest hwalk => cases h
  | case4 place names directory target rest hwalk links ih =>
    have hwalk := (walk_of_erase hgone hwalk).resolve_left (fun harrived => by cases harrived)
    rw [followLinks, hwalk]
    exact ih h

/-- A written path leads to a directory. -/
def LeadsTo (tree : FileTree) (written : String) (directory : FilePath) : Prop :=
  tree.resolve written = .ok directory ∧ tree.item? directory = some (.node .directory)

/-- **After a removal a written path leads to no other directory than before.** -/
theorem LeadsTo.of_erase (hgone : gone ≠ []) (h : (tree.erase gone).LeadsTo written directory) :
    tree.LeadsTo written directory := by
  obtain ⟨hresolve, hdirectory⟩ := h
  have hne : directory ≠ gone := ne_of_item?_erase hgone hdirectory
  obtain ⟨⟨⟩, hshort, hfollow⟩ := ok_of_bind hresolve
  have hfollow : tree.follow (tree.start written) (pathPieces written) = .ok directory :=
    (followLinks_of_erase hgone hfollow).resolve_left hne
  rw [item?_erase_of_ne hne] at hdirectory
  refine ⟨?_, hdirectory⟩
  rw [resolve, hshort]
  exact hfollow

/-! ### The last name of a written path -/

/-- The last name of a written path stands in the directory that the names before it lead to. -/
theorem child?_eq_some (h : tree.child? written = .ok (some place)) :
    ∃ front name directory, withoutEmptyEnd (pathPieces written) = front ++ [name] ∧
      requireShortPath written = .ok () ∧
      tree.follow (tree.start written) front = .ok directory ∧
      tree.item? directory = some (.node .directory) ∧ place = directory ++ [name] := by
  obtain ⟨⟨⟩, hshort, h⟩ := ok_of_bind h
  simp only at h
  split at h
  · cases h
  · rename_i name hlast
    obtain ⟨directory, hfollow, h⟩ := ok_of_bind h
    obtain ⟨⟨⟩, hdirectory, h⟩ := ok_of_bind h
    obtain ⟨-, -, h⟩ := ok_of_bind h
    split at h
    · obtain ⟨-, -, h⟩ := ok_of_bind h
      exact ⟨_, name, directory, (List.dropLast_append_getLast? name hlast).symm, hshort, hfollow,
        requireDirectory_eq_ok_iff.1 hdirectory, (Option.some.inj (Except.ok.inj h)).symm⟩
    · cases h

/-- What is removed is a file or a link, and stands for the last name of the path itself. -/
theorem filledPlace_eq_ok (h : tree.filledPlace written = .ok place) :
    tree.child? written = .ok (some place) ∧ tree.item? place ≠ some (.node .directory) := by
  obtain ⟨child, hchild, h⟩ := ok_of_bind h
  cases child with
  | none => cases h
  | some child =>
    simp only at h
    split at h
    · cases h
    · rename_i item hitem
      split at h
      · cases h
      · obtain ⟨-, -, h⟩ := ok_of_bind h
        split at h
        · cases h
        · rename_i hfile
          obtain rfl := Except.ok.inj h
          exact ⟨hchild, fun hdirectory => hfile (Option.some.inj (hitem.symm.trans hdirectory))⟩

/-- What cannot be removed for want of it does not stand there, or its way is missing. -/
theorem filledPlace_eq_notFound (h : tree.filledPlace written = .error .notFound) :
    tree.child? written = .error .notFound ∨
      ∃ place, tree.child? written = .ok (some place) ∧ tree.item? place = none := by
  refine (error_of_bind h).imp_right ?_
  rintro ⟨child, hchild, h⟩
  cases child with
  | none => cases h
  | some place =>
    refine ⟨place, hchild, ?_⟩
    simp only at h
    split at h
    · assumption
    · split at h
      · split at h <;> cases h
      · rcases error_of_bind h with h | ⟨⟨⟩, -, h⟩
        · exact absurd h (requireAllowed_ne_notFound _ _ _)
        · split at h <;> cases h

/-- Removing a file leaves the tree as it is or erases the place that the path leads to. -/
theorem tree_removeFile (tree : FileTree) (written : String) :
    (tree.removeFile written).tree = tree ∨
      ∃ place, tree.filledPlace written = .ok place ∧
        (tree.removeFile written).tree = tree.erase place := by
  rw [removeFile]
  split
  · rename_i place hplace
    exact .inr ⟨place, hplace, rfl⟩
  · exact .inl rfl

end FileTree
end OctetRelay
