/-
# What preparing the log files removes

The log files of an earlier run are removed on demand, under names that are given
on the command line.  Of such a text only the last part counts, and that decides
what can be removed:

| text | base name |
| --- | --- |
| `log.info` | `log.info` |
| `../elsewhere/log.info/./` | `log.info` |
| `/etc/..` | none |
| `.`, `/`, nothing at all | none |

A base name is one name (`baseName?_eq_some_iff`), so that written behind the log
directory it spells a direct child of it (`child?_joined`).  The two removals come
one after the other, and the first may take away a link that the log directory is
reached by; but then the second finds no other log directory (`LeadsTo.of_erase`).
So whatever is lost is one of two children of one directory, and it is lost only
where removal was asked for and both texts have a base name (`lost_of_prepare`).
If all goes well then, neither of them is left (`gone_of_prepare`): the one fault
that is no trouble says that there was nothing.

Source: `file_name` and `prepare`; `SPEC_FULL.md` 10, base names only.
-/

import OctetRelay.Command.LogFiles
import OctetRelay.Proofs.TreeFrames

namespace OctetRelay

open FileTree (pathPieces isName)

namespace FileTree

/-- No part of a written path has a separator in it. -/
theorem separator_not_mem_of_mem_pathPieces {path piece : String} (h : piece ∈ pathPieces path) :
    '/' ∉ piece.toList := by
  obtain ⟨chars, hchars, rfl⟩ := List.mem_map.1 h
  rw [String.toList_ofList]
  exact Text.not_mem_of_mem_pieces hchars

/-- A path is cut at each of its separators. -/
theorem pathPieces_of_separator {path : String} {front back : List Char}
    (h : path.toList = front ++ '/' :: back) :
    pathPieces path =
      (Text.pieces '/' front).map String.ofList ++ (Text.pieces '/' back).map String.ofList := by
  rw [pathPieces, h, Text.pieces_append_sep, List.map_append]

/-- A name without separators is a path of one piece. -/
theorem pathPieces_of_not_mem {name : String} (h : '/' ∉ name.toList) :
    pathPieces name = [name] := by
  rw [pathPieces, Text.pieces_of_not_mem h, List.map_singleton, String.ofList_toList]

/-- Every piece is a name but the empty one and the two that stand for directories. -/
theorem isName_iff {name : String} : isName name = true ↔ name ≠ "" ∧ name ≠ "." ∧ name ≠ ".." := by
  simp only [isName, Bool.and_eq_true, decide_eq_true_eq, and_assoc]

end FileTree

namespace LogFiles

variable {tree : FileTree} {directory name base text : String} {path place : FilePath}
  {item : FileItem}

/-- The last of the elements of a kind is followed by none of them. -/
theorem getLast?_filter_eq_some_iff {α : Type} {kind : α → Bool} {elements : List α} {last : α} :
    (elements.filter kind).getLast? = some last ↔
      kind last = true ∧ ∃ front back, elements = front ++ last :: back ∧
        ∀ element ∈ back, kind element = false := by
  rw [List.getLast?_filter, List.find?_eq_some_iff_append]
  refine and_congr_right fun _ => ⟨?_, ?_⟩
  · rintro ⟨back, front, helements, hback⟩
    refine ⟨front.reverse, back.reverse, ?_, fun element helement => ?_⟩
    · rw [List.reverse_eq_iff.1 helements, List.reverse_append, List.reverse_cons,
        List.append_assoc, List.singleton_append]
    · simpa using hback element (List.mem_reverse.1 helement)
  · rintro ⟨front, back, rfl, hback⟩
    refine ⟨back.reverse, front.reverse, ?_, fun element helement => ?_⟩
    · rw [List.reverse_append, List.reverse_cons, List.append_assoc, List.singleton_append]
    · simpa using hback element (List.mem_reverse.1 helement)

/-- **The base name of a text** is its last part but for empty ones and dots, if that is a name. -/
theorem baseName?_eq_some_iff : baseName? text = some base ↔
    isName base = true ∧ ∃ front back, pathPieces text = front ++ base :: back ∧
      ∀ piece ∈ back, piece = "" ∨ piece = "." := by
  have hbase : baseName? text = ((pathPieces text).filter fun piece =>
      piece ≠ "" && piece ≠ ".").getLast?.filter (· ≠ "..") := by
    rw [baseName?]
    generalize ((pathPieces text).filter _).getLast? = last?
    cases last? with
    | none => rfl
    | some last => by_cases hup : last = ".." <;> simp [Option.filter, hup]
  rw [hbase, Option.filter_eq_some_iff, getLast?_filter_eq_some_iff, FileTree.isName_iff]
  simp only [ne_eq, Bool.and_eq_true, decide_eq_true_eq, Bool.and_eq_false_iff,
    decide_eq_false_iff_not, not_not]
  tauto

/-- One name, that behind a directory leads to a child of it. -/
structure IsChildName (name : String) : Prop where
  isName : isName name = true
  separator_not_mem : '/' ∉ name.toList

/-- The name of a child is not empty. -/
theorem IsChildName.ne_empty (h : IsChildName name) : name ≠ "" :=
  (FileTree.isName_iff.1 h.isName).1

/-- A base name is one name. -/
theorem isChildName_of_baseName? (h : baseName? text = some base) : IsChildName base := by
  obtain ⟨hname, front, back, hpieces, -⟩ := baseName?_eq_some_iff.1 h
  have hmem : base ∈ pathPieces text := hpieces ▸ List.mem_append_right front List.mem_cons_self
  exact ⟨hname, FileTree.separator_not_mem_of_mem_pathPieces hmem⟩

/-- A directory and a child are written with a separator between them, where there is none yet. -/
theorem joined_eq (directory name : String) :
    ∃ separator, joined directory name = directory ++ separator ++ name ∧
      (directory = "" → separator = "") := by
  rw [joined]
  split
  · exact ⟨"", by rw [String.append_empty], fun _ => rfl⟩
  · rename_i h
    exact ⟨"/", rfl, fun hempty => absurd (.inl hempty) h⟩

/-- Written behind a directory, a name is one more part. -/
theorem pathPieces_joined (directory : String) (hname : '/' ∉ name.toList) :
    ∃ front, pathPieces (joined directory name) = front ++ [name] ∧
      (pathPieces directory = front ∨ pathPieces directory = front ++ [""]) := by
  rw [joined]
  split
  · rename_i h
    rcases h with rfl | hsuffix
    · exact ⟨[], FileTree.pathPieces_of_not_mem (by simpa using hname), .inr rfl⟩
    · obtain ⟨front, hfront⟩ := List.isSuffixOf_iff_suffix.1 hsuffix
      have hdirectory : directory.toList = front ++ '/' :: [] := hfront.symm
      have hjoined : (directory ++ name).toList = front ++ '/' :: name.toList := by
        rw [String.toList_append, hdirectory, List.append_assoc, List.singleton_append]
      refine ⟨_, ?_, .inr (FileTree.pathPieces_of_separator hdirectory)⟩
      rw [FileTree.pathPieces_of_separator hjoined]
      exact congrArg _ (FileTree.pathPieces_of_not_mem hname)
  · have hjoined : (directory ++ "/" ++ name).toList = directory.toList ++ '/' :: name.toList := by
      rw [String.toList_append, String.toList_append, List.append_assoc]
      rfl
    refine ⟨pathPieces directory, ?_, .inl rfl⟩
    rw [FileTree.pathPieces_of_separator hjoined]
    exact congrArg _ (FileTree.pathPieces_of_not_mem hname)

/-- A name behind a directory does not change where the resolution starts. -/
theorem start_joined (tree : FileTree) (hname : '/' ∉ name.toList) :
    tree.start (joined directory name) = tree.start directory := by
  obtain ⟨separator, hjoined, hempty⟩ := joined_eq directory name
  have hroot : "/".toList.isPrefixOf (joined directory name).toList =
      "/".toList.isPrefixOf directory.toList := by
    rw [hjoined, String.toList_append, String.toList_append]
    cases hchars : directory.toList with
    | nil =>
      have hdirectory : directory = "" := String.toList_eq_nil_iff.1 hchars
      rw [hempty hdirectory]
      cases hrest : name.toList with
      | nil => rfl
      | cons c rest =>
        rw [hrest] at hname
        have hne : '/' ≠ c := fun heq => hname (heq ▸ List.mem_cons_self)
        have hc : ('/' == c) = false := beq_eq_false_iff_ne.2 hne
        simp [List.isPrefixOf, hc]
    | cons c rest => simp [List.isPrefixOf]
  rw [FileTree.start, FileTree.origin, hroot]
  rfl

/-- If a joined path is short enough, so is its directory. -/
theorem requireShortPath_of_joined
    (h : FileTree.requireShortPath (joined directory name) = .ok ()) :
    FileTree.requireShortPath directory = .ok () := by
  obtain ⟨separator, hjoined, -⟩ := joined_eq directory name
  have hle : directory.utf8ByteSize ≤ (joined directory name).utf8ByteSize := by
    rw [hjoined, String.utf8ByteSize_append, String.utf8ByteSize_append, Nat.add_assoc]
    exact Nat.le_add_right ..
  rw [FileTree.requireShortPath] at h ⊢
  split at h
  · cases h
  · rename_i hshort
    exact if_neg fun hlong => hshort (Nat.le_trans hlong hle)

/-- A path that ends in a name has no empty end to drop. -/
theorem withoutEmptyEnd_concat {names : List String} (hname : name ≠ "") :
    FileTree.withoutEmptyEnd (names ++ [name]) = names ++ [name] := by
  rw [FileTree.withoutEmptyEnd, List.reverse_concat,
    List.dropWhile_cons_of_neg (by simpa using hname), List.reverse_cons, List.reverse_reverse]

/-- A separator at the end changes nothing for a directory. -/
theorem follow_iff {front : List String} (hfront : pathPieces directory = front ∨
      pathPieces directory = front ++ [""]) (hplace : tree.item? place = some (.node .directory)) :
    tree.follow (tree.start directory) (pathPieces directory) = .ok place ↔
      tree.follow (tree.start directory) front = .ok place := by
  rcases hfront with hfront | hfront
  · rw [hfront]
  · rw [hfront, FileTree.follow, FileTree.followLinks_concat_empty]
    refine ⟨fun h => ?_, fun h => ?_⟩
    · obtain ⟨arrived, hfollow, h⟩ := ok_of_bind h
      obtain ⟨⟨⟩, -, rfl⟩ := ok_of_map h
      exact hfollow
    · rw [FileTree.follow] at h
      rw [h]
      simp only [Except.bind, FileTree.requireDirectory_eq_ok_iff.2 hplace]
      rfl

/-- **A name behind the log directory spells a direct child of it.** -/
theorem child?_joined (hname : IsChildName name)
    (h : tree.child? (joined directory name) = .ok (some path)) :
    ∃ place, tree.LeadsTo directory place ∧ path = place ++ [name] := by
  obtain ⟨front, last, place, hnames, hshort, hfollow, hplace, rfl⟩ := FileTree.child?_eq_some h
  obtain ⟨names, hpieces, hdirectory⟩ := pathPieces_joined directory hname.separator_not_mem
  rw [hpieces, withoutEmptyEnd_concat hname.ne_empty] at hnames
  obtain ⟨rfl, hlast⟩ := List.append_inj' hnames rfl
  obtain rfl := List.head_eq_of_cons_eq hlast
  rw [start_joined tree hname.separator_not_mem] at hfollow
  refine ⟨place, ⟨?_, hplace⟩, rfl⟩
  rw [FileTree.resolve, requireShortPath_of_joined hshort]
  exact (follow_iff hdirectory hplace).2 hfollow

/-- Where the log directory is reached, its child is found, if the checks allow it. -/
theorem child?_joined_of_leadsTo (hname : IsChildName name)
    (h : tree.LeadsTo directory place) :
    tree.child? (joined directory name) = (do
      FileTree.requireShortPath (joined directory name)
      tree.requireAllowed .enter place
      FileTree.requireShort name
      .ok (some (place ++ [name]))) := by
  obtain ⟨hresolve, hplace⟩ := h
  obtain ⟨⟨⟩, -, hfollow⟩ := ok_of_bind hresolve
  obtain ⟨front, hpieces, hdirectory⟩ := pathPieces_joined directory hname.separator_not_mem
  have hfront := (follow_iff hdirectory hplace).1 hfollow
  rw [FileTree.child?, hpieces, withoutEmptyEnd_concat hname.ne_empty,
    start_joined tree hname.separator_not_mem]
  simp only [List.getLast?_concat, List.dropLast_concat, hfront, hname.isName, if_true, bind,
    Except.bind, FileTree.requireDirectory_eq_ok_iff.2 hplace]

/-- What is found under a joined path is the child of the place that the directory leads to. -/
theorem eq_of_child?_joined (hname : IsChildName name)
    (hplace : tree.LeadsTo directory place)
    (h : tree.child? (joined directory name) = .ok (some path)) : path = place ++ [name] := by
  rw [child?_joined_of_leadsTo hname hplace] at h
  obtain ⟨⟨⟩, -, h⟩ := ok_of_bind h
  obtain ⟨⟨⟩, -, h⟩ := ok_of_bind h
  obtain ⟨⟨⟩, -, h⟩ := ok_of_bind h
  exact (Option.some.inj (Except.ok.inj h)).symm

/-- With a directory that leads somewhere, the parent of a joined path is always found. -/
theorem child?_joined_ne_notFound (hname : IsChildName name)
    (hplace : tree.LeadsTo directory place) :
    tree.child? (joined directory name) ≠ .error .notFound := by
  rw [child?_joined_of_leadsTo hname hplace]
  intro h
  rcases error_of_bind h with h | ⟨⟨⟩, -, h⟩
  · exact FileTree.requireShortPath_ne_notFound _ h
  rcases error_of_bind h with h | ⟨⟨⟩, -, h⟩
  · exact FileTree.requireAllowed_ne_notFound _ _ _ h
  rcases error_of_bind h with h | ⟨⟨⟩, -, h⟩
  · exact FileTree.requireShort_ne_notFound _ h
  cases h

variable {options : LogOptions} {info error : String}

/-- Of removing a log only the removal of the file changes the tree. -/
theorem tree_removeLog (tree : FileTree) (options : LogOptions) (name : String) :
    (removeLog tree options name).1 = (tree.removeFile (joined options.directory name)).tree := by
  simp only [removeLog]
  split <;> rfl

/-- **Removing a log file** does nothing, or it takes away the file or link of that name in the log
directory. -/
theorem removeLog_cases (tree : FileTree) (options : LogOptions) (hname : IsChildName name) :
    (removeLog tree options name).1 = tree ∨
      ∃ place, tree.LeadsTo options.directory place ∧
        tree.item? (place ++ [name]) ≠ some (.node .directory) ∧
        (removeLog tree options name).1 = tree.erase (place ++ [name]) := by
  rw [tree_removeLog]
  refine (FileTree.tree_removeFile tree _).imp_right ?_
  rintro ⟨path, hpath, htree⟩
  obtain ⟨hchild, hitem⟩ := FileTree.filledPlace_eq_ok hpath
  obtain ⟨place, hplace, rfl⟩ := child?_joined hname hchild
  exact ⟨place, hplace, hitem, htree⟩

/-- What removing a log file takes away is a child of the log directory, and no directory. -/
theorem lost_of_removeLog (hname : IsChildName name) (hitem : tree.item? path = some item)
    (hlost : (removeLog tree options name).1.item? path ≠ some item) :
    item ≠ .node .directory ∧
      ∃ place, tree.LeadsTo options.directory place ∧ path = place ++ [name] := by
  rcases removeLog_cases tree options hname with htree | ⟨place, hplace, hfile, htree⟩
  · rw [htree] at hlost
    exact absurd hitem hlost
  · rw [htree] at hlost
    by_cases hpath : path = place ++ [name]
    · subst hpath
      exact ⟨fun hdirectory => hfile (hdirectory ▸ hitem), place, hplace, rfl⟩
    · rw [FileTree.item?_erase_of_ne hpath] at hlost
      exact absurd hitem hlost

/-- A directory that leads to a place after the removal did so before. -/
theorem leadsTo_of_removeLog (hname : IsChildName name)
    (h : (removeLog tree options name).1.LeadsTo options.directory place) :
    tree.LeadsTo options.directory place := by
  rcases removeLog_cases tree options hname with htree | ⟨_, -, -, htree⟩
  · exact htree ▸ h
  · rw [htree] at h
    exact h.of_erase (List.concat_ne_nil _ _)

/-- **A log file whose removal was no trouble is gone** from the log directory. -/
theorem gone_of_removeLog (hname : IsChildName name)
    (hplace : tree.LeadsTo options.directory place) (h : (removeLog tree options name).2 = none) :
    (removeLog tree options name).1.item? (place ++ [name]) = none := by
  rw [tree_removeLog, FileTree.removeFile]
  cases hfilled : tree.filledPlace (joined options.directory name) with
  | ok path =>
    obtain ⟨hchild, -⟩ := FileTree.filledPlace_eq_ok hfilled
    obtain rfl := eq_of_child?_joined hname hplace hchild
    exact FileTree.item?_erase_self (List.concat_ne_nil _ _)
  | error fault =>
    -- the one fault that is no trouble says that nothing is there
    have hfault : fault = .notFound := by
      by_contra hother
      simp only [removeLog, FileTree.removeFile, hfilled] at h
      cases h
    subst hfault
    rcases FileTree.filledPlace_eq_notFound hfilled with hmissing | ⟨path, hchild, hitem⟩
    · exact absurd hmissing (child?_joined_ne_notFound hname hplace)
    · obtain rfl := eq_of_child?_joined hname hplace hchild
      exact hitem

/-- The second log file is removed only if the first was no trouble, and neither was trouble if all
went well. -/
theorem removeLogs_cases (tree : FileTree) (options : LogOptions) (place : FilePath)
    (info error : String) :
    let first := removeLog tree options info
    let second := removeLog first.1 options error
    let removed := removeLogs tree options place info error
    (removed.tree = first.1 ∧ ∃ fault, removed.result = .error fault) ∨
      removed.tree = second.1 ∧
        ∀ paths, removed.result = .ok paths → first.2 = none ∧ second.2 = none := by
  intro first second removed
  simp only [removed, removeLogs]
  split
  · rename_i after fault hfirst
    exact .inl ⟨(congrArg Prod.fst hfirst).symm, fault, rfl⟩
  · rename_i after hfirst
    have hafter : first.1 = after := congrArg Prod.fst hfirst
    have hsecond : second = removeLog after options error := by rw [← hafter]
    refine .inr ?_
    split
    · rename_i final fault hremoved
      have hfinal : second = (final, some fault) := hsecond.trans hremoved
      exact ⟨(congrArg Prod.fst hfinal).symm, fun paths hpaths => by cases hpaths⟩
    · rename_i final hremoved
      have hfinal : second = (final, none) := hsecond.trans hremoved
      exact ⟨(congrArg Prod.fst hfinal).symm, fun _ _ =>
        ⟨congrArg Prod.snd hfirst, congrArg Prod.snd hfinal⟩⟩

/-- What removing both log files takes away is one of two children of the log directory. -/
theorem lost_of_removeLogs (hinfo : IsChildName info) (herror : IsChildName error)
    (hitem : tree.item? path = some item)
    (hlost : (removeLogs tree options place info error).tree.item? path ≠ some item) :
    item ≠ .node .directory ∧
      ∃ place, tree.LeadsTo options.directory place ∧
        (path = place ++ [info] ∨ path = place ++ [error]) := by
  by_cases hkept : (removeLog tree options info).1.item? path = some item
  · rcases removeLogs_cases tree options place info error with ⟨htree, -⟩ | ⟨htree, -⟩
    · rw [htree] at hlost
      exact absurd hkept hlost
    · rw [htree] at hlost
      obtain ⟨hfile, place, hplace, rfl⟩ := lost_of_removeLog herror hkept hlost
      exact ⟨hfile, place, leadsTo_of_removeLog hinfo hplace, .inr rfl⟩
  · obtain ⟨hfile, place, hplace, rfl⟩ := lost_of_removeLog hinfo hitem hkept
    exact ⟨hfile, place, hplace, .inl rfl⟩

/-- If all went well, both are gone from the log directory, so far as it is still reached. -/
theorem gone_of_removeLogs (hinfo : IsChildName info) (herror : IsChildName error)
    {paths : LogPaths} (h : (removeLogs tree options place info error).result = .ok paths)
    {found : FilePath}
    (hfound : (removeLogs tree options place info error).tree.LeadsTo options.directory found) :
    (removeLogs tree options place info error).tree.item? (found ++ [info]) = none ∧
      (removeLogs tree options place info error).tree.item? (found ++ [error]) = none := by
  rcases removeLogs_cases tree options place info error with ⟨-, fault, hfault⟩ | ⟨htree, hnone⟩
  · rw [hfault] at h
    cases h
  · obtain ⟨hfirst, hsecond⟩ := hnone paths h
    rw [htree] at hfound ⊢
    have hbetween := leadsTo_of_removeLog herror hfound
    have hgone := gone_of_removeLog hinfo (leadsTo_of_removeLog hinfo hbetween) hfirst
    refine ⟨?_, gone_of_removeLog herror hbetween hsecond⟩
    rcases removeLog_cases (removeLog tree options info).1 options herror with
      hkept | ⟨_, -, -, herased⟩
    · rw [hkept, hgone]
    · rw [herased]
      exact FileTree.item?_erase_of_none (List.concat_ne_nil _ _) hgone

/-- Preparing the log files fails before the removal, or both texts have a base name. -/
theorem prepare_cases (tree : FileTree) (options : LogOptions) :
    let made := (tree.makeDirectories options.directory).tree
    let prepared := prepare tree options
    (prepared.tree = made ∧ ∃ fault, prepared.result = .error fault) ∨
      ∃ info error place,
        baseName? options.infoName = some info ∧ baseName? options.errorName = some error ∧
          prepared =
            if options.removeExisting then removeLogs made options place info error
            else { tree := made, result := .ok ⟨place ++ [info], place ++ [error]⟩ } := by
  intro made prepared
  simp only [prepared, prepare]
  split
  · exact .inl ⟨rfl, _, rfl⟩
  · rename_i place hplace
    split
    · exact .inl ⟨rfl, _, rfl⟩
    · exact .inl ⟨rfl, _, rfl⟩
    · rename_i info error hinfo herror
      exact .inr ⟨info, error, place, hinfo, herror, rfl⟩

/-- **What preparing takes away** is one of two children of the log directory. -/
theorem lost_of_prepare (hitem : tree.item? path = some item)
    (hlost : (prepare tree options).tree.item? path ≠ some item) :
    item ≠ .node .directory ∧ options.removeExisting = true ∧ ∃ info error place,
      baseName? options.infoName = some info ∧ baseName? options.errorName = some error ∧
        (tree.makeDirectories options.directory).tree.LeadsTo options.directory place ∧
        (path = place ++ [info] ∨ path = place ++ [error]) := by
  have hmade : (tree.makeDirectories options.directory).tree.item? path = some item :=
    FileTree.keeps_makeDirectories tree options.directory path item hitem
  rcases prepare_cases tree options with
    ⟨htree, -⟩ | ⟨info, error, place, hinfo, herror, hprepared⟩
  · rw [htree] at hlost
    exact absurd hmade hlost
  · rw [hprepared] at hlost
    by_cases hremove : options.removeExisting = true
    · rw [if_pos hremove] at hlost
      obtain ⟨hfile, place, hplace, hpath⟩ := lost_of_removeLogs (isChildName_of_baseName? hinfo)
        (isChildName_of_baseName? herror) hmade hlost
      exact ⟨hfile, hremove, info, error, place, hinfo, herror, hplace, hpath⟩
    · rw [if_neg hremove] at hlost
      exact absurd hmade hlost

/-- **If removal was asked for and all went well**, the log directory has neither child. -/
theorem gone_of_prepare {paths : LogPaths} (hremove : options.removeExisting = true)
    (h : (prepare tree options).result = .ok paths) : ∃ info error,
    baseName? options.infoName = some info ∧ baseName? options.errorName = some error ∧
      ∀ place, (prepare tree options).tree.LeadsTo options.directory place →
        (prepare tree options).tree.item? (place ++ [info]) = none ∧
          (prepare tree options).tree.item? (place ++ [error]) = none := by
  rcases prepare_cases tree options with
    ⟨-, fault, hfault⟩ | ⟨info, error, place, hinfo, herror, hprepared⟩
  · rw [hfault] at h
    cases h
  · rw [if_pos hremove] at hprepared
    rw [hprepared] at h ⊢
    refine ⟨info, error, hinfo, herror, fun found hfound => ?_⟩
    exact gone_of_removeLogs (isChildName_of_baseName? hinfo) (isChildName_of_baseName? herror) h
      hfound

/-- Without two names there are no log files. -/
theorem prepare_of_unnamed (tree : FileTree)
    (h : baseName? options.infoName = none ∨ baseName? options.errorName = none) :
    ∃ fault, (prepare tree options).result = .error fault := by
  rcases prepare_cases tree options with ⟨-, hfault⟩ | ⟨info, error, -, hinfo, herror, -⟩
  · exact hfault
  · rw [hinfo, herror] at h
    rcases h with hnone | hnone <;> cases hnone

/-- **Preparing the log files removes nothing but log files.**

A text has a base name just if its last part, but for empty ones and dots, is a name; then that is
the base name, which is not empty, has no separator in it and is neither `.` nor `..`.  Whatever
stood in the tree and does not stand there any more was no directory; its removal was asked for,
both texts have a base name, and it was the child of the log directory with the one base name or
with the other.  If the removal was asked for and all goes well, both texts have a base name, and
the log directory has no child with either.  If one of the texts has no base name, there is a
fault, and all that stood there still stands. -/
theorem prepare_removesOnlyLogs (tree : FileTree) (options : LogOptions) :
    let made := (tree.makeDirectories options.directory).tree
    let prepared := prepare tree options
    (∀ text base,
      (baseName? text = some base ↔ isName base = true ∧ ∃ front back,
        pathPieces text = front ++ base :: back ∧ ∀ piece ∈ back, piece = "" ∨ piece = ".") ∧
      (baseName? text = some base →
        base ≠ "" ∧ '/' ∉ base.toList ∧ base ≠ "." ∧ base ≠ "..")) ∧
    (∀ path item, tree.item? path = some item → prepared.tree.item? path ≠ some item →
      item ≠ .node .directory ∧ options.removeExisting = true ∧ ∃ info error place,
        baseName? options.infoName = some info ∧ baseName? options.errorName = some error ∧
          made.LeadsTo options.directory place ∧
          (path = place ++ [info] ∨ path = place ++ [error])) ∧
    (∀ paths, options.removeExisting = true → prepared.result = .ok paths → ∃ info error,
      baseName? options.infoName = some info ∧ baseName? options.errorName = some error ∧
        ∀ place, prepared.tree.LeadsTo options.directory place →
          prepared.tree.item? (place ++ [info]) = none ∧
            prepared.tree.item? (place ++ [error]) = none) ∧
    (baseName? options.infoName = none ∨ baseName? options.errorName = none →
      (∃ fault, prepared.result = .error fault) ∧
        ∀ path item, tree.item? path = some item → prepared.tree.item? path = some item) := by
  intro made prepared
  refine ⟨fun text base => ⟨baseName?_eq_some_iff, fun hbase => ?_⟩,
    fun path item hitem hlost => lost_of_prepare hitem hlost,
    fun paths hremove hpaths => gone_of_prepare hremove hpaths, fun hunnamed => ?_⟩
  · obtain ⟨hname, hseparator⟩ := isChildName_of_baseName? hbase
    obtain ⟨hempty, hdot, hup⟩ := FileTree.isName_iff.1 hname
    exact ⟨hempty, hseparator, hdot, hup⟩
  · refine ⟨prepare_of_unnamed tree hunnamed, fun path item hitem => ?_⟩
    by_contra hlost
    obtain ⟨-, -, info, error, -, hinfo, herror, -⟩ := lost_of_prepare hitem hlost
    rw [hinfo, herror] at hunnamed
    rcases hunnamed with hnone | hnone <;> cases hnone

/-- Names that lead elsewhere, and a log file that is a link to elsewhere: what goes is the file and
the link in the log directory, and nothing else.  Without a base name all stays. -/
theorem prepare_removesOnlyLogs_elsewhere :
    let tree : FileTree :=
      { entries :=
          [(["work"], .directory), (["work", "logs"], .directory),
            (["work", "logs", "log.info"], .file [1]), (["srv"], .directory),
            (["srv", "log.info"], .file [2]), (["srv", "log.error"], .file [3])]
        workingDirectory := ["work"]
        links := [(["work", "logs", "log.error"], "/srv/log.error")] }
    let options : LogOptions :=
      { infoName := "/srv/log.info", errorName := "../../srv//log.error/.", removeExisting := true }
    let prepared := prepare tree options
    let unnamed : LogOptions := { options with errorName := "../srv/.." }
    prepared.tree.item? ["work", "logs", "log.info"] = none ∧
      prepared.tree.item? ["work", "logs", "log.error"] = none ∧
      (∀ path item, tree.item? path = some item → prepared.tree.item? path ≠ some item →
        path = ["work", "logs", "log.info"] ∨ path = ["work", "logs", "log.error"]) ∧
      baseName? unnamed.errorName = none ∧
      ∀ path item, tree.item? path = some item →
        (prepare tree unnamed).tree.item? path = some item := by
  intro tree options prepared unnamed
  have hinfo : baseName? options.infoName = some "log.info" := by decide +kernel
  have herror : baseName? options.errorName = some "log.error" := by decide +kernel
  have hunnamed : baseName? unnamed.errorName = none := by decide +kernel
  have hresolve : (tree.makeDirectories options.directory).tree.resolve options.directory =
      .ok ["work", "logs"] := by decide +kernel
  have hfound : prepared.tree.LeadsTo options.directory ["work", "logs"] :=
    ⟨by decide +kernel, by decide +kernel⟩
  have hpaths : prepared.result =
      .ok ⟨["work", "logs", "log.info"], ["work", "logs", "log.error"]⟩ := by decide +kernel
  obtain ⟨-, hlosses, hgone, -⟩ := prepare_removesOnlyLogs tree options
  obtain ⟨-, -, -, hkept⟩ := prepare_removesOnlyLogs tree unnamed
  obtain ⟨info, error, hinfo', herror', hgone⟩ := hgone _ rfl hpaths
  obtain rfl := Option.some.inj (hinfo.symm.trans hinfo')
  obtain rfl := Option.some.inj (herror.symm.trans herror')
  obtain ⟨hinfoGone, herrorGone⟩ := hgone _ hfound
  refine ⟨hinfoGone, herrorGone, fun path item hitem hlost => ?_, hunnamed,
    (hkept (.inr hunnamed)).2⟩
  obtain ⟨-, -, info, error, place, hinfo', herror', hplace, hpath⟩ := hlosses path item hitem hlost
  obtain rfl := Option.some.inj (hinfo.symm.trans hinfo')
  obtain rfl := Option.some.inj (herror.symm.trans herror')
  obtain rfl := Except.ok.inj (hresolve.symm.trans hplace.1)
  exact hpath

end LogFiles
end OctetRelay
