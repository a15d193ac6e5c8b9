import FacetedSearch.Directory
import Mathlib.Data.List.Basic

/-! The files of a directory, found by their names.

A path that is written as parts with slashes between them has just these parts. So the path of a
name in the directory where paths start leads to that name, past all other places, and a
configuration file is found by its name, or else by its name with the ending.
-/

set_option autoImplicit false

namespace FacetedSearch

theorem Path.segments_eq_splitOn (cs : List Char) : Path.segments cs = cs.splitOn '/' := by
  induction cs with
  | nil => rfl
  | cons c rest ih =>
    obtain ⟨first, others, split⟩ := List.exists_cons_of_ne_nil (List.splitOn_ne_nil '/' rest)
    rw [Path.segments, ih, List.splitOn_cons_eq_if_modifyHead, split]
    by_cases slash : c = '/' <;> simp [slash]

namespace Directory

variable {name : String}

def pathTo (name : String) : String := homePath ++ "/" ++ name

/-- A single part of a path, and one that does not stay in place or go upwards. -/
structure IsName (name : String) : Prop where
  whole : '/' ∉ name.toList
  leads : name ∉ ["", ".", ".."]
  short : (pathTo name).utf8ByteSize < pathLimit

def homeParts : List (List Char) := [] :: home.map String.toList

theorem toList_pathTo (name : String) :
    (pathTo name).toList = ['/'].intercalate (homeParts ++ [name.toList]) := by
  simp [pathTo, homePath, homeParts, home, String.join, List.intercalate, List.intersperse]

theorem IsName.segments_eq (named : IsName name) :
    Path.segments (pathTo name).toList = homeParts ++ [name.toList] := by
  rw [toList_pathTo, Path.segments_eq_splitOn]
  refine List.splitOn_intercalate '/' ?_ (by simp)
  simp [homeParts, home, named.whole]

theorem IsName.step?_home (named : IsName name) : step? home name = some (home ++ [name]) := by
  have leads := named.leads
  simp only [List.mem_cons, List.not_mem_nil, not_or] at leads
  have unlinked : links.lookup (home ++ [name]) = none := by
    simp [List.lookup_eq_none_iff, links, home, inputPlace]
  simp [step?, leads, directories, unlinked]

theorem IsName.place?_eq (named : IsName name) :
    place? (pathTo name) = some (home ++ [name]) := by
  have absolute : Path.isAbsolute (pathTo name) = true := by
    rw [Path.isAbsolute, toList_pathTo]
    rfl
  -- The first part is empty and stays at the root.
  have up : (homeParts.map String.ofList).foldlM step? [] = some home := by decide
  rw [place?, if_neg (Nat.not_le.mpr named.short), named.segments_eq, absolute, if_pos rfl,
    List.map_append, List.foldlM_append, up]
  simp [named.step?_home]

theorem readable?_home (directory : Directory) (name : String) :
    directory.readable? (home ++ [name]) = (directory.files.lookup name).map .file := by
  simp [readable?, home, inputPlace, emptyPlace, systemFiles, name?]

theorem IsName.find?_eq (named : IsName name) (directory : Directory) :
    directory.toFiles.find? (pathTo name) = (directory.files.lookup name).map .file := by
  change (place? (pathTo name)).bind directory.readable? = _
  rw [named.place?_eq]
  exact directory.readable?_home name

theorem IsName.absolute_eq (named : IsName name) : Path.absolute homePath name = pathTo name := by
  have relative : Path.isAbsolute name = false := by
    rw [Path.isAbsolute, beq_eq_false_iff_ne]
    exact fun slash => named.whole (List.mem_of_mem_head? slash)
  rw [Path.absolute, relative]
  rfl

theorem IsName.untilName?_eq (named : IsName name) :
    Path.untilName? (pathTo name) = some (pathTo name) := by
  have leads := named.leads
  simp only [List.mem_cons, List.not_mem_nil, not_or, ← String.toList_inj] at leads
  obtain ⟨nonempty, notHere, notUp, -⟩ := leads
  have last : ((homeParts ++ [name.toList]).reverse.dropWhile fun part =>
      part.isEmpty || part == ['.']) = name.toList :: homeParts.reverse := by
    have moves : (name.toList.isEmpty || name.toList == ['.']) = false := by
      rw [Bool.or_eq_false_iff, List.isEmpty_eq_false_iff, beq_eq_false_iff_ne]
      exact ⟨nonempty, notHere⟩
    rw [List.reverse_concat, List.dropWhile_cons_of_neg (Bool.not_eq_true _ ▸ moves)]
  unfold Path.untilName?
  rw [named.segments_eq]
  dsimp only
  rw [last]
  split
  next none => simp at none
  next up => exact absurd (List.cons.inj up).1 notUp
  next => simp [← toList_pathTo]

/-- A file in the directory is a configuration file under its own name and under its name without the
ending; the former has precedence. -/
theorem configuration?_of_names (directory : Directory) (named : IsName name)
    (ending : IsName (name ++ ".toml")) :
    directory.toFiles.configuration? name =
      (directory.files.lookup name).or (directory.files.lookup (name ++ ".toml")) := by
  have paths : configurationPaths directory.toFiles.here name =
      [pathTo name, pathTo (name ++ ".toml")] := by
    have next : pathTo name ++ ".toml" = pathTo (name ++ ".toml") := String.append_assoc ..
    change configurationPaths homePath name = _
    simp [configurationPaths, named.absolute_eq, named.untilName?_eq, next]
  rw [Files.configuration?, paths]
  cases own : directory.files.lookup name <;>
    cases other : directory.files.lookup (name ++ ".toml") <;>
    simp [named.find?_eq, ending.find?_eq, own, other, Readable.fileText?]

end Directory

end FacetedSearch
