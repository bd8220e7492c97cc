import Hostcall.Proofs.Text.Pieces
import Hostcall.Settings
import Mathlib.Data.List.TakeWhile

/-!
# Paths beside a program

The directory of a path is a text that the path begins with, and its steps are those of the path without the
last one (`components_parent`). A relative path below a directory has the steps of both (`components_join`). So
a guest's file name leads to the directory of its program, and from there where it says (`resolves_beside`).
-/

namespace Hostcall.Path

/-- The steps that the pieces of a path name. -/
def steps (ps : List (List Char)) : List Component :=
  (ps.filter (!isIdle ·)).map .name

/-- Whether the pieces of a path begin at the root: nothing stands before the first separator. -/
def rooted : List (List Char) → Bool
  | [] :: _ :: _ => true
  | _ => false

variable {ps : List (List Char)} {path directory name : String}

/-- Pieces one after the other are steps one after the other. -/
@[simp] lemma steps_append (ps qs : List (List Char)) : steps (ps ++ qs) = steps ps ++ steps qs := by
  simp [steps]

/-- Idle pieces name no steps. -/
lemma steps_of_idle (h : ∀ piece ∈ ps, isIdle piece = true) : steps ps = [] := by
  simpa [steps] using h

/-- A piece that names something is one step. -/
lemma steps_singleton {piece : List Char} (h : isIdle piece = false) : steps [piece] = [.name piece] := by
  simp [steps, h]

/-- The components of a path are its root, if it has one, and the steps of its pieces. -/
lemma components_eq (path : String) :
    components path = (if isAbsolute path then [.root] else []) ++ steps (pieces path) := by
  simp only [components, steps]
  split <;> rfl

/-- A path of several pieces has a root if the first of them is empty. -/
lemma rooted_cons_cons (first second : List Char) (rest : List (List Char)) :
    rooted (first :: second :: rest) = decide (first = []) := by
  cases first <;> rfl

/-- The first piece of a path with a root is empty. -/
lemma eq_nil_of_rooted {first : List Char} (h : rooted (first :: ps) = true) : first = [] := by
  cases first with
  | nil => rfl
  | cons c first => cases ps <;> cases h

/-! ## Pieces of a path -/

/-- A path has at least one piece. -/
lemma pieces_ne_nil (path : String) : pieces path ≠ [] :=
  Text.split_ne_nil _ _

/-- No piece holds a slash. -/
lemma slash_notMem_of_mem_pieces {piece : List Char} (h : piece ∈ pieces path) : '/' ∉ piece := by
  intro hmem
  have hsolid := (Text.mem_split_iff.mp h).solid '/' hmem
  exact absurd hsolid (by decide)

/-- Pieces that are joined by slashes are the pieces of the path. -/
lemma pieces_joinWith (hne : ps ≠ []) (h : ∀ piece ∈ ps, '/' ∉ piece) :
    pieces (String.ofList (Text.joinWith '/' ps)) = ps := by
  rw [pieces, String.toList_ofList]
  exact Text.split_joinWith hne h

/-- Behind a separator the pieces of the rest follow. -/
lemma pieces_below (directory name : String) :
    pieces (directory ++ "/" ++ name) = pieces directory ++ pieces name := by
  rw [pieces, pieces, pieces, ← Text.split_append (p := (· == '/')) (beq_self_eq_true '/')]
  simp

/-- Joined pieces begin with a separator exactly if they begin at the root. -/
lemma head?_joinWith (h : ∀ piece ∈ ps, '/' ∉ piece) :
    (Text.joinWith '/' ps).head? = some '/' ↔ rooted ps = true := by
  cases ps with
  | nil => simp [Text.joinWith, rooted]
  | cons piece ps =>
    have hpiece : piece.head? ≠ some '/' := fun hhead => h piece (.head _) (List.mem_of_mem_head? hhead)
    cases ps with
    | nil => simpa [Text.joinWith, rooted] using hpiece
    | cons second rest =>
      rw [Text.joinWith]
      · cases piece with
        | nil => simp [rooted]
        | cons c piece => simpa [rooted] using hpiece
      · simp

/-- A path is absolute exactly if its pieces begin at the root. -/
lemma isAbsolute_eq (path : String) : isAbsolute path = rooted (pieces path) := by
  rw [Bool.eq_iff_iff, ← head?_joinWith fun piece h => slash_notMem_of_mem_pieces h, pieces,
    Text.joinWith_split, isAbsolute, decide_eq_true_eq]

/-! ## Idle pieces at the end -/

/-- Trimming keeps the first piece and takes idle ones off the end, until one is not idle. -/
lemma trimPieces_cons (first : List Char) (rest : List (List Char)) :
    ∃ kept idle, rest = kept ++ idle ∧ (∀ piece ∈ idle, isIdle piece = true) ∧
      (∀ piece ∈ kept.getLast?, isIdle piece = false) ∧ trimPieces (first :: rest) = first :: kept := by
  refine ⟨(rest.reverse.dropWhile isIdle).reverse, (rest.reverse.takeWhile isIdle).reverse, ?_, ?_, ?_, rfl⟩
  · rw [← List.reverse_append, List.takeWhile_append_dropWhile, List.reverse_reverse]
  · intro piece hmem
    exact List.mem_takeWhile_imp (List.mem_reverse.mp hmem)
  · intro piece hlast
    rw [List.getLast?_reverse] at hlast
    have hnot := List.head?_dropWhile_not isIdle rest.reverse
    rwa [Option.mem_def.mp hlast] at hnot

/-- What is trimmed away names no steps. -/
lemma steps_trimPieces (ps : List (List Char)) : steps (trimPieces ps) = steps ps := by
  cases ps with
  | nil => rfl
  | cons first rest =>
    obtain ⟨kept, idle, rfl, hidle, -, htrim⟩ := trimPieces_cons first rest
    rw [htrim, ← List.cons_append, steps_append, steps_of_idle hidle, List.append_nil]

/-- Pieces are cut off at the end only. -/
lemma isPrefix_trimPieces (ps : List (List Char)) : trimPieces ps <+: ps := by
  cases ps with
  | nil => exact List.prefix_refl []
  | cons first rest =>
    obtain ⟨kept, idle, rfl, -, -, htrim⟩ := trimPieces_cons first rest
    rw [htrim]
    exact ⟨idle, rfl⟩

/-- The first piece is never cut off. -/
lemma trimPieces_ne_nil (first : List Char) (rest : List (List Char)) : trimPieces (first :: rest) ≠ [] :=
  List.cons_ne_nil _ _

/-- What is left begins at the root if the first piece is empty, unless that piece is all that is left. -/
lemma rooted_trimPieces {first : List Char} {rest : List (List Char)} (h : trimPieces (first :: rest) ≠ [[]]) :
    rooted (trimPieces (first :: rest)) = decide (first = []) := by
  obtain ⟨kept, -, -, -, -, htrim⟩ := trimPieces_cons first rest
  rw [htrim] at h ⊢
  cases kept with
  | nil =>
    have hfirst : first ≠ [] := by simpa using h
    simp [rooted, hfirst]
  | cons second kept => exact rooted_cons_cons ..

/-- If an empty piece is all that is left, it stood first. -/
lemma first_of_trimPieces {first : List Char} {rest : List (List Char)} (h : trimPieces (first :: rest) = [[]]) :
    first = [] := by
  obtain ⟨kept, -, -, -, -, htrim⟩ := trimPieces_cons first rest
  rw [htrim] at h
  exact (List.cons.inj h).1

/-- One piece is left of a path, or several of which the last is not idle. -/
lemma trimPieces_cases (path : String) :
    (∃ first, trimPieces (pieces path) = [first] ∧ (isAbsolute path = true → first = [])) ∨
      ∃ first mid last, trimPieces (pieces path) = first :: (mid ++ [last]) ∧ isIdle last = false ∧
        isAbsolute path = decide (first = []) := by
  obtain ⟨first, rest, hpieces⟩ := List.exists_cons_of_ne_nil (pieces_ne_nil path)
  obtain ⟨kept, idle, rfl, -, hlast, htrim⟩ := trimPieces_cons first rest
  rw [isAbsolute_eq, hpieces, htrim]
  obtain rfl | ⟨mid, last, rfl⟩ := List.eq_nil_or_concat kept
  · exact .inl ⟨first, rfl, eq_nil_of_rooted⟩
  · refine .inr ⟨first, mid, last, ?_, hlast last (by simp), ?_⟩
    · rw [List.concat_eq_append]
    · cases mid <;> exact rooted_cons_cons ..

/-! ## The directory of a path -/

/-- A path of which one piece is left has no directory to speak of. -/
lemma parent?_of_single {first : List Char} (h : trimPieces (pieces path) = [first]) :
    (parent? path).getD "" = "" := by
  rw [parent?, h]
  by_cases hfirst : first = [] <;> simp [hfirst]

/-- Otherwise the directory is what stands before the last piece; the root keeps its separator. -/
lemma parent?_of_concat {first last : List Char} {mid : List (List Char)}
    (h : trimPieces (pieces path) = first :: (mid ++ [last])) :
    parent? path = some (if trimPieces (first :: mid) = [[]] then "/"
      else String.ofList (Text.joinWith '/' (trimPieces (first :: mid)))) := by
  have hdrop : (first :: (mid ++ [last])).dropLast = first :: mid := by
    rw [← List.cons_append, List.dropLast_concat]
  rw [parent?, h, ← hdrop]
  cases mid <;> rfl

/-- What is left before the last piece stands at the beginning of the path. -/
lemma isPrefix_pieces_of_trimPieces {first last : List Char} {mid : List (List Char)}
    (h : trimPieces (pieces path) = first :: (mid ++ [last])) : trimPieces (first :: mid) <+: pieces path := by
  have hwhole : first :: (mid ++ [last]) <+: pieces path := h ▸ isPrefix_trimPieces (pieces path)
  exact ((isPrefix_trimPieces (first :: mid)).trans ⟨[last], rfl⟩).trans hwhole

/-- The directory of a path, which is empty if there is none, is a text that the path begins with. -/
lemma isPrefix_parent? (path : String) : ((parent? path).getD "").toList <+: path.toList := by
  obtain ⟨first, htrim, -⟩ | ⟨first, mid, last, htrim, -, hroot⟩ := trimPieces_cases path
  · rw [parent?_of_single htrim]
    exact List.nil_prefix
  · rw [parent?_of_concat htrim, Option.getD_some]
    split
    · next hbefore =>
      obtain rfl := first_of_trimPieces hbefore
      have hslash : path.toList.head? = some '/' := by simpa [isAbsolute] using hroot
      obtain ⟨rest, hpath⟩ := List.head?_eq_some_iff.mp hslash
      exact ⟨rest, hpath.symm⟩
    · have hpieces : Text.joinWith '/' (pieces path) = path.toList := Text.joinWith_split '/' path.toList
      rw [String.toList_ofList, ← hpieces]
      exact Text.isPrefix_joinWith '/' (trimPieces_ne_nil first mid) (isPrefix_pieces_of_trimPieces htrim)

/-- The directory of a path, which is empty if there is none, has the steps of the path but for the last one. -/
lemma components_parent (path : String) :
    components ((parent? path).getD "") = (components path).dropLast := by
  obtain ⟨first, htrim, hroot⟩ | ⟨first, mid, last, htrim, hlast, hroot⟩ := trimPieces_cases path
  -- One step at most is left: the root has no piece that counts beside it.
  · rw [parent?_of_single htrim, components_eq path, ← steps_trimPieces, htrim]
    cases hpath : isAbsolute path with
    | false => by_cases hidle : isIdle first = true <;> simp [steps, hidle] <;> decide
    | true =>
      rw [hroot hpath]
      decide
  · have hall : components path =
        ((if first = [] then [.root] else []) ++ steps (first :: mid)) ++ [.name last] := by
      rw [components_eq, hroot, ← steps_trimPieces, htrim, ← List.cons_append, steps_append,
        steps_singleton hlast]
      simp
    rw [hall, List.dropLast_concat, parent?_of_concat htrim, Option.getD_some, ← steps_trimPieces]
    split
    · next hbefore =>
      rw [hbefore, first_of_trimPieces hbefore]
      decide
    · next hbefore =>
      have hslash : ∀ piece ∈ trimPieces (first :: mid), '/' ∉ piece := fun piece hmem =>
        slash_notMem_of_mem_pieces ((isPrefix_pieces_of_trimPieces htrim).subset hmem)
      rw [components_eq, isAbsolute_eq, pieces_joinWith (trimPieces_ne_nil first mid) hslash,
        rooted_trimPieces hbefore]
      simp

/-! ## Names below a directory -/

/-- A path ends in a separator if its last character is a slash. -/
lemma endsInSeparator_iff (path : String) :
    endsInSeparator path = true ↔ ∃ front : String, path = front ++ "/" := by
  rw [endsInSeparator, decide_eq_true_eq, List.getLast?_eq_some_iff]
  constructor
  · rintro ⟨front, hfront⟩
    refine ⟨String.ofList front, ?_⟩
    rw [← String.toList_inj, hfront, String.toList_append, String.toList_ofList]
    rfl
  · rintro ⟨front, rfl⟩
    exact ⟨front.toList, by simp⟩

/-- A name is put behind a directory, with a separator between them if the directory has none at its end. -/
lemma join_eq (directory name : String) :
    join directory name =
      (if directory = "" ∨ endsInSeparator directory = true then directory else directory ++ "/") ++ name := by
  rw [join, endsInSeparator]
  cases h : directory.toList.getLast? with
  | none =>
    have hempty : directory = "" := by simpa using h
    simp [hempty]
  | some c =>
    have hne : directory ≠ "" := by
      rintro rfl
      cases h
    by_cases hc : c = '/' <;> simp [hc, hne]

/-- A separator at the end of a path makes no step. -/
lemma steps_separator (directory : String) :
    steps (pieces (directory ++ "/")) = steps (pieces directory) := by
  have hbelow := pieces_below directory ""
  have hidle : steps (pieces "") = [] := steps_of_idle (by decide)
  rw [String.append_empty] at hbelow
  rw [hbelow, steps_append, hidle, List.append_nil]

/-- Whether a path is absolute is settled at its beginning. -/
lemma isAbsolute_append (h : directory ≠ "") (text : String) :
    isAbsolute (directory ++ text) = isAbsolute directory := by
  cases hd : directory.toList with
  | nil => exact absurd (String.toList_eq_nil_iff.mp hd) h
  | cons c cs => simp [isAbsolute, hd]

/-- A separator at the end of a directory changes none of its components. -/
lemma components_separator (h : directory ≠ "") : components (directory ++ "/") = components directory := by
  rw [components_eq, components_eq, isAbsolute_append h, steps_separator]

/-- A name below a directory adds the steps of its own pieces. -/
lemma components_below (directory name : String) :
    components (directory ++ "/" ++ name) = components (directory ++ "/") ++ steps (pieces name) := by
  have hne : directory ++ "/" ≠ "" := by simp
  rw [components_eq, components_eq, isAbsolute_append hne, pieces_below, steps_append, steps_separator,
    List.append_assoc]

/-- A relative name below a directory has the steps of both. -/
lemma components_join (directory : String) (h : isAbsolute name = false) :
    components (join directory name) = components directory ++ components name := by
  have hname : components name = steps (pieces name) := by simp [components_eq, h]
  rw [join_eq, hname]
  split
  · next hdirectory =>
    obtain rfl | hend := hdirectory
    · rw [String.empty_append, hname]
      rfl
    · obtain ⟨front, rfl⟩ := (endsInSeparator_iff directory).mp hend
      exact components_below front name
  · next hdirectory =>
    rw [components_below, components_separator fun hempty => hdirectory (.inl hempty)]

end Hostcall.Path

namespace Hostcall.Settings

open Hostcall.Path

/-- A guest's file name leads to the directory of its program and from there where it says.

An absolute name is taken as it is, and so is any name if names do not follow the program or there is none.
Otherwise the directory of the program stands before the name as the program's path has it, with a separator
between them if it has none at its end; for a path without a directory nothing stands there. The steps of the
whole are those of the program's path without the last one, and then those of the name. -/
theorem resolves_beside (s : Settings) (name : String) :
    (isAbsolute name = true ∨ s.besideProgram = false ∨ s.program = none → s.resolve name = name) ∧
    ∀ program, isAbsolute name = false → s.besideProgram = true → s.program = some program →
      let directory := (parent? program).getD ""
      directory.toList <+: program.toList ∧
      s.resolve name =
        (if directory = "" ∨ endsInSeparator directory = true then directory else directory ++ "/") ++ name ∧
      components (s.resolve name) = (components program).dropLast ++ components name := by
  refine ⟨fun h => ?_, fun program hrelative hbeside hprogram => ?_⟩
  · obtain h | h | h := h <;> simp [resolve, h]
  · have hresolve : s.resolve name = join ((parent? program).getD "") name := by
      simp [resolve, hrelative, hbeside, hprogram]
    refine ⟨isPrefix_parent? program, hresolve.trans (join_eq _ name), ?_⟩
    rw [hresolve, components_join _ hrelative, components_parent]

/-- A program whose path is roundabout, and a name that does not stay beside it. -/
theorem resolves_beside_roundabout :
    let program := "..//./a//b/./"
    let name := "./x/../y//"
    let s := withProgram {} program
    isAbsolute name = false ∧ s.besideProgram = true ∧ s.program = some program ∧
      s.resolve name = "..//./a/./x/../y//" ∧
      components (s.resolve name) = ["..", "a", "x", "..", "y"].map fun step => .name step.toList := by
  intro program name s
  have hrelative : isAbsolute name = false := by decide
  obtain ⟨-, hresolve, hsteps⟩ := (resolves_beside s name).2 program hrelative rfl rfl
  exact ⟨hrelative, rfl, rfl, hresolve.trans (by decide), hsteps.trans (by decide)⟩

end Hostcall.Settings
