import Mathlib.Data.List.Perm.Basic
import Mathlib.Data.Prod.Lex
import Mathlib.Data.Set.List
import Mathlib.Data.String.Basic
import Stepwise.Proofs.Loading

/-!
# The order in which files are loaded

The files that a pattern stands for are sorted before they are loaded, and by then nothing is
left of the order in which the search came upon them. Two things are behind this. The order is
a linear one on the parts of paths: kinds of parts come one after another, names are compared
with names, and lists of parts are compared by the first difference. And a path has no second
text in what was found, so no two of the paths are equal in that order; a sorted list of them
is the only one.

What is loaded is the list of features file by file, up to the first file that cannot be
loaded. Folders among the paths were taken out before, so they are never in the way.
-/

namespace Stepwise

open Files (Part PathPattern parts partsLe pathLe)

namespace Files

/-! ## The order of paths -/

def Part.text : Part → String
  | .name s => s
  | _ => ""

/-- The kind of a part, and then its name. -/
def Part.key (p : Part) : ℕ ×ₗ String := toLex (p.rank, p.text)

theorem Part.key_injective : Function.Injective Part.key := by
  intro p q h
  obtain ⟨hrank, htext⟩ := Prod.mk.inj (toLex.injective h)
  cases p <;> cases q <;> simp_all [Part.rank, Part.text]

instance : LinearOrder Part := LinearOrder.lift' Part.key Part.key_injective

theorem Part.lt_iff {p q : Part} : p.lt q = true ↔ p < q := by
  have hkey : p < q ↔ p.rank < q.rank ∨ p.rank = q.rank ∧ p.text < q.text :=
    Prod.Lex.toLex_lt_toLex
  rw [hkey]
  cases p <;> cases q <;> simp [Part.lt, Part.rank, Part.text]

theorem partsLe_iff (ps : List Part) : ∀ qs, partsLe ps qs = true ↔ ps ≤ qs := by
  induction ps with
  | nil =>
      -- the order of lists is given by `<`, so `≤` is turned into its negation
      intro qs
      rw [← not_lt]
      simp [partsLe]
  | cons p ps ih =>
      intro qs
      rw [← not_lt]
      cases qs with
      | nil => simp [partsLe]
      | cons q qs =>
          rw [partsLe, List.cons_lt_cons_iff]
          obtain hlt | rfl | hgt := lt_trichotomy p q
          · simp [Part.lt_iff.mpr hlt, hlt.not_gt, hlt.ne']
          · have hself : p.lt p = false := by simp [← Bool.not_eq_true, Part.lt_iff]
            simp [hself, ih]
          · have hback : p.lt q = false := by simp [← Bool.not_eq_true, Part.lt_iff, hgt.le]
            simp [hback, Part.lt_iff.mpr hgt, hgt]

theorem pathLe_iff {a b : String} : pathLe a b = true ↔ parts a ≤ parts b :=
  partsLe_iff (parts a) (parts b)

section Sorting

variable {xs ys : List String}

theorem pairwise_parts_le (xs : List String) :
    (xs.mergeSort pathLe).Pairwise fun a b => parts a ≤ parts b := by
  have htrans : ∀ a b c, pathLe a b = true → pathLe b c = true → pathLe a c = true := by
    intro a b c hab hbc
    exact pathLe_iff.mpr ((pathLe_iff.mp hab).trans (pathLe_iff.mp hbc))
  have htotal : ∀ a b, (pathLe a b || pathLe b a) = true := by
    intro a b
    rw [Bool.or_eq_true, pathLe_iff, pathLe_iff]
    exact le_total (parts a) (parts b)
  exact (List.pairwise_mergeSort htrans htotal xs).imp pathLe_iff.mp

/-- Paths of which none is there twice have one order only. -/
theorem mergeSort_eq_of_perm (h : xs.Perm ys) (honce : (xs.map parts).Nodup) :
    xs.mergeSort pathLe = ys.mergeSort pathLe := by
  have hperm : (xs.mergeSort pathLe).Perm (ys.mergeSort pathLe) :=
    (xs.mergeSort_perm pathLe).trans (h.trans (ys.mergeSort_perm pathLe).symm)
  refine hperm.eq_of_pairwise ?_ (pairwise_parts_le xs) (pairwise_parts_le ys)
  intro a b ha hb hab hba
  rw [List.mem_mergeSort] at ha hb
  exact List.inj_on_of_nodup_map honce ha (h.mem_iff.mpr hb) (hab.antisymm hba)

theorem pairwise_parts_lt (honce : (xs.map parts).Nodup) :
    (xs.mergeSort pathLe).Pairwise fun a b => parts a < parts b := by
  have hnodup : ((xs.mergeSort pathLe).map parts).Nodup :=
    (((xs.mergeSort_perm pathLe).map parts).nodup_iff).mpr honce
  have hne : (xs.mergeSort pathLe).Pairwise fun a b => parts a ≠ parts b :=
    List.pairwise_map.mp hnodup
  exact (pairwise_parts_le xs).imp₂ (fun a b hle hne => hle.lt_of_ne hne) hne

end Sorting

/-! ## Paths as lists of characters

What the text of a path is asked for goes by positions in its bytes. Said of its characters, it
can be evaluated. -/

section Characters

open String

/-- The scan stands behind `l` and `m`, and the segment that it is in began behind `l`. -/
theorem splitOnAux_slash (l m r : List Char) (before : List String) :
    splitOnAux (ofList (l ++ m ++ r)) "/" ⟨utf8Len l⟩ ⟨utf8Len l + utf8Len m⟩ 0 before =
      before.reverse ++ (List.splitOnPPrepend (· == '/') r m.reverse).map ofList := by
  have hslash : Pos.Raw.get "/" 0 = '/' ∧ Pos.Raw.next "/" 0 = ⟨1⟩ ∧
      Pos.Raw.atEnd "/" ⟨1⟩ = true ∧ '/'.utf8Size = 1 := by decide
  have hback (n k : Nat) : Pos.Raw.unoffsetBy ⟨n + k⟩ ⟨k⟩ = ⟨n⟩ := by
    rw [Pos.Raw.unoffsetBy, Nat.add_sub_cancel]
  have hstay (p : Pos.Raw) : p.unoffsetBy 0 = p := rfl
  induction r generalizing l m before with
  | nil =>
      have hend := (atEnd_of_valid (l ++ m) []).mpr rfl
      rw [utf8Len_append] at hend
      rw [splitOnAux, if_pos hend, extract_of_valid]
      simp
  | cons c r ih =>
      have hend := (atEnd_of_valid (l ++ m) (c :: r)).not.mpr (List.cons_ne_nil c r)
      have hget := get_of_valid (l ++ m) (c :: r)
      have hnext := next_of_valid (l ++ m) c r
      rw [utf8Len_append] at hend hget hnext
      rw [splitOnAux, if_neg hend, hget, List.headD_cons, hslash.1, List.splitOnPPrepend_cons_eq_if]
      split
      · next h =>
          obtain rfl := eq_of_beq h
          have hnew := ih (l ++ m ++ ['/']) [] (ofList m :: before)
          simp only [hnext, hslash, if_true, hback, extract_of_valid]
          simpa [Nat.add_assoc, hslash, -ofList_append] using hnew
      · have hlonger := ih l (m ++ [c]) before
        rw [hstay, hnext]
        simpa [Nat.add_assoc, -ofList_append] using hlonger

/-- The segments of a path are what stands between the slashes among its characters. -/
theorem segments_eq (path : String) :
    segments path = (path.toList.splitOn '/').map ofList := by
  simpa [segments, String.splitOn, List.splitOn_eq_splitOnP] using
    splitOnAux_slash [] [] path.toList []

end Characters

theorem startsWith_eq_isPrefixOf (s t : String) :
    s.startsWith t = t.toList.isPrefixOf s.toList := by
  rw [Bool.eq_iff_iff, String.startsWith_string_iff, List.isPrefixOf_iff_prefix]

theorem endsWith_eq_isSuffixOf (s t : String) : s.endsWith t = t.toList.isSuffixOf s.toList := by
  rw [Bool.eq_iff_iff, String.endsWith_eq_endsWith_toSlice, String.Slice.endsWith_string_iff,
    String.copy_toSlice, List.isSuffixOf_iff_suffix]

end Files

/-! ## Loading one after another -/

/-- The path that an error is about. -/
def LoadError.origin? : LoadError → Option String
  | .unreadable path => some path
  | .malformed origin _ => some origin
  | .badPattern _ | .closedFolder _ => none

namespace Feature

variable {t : FileTree} {pattern : String} {p : PathPattern} {found : List String}

theorem origin_of_loadFile {path : String} {e : LoadError} (h : loadFile t path = .error e) :
    e.origin? = some path := by
  unfold loadFile at h
  split at h
  · obtain ⟨cause, -, rfl⟩ := ofText_eq_error_iff.mp h
    rfl
  · cases h
    rfl
  · cases h
    rfl

/-- The order of the search does not matter. -/
theorem loadMatching_eq_loadPaths (hp : PathPattern.ofText pattern = .ok p)
    (hfound : (found.map Except.ok).Perm (t.search p)) (honce : (found.map parts).Nodup) :
    loadMatching t pattern = loadPaths t found := by
  have hok : ∀ find ∈ t.search p, find ∈ Set.range Except.ok := by
    intro find hfind
    obtain ⟨path, -, rfl⟩ := List.mem_map.mp (hfound.mem_iff.mpr hfind)
    exact ⟨path, rfl⟩
  obtain ⟨paths, hpaths⟩ : t.search p ∈ Set.range (List.map Except.ok) := by
    rw [Set.range_list_map]
    exact hok
  have hperm : found.Perm paths := by
    rw [← hpaths] at hfound
    exact (List.map_perm_map_iff fun a b hab => Except.ok.inj hab).mp hfound
  have hsearch : (t.search p).mapM id = .ok paths := by
    rw [← hpaths, mapM_eq_ok_iff, List.forall₂_map_left_iff, List.forall₂_same]
    exact fun path _ => rfl
  simp only [loadMatching, hp, hsearch, loadPaths]
  rw [Files.mergeSort_eq_of_perm hperm honce]

/-- Loading is ordered and complete, whatever the order in which the search comes upon the
paths, as long as it comes upon each path once and upon no closed folder. Paths that differ in
their texts only are the same. The files among the paths are loaded in ascending order, part
by part: all of them, if all can be loaded, and otherwise the first one that cannot decides
what is told. -/
theorem loadMatching_in_order (hp : PathPattern.ofText pattern = .ok p)
    (hfound : (found.map Except.ok).Perm (t.search p)) (honce : (found.map parts).Nodup) :
    loadMatching t pattern = loadPaths t found ∧
    ∃ ordered : List String, ordered.Perm (found.filter t.hasFile) ∧
      (ordered.Pairwise fun a b => parts a < parts b) ∧
      (∀ features, loadMatching t pattern = .ok features ↔
        List.Forall₂ (fun path feature => loadFile t path = .ok feature) ordered features) ∧
      ((∃ features, loadMatching t pattern = .ok features) ↔
        ∀ path ∈ found, t.hasFile path = true → ∃ feature, loadFile t path = .ok feature) ∧
      ∀ e, loadMatching t pattern = .error e ↔
        ∃ before path after, ordered = before ++ path :: after ∧
          (∀ earlier ∈ before, ∃ feature, loadFile t earlier = .ok feature) ∧
          loadFile t path = .error e ∧ e.origin? = some path := by
  have hload := loadMatching_eq_loadPaths hp hfound honce
  have hperm : ((found.mergeSort pathLe).filter t.hasFile).Perm (found.filter t.hasFile) :=
    (found.mergeSort_perm pathLe).filter t.hasFile
  refine ⟨hload, (found.mergeSort pathLe).filter t.hasFile, hperm,
    (Files.pairwise_parts_lt honce).filter _, ?_, ?_, ?_⟩
  · intro features
    rw [hload]
    exact mapM_eq_ok_iff
  · rw [hload]
    constructor
    · rintro ⟨features, h⟩ path hpath hfile
      exact forall_of_mapM_ok h path (hperm.mem_iff.mpr (List.mem_filter.mpr ⟨hpath, hfile⟩))
    · intro hall
      cases h : loadPaths t found with
      | ok features => exact ⟨features, rfl⟩
      | error e =>
          obtain ⟨path, hpath, herror⟩ := exists_of_mapM_error h
          obtain ⟨hmem, hfile⟩ := List.mem_filter.mp (hperm.mem_iff.mp hpath)
          obtain ⟨feature, hfeature⟩ := hall path hmem hfile
          rw [herror] at hfeature
          cases hfeature
  · intro e
    rw [hload, loadPaths, mapM_eq_error_iff]
    constructor
    · rintro ⟨before, path, after, hsplit, hbefore, herror⟩
      exact ⟨before, path, after, hsplit, hbefore, herror, origin_of_loadFile herror⟩
    · rintro ⟨before, path, after, hsplit, hbefore, herror, -⟩
      exact ⟨before, path, after, hsplit, hbefore, herror⟩

/-- A file in a folder, and a file beside it whose name begins like that of the folder. As
texts the paths of the two have the other order. Neither file can be opened. -/
def besideFolder : FileTree :=
  .folder [("a.x", .closedFile), ("a", .folder [("b", .closedFile)])]

theorem loadMatching_in_order_besideFolder :
    let p : PathPattern := ⟨".", [.folders, .wild [.many]], false⟩
    let found := ["a.x", "a", "a/b"]
    PathPattern.ofText "**/*" = .ok p ∧
      (found.map Except.ok).Perm (besideFolder.search p) ∧ (found.map parts).Nodup ∧
      "a.x" < "a/b" ∧ loadMatching besideFolder "**/*" = .error (.unreadable "a/b") := by
  intro p found
  have hp : PathPattern.ofText "**/*" = .ok p := by
    simp only [PathPattern.ofText, Files.segments_eq, Files.endsWith_eq_isSuffixOf]
    rfl
  have hdot : besideFolder.at? "." = some besideFolder := by
    simp only [FileTree.at?, Files.startsWith_eq_isPrefixOf, Files.segments_eq]
    rfl
  obtain ⟨hhere, hfolder, hinside, hbeside⟩ : parts "." = [.here] ∧ parts "a" = [.name "a"] ∧
      parts "a/b" = [.name "a", .name "b"] ∧ parts "a.x" = [.name "a.x"] := by
    simp only [parts, Files.segments_eq]
    exact ⟨rfl, rfl, rfl, rfl⟩
  have hjoin : Files.join "a" "b" = "a/b" := by
    rw [Files.join, Files.endsWith_eq_isSuffixOf]
    rfl
  have hsearch : besideFolder.search p = [.ok "a", .ok "a/b", .ok "a.x"] := by
    simp only [p, FileTree.search, FileTree.searchFrom, hdot, Option.getD]
    simp [besideFolder, FileTree.descendants, FileTree.descendantsIn, FileTree.inNameOrder,
      Files.inFolder, Files.isHere, hhere, hfolder, hjoin, List.mergeSort,
      List.MergeSort.Internal.splitInTwo]
    rfl
  have hfound : (found.map Except.ok).Perm (besideFolder.search p) := by
    rw [hsearch]
    decide
  have honce : (found.map parts).Nodup := by
    simp only [found, List.map_cons, List.map_nil, hbeside, hfolder, hinside]
    decide
  obtain ⟨-, ordered, hperm, hsorted, -, -, herror⟩ := loadMatching_in_order hp hfound honce
  have hfiles : found.filter besideFolder.hasFile = ["a.x", "a/b"] := by
    simp only [found, List.filter, FileTree.hasFile, FileTree.at?, Files.startsWith_eq_isPrefixOf,
      Files.segments_eq]
    rfl
  have hlt : parts "a/b" < parts "a.x" := by
    rw [hinside, hbeside]
    exact .rel (Part.lt_iff.mp (by decide))
  have hordered : ordered = ["a/b", "a.x"] := by
    refine (hperm.trans ?_).eq_of_pairwise ?_ hsorted (List.pairwise_pair.mpr hlt)
    · rw [hfiles]
      exact .swap _ _ _
    · exact fun a b _ _ hab hba => absurd hba hab.not_gt
  have hfirst : loadFile besideFolder "a/b" = .error (.unreadable "a/b") := by
    simp only [loadFile, FileTree.read, FileTree.at?, Files.startsWith_eq_isPrefixOf,
      Files.segments_eq]
    rfl
  refine ⟨hp, hfound, honce, by decide, (herror _).mpr ?_⟩
  exact ⟨[], "a/b", ["a.x"], hordered, List.forall_mem_nil _, hfirst, rfl⟩

end Feature

end Stepwise
