import Mathlib
import ClipExchange.Content
import ClipExchange.Proofs.Format.Names
import ClipExchange.Proofs.Text.Canonical
import ClipExchange.Proofs.Text.Lines

/-!
# Payloads given as octets

Octets in a given format become a representation with that format. For a list of files they have to
be a text, and its lines are the paths, with the empty ones left out. Whatever the octets are, the
paths stand in them in order, so the size of the list, which counts one separator for each path,
exceeds the count of the octets by one at most: only the last line may lack its terminator.

The other way round, paths that are written on a line each are read back, if none of them could be
mistaken for a line with a carriage return in its terminator.

## Main definitions

* `Bytes.HoldsInOrder`: octets in which some pieces stand one behind the other.
* `Content.PathsIn`: the paths that octets hold.

## Main results

* `Content.format_of_ofBytes?`: a representation has the format that it was made for.
* `Content.fileList_of_octets`: which octets are a list of files, and which one.
-/

namespace ClipExchange

open Text

/-- Some pieces stand in octets one behind the other. -/
def Bytes.HoldsInOrder : Bytes → List Bytes → Prop
  | _, [] => True
  | data, piece :: pieces =>
    ∃ before after, data = before ++ (piece ++ after) ∧ Bytes.HoldsInOrder after pieces

theorem Bytes.HoldsInOrder.behind {data : Bytes} {pieces : List Bytes}
    (h : data.HoldsInOrder pieces) (front : Bytes) :
    Bytes.HoldsInOrder (front ++ data) pieces := by
  cases pieces with
  | nil => trivial
  | cons piece pieces =>
    obtain ⟨before, after, rfl, hafter⟩ := h
    exact ⟨front ++ before, after, (List.append_assoc _ _ _).symm, hafter⟩

namespace Content

variable {format : Format} {data : Bytes} {content : Content} {paths : List String}
  {path : String}

theorem format_of_ofBytes? (h : ofBytes? format data = some content) :
    content.format = format.folded := by
  cases format with
  | plainText | html | richText | fileList =>
    obtain ⟨s, -, rfl⟩ := Option.map_eq_some_iff.1 h
    rfl
  | png | bitmap | other =>
    obtain rfl := Option.some.inj h
    rfl

/-- Every path is counted with its separator. -/
theorem size_fileList (paths : List String) :
    (fileList paths).size = (paths.map fun path => path.utf8ByteSize + 1).sum := by
  rw [size, List.sum_eq_foldr, List.foldr_map]

theorem not_isEmpty_eq (path : String) : (!path.isEmpty) = decide (path ≠ "") := by
  rw [Bool.eq_iff_iff]
  simp

/-! ### The paths in octets -/

/-- Octets hold paths: none is empty or goes on behind a line feed, they stand in the octets in
order, and the size of their list is the count of octets with a line feed behind each path, which
is greater than that of the octets by one at most. -/
structure PathsIn (data : Bytes) (paths : List String) : Prop where
  ne_empty : ∀ path ∈ paths, path ≠ ""
  no_feed : ∀ path ∈ paths, '\n' ∉ path.toList
  in_order : data.HoldsInOrder (paths.map Utf8.encode)
  size_le : (fileList paths).size ≤ data.length + 1
  size_eq : (fileList paths).size = (paths.flatMap fun path => Utf8.encode (path ++ "\n")).length

theorem size_eq_length (paths : List String) :
    (fileList paths).size =
      (paths.flatMap fun path => Utf8.encode (path ++ "\n")).length := by
  simp only [List.length_flatMap, Utf8.length_encode, String.utf8ByteSize_append]
  exact size_fileList paths

namespace PathsIn

theorem nil : PathsIn [] [] :=
  ⟨nofun, nofun, trivial, Nat.zero_le _, size_eq_length []⟩

theorem singleton (hne : path ≠ "") (hfeed : '\n' ∉ path.toList) :
    PathsIn (Utf8.encode path) [path] where
  ne_empty := List.forall_mem_singleton.2 hne
  no_feed := List.forall_mem_singleton.2 hfeed
  in_order := ⟨[], [], by simp, trivial⟩
  size_le := by simp [size_fileList]
  size_eq := size_eq_length _

/-- Octets in front of others do not matter. -/
theorem behind (h : PathsIn data paths) (front : Bytes) : PathsIn (front ++ data) paths where
  ne_empty := h.ne_empty
  no_feed := h.no_feed
  in_order := h.in_order.behind front
  size_le := by
    have := h.size_le
    rw [List.length_append]
    omega
  size_eq := h.size_eq

/-- A path in front of others is terminated by one octet at least. -/
theorem cons (h : PathsIn data paths) (hne : path ≠ "") (hfeed : '\n' ∉ path.toList)
    {terminator : Bytes} (hterminator : terminator ≠ []) :
    PathsIn (Utf8.encode path ++ (terminator ++ data)) (path :: paths) where
  ne_empty := List.forall_mem_cons.2 ⟨hne, h.ne_empty⟩
  no_feed := List.forall_mem_cons.2 ⟨hfeed, h.no_feed⟩
  in_order := ⟨[], terminator ++ data, rfl, h.in_order.behind terminator⟩
  size_le := by
    have hdata := h.size_le
    have hlength := List.length_pos_of_ne_nil hterminator
    simp only [size_fileList, List.map_cons, List.sum_cons, List.length_append,
      Utf8.length_encode] at hdata ⊢
    omega
  size_eq := size_eq_length _

end PathsIn

/-! ### Lines and paths -/

/-- The paths that the lines of a text are. -/
def pathsOfCut (cut : List (List Char)) : List String :=
  (cut.filter (· ≠ [])).map String.ofList

theorem pathsOfLines_eq {s : String} {cut : List (List Char)} (h : CutInLines s.toList cut) :
    pathsOfLines s = pathsOfCut cut := by
  rw [pathsOfLines, h.lines_eq, List.filter_map, pathsOfCut]
  refine congrArg (List.map String.ofList) (List.filter_congr fun line _ => ?_)
  rw [Function.comp_apply, not_isEmpty_eq]
  simp

theorem pathsOfCut_cons_nil (cut : List (List Char)) :
    pathsOfCut ([] :: cut) = pathsOfCut cut := by
  simp [pathsOfCut]

theorem pathsOfCut_cons {line : List Char} (hne : line ≠ []) (cut : List (List Char)) :
    pathsOfCut (line :: cut) = String.ofList line :: pathsOfCut cut := by
  simp [pathsOfCut, hne]

/-- A line with its terminator in front of octets that hold paths. -/
theorem PathsIn.line {line terminator : List Char} {cut : List (List Char)}
    (h : PathsIn data (pathsOfCut cut)) (hline : '\n' ∉ line)
    (hterminator : terminator.flatMap String.utf8EncodeChar ≠ []) :
    PathsIn (line.flatMap String.utf8EncodeChar ++
      (terminator.flatMap String.utf8EncodeChar ++ data)) (pathsOfCut (line :: cut)) := by
  by_cases hne : line = []
  · rw [hne, pathsOfCut_cons_nil]
    exact h.behind _
  · have hencode := Utf8.encode_eq_flatMap (String.ofList line)
    rw [String.toList_ofList] at hencode
    rw [pathsOfCut_cons hne, ← hencode]
    exact h.cons (by simpa using hne) (by rwa [String.toList_ofList]) hterminator

/-- The octets of a text hold the paths that its lines are. -/
theorem pathsIn_of_cut {cs : List Char} {cut : List (List Char)} (h : CutInLines cs cut) :
    PathsIn (cs.flatMap String.utf8EncodeChar) (pathsOfCut cut) := by
  induction h with
  | nil => exact .nil
  | @last line hne hline =>
    have hencode := Utf8.encode_eq_flatMap (String.ofList line)
    rw [String.toList_ofList] at hencode
    rw [pathsOfCut_cons hne, ← hencode]
    exact .singleton (by simpa using hne) (by rwa [String.toList_ofList])
  | @feed line rest cut hline _ _ ih =>
    have hfeed : ['\n'].flatMap String.utf8EncodeChar ≠ [] := by decide
    simpa using ih.line hline hfeed
  | @returnFeed line rest cut hline _ ih =>
    have hreturnFeed : ['\r', '\n'].flatMap String.utf8EncodeChar ≠ [] := by decide
    simpa using ih.line hline hreturnFeed

/-! ### Paths on a line each -/

/-- A path that is written on a line of its own: it could not be mistaken for less or for more. -/
def OnOneLine (path : String) : Prop :=
  path ≠ "" ∧ '\n' ∉ path.toList ∧ path.toList.getLast? ≠ some '\r'

/-- Paths between terminators, with or without one behind the last path, are cut into themselves,
apart from the empty line that a terminator alone would be. -/
theorem exists_cut_of_paths {terminator final : String}
    (hpaths : ∀ path ∈ paths, OnOneLine path)
    (hterminator : terminator = "\n" ∨ terminator = "\r\n")
    (hfinal : final = "" ∨ final = terminator) :
    ∃ cut, CutInLines (terminator.intercalate paths ++ final).toList cut ∧
      pathsOfCut cut = paths := by
  have hends : terminator.toList = ['\n'] ∨ terminator.toList = ['\r', '\n'] := by
    rcases hterminator with rfl | rfl
    · exact .inl rfl
    · exact .inr rfl
  -- The text of an empty list, and of a list behind its last path.
  have hterminated : CutInLines terminator.toList [[]] := by
    have hempty : '\n' ∉ ([] : List Char) := List.not_mem_nil
    simpa using CutInLines.terminated hempty nofun hends .nil
  induction paths with
  | nil =>
    rcases hfinal with rfl | rfl
    · exact ⟨[], by simpa using CutInLines.nil, rfl⟩
    · exact ⟨[[]], by simpa using hterminated, rfl⟩
  | cons path paths ih =>
    obtain ⟨⟨hne, hfeed, hreturn⟩, hpaths⟩ := List.forall_mem_cons.1 hpaths
    have hne : path.toList ≠ [] := by simpa using hne
    cases paths with
    | nil =>
      refine ⟨[path.toList], ?_, by rw [pathsOfCut_cons hne, String.ofList_toList]; rfl⟩
      rcases hfinal with rfl | rfl
      · simpa using CutInLines.last hne hfeed
      · have hcut := CutInLines.terminated hfeed hreturn hends .nil
        simpa using hcut
    | cons next paths =>
      obtain ⟨cut, hcut, hcutPaths⟩ := ih hpaths
      refine ⟨path.toList :: cut, ?_, by rw [pathsOfCut_cons hne, hcutPaths, String.ofList_toList]⟩
      have hcut := CutInLines.terminated hfeed hreturn hends hcut
      rw [String.intercalate_cons_cons]
      simpa using hcut

/-! ### Lists of files -/

/-- **Which octets are a list of files.** Octets are one exactly if they are a text, and then they
hold its paths. Paths that fit on one line each are read back from the text in which they stand
between terminators of either kind, with or without one behind the last path. -/
theorem fileList_of_octets (data : Bytes) :
    (∀ text, data = Utf8.encode text →
      ∃ paths, ofBytes? .fileList data = some (fileList paths) ∧ PathsIn data paths) ∧
    ((∀ text, data ≠ Utf8.encode text) → ofBytes? .fileList data = none) ∧
    ∀ paths terminator final, (∀ path ∈ paths, OnOneLine path) →
      terminator = "\n" ∨ terminator = "\r\n" → final = "" ∨ final = terminator →
      data = Utf8.encode (terminator.intercalate paths ++ final) →
      ofBytes? .fileList data = some (fileList paths) := by
  have hread {text : String} {cut : List (List Char)} (htext : data = Utf8.encode text)
      (hcut : CutInLines text.toList cut) :
      ofBytes? .fileList data = some (fileList (pathsOfCut cut)) := by
    rw [ofBytes?, Utf8.decode?_eq_some_iff.2 htext, Option.map_some, pathsOfLines_eq hcut]
  refine ⟨fun text htext => ?_, fun hnone => ?_, ?_⟩
  · obtain ⟨cut, hcut⟩ := exists_cutInLines text.toList
    refine ⟨_, hread htext hcut, ?_⟩
    rw [htext, Utf8.encode_eq_flatMap]
    exact pathsIn_of_cut hcut
  · refine Option.map_eq_none_iff.2 (Option.eq_none_iff_forall_ne_some.2 fun text htext => ?_)
    exact hnone text (Utf8.decode?_eq_some_iff.1 htext)
  · intro paths terminator final hpaths hterminator hfinal htext
    obtain ⟨cut, hcut, hcutPaths⟩ := exists_cut_of_paths hpaths hterminator hfinal
    rw [hread htext hcut, hcutPaths]

/-- Two paths are read from the lines on which they stand, and a lone octet of a longer sequence is
no list of files. -/
theorem fileList_of_octets_twoPaths :
    let data : Bytes := [47, 97, 13, 10, 47, 98]
    let paths := ["/a", "/b"]
    (∀ path ∈ paths, OnOneLine path) ∧
      data = Utf8.encode ("\r\n".intercalate paths ++ "") ∧
      ofBytes? .fileList data = some (fileList paths) ∧ PathsIn data paths ∧
      (∀ text, [0xFF] ≠ Utf8.encode text) ∧ ofBytes? .fileList [0xFF] = none := by
  intro data paths
  have hpaths : ∀ path ∈ paths, OnOneLine path := by
    unfold OnOneLine
    decide
  have hdata : data = Utf8.encode ("\r\n".intercalate paths ++ "") := by decide
  have hread := (fileList_of_octets data).2.2 paths "\r\n" "" hpaths (.inr rfl) (.inl rfl) hdata
  obtain ⟨found, hfound, hin⟩ := (fileList_of_octets data).1 _ hdata
  obtain rfl : found = paths := by
    rw [hread] at hfound
    exact (Content.fileList.inj (Option.some.inj hfound)).symm
  have hnone : ∀ text, [0xFF] ≠ Utf8.encode text := by
    intro text htext
    cases (Utf8.decode?_eq_some_iff.2 htext).symm.trans (rfl : Utf8.decode? [0xFF] = none)
  exact ⟨hpaths, hdata, hread, hin, hnone, (fileList_of_octets [0xFF]).2.1 hnone⟩

end Content

end ClipExchange
