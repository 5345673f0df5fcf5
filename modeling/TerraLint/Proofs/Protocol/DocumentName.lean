import TerraLint.Proofs.Path.Components
import TerraLint.Proofs.Session.Omission
import TerraLint.Protocol.Preprocess

/-!
# Names of documents

A document below the working directory has one name however its uri is spelled: relative to the
directory, as an absolute path, or with the scheme of files. What lies below is told by components, so a
path that starts with the text of the directory but goes on within its last name keeps its own name.

Before files are checked, those whose path ends in `versions.tf` are counted. A check looks for that file
by the name of the document. Both agree, unless the working directory itself has that name: then nothing
is left of its path, seen from there.

* `fileName_of_spelling`: all spellings of a path name it.
* `fileName_of_not_below`: what does not lie below the working directory is named by its path.
* `fileName_consistent`: so patterns for files do not depend on the spelling.
* `fileName?_fileName`: the last component of a name is that of the path.
* `Session.isOk_file_versions_iff`, `Session.inScope_versionsFile`,
  `Session.exists_findings_versionsFile_iff`: when a check looks at a document.
* `Preprocessing.agrees_with_check`: the files counted are those that a check looks at.
-/

namespace TerraLint

open Hcl

namespace Uri

open TerraLint.Path

variable {workDir p path uri : String}

/-- A relative path as it is seen from the directory that it lies below: it starts with a name, and it
ends with one. -/
structure IsPlain (p : String) : Prop where
  relative : ¬ IsAbsolute p
  start : (components p).head? ≠ some .current
  stop : ¬ EndsIdle p
  noScheme : ¬ "file://".toList <+: p.toList

instance : DecidablePred IsPlain := fun p =>
  decidable_of_iff (¬ IsAbsolute p ∧ (components p).head? ≠ some .current ∧ ¬ EndsIdle p ∧
    ¬ "file://".toList <+: p.toList)
    ⟨fun h => ⟨h.1, h.2.1, h.2.2.1, h.2.2.2⟩, fun h => ⟨h.relative, h.start, h.stop, h.noScheme⟩⟩

theorem IsPlain.anchor_eq_nil (h : IsPlain p) : anchor p = [] := by
  have hroot : ∀ rest, p.toList ≠ '/' :: rest := fun rest hp => h.relative ⟨rest, hp.symm⟩
  have hcurrent : anchor p ≠ [.current] := by
    intro hanchor
    apply h.start
    rw [components_eq, hanchor]
    rfl
  unfold anchor at hcurrent ⊢
  split at hcurrent <;> simp_all

/-- The uris that spell a path below the working directory. -/
def spellings (workDir p : String) : List String :=
  [p, workDir ++ "/" ++ p, "file://" ++ workDir ++ "/" ++ p]

theorem path_of_not_scheme (h : ¬ "file://".toList <+: uri.toList) : Uri.path uri = uri := by
  rw [Uri.path, if_neg fun hp => h (List.isPrefixOf_iff_prefix.1 hp)]

theorem path_scheme (path : String) : Uri.path ("file://" ++ path) = path := by
  have hprefix : "file://".toList.isPrefixOf ("file://" ++ path).toList = true := by
    rw [String.toList_append]
    exact List.isPrefixOf_iff_prefix.2 (List.prefix_append _ _)
  rw [Uri.path, if_pos hprefix, String.toList_append, List.drop_left, String.ofList_toList]

theorem not_scheme_of_isAbsolute (h : IsAbsolute path) : ¬ "file://".toList <+: path.toList := by
  obtain ⟨rest, hrest⟩ := h
  rintro ⟨rest', hrest'⟩
  have hstart := hrest'.trans hrest.symm
  cases (List.cons.inj hstart).1

theorem path_of_isAbsolute (h : IsAbsolute path) : Uri.path path = path :=
  path_of_not_scheme (not_scheme_of_isAbsolute h)

/-- All spellings of a path name it. -/
theorem fileName_of_spelling (h : IsAbsolute workDir) (hp : IsPlain p)
    (huri : uri ∈ spellings workDir p) : fileName workDir uri = p := by
  have hbelow : relativeTo? workDir (workDir ++ "/" ++ p) = some p :=
    relativeTo?_append_slash h hp.anchor_eq_nil hp.stop
  have habs : IsAbsolute (workDir ++ "/" ++ p) := (h.append "/").append p
  simp only [spellings, List.mem_cons, List.not_mem_nil, or_false] at huri
  rcases huri with rfl | rfl | rfl
  · have hnone := relativeTo?_eq_none (not_prefix_of_anchor_eq_nil h hp.anchor_eq_nil)
    rw [fileName, path_of_not_scheme hp.noScheme, hnone, Option.getD_none]
  · rw [fileName, path_of_isAbsolute habs, hbelow, Option.getD_some]
  · rw [fileName, String.append_assoc, String.append_assoc, path_scheme, ← String.append_assoc, hbelow,
      Option.getD_some]

/-- What does not lie below the working directory is named by its path. -/
theorem fileName_of_not_below (h : ¬ components workDir <+: components (Uri.path uri)) :
    fileName workDir uri = Uri.path uri := by
  rw [fileName, relativeTo?_eq_none h, Option.getD_none]

/-- Below an absolute working directory, the spellings of a path have one name, for which patterns
give one answer. Elsewhere an absolute path is a name of its own, also where it only starts with the
text of the working directory. -/
theorem fileName_consistent (h : IsAbsolute workDir) :
    (∀ p, IsPlain p → ∀ uri ∈ spellings workDir p, fileName workDir uri = p ∧
      ∀ (filter : IgnoreFilter) (rule : String),
        filter.isIgnored (fileName workDir uri) rule = filter.isIgnored (fileName workDir p) rule) ∧
    (∀ path, IsAbsolute path → ¬ components workDir <+: components path →
      fileName workDir path = path ∧ fileName workDir ("file://" ++ path) = path) ∧
    (¬ EndsIdle workDir → ∀ more, more ≠ "" → ¬ IsAbsolute more →
      fileName workDir (workDir ++ more) = workDir ++ more) := by
  have hbeside : ∀ path, IsAbsolute path → ¬ components workDir <+: components path →
      fileName workDir path = path ∧ fileName workDir ("file://" ++ path) = path := by
    intro path hpath hbelow
    constructor
    · rw [fileName_of_not_below (by rwa [path_of_isAbsolute hpath]), path_of_isAbsolute hpath]
    · rw [fileName_of_not_below (by rwa [path_scheme]), path_scheme]
  refine ⟨?_, hbeside, ?_⟩
  · intro p hp uri huri
    have hname := fileName_of_spelling h hp huri
    have hplain := fileName_of_spelling h hp (List.mem_cons_self (a := p))
    exact ⟨hname, fun filter rule => by rw [hname, hplain]⟩
  · intro hend more hne hslash
    exact (hbeside _ (h.append more) (not_prefix_of_longer h hend hne hslash)).1

/-- With a working directory, a file below it, and a directory beside it. -/
theorem fileName_consistent_srv : IsAbsolute "/srv/app" ∧
    fileName "/srv/app" "file:///srv/app/modules/main.tf" = "modules/main.tf" ∧
    fileName "/srv/app" "/srv/app2/main.tf" = "/srv/app2/main.tf" := by
  have h : IsAbsolute "/srv/app" := by decide
  obtain ⟨hspelled, -, hbeside⟩ := fileName_consistent h
  refine ⟨h, (hspelled "modules/main.tf" (by decide) _ ?_).1, ?_⟩
  · simp [spellings]
  · exact hbeside (by decide) "2/main.tf" (by decide) (by decide)

/-! ## Versions files -/

/-- The last component of a name is that of the path. -/
theorem fileName?_fileName {name : String} (h : fileName? workDir ≠ some name) (uri : String) :
    fileName? (fileName workDir uri) = some name ↔ fileName? (Uri.path uri) = some name := by
  unfold fileName
  cases hrel : relativeTo? workDir (Uri.path uri) with
  | none => rw [Option.getD_none]
  | some rel => rw [Option.getD_some, fileName?_relativeTo? hrel h]

end Uri

namespace Session

theorem isOk_file_iff (files : List (String × String)) (name : String) :
    ((start files).file name).isOk = true ↔ ∃ f ∈ files, Path.endsWith f.1 name = true := by
  have hfile : ((start files).file name).isOk = ((start files).file? name).isSome := by
    unfold file
    cases (start files).file? name <;> rfl
  rw [hfile]
  unfold file? start
  rw [List.find?_map, Option.isSome_map, List.find?_isSome]
  rfl

theorem holdsVersions_iff (f : String × String) :
    holdsVersions f = true ↔ Path.fileName? f.1 = some "versions.tf" :=
  Path.endsWith_iff_fileName? (by decide)

/-- A module of one file has a versions file if that is the last component of its name. -/
theorem isOk_file_versions_iff (name text : String) :
    ((start [(name, text)]).file "versions.tf").isOk = true ↔
      Path.fileName? name = some "versions.tf" := by
  rw [isOk_file_iff, ← holdsVersions_iff (name, text)]
  simp [holdsVersions]

/-- The rule looks at a versions file, and at nothing else. -/
theorem inScope_versionsFile (name text : String) :
    (start [(name, text)]).inScope Rule.versionsFile.scope =
      if ((start [(name, text)]).file "versions.tf").isOk then [.parse name text.toList] else [] := by
  have hscope : Rule.versionsFile.scope = .fileNamed "versions.tf" := rfl
  rw [hscope, inScope]
  unfold file file? start
  rw [List.map_singleton, List.find?_singleton]
  dsimp only
  split <;> rfl

/-- In an empty versions file the rule finds something. In any other file it finds nothing, whatever
stands there. -/
theorem exists_findings_versionsFile_iff (name : String) :
    (∃ text, (start [(name, text)]).findings .versionsFile .empty ≠ []) ↔
      Path.fileName? name = some "versions.tf" := by
  simp only [ne_eq, findings_versionsFile_eq_nil_iff, List.find?_singleton, holdsVersions_iff]
  constructor
  · rintro ⟨text, htext⟩
    by_contra hother
    simp [hother] at htext
  · intro hname
    refine ⟨"", fun h => ?_⟩
    have hread : parseBody "".toList = some [] := rfl
    have hempty := h (name, "") (by rw [if_pos hname]) [] hread
    exact absurd hempty (by decide)

end Session

/-- Files are known in the order of their uris, and counted as versions files if a check of the file by
itself would look at it: if it has a file with that name, which is in the scope of the rule and where the
rule finds something, depending on what stands there. -/
theorem Preprocessing.agrees_with_check {workDir : String} (h : Path.fileName? workDir ≠ some "versions.tf")
    (sizeOf : String → Option Nat) (uris : List String) (text : String → String) :
    (ofUris sizeOf uris).files.map FileContext.uri = uris ∧
    (ofUris sizeOf uris).totalFiles = uris.length ∧
    (ofUris sizeOf uris).versionsFiles = uris.countP (fun uri =>
      ((Session.start [(Uri.fileName workDir uri, text uri)]).file "versions.tf").isOk) ∧
    ∀ uri, let s := Session.start [(Uri.fileName workDir uri, text uri)]
      (s.inScope Rule.versionsFile.scope = if (s.file "versions.tf").isOk then s.files else []) ∧
      ((s.file "versions.tf").isOk = true ↔ ∃ content,
        (Session.start [(Uri.fileName workDir uri, content)]).findings .versionsFile .empty ≠ []) := by
  refine ⟨?_, ?_, ?_, fun uri => ⟨Session.inScope_versionsFile _ _, ?_⟩⟩
  · rw [ofUris, List.map_map]
    exact List.map_id uris
  · rw [totalFiles, ofUris, List.length_map]
  · rw [versionsFiles, ofUris, List.countP_map]
    refine List.countP_congr fun uri _ => ?_
    rw [Session.isOk_file_versions_iff, Uri.fileName?_fileName h]
    have hname : (FileContext.ofUri sizeOf uri).fileName = (Path.fileName? (Uri.path uri)).getD "" := rfl
    rw [Function.comp_apply, hname, beq_iff_eq]
    cases Path.fileName? (Uri.path uri) with
    | none => simp
    | some name => simp
  · rw [Session.isOk_file_versions_iff, Session.exists_findings_versionsFile_iff]

/-- With a working directory of another name and three spellings of versions files. -/
theorem Preprocessing.agrees_with_check_srv : Path.fileName? "/srv/app" ≠ some "versions.tf" ∧
    (ofUris (fun _ => none) ["versions.tf", "file:///srv/app/a/versions.tf", "/srv//versions.tf/.",
      "main.tf"]).versionsFiles = 3 := by
  have h : Path.fileName? "/srv/app" ≠ some "versions.tf" := by decide
  refine ⟨h, ?_⟩
  rw [(agrees_with_check h _ _ fun _ => "").2.2.1]
  decide

end TerraLint
