/-
`export_files` of dpkt/filecarver.py: every carved file is written to a
directory, under a name that is made of its filename.  What `open` does with a
path is a parameter.
-/

import DpktNg.Carving.FileCarver
import DpktNg.Library.Dict
import DpktNg.Python.Error

namespace DpktNg.Carving

open Library

/-- The characters that `\w` matches, of which only those of ASCII are spelled
out. -/
structure WordChars where
  word : Char → Bool
  ascii : ∀ c : Char, c.toNat < 128 → word c = (c.isAlphanum || c == '_')

/-- `re.sub(r'[^\w\-.]', '_', f.filename) or 'file_%d' % i` -/
def safeName (chars : WordChars) (i : Nat) (filename : PyStr) : PyStr :=
  let replaced := filename.map fun c =>
    if chars.word c || c == '-' || c == '.' then c else '_'
  if replaced = [] then "file_".toList ++ decimal i else replaced

def safeNames (chars : WordChars) : Nat → List ExtractedFile → List PyStr
  | _, [] => []
  | i, file :: rest =>
      safeName chars i file.filename :: safeNames chars (i + 1) rest

def osPathJoin (directory name : PyStr) : PyStr :=
  if name.head? = some '/' then name
  else if directory = [] ∨ directory.getLast? = some '/' then directory ++ name
  else directory ++ '/' :: name

/-- What `open(path, 'wb')` does.  A name without a slash is an entry of the
directory in front of it. -/
structure FileSystem where
  File : Type
  /-- The file that is opened, unless `open` raises. -/
  opens : PyStr → Option File
  Inside : PyStr → File → Prop
  entry : ∀ {directory name file}, name ≠ [] → '/' ∉ name →
    opens (osPathJoin directory name) = some file → Inside directory file

def osError : PyError := .other "OSError" []

section Export

variable (chars : WordChars) (system : FileSystem) [DecidableEq system.File]
  (directory : PyStr)

/-- The loop over the files from the index `i` on, with what the files on the
disk hold. -/
def exportFrom : Nat → List ExtractedFile → Dict system.File Bytes →
    Except PyError (Dict system.File Bytes)
  | _, [], disk => .ok disk
  | i, file :: rest, disk =>
      let path := osPathJoin directory (safeName chars i file.filename)
      match system.opens path with
      | none => .error osError
      | some opened => exportFrom (i + 1) rest (disk.set opened file.content)

def exportFiles (files : List ExtractedFile) :
    Except PyError (Dict system.File Bytes) :=
  exportFrom chars system directory 0 files .empty

/-- Nothing is raised, and the disk has one file in the directory for each
file of the list, with its content. -/
def Keeps (files : List ExtractedFile)
    (result : Except PyError (Dict system.File Bytes)) : Prop :=
  ∃ (disk : Dict system.File Bytes) (kept : List system.File),
    result = .ok disk ∧ kept.length = files.length ∧ kept.Nodup ∧
    (∀ file ∈ kept, system.Inside directory file) ∧
    disk.entries.Perm (kept.zip (files.map ExtractedFile.content))

/-- Each name is opened in the directory, and no two names open the same
file. -/
structure OpenApart (names : List PyStr) : Prop where
  opens : ∀ name ∈ names,
    (system.opens (osPathJoin directory name)).isSome
  apart : (names.map fun name =>
    system.opens (osPathJoin directory name)).Nodup

end Export

section Names

variable {chars : WordChars}

theorem slash_not_word : chars.word '/' = false := by
  rw [chars.ascii '/' (by decide)]
  decide

theorem safeName_plain (chars : WordChars) (i : Nat) (filename : PyStr) :
    safeName chars i filename ≠ [] ∧ '/' ∉ safeName chars i filename := by
  unfold safeName
  dsimp only
  split
  · refine ⟨List.cons_ne_nil _ _, ?_⟩
    intro slash
    rcases List.mem_append.mp slash with literal | digit
    · revert literal
      decide
    · have isDigit := Nat.isDigit_of_mem_toDigits (by decide) (by decide) digit
      revert isDigit
      decide
  · rename_i some_
    refine ⟨some_, ?_⟩
    intro slash
    obtain ⟨c, _among, same⟩ := List.mem_map.mp slash
    split at same
    · rename_i kept
      rw [same, slash_not_word] at kept
      revert kept
      decide
    · revert same
      decide

theorem safeNames_plain {i : Nat} {files : List ExtractedFile} {name : PyStr}
    (among : name ∈ safeNames chars i files) : name ≠ [] ∧ '/' ∉ name := by
  induction files generalizing i with
  | nil => cases among
  | cons file rest ih =>
      rw [safeNames, List.mem_cons] at among
      rcases among with rfl | behind
      · exact safeName_plain chars i file.filename
      · exact ih behind

theorem safeNames_length (i : Nat) (files : List ExtractedFile) :
    (safeNames chars i files).length = files.length := by
  induction files generalizing i with
  | nil => rfl
  | cons file rest ih => rw [safeNames, List.length_cons, ih, List.length_cons]

end Names

section Written

variable {chars : WordChars} {system : FileSystem} {directory : PyStr}

theorem exists_opened {names : List PyStr}
    (opens : ∀ name ∈ names,
      (system.opens (osPathJoin directory name)).isSome) :
    ∃ opened : List system.File,
      names.map (fun name => system.opens (osPathJoin directory name)) =
        opened.map some := by
  induction names with
  | nil => exact ⟨[], rfl⟩
  | cons name rest ih =>
      rw [List.forall_mem_cons] at opens
      obtain ⟨first, here⟩ := Option.isSome_iff_exists.mp opens.1
      obtain ⟨others, behind⟩ := ih opens.2
      exact ⟨first :: others, congrArg₂ List.cons here behind⟩

/-- As many files are opened as there are, and they stand in front of the
contents. -/
theorem opened_pairs {files : List ExtractedFile} {i : Nat}
    {opened : List system.File}
    (names : (safeNames chars i files).map
      (fun name => system.opens (osPathJoin directory name)) =
        opened.map some) :
    opened.length = files.length ∧
      (opened.zip (files.map ExtractedFile.content)).map Prod.fst = opened := by
  have lengths := congrArg List.length names
  rw [List.length_map, List.length_map, safeNames_length] at lengths
  refine ⟨lengths.symm, List.map_fst_zip ?_⟩
  rw [List.length_map]
  exact Nat.le_of_eq lengths.symm

variable [DecidableEq system.File]

/-- The loop sets every opened file to the content, one after the other. -/
theorem exportFrom_eq_ok {i : Nat} {files : List ExtractedFile}
    {disk result : Dict system.File Bytes} :
    exportFrom chars system directory i files disk = .ok result ↔
      ∃ opened : List system.File,
        (safeNames chars i files).map
            (fun name => system.opens (osPathJoin directory name)) =
          opened.map some ∧
        result = disk.setAll
          (opened.zip (files.map ExtractedFile.content)) := by
  induction files generalizing i disk with
  | nil =>
      rw [exportFrom, Except.ok.injEq]
      constructor
      · rintro rfl
        exact ⟨[], rfl, rfl⟩
      · rintro ⟨opened, none, rfl⟩
        have empty : opened = [] := List.map_eq_nil_iff.mp none.symm
        rw [empty]
        rfl
  | cons file rest ih =>
      rw [exportFrom, safeNames, List.map_cons]
      cases here : system.opens
          (osPathJoin directory (safeName chars i file.filename)) with
      | none =>
          refine iff_of_false (fun raised => by cases raised) ?_
          rintro ⟨opened, same, _⟩
          cases opened with
          | nil => cases same
          | cons first others => cases same
      | some first =>
          dsimp only
          rw [ih]
          constructor
          · rintro ⟨opened, same, rfl⟩
            exact ⟨first :: opened, congrArg (some first :: ·) same, rfl⟩
          · rintro ⟨opened, same, rfl⟩
            cases opened with
            | nil => cases same
            | cons other opened =>
                rw [List.map_cons, List.cons.injEq, Option.some.injEq] at same
                obtain ⟨rfl, behind⟩ := same
                exact ⟨opened, behind, rfl⟩

/-- The files are all kept exactly where their names are opened, as different
files. -/
theorem keeps_iff_openApart {files : List ExtractedFile} :
    Keeps system directory files (exportFiles chars system directory files) ↔
      OpenApart system directory (safeNames chars 0 files) := by
  constructor
  · rintro ⟨disk, kept, returned, length, _distinct, _inside, written⟩
    obtain ⟨opened, names, same⟩ := exportFrom_eq_ok.mp returned
    obtain ⟨openedLength, keys⟩ := opened_pairs names
    have size : ((Dict.empty : Dict system.File Bytes).setAll
        (opened.zip (files.map ExtractedFile.content))).size =
          (Dict.empty : Dict system.File Bytes).size +
            (opened.zip (files.map ExtractedFile.content)).length := by
      have entries := written.length_eq
      rw [List.length_zip, List.length_map] at entries
      rw [← same, List.length_zip, List.length_map, openedLength]
      change disk.entries.length = 0 + _
      omega
    have distinct := (Dict.distinct_of_size_setAll size).1
    rw [keys] at distinct
    refine ⟨?_, ?_⟩
    · intro name among
      have found := List.mem_map_of_mem
        (f := fun name => system.opens (osPathJoin directory name)) among
      rw [names] at found
      obtain ⟨file, _opened, some_⟩ := List.mem_map.mp found
      rw [← some_]
      rfl
    · rw [names]
      exact distinct.map (Option.some_injective _)
  · rintro ⟨opens, apart⟩
    obtain ⟨opened, names⟩ := exists_opened opens
    obtain ⟨openedLength, keys⟩ := opened_pairs names
    rw [names] at apart
    have distinct : opened.Nodup := List.Nodup.of_map _ apart
    have keysDistinct : ((opened.zip
        (files.map ExtractedFile.content)).map Prod.fst).Nodup := by
      rw [keys]
      exact distinct
    have entries : ((Dict.empty : Dict system.File Bytes).setAll
        (opened.zip (files.map ExtractedFile.content))).entries =
          opened.zip (files.map ExtractedFile.content) :=
      Dict.entries_setAll keysDistinct fun _pair _among => rfl
    refine ⟨_, opened, exportFrom_eq_ok.mpr ⟨opened, names, rfl⟩, openedLength,
      distinct, ?_, ?_⟩
    · intro file among
      have found : some file ∈ opened.map some := List.mem_map_of_mem among
      rw [← names] at found
      obtain ⟨name, here, opens⟩ := List.mem_map.mp found
      obtain ⟨nonempty, plain⟩ := safeNames_plain here
      exact system.entry nonempty plain opens
    · exact List.Perm.of_eq entries

end Written

def baseName (path : PyStr) : PyStr :=
  (path.reverse.takeWhile fun c => c ≠ '/').reverse

/-- A name that may be a file: the directory itself, the one above it and names
of more than 255 bytes are refused. -/
def FileName (name : PyStr) : Prop :=
  name ≠ ['.'] ∧ name ≠ ['.', '.'] ∧ (encodeUtf8 name).length ≤ 255

instance (name : PyStr) : Decidable (FileName name) :=
  inferInstanceAs (Decidable (name ≠ ['.'] ∧ name ≠ ['.', '.'] ∧
    (encodeUtf8 name).length ≤ 255))

/-- Directories in which names are told apart character by character.  A file is
known by its path. -/
def posix : FileSystem where
  File := PyStr
  opens path := if FileName (baseName path) then some path else none
  Inside directory file :=
    ∃ name, name ≠ [] ∧ '/' ∉ name ∧ file = osPathJoin directory name
  entry := by
    intro directory name file nonempty plain opened
    refine ⟨name, nonempty, plain, ?_⟩
    split at opened
    · exact (Option.some.inj opened).symm
    · cases opened

instance : DecidableEq posix.File := inferInstanceAs (DecidableEq PyStr)

section Posix

variable {directory name : PyStr}

theorem reverse_plain (plain : '/' ∉ name) :
    ∀ c ∈ name.reverse, decide (c ≠ '/') = true := by
  intro c among
  rw [decide_eq_true_eq]
  rintro rfl
  exact plain (List.mem_reverse.mp among)

theorem baseName_plain (plain : '/' ∉ name) : baseName name = name := by
  unfold baseName
  rw [List.takeWhile_eq_self_iff.mpr (reverse_plain plain),
    List.reverse_reverse]

theorem baseName_behind (plain : '/' ∉ name) (front : PyStr) :
    baseName (front ++ '/' :: name) = name := by
  unfold baseName
  rw [List.reverse_append, List.reverse_cons, List.append_assoc,
    List.takeWhile_append_of_pos (reverse_plain plain), List.singleton_append,
    List.takeWhile_cons_of_neg (by simp), List.append_nil,
    List.reverse_reverse]

/-- A plain name is joined behind a front that the directory alone decides, and
is the base name. -/
theorem osPathJoin_plain (directory : PyStr) :
    ∃ front : PyStr, ∀ {name : PyStr}, name ≠ [] → '/' ∉ name →
      osPathJoin directory name = front ++ name ∧
        baseName (front ++ name) = name := by
  have relative {name : PyStr} (plain : '/' ∉ name) :
      ¬name.head? = some '/' := fun slash => plain (List.mem_of_head? slash)
  by_cases ends : directory = [] ∨ directory.getLast? = some '/'
  · refine ⟨directory, ?_⟩
    intro name _nonempty plain
    unfold osPathJoin
    rw [if_neg (relative plain), if_pos ends]
    refine ⟨rfl, ?_⟩
    rcases ends with rfl | slash
    · exact baseName_plain plain
    · obtain ⟨front, rfl⟩ := List.getLast?_eq_some_iff.mp slash
      rw [List.append_assoc]
      exact baseName_behind plain front
  · refine ⟨directory ++ ['/'], ?_⟩
    intro name _nonempty plain
    unfold osPathJoin
    rw [if_neg (relative plain), if_neg ends, List.append_assoc]
    exact ⟨rfl, baseName_behind plain directory⟩

/-- Names are opened apart where they are file names and distinct. -/
theorem posix_openApart_iff {names : List PyStr}
    (plain : ∀ name ∈ names, name ≠ [] ∧ '/' ∉ name) :
    OpenApart posix directory names ↔
      names.Nodup ∧ ∀ name ∈ names, FileName name := by
  obtain ⟨front, joined⟩ := osPathJoin_plain directory
  have opens : ∀ name ∈ names, posix.opens (osPathJoin directory name) =
      if FileName name then some (front ++ name) else none := by
    intro name among
    obtain ⟨path, base⟩ := joined (plain name among).1 (plain name among).2
    change (if FileName (baseName (osPathJoin directory name)) then
      some (osPathJoin directory name) else none) = _
    rw [path, base]
  constructor
  · rintro ⟨opened, apart⟩
    refine ⟨List.Nodup.of_map _ apart, ?_⟩
    intro name among
    have isSome := opened name among
    rw [opens name among] at isSome
    by_contra refused
    rw [if_neg refused] at isSome
    cases isSome
  · rintro ⟨distinct, fileNames⟩
    refine ⟨?_, ?_⟩
    · intro name among
      rw [opens name among, if_pos (fileNames name among)]
      rfl
    · refine List.Nodup.map_on ?_ distinct
      intro name among other amongOther same
      rw [opens name among, opens other amongOther,
        if_pos (fileNames name among), if_pos (fileNames other amongOther)]
        at same
      exact List.append_cancel_left (Option.some.inj same)

end Posix

/-- The files are all kept exactly where their names are opened, as different
files.  In a directory of POSIX that means that the names are file names and
distinct. -/
theorem exportFiles_keeps_iff (chars : WordChars) (directory : PyStr)
    (files : List ExtractedFile) :
    (∀ (system : FileSystem) [DecidableEq system.File],
      Keeps system directory files
          (exportFiles chars system directory files) ↔
        OpenApart system directory (safeNames chars 0 files)) ∧
    (Keeps posix directory files (exportFiles chars posix directory files) ↔
      (safeNames chars 0 files).Nodup ∧
        ∀ name ∈ safeNames chars 0 files, FileName name) := by
  refine ⟨fun system => keeps_iff_openApart, ?_⟩
  rw [keeps_iff_openApart]
  exact posix_openApart_iff fun name among => safeNames_plain among

section Downloads

/-- `\w` where only ASCII has word characters. -/
def asciiWords : WordChars where
  word c := c.isAlphanum || c == '_'
  ascii := fun _c _small => rfl

/-- Two responses without a filename, as `_carve_http_response` names them. -/
def twoDownloads : List ExtractedFile :=
  [{ filename := "http_download".toList, content := [1]
     sourceProtocol := .http },
    { filename := "http_download".toList, content := [2]
      sourceProtocol := .http }]

/-- The second file overwrites the first one. -/
theorem exportFiles_overwrites :
    (exportFiles asciiWords posix "out".toList twoDownloads).map
        Dict.entries = .ok [("out/http_download".toList, [2])] ∧
      ¬Keeps posix "out".toList twoDownloads
        (exportFiles asciiWords posix "out".toList twoDownloads) := by
  refine ⟨by rfl, ?_⟩
  intro keeps
  have apart := (keeps_iff_openApart.mp keeps).apart
  revert apart
  decide

end Downloads

end DpktNg.Carving
