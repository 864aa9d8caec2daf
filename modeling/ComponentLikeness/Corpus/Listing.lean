import ComponentLikeness.Files.Folder
import ComponentLikeness.Report
import ComponentLikeness.Settings.Basic
import ComponentLikeness.Text.Fields

/-!
# Listing a corpus

The component files right inside a directory: files that are not hidden and
whose names end in one of the extensions, in the order of their names.
-/

namespace ComponentLikeness

open Files Text

/-- A file that may become a member. -/
structure MemberFile where
  name : String
  path : String
  state : FileState

namespace MemberFile

/-- What follows the last point of a name; a point at the front does not count. -/
def extension? (name : String) : Option String :=
  match name.toList.reverse.dropWhile (· ≠ '.') with
  | [] => none
  | [_] => none
  | _ => some (String.ofList ((name.toList.reverse.takeWhile (· ≠ '.')).reverse))

/-- Whether the name is hidden. -/
def isHidden (name : String) : Bool := name.toList.head? = some '.'

/-- Whether the name has one of the extensions; case does not matter in ASCII. -/
def hasExtension (extensions : List String) (name : String) : Bool :=
  match extension? name with
  | some found => extensions.any fun wanted => asciiLower wanted = asciiLower found
  | none => false

/-- The file under a name, if it may become a member. -/
def ofEntry (directory : String) (extensions : List String) (name : String) :
    EntryState → Option MemberFile
  | .file state =>
    if !isHidden name && hasExtension extensions name then
      some { name, path := joinPath directory name, state }
    else none
  | _ => none

/-- Whether one file may stand in front of another. -/
def ordered (a b : MemberFile) : Bool := decide (a.name ≤ b.name)

end MemberFile

/-- The warning about an entry that cannot be followed. -/
def entryWarning (directory : String) : EntryState → Option CorpusError
  | .broken reason => some (.unlistable directory reason)
  | _ => none

/-- The component files of a directory, with a warning for each entry that
cannot be followed. -/
def listFolder (settings : CorpusSettings) (directory : String) (folder : Folder) :
    Report (List MemberFile) where
  data := (folder.entries.filterMap fun entry =>
    MemberFile.ofEntry directory settings.effectiveExtensions entry.1 entry.2).mergeSort
      MemberFile.ordered
  warnings := folder.entries.filterMap fun entry => entryWarning directory entry.2

/-- The component files at a path, which must be that of a directory. -/
def listFiles (settings : CorpusSettings) (directory : String) :
    Option Folder → Except CorpusError (Report (List MemberFile))
  | some folder => .ok (listFolder settings directory folder)
  | none => .error (.notDirectory directory)

end ComponentLikeness
