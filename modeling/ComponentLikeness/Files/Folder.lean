/-!
# Folders

A directory as far as a corpus needs it: the names in it, each with what is
found under it once links have been followed.
-/

namespace ComponentLikeness.Files

/-- A file: its size and its bytes, or the reasons why they cannot be told. -/
structure FileState where
  size : Except String Nat
  content : Except String ByteArray

namespace FileState

/-- A file that can be read. -/
def ofBytes (bytes : ByteArray) : FileState := ⟨.ok bytes.size, .ok bytes⟩

/-- The reason why some bytes are no text. -/
def notText : String := "stream did not contain valid UTF-8"

/-- The text of a file. -/
def text (f : FileState) : Except String String :=
  match f.content with
  | .error reason => .error reason
  | .ok bytes =>
    match String.fromUTF8? bytes with
    | some text => .ok text
    | none => .error notText

end FileState

/-- What is found under a name. -/
inductive EntryState where
  | file (state : FileState)
  /-- A directory, or anything else that is no regular file. -/
  | folder
  /-- A link that leads nowhere, or back to the directory itself. -/
  | broken (reason : String)

/-- The names in a directory, in any order, with what is found under them. -/
structure Folder where
  entries : List (String × EntryState) := []

end ComponentLikeness.Files
