import DiceCup.Program.File

/-!
# A folder kept in memory

A folder holds some files and no other folders.  Paths are followed name by name from it, as an
operating system does; nothing is known of what lies outside but that there is a folder around it.
-/

namespace DiceCup

/-- The files of a folder with their names. -/
abbrev Folder :=
  List (String × ByteArray)

/-- Where a path has led so far. -/
inductive Place where
  | inside
  | outside
  | file (bytes : ByteArray)

namespace Folder

/-- Follow one name of a path. -/
def follow
    (folder : Folder)
    (place : Place)
    (name : String) :
    Except ReadFault Place :=
  match place with
  | .file _ => .error .notFolder
  | .inside =>
    if name = "" ∨ name = "." then .ok .inside
    else if name = ".." then .ok .outside
    else
      match folder.lookup name with
      | none => .error .missing
      | some bytes => .ok (.file bytes)
  | .outside =>
    if name = "" ∨ name = "." ∨ name = ".." then .ok .outside else .error .missing

/-- The bytes of the file that a path leads to from the folder. -/
def read
    (folder : Folder) :
    FileReader := fun path => do
  let names := (path.toList.splitOn '/').map String.ofList
  let first : Place := if path.startsWith "/" then .outside else .inside
  match ← names.foldlM folder.follow first with
  | .file bytes => .ok bytes
  | .inside => .error .folder
  | .outside => .error .folder

end Folder

end DiceCup
