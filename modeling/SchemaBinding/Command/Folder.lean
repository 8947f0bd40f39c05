import SchemaBinding.Command.Run

/-!
# Folders

A working directory as a value: the files in it, and what has been printed.  It is a host on which
a run is a function, and returns what was written to it.
-/

namespace SchemaBinding
namespace Command

/-- A working directory. -/
structure Folder where
  /-- The files, by their paths. -/
  files : List (List String × List UInt8) := []
  /-- What has been printed. -/
  printed : String := ""
deriving DecidableEq, Repr

namespace Folder

/-- The steps of a path from the working directory, and whether it can only lead to a directory. -/
def steps (path : String) : List String × Bool :=
  let parts := (path.toList.splitOnP (· = '/')).map String.ofList
  (parts.filter fun part => part != "" && part != ".",
    parts.getLast?.any fun part => part = "" || part = ".")

/-- The place of a file in the folder; paths that lead out of the folder have none. -/
def locate? (path : String) : Option (List String) :=
  let (steps, onlyDirectory) := steps path
  if path.startsWith "/" || onlyDirectory || steps.contains ".." then none else some steps

/-- The device that has no content and takes any. -/
def nullDevice : String :=
  "/dev/null"

/-- The device that takes no content. -/
def fullDevice : String :=
  "/dev/full"

/-- The content of a file. -/
def read? (folder : Folder) (path : String) : Option (List UInt8) := do
  if path = nullDevice then return []
  folder.files.lookup (← locate? path)

/-- Whether a place is a directory: that of the folder itself, or one on the way to a file. -/
def isDirectory (folder : Folder) (place : List String) : Bool :=
  place.isEmpty || folder.files.any fun file => place.isPrefixOf file.1 && place != file.1

/-- The folder with a file that holds some content. -/
def put (folder : Folder) (place : List String) (octets : List UInt8) : Folder :=
  if (folder.files.lookup place).isSome then
    { folder with
      files := folder.files.map fun file => if file.1 = place then (place, octets) else file }
  else { folder with files := folder.files ++ [(place, octets)] }

/-- Makes a file hold some content, if there is a directory for it. -/
def write (folder : Folder) (path : String) (octets : List UInt8) : WriteResult × Folder :=
  if path = nullDevice then (.written, folder)
  else if path = fullDevice then (if octets.isEmpty then .written else .notWritten, folder)
  else
    match locate? path with
    | none => (.notCreated, folder)
    | some place =>
        if folder.isDirectory place || !folder.isDirectory place.dropLast then
          (.notCreated, folder)
        else (.written, folder.put place octets)

/-- A folder as a host; no address can be reached from it. -/
def host : Host (StateM Folder) where
  read path := return (← get).read? path
  fetch _ := return none
  write path octets := modifyGet fun folder => folder.write path octets
  print text := do
    modify fun folder => { folder with printed := folder.printed ++ text }
    return true

/-- Carries out a request in a folder; the answer is how that ends, and the folder afterwards. -/
def run (folder : Folder) (request : Request) :
    (Outcome × List Schema.Warning) × Folder :=
  (Command.run host request).run folder

end Folder
end Command
end SchemaBinding
