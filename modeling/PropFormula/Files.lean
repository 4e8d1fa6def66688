namespace PropFormula

inductive FileError where
  | notFound
  | notDirectory
  | isDirectory
  | nameTooLong
  | noSpace
  | notText
  | other (message : String)
  deriving DecidableEq, Repr

def FileError.message : FileError → String
  | .notFound => "No such file or directory (os error 2)"
  | .notDirectory => "Not a directory (os error 20)"
  | .isDirectory => "Is a directory (os error 21)"
  | .nameTooLong => "File name too long (os error 36)"
  | .noSpace => "No space left on device (os error 28)"
  | .notText => "stream did not contain valid UTF-8"
  | .other message => message

abbrev Path := List String

inductive Device where
  | null
  | full
  deriving DecidableEq, Repr

inductive Node where
  | file (content : ByteArray)
  | directory
  | device (device : Device)

-- Every entry has one absolute path. Permissions, links and the devices that stand for the standard streams
-- of the process are left out, and so is whatever another process does to the same files.
structure FileSystem where
  home : Path
  entries : List (Path × Node)

def pieces : List Char → List (List Char)
  | [] => [[]]
  | character :: rest =>
    if character = '/' then [] :: pieces rest
    else
      match pieces rest with
      | [] => [[character]]
      | first :: others => (character :: first) :: others

def pathNames (text : String) : List String :=
  ((pieces text.toList).filter (fun piece => !piece.isEmpty)).map String.ofList

def endsInSlash (text : String) : Bool := text.toList.getLast? == some '/'

def longestName : Nat := 255

def longestPath : Nat := 4095

namespace FileSystem

def node? (files : FileSystem) (path : Path) : Option Node :=
  if path.isEmpty then some .directory else files.entries.lookup path

def put (files : FileSystem) (path : Path) (node : Node) : FileSystem :=
  {files with entries := (path,node) :: files.entries.filter (fun entry => entry.1 != path)}

theorem node_put (files : FileSystem) (path : Path) (node : Node) (below : path ≠ []) :
    (files.put path node).node? path = some node := by
  simp [node?,put,below]

theorem lookup_filter_other (entries : List (Path × Node)) (path other : Path) (different : other ≠ path) :
    (entries.filter (fun entry => entry.1 != path)).lookup other = entries.lookup other := by
  induction entries with
  | nil => rfl
  | cons entry rest ih =>
    obtain ⟨key,node⟩ := entry
    by_cases same : key = path
    · subst same
      have unequal : (other == key) = false := by simp [different]
      simp [List.lookup_cons,ih,unequal]
    · simp [same,List.lookup_cons,ih]

theorem node_put_other (files : FileSystem) (path other : Path) (node : Node) (different : other ≠ path) :
    (files.put path node).node? other = files.node? other := by
  have unequal : (other == path) = false := by simp [different]
  simp only [node?,put,List.lookup_cons,unequal]
  rw [lookup_filter_other files.entries path other different]

def putDirectory (files : FileSystem) (path : Path) : FileSystem :=
  match files.node? path with
  | some _ => files
  | none => files.put path .directory

def putDirectories (files : FileSystem) (path : Path) : FileSystem :=
  ((List.range path.length).map (fun count => path.take (count + 1))).foldl putDirectory files

def initial (home : Path) : FileSystem :=
  let system := ["boot","dev","etc","home","media","mnt","opt","proc","root","run","srv","sys","tmp","usr","var"]
  let directories := (system.map (fun name => [name])).foldl putDirectory ⟨home,[]⟩
  ((directories.putDirectories home).put ["dev","null"] (.device .null)).put ["dev","full"] (.device .full)

def ofEntries (home : Path) (entries : List (Path × Node)) : FileSystem :=
  entries.foldl (fun files entry =>
    (files.putDirectories (home ++ entry.1.dropLast)).put (home ++ entry.1) entry.2) (initial home)

def list (files : FileSystem) (directory : Path) : List (String × Node) :=
  files.entries.filterMap fun entry =>
    match entry.1.getLast? with
    | some name => if entry.1 == directory ++ [name] then some (name,entry.2) else none
    | none => none

-- The result need not exist; the root is its own parent.
def enter (directory : Path) (name : String) : Except FileError Path :=
  if name == "." then .ok directory
  else if name == ".." then .ok directory.dropLast
  else if longestName < name.utf8ByteSize then .error .nameTooLong
  else .ok (directory ++ [name])

def descend (files : FileSystem) : Path → List String → Except FileError Path
  | directory, [] => .ok directory
  | directory, name :: rest => do
    let inner ← enter directory name
    match files.node? inner with
    | none => throw .notFound
    | some .directory => descend files inner rest
    | some _ => throw .notDirectory

-- The directory that the last name of a path text belongs to, and that name. A text of slashes alone
-- stands for the root itself.
def reach (files : FileSystem) (text : String) : Except FileError (Path × String) := do
  if text.isEmpty then throw .notFound
  let names := pathNames text
  let start := if text.toList.head? == some '/' then [] else files.home
  return (← files.descend start names.dropLast,names.getLast?.getD ".")

def find (files : FileSystem) (text : String) : Except FileError (Path × Node) := do
  let (directory,name) ← files.reach text
  let path ← enter directory name
  match files.node? path with
  | none => throw .notFound
  | some .directory => return (path,.directory)
  | some node =>
    if endsInSlash text then throw .notDirectory
    return (path,node)

def absolute (path : Path) : String :=
  if path.isEmpty then "/" else String.join (path.map (fun name => "/" ++ name))

-- Unlike a file to be opened, an entry is found however long the text is.
def canonical? (files : FileSystem) (text : String) : Option String :=
  match files.find text with
  | .ok (path,_) => some (absolute path)
  | .error _ => none

def checkLength (text : String) : Except FileError Unit :=
  if longestPath < text.utf8ByteSize then .error .nameTooLong else .ok ()

-- The device `null` has nothing to read. From `full` a system reads NUL bytes without end; such a reading
-- never returns, and it is not described here.
def read (files : FileSystem) (text : String) : Except FileError String := do
  checkLength text
  match (← files.find text) with
  | (_,.directory) => throw .isDirectory
  | (_,.device _) => return ""
  | (_,.file content) =>
    match String.fromUTF8? content with
    | some contentText => return contentText
    | none => throw .notText

-- A file that is there is emptied, a device stays what it is, and no file can be created under a name that
-- ends in a slash.
def create (files : FileSystem) (text : String) : Except FileError FileSystem := do
  checkLength text
  let (directory,name) ← files.reach text
  if endsInSlash text then throw .isDirectory
  let path ← enter directory name
  match files.node? path with
  | some .directory => throw .isDirectory
  | some (.device _) => return files
  | _ => return files.put path (.file .empty)

def append (files : FileSystem) (text content : String) : Except FileError FileSystem := do
  match (← files.find text) with
  | (path,.file before) => return files.put path (.file (before ++ content.toUTF8))
  | (_,.device .null) => return files
  | (_,.device .full) => throw .noSpace
  | (_,.directory) => throw .isDirectory

end FileSystem
end PropFormula
