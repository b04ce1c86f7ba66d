import MembershipGrid.Disk.Basic

/-!
# Reading and writing by path

A path is walked name by name, and everything before its last name has to be a directory. A file can
be read where it stands; it can be written at any place in a directory that is not itself one.
-/

namespace MembershipGrid.Disk

/-! ## Walking -/

def requireDirectory (d : Disk) (place : Location) : Except StorageError Unit :=
  match d.node? place with
  | none => .error .notFound
  | some (.file _) => .error .notDirectory
  | some .directory => .ok ()

def step (d : Disk) (here : Location) (name : String) : Except StorageError Location := do
  d.requireDirectory here
  if name = "." then return here
  else if name = ".." then return here.dropLast
  else if Path.maxNameBytes < name.utf8ByteSize then throw .nameTooLong
  else return here ++ [name]

def walk (d : Disk) (here : Location) : List String → Except StorageError Location
  | [] => .ok here
  | name :: rest => do d.walk (← d.step here name) rest

def start (d : Disk) (path : String) : Location :=
  if Path.isAbsolute path then [] else d.workingDirectory

def workingPath (d : Disk) : String := "/" ++ "/".intercalate d.workingDirectory

/-! ## Reading -/

/-- The location that a path stands for. Nothing need stand there. -/
def locate (d : Disk) (path : String) : Except StorageError Location := do
  Path.check path
  d.walk (d.start path) (Path.names path)

def find (d : Disk) (path : String) : Except StorageError Node := do
  match d.node? (← d.locate path) with
  | none => throw .notFound
  | some .directory => return .directory
  | some (.file content) =>
    if Path.endsInSlash path then throw .notDirectory
    return .file content

def has (d : Disk) (path : String) : Bool := (d.find path).isOk

def read (d : Disk) (path : String) : Except StorageError Bytes := do
  match ← d.find path with
  | .directory => throw .isDirectory
  | .file content => return content

/-! ## Writing -/

/-- The location at which a file can be written. -/
def target (d : Disk) (path : String) : Except StorageError Location := do
  Path.check path
  match (Path.names path).getLast? with
  | none => throw .isDirectory
  | some last =>
    let parent ← d.walk (d.start path) (Path.names path).dropLast
    d.requireDirectory parent
    if Path.endsInSlash path then throw .isDirectory
    let place ← d.step parent last
    if d.node? place = some .directory then throw .isDirectory
    return place

/-- Gives a file a new content. The file is created where there is none. -/
def replace (d : Disk) (path : String) (content : Bytes) : Except StorageError Disk := do
  return d.store (← d.target path) (.file content)

/-- The content of the file at a location, or nothing where there is no file. -/
def contentAt (d : Disk) (place : Location) : Bytes :=
  match d.node? place with
  | some (.file content) => content
  | _ => []

/-- Adds to the end of a file. The file is created where there is none. -/
def append (d : Disk) (path : String) (content : Bytes) : Except StorageError Disk := do
  let place ← d.target path
  return d.store place (.file (d.contentAt place ++ content))

end MembershipGrid.Disk
