import ObjectStorage.Config.Text

/-!
# Configuration files

Where the configuration is kept, how it is read from there, and how it is put back.
-/

namespace ObjectStorage

structure ConfigFile where
  path : String
  /-- None if there is no such file. -/
  content : Option Bytes
  deriving DecidableEq, Repr

namespace ConfigFile

def load (file : ConfigFile) : Except Error Config :=
  match file.content with
  | none => .ok .standard
  | some content =>
      match Utf8.decode? content with
      | none => .error (.io .notText)
      | some text =>
          match Config.read? text with
          | some config => .ok config
          | none => .error (.config (.malformed file.path))

def loadWith (file : ConfigFile) (environment : String → Option String) : Except Error Config :=
  file.load.map fun config => config.override environment

/-! ## Putting a configuration back -/

structure Disk where
  /-- Whether the directory of the file is there or can be made. -/
  directory : Except IoFault Unit
  /-- Whether the file can be written; if not, what it is left with. -/
  writing : Except (IoFault × Option Bytes) Unit

/-- A disk that refuses nothing. -/
def Disk.willing : Disk := ⟨.ok (), .ok ()⟩

/-- Makes the directory, and then writes the text if there is one. -/
def put (file : ConfigFile) (disk : Disk) (text : Except String String) :
    Except Error Unit × ConfigFile :=
  match disk.directory with
  | .error fault => (.error (.io fault), file)
  | .ok () =>
      match text with
      | .error message => (.error (.config (.unwritten message)), file)
      | .ok text =>
          match disk.writing with
          | .error (fault, left) => (.error (.io fault), { file with content := left })
          | .ok () => (.ok (), { file with content := some (Utf8.ofText text) })

def saveTo (file : ConfigFile) (disk : Disk) (config : Config) : Except Error Unit × ConfigFile :=
  file.put disk (.ok config.write)

/-- The file with the configuration in it, whatever it held before. -/
def save (file : ConfigFile) (config : Config) : ConfigFile := (file.saveTo .willing config).2

/-! ## Where the file is -/

/-- Joins a directory and a name by a slash, unless the directory ends in one or is empty. -/
def join (directory name : String) : String :=
  if directory = "" ∨ directory.toList.getLast? = some '/' then directory ++ name
  else directory ++ "/" ++ name

def isAbsolute (path : String) : Bool := path.toList.head? = some '/'

/-- The directory of configurations, given the home directory that the system knows. -/
def configHome? (environment : String → Option String) (systemHome : Option String) :
    Option String :=
  match (environment "XDG_CONFIG_HOME").filter isAbsolute with
  | some directory => some directory
  | none =>
      let home := ((environment "HOME").filter fun home => home ≠ "").or systemHome
      home.map fun home => join home ".config"

def directory? (environment : String → Option String) (systemHome : Option String) :
    Option String :=
  match environment "SWC_CONFIG_DIR" with
  | some directory => some directory
  | none => (configHome? environment systemHome).map fun directory => join directory "swc"

def standardPath (environment : String → Option String) (systemHome : Option String) :
    Except Error String :=
  match directory? environment systemHome with
  | some directory => .ok (join directory "config.toml")
  | none => .error (.config .noDirectory)

end ConfigFile

end ObjectStorage
