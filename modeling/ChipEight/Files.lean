import ChipEight.Text.Quoted
import ChipEight.Text.Utf8

/-!
# Files

The files that a run can open, and the directories on the way to them.  Before it
is used a path is put into plain form, without empty components and without single
dots.  It is then walked name by name, from the top directory or from the directory
of the run: double dots lead back to the directory above, and a name leads into what
lies under it.  Names are compared as bytes, so two texts with the same bytes are one
name.
-/

namespace ChipEight

/-- A name as the file system knows it. -/
abbrev FileName := List UInt8

/-- A path in plain form. -/
structure Path where
  /-- The slashes of a path that starts at the top directory, and nothing otherwise. -/
  root : String
  /-- Its components. -/
  components : List String
  deriving DecidableEq, Repr

namespace Path

/-- The pieces of a text between slashes. -/
def pieces (text : List Char) : List (List Char) :=
  match text with
  | [] => [[]]
  | '/' :: rest => [] :: pieces rest
  | c :: rest =>
    match pieces rest with
    | [] => [[c]]
    | piece :: others => (c :: piece) :: others

/-- The plain form of a path. -/
def ofString (text : String) : Path where
  root := match text.toList with
    | '/' :: '/' :: '/' :: _ => "/"
    | '/' :: '/' :: _ => "//"
    | '/' :: _ => "/"
    | _ => ""
  components := (pieces text.toList).filterMap fun piece =>
    if piece = [] ∨ piece = ['.'] then none else some (String.ofList piece)

/-- A path as text: a single dot where there is nothing else to show. -/
def text (path : Path) : String :=
  let shown := path.root ++ "/".intercalate path.components
  if shown.isEmpty then "." else shown

/-- The last component. -/
def name (path : Path) : String :=
  path.components.getLast?.getD ""

/-- The names to follow from where the path starts. -/
def names (path : Path) : List FileName :=
  path.components.map Text.nameBytes

end Path

/-- A place among the directories: the names that lead to it from the top directory,
the last one first. -/
abbrev Place := List FileName

namespace Place

/-- The top directory. -/
abbrev top : Place := []

/-- The directory in which a run takes place.  It lies two below the top; its own
name is empty, so that no path spells it. -/
def ofRun : Place := [[], Text.nameBytes "tmp"]

/-- The name that leads to the directory above. -/
def above : FileName := Text.nameBytes ".."

/-- Where a name leads from a place.  Above the top directory there is only itself. -/
def next (place : Place) (name : FileName) : Place :=
  if name = above then place.tail else name :: place

end Place

/-- Where a path starts. -/
def Path.start (path : Path) : Place :=
  if path.root = "" then .ofRun else .top

/-- What the file system refuses. -/
inductive Refusal where
  /-- There is nothing at the path. -/
  | notFound
  /-- A name is followed from a file. -/
  | notDirectory
  /-- The file may not be read. -/
  | denied
  /-- A directory is to be read as a file. -/
  | isDirectory
  /-- A name or the whole path is too long. -/
  | nameTooLong
  deriving DecidableEq, Repr

/-- The number and the words for a refusal. -/
def Refusal.text : Refusal → String
  | .notFound => "[Errno 2] No such file or directory"
  | .denied => "[Errno 13] Permission denied"
  | .notDirectory => "[Errno 20] Not a directory"
  | .isDirectory => "[Errno 21] Is a directory"
  | .nameTooLong => "[Errno 36] File name too long"

/-- Why a file was not read. -/
inductive FileError where
  /-- The file system refused the path. -/
  | refused (refusal : Refusal) (path : Path)
  /-- The path holds half of a surrogate pair. -/
  | encoding (error : Text.Utf8.EncodeError)
  /-- The path holds a null character. -/
  | nullCharacter
  deriving DecidableEq, Repr

/-- The report on a file that was not read. -/
def FileError.message : FileError → String
  | .refused refusal path => refusal.text ++ ": " ++ Text.quoted path.text
  | .encoding error => error.message
  | .nullCharacter => "embedded null byte"

/-- What lies at a path. -/
inductive FileNode where
  /-- A file with its contents. -/
  | file (content : Array UInt8)
  /-- A file that may not be read. -/
  | locked
  /-- A directory. -/
  | directory
  deriving DecidableEq, Repr

/-- The files of a run. -/
structure Files where
  /-- What lies at a place; the first entry for it counts. -/
  nodes : List (Place × FileNode)

namespace Files

/-- What lies at a place, if anything does. -/
def node? (files : Files) (place : Place) : Option FileNode :=
  files.nodes.lookup place

/-- Put something at the end of names that are followed from a place, and
directories at the places passed. -/
def insertAt (files : Files) (place : Place) (node : FileNode) : List FileName → Files
  | [] => ⟨(place, node) :: files.nodes⟩
  | name :: rest => insertAt ⟨(place, .directory) :: files.nodes⟩ (place.next name) node rest

/-- Put something at a path.  It takes the place of what was there. -/
def insert (files : Files) (path : Path) (node : FileNode) : Files :=
  files.insertAt path.start node path.names

/-- No files: there is just the directory of the run. -/
def empty : Files :=
  insertAt ⟨[]⟩ .top .directory Place.ofRun.reverse

/-- The files listed by name; of two entries for one place the last counts. -/
def ofList (entries : List (String × FileNode)) : Files :=
  entries.foldl (fun files entry => files.insert (Path.ofString entry.1) entry.2) .empty

/-- The longest name in bytes. -/
abbrev nameLimit : Nat := 255

/-- The longest path in bytes. -/
abbrev pathLimit : Nat := 4095

/-- Follow names from a place.  Only a directory can be left, and a name is not
looked up if it is too long. -/
def walk (files : Files) (place : Place) : List FileName → Except Refusal FileNode
  | [] =>
    match files.node? place with
    | some node => .ok node
    | none => .error .notFound
  | name :: rest =>
    match files.node? place with
    | none => .error .notFound
    | some (.file _) | some .locked => .error .notDirectory
    | some .directory =>
      if name.length > nameLimit then .error .nameTooLong
      else walk files (place.next name) rest

/-- What lies at the end of a path. -/
def find (files : Files) (path : Path) : Except Refusal FileNode :=
  if (Text.nameBytes path.text).length > pathLimit then .error .nameTooLong
  else files.walk path.start path.names

/-- Whether a path can be passed on: it is encoded and holds no null character. -/
def checkName (path : Path) : Except FileError Unit :=
  match Text.Utf8.encodeError? 0 (Text.codePoints path.text.toList) with
  | some error => .error (.encoding error)
  | none => if path.text.contains '\x00' then .error .nullCharacter else .ok ()

/-- Read a file. -/
def read (files : Files) (path : Path) : Except FileError (Array UInt8) := do
  checkName path
  match files.find path with
  | .ok (.file content) => .ok content
  | .ok .locked => .error (.refused .denied path)
  | .ok .directory => .error (.refused .isDirectory path)
  | .error refusal => .error (.refused refusal path)

end Files

end ChipEight
