import VersionBump.Manifest.File
import VersionBump.Php.Hierarchy
import VersionBump.Registry
import VersionBump.Text.Utf8

/-!
# Snapshots

One side of a comparison: what the manifests of a directory declare, by family, together with the
class hierarchy and the contents of all files.

* `Snapshot.register` enters the content of a manifest. Of two declarations with one key the later
  stays, but a virtual type of the global scope gives way to another global one only.
* `Snapshot.load` reads a list of files in order.
-/

namespace VersionBump

/-- A file with its content, or the reason why it cannot be read. -/
structure SourceFile where
  path : Path
  content : Except String ByteArray

/-- Why a snapshot cannot be loaded. -/
inductive ScanError where
  | missingRoot (root : Path)
  | unreadable (path : Path) (reason : String)
  | manifest (path : Path) (cause : Manifest.DecodeError)
  deriving DecidableEq, Repr

/-- The complaint about a snapshot. -/
def ScanError.message : ScanError → String
  | missingRoot root => "Snapshot root not found: " ++ root.text
  | unreadable path reason => "Failed to read " ++ path.text ++ ": " ++ reason
  | manifest path cause => "Invalid manifest " ++ path.text ++ ": " ++ cause.message

/-- What a directory declares, and the bytes of its files. -/
structure Snapshot where
  php : Registry Php.ClassLike := ∅
  database : Registry Database.ModuleSchema := ∅
  di : Registry Di.VirtualType := ∅
  xsd : Registry Xsd.Grammar := ∅
  settings : Registry Settings.Config := ∅
  less : Registry Less.Stylesheet := ∅
  hierarchy : Php.Hierarchy := {}
  files : KeyMap String (Array UInt8) := ∅

namespace Snapshot

instance : Inhabited Snapshot := ⟨{}⟩

/-- The file that a manifest describes: its own name without the ending for JSON. -/
def describedFile (location : String) : String := Text.dropEnding location ".json"

/-- The registry with a class-like. -/
def registerClass (location : Path) (r : Registry Php.ClassLike) (c : Php.ClassLike) :
    Registry Php.ClassLike :=
  r.insert c.kind.context c.key c location

/-- The registry with a virtual type, unless that would hide a global one behind a scoped one. -/
def registerType (location : Path) (r : Registry Di.VirtualType) (v : Di.VirtualType) :
    Registry Di.VirtualType :=
  -- The global scope is authoritative whatever the order of the files.
  if ((r.get? .di v.name).any (·.isGlobal)) && !v.isGlobal then r
  else r.insert .di v.name v location

/-- The snapshot with the content of a manifest found at a location. -/
def register (s : Snapshot) (location : String) (declared : Manifest.Declared) : Snapshot :=
  let path : Path := ⟨location⟩
  match declared with
  | .php cs => { s with php := cs.foldl (registerClass path) s.php }
  | .database d => { s with database := s.database.insert .database d.module d path }
  | .di c => { s with di := c.types.foldl (registerType path) s.di }
  | .xsd g => { s with xsd := s.xsd.insert .xsd (describedFile location) g path }
  | .settings c => { s with settings := s.settings.insert .settings c.module c path }
  | .less l => { s with less := s.less.insert .less (describedFile location) l path }

/-- A file that has been read: its path below the root, its content and what it declares. -/
structure Scanned where
  location : String
  content : ByteArray
  declared : Option Manifest.Declared

/-- Reads a file, and its declarations if it belongs to one of the families. -/
def scan (root : Path) (families : List Family) (file : SourceFile) : Except ScanError Scanned :=
  match file.content with
  | .error reason => .error (.unreadable file.path reason)
  | .ok content =>
    let location := root.relativeText file.path
    match Family.find? families file.path with
    | none => .ok ⟨location, content, none⟩
    | some family =>
      match Manifest.Declared.read family (Text.Utf8.decode content) with
      | .ok declared => .ok ⟨location, content, some declared⟩
      | .error cause => .error (.manifest file.path cause)

/-- The snapshot with a file that has been read. -/
def enter (s : Snapshot) (file : Scanned) : Snapshot :=
  let s := (file.declared.map (s.register file.location)).getD s
  { s with files := s.files.insert file.location file.content.data }

/-- The snapshot of a list of files below a root. Later files win over earlier ones, and the first
file that cannot be read makes the snapshot fail. -/
def load (root : Path) (files : List SourceFile) (families : List Family)
    (policy : Php.CyclePolicy) : Except ScanError Snapshot := do
  -- Nothing is entered unless every file can be read.
  let scanned ← files.mapM (scan root families)
  let s := scanned.foldl enter {}
  return { s with hierarchy := Php.Hierarchy.build s.php.values policy }

end Snapshot

end VersionBump
