import ContractLint.Location.Path
import ContractLint.Text.Quoted

namespace ContractLint

open Text

inductive IoError where
  | notFound
  | denied
  | notDirectory
  | isDirectory
  | alreadyThere
  | nameTooLong
  | argumentTooLong
  | nulInName
  | nulInArgument
  | notUtf8
  | other (text : String)
  | atPath (error : IoError) (path : Path)
  deriving DecidableEq, Repr

def IoError.message : IoError → String
  | .notFound => "No such file or directory (os error 2)"
  | .denied => "Permission denied (os error 13)"
  | .notDirectory => "Not a directory (os error 20)"
  | .isDirectory => "Is a directory (os error 21)"
  | .alreadyThere => "File exists (os error 17)"
  | .nameTooLong => "File name too long (os error 36)"
  | .argumentTooLong => "Argument list too long (os error 7)"
  | .nulInName => "file name contained an unexpected NUL byte"
  | .nulInArgument => "nul byte found in provided data"
  | .notUtf8 => "stream did not contain valid UTF-8"
  | .other text => text
  | .atPath error path => error.message ++ " at path " ++ quoted path.shown

inductive Node where
  | file (content : Bytes) (executable : Bool)
  | directory
  deriving DecidableEq, Repr, Inhabited

abbrev Names := List Bytes

/-- The first entry for a place counts. The root is always there. -/
structure Disk where
  entries : List (Names × Node) := []
  deriving Repr, Inhabited

namespace Disk

def find (entries : List (Names × Node)) (place : Names) : Option Node :=
  (entries.find? fun e => e.1 = place).map (·.2)

def get? (disk : Disk) (place : Names) : Option Node :=
  if place = [] then some .directory else find disk.entries place

def put (disk : Disk) (place : Names) (node : Node) : Disk :=
  ⟨(place, node) :: disk.entries.filter fun e => e.1 != place⟩

def erase (disk : Disk) (place : Names) : Disk :=
  ⟨disk.entries.filter fun e => e.1 != place⟩

theorem find_filter (entries : List (Names × Node)) (keep : Names → Bool) (place : Names) :
    find (entries.filter fun e => keep e.1) place =
      if keep place then find entries place else none := by
  induction entries with
  | nil => simp [find]
  | cons e es ih =>
      simp only [find] at ih ⊢
      grind

theorem get?_put (disk : Disk) (place : Names) (node : Node) (q : Names) :
    (disk.put place node).get? q =
      if q = [] then some .directory else if place = q then some node else disk.get? q := by
  have h := find_filter disk.entries (· != place) q
  simp only [find] at h
  simp only [get?, put, find, List.find?_cons]
  grind

theorem get?_erase (disk : Disk) (place q : Names) :
    (disk.erase place).get? q = if q = place ∧ q ≠ [] then none else disk.get? q := by
  have h := find_filter disk.entries (· != place) q
  simp only [get?, erase]
  grind

def eraseTree (disk : Disk) (place : Names) : Disk :=
  ⟨disk.entries.filter fun e => !place.isPrefixOf e.1⟩

theorem get?_eraseTree (disk : Disk) (place q : Names) :
    (disk.eraseTree place).get? q =
      if place.isPrefixOf q ∧ q ≠ [] then none else disk.get? q := by
  have h := find_filter disk.entries (fun p => !place.isPrefixOf p) q
  simp only [get?, eraseTree]
  grind

inductive Target where
  | node (place : Names) (node : Node)
  | free (place : Names)
  deriving DecidableEq, Repr

def maxName : Nat :=
  255

def maxPath : Nat :=
  4095

def walk (disk : Disk) (place : Names) (node : Node) : List Bytes → Except IoError Target
  | [] => .ok (.node place node)
  | s :: rest =>
      match node with
      | .file .. => .error .notDirectory
      | .directory =>
          if Path.isIdle s then walk disk place .directory rest
          else if Path.isUp s then walk disk place.dropLast .directory rest
          else if maxName < s.length then .error .nameTooLong
          else
            match disk.get? (place ++ [s]) with
            | some next => walk disk (place ++ [s]) next rest
            | none => if rest = [] then .ok (.free (place ++ [s])) else .error .notFound

def locate (disk : Disk) (p : Path) : Except IoError Target :=
  if p.bytes.contains 0 then .error .nulInName
  else if p.isEmpty then .error .notFound
  else if maxPath < p.bytes.length then .error .nameTooLong
  else disk.walk [] .directory p.segments

def isDirectory (disk : Disk) (p : Path) : Bool :=
  match disk.locate p with
  | .ok (.node _ .directory) => true
  | _ => false

def exists? (disk : Disk) (p : Path) : Bool :=
  match disk.locate p with
  | .ok (.node ..) => true
  | _ => false

def readBytes (disk : Disk) (p : Path) : Except IoError Bytes :=
  match disk.locate p with
  | .ok (.node _ (.file content _)) => .ok content
  | .ok (.node _ .directory) => .error .isDirectory
  | .ok (.free _) => .error .notFound
  | .error e => .error e

def readText (disk : Disk) (p : Path) : Except IoError String := do
  match Bytes.text? (← disk.readBytes p) with
  | some s => .ok s
  | none => .error .notUtf8

def write (disk : Disk) (p : Path) (content : Bytes) : Except IoError Disk :=
  match disk.locate p with
  | .ok (.node place (.file _ executable)) => .ok (disk.put place (.file content executable))
  | .ok (.node _ .directory) => .error .isDirectory
  | .ok (.free place) => .ok (disk.put place (.file content false))
  | .error e => .error e

def createDirectory (disk : Disk) (p : Path) : Except IoError Disk :=
  match disk.locate p with
  | .ok (.free place) => .ok (disk.put place .directory)
  | .ok (.node ..) => .error .alreadyThere
  | .error e => .error e

def remove (disk : Disk) (p : Path) : Disk :=
  match disk.locate p with
  | .ok (.node place (.file ..)) => disk.erase place
  | _ => disk

def removeTree (disk : Disk) (p : Path) : Disk :=
  match disk.locate p with
  | .ok (.node place .directory) => disk.eraseTree place
  | _ => disk

def startable (disk : Disk) (p : Path) : Except IoError Unit :=
  match disk.locate p with
  | .ok (.node _ (.file _ true)) => .ok ()
  | .ok (.node ..) => .error .denied
  | .ok (.free _) => .error .notFound
  | .error e => .error e

def namesIn (disk : Disk) (place : Names) : List Bytes :=
  disk.entries.filterMap fun e =>
    if e.1.dropLast = place then e.1.getLast? else none

end Disk

end ContractLint
