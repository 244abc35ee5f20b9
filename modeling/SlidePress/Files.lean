import SlidePress.Fault
import SlidePress.Text.Search

/-! # Files and folders

A tree of files as the program sees it, and the reading of text files: the bytes have to be UTF-8,
and every spelling of a line end becomes a line feed.

* `FileTree.ofPaths`: the tree with given files.
* `FileTree.inOrder`: named parts in the order of their names.
* `Body.read`: the text of a file. -/

namespace SlidePress

/-- What a path leads to. -/
inductive Body where
  /-- A file whose bytes are the UTF-8 form of a text. -/
  | text (s : String)
  /-- A file with any bytes. -/
  | bytes (bs : List UInt8)
  /-- A folder. -/
  | folder
  deriving DecidableEq, Repr, Inhabited

namespace Body

/-- A text with one spelling of line ends. -/
def unix (s : String) : String := String.ofList (Text.unixLines s.toList)

/-- The text of what a path leads to. -/
def read : Option Body → Attempt String
  | none => .error .missingFile
  | some .folder => .error .folder
  | some (.text s) => .ok (unix s)
  | some (.bytes bs) =>
    match String.fromUTF8? ⟨bs.toArray⟩ with
    | some s => .ok (unix s)
    | none => .error .undecodable

end Body

/-- A file, or a folder with named entries. -/
inductive FileTree where
  | file (b : Body)
  | folder (entries : List (String × FileTree))
  deriving Inhabited

namespace FileTree

/-- An empty folder. -/
def empty : FileTree := folder []

/-- The entries of a folder; a file has none. -/
def entries : FileTree → List (String × FileTree)
  | folder es => es
  | file _ => []

/-- Puts something at the end of a way through folders, which are made where they are missing. -/
def place (b : Body) : List String → FileTree → FileTree
  | [], t =>
    match b with
    | .folder => folder t.entries
    | b => file b
  | name :: way, t =>
    let es := t.entries
    let old := (es.lookup name).getD empty
    folder (es.filter (fun e => e.1 != name) ++ [(name, place b way old)])

/-- The steps of a path. -/
def steps (path : String) : List String :=
  ((Text.splitOn ['/'] path.toList).map String.ofList).filter fun s => s != "" && s != "."

/-- The tree with the given files. -/
def ofPaths (files : List (String × Body)) : FileTree :=
  files.foldl (fun t f => place f.2 (steps f.1) t) empty

/-- What a way through folders leads to. -/
def find? : List String → FileTree → Option FileTree
  | [], t => some t
  | name :: way, folder es => (es.lookup name).bind (find? way)
  | _ :: _, file _ => none

/-- Whether a way leads to a file. -/
def isFile (way : List String) (t : FileTree) : Bool :=
  match find? way t with
  | some (file _) => true
  | _ => false

/-- What a way leads to, as a body. -/
def body? (way : List String) (t : FileTree) : Option Body :=
  match find? way t with
  | some (file b) => some b
  | some (folder _) => some .folder
  | none => none

/-- Puts a named part in front of the first one with a greater name. -/
def insertPart {α : Type} (p : String × α) : List (String × α) → List (String × α)
  | [] => [p]
  | q :: qs => if p.1 < q.1 then p :: q :: qs else q :: insertPart p qs

/-- Named parts in the order of their names. -/
def inOrder {α : Type} (parts : List (String × α)) : List (String × α) :=
  parts.foldr insertPart []

end FileTree

/-- The ending of a file name, with its point: what follows the last point, unless that is the
first or the last character. -/
def fileEnding (name : String) : String :=
  let r := name.toList.reverse
  let ending := r.takeWhile (· != '.')
  let rest := (r.dropWhile (· != '.')).drop 1
  if ending.isEmpty || rest.isEmpty || ending.length == r.length then ""
  else String.ofList ('.' :: ending.reverse)

/-- A path with one more step. -/
def joinPath (path name : String) : String := path ++ "/" ++ name

end SlidePress
