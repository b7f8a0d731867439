/-!
# Tree

Trees of files and folders. A tree is the list of the entries of one folder, in any order; the
entries of a folder inside it are a tree again.
-/

namespace Provenance

/-- The entries of a folder. -/
inductive Tree where
  | empty
  | file (name : String) (bytes : List UInt8) (rest : Tree)
  | folder (name : String) (entries : Tree) (rest : Tree)

/-- What a name stands for. -/
inductive Node where
  | file (bytes : List UInt8)
  | folder (entries : Tree)

namespace Tree

/-- What a name stands for in a folder. -/
def find? (name : String) : Tree → Option Node
  | .empty => none
  | .file n bytes rest => if n = name then some (.file bytes) else rest.find? name
  | .folder n entries rest => if n = name then some (.folder entries) else rest.find? name

/-- A folder without the entry of a name. -/
def erase (name : String) : Tree → Tree
  | .empty => .empty
  | .file n bytes rest => if n = name then rest.erase name else .file n bytes (rest.erase name)
  | .folder n entries rest =>
    if n = name then rest.erase name else .folder n entries (rest.erase name)

/-- A folder with an entry of a name, instead of the one it had. -/
def put (name : String) (node : Node) (t : Tree) : Tree :=
  match node with
  | .file bytes => .file name bytes (t.erase name)
  | .folder entries => .folder name entries (t.erase name)

/-- The entries of the folder of a name, none if there is no such folder. -/
def inner (name : String) (t : Tree) : Tree :=
  match t.find? name with
  | some (.folder entries) => entries
  | _ => .empty

/-- A tree with something at a path, the folders on the way made where they are missing. -/
def write (node : Node) : List String → Tree → Tree
  | [], t => t
  | [name], t => t.put name node
  | name :: rest, t => t.put name (.folder ((t.inner name).write node rest))

/-- A tree without what is at a path. -/
def remove : List String → Tree → Tree
  | [], t => t
  | [name], t => t.erase name
  | name :: rest, t =>
    match t.find? name with
    | some (.folder entries) => t.put name (.folder (entries.remove rest))
    | _ => t

/-- What is at a path. -/
def node? : List String → Tree → Option Node
  | [], t => some (.folder t)
  | [name], t => t.find? name
  | name :: rest, t =>
    match t.find? name with
    | some (.folder entries) => entries.node? rest
    | _ => none

/-- Whether there is a file at a path. -/
def hasFile (parts : List String) (t : Tree) : Bool :=
  match t.node? parts with
  | some (.file _) => true
  | _ => false

/-- The folder at a path. -/
def folder? (parts : List String) (t : Tree) : Option Tree :=
  match t.node? parts with
  | some (.folder entries) => some entries
  | _ => none

end Tree

end Provenance
