import SyntaxOutline.Outline.Sink

/-!
# A store of files

A store is a tree of directories, regular files, devices and links. A link is another name for the
node at a route. A device keeps nothing of what it is given, and may be one that is always full. A
path names a node of the tree, from the root if it starts with a slash and else from the working
directory. Every part of a path but the last has to name a directory. Paths and the names in them
have a greatest length, and so many links are followed one after the other. Apart from that the
system may refuse to read a file, to open it for writing, to give it more than so many bytes, or to
pass on what it has been given.

Creating a file makes it, or empties the one that is there, and touches nothing else. A file that is
written is a sink: it keeps what it has taken, also if it does not take everything.

Paths and names are texts. A name that is no text cannot be given, and each regular file has one
name besides the links to it.
-/

namespace SyntaxOutline

/-- The names on the way from the root to a node. -/
abbrev Route := List String

/-- What a name in a directory stands for. -/
inductive Node where
  | directory
  | file (contents : ByteArray)
  /-- A device that takes no bytes. -/
  | fullDevice
  /-- A device that takes all bytes. -/
  | device
  /-- Another name for what is at a route. -/
  | link (target : Route)

/-- What the system refuses to do with the file at a route. -/
structure Access where
  /-- Why the file cannot be read. -/
  unreadable? : Option SystemError := none
  /-- Why it cannot be opened to be written. -/
  unwritable? : Option SystemError := none
  /-- How many bytes it can be given, if there is a bound, and why it takes no more. -/
  bound? : Option (Nat × SystemError) := none
  /-- Why it does not pass on what it was given, the first time it is asked to and later. -/
  flushFault? : Nat → Option SystemError := fun _ => none

/-- The sink that a file is where the system gives this access to it. -/
def Access.sink (a : Access) : Sink :=
  { limit? := a.bound?.map (·.1)
    whenFull := (a.bound?.map fun (_, e) => WhenFull.refuses (.system e)).getD .takesNothing
    flushFault? := fun n => (a.flushFault? n).map .system
    held := .empty }

/-- The nodes of a file system, each with its route, and the working directory. -/
structure FileStore where
  nodes : List (Route × Node)
  working : Route
  access : Route → Access := fun _ => {}

/-- A path, taken apart. -/
structure Path where
  fromRoot : Bool
  parts : List String
  /-- Whether a slash ends it, so that it can only name a directory. -/
  closed : Bool
deriving DecidableEq, Repr

namespace Path

/-- The bytes that a path has at most. -/
def maxBytes : Nat := 4095

/-- The bytes that a name in a directory has at most. -/
def maxNameBytes : Nat := 255

/-- Takes a path apart; the empty text is no path. -/
def ofText (text : String) : Except SystemError Path :=
  if text.toList.contains '\x00' then .error .nullInName
  else if text.isEmpty then .error .notFound
  else if maxBytes < text.utf8ByteSize then .error .nameTooLong
  else
    let pieces := text.splitOn "/"
    .ok ⟨text.startsWith "/", pieces.filter (!·.isEmpty), text.endsWith "/"⟩

end Path

namespace FileStore

/-- The node at a route. The root is a directory. -/
def node? (s : FileStore) (route : Route) : Option Node :=
  if route.isEmpty then some .directory else s.nodes.lookup route

/-- The number of links that are followed one after the other. -/
def maxLinks : Nat := 40

/-- The route that a route leads to over at most so many links. -/
def follow (s : FileStore) : Nat → Route → Except SystemError Route
  | 0, route =>
    match s.node? route with
    | some (.link _) => .error .tooManyLinks
    | _ => .ok route
  | n + 1, route =>
    match s.node? route with
    | some (.link target) => s.follow n target
    | _ => .ok route

/-- Looks for what is at a route, behind the links there: its own route, and the node if there is
one. A name that is longer than any may be is refused. -/
def look (s : FileStore) (route : Route) : Except SystemError (Route × Option Node) :=
  -- The names before the last one have been looked for on the way.
  if route.getLast?.any (Path.maxNameBytes < ·.utf8ByteSize) then .error .nameTooLong
  else (s.follow maxLinks route).map fun route => (route, s.node? route)

/-- Puts a node at a route, in place of what was there. -/
def put (s : FileStore) (route : Route) (node : Node) : FileStore :=
  { s with nodes := (route, node) :: s.nodes.filter (·.1 != route) }

/-- Walks from a directory through the directories that `parts` names. -/
def walk (s : FileStore) (directory : Route) : List String → Except SystemError Route
  | [] => .ok directory
  | part :: parts =>
    if part = "." then s.walk directory parts
    else if part = ".." then s.walk directory.dropLast parts
    else
      match s.look (directory ++ [part]) with
      | .ok (route, some .directory) => s.walk route parts
      | .ok (_, some _) => .error .notADirectory
      | .ok (_, none) => .error .notFound
      | .error e => .error e

/-- The route that a path spells. The node at its end may be missing; what comes before may not. -/
def locate (s : FileStore) (p : Path) : Except SystemError Route := do
  let start := if p.fromRoot then [] else s.working
  match p.parts.getLast? with
  | none => return start
  | some last =>
    let directory ← s.walk start p.parts.dropLast
    if last = "." then return directory
    else if last = ".." then return directory.dropLast
    else return directory ++ [last]

/-- The route of what the text of a path names, or of what it would name if it were there. -/
def leadsTo (s : FileStore) (path : String) : Except SystemError Route := do
  let p ← Path.ofText path
  let route ← s.locate p
  let (route, _) ← s.look route
  return route

/-- What a path names. -/
def find (s : FileStore) (path : String) : Except SystemError Node := do
  let p ← Path.ofText path
  let route ← s.locate p
  match ← s.look route with
  | (_, none) => throw .notFound
  | (_, some .directory) => return .directory
  | (_, some node) => if p.closed then throw .notADirectory else return node

/-- The contents of the regular file that a path names. -/
def contents? (s : FileStore) (path : String) : Option ByteArray :=
  match s.find path with
  | .ok (.file contents) => some contents
  | _ => none

/-- What the system refuses to do with the file that a path names. -/
def accessTo (s : FileStore) (path : String) : Access :=
  match s.leadsTo path with
  | .ok route => s.access route
  | .error _ => {}

/-- A file or a device that has been opened to be written from its start. -/
inductive Opened where
  | file (route : Route)
  | device (full : Bool)

/-- Opens the regular file at a route, empty, unless the system refuses that. -/
def openFile (s : FileStore) (route : Route) : Except SystemError (Opened × FileStore) :=
  match (s.access route).unwritable? with
  | some e => .error e
  | none => .ok (.file route, s.put route (.file .empty))

/-- Opens the file that a path names, making it if it is not there. A path that a slash ends asks
for a directory, and none can be opened. -/
def create (s : FileStore) (path : String) : Except SystemError (Opened × FileStore) := do
  let p ← Path.ofText path
  let route ← s.locate p
  if p.closed then throw .isADirectory
  match ← s.look route with
  | (route, some (.file _)) => s.openFile route
  | (_, some .fullDevice) => return (.device true, s)
  | (_, some .device) => return (.device false, s)
  | (_, some _) => throw .isADirectory
  | (route, none) =>
    -- A link may lead to where there is no directory to make a file in.
    match s.node? route.dropLast with
    | some .directory => s.openFile route
    | _ => throw .notFound

/-- The sink that an opened file is. -/
def sink (s : FileStore) : Opened → Sink
  | .file route => (s.access route).sink
  | .device true => .limited 0 (.refuses (.system .noSpace)) fun _ => none
  | .device false => .unlimited

/-- Keeps what an opened file has taken. -/
def keep (s : FileStore) (taken : ByteArray) : Opened → FileStore
  | .file route => s.put route (.file taken)
  | .device _ => s

end FileStore

end SyntaxOutline
